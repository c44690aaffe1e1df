import TuiChat.Client.Events
import TuiChat.Client.Screen

/-!
# The terminal

`handle_terminal_event` of `app.rs` and what it calls: every key, click, paste and resize, over the
running client. A handler works on the screen and performs actions of the client; it ends well, fails
with an error, or panics. `Terminal.performed` records the actions, newest first. No method reads it.
-/

namespace TuiChat

open Lib
open Lib.Wire (utf8)

/-- What the terminal is drawn and edited with. -/
structure ScreenEnvironment where
  seg : Segmentation
  /-- `str::to_lowercase`. -/
  toLowercase : List Char → List Char
  /-- Whether a statement on `ui_preferences` succeeds, by the number of those before it. -/
  saves : Nat → Bool
  /-- `ratatui`'s split of the screen into the panes, a composer of a height and the status line. -/
  splitOuter : Rect → Nat → Rect × Rect × Rect
  /-- Its split into the sidebar and the messages. -/
  splitMain : Rect → Rect × Rect
  /-- Its split of the sidebar into the tabs and the list. -/
  splitSidebar : Rect → Rect × Rect

structure Screen where
  editor : EditorState
  focus : FocusPane
  sidebarTab : SidebarTab
  sidebarCollapsed : Bool
  theme : UiTheme
  completion : CompletionState
  emojiPicker : EmojiPickerState
  helpVisible : Bool
  redrawRequested : Bool
  contactScroll : Nat
  notificationScroll : Nat
  messageScroll : Nat
  newMessagesBelow : Nat
  layout : UiLayout
  areas : Areas
  deleteConfirmation : Option DeleteConfirmation
  deviceManagerVisible : Bool
  ownDevices : List OwnDeviceInfo
  ownDeviceSelected : Nat
  dragging : Option DragTarget
  mouseEnabled : Bool
  quit : Bool

/-- Why a handler did not end well. -/
inductive Stop
  | failed (e : Error)
  | panicked
deriving DecidableEq, Repr

structure Terminal (P : Primitives) where
  world : World P
  screen : Screen
  /-- The table `ui_preferences`. -/
  preferences : Table (Prod.fst : String × String → String)
  /-- The number of statements on that table so far. -/
  statements : Nat
  performed : List Action
  /-- What ended the event loop, if it did not end well. -/
  stopped : Option Stop

abbrev TermM (P : Primitives) := Prog (Terminal P) Stop

variable {P : Primitives}

/-! ## Effects -/

/-- What was recorded since a state. -/
def World.since (w w' : World P) : List Event := w'.log.take (w'.log.length - w.log.length)

/-- Opening or closing a conversation. -/
def Event.opens : Event → Bool
  | .opened _ => true
  | _ => false

/-- Loading the messages and the draft of a conversation. -/
def Event.loads : Event → Bool
  | .opened (some _) => true
  | _ => false

def Event.loadsContacts : Event → Bool
  | .contactsLoaded _ => true
  | _ => false

/-- The screen after a method that took `w` to `w'`: a draft it loaded, or clearing, replaces the text and
puts the cursor at its end, and loaded messages are shown from the bottom. -/
def Screen.follow (s : Screen) (w w' : World P) : Screen :=
  let s := if w'.app.editor = w.app.editor ∧ (w.since w').any Event.opens = false then s
    else { s with editor := s.editor.set w'.app.editor.toList }
  if (w.since w').any Event.loads then { s with messageScroll := 0, newMessagesBelow := 0 } else s

def getScreen {α : Type} (f : Screen → α) : TermM P α := Prog.gets fun t => f t.screen

def modifyScreen (f : Screen → Screen) : TermM P Unit := Prog.modify fun t => { t with screen := f t.screen }

/-- `self.status = ..`. -/
def inform (status : String) : TermM P Unit :=
  Prog.modify fun t => { t with world := { t.world with app := { t.world.app with status } } }

/-- `if let Err(error) = m { self.status = text(error) }`, and whether `m` ended well. -/
def reporting (text : Error → String) (m : TermM P Unit) : TermM P Bool := fun t =>
  match m t with
  | (.ok _, t') => (.ok true, t')
  | (.error (.failed e), t') => (inform (text e) >>= fun _ => pure false) t'
  | (.error .panicked, t') => (.error .panicked, t')

/-- The client does something; its error is the handler's. -/
def perform (env : Environment) (a : Action) : TermM P Unit := fun t =>
  let (r, w) := (runAction env a).exec t.world
  (r.mapError .failed, { t with
    world := w
    screen := t.screen.follow t.world w
    performed := a :: t.performed })

/-- The text and the cursor change. -/
def writeText (e : EditorState) : TermM P Unit := Prog.modify fun t =>
  { t with
    world := { t.world with app := { t.world.app with editor := String.ofList e.text } }
    screen := { t.screen with editor := e } }

def edit (op : EditorState → Option EditorState) : TermM P Unit := do
  writeText (← Prog.orFail (op (← getScreen Screen.editor)) .panicked)

section

variable (env : Environment) (senv : ScreenEnvironment)

/-- `save_ui_preference`. -/
def savePreference (key value : String) : TermM P Unit := do
  let n ← Prog.gets Terminal.statements
  Prog.modify fun t => { t with statements := n + 1 }
  Prog.ensure (senv.saves n = true) (.failed "database error")
  Prog.modify fun t => { t with preferences := t.preferences.put (key, value) }

/-! ## Completion -/

def refreshCompletion : TermM P Unit := Prog.modify fun t =>
  let input := t.screen.editor.text
  let completion : CompletionState :=
    if t.screen.editor.cursor ≠ byteLength input ∨ stripPrefix? "/" input = none ∨ stripPrefix? "//" input ≠ none then
      .closed
    else
      let candidates := completions (t.world.app.contacts.map fun c => c.bundle.username)
        t.world.app.pairingRequests input
      { candidates
        selected := (t.screen.completion.selected?.bind fun old => candidates.findIdx? fun c => c = old).getD 0 }
  { t with screen := { t.screen with completion } }

def closeCompletion : TermM P Unit := modifyScreen fun s => { s with completion := .closed }

def cycleCompletion (direction : Int) : TermM P Unit :=
  modifyScreen fun s => { s with completion := s.completion.cycle direction }

def applyCompletion : TermM P Unit := do
  match ← getScreen fun s => s.completion.selected? with
  | some candidate => edit fun e => some (e.set candidate.toList)
  | none => pure ()

/-- `editor.insert(value, MAX_TEXT_BYTES)`. -/
def insertText (value : List Char) : TermM P Bool := do
  let (whole, e) ← Prog.orFail ((← getScreen Screen.editor).insert senv.seg value maxTextBytes) .panicked
  writeText e
  pure whole

/-! ## The rows of messages -/

/-- The text of a message as it is shown. -/
def renderedMessage (t : Terminal P) (m : ChatMessage) : List Char :=
  let peerName := (t.world.app.selectedContact.map fun c => c.bundle.username).getD "对方"
  (messagePrompt t.screen.theme t.world.app.profile.username peerName m.inbound).toList ++
    sanitizeTerminalText m.body.toList ++ (messageStatusSuffix t.screen.theme m.status).toList

def visualLinesForMessages (messages : List ChatMessage) : TermM P Nat := do
  let t ← Prog.gets id
  let width := max (t.screen.layout.messages.width - 2) 1
  let lines ← Prog.orFail (messages.mapM fun m => editorVisualLineCount senv.seg (renderedMessage t m) width) .panicked
  pure lines.sum

def messageScrollMaximum : TermM P Nat := do
  let lines ← visualLinesForMessages senv (← Prog.gets fun t => t.world.app.messages)
  let height ← getScreen fun s => s.layout.messages.height
  pure (lines - max (height - 2) 1)

/-- Scroll to a row from the bottom, at which nothing new is below. -/
def scrollTo (messageScroll : Nat) : TermM P Unit := modifyScreen fun s =>
  { s with
    messageScroll
    newMessagesBelow := if messageScroll = 0 then 0 else s.newMessagesBelow }

def scrollMessages (delta : Int) : TermM P Unit := do
  let maximum ← messageScrollMaximum senv
  let scroll ← getScreen Screen.messageScroll
  scrollTo (if delta ≥ 0 then min (scroll + delta.toNat) maximum else scroll - delta.natAbs)

def scrollMessagesToBottom : TermM P Unit := modifyScreen fun s => { s with messageScroll := 0, newMessagesBelow := 0 }

def scrollMessagesToTop : TermM P Unit := do
  let maximum ← messageScrollMaximum senv
  modifyScreen fun s => { s with messageScroll := maximum }

/-- `load_older_messages`, once the messages are scrolled to their top. -/
def loadOlder : TermM P Unit := do
  let before ← Prog.gets fun t => t.world.app.messages
  let exhausted ← Prog.gets fun t => t.world.app.historyExhausted
  if exhausted = true ∨ before = [] then pure ()
  else
    let maximum ← messageScrollMaximum senv
    if (← getScreen Screen.messageScroll) < maximum then pure ()
    else
      perform env .loadOlderMessages
      let after ← Prog.gets fun t => t.world.app.messages
      let older := after.take (after.length - before.length)
      if older = [] then pure ()
      else
        let lines ← visualLinesForMessages senv older
        let maximum ← messageScrollMaximum senv
        modifyScreen fun s =>
          { s with messageScroll := min (s.messageScroll + min lines (max (s.layout.messages.height - 2) 1)) maximum }
        inform ("已加载更早的 " ++ toString older.length ++ " 条消息")

/-- The last loaded message that holds the text comes to the bottom. -/
def searchLoadedMessages (query : List Char) : TermM P Unit := do
  Prog.ensure (query ≠ []) (.failed "搜索关键词不能为空")
  let query := senv.toLowercase query
  let messages ← Prog.gets fun t => t.world.app.messages
  let last := messages.reverse.findIdx? fun m => textContains (senv.toLowercase m.body.toList) query
  let below ← Prog.orFail last (.failed "当前已加载的消息中没有匹配项；可先 PageUp 加载更早历史")
  let messageScroll ← visualLinesForMessages senv (messages.drop (messages.length - below))
  modifyScreen fun s => { s with messageScroll, focus := .messages }
  inform ("已定位匹配消息（" ++ toString (messages.length - below) ++ "/" ++ toString messages.length ++ ")")

/-! ## The emoji picker -/

def emojiMatches : TermM P (List Nat) := getScreen fun s => matchingEmojis senv.toLowercase s.emojiPicker.query

def modifyPicker (f : EmojiPickerState → EmojiPickerState) : TermM P Unit :=
  modifyScreen fun s => { s with emojiPicker := f s.emojiPicker }

def hideEmojiPicker : TermM P Unit := modifyScreen fun s =>
  { s with
    emojiPicker := { s.emojiPicker with visible := false }
    areas := { s.areas with emojiPicker := .empty, emojiGrid := .empty } }

def appendEmojiQuery (text : List Char) : TermM P Unit := modifyPicker fun picker =>
  { picker with query := appendQuery picker.query (senv.seg.graphemes text), selected := 0, scroll := 0 }

def openEmojiPicker (query : List Char) : TermM P Unit := do
  modifyPicker fun picker => { picker with visible := true, query := [] }
  appendEmojiQuery senv query
  modifyScreen fun s => { s with completion := .closed, focus := .composer }
  inform "输入中文或英文搜索 Emoji；Enter 或点击插入"

def cycleEmoji (direction : Int) : TermM P Unit := do
  let count := (← emojiMatches senv).length
  modifyPicker fun picker =>
    if count = 0 then { picker with selected := 0, scroll := 0 }
    else { picker with selected := cycled picker.selected direction count }

def insertSelectedEmoji : TermM P Unit := do
  let indices ← emojiMatches senv
  match indices[(← getScreen fun s => s.emojiPicker.selected)]? with
  | none => inform "没有匹配的 Emoji"
  | some index =>
    let emoji ← Prog.orFail emojiCatalog[index]? .panicked
    let whole ← insertText senv emoji.glyph.toList
    inform (if whole then "已插入 " ++ emoji.glyph ++ " " ++ emoji.name else "消息已达到 16 KiB，无法继续插入")
    hideEmojiPicker
    modifyScreen fun s => { s with focus := .composer }
    refreshCompletion

/-- The last grapheme of the query goes. -/
def shortenEmojiQuery : TermM P Unit := do
  let query ← getScreen fun s => s.emojiPicker.query
  let query ← match (indicesFrom 0 (senv.seg.graphemes query)).getLast? with
    | none => pure query
    | some (index, _) => Prog.orFail (sliceTo query index) .panicked
  modifyPicker fun picker => { picker with query, selected := 0, scroll := 0 }

def handleEmojiKey (key : KeyEvent) : TermM P Unit := do
  let columns : Int := max (← getScreen fun s => s.emojiPicker.columns) 1
  let page : Int := max (← getScreen fun s => s.emojiPicker.pageSize) 1
  match key.code with
  | .esc => hideEmojiPicker
  | .enter => insertSelectedEmoji senv
  | .left | .backTab => cycleEmoji senv (-1)
  | .right | .tab => cycleEmoji senv 1
  | .up => cycleEmoji senv (-columns)
  | .down => cycleEmoji senv columns
  | .pageUp => cycleEmoji senv (-page)
  | .pageDown => cycleEmoji senv page
  | .backspace => shortenEmojiQuery senv
  | .char c =>
    if c = 'u' ∧ key.control = true then modifyPicker fun picker => { picker with query := [], selected := 0, scroll := 0 }
    else if key.control = true ∨ key.alt = true then pure ()
    else appendEmojiQuery senv [c]
  | _ => pure ()

/-! ## Themes and the sidebar -/

def setTheme (name : List Char) : TermM P Unit := do
  let theme ← Prog.orFail (UiTheme.parse name) (.failed
    ("未知主题“" ++ String.ofList (trimText name) ++ "”；可用主题：" ++ UiTheme.available))
  savePreference senv "theme" theme.name
  modifyScreen fun s => { s with theme, redrawRequested := true }
  inform ("已切换到 " ++ theme.name ++ " 主题，并保存为本机默认设置")

def setSidebarCollapsed (collapsed : Bool) : TermM P Unit := do
  savePreference senv "sidebar_collapsed" (if collapsed then "true" else "false")
  modifyScreen fun s =>
    { s with
      sidebarCollapsed := collapsed
      focus := if collapsed = true ∧ s.focus = .conversations then .messages
        else if collapsed = false ∧ s.layout.narrow = true then .conversations else s.focus
      redrawRequested := true }
  inform (if collapsed then "已收起会话侧边栏；点击 [▶] 或执行 /sidebar 重新展开" else "已展开会话侧边栏")

def toggleSidebar : TermM P Unit := do setSidebarCollapsed senv (!(← getScreen Screen.sidebarCollapsed))

/-! ## The device manager -/

/-- Ask for the list of the own devices. -/
def listOwnDevices : ClientM P Unit := do
  let id ← newUuid env
  dispatchBackground env (frame id .listOwnDevices) .deviceList
  setStatus "正在后台刷新设备列表…"

def refreshOwnDevices : TermM P Unit := fun t =>
  let (r, w) := (listOwnDevices env).exec t.world
  (r.mapError .failed, { t with world := w })

def openDeviceManager : TermM P Unit := do
  let supported ← Prog.gets fun t => decide ("own_devices_v1" ∈ t.world.app.profile.serverCapabilities)
  Prog.ensure (supported = true) (.failed "当前服务端不支持客户端设备管理，请使用服务端 device 命令")
  refreshOwnDevices env
  modifyScreen fun s =>
    { s with
      deviceManagerVisible := true
      helpVisible := false
      emojiPicker := { s.emojiPicker with visible := false }
      completion := .closed }
  inform "设备管理：↑/↓ 选择，x 撤销，r 刷新，Esc 关闭"

def closeDeviceManager : TermM P Unit := do
  modifyScreen fun s =>
    { s with
      deviceManagerVisible := false
      areas := { s.areas with
        ownDeviceList := .empty, ownDeviceClose := .empty, ownDeviceRefresh := .empty, ownDeviceRevoke := [] } }
  inform "已关闭设备管理"

/-- Open the dialog for a target. -/
def askToDelete (target : DeleteTarget) : TermM P Unit :=
  modifyScreen fun s => { s with deleteConfirmation := some { target, confirmSelected := false } }

def requestRevokeSelectedDevice : TermM P Unit := do
  match ← getScreen fun s => s.ownDevices[s.ownDeviceSelected]? with
  | none => pure ()
  | some device =>
    if device.current then inform "当前设备不能撤销自身"
    else if device.revoked then inform "该设备已经被撤销"
    else
      askToDelete (.device device.deviceId device.deviceName)
      inform ("确认是否撤销设备 " ++ device.deviceName)

def selectOwnDevice (f : Nat → Nat → Nat) : TermM P Unit :=
  modifyScreen fun s => { s with ownDeviceSelected := f s.ownDeviceSelected (s.ownDevices.length - 1) }

def ownDeviceUp : TermM P Unit := selectOwnDevice fun selected _ => selected - 1

def ownDeviceDown : TermM P Unit := selectOwnDevice fun selected last => min (selected + 1) last

/-- A key while the device manager is shown. -/
def deviceManagerKey (code : KeyCode) : TermM P Unit :=
  match code with
  | .esc | .char 'q' => closeDeviceManager
  | .up | .char 'k' => ownDeviceUp
  | .down | .char 'j' => ownDeviceDown
  | .char 'r' => do
    let _ ← reporting (fun e => "刷新设备失败：" ++ e) (refreshOwnDevices env)
  | .char 'x' | .delete => requestRevokeSelectedDevice
  | _ => pure ()

/-! ## Deleting -/

def requestDeleteConversation (index : Nat) : TermM P Unit := do
  match ← Prog.gets fun t => t.world.app.contacts[index]? with
  | none => pure ()
  | some contact =>
    askToDelete (.conversation contact.bundle.accountId contact.bundle.username)
    closeCompletion
    inform ("确认是否删除与 " ++ contact.bundle.username ++ " 的本机会话")

def requestDeleteNotification (index : Nat) : TermM P Unit := do
  match ← Prog.gets fun t => t.world.app.notifications[index]? with
  | none => pure ()
  | some n =>
    askToDelete (.notification n.id (n.kind.deleteTitle ++ " · " ++ n.actorUsername) n.requestId)
    closeCompletion
    inform "确认是否删除这条本机通知"

/-- The dialog goes. -/
def dropDialog : TermM P Unit := modifyScreen fun s =>
  { s with
    deleteConfirmation := none
    areas := { s.areas with deleteConfirm := .empty, deleteCancel := .empty } }

def cancelDelete : TermM P Unit := do
  dropDialog
  inform "已取消删除"

/-- What confirming the dialog of a target does. -/
def DeleteTarget.action : DeleteTarget → Action
  | conversation accountId username => .deleteConversation accountId username
  | notification notificationId title requestId => .deleteNotification notificationId title requestId
  | device deviceId deviceName => .revokeDevice deviceId deviceName

/-- A conversation that was closed leaves nothing to scroll in; the list stays where it is, within the contacts
that are left. -/
def afterDelete (target : DeleteTarget) (before : World P) (t : Terminal P) : Terminal P :=
  match target with
  | .conversation .. =>
    let s := if .opened none ∈ before.since t.world then { t.screen with messageScroll := 0, newMessagesBelow := 0 }
      else t.screen
    { t with screen := if (before.since t.world).any Event.loadsContacts then
        { s with contactScroll := min s.contactScroll (t.world.app.contacts.length - 1) } else s }
  | _ => t

def confirmDelete : TermM P Unit := do
  match ← getScreen Screen.deleteConfirmation with
  | none => pure ()
  | some dialog =>
    let before ← Prog.gets Terminal.world
    Prog.onError (perform env dialog.target.action) (afterDelete dialog.target before)
    Prog.modify (afterDelete dialog.target before)
    dropDialog

def confirmReporting : TermM P Unit := do
  let _ ← reporting (fun e => "删除失败：" ++ e) (confirmDelete env)

def handleDeleteConfirmationKey (code : KeyCode) : TermM P Unit :=
  match code with
  | .left | .right | .tab | .backTab => modifyScreen fun s =>
    { s with deleteConfirmation := s.deleteConfirmation.map fun d => { d with confirmSelected := !d.confirmSelected } }
  | .char 'y' => confirmReporting env
  | .char 'n' | .esc => cancelDelete
  | .enter => do
    if ← getScreen fun s => s.deleteConfirmation.any DeleteConfirmation.confirmSelected then confirmReporting env
    else cancelDelete
  | _ => pure ()

/-! ## Notifications -/

/-- `(selected + direction).clamp(0, len - 1)`. -/
def clamped (selected : Nat) (direction : Int) (len : Nat) : Nat :=
  (max 0 (min ((selected : Int) + direction) ((len : Int) - 1))).toNat

def selectNotificationRelative (direction : Int) : TermM P Unit := do
  let app ← Prog.gets fun t => t.world.app
  if app.notifications = [] then
    Prog.modify fun t => { t with world := { t.world with app := { t.world.app with notificationSelected := none } } }
  else perform env (.selectNotification (clamped (app.notificationSelected.getD 0) direction app.notifications.length))

/-- The sidebar, or the pane that stands for it while it is collapsed. -/
def Screen.sidebarPane (s : Screen) : FocusPane := if s.sidebarCollapsed then .messages else .conversations

def showNotificationTab : TermM P Unit := do
  modifyScreen fun s => { s with sidebarTab := .notifications, focus := s.sidebarPane }
  perform env .openNotificationTab

def showConversationTab : TermM P Unit :=
  modifyScreen fun s => { s with sidebarTab := .conversations, focus := s.sidebarPane }

/-- Accepting a request and verifying its account lead to the notifications. -/
def Notification.leadsToNotifications (n : Notification) : Bool :=
  match n.kind, n.data with
  | .chatResponse, _ => n.state = .accepted
  | .chatRequest, .chatRequest outgoing .. => !outgoing
  | _, _ => false

def activatePrimary : TermM P Unit := do
  let selected ← Prog.gets fun t => t.world.app.selectedNotification
  perform env .activateNotificationPrimary
  if selected.any Notification.leadsToNotifications then
    modifyScreen fun s => { s with sidebarTab := .notifications, focus := .conversations }

/-! ## Commands -/

/-- `/retry`, with how many messages it sends again. -/
def retryAll : TermM P Unit := do
  let count ← Prog.gets fun t => t.world.app.blockedOutbox.length + t.world.app.outboxRetryAfter.rows.length
  perform env .retry
  inform ("已重新启用 " ++ toString count ++ " 条本地发件箱消息的发送")

def sidebarCommand (action : List Char) : TermM P Unit :=
  let action := String.ofList (toAsciiLowercase (trimText action))
  if action ∈ ["hide", "collapse", "收起"] then setSidebarCollapsed senv true
  else if action ∈ ["show", "expand", "展开"] then setSidebarCollapsed senv false
  else if action ∈ ["toggle", "切换"] then toggleSidebar senv
  else Prog.fail (.failed "未知侧边栏操作；可用：hide、show、toggle")

/-- The command or the message that a text is. -/
def inputCommand (input : List Char) : TermM P Unit :=
  let trimmed := trimText input
  if trimmed = "/quit".toList ∨ trimmed = "/exit".toList then modifyScreen fun s => { s with quit := true }
  else if trimmed = "/help".toList then modifyScreen fun s => { s with helpVisible := true }
  else if trimmed = "/emoji".toList then openEmojiPicker senv []
  else if let some query := stripPrefix? "/emoji " trimmed then openEmojiPicker senv (trimText query)
  else if trimmed = "/theme".toList then do
    let theme ← getScreen Screen.theme
    inform ("当前主题：" ++ theme.name ++ "；可用主题：" ++ UiTheme.available ++ "；使用 /theme <名称> 切换")
  else if let some name := stripPrefix? "/theme " trimmed then setTheme senv name
  else if trimmed = "/sidebar".toList then toggleSidebar senv
  else if let some action := stripPrefix? "/sidebar " trimmed then sidebarCommand senv action
  else if trimmed = "/devices".toList then openDeviceManager env
  else if trimmed = "/verify".toList then perform env .verifySelected
  else if trimmed = "/confirm".toList then perform env .confirmPairing
  else if trimmed = "/pair".toList then perform env (.startPairing none)
  else if let some device := stripPrefix? "/pair " trimmed then
    perform env (.startPairing (some (String.ofList (trimText device))))
  else if trimmed = "/sync".toList then perform env .sync
  else if trimmed = "/retry".toList then retryAll env
  else if let some query := stripPrefix? "/search " trimmed then searchLoadedMessages senv (trimText query)
  else if let some username := stripPrefix? "/chat " trimmed then
    perform env (.openContact (String.ofList (trimText username)))
  else if let some message := stripPrefix? "//" input then perform env (.sendText (String.ofList ('/' :: message)))
  else if stripPrefix? "/" trimmed ≠ none then
    Prog.fail (.failed "未知命令；输入 /help 查看命令，使用 // 发送以 / 开头的消息")
  else perform env (.sendText (String.ofList input))

def executeInput (input : List Char) : TermM P Bool := reporting (fun e => "错误：" ++ e) (inputCommand env senv input)

/-! ## Keys -/

/-- `Ctrl-C` and `Ctrl-Q`. -/
def KeyEvent.quits (key : KeyEvent) : Bool := key.control && (key.code = .char 'c' || key.code = .char 'q')

def editAndComplete (op : EditorState → Option EditorState) : TermM P Unit := do
  edit op
  refreshCompletion

/-- Text goes to the composer. -/
def typeText (value : List Char) : TermM P Unit := do
  modifyScreen fun s => { s with focus := .composer }
  let _ ← insertText senv value

def toggleEmojiPicker : TermM P Unit := do
  if ← getScreen fun s => s.emojiPicker.visible then hideEmojiPicker else openEmojiPicker senv []

def selectInList (direction : Int) : TermM P Unit := do
  if ← getScreen fun s => decide (s.sidebarTab = .notifications) then selectNotificationRelative env direction
  else perform env (.selectRelative direction)

/-- What a key with `Alt` does, if it is one of those. -/
def altKey (code : KeyCode) : Option (TermM P Unit) :=
  let selectSidebar (direction : Int) : TermM P Unit := do
    if ← getScreen fun s => s.sidebarTab = .notifications && (s.focus = .conversations || s.sidebarCollapsed) then
      selectNotificationRelative env direction
    else perform env (.selectRelative direction)
  match code with
  | .up => some (selectSidebar (-1))
  | .down => some (selectSidebar 1)
  | .char 'n' => some (showNotificationTab env)
  | .char 'c' => some showConversationTab
  | .backspace => some (editAndComplete fun e => e.deleteWordBackward senv.seg)
  | .enter => some do
    typeText senv ['\n']
    refreshCompletion
  | _ => none

def tabKey (backwards : Bool) : TermM P Unit := do
  let s ← getScreen id
  if s.focus = .composer ∧ s.completion.isOpen = true then
    let applied := s.completion.selected?.any fun candidate => candidate.toList = s.editor.text
    if applied = true ∨ backwards = true then cycleCompletion (if backwards then -1 else 1)
    applyCompletion
  else modifyScreen fun s =>
    { s with focus :=
        if s.sidebarCollapsed then (if s.focus = .messages then .composer else .messages)
        else if backwards then s.focus.previous else s.focus.next }

/-- A new connection is asked for; whether it comes is an event of its own. -/
def tryReconnect : TermM P Unit := do
  if ← Prog.gets fun t => t.world.app.profile.pending then
    inform "设备仍在等待批准；请保持客户端运行以继续配对"
  else inform "正在后台重新连接…"

def syncOrReconnect : TermM P Unit := do
  if ← Prog.gets fun t => t.world.app.connected then perform env .sync else tryReconnect

/-- What a key with `Ctrl` does, if it is one of those. -/
def controlKey (code : KeyCode) (s : Screen) : Option (TermM P Unit) :=
  match code with
  | .char 'a' => some (edit fun e => some e.moveStart)
  | .char 'e' => some (edit fun e => some e.moveEnd)
  | .char 'w' => some (edit fun e => e.deleteWordBackward senv.seg)
  | .char 'u' => some (edit fun e => e.deleteToLineStart)
  | .char 'd' => some (edit fun e => e.deleteForward senv.seg)
  | .char 'k' => some do
    modifyScreen fun s => { s with focus := .composer }
    editAndComplete fun e => some (e.set "/".toList)
  | .char 'f' => some do
    modifyScreen fun s => { s with focus := .composer }
    editAndComplete fun e => some (e.set "/search ".toList)
    inform "输入关键词后按 Enter，搜索当前已加载的会话历史"
  | .char 'r' => some (syncOrReconnect env)
  | .char 'l' => some (modifyScreen fun s => { s with redrawRequested := true })
  | .char 'n' => some (if s.completion.isOpen then cycleCompletion 1 else showNotificationTab env)
  | .char 'p' => if s.completion.isOpen then some (cycleCompletion (-1)) else none
  | .home => if s.focus = .messages then some do
      scrollMessagesToTop senv
      loadOlder env senv
    else none
  | .lineEnd => if s.focus = .messages then some scrollMessagesToBottom else none
  | _ => none

/-- The list of notifications has the keys. -/
def Screen.onNotifications (s : Screen) : Bool :=
  (s.focus = .conversations || (s.sidebarCollapsed && s.focus = .messages)) && s.sidebarTab = .notifications

/-- `x` in the sidebar: the dialog for what is selected. -/
def requestDeleteSelected : TermM P Unit := do
  let t ← Prog.gets id
  match t.screen.sidebarTab with
  | .conversations => t.world.app.selected.elim (pure ()) requestDeleteConversation
  | .notifications => t.world.app.notificationSelected.elim (pure ()) requestDeleteNotification

/-- `Enter` in the composer: a completion that is not taken yet, or the text itself. -/
def enterKey : TermM P Unit := do
  let s ← getScreen id
  if s.completion.isOpen = true ∧ (s.completion.selected?.any fun candidate => candidate.toList ≠ s.editor.text) = true then
    applyCompletion
  else if trimText s.editor.text = [] then pure ()
  else
    let done ← executeInput env senv s.editor.text
    if done then
      if stripPrefix? "/chat " (trimStart s.editor.text) = none then edit fun e => some e.clear
      closeCompletion

def upKey : TermM P Unit := do
  match ← getScreen Screen.focus with
  | .conversations => selectInList env (-1)
  | .messages =>
    scrollMessages senv 3
    loadOlder env senv
  | .composer => edit fun e => e.moveVertical senv.seg (-1)

def downKey : TermM P Unit := do
  match ← getScreen Screen.focus with
  | .conversations => selectInList env 1
  | .messages => scrollMessages senv (-3)
  | .composer => edit fun e => e.moveVertical senv.seg 1

/-- `PageUp` and `PageDown` scroll by the height of the messages. -/
def pageKey (up : Bool) : TermM P Unit := do
  modifyScreen fun s => { s with focus := .messages }
  let height : Nat ← getScreen fun s => s.layout.messages.height - 3
  if up then
    scrollMessages senv height
    loadOlder env senv
  else scrollMessages senv (-height)

/-- A key without `Ctrl` and `Alt`. -/
def plainKey (key : KeyEvent) (s : Screen) : TermM P Unit :=
  match key.code with
  | .char c =>
    if c = 'x' ∧ (s.focus = .conversations ∨ s.onNotifications = true) then requestDeleteSelected
    else if c = 'r' ∧ s.onNotifications = true then perform env .rejectSelectedChatRequest
    else if c = 'd' ∧ s.onNotifications = true then perform env .dismissSelectedNotification
    else do
      typeText senv [c]
      refreshCompletion
  | .enter =>
    if s.onNotifications then activatePrimary env
    else if key.shift then typeText senv ['\n']
    else enterKey env senv
  | .backspace => editAndComplete fun e => e.deleteBackward senv.seg
  | .delete => editAndComplete fun e => e.deleteForward senv.seg
  | .left => edit fun e => e.moveLeft senv.seg
  | .right => edit fun e => e.moveRight senv.seg
  | .home => edit fun e => e.moveLineStart
  | .lineEnd => if s.focus = .messages then scrollMessagesToBottom else edit fun e => e.moveLineEnd
  | .up => if s.completion.isOpen then cycleCompletion (-1) else upKey env senv
  | .down => if s.completion.isOpen then cycleCompletion 1 else downKey env senv
  | .pageUp => pageKey env senv true
  | .pageDown => pageKey env senv false
  | .esc => if s.completion.isOpen then closeCompletion else modifyScreen fun s => { s with focus := .composer }
  | _ => pure ()

def handleKey (key : KeyEvent) : TermM P Unit := do
  let s ← getScreen id
  if key.kind ≠ .press then pure ()
  else if key.quits then modifyScreen fun s => { s with quit := true }
  else if s.deleteConfirmation.isSome then handleDeleteConfirmationKey env key.code
  else if s.deviceManagerVisible then deviceManagerKey env key.code
  else if key.alt = true ∧ key.code = .char 'e' then toggleEmojiPicker senv
  else if s.emojiPicker.visible then handleEmojiKey senv key
  else if key.code = .f 1 then modifyScreen fun s => { s with helpVisible := !s.helpVisible }
  else if s.helpVisible then
    if key.code = .esc then modifyScreen fun s => { s with helpVisible := false }
  else if let some m := (if key.alt then altKey env senv key.code else none) then m
  else if key.code = .tab ∨ key.code = .backTab then tabKey (key.code = .backTab || key.shift)
  else if key.control then
    match controlKey env senv key.code s with
    | some m => do
      m
      refreshCompletion
    | none => pure ()
  else plainKey env senv key s

/-! ## The mouse -/

/-- A difference of `u16`; a negative one panics. -/
def checkedSub (a b : Nat) : Option Nat := if b ≤ a then some (a - b) else none

def dragScrollbar (row : Nat) : TermM P Unit := do
  match ← getScreen Screen.dragging with
  | none => pure ()
  | some .conversations => Prog.modify fun t =>
    let s := t.screen
    let onContacts : Bool := s.sidebarTab = .conversations
    let inner := max (s.layout.conversations.height - 3) 1
    let relative := min (row - saturating s.layout.conversations.y 2) inner
    let items := if onContacts then t.world.app.contacts.length else t.world.app.notifications.length
    let value := (items - inner) * relative / inner
    { t with screen := { s with
        contactScroll := if onContacts then value else s.contactScroll
        notificationScroll := if onContacts then s.notificationScroll else value } }
  | some .messages =>
    let messages ← getScreen fun s => s.layout.messages
    let inner := max (messages.height - 2) 1
    let relative := min (row - saturating messages.y 1) inner
    let maximum ← messageScrollMaximum senv
    scrollTo (maximum - maximum * relative / inner)

/-- A click into the list of contacts or of notifications, or on its scrollbar. -/
def clickSidebar (column row : Nat) : TermM P Unit := do
  modifyScreen fun s => { s with focus := .conversations }
  let t ← Prog.gets id
  let list := t.screen.layout.conversations
  if column = list.right - 1 then
    modifyScreen fun s => { s with dragging := some .conversations }
    dragScrollbar senv row
  else if saturating list.y 1 < row ∧ row < list.bottom - 1 then
    let line ← Prog.orFail (checkedSub row (list.y + 2)) .panicked
    if t.screen.sidebarTab = .conversations then perform env (.selectIndex (t.screen.contactScroll + line))
    else if t.screen.notificationScroll + line < t.world.app.notifications.length then
      perform env (.selectNotification (t.screen.notificationScroll + line))

/-- A click into the text puts the cursor there. -/
def clickComposer (column row : Nat) : TermM P Unit := do
  modifyScreen fun s => { s with focus := .composer }
  let s ← getScreen id
  let composer := s.layout.composer
  let wrapWidth := max (composer.width - 2) 1
  let position ← Prog.orFail (editorCursorPosition senv.seg s.editor.text s.editor.cursor wrapWidth) .panicked
  let innerHeight := max (composer.height - 2) 1
  let editorScroll := position.1 - (innerHeight - 1)
  edit fun e => some (e.setCursorByVisualPosition senv.seg (row - saturating composer.y 1 + editorScroll)
    (column - saturating composer.x 1) wrapWidth)

def leftClick (column row : Nat) : TermM P Unit := do
  let s ← getScreen id
  let hits (area : Rect) : Bool := area.contains column row
  if hits s.areas.sidebarToggle then toggleSidebar senv
  else if hits s.areas.emojiButton then openEmojiPicker senv []
  else if hits s.areas.conversationTab then
    modifyScreen fun s => { s with sidebarTab := .conversations, focus := .conversations }
  else if hits s.areas.notificationTab then showNotificationTab env
  else if hits s.areas.notificationPrimaryAction then activatePrimary env
  else if hits s.areas.notificationSecondaryAction then perform env .rejectSelectedChatRequest
  else if let some index := hitIndex s.areas.conversationDelete column row then requestDeleteConversation index
  else if let some index := hitIndex s.areas.notificationDelete column row then requestDeleteNotification index
  else if hits s.layout.conversations then clickSidebar env senv column row
  else if hits s.layout.messages then
    modifyScreen fun s => { s with focus := .messages }
    if column = s.layout.messages.right - 1 then
      modifyScreen fun s => { s with dragging := some .messages }
      dragScrollbar senv row
  else if hits s.layout.composer then clickComposer senv column row

/-- The end of a drag; the messages may have reached their top. -/
def releaseDrag : TermM P Unit := do
  let dragging ← getScreen Screen.dragging
  modifyScreen fun s => { s with dragging := none }
  if dragging = some .messages then loadOlder env senv

/-- The list in the sidebar scrolls by three. -/
def scrollSidebar (up : Bool) : TermM P Unit := Prog.modify fun t =>
  let s := t.screen
  let height := max (s.layout.conversations.height - 3) 1
  let moved (scroll items : Nat) : Nat := if up then scroll - 3 else min (scroll + 3) (items - height)
  { t with screen := if s.sidebarTab = .conversations then
      { s with contactScroll := moved s.contactScroll t.world.app.contacts.length }
    else { s with notificationScroll := moved s.notificationScroll t.world.app.notifications.length } }

def wheel (up : Bool) (column row : Nat) : TermM P Unit := do
  let layout ← getScreen Screen.layout
  if layout.conversations.contains column row then scrollSidebar up
  else if layout.messages.contains column row then
    if up then
      scrollMessages senv 3
      loadOlder env senv
    else scrollMessages senv (-3)

def clickDeviceManager (column row : Nat) : TermM P Unit := do
  let s ← getScreen id
  let list := s.areas.ownDeviceList
  if s.areas.ownDeviceClose.contains column row then closeDeviceManager
  else if s.areas.ownDeviceRefresh.contains column row then refreshOwnDevices env
  else if let some index := hitIndex s.areas.ownDeviceRevoke column row then
    modifyScreen fun s => { s with ownDeviceSelected := index }
    requestRevokeSelectedDevice
  else if list.contains column row then
    let index := (s.ownDeviceSelected - (list.height - 1)) + (row - list.y)
    if index < s.ownDevices.length then modifyScreen fun s => { s with ownDeviceSelected := index }

def handleDeviceManagerMouse (mouse : MouseEvent) : TermM P Unit :=
  match mouse.kind with
  | .down .left => clickDeviceManager env mouse.column mouse.row
  | .scrollUp => ownDeviceUp
  | .scrollDown => ownDeviceDown
  | _ => pure ()

/-- A click on an entry of the grid inserts it. -/
def clickEmoji (column row : Nat) : TermM P Unit := do
  let s ← getScreen id
  let grid := s.areas.emojiGrid
  let columns := max s.emojiPicker.columns 1
  Prog.ensure (columns % 65536 ≠ 0) .panicked
  let cellWidth := grid.width / (columns % 65536)
  let line ← Prog.orFail (checkedSub row grid.y) .panicked
  let offset ← Prog.orFail (checkedSub column grid.x) .panicked
  let selected := s.emojiPicker.scroll + line * columns + offset / max cellWidth 1
  if selected < (← emojiMatches senv).length then
    modifyPicker fun picker => { picker with selected }
    insertSelectedEmoji senv

def handleEmojiMouse (mouse : MouseEvent) : TermM P Unit := do
  let s ← getScreen id
  let columns : Int := max s.emojiPicker.columns 1
  if s.areas.emojiPicker.contains mouse.column mouse.row then
    match mouse.kind with
    | .scrollUp => cycleEmoji senv (-columns)
    | .scrollDown => cycleEmoji senv columns
    | .down .left => if s.areas.emojiGrid.contains mouse.column mouse.row then clickEmoji senv mouse.column mouse.row
    | _ => pure ()
  else if mouse.kind = .down .left then hideEmojiPicker

/-- A click while the dialog is open. -/
def clickDialog (column row : Nat) : TermM P Unit := do
  let areas ← getScreen Screen.areas
  if areas.deleteConfirm.contains column row then confirmReporting env
  else if areas.deleteCancel.contains column row then cancelDelete

def handleMouse (mouse : MouseEvent) : TermM P Unit := do
  let s ← getScreen id
  if s.deleteConfirmation.isSome then
    if mouse.kind = .down .left then clickDialog env mouse.column mouse.row
  else if s.deviceManagerVisible then handleDeviceManagerMouse env mouse
  else if s.emojiPicker.visible then handleEmojiMouse senv mouse
  else match mouse.kind with
    | .down .left => leftClick env senv mouse.column mouse.row
    | .drag .left => dragScrollbar senv mouse.row
    | .up .left => releaseDrag env senv
    | .scrollUp => wheel env senv true mouse.column mouse.row
    | .scrollDown => wheel env senv false mouse.column mouse.row
    | _ => pure ()

/-! ## Events -/

def paste (text : List Char) : TermM P Unit := do
  let s ← getScreen id
  if s.emojiPicker.visible then appendEmojiQuery senv text
  else if s.deviceManagerVisible || s.helpVisible || s.deleteConfirmation.isSome then pure ()
  else
    modifyScreen fun s => { s with focus := .composer }
    let whole ← insertText senv text
    if whole = false then inform "粘贴内容已截断到 16 KiB"
    refreshCompletion

def handleTerminalEvent (event : TerminalEvent) : TermM P Unit := do
  match event with
  | .focusGained => perform env .focusGained
  | .focusLost => perform env .focusLost
  | .key key => handleKey env senv key
  | .mouse mouse => if ← getScreen Screen.mouseEnabled then handleMouse env senv mouse
  | .paste text => paste senv text
  | .resize width height => modifyScreen fun s =>
    { s with layout := { s.layout with area := { s.layout.area with width, height } } }

end

end TuiChat
