import TuiChat.Client.Terminal

/-!
# Drawing, and the event loop

What `draw` of `app.rs` changes: the layout, the regions that can be clicked, and the scroll positions,
which follow the selections. What it writes into the frame is not part of the state. Then `terminalSystem`:
the event loop takes events of the terminal, draws, and lets the client handle what comes from the server
and from its timers, in any order, until the user quits or a handler does not end well.
-/

namespace TuiChat

open Lib

variable {P : Primitives} (env : Environment) (senv : ScreenEnvironment)

/-! ## The layout -/

/-- `text.lines().count().max(1)`. -/
def lineCount (text : List Char) : Nat :=
  max (text.count '\n' + if text.getLast? = none ∨ text.getLast? = some '\n' then 0 else 1) 1

/-- `UiLayout::calculate`. -/
def UiLayout.calculate (area : Rect) (focus : FocusPane) (editorLines : Nat) (sidebarCollapsed : Bool) : UiLayout :=
  let composerHeight := min (max ((editorLines % 65536 + 2) % 65536) 3) 7
  let outer := senv.splitOuter area composerHeight
  let narrow : Bool := area.width < 72
  let panes : Rect × Rect :=
    if sidebarCollapsed then (.empty, outer.1)
    else if narrow then (if focus = .conversations then (outer.1, .empty) else (.empty, outer.1))
    else senv.splitMain outer.1
  { area
    conversations := panes.1
    messages := panes.2
    composer := outer.2.1
    status := outer.2.2
    narrow }

/-- The scroll position from which a selected row is in sight. -/
def followed (selected : Option Nat) (scroll height : Nat) : Nat :=
  match selected with
  | none => scroll
  | some selected =>
    if selected < scroll then selected
    else if selected ≥ scroll + height then selected + 1 - height
    else scroll

/-! ## Regions -/

/-- `as u16`, of the columns that a text takes. -/
def displayWidth (text : String) : Nat := senv.seg.width text.toList % 65536

def sidebarTabAreas (area : Rect) (notificationLabel : String) : Rect × Rect :=
  let width := displayWidth senv "[会话]"
  let x := saturating (saturating area.x width) 2
  ({ x := area.x, y := area.y, width := min width area.width, height := 1 },
    { x, y := area.y, width := min (displayWidth senv ("[" ++ notificationLabel ++ "]")) (area.right - x), height := 1 })

def sidebarToggleArea (layout : UiLayout) (collapsed : Bool) : Rect :=
  let area := if collapsed then layout.messages else layout.conversations
  if area.width < 5 ∨ area.height = 0 then .empty else { x := area.right - 4, y := area.y, width := 3, height := 1 }

/-- The region of the button of a row of the list. -/
def deleteButton (body : Rect) (line : Nat) : Rect where
  x := body.right - 2
  y := saturating (saturating body.y 1) (line % 65536)
  width := 1
  height := 1

def listDeleteButtonAreas (body : Rect) (first count visibleHeight : Nat) : List (Nat × Rect) :=
  (List.range (min (count - first) visibleHeight)).map fun line => (first + line, deleteButton body line)

/-- The title of the composer, and where in it the button of the picker is. -/
def composerTitle (username : String) (availableWidth : Nat) (theme : UiTheme) : String × Nat × Nat :=
  let detailed := match theme with
    | .default => "输入 · @" ++ username ++ " · Enter 发送 · "
    | .terminal => username ++ "@tui-chat:~$ · Enter 发送 · "
  let compact := match theme with
    | .default => "@" ++ username ++ " · Enter 发送 · "
    | .terminal => username ++ ":~$ · Enter 发送 · "
  let choices : List (String × String × String) :=
    [ (detailed, "[😊 表情]", " · Shift-Enter 换行"), (detailed, "[😊 表情]", ""), (compact, "[😊 表情]", ""),
      ("Enter 发送 · ", "[😊 表情]", ""), ("Enter 发送 · ", "[😊]", ""), ("发送 · ", "[😊]", "") ]
  let fits (c : String × String × String) : Bool :=
    senv.seg.width c.1.toList + senv.seg.width c.2.1.toList + senv.seg.width c.2.2.toList ≤ availableWidth
  let choice := (choices.find? fits).getD ("", "[😊]", "")
  (choice.1 ++ choice.2.1 ++ choice.2.2, displayWidth senv choice.1, displayWidth senv choice.2.1)

def emojiButtonArea (t : Terminal P) (composer : Rect) : Rect :=
  let title := composerTitle senv t.world.app.profile.username (composer.width - 2) t.screen.theme
  let x := saturating (saturating composer.x 1) title.2.1
  { x, y := composer.y, width := min title.2.2 (composer.right - 1 - x), height := 1 }

/-- `should_offer_contact_verification`. -/
def shouldOfferContactVerification (n : Notification) (contact : Contact) : Bool :=
  n.kind = .chatResponse && n.state = .accepted && (!contact.verified || contact.identityChanged)

/-- The buttons of the details of a notification. -/
def notificationActions (app : App P) (n : Notification) : Option String × Option String :=
  let active := app.pairing.filter fun p => p.pairingId = n.requestId
  let pendingSide := match n.data with
    | .pairing pendingSide .. => pendingSide
    | _ => false
  match n.kind with
  | .pairing =>
    if notificationRequiresAction n.state = false ∨ active.any PairingSession.ourConfirmed = true then (none, none)
    else if active.isSome then (some "短码一致，确认", none)
    else if pendingSide then (none, none)
    else (some (if n.state = .inProgress then "重新开始配对" else "开始配对"), none)
  | .chatRequest =>
    match n.data with
    | .chatRequest outgoing .. =>
      if n.state = .pending ∧ outgoing = false then (some "接受", some "拒绝") else (none, none)
    | _ => (none, none)
  | .chatResponse =>
    if (app.actorContact n).any (shouldOfferContactVerification n) then (some "已核对，认证", none) else (none, none)

/-- A button of the details, from a column on. -/
def actionButton (area : Rect) (x : Nat) (label : String) : Rect where
  x
  y := area.bottom - 2
  width := min (saturating (displayWidth senv label) 4) (area.right - x)
  height := 1

/-- The regions of the buttons of the selected notification. -/
def notificationActionAreas (app : App P) (area : Rect) : Rect × Rect :=
  match app.selectedNotification with
  | none => (.empty, .empty)
  | some n =>
    if area.width * area.height = 0 then (.empty, .empty)
    else
      let actions := notificationActions app n
      let x := saturating area.x 2
      let next := match actions.1 with
        | some label => saturating (saturating x (saturating (displayWidth senv label) 4)) 2
        | none => x
      ((actions.1.map (actionButton senv area x)).getD .empty, (actions.2.map (actionButton senv area next)).getD .empty)

/-- The regions of the two buttons of the dialog: to cancel and to confirm. -/
def dialogButtons (screen : Rect) : Rect × Rect :=
  let area := centeredRect (min (screen.width - 4) 62) (min (screen.height - 2) 10) screen
  let cancelWidth := displayWidth senv "[ 取消 ]"
  let confirmWidth := displayWidth senv "[ 确认删除 ]"
  let x := saturating area.x ((area.width - saturating (saturating cancelWidth 2) confirmWidth) / 2)
  let y := area.bottom - 2
  ({ x, y, width := cancelWidth, height := 1 },
    { x := saturating (saturating x cancelWidth) 2, y, width := confirmWidth, height := 1 })

/-! ## Drawing -/

/-- `render_emoji_picker`. -/
def drawEmojiPicker (screen : Rect) (s : Screen) : Screen :=
  if s.emojiPicker.visible = false ∨ s.helpVisible = true then
    { s with areas := { s.areas with emojiPicker := .empty, emojiGrid := .empty } }
  else
    let area := centeredRect (min (screen.width - 4) 68) (min (screen.height - 2) 14) screen
    let layout := emojiGridLayout area
    let columns := layout.2.1
    let count := (matchingEmojis senv.toLowercase s.emojiPicker.query).length
    let rows := max layout.1.height 1
    let selected := if s.emojiPicker.selected ≥ count then count - 1 else s.emojiPicker.selected
    { s with
      areas := { s.areas with emojiPicker := area, emojiGrid := layout.1 }
      emojiPicker := { s.emojiPicker with
        columns
        pageSize := columns * rows
        selected
        scroll := if count = 0 then 0
          else followed (some (selected / columns)) (s.emojiPicker.scroll / columns) rows * columns } }

/-- `render_device_manager`. -/
def drawDeviceManager (screen : Rect) (s : Screen) : Screen :=
  let area := centeredRect (min (screen.width - 4) 88) (min (screen.height - 2) 20) screen
  let list : Rect :=
    { x := saturating area.x 1
      y := saturating area.y 2
      width := area.width - 2
      height := area.height - 5 }
  let start := s.ownDeviceSelected - (list.height - 1)
  let shown := ((s.ownDevices.zipIdx.drop start).take list.height).filter fun (device, _) =>
    !device.current && !device.revoked
  { s with areas := { s.areas with
      ownDeviceList := list
      ownDeviceRevoke := shown.map fun (_, index) =>
        (index, { x := list.right - 1, y := saturating list.y ((index - start) % 65536), width := 1, height := 1 })
      ownDeviceRefresh := { x := saturating area.x 2, y := area.bottom - 2, width := 8, height := 1 }
      ownDeviceClose := { x := area.right - 10, y := area.bottom - 2, width := 8, height := 1 } } }

/-- `render_delete_confirmation`. -/
def drawDialog (screen : Rect) (s : Screen) : Screen :=
  let buttons := if s.deleteConfirmation.isSome then dialogButtons senv screen else (.empty, .empty)
  { s with areas := { s.areas with deleteCancel := buttons.1, deleteConfirm := buttons.2 } }

/-- The sidebar: its scroll positions, its tabs and the buttons of its rows. -/
def drawSidebar (t : Terminal P) (s : Screen) : Screen :=
  let layout := s.layout
  let tabs := (senv.splitSidebar layout.conversations).1
  let body := (senv.splitSidebar layout.conversations).2
  let height := max (body.height - 2) 1
  let contactScroll := followed t.world.app.selected s.contactScroll height
  let notificationScroll := followed t.world.app.notificationSelected s.notificationScroll height
  let pending := (t.world.app.notifications.filter fun n => notificationRequiresAction n.state).length
  let label := if pending = 0 then "通知" else "通知 · " ++ toString pending
  let tabAreas := if layout.conversations.width * layout.conversations.height > 0 then sidebarTabAreas senv tabs label
    else (.empty, .empty)
  { s with
    contactScroll
    notificationScroll
    areas := { s.areas with
      sidebarToggle := sidebarToggleArea layout s.sidebarCollapsed
      conversationTab := tabAreas.1
      notificationTab := tabAreas.2
      conversationDelete := if s.sidebarTab = .conversations ∧ body.width ≥ 3 then
          listDeleteButtonAreas body contactScroll t.world.app.contacts.length height
        else []
      notificationDelete := if s.sidebarTab = .notifications ∧ body.width ≥ 3 then
          listDeleteButtonAreas body notificationScroll t.world.app.notifications.length height
        else [] } }

/-- The pane of the messages: the details of a notification, or the messages, scrolled no further than they go. -/
def drawMessages (t : Terminal P) (maximum : Nat) (s : Screen) : Screen :=
  let area := s.layout.messages
  let actions := if s.sidebarTab = .notifications then notificationActionAreas senv t.world.app area
    else (.empty, .empty)
  { s with
    messageScroll := if s.sidebarTab = .conversations ∧ area.width * area.height > 0 then min s.messageScroll maximum
      else s.messageScroll
    areas := { s.areas with notificationPrimaryAction := actions.1, notificationSecondaryAction := actions.2 } }

/-- How many rows the editor takes. -/
def editorLines (s : Screen) (width : Nat) : Option Nat := do
  return max (← editorVisualLineCount senv.seg s.editor.text (max (width - 2) 1)) (lineCount s.editor.text)

/-- `App::draw`, on a screen of the given size. -/
def drawScreen (area : Rect) : TermM P Unit := do
  let s ← getScreen id
  if area.width < 32 ∨ area.height < 10 then modifyScreen fun s => { s with layout := { UiLayout.empty with area } }
  else
    let lines ← Prog.orFail (editorLines senv s area.width) .panicked
    modifyScreen fun s => { s with layout := .calculate senv area s.focus lines s.sidebarCollapsed }
    Prog.modify fun t => { t with screen := drawSidebar senv t t.screen }
    let maximum ← messageScrollMaximum senv
    Prog.modify fun t => { t with screen := drawMessages senv t maximum t.screen }
    let composer ← getScreen fun s => s.layout.composer
    let _ ← Prog.orFail
      (editorCursorPosition senv.seg s.editor.text s.editor.cursor (max (composer.width - 2) 1)) .panicked
    Prog.modify fun t => { t with screen := { t.screen with
      areas := { t.screen.areas with
        emojiButton := emojiButtonArea senv t composer
        ownDeviceRevoke := [] } } }
    modifyScreen (drawEmojiPicker senv area)
    modifyScreen fun s => if s.deviceManagerVisible then drawDeviceManager area s else s
    modifyScreen (drawDialog senv area)

/-! ## The event loop -/

/-- What the event loop lets the client do on its own: handle what the server sends, its timers, and a new
connection. -/
def Action.isService : Action → Bool
  | .serverEvent _ | .renderNotificationDetail | .autosaveDraft | .expireBackgroundRequests | .resendOutbox
  | .syncPendingConversationDeletions | .reconcilePairingNotifications | .sync | .ping | .reconnected _
  | .reconnectFailed => true
  | _ => false

namespace Terminal

inductive Label
  | event (event : TerminalEvent)
  /-- The input task saw `Ctrl-C` or `Ctrl-Q`, the process was interrupted, or the input ended. -/
  | exit
  | draw (area : Rect)
  /-- The client handles something; where the messages are scrolled to afterwards, and how many are new below. -/
  | service (a : Action) (messageScroll newMessagesBelow : Nat)

/-- What the list of the own devices does to the screen. -/
def deviceList (s : Screen) : Action → Screen
  | .serverEvent f =>
    match f.body with
    | some (.ownDeviceList list) =>
      { s with
        ownDevices := list.devices
        ownDeviceSelected := min s.ownDeviceSelected (list.devices.length - 1)
        deviceManagerVisible := true }
    | _ => s
  | _ => s

/-- The event loop goes on. -/
def Running (t : Terminal P) : Prop := t.screen.quit = false ∧ t.stopped = none

/-- A handler has ended; one that did not end well ends the event loop. -/
def settled (r : Except Stop Unit × Terminal P) : Terminal P :=
  match r with
  | (.ok _, t) => { t with screen := { t.screen with redrawRequested := false } }
  | (.error e, t) => { t with stopped := some e }

/-- The client does something on its own; its errors are shown and logged. -/
def served (a : Action) (messageScroll newMessagesBelow : Nat) (t : Terminal P) : Terminal P :=
  let w := t.world.after env a
  let s := t.screen.follow t.world w
  { t with world := w, screen := { deviceList s a with messageScroll, newMessagesBelow } }

def next (t : Terminal P) : Label → Terminal P
  | .event e => settled ((handleTerminalEvent env senv e).exec t)
  | .exit => { t with screen := { t.screen with quit := true } }
  | .draw area => settled ((drawScreen senv area).exec t)
  | .service a messageScroll newMessagesBelow => t.served env a messageScroll newMessagesBelow

end Terminal

/-- The screen that `App::new` starts from, with the preferences of the last run. -/
def Screen.ofPreferences (preferences : Table (Prod.fst : String × String → String)) (mouseEnabled : Bool) : Screen where
  editor := .new
  focus := .composer
  sidebarTab := .conversations
  sidebarCollapsed := (preferences.find "sidebar_collapsed").any fun row => row.2 = "true"
  theme := ((preferences.find "theme").bind fun row => UiTheme.parse row.2.toList).getD .default
  completion := .closed
  emojiPicker := .closed
  helpVisible := false
  redrawRequested := false
  contactScroll := 0
  notificationScroll := 0
  messageScroll := 0
  newMessagesBelow := 0
  layout := .empty
  areas := .empty
  deleteConfirmation := none
  deviceManagerVisible := false
  ownDevices := []
  ownDeviceSelected := 0
  dragging := none
  mouseEnabled
  quit := false

/-- A terminal that was started over a client whose composer is empty. -/
def Terminal.IsStart (t : Terminal P) : Prop :=
  ∃ mouseEnabled, t.world.app.editor = "" ∧ t.screen = .ofPreferences t.preferences mouseEnabled ∧ t.performed = [] ∧
    t.stopped = none

/-- The event loop: what it takes next is left open. -/
def terminalSystem : System (Terminal P) Terminal.Label where
  init := Terminal.IsStart
  step t l t' := t.Running ∧ (∀ a scroll below, l = .service a scroll below → a.isService = true) ∧
    t' = t.next env senv l

end TuiChat
