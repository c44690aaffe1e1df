import TuiChat.Client.Outgoing
import TuiChat.Lib.Text

/-!
# What the user does with contacts and conversations

Opening, selecting, verifying and deleting contacts, reading and writing messages: the methods of
`App` behind the commands, keys and clicks.
-/

namespace TuiChat

open Lib
open Lib.Wire (utf8)

variable {P : Primitives} (env : Environment)

/-! ## The safety code -/

def safetyCodeForContact (profile : RuntimeProfile P) (contact : Contact) : Option String :=
  (profile.identity.masterPublicKey P).map fun ourMaster =>
    safetyCode P profile.username ourMaster contact.bundle.username contact.bundle.accountMasterKey

/-- Show the code with a contact, wherever it is shown. -/
def displayCode (contact : Contact) (show_ : String → ClientM P Unit) (otherwise : ClientM P Unit) :
    ClientM P Unit := do
  let code ← getApp fun app => safetyCodeForContact app.profile contact
  match code with
  | none => otherwise
  | some code =>
    record (.displayed contact.bundle.accountId contact.bundle.accountMasterKey)
    show_ code

def showSafetyCode : ClientM P Unit := do
  let selected ← getApp App.selectedContact
  match selected with
  | none => pure ()
  | some contact =>
    displayCode contact (fun code => setStatus ("安全码：" ++ code ++ "；通过电话/当面比较后输入 /verify"))
      (setStatus "该设备仍在等待旧设备配对")

/-- The contact of a notification, as the contact list has it. -/
def App.actorContact (app : App P) (n : Notification) : Option Contact :=
  app.contacts.find? fun contact => contact.bundle.accountId = n.actorAccountId

/-- The part of `render_notification_detail` that shows a safety code. -/
def renderNotificationDetail : ClientM P Unit := do
  let notification ← getApp App.selectedNotification
  match notification with
  | none => pure ()
  | some n =>
    if n.state = .accepted ∨ n.state = .completed then
      let contact ← getApp fun app => app.actorContact n
      match contact with
      | none => pure ()
      | some contact => displayCode contact (fun _ => pure ()) (pure ())
    else pure ()

/-! ## Messages and drafts of the selected conversation -/

/-- Change the first loaded message of which `p` holds. -/
def modifyFirst (p : ChatMessage → Bool) (f : ChatMessage → ChatMessage) :
    List ChatMessage → List ChatMessage
  | [] => []
  | m :: ms => if p m then f m :: ms else m :: modifyFirst p f ms

def setLoadedStatus (p : ChatMessage → Bool) (status : MessageStatus) : ClientM P Unit :=
  modifyApp fun app =>
    { app with messages := modifyFirst p (fun m => { m with status }) app.messages }

def clearConversation : ClientM P Unit := do
  modifyApp fun app =>
    { app with messages := [], editor := "", persistedDraft := "", historyExhausted := true }
  record (.opened none)

/-- `text.trim_start().starts_with('/')`. -/
def isCommand (text : String) : Bool :=
  ((text.toList.dropWhile isWhitespace).head?) = some '/'

def saveCurrentDraft : ClientM P Unit := do
  let selected ← getApp App.selectedContact
  let editor ← getApp App.editor
  match selected with
  | none => pure ()
  | some contact =>
    if isCommand editor then pure ()
    else
      let ownId ← getApp fun app => app.profile.accountId
      execute env fun s => some
        (s.saveDraft (conversationId P.sha256 ownId contact.bundle.accountId) editor)
      modifyApp fun app => { app with persistedDraft := editor }

def autosaveDraft : ClientM P Unit := do
  let unchanged ← getApp fun app => app.editor = app.persistedDraft || isCommand app.editor
  if unchanged then pure () else saveCurrentDraft env

/-- One message of a batch of read receipts. -/
def markRead (messageId : String) : ClientM P Unit := do
  executeRecording env (fun w => some (w.store.updateStatus messageId .read))
    fun _ => [.raised messageId .readHere]
  setLoadedStatus (fun m => m.id = messageId) .read

def markSelectedRead : ClientM P Unit := do
  let selected ← getApp App.selectedContact
  match selected with
  | none => pure ()
  | some contact =>
    let idle ← getApp fun app =>
      !app.terminalFocused || !contact.verified || contact.identityChanged || !app.connected
    if idle then pure ()
    else
      let unread ← getApp fun app =>
        (app.messages.filter fun m => m.inbound && m.status ≠ .read).map ChatMessage.id
      Prog.each (fun batch => do
        sendReadReceipts env contact.bundle batch
        Prog.each (markRead env) batch) (chunks 100 unread)
      refreshContactsPreserveSelection env

def loadSelectedMessages : ClientM P Unit := do
  let selected ← getApp App.selectedContact
  match selected with
  | none => clearConversation
  | some contact =>
    let ownId ← getApp fun app => app.profile.accountId
    let conversation := conversationId P.sha256 ownId contact.bundle.accountId
    let messages ← query env fun s => s.messagesOf conversation
    modifyApp fun app =>
      { app with messages, historyExhausted := messages.length < messagePageSize }
    let draft ← query env fun s => s.loadDraft conversation
    modifyApp fun app => { app with persistedDraft := draft, editor := draft }
    record (.opened (some contact.bundle.accountId))
    markSelectedRead env

/-- The page before the loaded messages; the user has scrolled to their top. -/
def loadOlderMessages : ClientM P Unit := do
  let selected ← getApp App.selectedContact
  let oldest ← getApp fun app => app.messages.head?
  let exhausted ← getApp App.historyExhausted
  match selected, oldest with
  | some contact, some oldest =>
    if exhausted then pure ()
    else
      let ownId ← getApp fun app => app.profile.accountId
      let conversation := conversationId P.sha256 ownId contact.bundle.accountId
      let older ← query env fun s => s.messagesBefore conversation oldest.sentAtMs oldest.id
      modifyApp fun app =>
        { app with
          messages := older ++ app.messages
          historyExhausted := older.length < messagePageSize
          status := if older.isEmpty then "已到达本地历史消息顶部" else app.status }
  | _, _ => pure ()

/-! ## Opening, selecting and verifying -/

def openContact (username : String) : ClientM P Unit := do
  saveCurrentDraft env
  let response ← request env (.lookupUser { exactUsername := username })
  let bundle ← Prog.orFail (response.bind Body.asUserBundle) "服务器返回了错误的查询响应"
  cacheBundle env bundle
  Prog.ofExcept (validateBundle P bundle)
  let contact ← upsertContact env bundle
  if contact.verified = false ∨ contact.identityChanged = true then sendChatRequest env bundle
  loadContactsSelecting env (some contact.bundle.accountId)
  loadSelectedMessages env
  showSafetyCode

/-- `UPDATE .. SET verified = 1`, with the flags of the loaded contact. -/
def verifyAccount (account : String) : ClientM P Unit := do
  executeRecording env (fun w => some (w.store.verifyContact account))
    fun w => [.verified account (w.store.keyOf account)]
  modifyApp fun app =>
    { app with
      contacts := app.contacts.map fun contact =>
        if contact.bundle.accountId = account then
          { contact with verified := true, identityChanged := false } else contact }

def verifySelected : ClientM P Unit := do
  let selected ← getApp App.selectedContact
  let contact ← Prog.orFail selected "请先选择会话"
  let account := contact.bundle.accountId
  let pending ← getApp fun app => app.hasPendingChatRequest account
  Prog.ensure (pending = false) "会话请求尚未被对方接受；请先在通知 Tab 等待结果"
  verifyAccount env account
  let response ← getApp fun app => app.notifications.find? fun n =>
    n.kind = .chatResponse && n.actorAccountId = account && n.state = .accepted
  match response with
  | none => pure ()
  | some n => markNotificationState env n.id .completed true
  setStatus "联系人密钥已在本机标记为已核验；请确保你确实通过可信渠道比较过安全码"
  sync env

/-- Show the code if the selected contact is not verified. -/
def showCodeIfUnverified : ClientM P Unit := do
  let selected ← getApp App.selectedContact
  match selected with
  | none => pure ()
  | some contact =>
    if contact.verified = false ∨ contact.identityChanged = true then showSafetyCode else pure ()

/-- `self.selected = Some(index)`. -/
def select (index : Nat) : ClientM P Unit :=
  Prog.modify fun w =>
    { w with app := { w.app with selected := some index }, log := .selected :: w.log }

/-- Select the contact at an index: `select_relative`, and a click into the list. -/
def selectIndex (index : Nat) : ClientM P Unit := do
  let inRange ← getApp fun app => decide (index < app.contacts.length)
  if inRange then
    saveCurrentDraft env
    select index
    loadSelectedMessages env
    showCodeIfUnverified
  else pure ()

/-- `(current + direction).clamp(0, len - 1)`, or the first contact. -/
def relativeIndex (selected : Option Nat) (direction : Int) (len : Nat) : Nat :=
  match selected with
  | some current => (max 0 (min ((current : Int) + direction) ((len : Int) - 1))).toNat
  | none => 0

def selectRelative (direction : Int) : ClientM P Unit := do
  let index ← getApp fun app => relativeIndex app.selected direction app.contacts.length
  selectIndex env index

/-! ## Chat requests -/

def acceptChatRequest (n : Notification) : ClientM P Unit :=
  match n.data with
  | .chatRequest outgoing requestId senderAccountId _ _ sender =>
    if outgoing then setStatus "会话请求已发出，等待对方在通知 Tab 中接受"
    else do
      Prog.ensure (sender.accountId = senderAccountId) "会话请求账号身份不匹配"
      Prog.ofExcept (validateBundle P sender)
      let _ ← upsertContact env sender
      loadContactsSelecting env (some sender.accountId)
      loadSelectedMessages env
      sendChatDecision env sender requestId true
      saveChatResponseNotification env n true true
      setStatus "已接受会话请求；比较通知详情中的安全码后点击“已核对，认证”"
  | _ => Prog.fail "会话请求通知数据无效"

def verifyNotificationContact (n : Notification) : ClientM P Unit := do
  let position ← getApp fun app => positionOf app.contacts n.actorAccountId
  let index ← Prog.orFail position "认证对象不在联系人列表中；请重新执行 /chat 查询联系人"
  select index
  loadSelectedMessages env
  verifySelected env
  setStatus ("已认证 " ++ n.actorUsername ++ " 的账号密钥，可以开始聊天")

def rejectSelectedChatRequest : ClientM P Unit := do
  let notification ← getApp App.selectedNotification
  match notification with
  | none => pure ()
  | some n =>
    if n.kind = .chatRequest then
      match n.data with
      | .chatRequest outgoing requestId _ _ _ sender =>
        if outgoing then setStatus "发出的会话请求不能在本机拒绝"
        else
          Prog.ofExcept (validateBundle P sender)
          sendChatDecision env sender requestId false
          saveChatResponseNotification env n false true
          setStatus "已拒绝会话请求"
      | _ => Prog.fail "会话请求通知数据无效"
    else setStatus "只有会话请求可以拒绝"

def dismissSelectedNotification : ClientM P Unit := do
  let notification ← getApp App.selectedNotification
  match notification with
  | none => pure ()
  | some n =>
    if notificationRequiresAction n.state then setStatus "待处理通知不能关闭；请先完成操作"
    else
      markNotificationState env n.id n.state true
      setStatus "通知已标记为已读"

/-- Select a notification, which marks it read. -/
def selectNotification (index : Nat) : ClientM P Unit := do
  modifyApp fun app => { app with notificationSelected := some index }
  let selected ← getApp App.selectedNotification
  match selected with
  | none => pure ()
  | some n => markNotificationRead env n.id
  refreshNotifications env

/-! ## Sending a text -/

/-- The targets of a text: the active devices of the peer and the other active devices of the own
account, under the key the server gave for it. -/
def textTargets (profile : RuntimeProfile P) (peer selfBundle : UserBundle) : List Target :=
  targetsOf peer ++ (targetsBut profile.identity.deviceId selfBundle).map fun target =>
    { target with accountId := profile.accountId }

def textPayload (profile : RuntimeProfile P) (peer : UserBundle) (logicalId text : String)
    (sentAtMs : Int) : WirePayload :=
  { version := 2
    kind := "text"
    messageId := logicalId
    senderUsername := profile.username
    senderAccountId := profile.accountId
    peerAccountId := peer.accountId
    peerUsername := peer.username
    sentAtMs
    text
    relatedMessageId := none
    relatedMessageIds := [] }

def sendText (text : String) : ClientM P Unit := do
  Prog.ensure ((utf8 text).length ≤ maxTextBytes) "消息超过 16 KiB"
  let selected ← getApp App.selectedContact
  let contact ← Prog.orFail selected "使用 /chat <用户名> 选择会话"
  if contact.verified = false ∨ contact.identityChanged = true then
    showSafetyCode
    Prog.fail "必须先核验联系人安全码"
  else
    Prog.ofExcept (validateBundle P contact.bundle)
    let selfBundle ← ownBundle (lookupBundle env)
    let logicalId ← newUuid env
    let sentAtMs ← nowMs env
    let profile ← getApp App.profile
    let conversation := conversationId P.sha256 profile.accountId contact.bundle.accountId
    let m : Outgoing :=
      { logicalId
        conversationId := conversation
        sentAtMs
        payload := (textPayload profile contact.bundle logicalId text sentAtMs).toVec }
    let machine ← currentMachine
    let (envelopes, machine) ← encryptTargets env m machine
      (textTargets profile contact.bundle selfBundle)
    Prog.ensure (envelopes ≠ []) "联系人没有可用设备"
    let queued := frame (← newUuid env) (.sendEnvelopes { envelopes })
    let localMessage : ChatMessage :=
      { id := logicalId
        conversationId := conversation
        peerAccountId := contact.bundle.accountId
        senderAccountId := profile.accountId
        body := text
        sentAtMs
        status := .sending
        inbound := false
        provenance := none }
    let now ← nowMs env
    commitMachine env machine
      (fun profile w => w.store.commitOutgoing profile localMessage queued now)
      fun _ => [.queued { envelopes }]
    modifyApp fun app => { app with messages := app.messages ++ [localMessage] }
    let dispatched ← Prog.succeeds (dispatchBackground env queued (.outbox logicalId))
    if dispatched then setStatus "消息已保存在本地，正在后台发送"
    else modifyApp fun app => { app with
      connected := false
      status := "网络暂不可用，消息已保存在本地发件箱，重连后自动补发" }
    execute env fun s => some (s.saveDraft conversation "")
    modifyApp fun app => { app with persistedDraft := "" }
    refreshContactsPreserveSelection env

/-! ## Deleting -/

/-- Confirm the deletion of the conversation with an account. -/
def confirmDeleteConversation (accountId username : String) : ClientM P Unit := do
  let syncEventId ← newUuid env
  let deletedAtMs ← nowMs env
  let selectedAccount ← getApp fun app => app.selectedContact.map fun c => c.bundle.accountId
  let ownId ← getApp fun app => app.profile.accountId
  execute env fun s => s.deleteConversationEverywhere
    { peerAccountId := accountId
      peerUsername := username
      conversationId := conversationId P.sha256 ownId accountId
      syncEventId
      deletedAtMs
      pendingSync := true }
  modifyApp fun app =>
    { app with bundleCache := app.bundleCache.delete fun entry => entry.username = username }
  loadContactsSelecting env (selectedAccount.filter fun a => a ≠ accountId)
  let selected ← getApp App.selected
  if selected.isNone then clearConversation
  refreshNotifications env
  let connected ← getApp App.connected
  if connected then
    let synced ← Prog.succeeds (syncPendingConversationDeletions env)
    setStatus (if synced then
        "已删除与 " ++ username ++ " 的会话并同步到其他设备；再次联系需在通知页重新认证"
      else "已在本机删除与 " ++ username ++ " 的会话；跨设备同步将自动重试")
  else setStatus ("已删除与 " ++ username ++ " 的会话；重连后将同步到其他设备，再次联系需在通知页重新认证")

/-- Confirm the deletion of a notification. -/
def confirmDeleteNotification (id title requestId : String) : ClientM P Unit := do
  execute env fun s => some (s.deleteNotification id)
  modifyApp fun app =>
    if app.pairing.any fun pairing => pairing.pairingId = requestId then app
    else { app with
      pairingRequests := app.pairingRequests.filter fun r => r.pairingId ≠ requestId }
  refreshNotifications env
  setStatus ("已删除通知“" ++ title ++ "”；不会拒绝或取消对应请求")

/-- Confirm the revocation of a device of the own account. -/
def confirmRevokeDevice (deviceId deviceName : String) : ClientM P Unit := do
  let id ← newUuid env
  dispatchBackground env (frame id (.revokeOwnDevice { deviceId })) (.deviceRevoke deviceName)
  setStatus ("正在后台撤销设备 " ++ deviceName ++ "…")

end TuiChat
