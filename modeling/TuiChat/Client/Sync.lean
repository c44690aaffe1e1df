import TuiChat.Client.Conversation

/-!
# Handling a batch of envelopes

`handle_sync_batch`. Each envelope with a cursor above the last one goes through the same tests
(`openEnvelope`) and then through the branch of its kind; every branch that returns has committed
one transaction, which stores the advanced Olm machine and the envelope's cursor, and has
acknowledged the envelope. The first envelope that fails ends the batch.
-/

namespace TuiChat

open Lib
open Lib.Wire (utf8)

variable {P : Primitives} (env : Environment)

/-- An envelope that passed the tests, with what they found. -/
structure Opened (P : Primitives) where
  stored : StoredEnvelope
  envelope : EncryptedEnvelope
  bundle : UserBundle
  device : DeviceBundle
  senderIsSelf : Bool
  verified : Bool
  machine : OlmMachine P.olm
  payload : WirePayload

namespace Opened

variable (o : Opened P)

/-- The account at the other end of the envelope's conversation. -/
def peer : String := if o.senderIsSelf then o.payload.peerAccountId else o.stored.senderAccountId

def source : Provenance :=
  { bundleAccountId := o.bundle.accountId
    masterKey := o.bundle.accountMasterKey
    device := o.device }

/-- The message a text envelope carries, in the conversation with `peer`. -/
def message (peer : String) (inbound : Bool) : ChatMessage :=
  { id := o.payload.messageId
    conversationId := o.envelope.conversationId
    peerAccountId := peer
    senderAccountId := o.stored.senderAccountId
    body := o.payload.text
    sentAtMs := o.payload.sentAtMs
    status := .delivered
    inbound
    provenance := some o.source }

/-- What is recorded when the envelope is committed as coming from its sender. -/
def committed (w : World P) : Event :=
  .committed
    { sender := o.stored.senderAccountId
      conversationId := o.envelope.conversationId
      messageId := o.payload.messageId
      peer := o.peer
      source := o.source
      heldKey := w.heldKey o.stored.senderAccountId }

end Opened

/-- Whether the client may show what the sender of an envelope writes: itself, or a contact whose
row, after the upsert, is verified. -/
def senderVerified (senderIsSelf : Bool) (bundle : UserBundle) : ClientM P Bool :=
  if senderIsSelf then pure true
  else do
    let contact ← upsertContact env bundle
    pure contact.verified

def openEnvelope (stored : StoredEnvelope) : ClientM P (Opened P) := do
  let envelope ← Prog.orFail stored.envelope "同步信封缺失"
  let bundle ← lookupBundle env stored.senderUsername
  let ownId ← getApp fun app => app.profile.accountId
  let senderIsSelf := decide (stored.senderAccountId = ownId)
  let verified ← senderVerified env senderIsSelf bundle
  Prog.ofExcept (validateBundle P bundle)
  let device ← Prog.orFail (activeDevice bundle stored.senderDeviceId) "发送设备未获账号主密钥认证"
  Prog.ofExcept (verifyDeviceBundle P bundle.accountMasterKey bundle.accountId device)
  let machine ← currentMachine
  Prog.ensure (device.olmCurve25519Key.length = 32) "无效发送设备曲线密钥"
  let (plaintext, machine) ← Prog.ofExcept (machine.decrypt stored.senderDeviceId
    device.olmCurve25519Key
    { messageType := envelope.olmMessageType, ciphertext := envelope.ciphertext })
  record (.decrypted device)
  let payload ← Prog.orFail (env.payloadFromSlice plaintext) "invalid JSON"
  Prog.ensure (wireMetadataMatches payload stored.senderAccountId stored.senderUsername
    envelope.logicalMessageId envelope.clientSentAtMs = true) "端到端载荷校验失败"
  pure { stored, envelope, bundle, device, senderIsSelf, verified, machine, payload }

/-- Commit the transaction of an envelope, with the machine that decrypted it, and acknowledge it. -/
def commitEnvelope (o : Opened P) (f : RuntimeProfile P → Store P → Option (Store P))
    (events : World P → List Event) : ClientM P Unit := do
  commitMachine env o.machine (fun profile w => f profile w.store)
    fun w => .processed o.stored.cursor o.envelope.envelopeId :: events w
  notify env (.ackEnvelope { envelopeId := o.envelope.envelopeId, cursor := o.stored.cursor })

/-- A transaction that stores nothing but machine and cursor. -/
def commitControl (o : Opened P) : ClientM P Unit :=
  commitEnvelope env o (fun profile s => some (s.commitControl profile o.stored.cursor)) fun _ => []

/-! ## The branches -/

/-- `text.trim().is_empty()`. -/
def isBlank (text : String) : Bool := text.toList.all isWhitespace

/-- `text.trim()`. -/
def trim (text : String) : String :=
  String.ofList ((text.toList.dropWhile isWhitespace).reverse.dropWhile isWhitespace).reverse

def handleConversationDeleted (o : Opened P) : ClientM P Unit := do
  let ownId ← getApp fun app => app.profile.accountId
  Prog.ensure (o.senderIsSelf = true ∧ o.payload.peerAccountId ≠ ownId ∧
    isBlank o.payload.text = false ∧ o.payload.text.length ≤ 128 ∧
    o.envelope.conversationId = conversationId P.sha256 ownId o.payload.peerAccountId)
    "跨设备会话删除事件元数据无效"
  let selectedAccount ← getApp fun app => app.selectedContact.map fun c => c.bundle.accountId
  let tombstone : ConversationTombstone :=
    { peerAccountId := o.payload.peerAccountId
      peerUsername := o.payload.text
      conversationId := o.envelope.conversationId
      syncEventId := o.payload.messageId
      deletedAtMs := o.payload.sentAtMs
      pendingSync := false }
  commitEnvelope env o
    (fun profile s => s.commitConversationDeletion profile tombstone o.stored.cursor)
    fun w => [o.committed w]
  modifyApp fun app => { app with
    bundleCache := app.bundleCache.delete fun entry => entry.username = tombstone.peerUsername }
  loadContactsSelecting env (selectedAccount.filter fun a => a ≠ tombstone.peerAccountId)
  if selectedAccount = some tombstone.peerAccountId then clearConversation
  refreshNotifications env
  setStatus ("另一台设备已删除与 " ++ tombstone.peerUsername ++ " 的会话；再次联系必须在通知页重新认证")

def ignoreTombstonedText (o : Opened P) : ClientM P Unit := do
  commitControl env o
  setStatus "已忽略其他设备在已删除会话中产生的旧消息"

/-- The one local request to re-authenticate the sender of quarantined messages. -/
def quarantineNotification (o : Opened P) (previous : Option Notification) (now : Int)
    (fresh : String) : Notification :=
  let requestId := "reauth-" ++ o.envelope.conversationId
  match previous.filter fun n => n.state = .accepted || n.state = .inProgress with
  | some n => { n with updatedAtMs := now }
  | none =>
    { id := (previous.map Notification.id).getD fresh
      kind := .chatRequest
      requestId
      actorAccountId := o.bundle.accountId
      actorUsername := o.bundle.username
      actorDeviceId := o.stored.senderDeviceId
      state := .pending
      read := false
      createdAtMs := ((previous.filter fun n => n.state = .pending).map Notification.createdAtMs).getD now
      updatedAtMs := now
      data := .chatRequest false requestId o.bundle.accountId o.bundle.username
        o.stored.senderDeviceId o.bundle }

/-- A text of a sender that is not verified: stored, and a notification asks for authentication. -/
def quarantineText (o : Opened P) : ClientM P Unit := do
  let ownId ← getApp fun app => app.profile.accountId
  Prog.ensure (o.payload.kind = "text" ∧ (utf8 o.payload.text).length ≤ maxTextBytes ∧
    o.payload.peerAccountId = ownId) "未认证的端到端正文元数据无效"
  let now ← nowMs env
  let previous ← notificationByRequestId env ("reauth-" ++ o.envelope.conversationId)
  let fresh ← newUuid env
  commitEnvelope env o
    (fun profile s => s.commitUnverifiedInbound profile (o.message o.stored.senderAccountId true)
      (quarantineNotification o previous now fresh) o.stored.cursor)
    fun w => [o.committed w]
  loadContacts env
  refreshNotifications env
  setStatus ("收到来自 " ++ o.stored.senderUsername ++ " 的消息；请在通知页接受请求、比较安全码并认证")

/-- One message that a peer has read. -/
def readByPeer (peer related : String) : ClientM P Unit := do
  executeRecording env (fun w => some (w.store.updateOutboundStatusForPeer related peer .read))
    fun _ => [.raised related (.readBy peer)]
  setLoadedStatus (fun m => m.id = related && !m.inbound && m.peerAccountId = peer) .read

def handleRead (o : Opened P) : ClientM P Unit := do
  let relatedIds ←
    if o.payload.kind = "read" then do
      let related ← Prog.orFail o.payload.relatedMessageId "已读回执缺少消息 ID"
      pure [related]
    else pure o.payload.relatedMessageIds
  Prog.ensure (relatedIds ≠ [] ∧ relatedIds.length ≤ 100) "已读回执批量大小无效"
  Prog.each (readByPeer env o.stored.senderAccountId) relatedIds
  commitControl env o

/-- The own account asked `peer` for a chat on another device. -/
def syncOwnChatRequest (o : Opened P) : ClientM P Unit := do
  let ownId ← getApp fun app => app.profile.accountId
  Prog.ensure (o.payload.peerAccountId ≠ ownId ∧ isBlank o.payload.text = false)
    "本账号会话请求同步元数据无效"
  let peer ← lookupBundle env (trim o.payload.text)
  Prog.ensure (peer.accountId = o.payload.peerAccountId) "本账号会话请求同步对象不匹配"
  Prog.ofExcept (validateBundle P peer)
  let _ ← upsertContact env peer
  saveOutgoingChatRequestNotification env o.payload.messageId peer o.stored.senderDeviceId false

def handleChatRequest (o : Opened P) : ClientM P Unit := do
  let ownId ← getApp fun app => app.profile.accountId
  if o.senderIsSelf then syncOwnChatRequest env o
  else
    Prog.ensure (o.payload.peerAccountId = ownId ∧ o.payload.text = "") "会话请求元数据无效"
    saveChatRequestNotification env o.payload.messageId o.bundle o.stored.senderDeviceId
  loadContacts env
  commitControl env o
  setStatus (if o.senderIsSelf then
      "另一台设备已向 " ++ o.payload.text ++ " 发出会话请求；通知 Tab 可查看进度"
    else "收到来自 " ++ o.stored.senderUsername ++ " 的会话请求；通知 Tab 中按 Enter 接受")

/-- The peer of a response without a request on this device, if it can be told. -/
def responsePeer (o : Opened P) : ClientM P (Option UserBundle) :=
  if o.senderIsSelf then
    if isBlank o.payload.peerUsername then pure none
    else do
      let peer ← lookupBundle env (trim o.payload.peerUsername)
      Prog.ensure (peer.accountId = o.payload.peerAccountId) "本账号会话响应同步对象不匹配"
      Prog.ofExcept (validateBundle P peer)
      pure (some peer)
  else pure (some o.bundle)

/-- The request a response answers; one is made up where this device has none. -/
def answeredRequest (o : Opened P) (requestId : String) : ClientM P (Option Notification) := do
  let found ← notificationByRequestId env requestId
  match found with
  | some n => pure (some n)
  | none =>
    let peer ← responsePeer env o
    match peer with
    | none => pure none
    | some peer =>
      let _ ← upsertContact env peer
      let id ← newUuid env
      let now ← nowMs env
      pure (some (syntheticChatRequestNotification id requestId peer o.stored.senderDeviceId
        (!o.senderIsSelf) now))

/-- Turn a request into its response. -/
def applyChatResponse (o : Opened P) (n : Notification) : ClientM P Unit := do
  Prog.ensure (chatResponseActorMatches o.senderIsSelf n.actorAccountId o.payload.peerAccountId
    o.stored.senderAccountId = true) "会话响应对象与原请求不匹配"
  let state ← Prog.ofExcept (chatDecisionState o.payload.text)
  saveChatResponseNotification env n (state = .accepted) true
  if o.payload.text = "accepted" then
    loadContactsSelecting env (some n.actorAccountId)
    setStatus ((if o.senderIsSelf then "另一台设备已接受 " ++ n.actorUsername ++ " 的会话请求"
        else n.actorUsername ++ " 已接受会话请求") ++ "；在通知详情比较安全码后点击“已核对，认证”")
  else
    loadContacts env
    setStatus (n.actorUsername ++ " 拒绝了会话请求")

def handleChatResponse (o : Opened P) : ClientM P Unit := do
  let requestId ← Prog.orFail o.payload.relatedMessageId "会话响应缺少请求 ID"
  let ownId ← getApp fun app => app.profile.accountId
  Prog.ensure ((if o.senderIsSelf then o.payload.peerAccountId ≠ ownId
      else o.payload.peerAccountId = ownId) ∧
    (o.payload.text = "accepted" ∨ o.payload.text = "rejected")) "会话响应元数据无效"
  let notification ← answeredRequest env o requestId
  match notification with
  | none => pure ()
  | some n => applyChatResponse env o n
  commitControl env o

def shouldSendReadReceipt (terminalFocused inbound selectedConversation : Bool) : Bool :=
  terminalFocused && inbound && selectedConversation

/-- Add a message to the open conversation and send the receipt for it. -/
def showMessage (o : Opened P) (message : ChatMessage) : ClientM P Unit := do
  modifyApp fun app =>
    if app.messages.any fun m => m.id = message.id then app
    else { app with messages := app.messages ++ [message] }
  let focused ← getApp App.terminalFocused
  if shouldSendReadReceipt focused (!o.senderIsSelf) true then
    let sent ← Prog.succeeds (sendReadReceipts env o.bundle [message.id])
    if sent then markRead env message.id else pure ()
  else pure ()

def handleText (o : Opened P) : ClientM P Unit := do
  let ownId ← getApp fun app => app.profile.accountId
  Prog.ensure ((utf8 o.payload.text).length ≤ maxTextBytes ∧
    (o.senderIsSelf = true ∨ o.payload.peerAccountId = ownId)) "端到端正文元数据无效"
  let message := o.message o.peer (!o.senderIsSelf)
  commitEnvelope env o (fun profile s => s.commitInbound profile message o.stored.cursor)
    fun w => [o.committed w]
  let selectedConversation ← getApp fun app => app.selectedContact.any fun contact =>
    conversationId P.sha256 app.profile.accountId contact.bundle.accountId = message.conversationId
  if selectedConversation then showMessage env o message else pure ()

/-! ## The loop -/

def dispatchEnvelope (o : Opened P) (tombstoned : Bool) : ClientM P Unit :=
  if o.senderIsSelf ∧ tombstoned ∧ o.payload.kind = "text" then ignoreTombstonedText env o
  else if ¬(o.verified ∧ tombstoned = false) ∧ o.payload.kind ∉ controlKinds then quarantineText env o
  else if o.payload.kind ∈ readKinds then handleRead env o
  else if o.payload.kind = "chat_request" then handleChatRequest env o
  else if o.payload.kind = "chat_response" then handleChatResponse env o
  else if o.payload.kind = "text" then handleText env o
  else Prog.fail "未知的端到端事件类型"

def handleEnvelope (stored : StoredEnvelope) : ClientM P Unit := do
  let o ← openEnvelope env stored
  if o.payload.kind = "conversation_deleted" then handleConversationDeleted env o
  else
    let tombstoned ← query env fun s => s.tombstoned o.peer
    dispatchEnvelope env o tombstoned

/-- The envelopes above the cursor, in order; the result is the cursor of the last one handled. -/
def handleEnvelopes : List StoredEnvelope → Nat → ClientM P Nat
  | [], cursor => pure cursor
  | stored :: rest, cursor =>
    if stored.cursor ≤ cursor then handleEnvelopes rest cursor
    else do
      handleEnvelope env stored
      handleEnvelopes rest stored.cursor

/-- The server says that a message was delivered. -/
def markDelivered (messageId : String) : ClientM P Unit :=
  executeRecording env (fun w => some (w.store.updateStatus messageId .delivered))
    fun _ => [.raised messageId .delivered]

def applyDeliveryUpdates : List StoredDeliveryUpdate → Nat → ClientM P Nat
  | [], cursor => pure cursor
  | status :: rest, _ => do
    match status.update with
    | none => pure ()
    | some update => markDelivered env update.logicalMessageId
    applyDeliveryUpdates rest status.cursor

def handleSyncBatch (batch : SyncBatch) : ClientM P Unit := do
  let (cursor, statusCursor) ← query env fun s => (s.envelopeCursor, s.statusCursor)
  let statusCursor ← applyDeliveryUpdates env batch.deliveryUpdates statusCursor
  let cursor ← handleEnvelopes env batch.envelopes cursor
  execute env fun s => some { s with
    envelopeCursor := cursor
    statusCursor := max statusCursor batch.nextStatusCursor }
  refreshContactsPreserveSelection env
  if batch.hasMore ∧ cursor = batch.nextCursor then setStatus "仍有历史消息，输入 /sync 继续加载"
  else pure ()

end TuiChat
