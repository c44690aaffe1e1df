import TuiChat.Client.Local

/-!
# Encrypting and queueing

Everything a client encrypts goes the same way: one ciphertext for each active device of the
recipient and, mostly, each other device of the own account, made on a copy of the Olm machine; then
one transaction that stores the machine and the frame in the outbox; then the frame goes to the
connection.
-/

namespace TuiChat

open Lib
open Lib.Wire (utf8)

variable {P : Primitives} (env : Environment)

/-! ## Encryption -/

/-- The next ciphertext for a device: with a session the machine has for its id, or with one made of
a prekey that the server is asked for. -/
def encryptOlm (machine : OlmMachine P.olm) (device : DeviceBundle) (accountId : String)
    (payload : Bytes) : ClientM P (EncryptedOlm × OlmMachine P.olm) :=
  if machine.hasSession device.deviceId then do
    let n ← draw
    Prog.ofExcept (machine.encryptExisting device.deviceId payload n)
  else do
    let response ← request env (.claimPreKey { accountId, deviceId := device.deviceId })
    let bundle ← Prog.orFail (response.bind Body.asPreKeyBundle) "服务器返回了错误的预密钥响应"
    let claimedDevice ← Prog.orFail bundle.device "预密钥响应缺少设备"
    let key ← Prog.orFail bundle.oneTimeKey "预密钥已耗尽"
    Prog.ensure (claimedDevice = device) "领取预密钥时设备身份发生变化"
    Prog.ofExcept (verifyPrekey P device key)
    Prog.ensure (device.olmCurve25519Key.length = 32) "无效的设备曲线密钥"
    Prog.ensure (key.curve25519Key.length = 32) "无效的预密钥"
    let n ← draw
    Prog.ofExcept (machine.encrypt
      { deviceId := device.deviceId
        identityKey := device.olmCurve25519Key
        oneTimeKey := key.curve25519Key } payload n)

def encryptFor (machine : OlmMachine P.olm) (device : DeviceBundle) (accountId : String)
    (payload : Bytes) : ClientM P (EncryptedOlm × OlmMachine P.olm) := do
  let result ← encryptOlm env machine device accountId payload
  record (.encrypted device (result.2.newestKey device.deviceId))
  pure result

/-- A device to encrypt for, with the account it is in and the key that must certify it. -/
structure Target where
  accountId : String
  masterKey : Bytes
  device : DeviceBundle
deriving DecidableEq, Repr

/-- The active devices of a bundle. -/
def targetsOf (bundle : UserBundle) : List Target :=
  bundle.active.map fun device =>
    { accountId := bundle.accountId, masterKey := bundle.accountMasterKey, device }

/-- The active devices of a bundle but one. -/
def targetsBut (deviceId : String) (bundle : UserBundle) : List Target :=
  (targetsOf bundle).filter fun target => target.device.deviceId ≠ deviceId

/-- What the envelopes of one message share. -/
structure Outgoing where
  logicalId : String
  conversationId : String
  sentAtMs : Int
  payload : Bytes

def encryptTargets (m : Outgoing) (machine : OlmMachine P.olm) :
    List Target → ClientM P (List EncryptedEnvelope × OlmMachine P.olm)
  | [] => pure ([], machine)
  | target :: targets => do
    Prog.ofExcept (verifyDeviceBundle P target.masterKey target.accountId target.device)
    let (encrypted, machine) ← encryptFor env machine target.device target.accountId m.payload
    let envelopeId ← newUuid env
    let (envelopes, machine) ← encryptTargets m machine targets
    pure (
      { envelopeId
        logicalMessageId := m.logicalId
        conversationId := m.conversationId
        recipientAccountId := target.accountId
        recipientDeviceId := target.device.deviceId
        ciphertext := encrypted.ciphertext
        olmMessageType := encrypted.messageType
        clientSentAtMs := m.sentAtMs } :: envelopes, machine)

/-! ## The transaction and the connection -/

def currentMachine : ClientM P (OlmMachine P.olm) := getApp fun app => app.profile.machine

def World.withMachine (w : World P) (machine : OlmMachine P.olm) : World P :=
  { w with app := { w.app with profile := { w.app.profile with machine } } }

/-- Put another machine into the profile and run a transaction that stores it; the old machine is
put back if the transaction fails. -/
def commitMachine (machine : OlmMachine P.olm)
    (f : RuntimeProfile P → World P → Option (Store P)) (events : World P → List Event) :
    ClientM P Unit := do
  let previous ← currentMachine
  Prog.modify fun w => w.withMachine machine
  let profile ← getApp App.profile
  Prog.onError (executeRecording env (f profile) events) fun w => w.withMachine previous

def dispatchBackground (frame : Frame) (operation : BackgroundRequest) : ClientM P Unit := do
  let taken ← getApp fun app => frame.id = "" || (app.backgroundRequests.find frame.id).isSome
  let fresh ← newUuid env
  let frame := if taken then { frame with id := fresh } else frame
  sendFrame env frame
  let now ← instantNow env
  modifyApp fun app => { app with
    backgroundRequests := app.backgroundRequests.put (frame.id, operation)
    backgroundDeadlines := app.backgroundDeadlines.put (frame.id, now + 20000) }

/-- Commit the envelopes of a control message to the outbox and hand them to the connection. -/
def queueControl (logicalId : String) (envelopes : List EncryptedEnvelope)
    (machine : OlmMachine P.olm) : ClientM P Unit := do
  let queued := frame (← newUuid env) (.sendEnvelopes { envelopes })
  let now ← nowMs env
  commitMachine env machine
    (fun profile w => some (w.store.commitControlOutgoing profile logicalId queued now))
    fun _ => [.queued { envelopes }]
  dispatchBackground env queued (.outbox logicalId)

/-- A fresh bundle, validated. -/
def lookupValidBundle (username : String) : ClientM P UserBundle := do
  let bundle ← lookupBundleFresh env username
  Prog.ofExcept (validateBundle P bundle)
  pure bundle

/-- The own bundle, by the given lookup, if it carries the own master key. -/
def ownBundle (lookup : String → ClientM P UserBundle) : ClientM P UserBundle := do
  let profile ← getApp App.profile
  let bundle ← lookup profile.username
  Prog.ensure (bundle.accountMasterKey = (profile.identity.masterPublicKey P).getD [])
    "服务器返回的本账号主密钥不匹配"
  pure bundle

/-! ## The messages -/

def sendReadReceipts (recipient : UserBundle) (relatedMessageIds : List String) : ClientM P Unit := do
  Prog.ensure (relatedMessageIds ≠ [] ∧ relatedMessageIds.length ≤ 100) "已读回执批量大小必须为 1..=100"
  let logical ← newUuid env
  let profile ← getApp App.profile
  let sentAtMs ← nowMs env
  let payload : WirePayload :=
    { version := 2
      kind := "read_batch"
      messageId := logical
      senderUsername := profile.username
      senderAccountId := profile.accountId
      peerAccountId := recipient.accountId
      peerUsername := recipient.username
      sentAtMs
      text := ""
      relatedMessageId := none
      relatedMessageIds }
  let m : Outgoing :=
    { logicalId := logical
      conversationId := conversationId P.sha256 profile.accountId recipient.accountId
      sentAtMs
      payload := payload.toVec }
  let machine ← currentMachine
  let (envelopes, machine) ← encryptTargets env m machine (targetsOf recipient)
  queueControl env logical envelopes machine

def sendChatRequest (recipient : UserBundle) : ClientM P Unit := do
  let pending ← getApp fun app => app.hasPendingChatRequest recipient.accountId
  if pending then setStatus ("已向 " ++ recipient.username ++ " 发出会话请求，等待对方确认")
  else
    Prog.ofExcept (validateBundle P recipient)
    let selfBundle ← ownBundle (lookupValidBundle env)
    let requestId ← newUuid env
    let sentAtMs ← nowMs env
    let profile ← getApp App.profile
    let payload : WirePayload :=
      { version := 3
        kind := "chat_request"
        messageId := requestId
        senderUsername := profile.username
        senderAccountId := profile.accountId
        peerAccountId := recipient.accountId
        peerUsername := recipient.username
        sentAtMs
        text := ""
        relatedMessageId := none
        relatedMessageIds := [] }
    let m : Outgoing :=
      { logicalId := requestId
        conversationId := conversationId P.sha256 profile.accountId recipient.accountId
        sentAtMs
        payload := payload.toVec }
    let machine ← currentMachine
    let (envelopes, machine) ← encryptTargets env m machine (targetsOf recipient)
    Prog.ensure (envelopes ≠ []) "联系人没有可用设备"
    let selfPayload := { payload with text := recipient.username }
    let (selfEnvelopes, machine) ← encryptTargets env { m with payload := selfPayload.toVec } machine
      (targetsBut profile.identity.deviceId selfBundle)
    saveOutgoingChatRequestNotification env requestId recipient profile.identity.deviceId true
    queueControl env requestId (envelopes ++ selfEnvelopes) machine
    setStatus ("已向 " ++ recipient.username ++ " 发出会话请求，等待对方确认")

def sendChatDecision (recipient : UserBundle) (requestId : String) (accepted : Bool) :
    ClientM P Unit := do
  Prog.ofExcept (validateBundle P recipient)
  let selfBundle ← ownBundle (lookupValidBundle env)
  let logicalId ← newUuid env
  let sentAtMs ← nowMs env
  let profile ← getApp App.profile
  let payload : WirePayload :=
    { version := 3
      kind := "chat_response"
      messageId := logicalId
      senderUsername := profile.username
      senderAccountId := profile.accountId
      peerAccountId := recipient.accountId
      peerUsername := recipient.username
      sentAtMs
      text := if accepted then "accepted" else "rejected"
      relatedMessageId := some requestId
      relatedMessageIds := [] }
  let m : Outgoing :=
    { logicalId
      conversationId := conversationId P.sha256 profile.accountId recipient.accountId
      sentAtMs
      payload := payload.toVec }
  let machine ← currentMachine
  let (envelopes, machine) ← encryptTargets env m machine (targetsOf recipient)
  Prog.ensure (envelopes ≠ []) "请求方没有可用设备"
  let (selfEnvelopes, machine) ← encryptTargets env m machine
    (targetsBut profile.identity.deviceId selfBundle)
  queueControl env logicalId (envelopes ++ selfEnvelopes) machine

/-- The deletion of one conversation, to the given devices of the own account. -/
def sendConversationDeletion (targets : List Target) (tombstone : ConversationTombstone) :
    ClientM P Unit := do
  let queued ← query env fun s => (s.outbox.find tombstone.syncEventId).isSome
  if queued then pure ()
  else if targets = [] then
    execute env fun s => some (s.markConversationDeletionSynced tombstone.syncEventId)
  else
    let profile ← getApp App.profile
    Prog.ensure (conversationId P.sha256 profile.accountId tombstone.peerAccountId =
      tombstone.conversationId) "待同步的会话删除记录不匹配"
    let payload : WirePayload :=
      { version := 3
        kind := "conversation_deleted"
        messageId := tombstone.syncEventId
        senderUsername := profile.username
        senderAccountId := profile.accountId
        peerAccountId := tombstone.peerAccountId
        peerUsername := tombstone.peerUsername
        sentAtMs := tombstone.deletedAtMs
        text := tombstone.peerUsername
        relatedMessageId := none
        relatedMessageIds := [] }
    let m : Outgoing :=
      { logicalId := tombstone.syncEventId
        conversationId := tombstone.conversationId
        sentAtMs := tombstone.deletedAtMs
        payload := payload.toVec }
    let machine ← currentMachine
    let (envelopes, machine) ← encryptTargets env m machine targets
    queueControl env tombstone.syncEventId envelopes machine

def syncPendingConversationDeletions : ClientM P Unit := do
  let idle ← getApp fun app => !app.connected || app.profile.pending
  if idle then pure ()
  else
    let tombstones ← query env Store.pendingConversationDeletions
    if tombstones = [] then pure ()
    else
      let profile ← getApp App.profile
      let selfBundle ← lookupBundleFresh env profile.username
      Prog.ofExcept (validateBundle P selfBundle)
      Prog.ensure (selfBundle.accountId = profile.accountId ∧
        selfBundle.accountMasterKey = profile.accountMasterPublic) "服务器返回的本账号设备列表不匹配"
      Prog.each (sendConversationDeletion env (targetsBut profile.identity.deviceId selfBundle))
        tombstones

/-- Ask for the envelopes after the stored cursors, unless that has been asked. -/
def sync : ClientM P Unit := do
  let connected ← getApp App.connected
  Prog.ensure (connected = true) "当前没有连接"
  let inFlight ← getApp App.syncInFlight
  if inFlight then setStatus "同步请求正在后台执行"
  else
    let (cursor, statusCursor) ← query env fun s => (s.envelopeCursor, s.statusCursor)
    let id ← newUuid env
    dispatchBackground env (frame id (.syncRequest
      { afterCursor := cursor, limit := 100, afterStatusCursor := statusCursor })) .sync
    modifyApp fun app => { app with syncInFlight := true }
    setStatus "已在后台请求同步"

/-- Hand one frame of the outbox to the connection, unless it is blocked, deferred or under way. -/
def resend (item : String × Frame) : ClientM P Unit := do
  let skip ← getApp fun app => app.blockedOutbox.contains item.1 ||
    (app.outboxRetryAfter.find item.1).isSome ||
    app.backgroundRequests.rows.any fun r => r.2 = .outbox item.1
  if skip then pure ()
  else
    let sent ← Prog.succeeds do
      Prog.ensure (frameFits (encodeFrame item.2)) "frame exceeds 262144 bytes"
      dispatchBackground env item.2 (.outbox item.1)
    if sent then pure () else setStatus "本地发件箱等待重试"

def resendOutbox : ClientM P Unit := do
  let readable ← Prog.succeeds (attempt env "database error")
  if readable then
    let items ← Prog.gets fun w => w.store.outboxList
    let now ← instantNow env
    modifyApp fun app => { app with
      outboxRetryAfter := app.outboxRetryAfter.delete fun entry => entry.2 ≤ now }
    Prog.each (resend env) items
  else pure ()

end TuiChat
