import TuiChat.Client.Conversation

/-!
# Pairing a device

A device without the account's master secret asks an active one to certify it. The active device, the
approver, answers the request with its ephemeral key; both show the short authentication string;
when both users have confirmed it, the approver sends the master secret, the contacts and the history
over the pairing channel and has the server activate the device.
-/

namespace TuiChat

open Lib
open Lib.Wire (utf8)

variable {P : Primitives} (env : Environment)

/-- An event for the other end; the server fills in who sent it. -/
def pairingEvent (pairingId targetDeviceId eventType : String) (payload : Bytes) : Body :=
  .pairingEvent
    { pairingId
      targetDeviceId
      eventType
      payload
      senderDeviceId := ""
      serverEventId := 0
      senderDeviceName := "" }

/-- `DeviceBundle::default()`. -/
def DeviceBundle.default : DeviceBundle :=
  { deviceId := ""
    deviceName := ""
    authSigningKey := []
    olmEd25519Key := []
    olmCurve25519Key := []
    certificateSignature := []
    revoked := false }

def setPairing (pairing : Option PairingSession) : ClientM P Unit :=
  modifyApp fun app => { app with pairing }

/-! ## The approver -/

/-- The index of the request to start with: the named one, or the only one. -/
def requestIndex (requests : List PairingRequest) : Option String → Option Nat
  | some device => requests.findIdx? fun r => r.pendingDeviceId = device || r.pairingId = device
  | none => if requests.length = 1 then some 0 else none

def startPairing (requestedDevice : Option String) : ClientM P Unit := do
  let pending ← getApp fun app => app.profile.pending
  Prog.ensure (pending = false) "待批准设备不能批准其他设备"
  let busy ← getApp fun app => app.pairing.isSome
  Prog.ensure (busy = false) "已有正在进行的设备配对"
  let chosen ← getApp fun app =>
    (requestIndex app.pairingRequests requestedDevice).bind fun i =>
      app.pairingRequests[i]?.map fun r => (i, r)
  let (index, r) ← Prog.orFail chosen "没有唯一的配对请求；使用 /pair <设备ID>"
  modifyApp fun app => { app with pairingRequests := app.pairingRequests.eraseIdx index }
  let pendingDevice ← Prog.orFail r.pendingDevice "配对请求缺少设备公钥"
  Prog.ensure (r.sasPublicKey.length = 32) "无效的配对公钥"
  let secret := P.x25519Secret (← draw)
  let channel ← Prog.ofExcept (establish P secret r.sasPublicKey r.pairingId)
  notify env (pairingEvent r.pairingId r.pendingDeviceId "sas_public" (P.x25519Public secret))
  setStatus ("与 " ++ r.pendingDeviceName ++ " 比较短认证码")
  let session : PairingSession :=
    { pairingId := r.pairingId
      peerDeviceId := r.pendingDeviceId
      pendingDevice
      channel
      approver := true
      ourConfirmed := false
      peerConfirmed := false }
  setPairing (some session)
  record (.started r session)
  let notification ← notificationByRequestId env r.pairingId
  match notification with
  | none => pure ()
  | some n => markNotificationState env n.id .inProgress true

def sendPairingPayload (pairing : PairingSession) (eventType : String) (plaintext : Bytes) :
    ClientM P Unit := do
  let payload := pairing.channel.encrypt P pairing.pairingId plaintext (← draw)
  notify env (pairingEvent pairing.pairingId pairing.peerDeviceId eventType payload)

/-- The transfers: master secret and contacts, the history in pieces of four, and the end mark. -/
def sendTransfers (pairing : PairingSession) (masterSecret : Bytes) : ClientM P Unit := do
  let contacts ← query env Store.exportContacts
  let bootstrap : BootstrapTransfer := { masterSecret, contacts }
  sendPairingPayload env pairing "bootstrap" bootstrap.toVec
  let history ← query env Store.exportMessages
  Prog.each (fun messages =>
    sendPairingPayload env pairing "history_chunk" (HistoryTransfer.toVec { messages }))
    (chunks 4 history)
  sendPairingPayload env pairing "history_complete" (utf8 "complete")

def finishPairingAsApprover : ClientM P Unit := do
  let taken ← getApp App.pairing
  setPairing none
  let pairing ← Prog.orFail taken "配对状态消失"
  if pairing.ourConfirmed = false ∨ pairing.peerConfirmed = false then
    setPairing (some pairing)
    Prog.fail "双方尚未确认短认证码"
  else
    let identity ← getApp fun app => app.profile.identity
    let device ← Prog.ofExcept (identity.certifyBundle P pairing.pendingDevice)
    record (.certified pairing device)
    let masterSecret ← Prog.orFail identity.master "账号主密钥不可用"
    sendTransfers env pairing masterSecret
    let username ← getApp fun app => app.profile.username
    let selfBundle ← lookupBundleFresh env username
    let revision := selfBundle.rosterRevision + 1
    let rosterSignature ← Prog.ofExcept (identity.signRoster P revision device.deviceId)
    let _ ← request env (.activateDevice
      { pairingId := pairing.pairingId
        device := some device
        rosterRevision := revision
        rosterSignature })
    let notification ← notificationByRequestId env pairing.pairingId
    match notification with
    | none => pure ()
    | some n => markNotificationState env n.id .completed true
    setStatus "设备已批准"

/-! ## Both ends -/

def confirmPairing : ClientM P Unit := do
  let current ← getApp App.pairing
  let pairing ← Prog.orFail current "当前没有进行中的配对"
  if pairing.ourConfirmed then
    setStatus (if pairing.approver then "本设备已确认短认证码，正在等待新设备确认"
      else "本设备已确认短认证码，正在等待旧设备完成批准")
  else
    record (.compared pairing)
    setPairing (some { pairing with ourConfirmed := true })
    if pairing.approver then
      if pairing.peerConfirmed then finishPairingAsApprover env
      else setStatus "旧设备已确认短认证码，等待新设备在通知页确认"
    else
      sendPairingPayload env pairing "sas_confirmed" (utf8 "sas-confirmed")
      setStatus "已确认短认证码，等待旧设备批准并迁移历史"

/-! ## Events -/

/-- The approver's key: the pending device derives the channel from it. -/
def handleSasPublic (event : PairingEvent) : ClientM P Unit := do
  let stored ← getApp fun app => app.profile.pairingSecret
  let secret ← Prog.orFail stored "本地缺少待批准设备的配对密钥"
  Prog.ensure (event.payload.length = 32) "无效的配对公钥"
  let channel ← Prog.ofExcept (establish P secret event.payload event.pairingId)
  let approverDeviceName := if event.senderDeviceName.toList.all isWhitespace then
      "旧设备 " ++ String.ofList (event.senderDeviceId.toList.take 8)
    else event.senderDeviceName
  setStatus ("与旧设备 " ++ approverDeviceName ++ " 比较短认证码")
  setPairing (some
    { pairingId := event.pairingId
      peerDeviceId := event.senderDeviceId
      pendingDevice := .default
      channel
      approver := false
      ourConfirmed := false
      peerConfirmed := false })
  savePendingPairingNotification env event.pairingId event.senderDeviceId approverDeviceName
    event.payload

def handleSasConfirmed (event : PairingEvent) : ClientM P Unit := do
  let current ← getApp App.pairing
  match current with
  | none => setStatus "收到已失效配对的确认；如设备尚未激活，请在通知页重新开始配对"
  | some pairing =>
    Prog.ensure (pairing.pairingId = event.pairingId) "配对确认认证失败"
    let plaintext ← Prog.ofExcept (pairing.channel.decrypt P pairing.pairingId event.payload)
    Prog.ensure (plaintext = utf8 "sas-confirmed") "配对确认认证失败"
    setPairing (some { pairing with peerConfirmed := true })
    if pairing.ourConfirmed = true ∧ pairing.approver = true then finishPairingAsApprover env
    else setStatus "新设备已确认短认证码；核对无误后在通知页点击确认"

/-- What the import of contacts writes, newest first. -/
def importEvents (pairing : PairingSession) (s : Store P) : List TransferContact → List Event
  | [] => []
  | c :: cs => ((s.putContact (Store.importRow c)).map fun s' => importEvents pairing s' cs).getD [] ++
      [keyWritten s c.bundle, .migrated pairing (.contact c.bundle)]

def importContacts (pairing : PairingSession) (contacts : List TransferContact) : ClientM P Unit :=
  executeRecording env (fun w => w.store.importContacts contacts)
    fun w => importEvents pairing w.store contacts

def handleBootstrap (event : PairingEvent) : ClientM P Unit := do
  let current ← getApp App.pairing
  let pairing ← Prog.orFail current "没有已认证的配对通道"
  Prog.ensure (pairing.ourConfirmed = true) "在本机确认短认证码前拒绝密钥迁移"
  let plaintext ← Prog.ofExcept (pairing.channel.decrypt P pairing.pairingId event.payload)
  let transfer ← Prog.orFail (env.bootstrapFromSlice plaintext) "invalid JSON"
  let master ← getApp fun app => app.profile.accountMasterPublic
  Prog.ensure (P.verifyingKey transfer.masterSecret = master) "旧设备传来的账号主密钥与待配对身份不一致"
  record (.migrated pairing (.master transfer.masterSecret))
  modifyApp fun app => { app with
    profile := { app.profile with
      identity := app.profile.identity.installMasterSecret transfer.masterSecret } }
  importContacts env pairing transfer.contacts
  loadContacts env
  let profile ← getApp App.profile
  execute env fun s => some (s.saveProfile profile)
  setStatus "账号密钥已安全迁移，正在接收历史消息"

/-- One message of a history transfer. -/
def importMessage (pairing : PairingSession) (message : ChatMessage) : ClientM P Unit :=
  executeRecording env (fun w => w.store.insertMessage { message with provenance := none })
    fun _ => [.migrated pairing (.message message.id)]

def handleHistoryChunk (event : PairingEvent) : ClientM P Unit := do
  let current ← getApp App.pairing
  let pairing ← Prog.orFail current "没有已认证的配对通道"
  let plaintext ← Prog.ofExcept (pairing.channel.decrypt P pairing.pairingId event.payload)
  let transfer ← Prog.orFail (env.historyFromSlice plaintext) "invalid JSON"
  Prog.each (importMessage env pairing) transfer.messages
  setStatus "已迁移一批历史消息"

def handleDeviceActivated (event : PairingEvent) : ClientM P Unit := do
  let hasMaster ← getApp fun app => app.profile.identity.master.isSome
  Prog.ensure (hasMaster = true) "设备激活时尚未收到账号主密钥"
  modifyApp fun app => { app with
    profile := { app.profile with pending := false, pairingSecret := none } }
  let profile ← getApp App.profile
  execute env fun s => some (s.saveProfile profile)
  let notification ← notificationByRequestId env event.pairingId
  match notification with
  | none => pure ()
  | some n => markNotificationState env n.id .completed true
  modifyApp fun app => { app with
    pairing := none
    connected := false
    backgroundRequests := ∅
    backgroundDeadlines := ∅
    syncInFlight := false
    postActivationSync := true
    status := "正在后台重新连接…" }

def handlePairingEvent (event : PairingEvent) : ClientM P Unit := do
  let pending ← getApp fun app => app.profile.pending
  if event.eventType = "sas_public" ∧ pending = true then handleSasPublic env event
  else if event.eventType = "sas_confirmed" then handleSasConfirmed env event
  else if event.eventType = "bootstrap" ∧ pending = true then handleBootstrap env event
  else if event.eventType = "history_chunk" ∧ pending = true then handleHistoryChunk env event
  else if event.eventType = "history_complete" ∧ pending = true then
    setStatus "历史迁移完成，等待服务器激活设备"
  else if event.eventType = "device_activated" ∧ pending = true then handleDeviceActivated env event
  else pure ()

/-! ## Pairing notifications -/

/-- The request a pairing notification was made of. -/
def NotificationData.pairingRequest : NotificationData → Option PairingRequest
  | .pairing false pairingId pendingDeviceId pendingDeviceName sasPublicKey device => some
      { pairingId, pendingDeviceId, pendingDeviceName, sasPublicKey, pendingDevice := some device }
  | _ => none

def addPairingRequest (requests : List PairingRequest) (r : PairingRequest) : List PairingRequest :=
  if requests.any fun known => known.pairingId = r.pairingId then requests else requests ++ [r]

def activatePairingNotification (n : Notification) : ClientM P Unit :=
  match n.data with
  | .pairing true pairingId _ _ _ _ => do
    let current ← getApp fun app => app.pairing.any fun p => p.pairingId = pairingId
    if current then confirmPairing env
    else Prog.fail "配对通道尚未建立；请让旧设备重新点击“开始配对”"
  | .pairing false pairingId pendingDeviceId pendingDeviceName sasPublicKey device => do
    modifyApp fun app => { app with
      pairingRequests := addPairingRequest app.pairingRequests
        { pairingId, pendingDeviceId, pendingDeviceName, sasPublicKey, pendingDevice := some device } }
    startPairing env (some pairingId)
    markNotificationState env n.id .inProgress true
  | _ => Prog.fail "配对通知数据无效"

def activateSelectedNotification : ClientM P Unit := do
  let selected ← getApp App.selectedNotification
  match selected with
  | none => setStatus "当前没有选中的通知"
  | some n =>
    markNotificationRead env n.id
    match n.kind with
    | .pairing => activatePairingNotification env n
    | .chatRequest => acceptChatRequest env n
    | .chatResponse => setStatus "该通知已经处理"

def activateNotificationPrimary : ClientM P Unit := do
  let selected ← getApp App.selectedNotification
  match selected with
  | none => pure ()
  | some n =>
    let current ← getApp fun app => app.pairing.any fun p => p.pairingId = n.requestId
    if n.kind = .pairing ∧ n.state = .inProgress ∧ current = true then confirmPairing env
    else if n.kind = .chatResponse ∧ n.state = .accepted then verifyNotificationContact env n
    else activateSelectedNotification env

def reconcilePairingNotifications : ClientM P Unit := do
  let idle ← getApp fun app => app.profile.pending ||
    !(app.notifications.any fun n => n.kind = .pairing && notificationRequiresAction n.state) ||
    app.backgroundRequests.rows.any fun r => r.2 = .reconcilePairing
  if idle then pure ()
  else
    let username ← getApp fun app => app.profile.username
    let id ← newUuid env
    dispatchBackground env (frame id (.lookupUser { exactUsername := username })) .reconcilePairing

/-- `update_notification_state(.., Completed, true)`. -/
def completeNotification (n : Notification) : ClientM P Unit := do
  let now ← nowMs env
  execute env fun s => some (s.updateNotificationState n.id .completed true now)

def reconcilePairingNotificationsFromBundle (bundle : UserBundle) : ClientM P Unit := do
  Prog.ofExcept (validateBundle P bundle)
  let profile ← getApp App.profile
  Prog.ensure (bundle.accountId = profile.accountId ∧
    bundle.accountMasterKey = profile.accountMasterPublic) "服务器返回的本账号设备列表不匹配"
  let completed ← getApp fun app => app.notifications.filter fun n =>
    n.kind = .pairing && notificationRequiresAction n.state &&
      (activeDevice bundle n.actorDeviceId).isSome
  if completed = [] then pure ()
  else
    Prog.each (completeNotification env) completed
    modifyApp fun app => { app with
      pairingRequests := app.pairingRequests.filter fun r =>
        !completed.any fun n => r.pendingDeviceId = n.actorDeviceId }
    refreshNotifications env
    setStatus "已同步设备配对结果"

end TuiChat
