import TuiChat.Server.AppState
import TuiChat.Lib.Text

/-!
# The task of a connection

`connection` and `handle_frame` of `crates/server/src/ws.rs`, one definition for each kind of frame.
A handler is cut where the source waits; a refusal is an error, and what was done before it stays
done.
-/

namespace TuiChat

open Lib (Bytes Proc isWhitespace)
open Lib.Wire (utf8)

namespace Ws

variable (env : ServerEnvironment) (P : Primitives) (token : Nat) (requestId : String)

def reply (body : Body) : ServerM Unit := send env token (frame requestId body)

/-- A write that a constraint may refuse. -/
def write (f : Db → Except Error Db) : ServerM Unit :=
  execute env fun db => (f db).map fun db => ((), db)

/-! ## Sessions -/

def activeSession : ServerM Session := do
  let slot ← getConnection Connection.session
  let session ← Proc.orFail slot "authentication required"
  Proc.ensure (session.pending = false) "device approval is pending"
  pure session

def usableSession : ServerM Session := activeSession

/-- The session of any kind. -/
def anySession (e : Error) : ServerM Session := do
  let slot ← getConnection Connection.session
  Proc.orFail slot e

def ensureUnauthenticated : ServerM Unit := do
  let slot ← getConnection Connection.session
  Proc.ensure (slot.isNone = true) "connection is already authenticated"

/-- `slot.take()`. -/
def takeChallenge : ServerM (Option Challenge) :=
  .atomically fun w => (.ok w.2.challenge,
    (w.1, { w.2 with challenge := none, log := .taken w.2.challenge :: w.2.log }))

def takeValidChallenge (username deviceId : String) : ServerM Challenge := do
  let slot ← takeChallenge
  let challenge ← Proc.orFail slot "send ClientHello first"
  let username ← Proc.ofExcept (normalizeUsername username)
  let now ← nowMsRecording env
  Proc.ensure (challenge.username = username ∧ challenge.deviceId = deviceId ∧
    now ≤ challenge.expiresAtMs) "authentication challenge is invalid or expired"
  pure challenge

def bootstrapMode (session : Session) : BootstrapMode :=
  if session.pending = false then .none
  else if session.account.masterPublicKey.isNone then .firstDevice
  else .pendingDevice

def sendAuthenticated (session : Session) : ServerM Unit :=
  reply env token requestId (.authenticated
    { accountId := session.account.id
      username := session.account.username
      deviceId := session.deviceId
      passwordChangeRequired := session.passwordChangeRequired
      pendingDevice := session.pending
      accountMasterKey := session.account.masterPublicKey.getD []
      rosterRevision := session.account.rosterRevision
      bootstrapMode := bootstrapMode session
      capabilities := [capabilityOwnDevices, capabilityStableErrors] })

/-- The announcement of a pending device. -/
def pairingRequest (device : DeviceBundle) (sasPublicKey : Bytes) : PairingRequest :=
  { pairingId := device.deviceId
    pendingDeviceId := device.deviceId
    pendingDeviceName := device.deviceName
    sasPublicKey
    pendingDevice := some device }

def pushQueuedEvent (session : Session) (devices : List DeviceBundle) (row : PairingEventRow) :
    ServerM Unit :=
  send env token (frame "" (.pairingEvent
    { pairingId := row.pairingId
      targetDeviceId := session.deviceId
      eventType := row.eventType
      payload := row.payload
      senderDeviceId := row.senderDeviceId
      serverEventId := row.id
      senderDeviceName := ((devices.find? fun d => d.deviceId = row.senderDeviceId).map
        DeviceBundle.deviceName).getD "未知设备" }))

def pushPendingDevice (session : Session) (pending : DeviceBundle × Bytes) : ServerM Unit :=
  if pending.1.deviceId = session.deviceId then pure ()
  else send env token (frame "" (.pairingRequest (pairingRequest pending.1 pending.2)))

/-- What waits for a device: its pairing events, and the other pending devices of the account. -/
def pushPostAuth (session : Session) : ServerM Unit := do
  let devices ← query env fun db => db.deviceBundles session.account.id true
  let now ← nowMs env
  let events ← query env fun db => db.pendingPairingEvents session.deviceId now
  Proc.each (pushQueuedEvent env token session devices) events
  let pending ← query env fun db => db.pendingDevices session.account.id
  Proc.each (pushPendingDevice env token session) pending

/-! ## Authentication -/

def handleClientHello (hello : ClientHello) : ServerM Unit := do
  ensureUnauthenticated
  let username ← Proc.ofExcept (normalizeUsername hello.username)
  Proc.ensure (validUuid hello.deviceId = true) "invalid device id"
  Proc.ensure (hello.capabilities.length ≤ 32 ∧ hello.capabilities.all (fun capability =>
    capability ≠ "" && (utf8 capability).length ≤ 64) = true) "invalid client capabilities"
  let nonce ← learn fun n w => (.ok (env.nonce n), w)
  let now ← nowMs env
  let challenge : Challenge :=
    { username
      deviceId := hello.deviceId
      nonce
      expiresAtMs := now + 30000
      capabilities := hello.capabilities }
  modifyConnection fun c => { c with
    challenge := some challenge
    log := .challenged challenge :: c.log }
  reply env token requestId (.authChallenge { nonce, expiresAtMs := challenge.expiresAtMs })

def handleDeviceAuth (auth : DeviceAuth) : ServerM Unit := do
  ensureUnauthenticated
  let challenge ← takeValidChallenge env auth.username auth.deviceId
  let account ← accountByUsername env challenge.username
  let account ← Proc.orFail account "invalid credentials"
  Proc.ensure (account.state = .active) "invalid credentials"
  let found ← device env account.id auth.deviceId
  let found ← Proc.orFail found "invalid credentials"
  Proc.ensure (found.active = true) "device is not active"
  Proc.ofExcept (verifySignature P found.authSigningKey
    (authChallengePayload env.publicDomain account.username auth.deviceId challenge.nonce
      challenge.expiresAtMs) auth.signature)
  let now ← nowMs env
  update env fun db => db.recordDeviceAuthentication auth.deviceId now
  let session : Session :=
    { account
      deviceId := auth.deviceId
      pending := false
      passwordChangeRequired := account.requirePasswordChange
      capabilities := challenge.capabilities }
  register session token
  sendAuthenticated env token requestId session
  pushPostAuth env token session
  let _ ← Proc.caught (audit env "auth" account.username "device_auth" session.deviceId "success")
  modifyConnection fun c => { c with session := some session }

/-- The new hash of a weak one is stored. -/
def rehashPassword (account : AccountRow) (replacement : Option String) : ServerM AccountRow :=
  match replacement with
  | none => pure account
  | some phc => do
    update env fun db => db.setPassword account.id phc account.requirePasswordChange
    pure { account with passwordPhc := phc }

/-- What follows a password that was verified for the account of a row. -/
def openPendingSession (challenge : Challenge) (row : AccountRow) (replacement : Option String) :
    ServerM Unit := do
  let account ← rehashPassword env row replacement
  let existing ← device env account.id challenge.deviceId
  Proc.ensure (existing.all DeviceRow.pending = true) "existing devices must use challenge signatures"
  let session : Session :=
    { account
      deviceId := challenge.deviceId
      pending := true
      passwordChangeRequired := false
      capabilities := challenge.capabilities }
  sendAuthenticated env token requestId session
  if existing.isSome then
    register session token
    pushPostAuth env token session
  let _ ← Proc.caught (audit env "auth" account.username "password_auth" session.deviceId "success")
  modifyConnection fun c => { c with
    session := some session
    log := .passwordAccepted row session.deviceId :: c.log }

def handlePasswordAuth (auth : PasswordAuth) : ServerM Unit := do
  ensureUnauthenticated
  let challenge ← takeValidChallenge env auth.username auth.deviceId
  Proc.ensure (auth.password ≠ "" ∧ (utf8 auth.password).length ≤ 1024) "invalid credentials"
  let allowed ← learn fun n w => (.ok (env.allowsPasswordAttempt n), w)
  Proc.ensure (allowed = true) "too many authentication attempts; retry later"
  let account ← accountByUsername env challenge.username
  let phc := (account.map AccountRow.passwordPhc).getD env.dummyPasswordPhc
  let (valid, replacement) ← learn fun n w =>
    (.ok (verifyPassword env.passwords n phc auth.password), w)
  match account.filter fun row => valid && row.state = .active with
  | none =>
    let _ ← Proc.caught (audit env "auth" challenge.username "password_auth" challenge.deviceId "failure")
    Proc.fail "invalid credentials"
  | some row => openPendingSession env token requestId challenge row replacement

/-- The bundle of a device that is submitted. -/
def BootstrapDevice.bundle (m : BootstrapDevice) : DeviceBundle :=
  { deviceId := m.deviceId
    deviceName := m.deviceName
    authSigningKey := m.authSigningKey
    olmEd25519Key := m.olmEd25519Key
    olmCurve25519Key := m.olmCurve25519Key
    certificateSignature := m.certificateSignature
    revoked := false }

/-- `s.trim().is_empty()`. -/
def isBlankName (s : String) : Bool := s.toList.all isWhitespace

def validBootstrap (m : BootstrapDevice) : Bool :=
  validUuid m.deviceId && !isBlankName m.deviceName && m.deviceName.length ≤ 64 &&
    m.authSigningKey.length = 32 && m.olmEd25519Key.length = 32 && m.olmCurve25519Key.length = 32 &&
    m.accountMasterKey.length = 32 && m.sasPublicKey.length = 32 && m.oneTimeKeys.length ≤ 100

/-- The first device of an account claims its master key. -/
def bootstrapFirst (session : Session) (m : BootstrapDevice) : ServerM Unit := do
  Proc.ofExcept (verifyDeviceCertificate P m.accountMasterKey session.account.id (BootstrapDevice.bundle m))
  executeRecording env
    (fun _ db => (db.bootstrapMaster session.account.id m.accountMasterKey).map fun db => ((), db))
    (fun _ _ => []) fun db => [.masterClaimed session.account.id m.accountMasterKey
      ((db.accounts.find session.account.id).bind AccountRow.masterPublicKey)]
  let now ← nowMs env
  write env fun db => db.insertDevice session.account.id (BootstrapDevice.bundle m) m.sasPublicKey false now
  let now ← nowMs env
  write env fun db => db.publishPreKeys session.deviceId m.oneTimeKeys now
  let session := { session with
    account := { session.account with
      masterPublicKey := some m.accountMasterKey
      rosterRevision := 1 }
    pending := false
    passwordChangeRequired := session.account.requirePasswordChange }
  modifyConnection fun c => { c with session := some session }
  register session token
  sendAuthenticated env token requestId session

/-- Another device of the account waits for its approval. -/
def bootstrapPending (session : Session) (m : BootstrapDevice) (counts : Nat × Nat) : ServerM Unit := do
  Proc.ensure (counts.1 < 8 ∧ counts.2 < 2) "account device limit reached"
  Proc.ensure (session.account.masterPublicKey = some m.accountMasterKey) "account identity mismatch"
  Proc.ensure (m.certificateSignature = []) "pending device certificate must be issued by an existing device"
  let now ← nowMs env
  write env fun db => db.insertDevice session.account.id (BootstrapDevice.bundle m) m.sasPublicKey true now
  let now ← nowMs env
  write env fun db => db.publishPreKeys session.deviceId m.oneTimeKeys now
  register session token
  pushAccount env session.account.id
    (frame "" (.pairingRequest (pairingRequest (BootstrapDevice.bundle m) m.sasPublicKey)))
  sendAuthenticated env token requestId session

def handleBootstrapDevice (m : BootstrapDevice) : ServerM Unit := do
  let session ← anySession "password authentication required"
  Proc.ensure (session.pending = true ∧ m.deviceId = session.deviceId) "invalid bootstrap state"
  let existing ← device env session.account.id session.deviceId
  Proc.ensure (existing.isNone = true) "device was already submitted"
  Proc.ensure (validBootstrap m = true) "invalid public key length"
  let hasDevices ← query env fun db => db.hasActiveDevices session.account.id
  let counts ← query env fun db => db.deviceCounts session.account.id
  if hasDevices = false ∧ session.account.masterPublicKey = none then
    Proc.ensure (counts = (0, 0)) "account device state is inconsistent"
    bootstrapFirst env P token requestId session m
  else bootstrapPending env token requestId session m counts

def handleChangePassword (change : ChangePassword) : ServerM Unit := do
  let session ← activeSession
  Proc.ensure (change.currentPassword ≠ "" ∧ (utf8 change.currentPassword).length ≤ 1024)
    "current password is incorrect"
  Proc.ofExcept (validatePassword change.newPassword)
  let (valid, _) ← learn fun n w =>
    (.ok (verifyPassword env.passwords n session.account.passwordPhc change.currentPassword), w)
  Proc.ensure (valid = true) "current password is incorrect"
  let phc ← learn fun n w => (hashPassword env.passwords n change.newPassword, w)
  update env fun db => db.setPassword session.account.id phc false
  let session := { session with
    account := { session.account with passwordPhc := phc, requirePasswordChange := false }
    passwordChangeRequired := false }
  modifyConnection fun c => { c with session := some session }
  audit env "auth" session.account.username "password_change" session.deviceId "success"
  sendAuthenticated env token requestId session

/-! ## Directories and prekeys -/

def handleLookupUser (lookup : LookupUser) : ServerM Unit := do
  let _ ← usableSession
  let username ← Proc.ofExcept (normalizeUsername lookup.exactUsername)
  let found ← query env fun db => db.lookupUserBundle username
  let (account, devices) ← Proc.orFail found "user not found"
  reply env token requestId (.userBundle
    { accountId := account.id
      username := account.username
      accountMasterKey := account.masterPublicKey.getD []
      rosterRevision := account.rosterRevision
      devices })

def checkPreKey (device : DeviceRow) (key : OneTimeKey) : ServerM Unit := do
  Proc.ensure (key.keyId ≠ "" ∧ (utf8 key.keyId).length ≤ 64 ∧ key.curve25519Key.length = 32 ∧
    key.signature.length = 64) "invalid prekey fields"
  Proc.ofExcept (verifyPrekey P device.authSigningKey key)

def handlePublishPreKeys (keys : PublishPreKeys) : ServerM Unit := do
  let session ← usableSession
  Proc.ensure (keys.keys.length ≤ 100) "too many prekeys"
  let found ← device env session.account.id session.deviceId
  let found ← Proc.orFail found "device missing"
  Proc.each (checkPreKey P found) keys.keys
  let now ← nowMs env
  write env fun db => db.publishPreKeys session.deviceId keys.keys now
  reply env token requestId .operationOk

def handleClaimPreKey (claim : ClaimPreKey) : ServerM Unit := do
  let _ ← usableSession
  Proc.ensure (validUuid claim.accountId = true ∧ validUuid claim.deviceId = true) "invalid prekey target"
  let claimed ← execute env fun db => .ok (db.claimPreKey claim.accountId claim.deviceId)
  let (device, oneTimeKey) ← Proc.orFail claimed "recipient has no available prekey"
  reply env token requestId (.preKeyBundle { device := some device, oneTimeKey := some oneTimeKey })

/-! ## Envelopes -/

def checkEnvelope (e : EncryptedEnvelope) : ServerM Unit := do
  let now ← nowMs env
  Proc.ensure (validUuid e.envelopeId = true ∧ validUuid e.logicalMessageId = true ∧
    validUuid e.recipientAccountId = true ∧ validUuid e.recipientDeviceId = true ∧
    (utf8 e.conversationId).length = 64 ∧ (utf8 e.conversationId).all isHexDigit = true ∧
    0 ≤ e.clientSentAtMs ∧ e.clientSentAtMs ≤ now + 5 * 60 * 1000) "invalid encrypted envelope fields"

/-- The batch that a live push carries. -/
def pushedBatch (stored : StoredEnvelope) : SyncBatch :=
  { envelopes := [stored]
    nextCursor := stored.cursor
    hasMore := false
    deliveryUpdates := []
    nextStatusCursor := 0 }

/-- The first envelope of the batch for a device, as it is stored, is pushed to the device. -/
def pushStored (envelopes : List EncryptedEnvelope) (destination : String × Nat) : ServerM Unit :=
  match envelopes.find? fun e => e.recipientDeviceId = destination.1 with
  | none => pure ()
  | some e => do
    let stored ← query env fun db => db.storedEnvelopeById e.envelopeId
    match stored with
    | none => pure ()
    | some stored => pushDevice env destination.1 (frame "" (.syncBatch (pushedBatch stored)))

/-- The rows that a write added. -/
def addedRows (db db' : Db) : List EnvelopeRow :=
  db'.envelopes.rows.filter fun row => (db.envelopes.find row.envelopeId).isNone

def handleSendEnvelopes (m : SendEnvelopes) : ServerM Unit := do
  let session ← usableSession
  Proc.ensure (session.passwordChangeRequired = false) "password change is required before sending"
  Proc.each (checkEnvelope env) m.envelopes
  let now ← nowMs env
  let destinations ← executeRecording env
    (fun n db => db.storeEnvelopes P.sha256 session.account.id session.deviceId m.envelopes now
      env.storageLimits (env.freeDiskBytes n))
    (fun db r => (addedRows db r.2).map ServerEvent.stored) fun _ => []
  Proc.each (pushStored env m.envelopes) destinations
  reply env token requestId (.sendAccepted
    { logicalMessageId := (m.envelopes.head?.map EncryptedEnvelope.logicalMessageId).getD ""
      acceptedAtMs := now })

/-- The page that a `SyncRequest` is answered with. -/
def syncPage (db : Db) (accountId deviceId : String) (m : SyncRequest) : SyncBatch :=
  let (envelopes, statuses, hasMore) :=
    db.sync accountId deviceId m.afterCursor m.afterStatusCursor m.limit
  { envelopes
    nextCursor := (envelopes.getLast?.map StoredEnvelope.cursor).getD m.afterCursor
    hasMore
    deliveryUpdates := statuses
    nextStatusCursor := (statuses.getLast?.map StoredDeliveryUpdate.cursor).getD m.afterStatusCursor }

def handleSyncRequest (m : SyncRequest) : ServerM Unit := do
  let session ← usableSession
  let batch ← query env fun db => syncPage db session.account.id session.deviceId m
  reply env token requestId (.syncBatch batch)

/-- The row that a device acknowledges. -/
def acknowledgedRow (db : Db) (deviceId envelopeId : String) : Option EnvelopeRow :=
  (db.envelopes.find envelopeId).filter fun row => row.envelope.recipientDeviceId = deviceId

/-- `OperationOk`, to a request with an id. -/
def confirm : ServerM Unit :=
  if requestId = "" then pure () else reply env token requestId .operationOk

def handleAckEnvelope (ack : AckEnvelope) : ServerM Unit := do
  let session ← usableSession
  Proc.ensure (validUuid ack.envelopeId = true) "invalid envelope acknowledgement"
  let now ← nowMs env
  let acked ← executeRecording env
    (fun _ db => .ok (db.ack session.deviceId ack.envelopeId now))
    (fun db _ => (acknowledgedRow db session.deviceId ack.envelopeId).toList.map ServerEvent.acknowledged)
    fun _ => []
  match acked with
  | none => pure ()
  | some (senderAccount, logical) =>
    let now ← nowMs env
    pushAccount env senderAccount
      (frame "" (.deliveryUpdate { logicalMessageId := logical, deliveredAtMs := now }))
  confirm env token requestId

/-! ## Pairing -/

def pairingEventTypes : List String :=
  ["sas_public", "sas_confirmed", "bootstrap", "history_chunk", "history_complete"]

def maxPairingPayload : Nat := 192 * 1024

def handlePairingEvent (event : PairingEvent) : ServerM Unit := do
  let session ← anySession "authentication required"
  Proc.ensure (event.serverEventId = 0 ∧ validUuid event.pairingId = true ∧
    validUuid event.targetDeviceId = true ∧ event.payload.length ≤ maxPairingPayload ∧
    event.eventType ∈ pairingEventTypes) "invalid pairing event"
  let targetAccount ← query env fun db => db.deviceAccountAny event.targetDeviceId
  let targetAccount ← Proc.orFail targetAccount "target device not found"
  Proc.ensure (targetAccount = session.account.id) "pairing is restricted to the same account"
  let pending ← device env session.account.id event.pairingId
  Proc.ensure (pending.any (fun row => row.pending && !row.revoked) = true) "pairing request is not active"
  Proc.ensure (session.deviceId = event.pairingId ∨ event.targetDeviceId = event.pairingId)
    "pairing event is not bound to the pending device"
  let now ← nowMs env
  let eventId ← execute env fun db => db.insertPairingEvent event.pairingId session.deviceId
    event.targetDeviceId event.eventType event.payload (now + env.pairingTtlSeconds * 1000)
  let devices ← query env fun db => db.deviceBundles session.account.id true
  let sender ← Proc.orFail (devices.find? fun d => d.deviceId = session.deviceId) "sender device not found"
  pushDevice env event.targetDeviceId (frame "" (.pairingEvent { event with
    senderDeviceId := session.deviceId
    senderDeviceName := sender.deviceName
    serverEventId := eventId }))
  confirm env token requestId

def handleAckPairingEvent (ack : AckPairingEvent) : ServerM Unit := do
  let session ← anySession "authentication required"
  Proc.ensure (ack.serverEventId ≠ 0) "pairing event not found"
  let found ← execute env fun db => .ok (db.ackPairingEvent session.deviceId ack.serverEventId)
  Proc.ensure (found = true) "pairing event not found"
  confirm env token requestId

/-- The push that tells a device of its activation; it is not numbered and not queued. -/
def activatedEvent (pairingId target sender : String) : PairingEvent :=
  { pairingId
    targetDeviceId := target
    eventType := "device_activated"
    payload := []
    senderDeviceId := sender
    serverEventId := 0
    senderDeviceName := "" }

def handleActivateDevice (activate : ActivateDevice) : ServerM Unit := do
  let session ← usableSession
  let bundle ← Proc.orFail activate.device "missing device bundle"
  Proc.ensure (validUuid activate.pairingId = true ∧ validUuid bundle.deviceId = true ∧
    activate.pairingId = bundle.deviceId ∧ bundle.deviceName.length ≤ 64 ∧
    bundle.authSigningKey.length = 32 ∧ bundle.olmEd25519Key.length = 32 ∧
    bundle.olmCurve25519Key.length = 32 ∧ bundle.certificateSignature.length = 64 ∧
    activate.rosterSignature.length = 64) "invalid device activation fields"
  let devices ← query env fun db => db.deviceBundles session.account.id true
  let pending ← Proc.orFail (devices.find? fun d => d.deviceId = bundle.deviceId) "pending device not found"
  Proc.ensure (pending.authSigningKey = bundle.authSigningKey ∧
    pending.olmEd25519Key = bundle.olmEd25519Key ∧
    pending.olmCurve25519Key = bundle.olmCurve25519Key) "pending device keys changed"
  let master ← Proc.orFail session.account.masterPublicKey "account is not bootstrapped"
  Proc.ofExcept (verifyDeviceCertificate P master session.account.id bundle)
  Proc.ofExcept (verifyRosterSignature P master session.account.id activate.rosterRevision
    bundle.deviceId activate.rosterSignature)
  write env fun db => db.activateDevice session.account.id bundle.deviceId activate.rosterRevision
    bundle.certificateSignature
  pushDevice env bundle.deviceId (frame "" (.pairingEvent
    (activatedEvent activate.pairingId bundle.deviceId session.deviceId)))
  reply env token requestId .operationOk

/-! ## Own devices -/

def ownDeviceListOrder (a b : OwnDeviceInfo) : Bool :=
  let key (d : OwnDeviceInfo) : Bool × Bool × Bool := (!d.current, d.revoked, d.pending)
  (key a).1 < (key b).1 || ((key a).1 = (key b).1 &&
    ((key a).2.1 < (key b).2.1 || ((key a).2.1 = (key b).2.1 &&
      ((key a).2.2 < (key b).2.2 || ((key a).2.2 = (key b).2.2 && a.createdAtMs ≤ b.createdAtMs)))))

def ownDeviceList (accountId currentDeviceId : String) : ServerM OwnDeviceList := do
  let online ← getState fun state => (state.connections.rows.filter fun live =>
    live.accountId = accountId).map LiveConnection.deviceId
  let devices ← query env fun db => db.ownDevices accountId
  let marked := devices.map fun d => { d with
    current := decide (d.deviceId = currentDeviceId)
    online := decide (d.deviceId ∈ online) }
  pure { devices := marked.insertionSort fun a b => ownDeviceListOrder a b }

def ensureOwnDevices (session : Session) : ServerM Unit :=
  Proc.ensure (capabilityOwnDevices ∈ session.capabilities)
    "client did not negotiate own device management"

def handleListOwnDevices : ServerM Unit := do
  let session ← usableSession
  ensureOwnDevices session
  let devices ← ownDeviceList env session.account.id session.deviceId
  reply env token requestId (.ownDeviceList devices)

def handleRevokeOwnDevice (revoke : RevokeOwnDevice) : ServerM Unit := do
  let session ← usableSession
  ensureOwnDevices session
  Proc.ensure (validUuid revoke.deviceId = true) "invalid device id"
  Proc.ensure (revoke.deviceId ≠ session.deviceId) "cannot revoke the current device"
  let revoked ← execute env fun db => .ok (db.markRevoked session.account.id revoke.deviceId)
  Proc.ensure (revoked = true) "device is not active or does not belong to this account"
  update env fun db => db.cleanupRevokedDevice revoke.deviceId
  kickDevice revoke.deviceId "access_revoked"
  audit env "device" session.account.username "self_service_revoke" revoke.deviceId "success"
  let devices ← ownDeviceList env session.account.id session.deviceId
  reply env token requestId (.ownDeviceList devices)

/-! ## Frames -/

def handleBody : Body → ServerM Unit
  | .clientHello m => handleClientHello env token requestId m
  | .deviceAuth m => handleDeviceAuth env P token requestId m
  | .passwordAuth m => handlePasswordAuth env token requestId m
  | .bootstrapDevice m => handleBootstrapDevice env P token requestId m
  | .changePassword m => handleChangePassword env token requestId m
  | .lookupUser m => handleLookupUser env token requestId m
  | .publishPreKeys m => handlePublishPreKeys env P token requestId m
  | .claimPreKey m => handleClaimPreKey env token requestId m
  | .sendEnvelopes m => handleSendEnvelopes env P token requestId m
  | .syncRequest m => handleSyncRequest env token requestId m
  | .ackEnvelope m => handleAckEnvelope env token requestId m
  | .pairingEvent m => handlePairingEvent env token requestId m
  | .ackPairingEvent m => handleAckPairingEvent env token requestId m
  | .activateDevice m => handleActivateDevice env P token requestId m
  | .listOwnDevices => handleListOwnDevices env token requestId
  | .revokeOwnDevice m => handleRevokeOwnDevice env token requestId m
  | .ping m => reply env token requestId (.pong { sentAtMs := m.sentAtMs })
  | .pong _ => pure ()
  | _ => Proc.fail "frame type is not valid in this direction"

def handleFrame (incoming : Frame) : ServerM Unit := do
  let body ← Proc.orFail incoming.body "empty frame"
  handleBody env P token incoming.id body

/-! ## The loop -/

/-- What the task of a connection waits for. -/
inductive Incoming
  /-- A binary message, as `decode_frame` takes it. -/
  | binary (decoded : Except Error Frame)
  | ping (first : Nat)
  | other
  /-- The peer closed the connection, it failed, or nothing came for a minute. -/
  | closed
  | disconnect (reason : String)

/-- The loop is left. -/
def close : ServerM Unit := do
  modifyConnection fun c => { c with closed := true }
  let slot ← getConnection Connection.session
  match slot with
  | none => pure ()
  | some session => unregister session.deviceId token

/-- The request bucket lets the frame pass. -/
def takeRequest : ServerM Bool :=
  learn fun n w =>
    let (admitted, bucket) := w.2.bucket.take env.requestsPerMinute env.requestBurst (env.instant n)
    (.ok admitted, (w.1, { w.2 with bucket }))

/-- The account of an active session is active, and so is its device; a failing query counts as not. -/
def recheckAccess : ServerM Bool := do
  let slot ← getConnection Connection.session
  match slot.filter fun session => !session.pending with
  | none => pure true
  | some active =>
    let account ← Proc.caught (accountByUsername env active.account.username)
    let found ← Proc.caught (device env active.account.id active.deviceId)
    pure (account.toOption.join.any (fun row => row.state = .active) &&
      found.toOption.join.any DeviceRow.active)

def handleReporting (incoming : Frame) : ServerM Unit := do
  let result ← Proc.caught (handleFrame env P token incoming)
  match result with
  | .ok () => pure ()
  | .error e =>
    let e := publicError e
    sendError env token incoming.id e.code e.message e.retryable

def serveFrame (incoming : Frame) : ServerM Unit := do
  record (.received incoming)
  if 64 < (utf8 incoming.id).length then
    sendError env token "" "invalid_frame" "request id is too long" false
    close token
  else
    let admitted ← takeRequest env
    if admitted = false then
      sendError env token incoming.id "rate_limited" "request rate limit exceeded" true
      close token
    else
      let allowed ← recheckAccess env
      if allowed = false then
        sendError env token incoming.id "access_revoked" "account or device access was revoked" false
        close token
      else handleReporting env P token incoming

def serve : Incoming → ServerM Unit
  | .binary (.ok incoming) =>
    if incoming.protocolVersion = protocolVersion then serveFrame env P token incoming
    else sendError env token "" "unsupported_version" "client and server protocol versions differ" false
  | .binary (.error e) => sendError env token "" "invalid_frame" e false
  | .ping first => trySend env token (frame "" (.pong { sentAtMs := first }))
  | .other => pure ()
  | .closed => close token
  | .disconnect reason => do
    sendError env token "" reason "session closed by server" true
    close token

end Ws

end TuiChat
