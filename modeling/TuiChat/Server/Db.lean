import TuiChat.Lib.Table
import TuiChat.Crypto.Identity
import Mathlib.Data.List.Sort

/-!
# The server's database

`crates/server/src/db.rs` and the server's migrations. A query is a function of the tables; a
statement or transaction that writes gives the new tables, or an error and leaves them alone. Primary
keys, the other unique columns and the references between tables are checked where a row is inserted.
An `AUTOINCREMENT` column draws from a counter of its own.
-/

namespace TuiChat

open Lib (Bytes Table nocase)

inductive AccountState
  | active
  | disabled
deriving DecidableEq, Repr

structure AccountRow where
  id : String
  username : String
  passwordPhc : String
  state : AccountState
  requirePasswordChange : Bool
  masterPublicKey : Option Bytes
  rosterRevision : Nat
deriving DecidableEq, Repr

structure DeviceRow where
  id : String
  accountId : String
  name : String
  authSigningKey : Bytes
  olmEd25519Key : Bytes
  olmCurve25519Key : Bytes
  certificateSignature : Bytes
  sasPublicKey : Bytes
  pending : Bool
  revoked : Bool
  createdAtMs : Int
  lastAuthenticatedAtMs : Option Int
deriving DecidableEq, Repr

structure PreKeyRow where
  deviceId : String
  key : OneTimeKey
  createdAtMs : Int
deriving DecidableEq, Repr

def PreKeyRow.id (row : PreKeyRow) : String × String := (row.deviceId, row.key.keyId)

structure LogicalMessageRow where
  logicalMessageId : String
  senderAccountId : String
  senderDeviceId : String
  peerAccountId : String
  conversationId : String
  clientSentAtMs : Int
  acceptedAtMs : Int
  deliveredAtMs : Option Int
deriving DecidableEq, Repr

structure EnvelopeRow where
  cursor : Nat
  envelope : EncryptedEnvelope
  senderAccountId : String
  senderDeviceId : String
  acceptedAtMs : Int
  deliveredAtMs : Option Int
deriving DecidableEq, Repr

def EnvelopeRow.envelopeId (row : EnvelopeRow) : String := row.envelope.envelopeId

structure DeliveryUpdateRow where
  cursor : Nat
  accountId : String
  logicalMessageId : String
  deliveredAtMs : Int
deriving DecidableEq, Repr

def DeliveryUpdateRow.about (row : DeliveryUpdateRow) : String × String :=
  (row.accountId, row.logicalMessageId)

structure PairingEventRow where
  id : Nat
  pairingId : String
  senderDeviceId : String
  targetDeviceId : String
  eventType : String
  payload : Bytes
  expiresAtMs : Int
deriving DecidableEq, Repr

structure AccountStorageUsage where
  accountId : String
  ciphertextBytes : Nat
deriving DecidableEq, Repr

structure AuditEvent where
  category : String
  actor : String
  action : String
  target : String
  result : String
deriving DecidableEq, Repr

structure Db where
  accounts : Table AccountRow.id
  devices : Table DeviceRow.id
  prekeys : Table PreKeyRow.id
  logicalMessages : Table LogicalMessageRow.logicalMessageId
  envelopes : Table EnvelopeRow.envelopeId
  deliveryUpdates : Table DeliveryUpdateRow.about
  pairingEvents : Table PairingEventRow.id
  usage : Table AccountStorageUsage.accountId
  audit : List AuditEvent
  /-- The last cursor of `envelopes`, and the last keys of the tables after it, ever given out. -/
  lastCursor : Nat
  lastUpdate : Nat
  lastPairingEvent : Nat

structure StorageLimits where
  maxAccountCiphertextBytes : Nat
  maxTotalCiphertextBytes : Nat
  minFreeDiskBytes : Nat
deriving DecidableEq, Repr

/-- `n as i64` for an `n : u64`. -/
def asI64 (n : Nat) : Int := if n < 2 ^ 63 then n else (n : Int) - 2 ^ 64

namespace DeviceRow

/-- `device_bundle_from_row`. -/
def bundle (row : DeviceRow) : DeviceBundle :=
  { deviceId := row.id
    deviceName := row.name
    authSigningKey := row.authSigningKey
    olmEd25519Key := row.olmEd25519Key
    olmCurve25519Key := row.olmCurve25519Key
    certificateSignature := row.certificateSignature
    revoked := row.revoked }

/-- `pending = 0 AND revoked = 0`. -/
def active (row : DeviceRow) : Bool := !row.pending && !row.revoked

end DeviceRow

namespace Db

/-! ## Accounts and devices -/

def accountByUsername (db : Db) (username : String) : Option AccountRow :=
  db.accounts.rows.find? fun row => nocase row.username = nocase username

def device (db : Db) (accountId deviceId : String) : Option DeviceRow :=
  (db.devices.find deviceId).filter fun row => row.accountId = accountId

def devicesOf (db : Db) (accountId : String) : List DeviceRow :=
  db.devices.rows.filter fun row => row.accountId = accountId

def hasActiveDevices (db : Db) (accountId : String) : Bool :=
  (db.devicesOf accountId).any DeviceRow.active

/-- The numbers of active and of pending devices. -/
def deviceCounts (db : Db) (accountId : String) : Nat × Nat :=
  ((db.devicesOf accountId).countP DeviceRow.active,
    (db.devicesOf accountId).countP fun row => row.pending && !row.revoked)

def deviceBundles (db : Db) (accountId : String) (includePending : Bool) : List DeviceBundle :=
  ((db.devicesOf accountId).filter fun row => includePending || !row.pending).map DeviceRow.bundle

/-- `ORDER BY revoked, pending, created_at_ms`. -/
def ownDeviceOrder (a b : DeviceRow) : Bool :=
  a.revoked < b.revoked || (a.revoked = b.revoked &&
    (a.pending < b.pending || (a.pending = b.pending && a.createdAtMs ≤ b.createdAtMs)))

def ownDevices (db : Db) (accountId : String) : List OwnDeviceInfo :=
  ((db.devicesOf accountId).insertionSort fun a b => ownDeviceOrder a b).map fun row =>
    { deviceId := row.id
      deviceName := row.name
      pending := row.pending
      revoked := row.revoked
      current := false
      online := false
      createdAtMs := row.createdAtMs
      lastAuthenticatedAtMs := row.lastAuthenticatedAtMs.getD 0 }

def insertDevice (db : Db) (accountId : String) (bundle : DeviceBundle) (sasPublic : Bytes)
    (pending : Bool) (now : Int) : Except Error Db :=
  if (db.accounts.find accountId).isNone then .error "FOREIGN KEY constraint failed"
  else if (db.devices.find bundle.deviceId).isSome then .error "UNIQUE constraint failed"
  else .ok { db with
    devices := db.devices.insertOrIgnore
      { id := bundle.deviceId
        accountId
        name := bundle.deviceName
        authSigningKey := bundle.authSigningKey
        olmEd25519Key := bundle.olmEd25519Key
        olmCurve25519Key := bundle.olmCurve25519Key
        certificateSignature := bundle.certificateSignature
        sasPublicKey := sasPublic
        pending
        revoked := false
        createdAtMs := now
        lastAuthenticatedAtMs := none } }

/-- `UPDATE accounts SET .. WHERE id = ?`. -/
def updateAccount (db : Db) (accountId : String) (f : AccountRow → AccountRow)
    (hf : ∀ row, (f row).id = row.id) : Db :=
  { db with accounts := db.accounts.update (fun row => row.id = accountId) f hf }

/-- The master key of an account that has none. -/
def bootstrapMaster (db : Db) (accountId : String) (master : Bytes) : Except Error Db :=
  if (db.accounts.find accountId).any fun row => row.masterPublicKey.isNone then
    .ok (db.updateAccount accountId
      (fun row => { row with masterPublicKey := some master, rosterRevision := 1 }) fun _ => rfl)
  else .error "account is already bootstrapped"

def setPassword (db : Db) (accountId phc : String) (requireChange : Bool) : Db :=
  db.updateAccount accountId
    (fun row => { row with passwordPhc := phc, requirePasswordChange := requireChange }) fun _ => rfl

def recordDeviceAuthentication (db : Db) (deviceId : String) (now : Int) : Db :=
  { db with
    devices := db.devices.update (fun row => row.id = deviceId)
      (fun row => { row with lastAuthenticatedAtMs := some now }) fun _ => rfl }

def publishPreKeys (db : Db) (deviceId : String) (keys : List OneTimeKey) (now : Int) :
    Except Error Db :=
  if keys ≠ [] ∧ (db.devices.find deviceId).isNone then .error "FOREIGN KEY constraint failed"
  else .ok { db with
    prekeys := keys.foldl
      (fun prekeys key => prekeys.insertOrIgnore { deviceId, key, createdAtMs := now }) db.prekeys }

/-- The device's oldest key is taken out and handed over with its bundle. -/
def claimPreKey (db : Db) (accountId deviceId : String) : Option (DeviceBundle × OneTimeKey) × Db :=
  match (db.device accountId deviceId).filter DeviceRow.active with
  | none => (none, db)
  | some device =>
    match ((db.prekeys.rows.filter fun row => row.deviceId = deviceId).insertionSort
        fun a b => a.createdAtMs ≤ b.createdAtMs).head? with
    | none => (none, db)
    | some row => (some (device.bundle, row.key),
        { db with prekeys := db.prekeys.delete fun other => other.id = row.id })

def lookupUserBundle (db : Db) (username : String) : Option (AccountRow × List DeviceBundle) :=
  match db.accountByUsername username with
  | none => none
  | some account =>
    if account.state ≠ .active ∨ account.masterPublicKey.isNone then none
    else some (account, db.deviceBundles account.id false)

def deviceAccountAny (db : Db) (deviceId : String) : Option String :=
  ((db.devices.find deviceId).filter fun row => !row.revoked).map DeviceRow.accountId

/-- Pending devices, with the keys they wait for an approver with. -/
def pendingDevices (db : Db) (accountId : String) : List (DeviceBundle × Bytes) :=
  ((db.devicesOf accountId).filter fun row => row.pending && !row.revoked).map
    fun row => (row.bundle, row.sasPublicKey)

def activateDevice (db : Db) (accountId deviceId : String) (revision : Nat) (certificate : Bytes) :
    Except Error Db :=
  match db.accounts.find accountId with
  | none => .error "no rows returned"
  | some account =>
    if revision ≠ account.rosterRevision + 1 then .error "roster revision conflict"
    else if !(db.device accountId deviceId).any DeviceRow.pending then
      .error "pending device not found"
    else .ok ({ db with
      devices := db.devices.update (fun row => row.accountId = accountId && row.id = deviceId && row.pending)
        (fun row => { row with pending := false, certificateSignature := certificate }) fun _ => rfl
      }.updateAccount accountId (fun row => { row with rosterRevision := revision }) fun _ => rfl)

/-! ## Envelopes -/

def usageOf (db : Db) (accountId : String) : Nat :=
  ((db.usage.find accountId).map AccountStorageUsage.ciphertextBytes).getD 0

/-- The triggers on `envelopes` that keep the account's number of bytes. -/
def usageAdd (usage : Table AccountStorageUsage.accountId) (row : EnvelopeRow) :
    Table AccountStorageUsage.accountId :=
  let old := ((usage.find row.senderAccountId).map AccountStorageUsage.ciphertextBytes).getD 0
  usage.put
    { accountId := row.senderAccountId, ciphertextBytes := old + row.envelope.ciphertext.length }

def usageRemove (usage : Table AccountStorageUsage.accountId) (row : EnvelopeRow) :
    Table AccountStorageUsage.accountId :=
  usage.update (fun u => u.accountId = row.senderAccountId)
    (fun u => { u with ciphertextBytes := u.ciphertextBytes - row.envelope.ciphertext.length })
    fun _ => rfl

def deleteEnvelopes (db : Db) (p : EnvelopeRow → Bool) : Db :=
  { db with
    envelopes := db.envelopes.delete p
    usage := (db.envelopes.rows.filter p).foldl usageRemove db.usage }

/-- Updates and messages without an envelope. -/
def deleteOrphans (db : Db) : Db :=
  let orphaned logicalId := db.envelopes.rows.all fun row => row.envelope.logicalMessageId ≠ logicalId
  { db with
    deliveryUpdates := db.deliveryUpdates.delete fun row => orphaned row.logicalMessageId
    logicalMessages := db.logicalMessages.delete fun row => orphaned row.logicalMessageId }

/-- What the envelopes of a batch have to agree in: message, peer and conversation. -/
structure BatchHeader where
  logicalId : String
  peer : String
  conversation : String
  clientSentAtMs : Int

/-- The checks that need no table. -/
def checkBatch (sha256 : Bytes → Bytes) (senderAccount : String) (envelopes : List EncryptedEnvelope) :
    Except Error BatchHeader :=
  match envelopes with
  | [] => .error "envelope batch must contain 1..=16 entries"
  | first :: _ =>
    let peers := ((envelopes.map EncryptedEnvelope.recipientAccountId).filter
      fun account => account ≠ senderAccount).dedup
    let peer := peers.headD senderAccount
    let conversation := conversationId sha256 senderAccount peer
    if 16 < envelopes.length then .error "envelope batch must contain 1..=16 entries"
    else if first.logicalMessageId = "" ∨
        envelopes.any (fun e => e.logicalMessageId ≠ first.logicalMessageId) = true then
      .error "batch mixes logical messages"
    else if 1 < peers.length then .error "v1 supports one peer per message"
    else if envelopes.any (fun e => e.conversationId ≠ conversation || e.ciphertext.length = 0 ||
        maxFrameBytes < e.ciphertext.length) = true then
      .error "invalid conversation or ciphertext"
    else .ok
      { logicalId := first.logicalMessageId
        peer
        conversation
        clientSentAtMs := first.clientSentAtMs }

/-- The row of the message; a row that is there has to be the same. -/
def insertLogicalMessage (db : Db) (senderAccount senderDevice : String) (h : BatchHeader) (now : Int) :
    Except Error Db :=
  match db.logicalMessages.find h.logicalId with
  | some row =>
    if row.senderAccountId ≠ senderAccount ∨ row.senderDeviceId ≠ senderDevice ∨
        row.peerAccountId ≠ h.peer ∨ row.conversationId ≠ h.conversation ∨
        row.clientSentAtMs ≠ h.clientSentAtMs then
      .error "logical message id conflicts with immutable metadata"
    else .ok db
  | none =>
    if (db.accounts.find senderAccount).isNone ∨ (db.devices.find senderDevice).isNone ∨
        (db.accounts.find h.peer).isNone then .error "FOREIGN KEY constraint failed"
    else .ok { db with
      logicalMessages := db.logicalMessages.insertOrIgnore
        { logicalMessageId := h.logicalId
          senderAccountId := senderAccount
          senderDeviceId := senderDevice
          peerAccountId := h.peer
          conversationId := h.conversation
          clientSentAtMs := h.clientSentAtMs
          acceptedAtMs := now
          deliveredAtMs := none } }

/-- The envelope is for an active device of an active account. -/
def recipientActive (db : Db) (e : EncryptedEnvelope) : Bool :=
  (db.device e.recipientAccountId e.recipientDeviceId).any DeviceRow.active &&
    (db.accounts.find e.recipientAccountId).any fun account => account.state = .active

/-- The bytes of the envelopes that are not stored yet. -/
def additionalBytes (db : Db) : List EncryptedEnvelope → Except Error Nat
  | [] => .ok 0
  | e :: es =>
    match db.envelopes.find e.envelopeId with
    | some row =>
      if row.envelope.ciphertext = e.ciphertext then db.additionalBytes es
      else .error "envelope id conflicts with immutable metadata"
    | none => (db.additionalBytes es).map (e.ciphertext.length + ·)

/-- `INSERT OR IGNORE`, and the row that is stored then. -/
def insertEnvelope (db : Db) (senderAccount senderDevice : String) (e : EncryptedEnvelope) (now : Int) :
    EnvelopeRow × Db :=
  match db.envelopes.find e.envelopeId with
  | some row => (row, db)
  | none =>
    let row : EnvelopeRow :=
      { cursor := db.lastCursor + 1
        envelope := e
        senderAccountId := senderAccount
        senderDeviceId := senderDevice
        acceptedAtMs := now
        deliveredAtMs := none }
    (row, { db with
      envelopes := db.envelopes.insertOrIgnore row
      usage := usageAdd db.usage row
      lastCursor := db.lastCursor + 1 })

/-- The envelopes in order, each with the device and the cursor of its row. -/
def insertEnvelopes (db : Db) (senderAccount senderDevice : String) (now : Int) :
    List EncryptedEnvelope → Except Error (List (String × Nat) × Db)
  | [] => .ok ([], db)
  | e :: es =>
    let (row, db) := db.insertEnvelope senderAccount senderDevice e now
    if row.senderAccountId ≠ senderAccount ∨ row.senderDeviceId ≠ senderDevice ∨ row.envelope ≠ e then
      .error "envelope id conflicts with immutable metadata"
    else (db.insertEnvelopes senderAccount senderDevice now es).map
      fun (stored, db) => ((e.recipientDeviceId, row.cursor) :: stored, db)

def accountQuotaExceeded : Error := "account ciphertext quota exceeded"

def totalQuotaExceeded : Error := "server ciphertext quota exceeded"

def diskPressure : Error := "server disk free-space reserve reached"

def storeEnvelopes (db : Db) (sha256 : Bytes → Bytes) (senderAccount senderDevice : String)
    (envelopes : List EncryptedEnvelope) (now : Int) (limits : StorageLimits) (freeDisk : Nat) :
    Except Error (List (String × Nat) × Db) := do
  let h ← checkBatch sha256 senderAccount envelopes
  if freeDisk < limits.minFreeDiskBytes then throw diskPressure
  let db ← db.insertLogicalMessage senderAccount senderDevice h now
  let active := envelopes.filter db.recipientActive
  if active = [] ∨ (h.peer ≠ senderAccount ∧
      active.any (fun e => e.recipientAccountId = h.peer) = false) then
    throw "recipient device is unavailable"
  let additional ← db.additionalBytes active
  if limits.maxAccountCiphertextBytes < db.usageOf senderAccount + additional then
    throw accountQuotaExceeded
  if limits.maxTotalCiphertextBytes <
      (db.usage.rows.map AccountStorageUsage.ciphertextBytes).sum + additional then
    throw totalQuotaExceeded
  db.insertEnvelopes senderAccount senderDevice now active

/-- `stored_envelope_from_row`, of a row joined with the account of its sender. -/
def storedEnvelope (db : Db) (row : EnvelopeRow) : Option StoredEnvelope :=
  (db.accounts.find row.senderAccountId).map fun account =>
    { cursor := row.cursor
      senderAccountId := row.senderAccountId
      senderDeviceId := row.senderDeviceId
      envelope := some row.envelope
      acceptedAtMs := row.acceptedAtMs
      senderUsername := account.username }

def storedEnvelopeById (db : Db) (envelopeId : String) : Option StoredEnvelope :=
  (db.envelopes.find envelopeId).bind db.storedEnvelope

/-- `limit.clamp(1, 200)`. -/
def pageLimit (limit : Nat) : Nat := max 1 (min limit 200)

/-- The envelopes for a device above a cursor, in the order of their cursors. -/
def envelopesAfter (db : Db) (deviceId : String) (after : Nat) : List StoredEnvelope :=
  ((db.envelopes.rows.filter fun row => row.envelope.recipientDeviceId = deviceId &&
    asI64 after < row.cursor).insertionSort fun a b => a.cursor ≤ b.cursor).filterMap db.storedEnvelope

def updatesAfter (db : Db) (accountId : String) (after : Nat) : List StoredDeliveryUpdate :=
  ((db.deliveryUpdates.rows.filter fun row => row.accountId = accountId &&
    asI64 after < row.cursor).insertionSort fun a b => a.cursor ≤ b.cursor).map fun row =>
      { cursor := row.cursor
        update := some
          { logicalMessageId := row.logicalMessageId, deliveredAtMs := row.deliveredAtMs } }

def sync (db : Db) (accountId deviceId : String) (after statusAfter limit : Nat) :
    List StoredEnvelope × List StoredDeliveryUpdate × Bool :=
  let rows := (db.envelopesAfter deviceId after).take (pageLimit limit + 1)
  (rows.take (pageLimit limit), (db.updatesAfter accountId statusAfter).take 200,
    pageLimit limit < rows.length)

/-- The envelope is marked delivered, and so is its message; the account of its sender is told. -/
def ack (db : Db) (deviceId envelopeId : String) (now : Int) : Option (String × String) × Db :=
  match (db.envelopes.find envelopeId).filter fun row => row.envelope.recipientDeviceId = deviceId with
  | none => (none, db)
  | some row =>
    let logicalId := row.envelope.logicalMessageId
    let isNew := (db.deliveryUpdates.find (row.senderAccountId, logicalId)).isNone
    (some (row.senderAccountId, logicalId), { db with
      envelopes := db.envelopes.update (fun row => row.envelope.envelopeId = envelopeId)
        (fun row => { row with deliveredAtMs := some (row.deliveredAtMs.getD now) }) fun _ => rfl
      logicalMessages := db.logicalMessages.update (fun row => row.logicalMessageId = logicalId)
        (fun row => { row with deliveredAtMs := some (row.deliveredAtMs.getD now) }) fun _ => rfl
      deliveryUpdates := db.deliveryUpdates.insertOrIgnore
        { cursor := db.lastUpdate + 1
          accountId := row.senderAccountId
          logicalMessageId := logicalId
          deliveredAtMs := now }
      lastUpdate := if isNew then db.lastUpdate + 1 else db.lastUpdate })

/-- The rows of delivered envelopes that were delivered before an instant, the oldest of them. -/
def cleanupDeliveredEnvelopes (db : Db) (deliveredBeforeMs : Int) (limit : Nat) : Db :=
  let old := ((db.envelopes.rows.filter fun row => row.deliveredAtMs.any fun t => t < deliveredBeforeMs)
    |>.insertionSort fun a b => a.cursor ≤ b.cursor).take (max 1 (min limit 10000))
  (db.deleteEnvelopes fun row => old.any fun other => other.cursor = row.cursor).deleteOrphans

def cleanupRevokedDevice (db : Db) (deviceId : String) : Db :=
  ({ db with prekeys := db.prekeys.delete fun row => row.deviceId = deviceId }.deleteEnvelopes
    fun row => row.envelope.recipientDeviceId = deviceId).deleteOrphans

theorem revoked_id (row : DeviceRow) : ({ row with revoked := true } : DeviceRow).id = row.id := rfl

/-- The update, and whether it found a row. -/
def markRevoked (db : Db) (accountId deviceId : String) : Bool × Db :=
  if (db.device accountId deviceId).any fun row => !row.revoked then
    (true, { db with
      devices := db.devices.update (fun row => row.accountId = accountId && row.id = deviceId)
        (fun row => { row with revoked := true }) revoked_id })
  else (false, db)

/-! ## Pairing events -/

def insertPairingEvent (db : Db) (pairingId sender target eventType : String) (payload : Bytes)
    (expiresAtMs : Int) : Except Error (Nat × Db) :=
  if (db.devices.find sender).isNone ∨ (db.devices.find target).isNone then
    .error "FOREIGN KEY constraint failed"
  -- The key is new, so no row is replaced.
  else .ok (db.lastPairingEvent + 1, { db with
    pairingEvents := db.pairingEvents.put
      { id := db.lastPairingEvent + 1
        pairingId
        senderDeviceId := sender
        targetDeviceId := target
        eventType
        payload
        expiresAtMs }
    lastPairingEvent := db.lastPairingEvent + 1 })

def pendingPairingEvents (db : Db) (target : String) (now : Int) : List PairingEventRow :=
  ((db.pairingEvents.rows.filter fun row => row.targetDeviceId = target && now < row.expiresAtMs)
    |>.insertionSort fun a b => a.id ≤ b.id).take 200

def ackPairingEvent (db : Db) (target : String) (eventId : Nat) : Bool × Db :=
  let mine (row : PairingEventRow) : Bool := row.id = eventId && row.targetDeviceId = target
  (db.pairingEvents.rows.any mine, { db with pairingEvents := db.pairingEvents.delete mine })

def cleanupExpiredPairingEvents (db : Db) (now : Int) : Db :=
  { db with pairingEvents := db.pairingEvents.delete fun row => row.expiresAtMs ≤ now }

def recordAudit (db : Db) (category actor action target result : String) : Db :=
  { db with audit := { category, actor, action, target, result } :: db.audit }

end Db

end TuiChat
