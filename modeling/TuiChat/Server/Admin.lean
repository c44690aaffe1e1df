import TuiChat.Server.Ws

/-!
# The administrator and the maintenance

The commands of `crates/server/src/admin.rs` and `main.rs` that write, with the requests to the
running server that follow some of them (`control.rs`), and `run_maintenance_once`. The commands run
in another process: they share the database with the connections' tasks, and between any two of their
statements those go on.
-/

namespace TuiChat

open Lib (Proc nocase)
open Lib.Wire (utf8)

namespace Db

/-! ## Statements -/

def addAccount (db : Db) (id username phc : String) : Except Error Db :=
  if (db.accounts.find id).isSome ∨ (db.accountByUsername username).isSome then
    .error "failed to create account"
  else .ok { db with
    accounts := db.accounts.insertOrIgnore
      { id
        username
        passwordPhc := phc
        state := .active
        requirePasswordChange := true
        masterPublicKey := none
        rosterRevision := 0 } }

/-- An update of the account with a user name, and whether there is one. -/
def updateByUsername (db : Db) (username : String) (f : AccountRow → AccountRow)
    (hf : ∀ row, (f row).id = row.id) : Bool × Db :=
  ((db.accountByUsername username).isSome, { db with
    accounts := db.accounts.update (fun row => nocase row.username = nocase username) f hf })

def setUserState (db : Db) (username : String) (state : AccountState) : Bool × Db :=
  db.updateByUsername username (fun row => { row with state }) fun _ => rfl

def resetPassword (db : Db) (username phc : String) : Bool × Db :=
  db.updateByUsername username
    (fun row => { row with passwordPhc := phc, requirePasswordChange := true }) fun _ => rfl

/-- The transaction of `reset_devices`, and the devices that it revoked. -/
def resetDevices (db : Db) (username : String) : Except Error (List String × Db) :=
  match db.accountByUsername username with
  | none => .error "account not found"
  | some account =>
    .ok (((db.devicesOf account.id).filter fun row => !row.revoked).map DeviceRow.id,
      ({ db with
        devices := db.devices.update (fun row => row.accountId = account.id)
          (fun row => { row with revoked := true }) revoked_id
        prekeys := db.prekeys.delete fun row => (db.device account.id row.deviceId).isSome
      }.updateAccount account.id
        (fun row => { row with masterPublicKey := none, rosterRevision := 0 }) fun _ => rfl))

def revokeDevice (db : Db) (accountId deviceId : String) : Bool × Db :=
  ((db.device accountId deviceId).isSome, { db with
    devices := db.devices.update (fun row => row.accountId = accountId && row.id = deviceId)
      (fun row => { row with revoked := true }) revoked_id })

/-- The message is from or to the account. -/
def concerns (row : LogicalMessageRow) (accountId : String) : Bool :=
  row.senderAccountId = accountId || row.peerAccountId = accountId

/-- The transaction of `delete_user_records`; the row of the account's usage goes with it. -/
def deleteUserRecords (db : Db) (accountId : String) : Db :=
  let own (deviceId : String) : Bool := (db.device accountId deviceId).isSome
  let concerned (logicalId : String) : Bool :=
    (db.logicalMessages.find logicalId).any fun row => concerns row accountId
  let db := { db with
    pairingEvents := db.pairingEvents.delete fun row => own row.senderDeviceId || own row.targetDeviceId
    deliveryUpdates := db.deliveryUpdates.delete fun row =>
      row.accountId = accountId || concerned row.logicalMessageId }
  let db := db.deleteEnvelopes fun row => row.senderAccountId = accountId ||
    row.envelope.recipientAccountId = accountId || concerned row.envelope.logicalMessageId
  { db with
    logicalMessages := db.logicalMessages.delete fun row => concerns row accountId
    prekeys := db.prekeys.delete fun row => own row.deviceId
    devices := db.devices.delete fun row => row.accountId = accountId
    accounts := db.accounts.delete fun row => row.id = accountId
    usage := db.usage.delete fun row => row.accountId = accountId }

/-- The transaction of `prune_conversation`. -/
def pruneConversation (db : Db) (conversation : String) (cutoff : Int) (deliveredOnly : Bool) : Db :=
  let pruned (logicalId : String) : Bool :=
    (db.logicalMessages.find logicalId).any fun row =>
      row.conversationId = conversation && row.acceptedAtMs < cutoff && (!deliveredOnly ||
        db.envelopes.rows.all fun e => e.envelope.logicalMessageId ≠ logicalId || e.deliveredAtMs.isSome)
  let db := { db with
    deliveryUpdates := db.deliveryUpdates.delete fun row => pruned row.logicalMessageId }
  let db := db.deleteEnvelopes fun row => pruned row.envelope.logicalMessageId
  { db with
    logicalMessages := db.logicalMessages.delete fun row => row.conversationId = conversation &&
      row.acceptedAtMs < cutoff && db.envelopes.rows.all fun e =>
        e.envelope.logicalMessageId ≠ row.logicalMessageId }

end Db

namespace Admin

open Ws

variable (env : ServerEnvironment)

/-! ## Requests to the running server -/

def kickSession (id : Nat) (reason : String) : ServerM Bool := do
  let found ← getState fun state => (state.sessions.find id).isSome
  if found then signal id reason
  pure found

def kickAccount (accountId reason : String) : ServerM Unit := do
  let ids ← getState fun state => (state.sessions.rows.filter fun s => s.accountId = accountId).map
    LiveSession.id
  Proc.each (fun id => signal id reason) ids

/-- A request over the socket of the server, which may not be there. -/
def control (request : ServerM Unit) : ServerM Unit := do
  let there ← learn fun n w => (.ok (env.works n), w)
  if there then request

def disconnectUserIfOnline (username reason : String) : ServerM Unit := do
  let account ← Ws.query env fun db => db.accountByUsername username
  match account with
  | none => pure ()
  | some account => control env (kickAccount account.id reason)

/-! ## Commands -/

def addUser (username password : String) : ServerM Unit := do
  let username ← Proc.ofExcept (normalizeUsername username)
  let phc ← learn fun n w => (hashPassword env.passwords n password, w)
  let id ← learn fun n w => (.ok (env.uuid n), w)
  write env fun db => db.addAccount id username phc
  audit env "admin" "local-admin" "user_add" username "success"

def setUserState (username : String) (state : AccountState) : ServerM Unit := do
  let username ← Proc.ofExcept (normalizeUsername username)
  let found ← Ws.execute env fun db => .ok (db.setUserState username state)
  Proc.ensure (found = true) "account not found"
  audit env "admin" "local-admin" "user_state" username "success"

def resetPassword (username password : String) : ServerM Unit := do
  let username ← Proc.ofExcept (normalizeUsername username)
  let phc ← learn fun n w => (hashPassword env.passwords n password, w)
  let found ← Ws.execute env fun db => .ok (db.resetPassword username phc)
  Proc.ensure (found = true) "account not found"
  audit env "admin" "local-admin" "password_reset" username "success"

def resetDevices (username : String) : ServerM Unit := do
  let username ← Proc.ofExcept (normalizeUsername username)
  let deviceIds ← Ws.execute env fun db => db.resetDevices username
  Proc.each (fun deviceId => update env fun db => db.cleanupRevokedDevice deviceId) deviceIds
  audit env "admin" "local-admin" "device_generation_reset" username "success"

def revokeDevice (username deviceId : String) : ServerM Unit := do
  let account ← Ws.query env fun db => db.accountByUsername username
  let account ← Proc.orFail account "account not found"
  let found ← Ws.execute env fun db => .ok (db.revokeDevice account.id deviceId)
  Proc.ensure (found = true) "device not found"
  update env fun db => db.cleanupRevokedDevice deviceId
  audit env "admin" "local-admin" "device_revoke" deviceId "success"

def deleteUser (username : String) : ServerM Unit := do
  let username ← Proc.ofExcept (normalizeUsername username)
  let account ← Ws.query env fun db => db.accountByUsername username
  let account ← Proc.orFail account "account not found"
  disconnectUserIfOnline env username "account_deleted"
  update env fun db => db.deleteUserRecords account.id
  audit env "admin" "local-admin" "user_delete" username "success"

/-- The loop of `cleanup_storage`, for at most a number of rounds. -/
def cleanupRounds (cutoff : Int) : Nat → ServerM Unit
  | 0 => pure ()
  | rounds + 1 => do
    let removed ← Ws.execute env fun db =>
      let db' := db.cleanupDeliveredEnvelopes cutoff 1000
      .ok (db.envelopes.rows.length - db'.envelopes.rows.length, db')
    if removed < 1000 then pure () else cleanupRounds cutoff rounds

def days (n : Nat) : Int := n * 24 * 60 * 60 * 1000

def cleanupStorage (retentionDays rounds : Nat) : ServerM Unit := do
  let now ← Ws.nowMs env
  cleanupRounds env (now - days retentionDays) rounds
  audit env "admin" "local-admin" "storage_cleanup" "delivered_envelopes" "success"

/-- Without `--before`, the cutoff is the largest `i64`. -/
def pruneConversation (conversation : String) (before : Option Int) (deliveredOnly : Bool) :
    ServerM Unit := do
  Proc.ensure ((utf8 conversation).length = 64 ∧ (utf8 conversation).all isHexDigit = true)
    "conversation id must contain 64 hexadecimal characters"
  update env fun db => db.pruneConversation conversation (before.getD (2 ^ 63 - 1)) deliveredOnly
  audit env "admin" "local-admin" "prune_conversation" conversation "success"

/-- `run_maintenance_once`. -/
def maintenance (deliveredRetentionDays : Nat) : ServerM Unit := do
  let now ← Ws.nowMs env
  update env fun db => db.cleanupExpiredPairingEvents now
  update env fun db => db.cleanupDeliveredEnvelopes (now - days deliveredRetentionDays) 1000

inductive Command
  | userAdd (username password : String)
  | userDisable (username : String)
  | userEnable (username : String)
  | userResetPassword (username password : String)
  | userResetDevices (username : String)
  | userDelete (username : String)
  | deviceRevoke (username deviceId : String)
  | storageCleanup (retentionDays rounds : Nat)
  | conversationPrune (conversation : String) (before : Option Int) (deliveredOnly : Bool)
  | sessionKick (id : Nat)
  | maintenance (deliveredRetentionDays : Nat)

def runCommand : Command → ServerM Unit
  | .userAdd username password => addUser env username password
  | .userDisable username => do
    setUserState env username .disabled
    disconnectUserIfOnline env username "access_revoked"
  | .userEnable username => setUserState env username .active
  | .userResetPassword username password => resetPassword env username password
  | .userResetDevices username => do
    resetDevices env username
    disconnectUserIfOnline env username "access_revoked"
  | .userDelete username => deleteUser env username
  | .deviceRevoke username deviceId => do
    revokeDevice env username deviceId
    control env (kickDevice deviceId "access_revoked")
  | .storageCleanup retentionDays rounds => cleanupStorage env retentionDays rounds
  | .conversationPrune conversation before deliveredOnly =>
    pruneConversation env conversation before deliveredOnly
  | .sessionKick id => do
    let found ← kickSession id "admin_kick"
    Proc.ensure (found = true) "session not found"
    audit env "admin" "local-admin" "kick_session" (toString id) "success"
  | .maintenance deliveredRetentionDays => maintenance env deliveredRetentionDays

end Admin

end TuiChat
