import TuiChat.Lib.Proc
import TuiChat.Server.Db
import Mathlib.Algebra.Order.Ring.Rat
import Mathlib.Data.List.Infix

/-!
# The state of the server and of its connections

`AppState` of `crates/server/src/ws.rs`, with the database and the live connections that the tasks
share, and `Connection`, the variables of one connection's task. A handler is a `Proc` on both: what
it learns from outside (the clock, randomness, a password hash, whether a statement or a send works)
is a value of the `ServerEnvironment` at the number of things learned so far, and between two of its
actions other connections, the maintenance and the administrator may change what is shared.

`AppState.past`, `AppState.registered`, `AppState.log` and `Connection.log` record what happened, newest
first. No handler reads them.
-/

namespace TuiChat

open Lib (Bytes Proc Table)
open Lib.Wire (utf8)

/-! ## The request bucket -/

/-- The `f64` of the source is read as a rational, and an `Instant` is given in nanoseconds. -/
structure TokenBucket where
  tokens : ℚ
  updated : Nat
deriving DecidableEq

namespace TokenBucket

def new (burst now : Nat) : TokenBucket := { tokens := burst, updated := now }

/-- `take_rate` at an instant. -/
def takeRate (bucket : TokenBucket) (tokensPerSecond : ℚ) (burst now : Nat) : Bool × TokenBucket :=
  let elapsed : ℚ := (now - bucket.updated : Nat) / 10 ^ 9
  let tokens := min (bucket.tokens + elapsed * tokensPerSecond) burst
  if tokens < 1 then (false, { tokens, updated := now })
  else (true, { tokens := tokens - 1, updated := now })

def take (bucket : TokenBucket) (perMinute burst now : Nat) : Bool × TokenBucket :=
  bucket.takeRate (perMinute / 60) burst now

end TokenBucket

/-! ## States -/

structure LiveConnection where
  deviceId : String
  token : Nat
  accountId : String
deriving DecidableEq, Repr

structure LiveSession where
  id : Nat
  accountId : String
  username : String
  deviceId : String
  pending : Bool
deriving DecidableEq, Repr

structure Challenge where
  username : String
  deviceId : String
  nonce : Bytes
  expiresAtMs : Int
  capabilities : List String
deriving DecidableEq, Repr

structure Session where
  account : AccountRow
  deviceId : String
  pending : Bool
  passwordChangeRequired : Bool
  capabilities : List String
deriving DecidableEq, Repr

inductive ServerEvent
  /-- A device acknowledged the envelope of a row. -/
  | acknowledged (row : EnvelopeRow)
  /-- The row of an envelope was inserted. -/
  | stored (row : EnvelopeRow)
deriving DecidableEq, Repr

structure AppState where
  db : Db
  connections : Table LiveConnection.deviceId
  sessions : Table LiveSession.id
  /-- Frames handed to the writers of connections, each with the connection's token. -/
  out : List (Nat × Frame)
  /-- Reasons to disconnect that were signalled to connections. -/
  signals : List (Nat × String)
  /-- The number of things learned from outside. -/
  tick : Nat
  /-- What the database was before each write. -/
  past : List Db
  /-- Every live connection there ever was. -/
  registered : List LiveConnection
  connected : ∀ live ∈ connections, live ∈ registered
  log : List ServerEvent

inductive ConnectionEvent
  | received (f : Frame)
  /-- A `ClientHello` was answered. -/
  | challenged (challenge : Challenge)
  /-- An attempt to authenticate emptied the challenge slot. -/
  | taken (challenge : Option Challenge)
  /-- The clock was read, as the thing learned with the number. -/
  | readClock (n : Nat)
  | readAccount (username : String) (row : Option AccountRow)
  | readDevice (accountId deviceId : String) (row : Option DeviceRow)
  /-- A password was verified for the account of a row. -/
  | passwordAccepted (account : AccountRow) (deviceId : String)
  /-- The master key of an account was claimed; the key it had before. -/
  | masterClaimed (accountId : String) (master : Bytes) (previous : Option Bytes)
deriving DecidableEq, Repr

structure Connection where
  challenge : Option Challenge
  session : Option Session
  bucket : TokenBucket
  closed : Bool
  log : List ConnectionEvent

/-- `argon2`, by the calls the program makes. -/
structure Passwords where
  verify : (phc password : String) → Bool
  needsRehash : (phc : String) → Bool
  hash : (draw : Nat) → (password : String) → Option String

/-- The configuration and the outside of a server. -/
structure ServerEnvironment where
  publicDomain : String
  storageLimits : StorageLimits
  pairingTtlSeconds : Nat
  requestsPerMinute : Nat
  requestBurst : Nat
  dummyPasswordPhc : String
  passwords : Passwords
  works : Nat → Bool
  nowMs : Nat → Int
  /-- The monotonic clock, in nanoseconds. -/
  instant : Nat → Nat
  nonce : Nat → Bytes
  uuid : Nat → String
  freeDiskBytes : Nat → Nat
  /-- The limits on password attempts by address and by account. -/
  allowsPasswordAttempt : Nat → Bool

/-- What the task of a connection works on. -/
abbrev ServerWorld := AppState × Connection

abbrev ServerM := Proc ServerWorld Error

namespace Ws

/-! ## Effects -/

/-- An action that learns something from outside. -/
def learn {α : Type} (f : Nat → ServerWorld → Except Error α × ServerWorld) : ServerM α :=
  .atomically fun w => f w.1.tick ({ w.1 with tick := w.1.tick + 1 }, w.2)

def getState {α : Type} (f : AppState → α) : ServerM α := .atomically fun w => (.ok (f w.1), w)

def modifyState (f : AppState → AppState) : ServerM Unit := .atomically fun w => (.ok (), (f w.1, w.2))

def getConnection {α : Type} (f : Connection → α) : ServerM α := .atomically fun w => (.ok (f w.2), w)

def modifyConnection (f : Connection → Connection) : ServerM Unit :=
  .atomically fun w => (.ok (), (w.1, f w.2))

def record (event : ConnectionEvent) : ServerM Unit :=
  modifyConnection fun c => { c with log := event :: c.log }

section

variable (env : ServerEnvironment)

def nowMs : ServerM Int := learn fun n w => (.ok (env.nowMs n), w)

/-- The clock, where the model records that it was read. -/
def nowMsRecording : ServerM Int := learn fun n w =>
  (.ok (env.nowMs n), (w.1, { w.2 with log := .readClock n :: w.2.log }))

/-- A query of the database, and what the model records of it. -/
def queryRecording {α : Type} (f : Db → α) (events : α → List ConnectionEvent) : ServerM α :=
  learn fun n w =>
    if env.works n then
      (.ok (f w.1.db), (w.1, { w.2 with log := events (f w.1.db) ++ w.2.log }))
    else (.error "database error", w)

def query {α : Type} (f : Db → α) : ServerM α := queryRecording env f fun _ => []

def accountByUsername (username : String) : ServerM (Option AccountRow) :=
  queryRecording env (fun db => db.accountByUsername username) fun row => [.readAccount username row]

def device (accountId deviceId : String) : ServerM (Option DeviceRow) :=
  queryRecording env (fun db => db.device accountId deviceId)
    fun row => [.readDevice accountId deviceId row]

/-- A statement or transaction that writes, and what the model records of it. -/
def executeRecording {α : Type} (f : Nat → Db → Except Error (α × Db))
    (serverEvents : Db → α × Db → List ServerEvent) (events : Db → List ConnectionEvent) : ServerM α :=
  learn fun n w =>
    if env.works n then
      match f n w.1.db with
      | .error e => (.error e, w)
      | .ok r => (.ok r.1,
          ({ w.1 with
              db := r.2
              past := w.1.db :: w.1.past
              log := serverEvents w.1.db r ++ w.1.log },
            { w.2 with log := events w.1.db ++ w.2.log }))
    else (.error "database error", w)

def execute {α : Type} (f : Db → Except Error (α × Db)) : ServerM α :=
  executeRecording env (fun _ => f) (fun _ _ => []) fun _ => []

/-- A write that cannot be refused. -/
def update (f : Db → Db) : ServerM Unit := execute env fun db => .ok ((), f db)

def audit (category actor action target result : String) : ServerM Unit :=
  update env fun db => db.recordAudit category actor action target result

/-- `tx.send(..).await?`. -/
def send (token : Nat) (f : Frame) : ServerM Unit :=
  learn fun n w =>
    if env.works n then (.ok (), ({ w.1 with out := w.1.out ++ [(token, f)] }, w.2))
    else (.error "channel closed", w)

/-- `let _ = tx.send(..).await`. -/
def trySend (token : Nat) (f : Frame) : ServerM Unit := do
  let _ ← Proc.caught (send env token f)

def pushDevice (deviceId : String) (f : Frame) : ServerM Unit := do
  let live ← getState fun state => state.connections.find deviceId
  match live with
  | none => pure ()
  | some live => trySend env live.token f

def pushAccount (accountId : String) (f : Frame) : ServerM Unit := do
  let senders ← getState fun state => state.connections.rows.filter fun live => live.accountId = accountId
  Proc.each (fun live => trySend env live.token f) senders

/-- `message.chars().take(240)`. -/
def sanitized (message : String) : String := String.ofList (message.toList.take 240)

def sendError (token : Nat) (id code message : String) (retryable : Bool) : ServerM Unit :=
  trySend env token (frame id (.error { code, message := sanitized message, retryable }))

end

/-! ## Live connections -/

/-- `disconnect.send(Some(reason))`. -/
def signal (token : Nat) (reason : String) : ServerM Unit :=
  modifyState fun state => { state with signals := (token, reason) :: state.signals }

/-- `register`, up to its second lock: what was there for the device before is given back. -/
def insertConnection (live : LiveConnection) : ServerM (Option LiveConnection) :=
  .atomically fun w => (.ok (w.1.connections.find live.deviceId),
    ({ w.1 with
        connections := w.1.connections.put live
        registered := live :: w.1.registered
        connected := fun _ h => List.mem_cons.2
          ((Table.mem_put.1 h).imp_right fun h => w.1.connected _ h.1) }, w.2))

def register (session : Session) (token : Nat) : ServerM Unit := do
  let previous ← insertConnection
    { deviceId := session.deviceId, token, accountId := session.account.id }
  match previous with
  | none => pure ()
  | some previous => signal previous.token "session_replaced"
  modifyState fun state => { state with
    sessions := state.sessions.put
      { id := token
        accountId := session.account.id
        username := session.account.username
        deviceId := session.deviceId
        pending := session.pending } }

def unregister (deviceId : String) (token : Nat) : ServerM Unit := do
  modifyState fun state => { state with
    connections := state.connections.delete fun live => live.deviceId = deviceId && live.token = token
    connected := fun _ h => state.connected _ (Table.mem_delete.1 h).1 }
  modifyState fun state => { state with sessions := state.sessions.delete fun s => s.id = token }

def kickDevice (deviceId reason : String) : ServerM Unit := do
  let live ← getState fun state => state.connections.find deviceId
  match live with
  | none => pure ()
  | some live => signal live.token reason

/-! ## Checks -/

/-- `to_ascii_lowercase`. -/
def asciiLowercase (s : String) : String := String.ofList (s.toList.map Char.toLower)

def isAsciiDigit (b : UInt8) : Bool := 48 ≤ b && b ≤ 57

def normalizeUsername (username : String) : Except Error String :=
  let username := asciiLowercase username
  if (utf8 username).length < 3 ∨ 32 < (utf8 username).length ∨
      (utf8 username).any (fun b => !((97 ≤ b && b ≤ 122) || isAsciiDigit b || b ∈ utf8 "_.-")) = true then
    .error "username must be 3-32 ASCII characters: a-z, 0-9, _, ., -"
  else .ok username

def validatePassword (password : String) : Except Error Unit :=
  if password.length < 12 ∨ 1024 < (utf8 password).length then
    .error "password must contain 12-1024 characters"
  else .ok ()

def hashPassword (passwords : Passwords) (draw : Nat) (password : String) : Except Error String :=
  match validatePassword password with
  | .error e => .error e
  | .ok () =>
    match passwords.hash draw password with
    | none => .error "password hash error"
    | some phc => .ok phc

/-- `verify_password`: whether the password is the hash's, and a new hash if the old one is weak. -/
def verifyPassword (passwords : Passwords) (draw : Nat) (phc password : String) : Bool × Option String :=
  let verified := passwords.verify phc password
  (verified, if verified && passwords.needsRehash phc then
    (hashPassword passwords draw password).toOption else none)

def isHexDigit (b : UInt8) : Bool := isAsciiDigit b || (97 ≤ b && b ≤ 102) || (65 ≤ b && b ≤ 70)

/-- 36 bytes that `Uuid::parse_str` takes: five groups of hexadecimal digits between hyphens. -/
def validUuid (value : String) : Bool :=
  (utf8 value).length = 36 && (utf8 value).zipIdx.all fun b =>
    if b.2 ∈ [8, 13, 18, 23] then b.1 = 45 else isHexDigit b.1

/-- `str::contains`. -/
def containsText (text part : String) : Bool := decide (part.toList <:+: text.toList)

structure PublicError where
  code : String
  message : String
  retryable : Bool
deriving DecidableEq, Repr

def publicError (error : Error) : PublicError :=
  if error = Db.accountQuotaExceeded ∨ error = Db.totalQuotaExceeded then
    { code := "storage_quota_exceeded"
      message := "server ciphertext storage quota exceeded"
      retryable := false }
  else if error = Db.diskPressure then
    { code := "storage_pressure"
      message := "server disk reserve reached; retry after storage cleanup"
      retryable := true }
  else if containsText error "too many authentication attempts" then
    { code := "rate_limited"
      message := "too many authentication attempts; retry later"
      retryable := true }
  else if containsText error "password must contain" then
    { code := "password_policy"
      message := "password does not meet the server policy"
      retryable := false }
  else if containsText error "invalid credentials" then
    { code := "invalid_credentials", message := "invalid credentials", retryable := false }
  else if containsText error "password change is required" then
    { code := "password_change_required", message := "password change is required", retryable := false }
  else if containsText error "recipient device is unavailable" then
    { code := "recipient_roster_changed"
      message := "recipient device roster changed; refresh and retry"
      retryable := true }
  else if containsText error "cannot revoke the current device" then
    { code := "device_revoke_forbidden"
      message := "the current device cannot revoke itself"
      retryable := false }
  else if containsText error "user not found" then
    { code := "user_not_found", message := "user not found", retryable := false }
  else { code := "request_rejected", message := "request rejected", retryable := false }

section

variable (P : Primitives)

def verifySignature (publicKey payload signature : Bytes) : Except Error Unit :=
  if publicKey.length ≠ 32 then .error "invalid signing key"
  else if signature.length ≠ 64 then .error "invalid signature"
  else if P.verifyStrict publicKey payload signature then .ok ()
  else .error "signature verification failed"

def verifyDeviceCertificate (master : Bytes) (accountId : String) (bundle : DeviceBundle) :
    Except Error Unit :=
  verifySignature P master (deviceCertificatePayload accountId bundle.deviceId bundle.authSigningKey
    bundle.olmEd25519Key bundle.olmCurve25519Key) bundle.certificateSignature

def verifyPrekey (authKey : Bytes) (key : OneTimeKey) : Except Error Unit :=
  let payload := utf8 "tui-chat-prekey-v1" ++ [0] ++ utf8 key.keyId ++ [0] ++ key.curve25519Key
  verifySignature P authKey payload key.signature

def verifyRosterSignature (master : Bytes) (account : String) (revision : Nat) (device : String)
    (signature : Bytes) : Except Error Unit :=
  let payload := utf8 "tui-chat-roster-v1" ++ [0] ++ utf8 account ++ [0] ++ DeviceIdentity.be64 revision ++
    utf8 device
  verifySignature P master payload signature

end

/-- `expires_at_ms.to_be_bytes()`. -/
def be64Int (n : Int) : Bytes := DeviceIdentity.be64 (n % 2 ^ 64).toNat

def authChallengePayload (domain username deviceId : String) (nonce : Bytes) (expiresAtMs : Int) : Bytes :=
  utf8 "tui-chat-device-auth-v1" ++ [0] ++
    lengthPrefixed [utf8 domain, utf8 username, utf8 deviceId, nonce] ++ be64Int expiresAtMs

end Ws

end TuiChat
