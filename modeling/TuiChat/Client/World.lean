import TuiChat.Client.Store
import TuiChat.Crypto.Pairing
import TuiChat.Lib.Prog

/-!
# The running client

`App` is the in-memory state of `app.rs`, less what only the terminal shows; `World` adds the store
and what the model keeps on the side. Everything a method learns from outside, answers of the
server, the clock, drawn identifiers, whether the database or the connection does what it is asked,
is a value of the `Environment` at the number of things learned so far: quantifying over
environments quantifies over servers, schedules and failures.

`World.log` records what happened, newest first. No method reads it.
-/

namespace TuiChat

open Lib

structure PairingSession where
  pairingId : String
  peerDeviceId : String
  pendingDevice : DeviceBundle
  channel : PairingChannel
  /-- `PairingRole::Approver`; otherwise `PairingRole::Pending`. -/
  approver : Bool
  ourConfirmed : Bool
  peerConfirmed : Bool
deriving DecidableEq, Repr

inductive BackgroundRequest
  | sync
  | outbox (logicalId : String)
  | deviceList
  | deviceRevoke (deviceName : String)
  | reconcilePairing
deriving DecidableEq, Repr

/-- A bundle of the cache with the instant it was fetched at. -/
structure CachedBundle where
  username : String
  bundle : UserBundle
  fetchedAt : Nat
deriving DecidableEq, Repr

structure App (P : Primitives) where
  profile : RuntimeProfile P
  contacts : List Contact
  selected : Option Nat
  messages : List ChatMessage
  editor : String
  persistedDraft : String
  historyExhausted : Bool
  notifications : List Notification
  notificationSelected : Option Nat
  status : String
  connected : Bool
  terminalFocused : Bool
  pairingRequests : List PairingRequest
  pairing : Option PairingSession
  bundleCache : Table CachedBundle.username
  postActivationSync : Bool
  backgroundRequests : Table (Prod.fst : String × BackgroundRequest → String)
  backgroundDeadlines : Table (Prod.fst : String × Nat → String)
  blockedOutbox : List String
  outboxRetryAfter : Table (Prod.fst : String × Nat → String)
  syncInFlight : Bool

/-- A message row or a conversation deletion that was committed as coming from an account. -/
structure Commit where
  sender : String
  conversationId : String
  messageId : String
  /-- The account at the other end of the conversation, as the payload has it. -/
  peer : String
  source : Provenance
  /-- The master key the client held for the sender when it committed. -/
  heldKey : Option Bytes
deriving DecidableEq, Repr

/-- What a pairing channel brought to a device. -/
inductive Migrated
  | master (secret : Bytes)
  | contact (bundle : UserBundle)
  | message (id : String)
deriving DecidableEq, Repr

/-- Why the status of a message was raised. -/
inductive Raise
  /-- The server has stored the message. -/
  | accepted
  /-- The server says that it was delivered. -/
  | delivered
  /-- Its peer says that it has read it. -/
  | readBy (peer : String)
  /-- It was read here. -/
  | readHere
deriving DecidableEq, Repr

def Raise.status : Raise → MessageStatus
  | .accepted => .sent
  | .delivered => .delivered
  | .readBy _ => .read
  | .readHere => .read

/-- What a reading of the contact list does to the selection, which is an index into it. -/
inductive Reread
  /-- The index stays; whether the contact at it is of the account it was of. -/
  | unmapped (aligned : Bool)
  /-- The index becomes that of an account; whether the account is in the list. -/
  | selecting (account : Option String) (found : Bool)
deriving DecidableEq, Repr

inductive Event
  /-- An envelope was decrypted as coming from a device. -/
  | decrypted (device : DeviceBundle)
  /-- A ciphertext was made for a device, with a session of the given remote identity key. -/
  | encrypted (device : DeviceBundle) (sessionKey : Option Bytes)
  | committed (commit : Commit)
  /-- The transaction that stores the envelopes of a message in the outbox was committed. -/
  | queued (message : SendEnvelopes)
  | raised (messageId : String) (cause : Raise)
  /-- The transaction that processes the envelope of a cursor was committed. -/
  | processed (cursor : Nat) (envelopeId : String)
  /-- The row of an account was given a bundle: whether the key is not the one it had, and whether
  inbound messages of the conversation with the account were stored. -/
  | keyWritten (accountId : String) (key : Bytes) (changed covers : Bool)
  /-- The contact list was read from the store. -/
  | contactsLoaded (reread : Reread)
  /-- The user selected a contact. -/
  | selected
  /-- Messages and draft of the conversation with an account were loaded, or cleared. -/
  | opened (account : Option String)
  /-- The safety code with an account was shown, computed from a master key. -/
  | displayed (accountId : String) (key : Bytes)
  /-- The row of an account was marked verified; its key at that moment. -/
  | verified (accountId : String) (key : Option Bytes)
  /-- The server announced a device that asks to be paired. -/
  | requested (request : PairingRequest)
  /-- A session was started as the approver of a request. -/
  | started (request : PairingRequest) (session : PairingSession)
  /-- The user confirmed the string of a session. -/
  | compared (session : PairingSession)
  /-- Something was imported from a payload that was decrypted on the channel of a session. -/
  | migrated (session : PairingSession) (item : Migrated)
  /-- The approver of a session certified a device. -/
  | certified (session : PairingSession) (device : DeviceBundle)
  /-- A numbered pairing event was handled to its end. -/
  | handled (event : PairingEvent)
deriving DecidableEq, Repr

structure World (P : Primitives) where
  app : App P
  store : Store P
  /-- Frames handed to the current connection, oldest first. -/
  sent : List Frame
  /-- The number of things learned from outside. -/
  tick : Nat
  log : List Event

/-- The outside of a client. -/
structure Environment where
  /-- The server's answer to a request, or why there is none. -/
  answer : Nat → Body → Except Error (Option Body)
  works : Nat → Bool
  nowMs : Nat → Int
  /-- The monotonic clock, in milliseconds. -/
  instant : Nat → Nat
  uuid : Nat → String
  /-- `serde_json::from_slice`, by the type it is asked for. -/
  payloadFromSlice : Bytes → Option WirePayload
  bootstrapFromSlice : Bytes → Option BootstrapTransfer
  historyFromSlice : Bytes → Option HistoryTransfer

abbrev ClientM (P : Primitives) := Prog (World P) Error

variable {P : Primitives}

/-! ## Effects -/

def modifyApp (f : App P → App P) : ClientM P Unit := Prog.modify fun w => { w with app := f w.app }

def getApp {α : Type} (f : App P → α) : ClientM P α := Prog.gets fun w => f w.app

def setStatus (status : String) : ClientM P Unit := modifyApp fun app => { app with status }

def record (event : Event) : ClientM P Unit := Prog.modify fun w => { w with log := event :: w.log }

/-- The state after one thing was learned. -/
def World.ticked (w : World P) : World P := { w with tick := w.tick + 1 }

/-- The number of the next thing learned. -/
def draw : ClientM P Nat := do
  let n ← Prog.gets World.tick
  Prog.modify World.ticked
  pure n

section

variable (env : Environment)

def nowMs : ClientM P Int := do return env.nowMs (← draw)

def instantNow : ClientM P Nat := do return env.instant (← draw)

def newUuid : ClientM P String := do return env.uuid (← draw)

/-- Stop with `e` if the operation is one that fails. -/
def attempt (e : Error) : ClientM P Unit := do
  let n ← draw
  Prog.ensure (env.works n = true) e

/-- `rpc.notify` and `rpc.try_send_frame`. -/
def sendFrame (f : Frame) : ClientM P Unit := do
  attempt env "connection writer stopped"
  Prog.modify fun w => { w with sent := w.sent ++ [f] }

def notify (body : Body) : ClientM P Unit := sendFrame env (frame "" body)

/-- `rpc.request`; an error frame is an error. -/
def request (body : Body) : ClientM P (Option Body) := do
  let id ← newUuid env
  sendFrame env (frame id body)
  let n ← draw
  match env.answer n body with
  | .error e => Prog.fail e
  | .ok (some (.error m)) => Prog.fail (m.code ++ ": " ++ m.message)
  | .ok response => pure response

/-- A query of the store. -/
def query {α : Type} (f : Store P → α) : ClientM P α := do
  attempt env "database error"
  Prog.gets fun w => f w.store

/-- A statement or transaction, and what the model records of it; a violated constraint is an
error that leaves the store as it was. -/
def executeRecording (f : World P → Option (Store P)) (events : World P → List Event) :
    ClientM P Unit := do
  attempt env "database error"
  let w ← Prog.gets id
  match f w with
  | none => Prog.fail "constraint failed"
  | some store => Prog.modify fun w => { w with store, log := events w ++ w.log }

def execute (f : Store P → Option (Store P)) : ClientM P Unit :=
  executeRecording env (fun w => f w.store) fun _ => []

end

/-! ## Reading the state -/

def App.selectedContact (app : App P) : Option Contact := app.selected.bind fun i => app.contacts[i]?

/-- `iter().position(..)` by account. -/
def positionOf (contacts : List Contact) (accountId : String) : Option Nat :=
  contacts.findIdx? fun contact => contact.bundle.accountId = accountId

/-- The account of the contact at an index. -/
def accountAt (contacts : List Contact) (index : Option Nat) : Option String :=
  (index.bind fun i => contacts[i]?).map fun contact => contact.bundle.accountId

/-- The master key this client holds for an account. -/
def World.heldKey (w : World P) (accountId : String) : Option Bytes :=
  if accountId = w.app.profile.accountId then some w.app.profile.accountMasterPublic
  else (w.store.contacts.find accountId).map fun row => row.bundle.accountMasterKey

/-- The conversation of this client with an account. -/
def World.conversationWith (w : World P) (accountId : String) : String :=
  conversationId P.sha256 w.app.profile.accountId accountId

/-- The key of an account's contact row. -/
def Store.keyOf (s : Store P) (accountId : String) : Option Bytes :=
  (s.contacts.find accountId).map fun row => row.bundle.accountMasterKey

/-- Whether inbound messages of the conversation with an account are stored. -/
def Store.holdsInbound (s : Store P) (accountId : String) : Bool :=
  s.messages.rows.any fun m => m.inbound &&
    m.conversationId = conversationId P.sha256 s.profile.accountId accountId

end TuiChat
