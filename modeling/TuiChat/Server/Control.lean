import TuiChat.Lib.Lines
import TuiChat.Server.Admin
import Mathlib.Data.Char
import Mathlib.Data.List.Lex

/-!
# The control socket

`crates/server/src/control.rs`: a request is a line of JSON, and so is its answer. Both sides read at most a fixed
number of bytes. The requests that the administrator's commands make are answered from the live sessions and the
database. A `Uuid` of a session is its token here, and the columns that the model leaves out of its rows are given
by `Columns`.
-/

namespace TuiChat

open Lib (Bytes Json.array Json.bool Json.field Json.int Json.object Json.option Json.string Proc nocase readLine)

/-- What a snapshot shows of sessions and of the audit trail, newest first, beyond what the model has of them. -/
structure Columns where
  sessionId : Nat → String
  sourceIp : Nat → String
  connectedAtMs : Nat → Int
  lastSeenAtMs : Nat → Int
  auditId : Nat → Nat
  occurredAtMs : Nat → Int
  auditSourceIp : Nat → Option String
  details : Nat → String

namespace Control

open Ws

def maxAdminFrameBytes : Nat := 64 * 1024

inductive AdminRequest
  | snapshot
  | kickSession (sessionId : Nat)
  | kickAccount (accountId reason : String)
  | kickDevice (deviceId reason : String)
deriving DecidableEq, Repr

structure AdminUser where
  accountId : String
  username : String
  state : String
  passwordChangeRequired : Bool
  activeDevices : Nat
  pendingDevices : Nat
deriving DecidableEq, Repr

structure AdminSession where
  sessionId : String
  accountId : String
  username : String
  deviceId : String
  sourceIp : String
  connectedAtMs : Int
  lastSeenAtMs : Int
  pending : Bool
deriving DecidableEq, Repr

structure AdminConversation where
  conversationId : String
  firstUsername : String
  secondUsername : String
  logicalMessages : Nat
  envelopes : Nat
  ciphertextBytes : Nat
  undeliveredEnvelopes : Nat
  oldestAtMs : Int
  newestAtMs : Int
deriving DecidableEq, Repr

structure AdminAuditEvent where
  id : Nat
  occurredAtMs : Int
  category : String
  actor : String
  action : String
  target : String
  result : String
  sourceIp : Option String
  details : String
deriving DecidableEq, Repr

structure AdminSnapshot where
  users : List AdminUser
  sessions : List AdminSession
  conversations : List AdminConversation
  audit : List AdminAuditEvent
deriving DecidableEq, Repr

structure AdminResponse where
  ok : Bool
  message : String
  snapshot : Option AdminSnapshot
deriving DecidableEq, Repr

/-! ## JSON -/

def AdminUser.json (u : AdminUser) : Bytes := Json.object
  [Json.field "account_id" (Json.string u.accountId),
    Json.field "username" (Json.string u.username),
    Json.field "state" (Json.string u.state),
    Json.field "password_change_required" (Json.bool u.passwordChangeRequired),
    Json.field "active_devices" (Json.int u.activeDevices),
    Json.field "pending_devices" (Json.int u.pendingDevices)]

def AdminSession.json (s : AdminSession) : Bytes := Json.object
  [Json.field "session_id" (Json.string s.sessionId),
    Json.field "account_id" (Json.string s.accountId),
    Json.field "username" (Json.string s.username),
    Json.field "device_id" (Json.string s.deviceId),
    Json.field "source_ip" (Json.string s.sourceIp),
    Json.field "connected_at_ms" (Json.int s.connectedAtMs),
    Json.field "last_seen_at_ms" (Json.int s.lastSeenAtMs),
    Json.field "pending" (Json.bool s.pending)]

def AdminConversation.json (c : AdminConversation) : Bytes := Json.object
  [Json.field "conversation_id" (Json.string c.conversationId),
    Json.field "first_username" (Json.string c.firstUsername),
    Json.field "second_username" (Json.string c.secondUsername),
    Json.field "logical_messages" (Json.int c.logicalMessages),
    Json.field "envelopes" (Json.int c.envelopes),
    Json.field "ciphertext_bytes" (Json.int c.ciphertextBytes),
    Json.field "undelivered_envelopes" (Json.int c.undeliveredEnvelopes),
    Json.field "oldest_at_ms" (Json.int c.oldestAtMs),
    Json.field "newest_at_ms" (Json.int c.newestAtMs)]

def AdminAuditEvent.json (e : AdminAuditEvent) : Bytes := Json.object
  [Json.field "id" (Json.int e.id),
    Json.field "occurred_at_ms" (Json.int e.occurredAtMs),
    Json.field "category" (Json.string e.category),
    Json.field "actor" (Json.string e.actor),
    Json.field "action" (Json.string e.action),
    Json.field "target" (Json.string e.target),
    Json.field "result" (Json.string e.result),
    Json.field "source_ip" (Json.option Json.string e.sourceIp),
    Json.field "details" (Json.string e.details)]

def AdminSnapshot.json (s : AdminSnapshot) : Bytes := Json.object
  [Json.field "users" (Json.array (s.users.map AdminUser.json)),
    Json.field "sessions" (Json.array (s.sessions.map AdminSession.json)),
    Json.field "conversations" (Json.array (s.conversations.map AdminConversation.json)),
    Json.field "audit" (Json.array (s.audit.map AdminAuditEvent.json))]

namespace AdminResponse

def success (message : String) : AdminResponse := { ok := true, message, snapshot := none }

def error (message : String) : AdminResponse := { ok := false, message, snapshot := none }

def json (r : AdminResponse) : Bytes := Json.object
  [Json.field "ok" (Json.bool r.ok),
    Json.field "message" (Json.string r.message),
    Json.field "snapshot" (Json.option AdminSnapshot.json r.snapshot)]

end AdminResponse

/-! ## The snapshot -/

def stateText : AccountState → String
  | .active => "active"
  | .disabled => "disabled"

/-- `GROUP BY a.id ORDER BY a.username`, a column that folds cases. -/
def users (db : Db) : List AdminUser :=
  (db.accounts.rows.insertionSort fun a b => nocase a.username ≤ nocase b.username).map fun row =>
    { accountId := row.id
      username := row.username
      state := stateText row.state
      passwordChangeRequired := row.requirePasswordChange
      activeDevices := (db.deviceCounts row.id).1
      pendingDevices := (db.deviceCounts row.id).2 }

/-- A message joined with its envelopes; one without any has a row as well. -/
def joined (db : Db) (m : LogicalMessageRow) : List (Option EnvelopeRow) :=
  match db.envelopes.rows.filter fun e => e.envelope.logicalMessageId = m.logicalMessageId with
  | [] => [none]
  | envelopes => envelopes.map some

/-- The scalar `MIN` and `MAX` of two user names. -/
def namePair (a b : String) : String × String := if nocase a ≤ nocase b then (a, b) else (b, a)

/-- The group of a conversation's messages, which have the accounts of the first in common. -/
def conversation (db : Db) (id : String) : List LogicalMessageRow → Option AdminConversation
  | [] => none
  | m :: ms => do
    let sender ← db.accounts.find m.senderAccountId
    let peer ← db.accounts.find m.peerAccountId
    let rows := (m :: ms).flatMap (joined db)
    let names := namePair sender.username peer.username
    some
      { conversationId := id
        firstUsername := names.1
        secondUsername := names.2
        logicalMessages := (m :: ms).length
        envelopes := rows.countP Option.isSome
        ciphertextBytes := (rows.map fun row => row.elim 0 fun e => e.envelope.ciphertext.length).sum
        undeliveredEnvelopes := rows.countP fun row => (row.bind EnvelopeRow.deliveredAtMs).isNone
        oldestAtMs := ms.foldl (fun t row => min t row.acceptedAtMs) m.acceptedAtMs
        newestAtMs := ms.foldl (fun t row => max t row.acceptedAtMs) m.acceptedAtMs }

/-- `GROUP BY lm.conversation_id ORDER BY newest_at_ms DESC`, of the messages whose accounts are there. -/
def conversations (db : Db) : List AdminConversation :=
  let messages := db.logicalMessages.rows.filter fun m =>
    (db.accounts.find m.senderAccountId).isSome && (db.accounts.find m.peerAccountId).isSome
  ((messages.map LogicalMessageRow.conversationId).dedup.filterMap fun id =>
    conversation db id (messages.filter fun m => m.conversationId = id)).insertionSort
      fun a b => b.newestAtMs ≤ a.newestAtMs

section

variable (env : ServerEnvironment) (columns : Columns)

/-- `live_sessions`. -/
def sessions (state : AppState) : List AdminSession :=
  (state.sessions.rows.insertionSort fun a b => columns.connectedAtMs a.id ≤ columns.connectedAtMs b.id).map fun s =>
    { sessionId := columns.sessionId s.id
      accountId := s.accountId
      username := s.username
      deviceId := s.deviceId
      sourceIp := columns.sourceIp s.id
      connectedAtMs := columns.connectedAtMs s.id
      lastSeenAtMs := columns.lastSeenAtMs s.id
      pending := s.pending }

/-- `ORDER BY id DESC LIMIT 100`. -/
def auditEvents (db : Db) : List AdminAuditEvent :=
  (db.audit.take 100).zipIdx.map fun e =>
    { id := columns.auditId e.2
      occurredAtMs := columns.occurredAtMs e.2
      category := e.1.category
      actor := e.1.actor
      action := e.1.action
      target := e.1.target
      result := e.1.result
      sourceIp := columns.auditSourceIp e.2
      details := columns.details e.2 }

def snapshot : ServerM AdminSnapshot := do
  let users ← Ws.query env users
  let sessions ← getState (sessions columns)
  let conversations ← Ws.query env conversations
  let audit ← Ws.query env (auditEvents columns)
  pure { users, sessions, conversations, audit }

/-! ## Requests -/

/-- The loop of `kick_account`, and how many sessions were told. -/
def kickSessions (reason : String) : List Nat → ServerM Nat
  | [] => pure 0
  | id :: ids => do
    let kicked ← Admin.kickSession id reason
    let rest ← kickSessions reason ids
    pure (kicked.toNat + rest)

def kickAccount (accountId reason : String) : ServerM Nat := do
  let ids ← getState fun state =>
    (state.sessions.rows.filter fun s => s.accountId = accountId).map LiveSession.id
  kickSessions reason ids

def kickDevice (deviceId reason : String) : ServerM Bool := do
  let live ← getState fun state => state.connections.find deviceId
  match live with
  | none => pure false
  | some live => do
    signal live.token reason
    pure true

/-- The number of sessions is a `usize`. -/
def dispatch : AdminRequest → ServerM AdminResponse
  | .snapshot => do
    let snapshot ← snapshot env columns
    pure { ok := true, message := "snapshot", snapshot := some snapshot }
  | .kickSession id => do
    let found ← Admin.kickSession id "admin_kick"
    Proc.ensure (found = true) "session not found"
    audit env "admin" "local-admin" "kick_session" (columns.sessionId id) "success"
    pure (.success "session kicked")
  | .kickAccount accountId reason => do
    let count ← kickAccount accountId reason
    pure (.success ("kicked " ++ toString (count % 2 ^ 64) ++ " sessions"))
  | .kickDevice deviceId reason => do
    let kicked ← kickDevice deviceId reason
    pure (.success (if kicked then "device session kicked" else "device was not online"))

/-- `handle_stream`, up to the answer, for a decoder of requests. -/
def respond (decode : Bytes → Except Error AdminRequest) (received : Bytes) : ServerM AdminResponse := do
  let encoded := readLine (received.take (maxAdminFrameBytes + 1))
  Proc.ensure (encoded.length ≤ maxAdminFrameBytes) "admin request is too large"
  let request ← Proc.ofExcept (decode encoded)
  let response ← Proc.caught (dispatch env columns request)
  match response with
  | .ok response => pure response
  | .error _ => pure (.error "admin action failed")

/-- `handle_stream`: the bytes that are written. -/
def handleStream (decode : Bytes → Except Error AdminRequest) (received : Bytes) : ServerM Bytes := do
  let response ← respond env columns decode received
  pure (response.json ++ [10])

/-- `request`, for the bytes that come back. -/
def request (decode : Bytes → Except Error AdminResponse) (answer : Bytes) : Except Error AdminResponse :=
  let response := readLine (answer.take (maxAdminFrameBytes + 1))
  if maxAdminFrameBytes < response.length then .error "admin response is too large" else decode response

end

end Control

end TuiChat
