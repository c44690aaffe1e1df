import Mathlib.Tactic.IntervalCases
import TuiChat.Server.Control
import TuiChat.Server.Exec
import TuiChat.Verify.ServerScenario

/-!
# Answers on the control socket

An answer is a line, which the other side reads up to a fixed number of bytes. Every answer but a snapshot is short.
A snapshot has the users, sessions and conversations of the server, however many there are, so it is read if and
only if they are few enough (`response_accepted_iff`).
-/

namespace TuiChat

open Lib (Bytes Inline Json.array Json.bool Json.escapedLen Json.field Json.int Json.object Json.option Json.string Proc
  readLine)
open Lib.Wire (utf8)

namespace Control

/-! ## Lines -/

theorem inline_rows {α : Type} {json : α → Bytes} (h : ∀ a, Inline (json a)) (rows : List α) :
    Inline (Json.array (rows.map json)) := by
  refine Lib.Json.inline_array fun b hb => ?_
  obtain ⟨a, -, rfl⟩ := List.mem_map.1 hb
  exact h a

theorem AdminUser.inline_json (u : AdminUser) : Inline u.json := by simp [AdminUser.json]

theorem AdminSession.inline_json (s : AdminSession) : Inline s.json := by simp [AdminSession.json]

theorem AdminConversation.inline_json (c : AdminConversation) : Inline c.json := by simp [AdminConversation.json]

theorem AdminAuditEvent.inline_json (e : AdminAuditEvent) : Inline e.json := by
  simp [AdminAuditEvent.json, Lib.Json.inline_option Lib.Json.inline_string]

theorem AdminSnapshot.inline_json (s : AdminSnapshot) : Inline s.json := by
  simp [AdminSnapshot.json, inline_rows AdminUser.inline_json, inline_rows AdminSession.inline_json,
    inline_rows AdminConversation.inline_json, inline_rows AdminAuditEvent.inline_json]

theorem AdminResponse.inline_json (r : AdminResponse) : Inline r.json := by
  simp [AdminResponse.json, Lib.Json.inline_option AdminSnapshot.inline_json]

/-- An answer is read if it and its newline are not too long. -/
theorem request_eq_ok_iff {decode : Bytes → Except Error AdminResponse} {r : AdminResponse}
    (hdecode : decode (r.json ++ [10]) = .ok r) :
    request decode (r.json ++ [10]) = .ok r ↔ r.json.length + 1 ≤ maxAdminFrameBytes := by
  have hlength := Lib.length_readLine_take (n := maxAdminFrameBytes + 1) r.inline_json
  unfold request
  dsimp only
  rw [hlength]
  constructor
  · intro h
    split at h
    · cases h
    · omega
  · intro h
    rw [if_neg (by omega), Lib.readLine_take r.inline_json (by omega)]
    exact hdecode

/-! ## Sizes -/

/-- The digits of a number. -/
def digits (n : Int) : Nat := (Json.int n).length

/-- `true` or `false`. -/
def boolSize (b : Bool) : Nat := if b then 4 else 5

theorem length_bool (b : Bool) : (Json.bool b).length = boolSize b := by
  cases b
  · decide
  · decide

/-- `null` or a string. -/
def optionSize (o : Option String) : Nat := (Json.option Json.string o).length

def AdminUser.size (u : AdminUser) : Nat :=
  107 + Json.escapedLen u.accountId + Json.escapedLen u.username + Json.escapedLen u.state +
    boolSize u.passwordChangeRequired + digits u.activeDevices + digits u.pendingDevices

def AdminSession.size (s : AdminSession) : Nat :=
  126 + Json.escapedLen s.sessionId + Json.escapedLen s.accountId + Json.escapedLen s.username +
    Json.escapedLen s.deviceId + Json.escapedLen s.sourceIp + digits s.connectedAtMs + digits s.lastSeenAtMs +
    boolSize s.pending

def AdminConversation.size (c : AdminConversation) : Nat :=
  173 + Json.escapedLen c.conversationId + Json.escapedLen c.firstUsername + Json.escapedLen c.secondUsername +
    digits c.logicalMessages + digits c.envelopes + digits c.ciphertextBytes + digits c.undeliveredEnvelopes +
    digits c.oldestAtMs + digits c.newestAtMs

def AdminAuditEvent.size (e : AdminAuditEvent) : Nat :=
  112 + digits e.id + digits e.occurredAtMs + Json.escapedLen e.category + Json.escapedLen e.actor +
    Json.escapedLen e.action + Json.escapedLen e.target + Json.escapedLen e.result + optionSize e.sourceIp +
    Json.escapedLen e.details

/-- Rows and the commas between them. -/
def rowsSize {α : Type} (size : α → Nat) (rows : List α) : Nat := (rows.map size).sum + (rows.length - 1)

def AdminSnapshot.size (s : AdminSnapshot) : Nat :=
  56 + rowsSize AdminUser.size s.users + rowsSize AdminSession.size s.sessions +
    rowsSize AdminConversation.size s.conversations + rowsSize AdminAuditEvent.size s.audit

theorem AdminUser.length_json (u : AdminUser) : u.json.length = u.size := by
  have h := Lib.Json.length_record [("account_id", Json.string u.accountId), ("username", Json.string u.username),
    ("state", Json.string u.state), ("password_change_required", Json.bool u.passwordChangeRequired),
    ("active_devices", Json.int u.activeDevices), ("pending_devices", Json.int u.pendingDevices)]
  have hnames : Lib.Json.recordSize ["account_id", "username", "state", "password_change_required",
    "active_devices", "pending_devices"] = 101 := by decide
  simp only [List.map_cons, List.map_nil, List.sum_cons, List.sum_nil, hnames, Lib.Json.length_string,
    length_bool] at h
  rw [AdminUser.json, h, AdminUser.size, digits, digits]
  omega

theorem AdminSession.length_json (s : AdminSession) : s.json.length = s.size := by
  have h := Lib.Json.length_record [("session_id", Json.string s.sessionId), ("account_id", Json.string s.accountId),
    ("username", Json.string s.username), ("device_id", Json.string s.deviceId),
    ("source_ip", Json.string s.sourceIp), ("connected_at_ms", Json.int s.connectedAtMs),
    ("last_seen_at_ms", Json.int s.lastSeenAtMs), ("pending", Json.bool s.pending)]
  have hnames : Lib.Json.recordSize ["session_id", "account_id", "username", "device_id", "source_ip",
    "connected_at_ms", "last_seen_at_ms", "pending"] = 116 := by decide
  simp only [List.map_cons, List.map_nil, List.sum_cons, List.sum_nil, hnames, Lib.Json.length_string,
    length_bool] at h
  rw [AdminSession.json, h, AdminSession.size, digits, digits]
  omega

theorem AdminConversation.length_json (c : AdminConversation) : c.json.length = c.size := by
  have h := Lib.Json.length_record [("conversation_id", Json.string c.conversationId),
    ("first_username", Json.string c.firstUsername), ("second_username", Json.string c.secondUsername),
    ("logical_messages", Json.int c.logicalMessages), ("envelopes", Json.int c.envelopes),
    ("ciphertext_bytes", Json.int c.ciphertextBytes), ("undelivered_envelopes", Json.int c.undeliveredEnvelopes),
    ("oldest_at_ms", Json.int c.oldestAtMs), ("newest_at_ms", Json.int c.newestAtMs)]
  have hnames : Lib.Json.recordSize ["conversation_id", "first_username", "second_username", "logical_messages",
    "envelopes", "ciphertext_bytes", "undelivered_envelopes", "oldest_at_ms", "newest_at_ms"] = 167 := by decide
  simp only [List.map_cons, List.map_nil, List.sum_cons, List.sum_nil, hnames, Lib.Json.length_string] at h
  rw [AdminConversation.json, h, AdminConversation.size]
  simp only [digits]
  omega

theorem AdminAuditEvent.length_json (e : AdminAuditEvent) : e.json.length = e.size := by
  have h := Lib.Json.length_record [("id", Json.int e.id), ("occurred_at_ms", Json.int e.occurredAtMs),
    ("category", Json.string e.category), ("actor", Json.string e.actor), ("action", Json.string e.action),
    ("target", Json.string e.target), ("result", Json.string e.result),
    ("source_ip", Json.option Json.string e.sourceIp), ("details", Json.string e.details)]
  have hnames : Lib.Json.recordSize ["id", "occurred_at_ms", "category", "actor", "action", "target", "result",
    "source_ip", "details"] = 100 := by decide
  simp only [List.map_cons, List.map_nil, List.sum_cons, List.sum_nil, hnames, Lib.Json.length_string] at h
  rw [AdminAuditEvent.json, h, AdminAuditEvent.size]
  simp only [digits, optionSize]
  omega

theorem length_rows {α : Type} {json : α → Bytes} {size : α → Nat} (h : ∀ a, (json a).length = size a)
    (rows : List α) : (Json.array (rows.map json)).length = rowsSize size rows + 2 := by
  have hmap : (rows.map json).map List.length = rows.map size := by
    rw [List.map_map]
    exact List.map_congr_left fun a _ => h a
  rw [Lib.Json.length_array, hmap, List.length_map, rowsSize]

theorem AdminSnapshot.length_json (s : AdminSnapshot) : s.json.length = s.size := by
  have h := Lib.Json.length_record [("users", Json.array (s.users.map AdminUser.json)),
    ("sessions", Json.array (s.sessions.map AdminSession.json)),
    ("conversations", Json.array (s.conversations.map AdminConversation.json)),
    ("audit", Json.array (s.audit.map AdminAuditEvent.json))]
  have hnames : Lib.Json.recordSize ["users", "sessions", "conversations", "audit"] = 48 := by decide
  simp only [List.map_cons, List.map_nil, List.sum_cons, List.sum_nil, hnames, length_rows AdminUser.length_json,
    length_rows AdminSession.length_json, length_rows AdminConversation.length_json,
    length_rows AdminAuditEvent.length_json] at h
  rw [AdminSnapshot.json, h, AdminSnapshot.size]
  omega

theorem AdminResponse.length_json (r : AdminResponse) :
    r.json.length = 32 + boolSize r.ok + Json.escapedLen r.message + (Json.option AdminSnapshot.json r.snapshot).length := by
  have h := Lib.Json.length_record [("ok", Json.bool r.ok), ("message", Json.string r.message),
    ("snapshot", Json.option AdminSnapshot.json r.snapshot)]
  have hnames : Lib.Json.recordSize ["ok", "message", "snapshot"] = 30 := by decide
  simp only [List.map_cons, List.map_nil, List.sum_cons, List.sum_nil, hnames, Lib.Json.length_string,
    length_bool] at h
  rw [AdminResponse.json, h]
  omega

/-! ## Answers -/

open Ws

section

variable {env : ServerEnvironment} {columns : Columns} {s : AppState} {w w' : ServerWorld}

/-- The snapshot of a state. -/
def snapshotOf (columns : Columns) (s : AppState) : AdminSnapshot :=
  { users := users s.db
    sessions := sessions columns s
    conversations := conversations s.db
    audit := auditEvents columns s.db }

/-- The bytes of an answer with the rows of a snapshot. -/
def snapshotSize (columns : Columns) (s : AppState) : Nat :=
  101 + rowsSize AdminUser.size (users s.db) + rowsSize AdminSession.size (sessions columns s) +
    rowsSize AdminConversation.size (conversations s.db) + rowsSize AdminAuditEvent.size (auditEvents columns s.db)

/-- The three queries of a snapshot work. -/
structure Reads (env : ServerEnvironment) (s : AppState) : Prop where
  users : env.works s.tick = true
  conversations : env.works (s.tick + 1) = true
  audit : env.works (s.tick + 2) = true

/-- An answer without a snapshot, and with a short message. -/
structure Short (r : AdminResponse) : Prop where
  snapshot : r.snapshot = none
  message : r.message.length ≤ 40

theorem escapedLen_le_chars (text : String) : Json.escapedLen text ≤ 24 * text.length := by
  have hbytes : (utf8 text).length ≤ 4 * text.length := by
    unfold utf8
    rw [← String.length_toList]
    induction text.toList with
    | nil => exact Nat.zero_le _
    | cons c cs ih =>
      have hc : (String.utf8EncodeChar c).length ≤ 4 := by
        rw [String.length_utf8EncodeChar]
        exact Char.utf8Size_le_four c
      rw [List.flatMap_cons, List.length_append, List.length_cons]
      omega
  have hescaped := Lib.Json.escapedLen_le text
  omega

theorem Short.fits {r : AdminResponse} (h : Short r) : r.json.length + 1 ≤ maxAdminFrameBytes := by
  have hmessage := escapedLen_le_chars r.message
  have hbool : boolSize r.ok ≤ 5 := by
    unfold boolSize
    split
    · omega
    · omega
  have hnull : (Json.option AdminSnapshot.json none).length = 4 := by decide
  have hshort := h.message
  rw [AdminResponse.length_json, h.snapshot, hnull, maxAdminFrameBytes]
  omega

theorem exec_snapshot_eq_ok {snap : AdminSnapshot} (h : (snapshot env columns).exec w = (.ok snap, w')) :
    Reads env w.1 ∧ snap = snapshotOf columns w.1 := by
  unfold snapshot Ws.query getState at h
  obtain ⟨us, w₁, h₁, h⟩ := Proc.exec_bind_eq_ok.1 h
  obtain ⟨hworks₁, rfl, rfl⟩ := exec_queryRecording_eq_ok.1 h₁
  obtain ⟨live, w₂, h₂, h⟩ := Proc.exec_bind_eq_ok.1 h
  cases h₂
  obtain ⟨cs, w₃, h₃, h⟩ := Proc.exec_bind_eq_ok.1 h
  obtain ⟨hworks₃, rfl, rfl⟩ := exec_queryRecording_eq_ok.1 h₃
  obtain ⟨events, w₄, h₄, h⟩ := Proc.exec_bind_eq_ok.1 h
  obtain ⟨hworks₄, rfl, rfl⟩ := exec_queryRecording_eq_ok.1 h₄
  obtain ⟨rfl, -⟩ := Proc.exec_pure_eq_ok.1 h
  exact ⟨⟨hworks₁, hworks₃, hworks₄⟩, rfl⟩

theorem length_snapshotOf (columns : Columns) (s : AppState) :
    (AdminResponse.mk true "snapshot" (some (snapshotOf columns s))).json.length + 1 = snapshotSize columns s := by
  have hmessage : Json.escapedLen "snapshot" = 8 := by decide
  have hbool : boolSize true = 4 := rfl
  rw [AdminResponse.length_json, hmessage, hbool, Lib.Json.option, AdminSnapshot.length_json, AdminSnapshot.size,
    snapshotSize, snapshotOf]
  dsimp only
  omega

/-- Where the queries work, there is a snapshot. -/
theorem Reads.exec_snapshot (h : Reads env w.1) : ∃ snap w', (snapshot env columns).exec w = (.ok snap, w') := by
  obtain ⟨s, c⟩ := w
  unfold snapshot Ws.query getState
  rw [Proc.exec_bind, exec_queryRecording h.users]
  dsimp only
  rw [Proc.exec_bind]
  dsimp only [Proc.atomically, Proc.exec]
  rw [Proc.exec_bind, exec_queryRecording h.conversations]
  dsimp only
  rw [Proc.exec_bind, exec_queryRecording h.audit]
  exact ⟨_, _, rfl⟩

theorem dispatch_short {r : AdminRequest} {response : AdminResponse} (hr : r ≠ .snapshot)
    (h : (dispatch env columns r).exec w = (.ok response, w')) : Short response := by
  cases r with
  | snapshot => exact absurd rfl hr
  | kickSession id =>
    obtain ⟨found, w₁, -, h⟩ := Proc.exec_bind_eq_ok.1 h
    obtain ⟨_, w₂, -, h⟩ := Proc.exec_bind_eq_ok.1 h
    obtain ⟨_, w₃, -, h⟩ := Proc.exec_bind_eq_ok.1 h
    obtain ⟨rfl, -⟩ := Proc.exec_pure_eq_ok.1 h
    exact ⟨rfl, by decide⟩
  | kickAccount accountId reason =>
    obtain ⟨count, w₁, -, h⟩ := Proc.exec_bind_eq_ok.1 h
    obtain ⟨rfl, -⟩ := Proc.exec_pure_eq_ok.1 h
    refine ⟨rfl, ?_⟩
    have hlt : count % 2 ^ 64 < 10 ^ 20 := by omega
    generalize count % 2 ^ 64 = n at hlt ⊢
    have hdigits : n.repr.length ≤ 20 := (Nat.length_repr_le_iff (by omega)).2 hlt
    have hkicked : "kicked ".length = 7 := rfl
    have hsessions : " sessions".length = 9 := rfl
    rw [AdminResponse.success, Nat.toString_eq_repr, String.length_append, String.length_append, hkicked, hsessions]
    omega
  | kickDevice deviceId reason =>
    obtain ⟨kicked, w₁, -, h⟩ := Proc.exec_bind_eq_ok.1 h
    obtain ⟨rfl, -⟩ := Proc.exec_pure_eq_ok.1 h
    refine ⟨rfl, ?_⟩
    cases kicked
    · decide
    · decide

theorem exec_caught {α : Type} (m : ServerM α) (w : ServerWorld) :
    (Proc.caught m).exec w = (.ok (m.exec w).1, (m.exec w).2) := by
  induction m generalizing w with
  | done r => rfl
  | act f k ih => exact ih w (f w)

/-- An answer is that of its request, or says that it failed. -/
theorem respond_cases {decode : Bytes → Except Error AdminRequest} {received : Bytes} {response : AdminResponse}
    (h : (respond env columns decode received).exec w = (.ok response, w')) :
    ∃ request, decode (readLine (received.take (maxAdminFrameBytes + 1))) = .ok request ∧
      (((dispatch env columns request).exec w).1 = .ok response ∨
        response = .error "admin action failed" ∧ ∃ e, ((dispatch env columns request).exec w).1 = .error e) := by
  obtain ⟨_, w₁, h₁, hdecoding⟩ := Proc.exec_bind_eq_ok.1 h
  obtain ⟨-, hw₁⟩ := Proc.exec_ensure_eq_ok.1 h₁
  obtain ⟨request, w₂, h₂, hdispatching⟩ := Proc.exec_bind_eq_ok.1 hdecoding
  obtain ⟨hrequest, hw₂⟩ := Prod.mk.inj h₂
  rw [Proc.exec_bind, exec_caught, ← hw₂, hw₁] at hdispatching
  refine ⟨request, hrequest, ?_⟩
  dsimp only at hdispatching
  cases hdispatch : ((dispatch env columns request).exec w).1 with
  | error e =>
    rw [hdispatch] at hdispatching
    obtain ⟨rfl, -⟩ := Proc.exec_pure_eq_ok.1 hdispatching
    exact .inr ⟨rfl, e, rfl⟩
  | ok answer =>
    rw [hdispatch] at hdispatching
    obtain ⟨rfl, -⟩ := Proc.exec_pure_eq_ok.1 hdispatching
    exact .inl rfl

theorem respond_eq_ok {decode : Bytes → Except Error AdminRequest} {received : Bytes} {request : AdminRequest}
    {response : AdminResponse} (fits : (readLine (received.take (maxAdminFrameBytes + 1))).length ≤ maxAdminFrameBytes)
    (hrequest : decode (readLine (received.take (maxAdminFrameBytes + 1))) = .ok request)
    (h : (dispatch env columns request).exec w = (.ok response, w')) :
    (respond env columns decode received).exec w = (.ok response, w') := by
  refine Proc.exec_bind_eq_ok.2 ⟨(), w, Proc.exec_ensure_eq_ok.2 ⟨fits, rfl⟩, ?_⟩
  refine Proc.exec_bind_eq_ok.2 ⟨request, w, Prod.ext hrequest rfl, ?_⟩
  rw [Proc.exec_bind, exec_caught, h]
  rfl

/-- Where the queries work, a request for a snapshot is answered with that of the state. -/
theorem Reads.respond (h : Reads env w.1) : ∃ w', (respond env columns (fun _ => .ok .snapshot) []).exec w =
    (.ok { ok := true, message := "snapshot", snapshot := some (snapshotOf columns w.1) }, w') := by
  obtain ⟨snap, w₁, hsnap⟩ := @Reads.exec_snapshot _ columns _ h
  obtain ⟨-, rfl⟩ := exec_snapshot_eq_ok hsnap
  refine ⟨w₁, respond_eq_ok (Nat.zero_le _) rfl ?_⟩
  rw [dispatch, Proc.exec_bind, hsnap]
  rfl

end

end Control

open Control in
/-- Whatever is asked, in any state: the answer that is written is read at the other side if and only if it is no
snapshot, or the rows that it lists are few enough. -/
theorem response_accepted_iff {env : ServerEnvironment} {columns : Columns}
    {decodeRequest : Bytes → Except Error AdminRequest} {decodeResponse : Bytes → Except Error AdminResponse}
    {received : Bytes} {w w' : ServerWorld} {response : AdminResponse}
    (answered : (respond env columns decodeRequest received).exec w = (.ok response, w'))
    (roundTrip : decodeResponse (response.json ++ [10]) = .ok response) :
    (handleStream env columns decodeRequest received).exec w = (.ok (response.json ++ [10]), w') ∧
      (Control.request decodeResponse (response.json ++ [10]) = .ok response ↔
        (decodeRequest (readLine (received.take (maxAdminFrameBytes + 1))) = .ok .snapshot → Reads env w.1 →
          snapshotSize columns w.1 ≤ maxAdminFrameBytes)) := by
  constructor
  · rw [handleStream, Proc.exec_bind, answered]
    rfl
  rw [request_eq_ok_iff roundTrip]
  obtain ⟨request, hrequest, hcases⟩ := respond_cases answered
  rw [hrequest]
  by_cases hsnapshot : request = .snapshot
  · subst hsnapshot
    rcases hcases with hok | ⟨rfl, e, herror⟩
    · -- The queries have worked, so the answer has the rows of this state.
      have hbind : (dispatch env columns .snapshot).exec w = (.ok response, ((dispatch env columns .snapshot).exec w).2) :=
        Prod.ext hok rfl
      obtain ⟨snap, w₁, hsnap, hpure⟩ := Proc.exec_bind_eq_ok.1 hbind
      obtain ⟨rfl, -⟩ := Proc.exec_pure_eq_ok.1 hpure
      obtain ⟨hreads, rfl⟩ := exec_snapshot_eq_ok hsnap
      rw [length_snapshotOf]
      exact ⟨fun hle _ _ => hle, fun hfits => hfits rfl hreads⟩
    · have hshort : Short (.error "admin action failed") := ⟨rfl, by decide⟩
      refine iff_of_true hshort.fits fun _ hreads => ?_
      obtain ⟨snap, w₁, hsnap⟩ := @Reads.exec_snapshot _ columns _ hreads
      have hok : ((dispatch env columns .snapshot).exec w).1 = .ok
          { ok := true, message := "snapshot", snapshot := some snap } := by
        rw [dispatch, Proc.exec_bind, hsnap]
        rfl
      rw [hok] at herror
      cases herror
  · have hshort : Short response := by
      rcases hcases with hok | ⟨rfl, -⟩
      · have hdispatch : (dispatch env columns request).exec w = (.ok response, ((dispatch env columns request).exec w).2) :=
          Prod.ext hok rfl
        exact dispatch_short hsnapshot hdispatch
      · exact ⟨rfl, by decide⟩
    refine iff_of_true hshort.fits fun heq => ?_
    cases heq
    exact absurd rfl hsnapshot

/-! ## Many accounts -/

namespace Control

open Ws

variable {env : ServerEnvironment} {s : AppState} {c : Connection}

/-- A user whose name is free is added. -/
theorem exec_addUser {username password phc : String} (works : ∀ n, env.works n = true)
    (hname : normalizeUsername username = .ok username)
    (hphc : ∀ n, hashPassword env.passwords n password = .ok phc)
    (hid : s.db.accounts.find (env.uuid (s.tick + 1)) = none) (hfree : s.db.accountByUsername username = none) :
    ∃ s', (Admin.addUser env username password).exec (s, c) = (.ok (), (s', c)) ∧ s'.tick = s.tick + 4 ∧
      s'.db.accounts = s.db.accounts.insertOrIgnore (.added (env.uuid (s.tick + 1)) username phc) := by
  let s₁ : AppState := { s with tick := s.tick + 1 }
  let s₂ : AppState := { s with tick := s.tick + 1 + 1 }
  let added : Db := { s.db with
    accounts := s.db.accounts.insertOrIgnore (.added (env.uuid (s.tick + 1)) username phc) }
  have hhash : (learn fun n w => (hashPassword env.passwords n password, w) : ServerM String).exec (s, c) =
      (.ok phc, (s₁, c)) := by
    simp only [learn, Proc.atomically, Proc.exec, hphc, s₁]
  have hdraw : (learn fun n w => (.ok (env.uuid n), w) : ServerM String).exec (s₁, c) =
      (.ok (env.uuid (s.tick + 1)), (s₂, c)) := rfl
  have hadd : s₂.db.addAccount (env.uuid (s.tick + 1)) username phc = .ok added :=
    Db.addAccount_eq_ok.2 ⟨hid, hfree, rfl⟩
  unfold Admin.addUser
  rw [hname, Proc.exec_bind]
  dsimp only [Proc.ofExcept, Proc.exec]
  rw [Proc.exec_bind, hhash]
  dsimp only
  rw [Proc.exec_bind, hdraw]
  dsimp only
  rw [Proc.exec_bind, exec_write (works _) hadd]
  dsimp only
  unfold audit update Ws.execute
  rw [exec_executeRecording (works _) rfl]
  exact ⟨_, rfl, rfl, rfl⟩

theorem length_users (db : Db) : (users db).length = db.accounts.rows.length := by
  rw [users, List.length_map, List.length_insertionSort]

/-- Every user takes more than a hundred bytes. -/
theorem users_le_snapshotSize (columns : Columns) (s : AppState) :
    107 * s.db.accounts.rows.length ≤ snapshotSize columns s := by
  have hrows : ∀ us : List AdminUser, 107 * us.length ≤ (us.map AdminUser.size).sum := by
    intro us
    induction us with
    | nil => exact Nat.zero_le _
    | cons u us ih =>
      have hu : 107 ≤ u.size := by
        unfold AdminUser.size
        omega
      rw [List.map_cons, List.sum_cons, List.length_cons]
      omega
  have husers := hrows (users s.db)
  rw [length_users] at husers
  unfold snapshotSize rowsSize
  omega

end Control

namespace Scenario.Crowd

open Control Ws
open Lib.Wire (utf8)

/-- A new id each time. -/
@[irreducible] def draw (n : Nat) : String := "00000000-0000-4000-8000-" ++ (10 ^ 11 + n).repr

def environment : ServerEnvironment := { server with uuid := draw }

def columns : Columns :=
  { sessionId := uuid ∘ Char.ofNat
    sourceIp := fun _ => "127.0.0.1"
    connectedAtMs := fun _ => 0
    lastSeenAtMs := fun _ => 0
    auditId := id
    occurredAtMs := fun _ => 0
    auditSourceIp := fun _ => none
    details := fun _ => "" }

def name (i : Nat) : String := (1000 + i).repr

/-- The administrator adds users one by one. -/
def crowd : Nat → Cluster
  | 0 => .initial environment
  | n + 1 => (crowd n).commanded environment 0 (.userAdd (name n) password)

theorem crowd_reachable (n : Nat) : (serverSystem environment primitives).Reachable (crowd n) := by
  induction n with
  | zero => exact .init rfl
  | succ n ih => exact Cluster.commanded_reachable ih 0 _

theorem repr_injective {m n : Nat} (h : m.repr = n.repr) : m = n := by
  have hdigits := congrArg String.toList h
  rw [Nat.toList_repr, Nat.toList_repr] at hdigits
  rw [← Nat.ofDigitChars_ten_toDigits (n := m), hdigits, Nat.ofDigitChars_ten_toDigits]

theorem name_injective {i j : Nat} (h : name i = name j) : i = j := by
  have := repr_injective h
  omega

theorem draw_injective {m n : Nat} (h : draw m = draw n) : m = n := by
  unfold draw at h
  have hrepr : (10 ^ 11 + m).repr = (10 ^ 11 + n).repr := String.append_right_inj _ |>.1 h
  have := repr_injective hrepr
  omega

theorem digit_encoded {c : Char} (h : c.isDigit = true) :
    c.toLower = c ∧ ∃ b, String.utf8EncodeChar c = [b] ∧ isAsciiDigit b = true := by
  have hrange : 48 ≤ c.toNat ∧ c.toNat ≤ 57 := by
    simp only [Char.isDigit, Bool.and_eq_true, decide_eq_true_eq] at h
    exact h
  have hc : c = Char.ofNat c.toNat := (Char.ofNat_toNat c).symm
  generalize c.toNat = n at hrange hc
  obtain ⟨hlow, hhigh⟩ := hrange
  subst hc
  interval_cases n <;> exact ⟨by decide, _, rfl, by decide⟩

/-- A number of three digits or more is a user name. -/
theorem normalizeUsername_digits {s : String} (digits : ∀ c ∈ s.toList, c.isDigit = true) (least : 3 ≤ s.length)
    (most : s.length ≤ 32) : normalizeUsername s = .ok s := by
  have hlower : asciiLowercase s = s := by
    rw [asciiLowercase, List.map_congr_left fun c hc => (digit_encoded (digits c hc)).1, List.map_id', String.ofList_toList]
  have hbytes : (utf8 s).length = s.length ∧ ∀ b ∈ utf8 s, isAsciiDigit b = true := by
    unfold utf8
    rw [← String.length_toList]
    generalize s.toList = cs at digits
    induction cs with
    | nil => exact ⟨rfl, nofun⟩
    | cons c cs ih =>
      obtain ⟨-, b, hb, hdigit⟩ := digit_encoded (digits c List.mem_cons_self)
      obtain ⟨hlength, hall⟩ := ih fun c hc => digits c (List.mem_cons_of_mem _ hc)
      rw [List.flatMap_cons, hb]
      refine ⟨congrArg Nat.succ hlength, fun b' hb' => ?_⟩
      rcases List.mem_cons.1 hb' with rfl | hb'
      · exact hdigit
      · exact hall b' hb'
  unfold normalizeUsername
  rw [hlower]
  dsimp only
  rw [hbytes.1, if_neg]
  rintro (hshort | hlong | hother)
  · omega
  · omega
  · obtain ⟨b, hb, hbad⟩ := List.any_eq_true.1 hother
    rw [hbytes.2 b hb] at hbad
    simp at hbad

theorem name_normal (i : Nat) (hi : i < 700) : normalizeUsername (name i) = .ok (name i) := by
  have hlong : ¬(1000 + i).repr.length ≤ 3 := fun h => by
    have := (Nat.length_repr_le_iff (by omega)).1 h
    omega
  have hshort : (1000 + i).repr.length ≤ 32 := (Nat.length_repr_le_iff (by omega)).2 (by omega)
  refine normalizeUsername_digits (fun c hc => ?_) (show 3 ≤ (1000 + i).repr.length by omega) hshort
  rw [name, Nat.toList_repr] at hc
  exact Nat.isDigit_of_mem_toDigits (by decide) (by decide) hc

/-- A normalized name is its own folding. -/
theorem nocase_name {i : Nat} (hi : i < 700) : Lib.nocase (name i) = (name i).toList := by
  have h := name_normal i hi
  unfold normalizeUsername at h
  dsimp only at h
  split at h
  · cases h
  · have hlower : asciiLowercase (name i) = name i := Except.ok.inj h
    have hlist := congrArg String.toList hlower
    rwa [asciiLowercase, String.toList_ofList] at hlist

structure Crowded (n : Nat) (p : Cluster) : Prop where
  idle : p.tasks 0 = none
  length : p.shared.db.accounts.rows.length = n
  names : ∀ row ∈ p.shared.db.accounts, ∃ i < n, row.username = name i
  ids : ∀ row ∈ p.shared.db.accounts, ∃ k < p.shared.tick, row.id = draw k

theorem commanded_of_exec {p : Cluster} {x : Admin.Command} {w' : ServerWorld} (idle : p.tasks 0 = none)
    (h : (Admin.runCommand environment x).exec (p.world 0) = (.ok (), w')) :
    (p.commanded environment 0 x).tasks 0 = none ∧ (p.commanded environment 0 x).shared = w'.1 := by
  have hnext : p.commanded environment 0 x = p.finish 0 (Admin.runCommand environment x) := if_pos (by rw [idle]; rfl)
  rw [hnext]
  exact ⟨by simp [Lib.Pool.finish], by rw [Lib.Pool.finish, h]⟩

/-- One more. -/
theorem Crowded.add {n : Nat} {p : Cluster} (h : Crowded n p) (hn : n < 700) :
    Crowded (n + 1) (p.commanded environment 0 (.userAdd (name n) password)) := by
  have hid : p.shared.db.accounts.find (draw (p.shared.tick + 1)) = none := by
    refine Lib.Table.find_eq_none.2 fun row hrow hkey => ?_
    obtain ⟨k, hk, hrowid⟩ := h.ids row hrow
    have := draw_injective (hrowid.symm.trans hkey)
    omega
  have hfree : p.shared.db.accountByUsername (name n) = none := by
    refine List.find?_eq_none.2 fun row hrow hsame => ?_
    obtain ⟨i, hi, hname⟩ := h.names row hrow
    have hfold := of_decide_eq_true hsame
    rw [hname, nocase_name (by omega), nocase_name (by omega)] at hfold
    have := name_injective (String.toList_inj.1 hfold)
    omega
  have hphc : ∀ draw, hashPassword environment.passwords draw password = .ok password := fun _ => rfl
  obtain ⟨s', hexec, htick, haccounts⟩ := @exec_addUser environment p.shared (p.locals 0) _ _ _ (fun _ => rfl)
    (name_normal n hn) hphc hid hfree
  have hrows := Lib.Table.insertOrIgnore_of_find_none (a := AccountRow.added (draw (p.shared.tick + 1)) (name n) password) hid
  obtain ⟨hidle, hshared⟩ := commanded_of_exec (x := .userAdd (name n) password) h.idle hexec
  change s'.db.accounts = p.shared.db.accounts.insertOrIgnore
    (AccountRow.added (draw (p.shared.tick + 1)) (name n) password) at haccounts
  have hcases : ∀ row ∈ s'.db.accounts, row ∈ p.shared.db.accounts ∨
      row = .added (draw (p.shared.tick + 1)) (name n) password := by
    intro row hrow
    rw [haccounts] at hrow
    exact (Lib.Table.mem_insertOrIgnore.1 hrow).imp_right And.left
  refine ⟨?_, ?_, ?_, ?_⟩
  · exact hidle
  · rw [hshared, haccounts, hrows, List.length_append, h.length]
    rfl
  · rw [hshared]
    intro row hrow
    rcases hcases row hrow with hold | rfl
    · obtain ⟨i, hi, hname⟩ := h.names row hold
      exact ⟨i, by omega, hname⟩
    · exact ⟨n, Nat.lt_succ_self n, rfl⟩
  · rw [hshared, htick]
    intro row hrow
    rcases hcases row hrow with hold | rfl
    · obtain ⟨k, hk, hrowid⟩ := h.ids row hold
      exact ⟨k, by omega, hrowid⟩
    · exact ⟨p.shared.tick + 1, by omega, rfl⟩

theorem crowd_crowded : ∀ n ≤ 700, Crowded n (crowd n)
  | 0, _ =>
    { idle := rfl
      length := rfl
      names := fun _ h => absurd h (Lib.Table.not_mem_empty _)
      ids := fun _ h => absurd h (Lib.Table.not_mem_empty _) }
  | n + 1, hn => (crowd_crowded n (by omega)).add (by omega)

/-- The administrator asks for a snapshot. -/
def ask : Bytes → Except Error AdminRequest := fun _ => .ok .snapshot

def answer (n : Nat) : AdminResponse :=
  { ok := true
    message := "snapshot"
    snapshot := some (snapshotOf columns (crowd n).shared) }

theorem answered (n : Nat) :
    ∃ w', (respond environment columns ask []).exec ((crowd n).world 0) = (.ok (answer n), w') := by
  have hreads : Reads environment ((crowd n).world 0).1 := ⟨rfl, rfl, rfl⟩
  exact hreads.respond

theorem answer_long {n : Nat} (hn : n ≤ 700) (many : 613 ≤ n) : maxAdminFrameBytes < (answer n).json.length := by
  have hsize := users_le_snapshotSize columns (crowd n).shared
  have hlength := (crowd_crowded n hn).length
  have hanswer : (answer n).json.length + 1 = snapshotSize columns (crowd n).shared := length_snapshotOf _ _
  rw [hlength] at hsize
  rw [maxAdminFrameBytes]
  omega

theorem refused {n : Nat} (hn : n ≤ 700) (many : 613 ≤ n) :
    (serverSystem environment primitives).Reachable (crowd n) ∧
    (∃ w', (handleStream environment columns ask []).exec ((crowd n).world 0) = (.ok ((answer n).json ++ [10]), w')) ∧
    ∀ decode, Control.request decode ((answer n).json ++ [10]) = .error "admin response is too large" := by
  refine ⟨crowd_reachable n, ?_, fun decode => ?_⟩
  · obtain ⟨w', hrespond⟩ := answered n
    exact ⟨w', Proc.exec_bind_eq_ok.2 ⟨_, _, hrespond, rfl⟩⟩
  · have hlength := Lib.length_readLine_take (n := maxAdminFrameBytes + 1) (answer n).inline_json
    have hlong := answer_long hn many
    exact if_pos (by omega)

theorem snapshot_refused : (serverSystem environment primitives).Reachable (crowd 700) ∧
    (∃ w', (handleStream environment columns ask []).exec ((crowd 700).world 0) =
      (.ok ((answer 700).json ++ [10]), w')) ∧
    ∀ decode, Control.request decode ((answer 700).json ++ [10]) = .error "admin response is too large" :=
  refused (Nat.le_refl _) (by decide)

/-- A new server's snapshot is read. -/
theorem response_accepted_new : snapshotSize columns (crowd 0).shared ≤ maxAdminFrameBytes ∧
    Control.request (fun _ => .ok (answer 0)) ((answer 0).json ++ [10]) = .ok (answer 0) := by
  obtain ⟨w', hrespond⟩ := answered 0
  have hfits : snapshotSize columns (crowd 0).shared ≤ maxAdminFrameBytes := by decide +kernel
  exact ⟨hfits, (response_accepted_iff hrespond rfl).2.2 fun _ _ => hfits⟩

end Scenario.Crowd

end TuiChat
