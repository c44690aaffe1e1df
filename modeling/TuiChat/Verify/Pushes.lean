import TuiChat.Server.Exec
import TuiChat.Server.Threads
import TuiChat.Verify.ServerScenario

/-!
# What a batch pushes

The handler of a batch goes through the devices and cursors that were stored, and looks for the envelope of each
in the request, by the device alone. The right one is pushed for every cursor if and only if it is the first of
the request for its device (`pushes_match_iff`).
-/

namespace TuiChat

open Lib (Bytes Proc Table)

/-- Something is found for every element, and it is related to the element. -/
theorem forall₂_filterMap_iff {α β : Type} {R : α → β → Prop} {f : α → Option β} : ∀ {l : List α},
    List.Forall₂ R l (l.filterMap f) ↔ ∀ a ∈ l, ∃ b, f a = some b ∧ R a b
  | [] => by simp
  | a :: l => by
    rw [List.forall_mem_cons, ← forall₂_filterMap_iff (l := l)]
    cases hf : f a with
    | none =>
      rw [List.filterMap_cons_none hf]
      constructor
      · intro h
        have hlength := h.length_eq
        have hle := List.length_filterMap_le f l
        rw [List.length_cons] at hlength
        omega
      · rintro ⟨⟨b, hb, -⟩, -⟩
        cases hb
    | some b =>
      rw [List.filterMap_cons_some hf, List.forall₂_cons]
      simp

theorem exists_of_forall₂ {α β : Type} {R : α → β → Prop} {l : List α} {l' : List β} (h : List.Forall₂ R l l') :
    ∀ a ∈ l, ∃ b ∈ l', R a b := by
  induction h with
  | nil => exact nofun
  | @cons a b l l' hR _ ih =>
    rintro a' (_ | ⟨_, ha⟩)
    · exact ⟨b, List.mem_cons_self, hR⟩
    · obtain ⟨b', hb', hR'⟩ := ih a' ha
      exact ⟨b', List.mem_cons_of_mem _ hb', hR'⟩

namespace Ws

/-! ## The loop -/

variable {env : ServerEnvironment} {s : AppState} {c : Connection}

/-- What is pushed for a destination, and the database that it is read from. -/
def pushOf (envelopes : List EncryptedEnvelope) (read : (String × Nat) × Db) : Option (String × SyncBatch) :=
  (envelopes.find? fun e => e.recipientDeviceId = read.1.1).bind fun e =>
    (read.2.storedEnvelopeById e.envelopeId).map fun stored => (read.1.1, pushedBatch stored)

/-- The frame of a push, for the writer of the device's connection if there is one. -/
def frameOf (s : AppState) (push : String × SyncBatch) : Option (Nat × Frame) :=
  (s.connections.find push.1).map fun live => (live.token, frame "" (.syncBatch push.2))

theorem exec_pushDevice {deviceId : String} {f : Frame} (works : ∀ n, env.works n = true) :
    ∃ s', (pushDevice env deviceId f).exec (s, c) = (.ok (), (s', c)) ∧ s'.db = s.db ∧
      s'.connections = s.connections ∧
      s'.out = s.out ++ ((s.connections.find deviceId).map fun live => (live.token, f)).toList := by
  have hread : (getState fun state => state.connections.find deviceId).exec (s, c) =
      (.ok (s.connections.find deviceId), (s, c)) := rfl
  unfold pushDevice
  rw [Proc.exec_bind, hread]
  dsimp only
  cases s.connections.find deviceId with
  | none => exact ⟨s, rfl, rfl, rfl, (List.append_nil _).symm⟩
  | some live =>
    have htry := @exec_trySend env s c live.token f
    obtain ⟨s', hs', hdb, -, hconnections, hout⟩ := htry
    rw [works, if_pos rfl] at hout
    exact ⟨s', hs', hdb, hconnections, hout⟩

theorem exec_pushStored {envelopes : List EncryptedEnvelope} {destination : String × Nat}
    (works : ∀ n, env.works n = true) :
    ∃ s', (pushStored env envelopes destination).exec (s, c) = (.ok (), (s', c)) ∧ s'.db = s.db ∧
      s'.connections = s.connections ∧
      s'.out = s.out ++ ((pushOf envelopes (destination, s.db)).bind (frameOf s)).toList := by
  unfold pushStored pushOf
  cases envelopes.find? fun e => e.recipientDeviceId = destination.1 with
  | none => exact ⟨s, rfl, rfl, rfl, (List.append_nil _).symm⟩
  | some e =>
    dsimp only [Option.bind_some]
    unfold query
    rw [Proc.exec_bind, exec_queryRecording (works s.tick)]
    dsimp only
    cases s.db.storedEnvelopeById e.envelopeId with
    | none => exact ⟨{ s with tick := s.tick + 1 }, rfl, rfl, rfl, (List.append_nil _).symm⟩
    | some stored => exact exec_pushDevice works

theorem exec_pushes {envelopes : List EncryptedEnvelope} (works : ∀ n, env.works n = true) :
    ∀ (destinations : List (String × Nat)) (s : AppState),
      ∃ s', (Proc.each (pushStored env envelopes) destinations).exec (s, c) = (.ok (), (s', c)) ∧
        s'.out = s.out ++
          ((destinations.map fun destination => (destination, s.db)).filterMap (pushOf envelopes)).filterMap (frameOf s)
  | [], s => ⟨s, rfl, (List.append_nil _).symm⟩
  | destination :: destinations, s => by
    obtain ⟨s₁, h₁, hdb, hconnections, hout₁⟩ := @exec_pushStored env s c envelopes destination works
    obtain ⟨s₂, h₂, hout₂⟩ := exec_pushes works destinations s₁
    refine ⟨s₂, ?_, ?_⟩
    · show (pushStored env envelopes destination >>= fun _ =>
        Proc.each (pushStored env envelopes) destinations).exec (s, c) = _
      rw [Proc.exec_bind, h₁]
      exact h₂
    · have hframe : frameOf s₁ = frameOf s := by
        funext push
        rw [frameOf, hconnections]
        rfl
      rw [hout₂, hout₁, hdb, hframe, List.append_assoc]
      congr 1
      rw [List.map_cons]
      cases hpush : pushOf envelopes (destination, s.db) with
      | none => rw [List.filterMap_cons_none hpush]; rfl
      | some push =>
        rw [List.filterMap_cons_some hpush, Option.bind_some]
        cases hf : frameOf s push with
        | none => rw [List.filterMap_cons_none hf]; rfl
        | some f => rw [List.filterMap_cons_some hf]; rfl

end Ws

namespace Db

/-! ## Pushes and rows -/

variable {db db' later : Db} {sha256 : Bytes → Bytes} {sa sd : String} {es : List EncryptedEnvelope} {now : Int}
  {limits : StorageLimits} {free : Nat} {stored : List (String × Nat)}

/-- The push is to the device of the pair, of the row that is stored with its cursor. -/
def Pushes (read : (String × Nat) × Db) (push : String × SyncBatch) : Prop :=
  push.1 = read.1.1 ∧ ∃ row ∈ read.2.envelopes, row.cursor = read.1.2 ∧ row.envelope.recipientDeviceId = read.1.1 ∧
    ∃ e, read.2.storedEnvelope row = some e ∧ push.2 = Ws.pushedBatch e

/-- One push for each pair, and no other. -/
def PushesMatch (es : List EncryptedEnvelope) (reads : List ((String × Nat) × Db)) : Prop :=
  List.Forall₂ Pushes reads (reads.filterMap (Ws.pushOf es))

/-- Every envelope that is stored is the first of the batch for its device. -/
def FirstForDevice (db : Db) (es : List EncryptedEnvelope) : Prop :=
  ∀ e ∈ es, db.recipientActive e = true → ∀ first,
    (es.find? fun other => other.recipientDeviceId = e.recipientDeviceId) = some first → first.envelopeId = e.envelopeId

/-- The row of the pair is still there. -/
structure Leaves (db : Db) (read : (String × Nat) × Db) : Prop where
  threaded : read.2.Threaded
  row : ∀ row ∈ db.envelopes, row.cursor = read.1.2 → ∃ left ∈ read.2.envelopes, left.undated = row.undated

/-- Each envelope gives its device and the cursor of its row. -/
theorem Inserts.destinations (h : Inserts sa sd now db es stored db') :
    List.Forall₂ (fun e d => d.1 = e.recipientDeviceId ∧
      ∃ row, db'.envelopes.find e.envelopeId = some row ∧ row.envelope = e ∧ row.cursor = d.2) es stored := by
  induction h with
  | nil => exact .nil
  | known row found carries rest ih => exact .cons ⟨rfl, row, rest.find found, carries.envelope, rfl⟩ ih
  | @fresh db db' e es stored unknown rest ih =>
    have hrow : (db.withEnvelope sa sd e now).envelopes.find e.envelopeId =
        some (.fresh (db.lastCursor + 1) sa sd e now) := Table.find_insertOrIgnore_of_none unknown
    exact .cons ⟨rfl, _, rest.find hrow, rfl, rfl⟩ ih

theorem undated_envelope {row row' : EnvelopeRow} (h : row.undated = row'.undated) :
    row.cursor = row'.cursor ∧ row.envelope = row'.envelope := by
  obtain ⟨hcursor, henvelope, -⟩ := EnvelopeRow.mk.inj h
  exact ⟨hcursor, henvelope⟩

/-- The pair of an envelope gets the right push if and only if the envelope is found by its device. -/
theorem push_iff {e : EncryptedEnvelope} (he : e ∈ es) {read : (String × Nat) × Db}
    (hleft : db'.Leaves read) (hdevice : read.1.1 = e.recipientDeviceId) {row : EnvelopeRow}
    (hrow : db'.envelopes.find e.envelopeId = some row) (henvelope : row.envelope = e) (hcursor : row.cursor = read.1.2) :
    (∃ push, Ws.pushOf es read = some push ∧ Pushes read push) ↔
      ∀ first, (es.find? fun other => other.recipientDeviceId = e.recipientDeviceId) = some first →
        first.envelopeId = e.envelopeId := by
  obtain ⟨left, hmem, hundated⟩ := hleft.row row (Table.mem_of_find hrow) hcursor
  obtain ⟨hleftCursor, hleftEnvelope⟩ := undated_envelope hundated
  have hleftId : left.envelopeId = e.envelopeId := by
    rw [EnvelopeRow.envelopeId, hleftEnvelope, henvelope]
  have hfound : ∃ first, (es.find? fun other => other.recipientDeviceId = e.recipientDeviceId) = some first := by
    refine Option.isSome_iff_exists.1 (List.find?_isSome.2 ⟨e, he, by simp⟩)
  obtain ⟨first, hfirst⟩ := hfound
  have hpush : Ws.pushOf es read = (read.2.storedEnvelopeById first.envelopeId).map fun stored =>
      (read.1.1, Ws.pushedBatch stored) := by
    rw [Ws.pushOf, hdevice, hfirst]
    rfl
  constructor
  · rintro ⟨push, hsome, -, pushed, hpushed, hpushedCursor, -, e', he', hbatch⟩ first' hfirst'
    cases hfirst.symm.trans hfirst'
    rw [hpush] at hsome
    obtain ⟨stored, hstored, rfl⟩ := Option.map_eq_some_iff.1 hsome
    obtain ⟨other, hother, hof⟩ := Option.bind_eq_some_iff.1 hstored
    have hsame : stored = e' := List.singleton_inj.1 (congrArg SyncBatch.envelopes hbatch)
    have hcursors : other.cursor = left.cursor := by
      rw [← (storedEnvelope_of hof).cursor, hsame, (storedEnvelope_of he').cursor, hpushedCursor, hleftCursor, hcursor]
    have hrows := hleft.threaded.distinct other (Table.mem_of_find hother) left hmem hcursors
    have hid : other.envelopeId = first.envelopeId := Table.key_of_find hother
    rw [← hid, hrows, hleftId]
  · intro hid
    have hfind : read.2.envelopes.find first.envelopeId = some left := by
      rw [hid first hfirst, ← hleftId]
      exact Table.find_of_mem hmem
    obtain ⟨stored, hstored⟩ := hleft.threaded.storedEnvelope hmem
    refine ⟨(read.1.1, Ws.pushedBatch stored), ?_, rfl, left, hmem, ?_, ?_, stored, hstored, rfl⟩
    · rw [hpush, storedEnvelopeById, hfind, Option.bind_some, hstored]
      rfl
    · rw [hleftCursor, hcursor]
    · rw [hleftEnvelope, henvelope, hdevice]

theorem pushesMatch_iff (write : db.storeEnvelopes sha256 sa sd es now limits free = .ok (stored, db'))
    {reads : List ((String × Nat) × Db)} (hreads : reads.map Prod.fst = stored)
    (hleft : ∀ read ∈ reads, db'.Leaves read) : PushesMatch es reads ↔ db.FirstForDevice es := by
  obtain ⟨_, db₁, _, accepted, hinserts⟩ := storeEnvelopes_eq_ok.1 write
  obtain ⟨-, -, -, messages, rfl⟩ := insertLogicalMessage_rows accepted.message
  have hpairs := hinserts.destinations
  subst hreads
  rw [List.forall₂_map_right_iff] at hpairs
  refine forall₂_filterMap_iff.trans ⟨fun hall e he hactive => ?_, fun hfirst read hread => ?_⟩
  · have hmem : e ∈ es.filter ({ db with logicalMessages := messages } : Db).recipientActive :=
      List.mem_filter.2 ⟨he, hactive⟩
    obtain ⟨read, hread, hdevice, row, hrow, henvelope, hcursor⟩ := exists_of_forall₂ hpairs e hmem
    exact (push_iff he (hleft read hread) hdevice hrow henvelope hcursor).1 (hall read hread)
  · obtain ⟨e, hmem, hdevice, row, hrow, henvelope, hcursor⟩ := exists_of_forall₂ hpairs.flip read hread
    obtain ⟨he, hactive⟩ := List.mem_filter.1 hmem
    exact (push_iff he (hleft read hread) hdevice hrow henvelope hcursor).2 (hfirst e he hactive)

end Db

/-- For every batch that is stored, the loop pushes exactly the stored rows, one for each pair, if and only if
every envelope that is stored is the first of the batch for its device; as long as nobody deletes the rows, whatever
else happens between the reads. The loop of a run that nothing interferes with does these pushes, and what is
stored is still there. -/
theorem pushes_match_iff (es : List EncryptedEnvelope) :
    (∀ (db db' : Db) (sha256 : Bytes → Bytes) (sa sd : String) (now : Int)
      (limits : StorageLimits) (free : Nat) (stored : List (String × Nat)),
      db.storeEnvelopes sha256 sa sd es now limits free = .ok (stored, db') →
      ∀ reads : List ((String × Nat) × Db), reads.map Prod.fst = stored → (∀ read ∈ reads, db'.Leaves read) →
        (Db.PushesMatch es reads ↔ db.FirstForDevice es)) ∧
    (∀ (env : ServerEnvironment) (s : AppState) (c : Connection)
      (stored : List (String × Nat)), (∀ n, env.works n = true) →
      ∃ s', (Proc.each (Ws.pushStored env es) stored).exec (s, c) = (.ok (), (s', c)) ∧
        s'.out = s.out ++
          ((stored.map fun pair => (pair, s.db)).filterMap (Ws.pushOf es)).filterMap (Ws.frameOf s)) ∧
    ∀ (env : ServerEnvironment) (P : Primitives) (p : Cluster), (serverSystem env P).Reachable p →
      ∀ pair, p.shared.db.Leaves (pair, p.shared.db) :=
  ⟨fun _ _ _ _ _ _ _ _ _ write _ hreads hleft => Db.pushesMatch_iff write hreads hleft,
    fun _ s _ stored works => Ws.exec_pushes works stored s,
    fun _ _ _ h _ => ⟨Cluster.threaded h, fun row hrow _ => ⟨row, hrow, rfl⟩⟩⟩

namespace Scenario.Twofold

/-- Carol's batch has two envelopes for Alice's device. -/
def letters : List EncryptedEnvelope :=
  [letterOf (uuid '1') '1' '1' (uuid '1') (uuid 'a'), letterOf (uuid '1') '1' '2' (uuid '1') (uuid 'a')]

def outcome : Except Error (List (String × Nat) × Db) :=
  (clusterAfter correspondents).shared.db.storeEnvelopes primitives.sha256 (uuid '7') (uuid 'c') letters 0
    server.storageLimits (server.freeDiskBytes 0)

/-- The cursors of the batches that a connection was handed. -/
def handed (p : Cluster) (token : Nat) : List Nat :=
  p.shared.out.filterMap fun (t, f) =>
    match f.body with
    | some (.syncBatch batch) => if t = token then some batch.nextCursor else none
    | _ => none

theorem outcome_pushes : (outcome.toOption.map fun r =>
    (r.1, ((r.1.map fun pair => (pair, r.2)).filterMap (Ws.pushOf letters)).map fun push => push.2.nextCursor)) =
      some ([(uuid 'a', 1), (uuid 'a', 2)], [1, 1]) := by decide +kernel

theorem handed_twice :
    handed (clusterAfter (correspondents ++ [.frame 1 (.sendEnvelopes { envelopes := letters })])) 0 = [1, 1] := by
  decide +kernel

theorem first_pushed_twice : (serverSystem server primitives).Reachable (clusterAfter correspondents) ∧
    handed (clusterAfter (correspondents ++ [.frame 1 (.sendEnvelopes { envelopes := letters })])) 0 = [1, 1] ∧
    ∃ stored db, outcome = .ok (stored, db) ∧ ¬Db.PushesMatch letters (stored.map fun pair => (pair, db)) := by
  refine ⟨clusterAfter_reachable correspondents, handed_twice, ?_⟩
  have hpushes := outcome_pushes
  cases houtcome : outcome with
  | error e =>
    rw [houtcome] at hpushes
    cases hpushes
  | ok r =>
    obtain ⟨stored, db⟩ := r
    rw [houtcome] at hpushes
    obtain ⟨hstored, hcursors⟩ := Prod.mk.inj (Option.some.inj hpushes)
    refine ⟨stored, db, rfl, fun hmatch => ?_⟩
    -- Every push moves to the cursor of its pair.
    have hcursor : List.Forall₂ (fun (read : (String × Nat) × Db) cursor => read.1.2 = cursor)
        (stored.map fun pair => (pair, db)) [1, 1] := by
      rw [← hcursors, List.forall₂_map_right_iff]
      refine hmatch.imp fun read push hpush => ?_
      obtain ⟨-, row, -, hrow, -, e, he, hbatch⟩ := hpush
      rw [hbatch, ← hrow]
      exact (Db.storedEnvelope_of he).cursor.symm
    dsimp only at hstored
    rw [hstored] at hcursor
    obtain ⟨-, hsecond⟩ := List.forall₂_cons.1 hcursor
    cases (List.forall₂_cons.1 hsecond).1

end Scenario.Twofold

end TuiChat
