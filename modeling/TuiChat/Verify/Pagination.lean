import TuiChat.Server.MessageStore
import TuiChat.Server.Pages
import TuiChat.Verify.ServerScenario

/-!
# Pages

A device reads the envelopes that wait for it page by page, while the server goes on. Cursors only rise, so
what is stored later comes after every page that was read, and a reader that goes on until nothing is left
has seen all that was not deleted before (`pagination_complete`). The flag that tells it to go on is about
envelopes alone: delivery updates are left behind where they fill more than a page and the envelopes do not
(`updates_covered_iff`).
-/

namespace TuiChat

open Lib
open Lib.Page (next Rises rises_insertionSort)

variable {env : ServerEnvironment} {P : Primitives}

/-! ## Readers -/

/-- A page that was read: what the server was then, where the page started, and the answer. -/
structure PageRead where
  state : AppState
  after : Nat
  limit : Nat
  batch : SyncBatch

namespace PageRead

/-- The page on which a cursor belongs. -/
def Covers (read : PageRead) (cursor : Nat) : Prop :=
  read.after < cursor ∧ (cursor ≤ read.batch.nextCursor ∨ read.batch.hasMore = false)

/-- The row was stored before the page was read, and deleted before it too. -/
def Deleted (read : PageRead) (row : EnvelopeRow) : Prop :=
  (∃ db, read.state.Had db ∧ ∃ old ∈ db.envelopes, row.undated = old.undated) ∧
    ∀ old ∈ read.state.db.envelopes, row.undated ≠ old.undated

end PageRead

/-- A server, and the pages that a device has read of it, the last one first. -/
structure Reading where
  server : Cluster
  reads : List PageRead

namespace Reading

inductive Label
  | server (l : Cluster.Label)
  /-- A page of some length, and of the account's delivery updates above some number. -/
  | read (accountId : String) (statusAfter limit : Nat)

variable (env : ServerEnvironment) (P : Primitives) (deviceId : String) (start : Nat)

/-- Where the next page starts. -/
def cursor : List PageRead → Nat
  | [] => start
  | read :: _ => read.batch.nextCursor

/-- The last page said that nothing is left. -/
def Done : List PageRead → Prop
  | [] => False
  | read :: _ => read.batch.hasMore = false

instance : DecidablePred Done
  | [] => inferInstanceAs (Decidable False)
  | read :: _ => inferInstanceAs (Decidable (read.batch.hasMore = false))

def page (r : Reading) (accountId : String) (statusAfter limit : Nat) : PageRead :=
  { state := r.server.shared
    after := cursor start r.reads
    limit
    batch := Ws.syncPage r.server.shared.db accountId deviceId
      { afterCursor := cursor start r.reads, afterStatusCursor := statusAfter, limit } }

def step (r : Reading) : Label → Option Reading
  | .server l => (Cluster.step env P r.server l).map fun server => { r with server }
  | .read accountId statusAfter limit =>
    if Done r.reads then none
    else some { r with reads := r.page deviceId start accountId statusAfter limit :: r.reads }

end Reading

/-- A device reads pages of a running server, from a cursor on. -/
def readingSystem (env : ServerEnvironment) (P : Primitives) (deviceId : String) (start : Nat) :
    System Reading Reading.Label :=
  System.ofFun (fun r => (serverSystem env P).Reachable r.server ∧ r.reads = [])
    (Reading.step env P deviceId start)

/-! ## What was stored -/

/-- What is stored after a state has a cursor above all that there were. -/
structure AppState.Precedes (s s' : AppState) : Prop where
  cursor : s.db.lastCursor ≤ s'.db.lastCursor
  old : ∀ db, s'.Had db → ∀ row ∈ db.envelopes, row.cursor ≤ s.db.lastCursor →
    ∃ db₀, s.Had db₀ ∧ ∃ old ∈ db₀.envelopes, row.undated = old.undated

theorem AppState.Precedes.refl (s : AppState) : s.Precedes s :=
  ⟨Nat.le_refl _, fun db hdb row hrow _ => ⟨db, hdb, row, hrow, rfl⟩⟩

theorem AppState.Precedes.same {s s₁ s₂ : AppState} (h : s.Precedes s₁) (db : s₂.db = s₁.db)
    (past : s₂.past = s₁.past) : s.Precedes s₂ := by
  refine ⟨db ▸ h.cursor, fun d hd => h.old d ?_⟩
  unfold AppState.Had at hd ⊢
  rwa [db, past] at hd

theorem AppState.Precedes.step {s : AppState} {i : Nat} {w w' : ServerWorld} (h : s.Precedes w.1)
    (hw : w.1.db.Threaded) (hs : ServerStep env P i w w') : s.Precedes w'.1 := by
  cases hs with
  | @wrote s₁ c db' log events write =>
    obtain ⟨hcursor, hrows⟩ := write.messages.rows hw
    refine ⟨Nat.le_trans h.cursor hcursor, fun db hdb row hrow hle => ?_⟩
    have hbefore : db = db' ∨ s₁.Had db := by
      rcases hdb with rfl | hdb
      · exact .inl rfl
      · rcases List.mem_cons.1 hdb with rfl | hdb
        · exact .inr (.inl rfl)
        · exact .inr (.inr hdb)
    rcases hbefore with rfl | hbefore
    · rcases hrows row hrow with ⟨old, hold, heq, -⟩ | habove
      · have hsame : row.cursor = old.cursor := (EnvelopeRow.mk.inj heq).1
        obtain ⟨db₀, hdb₀, old₀, hold₀, heq₀⟩ := h.old _ (.inl rfl) old hold (hsame ▸ hle)
        exact ⟨db₀, hdb₀, old₀, hold₀, heq.trans heq₀⟩
      · exact absurd hle (Nat.not_le.2 (Nat.lt_of_le_of_lt h.cursor habove))
    · exact h.old db hbefore row hrow hle
  | _ => exact h.same rfl rfl

theorem AppState.Precedes.label {s : AppState} {p p' : Cluster} {l : Cluster.Label} (h : s.Precedes p.shared)
    (hp : (serverSystem env P).Reachable p) (hs : Cluster.step env P p l = some p') : s.Precedes p'.shared := by
  rcases ((Cluster.serving hp).step hs).2 with ⟨hshared, -⟩ | ⟨i, hstep, -⟩ | hcrashed
  · rw [hshared]
    exact h
  · have hworld : s.Precedes (p.world i).1 := h
    exact hworld.step (Cluster.threaded hp) hstep
  · exact h.same (by rw [hcrashed]; rfl) (by rw [hcrashed]; rfl)

/-! ## Complete readings -/

namespace Reading

variable {deviceId : String} {start : Nat}

/-- Every page starts where the one before ended, and is one of a state that the earlier ones precede. -/
def Chained (deviceId : String) (start : Nat) : List PageRead → Prop
  | [] => True
  | read :: reads => read.after = cursor start reads ∧ read.state.db.Threaded ∧
    (read.after < 2 ^ 63 → Db.IsPage read.state.db deviceId read.after read.limit read.batch) ∧
    (∀ earlier ∈ reads, earlier.state.Precedes read.state) ∧ Chained deviceId start reads

structure Coherent (env : ServerEnvironment) (P : Primitives) (deviceId : String) (start : Nat) (r : Reading) :
    Prop where
  reachable : (serverSystem env P).Reachable r.server
  precedes : ∀ read ∈ r.reads, read.state.Precedes r.server.shared
  chained : Chained deviceId start r.reads

theorem coherent {r : Reading} (h : (readingSystem env P deviceId start).Reachable r) :
    Coherent env P deviceId start r := by
  refine h.invariant (I := Coherent env P deviceId start) (fun r hr => ?_) fun r l r' hr _ hs => ?_
  · obtain ⟨hreachable, hreads⟩ := hr
    exact ⟨hreachable, by simp [hreads], by rw [hreads]; trivial⟩
  · cases l with
    | server l =>
      obtain ⟨p, hp, rfl⟩ := Option.map_eq_some_iff.1 hs
      exact ⟨.step hr.reachable trivial hp, fun read hread => (hr.precedes read hread).label hr.reachable hp, hr.chained⟩
    | read accountId statusAfter limit =>
      obtain ⟨-, heq⟩ := Option.ite_none_left_eq_some.1 hs
      cases heq
      have hthreaded := Cluster.threaded hr.reachable
      refine ⟨hr.reachable, fun read hread => ?_, rfl, hthreaded, fun hafter => ?_, hr.precedes, hr.chained⟩
      · rcases List.mem_cons.1 hread with rfl | hread
        · exact .refl _
        · exact hr.precedes read hread
      · exact hthreaded.syncPage { afterCursor := cursor start r.reads, afterStatusCursor := statusAfter, limit } hafter

/-- While keys have 64 bits, cursors do. -/
theorem Chained.pages : ∀ {reads : List PageRead}, Chained deviceId start reads → start < 2 ^ 63 →
    (∀ read ∈ reads, read.state.db.lastCursor < 2 ^ 63) →
    cursor start reads < 2 ^ 63 ∧
      ∀ read ∈ reads, Db.IsPage read.state.db deviceId read.after read.limit read.batch
  | [], _, hstart, _ => ⟨hstart, nofun⟩
  | read :: reads, ⟨hafter, _, hpage, _, hchained⟩, hstart, hkeys => by
    obtain ⟨hcursor, hpages⟩ := hchained.pages hstart fun earlier h => hkeys earlier (List.mem_cons_of_mem _ h)
    have hread := hpage (hafter ▸ hcursor)
    have hlast := hkeys read List.mem_cons_self
    refine ⟨?_, List.forall_mem_cons.2 ⟨hread, hpages⟩⟩
    rcases hread.next_le with heq | hle
    · rw [cursor, heq, hafter]
      exact hcursor
    · exact Nat.lt_of_le_of_lt hle hlast

/-- A cursor up to the next one belongs on a page that was read. -/
theorem Chained.covers : ∀ {reads : List PageRead} {c : Nat}, Chained deviceId start reads → start < c →
    c ≤ cursor start reads → ∃ read ∈ reads, read.after < c ∧ c ≤ read.batch.nextCursor
  | [], _, _, hlt, hle => absurd hle (Nat.not_le.2 hlt)
  | read :: reads, c, ⟨hafter, _, _, _, hchained⟩, hlt, hle => by
    by_cases hc : read.after < c
    · exact ⟨read, List.mem_cons_self, hc, hle⟩
    · obtain ⟨earlier, hearlier, h⟩ := hchained.covers hlt (by omega)
      exact ⟨earlier, List.mem_cons_of_mem _ hearlier, h⟩

/-- Cursors rise from page to page. -/
theorem Chained.rises : ∀ {reads : List PageRead}, Chained deviceId start reads →
    (∀ read ∈ reads, Db.IsPage read.state.db deviceId read.after read.limit read.batch) →
    Rises StoredEnvelope.cursor (reads.reverse.flatMap fun read => read.batch.envelopes) ∧
      start ≤ cursor start reads ∧
      ∀ e ∈ reads.reverse.flatMap fun read => read.batch.envelopes, start < e.cursor ∧ e.cursor ≤ cursor start reads
  | [], _, _ => ⟨.nil, Nat.le_refl _, nofun⟩
  | read :: reads, ⟨hafter, _, _, _, hchained⟩, hpages => by
    obtain ⟨hrises, hstart, hbetween⟩ := hchained.rises fun earlier h => hpages earlier (List.mem_cons_of_mem _ h)
    have hpage := hpages read List.mem_cons_self
    have hnext := hpage.after_le
    have hnew : ∀ e ∈ read.batch.envelopes, cursor start reads < e.cursor ∧ e.cursor ≤ read.batch.nextCursor := by
      intro e he
      obtain ⟨row, -, -, hlt, hle, hof⟩ := hpage.sound e he
      rw [hof.cursor, ← hafter]
      exact ⟨hlt, hle⟩
    simp only [List.reverse_cons, List.flatMap_append, List.flatMap_cons, List.flatMap_nil, List.append_nil]
    refine ⟨List.pairwise_append.2 ⟨hrises, hpage.rises, fun a ha b hb => ?_⟩, ?_, fun e he => ?_⟩
    · exact Nat.lt_of_le_of_lt (hbetween a ha).2 (hnew b hb).1
    · rw [cursor]
      omega
    · rw [cursor]
      rcases List.mem_append.1 he with he | he
      · have hold := hbetween e he
        omega
      · have hnow := hnew e he
        omega

end Reading

open Reading in
/-- In every run, a device that reads page after page gets pages of the length that it asked for, with the flag
set exactly when more is left, cursors rise from envelope to envelope, and when it is told that nothing is left,
every envelope for it above the start that was stored before the last page was read is on a page that was read,
or was deleted before its page was. -/
theorem pagination_complete {deviceId : String} {start : Nat} {r : Reading}
    (h : (readingSystem env P deviceId start).Reachable r) (hstart : start < 2 ^ 63)
    -- SQLite gives out no row id from `2^63` on.
    (hkeys : r.server.shared.db.lastCursor < 2 ^ 63) :
    (∀ read ∈ r.reads, read.batch.envelopes.length ≤ Db.pageLimit read.limit ∧
      (read.batch.hasMore = true ↔ ∃ row ∈ read.state.db.envelopes,
        row.envelope.recipientDeviceId = deviceId ∧ read.batch.nextCursor < row.cursor) ∧
      ∀ e ∈ read.batch.envelopes, start < e.cursor ∧
        ∃ row ∈ read.state.db.envelopes, row.envelope.recipientDeviceId = deviceId ∧ e.Of row) ∧
    Rises StoredEnvelope.cursor (r.reads.reverse.flatMap fun read => read.batch.envelopes) ∧
    ∀ last earlier, r.reads = last :: earlier → last.batch.hasMore = false →
      ∀ db row, last.state.Had db → row ∈ db.envelopes → row.envelope.recipientDeviceId = deviceId →
        start < row.cursor →
        ∃ read ∈ r.reads, read.Covers row.cursor ∧ ((∃ e ∈ read.batch.envelopes, e.Of row) ∨ read.Deleted row) := by
  have hr := coherent h
  obtain ⟨-, hpages⟩ := hr.chained.pages hstart fun read hread =>
    Nat.lt_of_le_of_lt (hr.precedes read hread).cursor hkeys
  obtain ⟨hrises, -, hbetween⟩ := hr.chained.rises hpages
  refine ⟨fun read hread => ⟨(hpages read hread).length, (hpages read hread).more, fun e he => ⟨?_, ?_⟩⟩, hrises, ?_⟩
  · exact (hbetween e (List.mem_flatMap.2 ⟨read, List.mem_reverse.2 hread, he⟩)).1
  · obtain ⟨row, hrow, hdevice, -, -, hof⟩ := (hpages read hread).sound e he
    exact ⟨row, hrow, hdevice, hof⟩
  · intro last earlier hreads hdone db row hdb hrow hdevice hlt
    -- On its page the row is found where it is still stored.
    have hfound : ∀ read ∈ r.reads, read.Covers row.cursor →
        (∃ db, read.state.Had db ∧ ∃ old ∈ db.envelopes, row.undated = old.undated) →
        (∃ e ∈ read.batch.envelopes, e.Of row) ∨ read.Deleted row := by
      intro read hread hcovers hstored
      by_cases hleft : ∃ old ∈ read.state.db.envelopes, row.undated = old.undated
      · obtain ⟨old, hold, heq⟩ := hleft
        obtain ⟨hcursor, henvelope, -⟩ := EnvelopeRow.mk.inj heq
        have hrecipient : old.envelope.recipientDeviceId = deviceId := henvelope ▸ hdevice
        obtain ⟨e, he, hof⟩ := (hpages read hread).complete old hold hrecipient (hcursor ▸ hcovers.1)
          (hcursor ▸ hcovers.2)
        exact .inl ⟨e, he, hof.undated heq.symm⟩
      · exact .inr ⟨hstored, fun old hold heq => hleft ⟨old, hold, heq⟩⟩
    have hlast : last ∈ r.reads := hreads ▸ List.mem_cons_self
    have hchained : Chained deviceId start (last :: earlier) := hreads ▸ hr.chained
    obtain ⟨hafter, -, -, hprecedes, hbefore⟩ := hchained
    by_cases hc : last.after < row.cursor
    · exact ⟨last, hlast, ⟨hc, .inr hdone⟩, hfound last hlast ⟨hc, .inr hdone⟩ ⟨db, hdb, row, hrow, rfl⟩⟩
    · obtain ⟨read, hmem, hcovers⟩ := hbefore.covers hlt (by omega)
      have hread : read ∈ r.reads := hreads ▸ List.mem_cons_of_mem _ hmem
      have hcovers : read.Covers row.cursor := ⟨hcovers.1, .inl hcovers.2⟩
      refine ⟨read, hread, hcovers, hfound read hread hcovers ?_⟩
      -- What is stored after the page was read has a larger cursor.
      refine (hprecedes read hmem).old db hdb row hrow ?_
      have hnext := (hpages read hread).next_le
      have hcovered := hcovers.1
      omega

namespace Scenario.Paged

open Lib

/-- Carol has written to Alice twice. -/
def letters : List Move := correspondents ++
  [.frame 1 (.sendEnvelopes { envelopes := [letterOf (uuid '1') '1' '1' (uuid '1') (uuid 'a')] }),
    .frame 1 (.sendEnvelopes { envelopes := [letterOf (uuid '1') '2' '2' (uuid '1') (uuid 'a')] })]

def unread : Reading := { server := clusterAfter letters, reads := [] }

/-- Alice's device reads a page of one envelope. -/
def next (r : Reading) : Reading := { r with reads := r.page (uuid 'a') 0 (uuid '1') 0 1 :: r.reads }

def read : Reading := next (next unread)

theorem next_reachable {r : Reading} (h : (readingSystem server primitives (uuid 'a') 0).Reachable r)
    (hleft : ¬Reading.Done r.reads) : (readingSystem server primitives (uuid 'a') 0).Reachable (next r) := by
  have hstep : Reading.step server primitives (uuid 'a') 0 r (.read (uuid '1') 0 1) = some (next r) := if_neg hleft
  exact .step h trivial hstep

theorem read_pages : ¬Reading.Done (next unread).reads ∧ read.server.shared.db.lastCursor < 2 ^ 63 ∧
    read.reads.map (fun page => (page.batch.envelopes.length, page.batch.hasMore)) = [(1, false), (1, true)] := by
  decide +kernel

theorem read_reachable : (readingSystem server primitives (uuid 'a') 0).Reachable read :=
  next_reachable (next_reachable (.init ⟨clusterAfter_reachable letters, rfl⟩) (by decide)) read_pages.1

theorem pagination_complete_read :
    read.reads.map (fun page => (page.batch.envelopes.length, page.batch.hasMore)) = [(1, false), (1, true)] ∧
      ∀ last earlier, read.reads = last :: earlier → last.batch.hasMore = false →
        ∀ db row, last.state.Had db → row ∈ db.envelopes → row.envelope.recipientDeviceId = uuid 'a' →
          0 < row.cursor → ∃ page ∈ read.reads, page.Covers row.cursor ∧
            ((∃ e ∈ page.batch.envelopes, e.Of row) ∨ page.Deleted row) :=
  ⟨read_pages.2.2, (pagination_complete read_reachable (by decide) read_pages.2.1).2.2⟩

end Scenario.Paged

/-! ## Delivery updates -/

namespace Db

variable {db : Db} {accountId deviceId : String} {m : SyncRequest}

/-- The number of envelopes for a device above a cursor, of accounts that there are. -/
def waitingEnvelopes (db : Db) (deviceId : String) (after : Nat) : Nat :=
  db.envelopes.rows.countP fun row => row.envelope.recipientDeviceId = deviceId && asI64 after < row.cursor &&
    (db.accounts.find row.senderAccountId).isSome

/-- The number of delivery updates of an account above a cursor. -/
def waitingUpdates (db : Db) (accountId : String) (after : Nat) : Nat :=
  db.deliveryUpdates.rows.countP fun row => row.accountId = accountId && asI64 after < row.cursor

theorem length_envelopesAfter (db : Db) (deviceId : String) (after : Nat) :
    (db.envelopesAfter deviceId after).length = db.waitingEnvelopes deviceId after := by
  rw [envelopesAfter, ((List.perm_insertionSort _ _).filterMap _).length_eq, List.length_filterMap_eq_countP,
    List.countP_filter]
  refine List.countP_congr fun row _ => ?_
  simp [storedEnvelope, and_comm, and_assoc]

theorem length_updatesAfter (db : Db) (accountId : String) (after : Nat) :
    (db.updatesAfter accountId after).length = db.waitingUpdates accountId after := by
  rw [updatesAfter, List.length_map, List.length_insertionSort, waitingUpdates, List.countP_eq_length_filter]

theorem mem_updatesAfter {after : Nat} {e : StoredDeliveryUpdate} (he : e ∈ db.updatesAfter accountId after) :
    ∃ u ∈ db.deliveryUpdates, u.accountId = accountId ∧ asI64 after < u.cursor ∧ e.cursor = u.cursor := by
  obtain ⟨u, hu, rfl⟩ := List.mem_map.1 he
  obtain ⟨hmem, hu⟩ := List.mem_filter.1 ((List.mem_insertionSort _).1 hu)
  rw [Bool.and_eq_true, decide_eq_true_eq, decide_eq_true_eq] at hu
  exact ⟨u, hmem, hu.1, hu.2, rfl⟩

theorem exists_mem_updatesAfter {after : Nat} {u : DeliveryUpdateRow} (hu : u ∈ db.deliveryUpdates)
    (hafter : asI64 after < u.cursor) : ∃ e ∈ db.updatesAfter u.accountId after, e.cursor = u.cursor ∧
      e.update = some { logicalMessageId := u.logicalMessageId, deliveredAtMs := u.deliveredAtMs } := by
  refine ⟨_, List.mem_map_of_mem ((List.mem_insertionSort _).2 (List.mem_filter.2 ⟨hu, ?_⟩)), rfl, rfl⟩
  simp [hafter]

theorem Numbered.updatesAfter_rises (h : db.Numbered) {after : Nat} :
    Rises StoredDeliveryUpdate.cursor (db.updatesAfter accountId after) := by
  have hrows : (db.deliveryUpdates.rows.filter fun row => row.accountId = accountId &&
      asI64 after < row.cursor).Nodup := (List.Nodup.of_map _ db.deliveryUpdates.nodup).filter _
  refine List.pairwise_map.2 (rises_insertionSort DeliveryUpdateRow.cursor hrows fun a ha b hb => ?_)
  exact h.distinct a (List.mem_filter.1 ha).1 b (List.mem_filter.1 hb).1

/-- No update of the account is above where the page ends. -/
def UpdatesCovered (db : Db) (accountId : String) (batch : SyncBatch) : Prop :=
  batch.hasMore = false → ∀ u ∈ db.deliveryUpdates, u.accountId = accountId → u.cursor ≤ batch.nextStatusCursor

theorem Numbered.updatesCovered_iff (h : db.Numbered) (accountId deviceId : String) (m : SyncRequest) :
    db.UpdatesCovered accountId (Ws.syncPage db accountId deviceId m) ↔
      pageLimit m.limit < db.waitingEnvelopes deviceId m.afterCursor ∨
        db.waitingUpdates accountId m.afterStatusCursor ≤ 200 := by
  obtain ⟨-, hmore, -, hupdates, hnext⟩ := syncPage_eq db accountId deviceId m
  have hrises : Rises StoredDeliveryUpdate.cursor (db.updatesAfter accountId m.afterStatusCursor) := h.updatesAfter_rises
  -- Updates that were not asked for are not above.
  have hbelow : ∀ u ∈ db.deliveryUpdates, ¬asI64 m.afterStatusCursor < u.cursor →
      u.cursor ≤ (Ws.syncPage db accountId deviceId m).nextStatusCursor := by
    intro u _ hle
    have hcast := asI64_le m.afterStatusCursor
    rw [hnext, hupdates]
    rcases Page.next_eq StoredDeliveryUpdate.cursor m.afterStatusCursor
      ((db.updatesAfter accountId m.afterStatusCursor).take 200) with ⟨-, heq⟩ | ⟨e, he, heq⟩
    · rw [heq]
      omega
    · obtain ⟨u', -, -, hlt, hcursor⟩ := mem_updatesAfter (List.mem_of_mem_take he)
      rw [heq]
      omega
  have hleft : (∀ u ∈ db.deliveryUpdates, u.accountId = accountId →
      u.cursor ≤ (Ws.syncPage db accountId deviceId m).nextStatusCursor) ↔
        db.waitingUpdates accountId m.afterStatusCursor ≤ 200 := by
    rw [← length_updatesAfter, ← Nat.not_lt, ← Page.exists_above_iff m.afterStatusCursor hrises (by omega), ← hupdates,
      ← hnext]
    constructor
    · rintro hall ⟨e, he, hlt⟩
      obtain ⟨u, hu, haccount, -, hcursor⟩ := mem_updatesAfter he
      have hle := hall u hu haccount
      omega
    · rintro hnone u hu rfl
      by_cases hlt : asI64 m.afterStatusCursor < u.cursor
      · obtain ⟨e, he, hcursor, -⟩ := exists_mem_updatesAfter hu hlt
        by_contra habove
        exact hnone ⟨e, he, by omega⟩
      · exact hbelow u hu hlt
  rw [length_envelopesAfter] at hmore
  rw [UpdatesCovered, hleft, ← hmore, ← Bool.not_eq_true]
  exact Decidable.imp_iff_or_not.trans (by rw [Decidable.not_not, or_comm])

end Db

/-- Where a page says that nothing is left, there is no update of the account above it if and only if at most
200 updates waited, and of the envelopes of a device no more than the page takes. In every run updates are
numbered as their primary key asks. -/
theorem updates_covered_iff (accountId deviceId : String) (m : SyncRequest) :
    (∀ db : Db, db.Numbered →
      (db.UpdatesCovered accountId (Ws.syncPage db accountId deviceId m) ↔
        Db.pageLimit m.limit < db.waitingEnvelopes deviceId m.afterCursor ∨
          db.waitingUpdates accountId m.afterStatusCursor ≤ 200)) ∧
      ∀ env P p, (serverSystem env P).Reachable p → p.shared.db.Numbered :=
  ⟨fun _ h => h.updatesCovered_iff accountId deviceId m, fun _ _ _ => Cluster.numbered⟩

namespace Scenario.Backlog

/-! ## A backlog of updates -/

def name (i : Nat) : String := String.ofList (List.replicate i 'm')

theorem name_injective : Function.Injective name := by
  intro i j h
  have hlist : List.replicate i 'm' = List.replicate j 'm' := String.ofList_injective h
  simpa using congrArg List.length hlist

def messageRow (i : Nat) : LogicalMessageRow :=
  { logicalMessageId := name i
    senderAccountId := "alice"
    senderDeviceId := "a1"
    peerAccountId := "bob"
    conversationId := ""
    clientSentAtMs := 0
    acceptedAtMs := 0
    deliveredAtMs := some 0 }

def envelopeRow (i : Nat) : EnvelopeRow :=
  { cursor := i + 1
    envelope :=
      { envelopeId := name i
        logicalMessageId := name i
        conversationId := ""
        recipientAccountId := "bob"
        recipientDeviceId := "b1"
        ciphertext := [1]
        olmMessageType := 1
        clientSentAtMs := 0 }
    senderAccountId := "alice"
    senderDeviceId := "a1"
    acceptedAtMs := 0
    deliveredAtMs := some 0 }

def updateRow (i : Nat) : DeliveryUpdateRow :=
  { cursor := i + 1, accountId := "alice", logicalMessageId := name i, deliveredAtMs := 0 }

/-- A table of numbered rows. -/
def numbered {α κ : Type} {key : α → κ} (f : Nat → α) (h : Function.Injective (key ∘ f)) (n : Nat) : Table key :=
  ⟨(List.range n).map f, by
    rw [List.map_map]
    exact List.nodup_range.map h⟩

theorem mem_numbered {α κ : Type} {key : α → κ} {f : Nat → α} (h : Function.Injective (key ∘ f)) {n : Nat} {a : α} :
    a ∈ numbered f h n ↔ ∃ i < n, f i = a := by
  show a ∈ (List.range n).map f ↔ _
  simp

theorem messages_injective : Function.Injective (LogicalMessageRow.logicalMessageId ∘ messageRow) := name_injective

theorem envelopes_injective : Function.Injective (EnvelopeRow.envelopeId ∘ envelopeRow) := name_injective

theorem updates_injective : Function.Injective (DeliveryUpdateRow.about ∘ updateRow) :=
  fun _ _ h => name_injective (Prod.mk.inj h).2

def deviceRow (accountId deviceId : String) : DeviceRow :=
  { id := deviceId
    accountId
    name := deviceId
    authSigningKey := []
    olmEd25519Key := []
    olmCurve25519Key := []
    certificateSignature := []
    sasPublicKey := []
    pending := false
    revoked := false
    createdAtMs := 0
    lastAuthenticatedAtMs := none }

/-- Alice's device sent messages to Bob's, which has acknowledged them all. -/
def backlog (n : Nat) : Db :=
  { Db.empty with
    accounts := ((∅ : Table AccountRow.id).put (.added "alice" "alice" "")).put (.added "bob" "bob" "")
    devices := ((∅ : Table DeviceRow.id).put (deviceRow "alice" "a1")).put (deviceRow "bob" "b1")
    logicalMessages := numbered messageRow messages_injective n
    envelopes := numbered envelopeRow envelopes_injective n
    deliveryUpdates := numbered updateRow updates_injective n
    usage := (∅ : Table AccountStorageUsage.accountId).put { accountId := "alice", ciphertextBytes := n }
    lastCursor := n
    lastUpdate := n }

variable {n : Nat}

theorem backlog_owner : (backlog n).roster.owner "a1" = some "alice" ∧ (backlog n).roster.owner "b1" = some "bob" ∧
    (backlog n).roster.Has "alice" ∧ (backlog n).roster.Has "bob" := by
  refine ⟨Db.owner_eq_some.2 ⟨_, Table.mem_put.2 (.inr ⟨Table.mem_put.2 (.inl rfl), by decide⟩), rfl, rfl⟩,
    Db.owner_eq_some.2 ⟨_, Table.mem_put.2 (.inl rfl), rfl, rfl⟩, rfl, rfl⟩

theorem mem_messages {m : LogicalMessageRow} : m ∈ (backlog n).logicalMessages ↔ ∃ i < n, messageRow i = m :=
  mem_numbered messages_injective

theorem mem_envelopes {e : EnvelopeRow} : e ∈ (backlog n).envelopes ↔ ∃ i < n, envelopeRow i = e :=
  mem_numbered envelopes_injective

theorem mem_updates {u : DeliveryUpdateRow} : u ∈ (backlog n).deliveryUpdates ↔ ∃ i < n, updateRow i = u :=
  mem_numbered updates_injective

/-- The backlog is one that a server may have. -/
theorem backlog_consistent : (backlog n).Consistent where
  linked d row hrow := by
    obtain ⟨stored, hstored, -, rfl⟩ := Db.roster_device.1 hrow
    rcases Table.mem_put.1 hstored with rfl | ⟨hstored, -⟩
    · exact backlog_owner.2.2.2
    · rcases Table.mem_put.1 hstored with rfl | ⟨hstored, -⟩
      · exact backlog_owner.2.2.1
      · exact absurd hstored (Table.not_mem_empty _)
  prekeys _ h := absurd h (Table.not_mem_empty _)
  events _ h := absurd h (Table.not_mem_empty _)
  messages row hrow := by
    obtain ⟨i, -, rfl⟩ := mem_messages.1 hrow
    exact ⟨backlog_owner.1, backlog_owner.2.2.2⟩
  sent row hrow := by
    obtain ⟨i, hi, rfl⟩ := mem_messages.1 hrow
    exact ⟨envelopeRow i, mem_envelopes.2 ⟨i, hi, rfl⟩, rfl⟩
  envelopes row hrow := by
    obtain ⟨i, hi, rfl⟩ := mem_envelopes.1 hrow
    exact ⟨messageRow i, mem_messages.2 ⟨i, hi, rfl⟩, rfl, rfl, rfl, .inr rfl⟩
  recipients row hrow := by
    obtain ⟨i, -, rfl⟩ := mem_envelopes.1 hrow
    exact backlog_owner.2.1
  updates row hrow := by
    obtain ⟨i, hi, rfl⟩ := mem_updates.1 hrow
    exact ⟨messageRow i, mem_messages.2 ⟨i, hi, rfl⟩, rfl, rfl⟩
  usage row hrow := by
    rcases Table.mem_put.1 hrow with rfl | ⟨hrow, -⟩
    · exact backlog_owner.2.2.1
    · exact absurd hrow (Table.not_mem_empty _)
  cursors row hrow := by
    obtain ⟨i, hi, rfl⟩ := mem_envelopes.1 hrow
    exact hi
  distinct row hrow other hother heq := by
    obtain ⟨i, -, rfl⟩ := mem_envelopes.1 hrow
    obtain ⟨j, -, rfl⟩ := mem_envelopes.1 hother
    rw [Nat.succ.inj heq]

theorem backlog_numbered : (backlog n).Numbered where
  cursors row hrow := by
    obtain ⟨i, hi, rfl⟩ := mem_updates.1 hrow
    exact hi
  distinct row hrow other hother heq := by
    obtain ⟨i, -, rfl⟩ := mem_updates.1 hrow
    obtain ⟨j, -, rfl⟩ := mem_updates.1 hother
    rw [Nat.succ.inj heq]

/-- What Alice's device asks for first. -/
def first : SyncRequest := { afterCursor := 0, afterStatusCursor := 0, limit := 200 }

theorem backlog_waiting : (backlog n).waitingEnvelopes "a1" 0 = 0 ∧ (backlog n).waitingUpdates "alice" 0 = n := by
  constructor
  · refine List.countP_eq_zero.2 fun row hrow => ?_
    obtain ⟨i, -, rfl⟩ := mem_envelopes.1 hrow
    simp [envelopeRow]
  · have hall : (backlog n).deliveryUpdates.rows.length = n := by simp [backlog, numbered]
    refine (List.countP_eq_length.2 fun row hrow => ?_).trans hall
    obtain ⟨i, -, rfl⟩ := mem_updates.1 hrow
    simp [updateRow, asI64]

/-- Of 201 updates the last one is left behind. -/
theorem updates_left_behind : ∃ db : Db, db.Consistent ∧ db.Numbered ∧ ∃ accountId deviceId m,
    (Ws.syncPage db accountId deviceId m).hasMore = false ∧ ∃ u ∈ db.deliveryUpdates, u.accountId = accountId ∧
      (Ws.syncPage db accountId deviceId m).nextStatusCursor < u.cursor := by
  refine ⟨backlog 201, backlog_consistent, backlog_numbered, "alice", "a1", first, ?_⟩
  have hnot : ¬(backlog 201).UpdatesCovered "alice" (Ws.syncPage (backlog 201) "alice" "a1" first) := by
    rw [backlog_numbered.updatesCovered_iff, first, backlog_waiting.1, backlog_waiting.2]
    decide
  unfold Db.UpdatesCovered at hnot
  push Not at hnot
  exact hnot

end Scenario.Backlog

end TuiChat
