import TuiChat.Client.Stages
import TuiChat.Server.Pages

/-!
# A device and its mailbox

The server, and the client on a device: the pages that the server answers the client's requests with, the envelopes
that it pushes to the device, what the client does with these batches, which may come late, in any order, more than
once or not at all, and the acknowledgements on their way back. The client's cursor is raised by pages and pushes
alike; what an action does to it is said here (`processed_of_batch`, `after_other`), with what every step keeps of the
rows and the batches of the server (`Sound`).
-/

namespace TuiChat

open Lib
open Lib.Prog (wp)
open Lib.Page (Rises)
open Relation (ReflTransGen)

variable {P : Primitives} {env : Environment} {senv : ServerEnvironment}

/-- The frames that an action hands to the connection; a new one starts with none. -/
def World.handed (env : Environment) (w : World P) : Action → List Frame
  | .reconnected capabilities => (w.after env (.reconnected capabilities)).sent
  | .restart => (w.after env .restart).sent
  | action => (w.after env action).sent.drop w.sent.length

def Frame.acknowledgement (f : Frame) : Option AckEnvelope :=
  match f.body with
  | some (.ackEnvelope ack) => some ack
  | _ => none

structure Mailbox (P : Primitives) where
  server : Cluster
  client : World P
  /-- The batches that the server has made for the device. -/
  made : List SyncBatch
  /-- The acknowledgements that were handed to a connection, and that the server has not handled yet. -/
  flight : List AckEnvelope

namespace Mailbox

inductive Label
  /-- Something happens at the server. -/
  | server (l : Cluster.Label)
  /-- A request that the client has sent is answered. -/
  | page (m : SyncRequest)
  /-- A stored envelope is pushed. -/
  | push (stored : StoredEnvelope)
  | client (action : Action)
  /-- The server has handled an acknowledgement. -/
  | acknowledged (ack : AckEnvelope)
  /-- The connection ends before, or the server refuses the acknowledgement. -/
  | lost (ack : AckEnvelope)

def rows (s : Mailbox P) : Table EnvelopeRow.envelopeId := s.server.shared.db.envelopes

/-- The envelope is not one that waits for its acknowledgement. -/
def Delivered (s : Mailbox P) (deviceId envelopeId : String) : Prop :=
  ∀ row ∈ s.rows, row.envelope.envelopeId = envelopeId → row.envelope.recipientDeviceId = deviceId →
    row.deliveredAtMs.isSome = true

/-- What the label does, for a device of an account. -/
inductive Step (env : Environment) (senv : ServerEnvironment) (accountId deviceId : String) :
    Mailbox P → Label → Mailbox P → Prop
  | server {s : Mailbox P} {l : Cluster.Label} {server : Cluster}
    (step : Cluster.step senv P s.server l = some server) :
    Step env senv accountId deviceId s (.server l) { s with server }
  | page {s : Mailbox P} {m : SyncRequest} (sent : ∃ f ∈ s.client.sent, f.body = some (.syncRequest m)) :
    Step env senv accountId deviceId s (.page m) { s with
      made := Ws.syncPage s.server.shared.db accountId deviceId m :: s.made }
  | push {s : Mailbox P} {row : EnvelopeRow} {stored : StoredEnvelope} (mem : row ∈ s.rows)
    (device : row.envelope.recipientDeviceId = deviceId)
    (envelope : s.server.shared.db.storedEnvelope row = some stored) :
    Step env senv accountId deviceId s (.push stored) { s with made := Ws.pushedBatch stored :: s.made }
  /-- A batch that the client handles is one that the server has made. -/
  | client {s : Mailbox P} {action : Action}
    (made : ∀ f batch, action.syncFrame = some (f, batch) → batch ∈ s.made) :
    Step env senv accountId deviceId s (.client action) { s with
      client := s.client.after env action
      flight := s.flight ++ (s.client.handed env action).filterMap Frame.acknowledgement }
  | acknowledged {s : Mailbox P} {ack : AckEnvelope} (delivered : s.Delivered deviceId ack.envelopeId) :
    Step env senv accountId deviceId s (.acknowledged ack) { s with flight := s.flight.erase ack }
  | lost {s : Mailbox P} {ack : AckEnvelope} :
    Step env senv accountId deviceId s (.lost ack) { s with flight := s.flight.erase ack }

end Mailbox

/-- The runs of a client with its mailbox, from any server that has been running. -/
def mailboxSystem (env : Environment) (senv : ServerEnvironment) (profile : RuntimeProfile P) :
    System (Mailbox P) Mailbox.Label where
  init s := (serverSystem senv P).Reachable s.server ∧ s.client = .ofProfile profile ∧ s.made = [] ∧ s.flight = []
  step := Mailbox.Step env senv profile.accountId profile.identity.deviceId

/-! ## The cursor of a client -/

theorem QuietStep.handledEnvelopes {v v' : View P} (h : QuietStep v v') :
    v'.log.filterMap Event.handledEnvelope = v.log.filterMap Event.handledEnvelope := by
  cases h <;> rfl

theorem AnyStep.log {v v' : View P} (h : AnyStep v v') : v.log <:+ v'.log := by
  cases h with
  | view h =>
    cases h with
    | quiet h => exact h.log
    | machine | profile | saved => exact List.suffix_rfl
    | outgoing | restarted => exact List.suffix_cons _ _
  | processed stored acknowledged above h =>
    cases h
    exact List.suffix_cons _ _
  | selected => exact List.suffix_cons _ _
  | connected => exact List.suffix_rfl

theorem AnyStep.cursor_le {v v' : View P} (h : AnyStep v v') : v.cursor ≤ v'.cursor := by
  cases h with
  | view h => exact h.cursor.ge
  | processed stored acknowledged above h =>
    cases h
    exact Nat.le_of_lt above
  | selected | connected => exact Nat.le_refl _

/-- The cursor is that of the last envelope that was processed, and no earlier one was higher; only messages are queued,
and no request is for what comes after a later cursor. -/
structure View.Caught (v : View P) : Prop where
  cursor : v.cursor = ((v.log.filterMap Event.handledEnvelope).head?.map Prod.fst).getD 0
  past : ∀ n id, (n, id) ∈ v.log.filterMap Event.handledEnvelope → n ≤ v.cursor
  queued : ∀ body ∈ v.queued, ∃ message, body = some (.sendEnvelopes message)
  requests : ∀ f ∈ v.sent, ∀ m, f.body = some (.syncRequest m) → m.afterCursor ≤ v.cursor

theorem View.Caught.quiet {v v' : View P} (h : v.Caught) (hs : QuietStep v v') : v'.Caught := by
  have hcursor : v'.cursor = ((v'.log.filterMap Event.handledEnvelope).head?.map Prod.fst).getD 0 := by
    rw [hs.same.2.2, hs.handledEnvelopes]
    exact h.cursor
  have hpast : ∀ n id, (n, id) ∈ v'.log.filterMap Event.handledEnvelope → n ≤ v'.cursor := by
    rw [hs.same.2.2, hs.handledEnvelopes]
    exact h.past
  cases hs with
  | aside known queued requests outbox =>
    exact ⟨hcursor, hpast, fun body hbody => h.queued body (outbox hbody), h.requests⟩
  | sent f allowed =>
    refine ⟨hcursor, hpast, h.queued, fun f' hf' m hbody => ?_⟩
    rcases List.mem_append.1 hf' with hold | hnew
    · exact h.requests f' hold m hbody
    · obtain rfl := List.mem_singleton.1 hnew
      rw [hbody] at allowed
      rcases allowed with hqueued | hallowed
      · obtain ⟨message, heq⟩ := h.queued _ hqueued
        cases heq
      · exact hallowed
  | _ => exact ⟨hcursor, hpast, h.queued, h.requests⟩

theorem View.Caught.step {v v' : View P} (h : v.Caught) (hs : AnyStep v v') : v'.Caught := by
  cases hs with
  | view hs =>
    cases hs with
    | quiet hs => exact h.quiet hs
    | machine | profile | saved | restarted => exact ⟨h.cursor, h.past, h.queued, h.requests⟩
    | outgoing m ops message queued derived sealed outbox present =>
      refine ⟨h.cursor, h.past, fun body hbody => ?_, h.requests⟩
      rcases List.mem_cons.1 (outbox hbody) with rfl | hold
      · exact ⟨message, rfl⟩
      · exact h.queued body hold
  | processed stored acknowledged above hs =>
    cases hs with
    | processed e envelope =>
      refine ⟨rfl, fun n id hmem => ?_, h.queued, fun f hf m hbody => ?_⟩
      · rcases List.mem_cons.1 hmem with heq | hold
        · cases heq
          exact Nat.le_refl _
        · exact Nat.le_trans (h.past n id hold) (Nat.le_of_lt above)
      · rcases List.mem_append.1 hf with hold | hnew
        · exact Nat.le_trans (h.requests f hold m hbody) (Nat.le_of_lt above)
        · cases acknowledged with
          | true =>
            obtain rfl := List.mem_singleton.1 hnew
            cases hbody
          | false => exact absurd hnew List.not_mem_nil
  | selected => exact ⟨h.cursor, h.past, h.queued, h.requests⟩
  | connected => exact ⟨h.cursor, h.past, h.queued, fun f hf => absurd hf List.not_mem_nil⟩

theorem reachable_caught {profile : RuntimeProfile P} {w : World P} (hw : (clientSystem env profile).Reachable w) :
    w.view.Caught :=
  reachable_invariant hw ⟨rfl, fun _ _ h => absurd h List.not_mem_nil, fun _ h => absurd h List.not_mem_nil,
    fun _ h => absurd h List.not_mem_nil⟩ fun _ _ h hs => h.step hs

/-! ## The actions of a client -/

theorem Change.run_processed {s s' : Ledger P} {c : Change P} (hs : c.run s = some s')
    (hc : ∀ o branch, c ≠ .processed o branch) : s'.processed = s.processed := by
  obtain ⟨s₁, hs₁, rfl⟩ := Change.run_eq hs
  show s₁.processed = s.processed
  have hstated : ∀ {st : Statement}, s.statement st = some s₁ → s₁.processed = s.processed := fun hst => by
    obtain ⟨tables, -, rfl⟩ := Ledger.statement_eq hst
    rfl
  cases c with
  | saved | restarted | noted n | answered n | answeredBy o n | marked id state read now | dismissed n now
  | seen id now | unnoted id =>
    cases hs₁
    rfl
  | stated st | announced t row | unaddressed id | completed id n | verified account => exact hstated hs₁
  | deletedHere t =>
    obtain ⟨tables, -, rfl⟩ := Option.map_eq_some_iff.1 hs₁
    rfl
  | processed o branch => exact absurd rfl (hc o branch)

/-- An action that brings no batch processes nothing. -/
theorem after_other {profile : RuntimeProfile P} {w : World P} {action : Action}
    (hw : (clientSystem env profile).Reachable w) (hsync : action.syncFrame = none) :
    (w.after env action).store.envelopeCursor = w.store.envelopeCursor := by
  have hbefore := (reachable_caught hw).cursor
  have hafter := (reachable_caught (hw.step (i := action) trivial rfl)).cursor
  have hsame : (w.after env action).log.filterMap Event.handledEnvelope = w.log.filterMap Event.handledEnvelope := by
    have hchanges : Changes (Change.Of env action) w (w.after env action) := runAction_alters action w
    obtain ⟨past, h⟩ := hchanges.invariant [] (I := fun s => s.processed = w.log.filterMap Event.handledEnvelope) rfl
      fun s c s' hI hc hrun => by
        refine (Change.run_processed hrun fun o branch heq => ?_).trans hI
        subst heq
        obtain ⟨⟨-, f, batch, rfl, hbody, -⟩, -⟩ := hc.resolve_left False.elim
        rw [Action.syncFrame_of hbody] at hsync
        cases hsync
    exact h
  have hlog : (w.after env action).view.log.filterMap Event.handledEnvelope =
      w.view.log.filterMap Event.handledEnvelope := hsame
  rw [hlog] at hafter
  exact hafter.trans hbefore.symm

theorem Walk.log {es : List (StoredEnvelope × Bool)} {v v' : View P} (h : Walk es v v') : v.log <:+ v'.log := by
  have hruns : ∀ {v v' : View P}, ReflTransGen ViewStep v v' → v.log <:+ v'.log := fun h =>
    paths_invariant (I := fun u => _ <:+ u.log) (fun _ _ hI hs => hI.trans hs.log) List.suffix_rfl
      (ReflTransGen.mono (fun _ _ h => .view h) _ _ h)
  induction h with
  | runs h => exact hruns h
  | processed h step _ ih =>
    cases step
    exact (hruns h).trans ((List.suffix_cons _ _).trans ih)

/-- What a walk processes is recorded. -/
theorem Walk.processed_mem {es : List (StoredEnvelope × Bool)} {v v' : View P} (h : Walk es v v') :
    ∀ e ∈ es, ∃ envelope, e.1.envelope = some envelope ∧ .processed e.1.cursor envelope.envelopeId ∈ v'.log := by
  induction h with
  | runs => exact fun e he => absurd he List.not_mem_nil
  | processed _ step rest ih =>
    intro e he
    rcases List.mem_cons.1 he with rfl | he
    · cases step with
      | processed envelope hsome => exact ⟨envelope, hsome, rest.log.subset List.mem_cons_self⟩
    · exact ih e he

theorem mem_of_mem_advancing : ∀ {envelopes : List StoredEnvelope} {cursor : Nat} {e : StoredEnvelope},
    e ∈ advancing envelopes cursor → e ∈ envelopes := by
  intro envelopes
  induction envelopes with
  | nil => exact fun h => h
  | cons stored rest ih =>
    intro cursor e he
    unfold advancing at he
    split at he
    · exact List.mem_cons_of_mem _ (ih he)
    · exact (List.mem_cons.1 he).elim (fun h => h ▸ List.mem_cons_self) fun h => List.mem_cons_of_mem _ (ih h)

/-- In a batch whose cursors rise, everything above the cursor is handled. -/
theorem mem_advancing : ∀ {envelopes : List StoredEnvelope} {cursor : Nat} {e : StoredEnvelope},
    Rises StoredEnvelope.cursor envelopes → e ∈ envelopes → cursor < e.cursor → e ∈ advancing envelopes cursor := by
  intro envelopes
  induction envelopes with
  | nil => exact fun _ h => absurd h List.not_mem_nil
  | cons stored rest ih =>
    intro cursor e hrises he hlt
    obtain ⟨habove, hrest⟩ := List.pairwise_cons.1 hrises
    unfold advancing
    rcases List.mem_cons.1 he with rfl | he
    · rw [if_neg (Nat.not_le.2 hlt)]
      exact List.mem_cons_self
    · split
      · exact ih hrest he hlt
      · exact List.mem_cons_of_mem _ (ih hrest he (habove e he))

/-- A batch is processed up to some envelope. -/
theorem after_batch (env : Environment) (w : World P) {action : Action} {f : Frame} {batch : SyncBatch}
    (hsync : action.syncFrame = some (f, batch)) :
    ∃ es : List (StoredEnvelope × Bool), es.map Prod.fst <+: advancing batch.envelopes w.store.envelopeCursor ∧
      Walk es w.view (w.after env action).view := by
  obtain ⟨rfl, hbody⟩ := Action.syncFrame_eq hsync
  have hwalks : wp (handleServerEvent env f)
      (fun _ w' => ∃ es : List (StoredEnvelope × Bool),
        es.map Prod.fst <+: advancing batch.envelopes w.store.envelopeCursor ∧ Walk es w.view w'.view)
      (fun _ w' => ∃ es : List (StoredEnvelope × Bool),
        es.map Prod.fst <+: advancing batch.envelopes w.store.envelopeCursor ∧ Walk es w.view w'.view) w :=
    (handleServerEvent_walks f hbody w).mono (fun _ _ h => ⟨_, acknowledgedAll_initial _, h⟩) fun _ _ h => h
  exact Prog.wp_state.1 hwalks

/-- A batch leaves the cursor, or leaves it at one of its envelopes. -/
theorem cursor_of_batch {w : World P} {action : Action} {f : Frame} {batch : SyncBatch}
    (hsync : action.syncFrame = some (f, batch)) :
    (w.after env action).store.envelopeCursor = w.store.envelopeCursor ∨
      ∃ e ∈ batch.envelopes, (w.after env action).store.envelopeCursor = e.cursor := by
  obtain ⟨es, hpre, hwalk⟩ := after_batch env w hsync
  have hcursor : (w.after env action).store.envelopeCursor =
      (es.map fun e => e.1.cursor).getLastD w.store.envelopeCursor := hwalk.cursor
  rcases es.eq_nil_or_concat with rfl | ⟨init, last, rfl⟩
  · exact .inl hcursor
  · rw [List.concat_eq_append, List.map_append, List.map_singleton, List.getLastD_concat] at hcursor
    have hlast : last.1 ∈ (init.concat last).map Prod.fst := List.mem_map_of_mem (by simp)
    exact .inr ⟨last.1, mem_of_mem_advancing (hpre.subset hlast), hcursor⟩

/-- An action that brings a batch whose cursors rise processes what it has up to the new cursor. -/
theorem processed_of_batch {w : World P} {action : Action} {f : Frame} {batch : SyncBatch}
    (hsync : action.syncFrame = some (f, batch)) (hrises : Rises StoredEnvelope.cursor batch.envelopes)
    {e : StoredEnvelope} (he : e ∈ batch.envelopes) (habove : w.store.envelopeCursor < e.cursor)
    (hle : e.cursor ≤ (w.after env action).store.envelopeCursor) :
    ∃ envelope, e.envelope = some envelope ∧
      .processed e.cursor envelope.envelopeId ∈ (w.after env action).log := by
  obtain ⟨es, hpre, hwalk⟩ := after_batch env w hsync
  have hcursor : (w.after env action).store.envelopeCursor =
      (es.map fun e => e.1.cursor).getLastD w.store.envelopeCursor := hwalk.cursor
  obtain ⟨rest, hrest⟩ := hpre
  have hadvancing : e ∈ es.map Prod.fst ++ rest := hrest ▸ mem_advancing hrises he habove
  have hpairwise := (List.pairwise_cons.1 (advancing_ascending batch.envelopes w.store.envelopeCursor)).2
  rw [← hrest, List.map_append, List.map_map] at hpairwise
  have hmem : e ∈ es.map Prod.fst := by
    refine (List.mem_append.1 hadvancing).resolve_right fun hlater => ?_
    rcases es.eq_nil_or_concat with rfl | ⟨init, last, rfl⟩
    · rw [hcursor] at hle
      exact absurd habove (Nat.not_lt.2 hle)
    · rw [List.concat_eq_append] at hcursor hpairwise
      rw [hcursor, List.map_append, List.map_singleton, List.getLastD_concat] at hle
      have hlast : last ∈ init ++ [last] := List.mem_append_right _ (List.mem_singleton_self _)
      have hlt : last.1.cursor < e.cursor :=
        (List.pairwise_append.1 hpairwise).2.2 _ (List.mem_map_of_mem hlast) _ (List.mem_map_of_mem hlater)
      omega
  obtain ⟨e', he', rfl⟩ := List.mem_map.1 hmem
  exact hwalk.processed_mem e' he'

/-! ## What every step keeps -/

/-- A step of the server keeps the rows that there are, but for the times of delivery, or deletes them; new ones come
above. -/
theorem Cluster.step_rows {p p' : Cluster} {l : Cluster.Label} (hp : (serverSystem senv P).Reachable p)
    (hs : Cluster.step senv P p l = some p') :
    p.shared.db.lastCursor ≤ p'.shared.db.lastCursor ∧ ∀ row ∈ p'.shared.db.envelopes,
      (∃ old ∈ p.shared.db.envelopes, row.undated = old.undated ∧
        (old.deliveredAtMs.isSome = true → row.deliveredAtMs.isSome = true)) ∨
      p.shared.db.lastCursor < row.cursor := by
  have hsame : ∀ {db db' : Db}, db' = db → db.lastCursor ≤ db'.lastCursor ∧ ∀ row ∈ db'.envelopes,
      (∃ old ∈ db.envelopes, row.undated = old.undated ∧
        (old.deliveredAtMs.isSome = true → row.deliveredAtMs.isSome = true)) ∨ db.lastCursor < row.cursor := by
    rintro db db' rfl
    exact ⟨Nat.le_refl _, fun row hrow => .inl ⟨row, hrow, rfl, id⟩⟩
  rcases ((Cluster.serving hp).step hs).2 with ⟨hshared, -⟩ | ⟨i, hstep, -⟩ | hcrashed
  · exact hsame (congrArg AppState.db hshared)
  · have hthreaded : (p.world i).1.db.Threaded := Cluster.threaded hp
    have hkept : ∀ {w w' : ServerWorld}, w.1.db.Threaded → ServerStep senv P i w w' →
        w.1.db.lastCursor ≤ w'.1.db.lastCursor ∧ ∀ row ∈ w'.1.db.envelopes,
          (∃ old ∈ w.1.db.envelopes, row.undated = old.undated ∧
            (old.deliveredAtMs.isSome = true → row.deliveredAtMs.isSome = true)) ∨
          w.1.db.lastCursor < row.cursor := by
      intro w w' hw hs
      cases hs with
      | wrote log events write => exact write.messages.rows hw
      | _ => exact hsame rfl
    exact hkept hthreaded hstep
  · exact hsame (by rw [hcrashed]; rfl)

theorem Cluster.row_pos {p : Cluster} (hp : (serverSystem senv P).Reachable p) :
    ∀ row ∈ p.shared.db.envelopes, 0 < row.cursor := by
  have hboth : (serverSystem senv P).Reachable p ∧ ∀ row ∈ p.shared.db.envelopes, 0 < row.cursor := by
    refine hp.invariant
      (I := fun p => (serverSystem senv P).Reachable p ∧ ∀ row ∈ p.shared.db.envelopes, 0 < row.cursor)
      (fun p hinit => ⟨.init hinit, fun row hrow => ?_⟩) fun p l p' ⟨hreachable, hpos⟩ _ hs =>
        ⟨.step hreachable trivial hs, fun row hrow => ?_⟩
    · rw [show p = .initial senv from hinit] at hrow
      exact absurd hrow (Table.not_mem_empty row)
    · rcases (Cluster.step_rows hreachable hs).2 row hrow with ⟨old, hold, heq, -⟩ | habove
      · rw [(EnvelopeRow.mk.inj heq).1]
        exact hpos old hold
      · exact Nat.zero_lt_of_lt habove
  exact hboth.2

namespace Mailbox

/-- A batch has stored envelopes in the order of their cursors; and it is a push, or has everything that the client has
not processed up to where it ends. -/
structure Honest (deviceId : String) (s : Mailbox P) (batch : SyncBatch) : Prop where
  rises : Rises StoredEnvelope.cursor batch.envelopes
  stored : ∀ e ∈ batch.envelopes, e.cursor ≤ s.server.shared.db.lastCursor
  same : ∀ e ∈ batch.envelopes, ∀ row ∈ s.rows, row.cursor = e.cursor → e.Of row
  complete : (∃ stored, batch = Ws.pushedBatch stored) ∨
    ∀ row ∈ s.rows, row.envelope.recipientDeviceId = deviceId → s.client.store.envelopeCursor < row.cursor →
      ∀ e ∈ batch.envelopes, row.cursor ≤ e.cursor → ∃ e' ∈ batch.envelopes, e'.cursor = row.cursor

/-- What every run keeps of a mailbox. -/
structure Sound (env : Environment) (senv : ServerEnvironment) (profile : RuntimeProfile P) (s : Mailbox P) :
    Prop where
  server : (serverSystem senv P).Reachable s.server
  client : (clientSystem env profile).Reachable s.client
  cursor : s.client.store.envelopeCursor ≤ s.server.shared.db.lastCursor
  made : ∀ batch ∈ s.made, s.Honest profile.identity.deviceId batch

variable {s s' : Mailbox P} {deviceId accountId : String} {batch : SyncBatch}

theorem Honest.server (h : s.Honest deviceId batch) {server : Cluster} {l : Cluster.Label}
    (hp : (serverSystem senv P).Reachable s.server) (hs : Cluster.step senv P s.server l = some server) :
    ({ s with server } : Mailbox P).Honest deviceId batch := by
  obtain ⟨hle, hrows⟩ := Cluster.step_rows hp hs
  -- What is new has a cursor above that of every batch.
  have hold : ∀ row ∈ server.shared.db.envelopes, ∀ e ∈ batch.envelopes, row.cursor ≤ e.cursor →
      ∃ old ∈ s.rows, row.undated = old.undated := by
    intro row hrow e he hcursor
    rcases hrows row hrow with ⟨old, hold, heq, -⟩ | habove
    · exact ⟨old, hold, heq⟩
    · have hstored := h.stored e he
      omega
  refine ⟨h.rises, fun e he => Nat.le_trans (h.stored e he) hle, fun e he row hrow hcursor => ?_, ?_⟩
  · obtain ⟨old, hold, heq⟩ := hold row hrow e he hcursor.le
    have hsame : row.cursor = old.cursor := (EnvelopeRow.mk.inj heq).1
    exact (h.same e he old hold (hsame.symm.trans hcursor)).undated heq.symm
  · refine h.complete.imp_right fun hcomplete row hrow hdevice hlt e he hcursor => ?_
    obtain ⟨old, hold, heq⟩ := hold row hrow e he hcursor
    obtain ⟨hsame, henvelope, -⟩ := EnvelopeRow.mk.inj heq
    rw [hsame] at hlt hcursor ⊢
    exact hcomplete old hold (henvelope ▸ hdevice) hlt e he hcursor

theorem Honest.of_eq (h : s.Honest deviceId batch) (hserver : s'.server = s.server) (hclient : s'.client = s.client) :
    s'.Honest deviceId batch := by
  have hrows : s'.rows = s.rows := by rw [rows, hserver, rows]
  refine ⟨h.rises, ?_, ?_, ?_⟩
  · rw [hserver]
    exact h.stored
  · rw [hrows]
    exact h.same
  · rw [hrows, hclient]
    exact h.complete

theorem Honest.client (h : s.Honest deviceId batch) {client : World P}
    (hle : s.client.store.envelopeCursor ≤ client.store.envelopeCursor) {flight : List AckEnvelope} :
    ({ s with client, flight } : Mailbox P).Honest deviceId batch where
  rises := h.rises
  stored := h.stored
  same := h.same
  complete := h.complete.imp_right fun hcomplete row hrow hdevice hlt =>
    hcomplete row hrow hdevice (Nat.lt_of_le_of_lt hle hlt)

theorem honest_page (hp : (serverSystem senv P).Reachable s.server) {m : SyncRequest}
    (hafter : m.afterCursor ≤ s.client.store.envelopeCursor) :
    s.Honest deviceId (Ws.syncPage s.server.shared.db accountId deviceId m) := by
  have hthreaded := Cluster.threaded hp
  have hrises : Rises StoredEnvelope.cursor (s.server.shared.db.envelopesAfter deviceId m.afterCursor) :=
    hthreaded.envelopesAfter_rises
  have henvelopes := (Db.syncPage_eq s.server.shared.db accountId deviceId m).1
  have hrow : ∀ e ∈ (Ws.syncPage s.server.shared.db accountId deviceId m).envelopes, ∃ row ∈ s.rows, e.Of row := by
    intro e he
    rw [henvelopes] at he
    obtain ⟨row, hrow, -, -, hstored⟩ := Db.mem_envelopesAfter.1 (List.mem_of_mem_take he)
    exact ⟨row, hrow, Db.storedEnvelope_of hstored⟩
  refine ⟨?_, fun e he => ?_, fun e he row hmem hcursor => ?_, .inr fun row hmem hdevice hlt e he hle => ?_⟩
  · rw [henvelopes]
    exact hrises.sublist (List.take_sublist _ _)
  · obtain ⟨row, hmem, hof⟩ := hrow e he
    rw [hof.cursor]
    exact hthreaded.cursors row hmem
  · obtain ⟨row', hmem', hof⟩ := hrow e he
    obtain rfl : row = row' := hthreaded.distinct row hmem row' hmem' (hcursor.trans hof.cursor)
    exact hof
  · obtain ⟨e', hstored⟩ := hthreaded.storedEnvelope hmem
    have hof : e'.Of row := Db.storedEnvelope_of hstored
    have hwaits : asI64 m.afterCursor < row.cursor := by
      have hcast := Db.asI64_le m.afterCursor
      omega
    have he' : e' ∈ s.server.shared.db.envelopesAfter deviceId m.afterCursor :=
      Db.mem_envelopesAfter.2 ⟨row, hmem, hdevice, hwaits, hstored⟩
    refine ⟨e', ?_, hof.cursor⟩
    rw [henvelopes] at he ⊢
    have hnext : e.cursor ≤ Page.next _ m.afterCursor _ := Page.le_next (hrises.sublist (List.take_sublist _ _)) he
    refine (Page.mem_take_iff hrises (Db.pageLimit_pos m.limit) he').2 (Nat.le_trans ?_ hnext)
    rw [hof.cursor]
    exact hle

theorem honest_push (hp : (serverSystem senv P).Reachable s.server) {row : EnvelopeRow} {stored : StoredEnvelope}
    (hrow : row ∈ s.rows) (hstored : s.server.shared.db.storedEnvelope row = some stored) :
    s.Honest deviceId (Ws.pushedBatch stored) := by
  have hthreaded := Cluster.threaded hp
  have hof : stored.Of row := Db.storedEnvelope_of hstored
  refine ⟨List.pairwise_singleton _ _, fun e he => ?_, fun e he row' hrow' hcursor => ?_, .inl ⟨stored, rfl⟩⟩
  · obtain rfl := List.mem_singleton.1 he
    rw [hof.cursor]
    exact hthreaded.cursors row hrow
  · obtain rfl := List.mem_singleton.1 he
    obtain rfl : row' = row := hthreaded.distinct row' hrow' row hrow (hcursor.trans hof.cursor)
    exact hof

/-- The client's cursor only rises. -/
theorem cursor_le {profile : RuntimeProfile P} {w : World P} (hw : (clientSystem env profile).Reachable w)
    (action : Action) : w.store.envelopeCursor ≤ (w.after env action).store.envelopeCursor := by
  cases hsync : action.syncFrame with
  | none => exact (after_other hw hsync).ge
  | some frame =>
    obtain ⟨es, hpre, hwalk⟩ := after_batch env w hsync
    have hpaths : ReflTransGen AnyStep w.view (w.after env action).view := hwalk.paths_of_advancing hpre
    exact paths_invariant (I := fun v => w.view.cursor ≤ v.cursor) (fun _ _ hI hs => Nat.le_trans hI hs.cursor_le)
      (Nat.le_refl _) hpaths

theorem Sound.step {profile : RuntimeProfile P} (h : s.Sound env senv profile) {l : Label}
    (hs : Step env senv profile.accountId profile.identity.deviceId s l s') : s'.Sound env senv profile := by
  cases hs with
  | server step =>
    obtain ⟨hle, -⟩ := Cluster.step_rows h.server step
    exact ⟨.step h.server trivial step, h.client, Nat.le_trans h.cursor hle,
      fun batch hbatch => (h.made batch hbatch).server h.server step⟩
  | page sent =>
    obtain ⟨f, hf, hbody⟩ := sent
    refine ⟨h.server, h.client, h.cursor, fun batch hbatch => ?_⟩
    rcases List.mem_cons.1 hbatch with rfl | hold
    · have hpage : s.Honest profile.identity.deviceId (Ws.syncPage _ profile.accountId profile.identity.deviceId _) :=
        honest_page h.server ((reachable_caught h.client).requests f hf _ hbody)
      exact hpage.of_eq rfl rfl
    · exact (h.made batch hold).of_eq rfl rfl
  | push mem device envelope =>
    refine ⟨h.server, h.client, h.cursor, fun batch hbatch => ?_⟩
    rcases List.mem_cons.1 hbatch with rfl | hold
    · have hpush : s.Honest profile.identity.deviceId (Ws.pushedBatch _) := honest_push h.server mem envelope
      exact hpush.of_eq rfl rfl
    · exact (h.made batch hold).of_eq rfl rfl
  | @client action made =>
    refine ⟨h.server, .step h.client trivial rfl, ?_, fun batch hbatch => ?_⟩
    · show (s.client.after env action).store.envelopeCursor ≤ s.server.shared.db.lastCursor
      cases hsync : action.syncFrame with
      | none =>
        rw [after_other h.client hsync]
        exact h.cursor
      | some frame =>
        rcases cursor_of_batch hsync with heq | ⟨e, he, heq⟩
        · rw [heq]
          exact h.cursor
        · rw [heq]
          exact (h.made _ (made _ _ hsync)).stored e he
    · exact (h.made batch hbatch).client (cursor_le h.client action)
  | acknowledged | lost =>
    exact ⟨h.server, h.client, h.cursor, fun batch hbatch => (h.made batch hbatch).of_eq rfl rfl⟩

theorem Sound.init {profile : RuntimeProfile P} (h : (mailboxSystem env senv profile).init s) :
    s.Sound env senv profile := by
  obtain ⟨hserver, hclient, hmade, -⟩ := h
  refine ⟨hserver, hclient ▸ .init rfl, ?_, fun batch hbatch => ?_⟩
  · rw [hclient]
    exact Nat.zero_le _
  · rw [hmade] at hbatch
    exact absurd hbatch List.not_mem_nil

theorem sound {profile : RuntimeProfile P} (h : (mailboxSystem env senv profile).Reachable s) :
    s.Sound env senv profile :=
  h.invariant (I := fun s => s.Sound env senv profile) (fun _ hinit => .init hinit) fun _ _ _ hsound _ hs =>
    hsound.step hs

end Mailbox

end TuiChat
