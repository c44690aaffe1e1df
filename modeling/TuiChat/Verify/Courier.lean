import TuiChat.Client.LedgerSteps
import TuiChat.System.Courier
import TuiChat.Verify.Outbox
import TuiChat.Verify.Acceptance
import TuiChat.Verify.ServerScenario
import TuiChat.Verify.WriteAhead

/-!
# No message is dropped before it is stored

`complete_outbox` removes the row of a message when its acceptance is handled. In every run of a device and a server
with any losses, delays and repetitions, a row leaves the outbox only when the server has stored a batch of the row's
message that the client had queued, for every device that was active then and for one at least, or when the conversation
is deleted here or by another device of the account, or the tombstone that the row tells of ends (`outbox_row_leaves`).
-/

namespace TuiChat

open Lib
open Lib.Proc (All)
open Relation (ReflTransGen)

variable {P : Primitives} {env : Environment} {senv : ServerEnvironment} {profile : RuntimeProfile P}

/-! ## What a connection receives -/

namespace Ws

/-- What is received are frames such that `K`. -/
def Receives (K : Frame → Prop) (w w' : ServerWorld) : Prop := ∀ g ∈ w'.2.requests, g ∈ w.2.requests ∨ K g

variable {K : Frame → Prop} {i : Nat}

theorem Hands.receives {L : Nat × Frame → Prop} {w w' : ServerWorld} (h : Hands L w w') : Receives K w w' :=
  fun _ hg => .inl (h.requests ▸ hg)

/-- A task receives the frame that it was started for. -/
theorem receives_serve {m : Incoming} (h : ∀ f, m = .binary (.ok f) → K f) :
    All (Receives K) (serve senv P i m) := by
  rcases @hands_serve senv P i m with ⟨incoming, hm, heq⟩ | hquiet
  · obtain ⟨rest, hrest, replying⟩ := @serveFrame_eq senv P i incoming
    have hall : All (Receives K) rest := (replying.mono (fun _ _ h => h.receives)
      fun _ _ h => h.receives).all fun _ _ h => h
    rw [heq, hrest]
    refine Proc.Moves.bind (Proc.Moves.atomically fun _ w _ => ⟨fun g hg => ?_, trivial⟩) fun _ => hall
    rcases List.mem_cons.1 hg with rfl | hg
    · exact .inr (h _ hm)
    · exact .inl hg
  · exact hquiet.mono fun _ _ h => h.receives

end Ws

/-! ## What the client hands over -/

/-- Every batch on the connection was queued. -/
theorem reachable_queued {w : World P} (hw : (clientSystem env profile).Reachable w) {f : Frame} (hf : f ∈ w.sent)
    {m : SendEnvelopes} (hm : f.body = some (.sendEnvelopes m)) : .queued m ∈ w.log := by
  obtain ⟨-, hahead⟩ := reachable_invariant
    (I := fun v => v.Synced ∧ v.WrittenAhead profile.machine) hw
    ⟨rfl, ⟨[], .refl, .nil⟩, nofun, nofun⟩ fun v v' h hs => ⟨h.1.step hs, h.2.step h.1 hs⟩
  exact hahead.sent f hf m hm

/-- What happened stays recorded. -/
theorem log_after (w : World P) (a : Action) {e : Event} (h : e ∈ w.log) : e ∈ (w.after env a).log :=
  paths_invariant (I := fun v => e ∈ v.log) (fun _ _ h hs => hs.log.subset h) h (runAction_paths a w)

theorem handed_sent {w : World P} {a : Action} {f : Frame} (h : f ∈ w.handed env a) : f ∈ (w.after env a).sent := by
  unfold World.handed at h
  split at h
  · exact h
  · exact h
  · exact List.mem_of_mem_drop h

theorem after_reachable {w : World P} (hw : (clientSystem env profile).Reachable w) (a : Action) :
    (clientSystem env profile).Reachable (w.after env a) := .step (i := a) hw trivial rfl

namespace Courier

variable {s s' : Courier P} {l : Label} {id : String}

/-- A batch of the message that the client had queued was stored, as coming from the session of one of its connections. -/
def Stored (s : Courier P) (id : String) : Prop :=
  ∃ t ∈ s.tokens, ∃ session, (s.server.locals t).session = some session ∧ ∃ db, s.server.shared.Had db ∧
    ∃ m, .queued m ∈ s.client.log ∧ db.BatchStored session.account.id session.deviceId id m.envelopes

/-- A batch among the frames was handed over by the client. -/
def Handed (s : Courier P) (g : Frame) : Prop := ∀ m, g.body = some (.sendEnvelopes m) → g ∈ s.handed

structure Sound (env : Environment) (senv : ServerEnvironment) (profile : RuntimeProfile P) (s : Courier P) : Prop where
  server : (serverSystem senv P).Reachable s.server
  client : (clientSystem env profile).Reachable s.client
  queued : ∀ f ∈ s.handed, ∀ m, f.body = some (.sendEnvelopes m) → .queued m ∈ s.client.log
  received : ∀ t ∈ s.tokens, ∀ g ∈ (s.server.locals t).requests, s.Handed g
  receives : ∀ t ∈ s.tokens, ∀ task, s.server.tasks t = some task → All (Ws.Receives s.Handed) task

/-- What a label of the server leaves of one connection. -/
theorem receives_step {p p' : Cluster} {l : Cluster.Label} {t : Nat} {K : Frame → Prop}
    (hs : Cluster.step senv P p l = some p') (hl : ∀ f, l = .incoming t (.binary (.ok f)) → K f)
    (received : ∀ g ∈ (p.locals t).requests, K g)
    (receives : ∀ task, p.tasks t = some task → All (Ws.Receives K) task) :
    (∀ g ∈ (p'.locals t).requests, K g) ∧ ∀ task, p'.tasks t = some task → All (Ws.Receives K) task := by
  have hstart : ∀ {j : Nat} {m : ServerM Unit}, (j = t → All (Ws.Receives K) m) →
      ∀ task, (p.start j m).tasks t = some task → All (Ws.Receives K) task := by
    intro j m hm task htask
    by_cases hj : t = j
    · subst hj
      rw [show (p.start t m).tasks t = some m from Function.update_self ..] at htask
      cases htask
      exact hm rfl
    · rw [show (p.start j m).tasks t = p.tasks t from Function.update_of_ne hj ..] at htask
      exact receives task htask
  cases l with
  | incoming j m =>
    obtain ⟨-, hp'⟩ := Option.ite_none_right_eq_some.1 hs
    cases hp'
    refine ⟨received, hstart ?_⟩
    rintro rfl
    exact Ws.receives_serve fun f hf => hl f (hf ▸ rfl)
  | command j c =>
    obtain ⟨-, hp'⟩ := Option.ite_none_right_eq_some.1 hs
    cases hp'
    exact ⟨received, hstart fun _ => (Admin.hands_runCommand (K := fun _ => True) c).mono fun _ _ h => h.receives⟩
  | advance j =>
    obtain ⟨-, hp'⟩ := Option.ite_none_right_eq_some.1 hs
    cases hp'
    by_cases hj : t = j
    · subst hj
      cases htask : p.tasks t with
      | none =>
        rw [Pool.advance_of_none htask]
        exact ⟨received, fun task h => receives task h⟩
      | some m =>
        cases m with
        | done r =>
          rw [Pool.advance_of_done htask]
          refine ⟨received, fun task h => ?_⟩
          dsimp only at h
          rw [Function.update_self] at h
          cases h
        | act f k =>
          obtain ⟨hworld, hrest⟩ := Pool.advance_of_act htask
          obtain ⟨hact, hall⟩ := (Proc.all_act f k).1 (receives _ htask) (p.world t)
          have hlocal : (p.advance t).locals t = (f (p.world t)).2 := congrArg Prod.snd hworld
          rw [hlocal, hrest]
          refine ⟨fun g hg => (hact g hg).elim (received g) id, fun task h => ?_⟩
          cases h
          exact hall
    · obtain ⟨htask, hlocal⟩ := Pool.advance_of_ne (p := p) hj
      rw [htask, hlocal]
      exact ⟨received, receives⟩
  | crash =>
    cases hs
    exact ⟨received, fun _ h => (nomatch h)⟩

theorem Sound.step (h : s.Sound env senv profile) (hs : Courier.Step env senv s l s') : s'.Sound env senv profile := by
  cases hs with
  | @server l server own step =>
    have ht : ∀ t ∈ s.tokens, (∀ g ∈ (server.locals t).requests, s.Handed g) ∧
        ∀ task, server.tasks t = some task → All (Ws.Receives s.Handed) task := fun t ht =>
      receives_step step (fun f hl => by subst hl; exact own ht) (h.received t ht) (h.receives t ht)
    exact ⟨.step h.server trivial step, h.client, h.queued, fun t hmem => (ht t hmem).1, fun t hmem => (ht t hmem).2⟩
  | @connects i fresh idle =>
    refine ⟨h.server, h.client, h.queued, fun t ht g hg => ?_, fun t ht task htask => ?_⟩
    · rcases List.mem_cons.1 ht with rfl | ht
      · exact fun m hm => absurd hm (fresh g hg m)
      · exact h.received t ht g hg
    · rcases List.mem_cons.1 ht with rfl | ht
      · cases idle.symm.trans htask
      · exact h.receives t ht task htask
  | @client a accepted =>
    have hmono : ∀ g, s.Handed g → Handed { s with
        client := s.client.after env a
        handed := s.handed ++ s.client.handed env a } g := fun g hg m hm => List.mem_append_left _ (hg m hm)
    refine ⟨h.server, after_reachable h.client a, fun f hf m hm => ?_, fun t ht g hg => hmono g (h.received t ht g hg),
      fun t ht task htask => (h.receives t ht task htask).mono fun _ _ hr g hg => (hr g hg).imp_right (hmono g)⟩
    rcases List.mem_append.1 hf with hf | hf
    · exact log_after _ _ (h.queued f hf m hm)
    · exact reachable_queued (after_reachable h.client a) (handed_sent hf) hm

/-- An acceptance that the client handles is true. -/
theorem Sound.stored (h : s.Sound env senv profile) {t : Nat} {f : Frame} {a : SendAccepted} (ht : t ∈ s.tokens)
    (hout : (t, f) ∈ s.server.shared.out) (hbody : f.body = some (.sendAccepted a)) : s.Stored a.logicalMessageId := by
  obtain ⟨g, hg, -, m, hm, session, hsession, db, had, hstored⟩ := accepted_stored h.server hout hbody
  exact ⟨t, ht, session, hsession, db, had, m, h.queued g (h.received t ht g hg m hm) m hm, hstored⟩

/-! ## The outbox -/

end Courier

/-- Why a change takes a row out of the outbox that is not completed. -/
inductive Change.Forgets (s : Ledger P) (id : String) : Change P → Prop
  /-- The conversation of the message is deleted. -/
  | deletedHere {t : ConversationTombstone} {m : ChatMessage} (mem : m ∈ s.tables.messages) (message : m.id = id)
    (conversation : m.conversationId = t.conversationId) : Forgets s id (.deletedHere t)
  | deleted {o : Opened P} {m : ChatMessage} (mem : m ∈ s.tables.messages) (message : m.id = id)
    (conversation : m.conversationId = o.envelope.conversationId) : Forgets s id (.processed o .deleted)
  /-- The deletion that the row tells of ends. -/
  | verified {accountId : String} {t : ConversationTombstone} (mem : t ∈ s.tables.tombstones)
    (account : t.peerAccountId = accountId) (event : t.syncEventId = id) : Forgets s id (.verified accountId)

/-- A statement that neither completes a message, nor deletes a conversation, nor ends a deletion. -/
def Statement.LeavesRow : Statement → Prop
  | .completed .. | .deleted _ | .verified _ => False
  | _ => True

namespace Persisted

variable {s s' : Persisted} {id : String}

theorem holds_raise {i : String} {status : MessageStatus} {p : ChatMessage → Bool} (h : s.Holds id) :
    (s.raise i status p).Holds id := by
  unfold Persisted.raise
  split <;> exact h

theorem outbox_complete (i : String) (n : Nat) :
    (s.complete i n).outbox = s.outbox ∨ (s.complete i n).outbox = (s.removeOutbox i).outbox := by
  have hraise : ∀ s : Persisted, (s.raise i .sent fun _ => true).outbox = s.outbox := by
    intro s
    unfold Persisted.raise
    split <;> rfl
  unfold Persisted.complete
  by_cases hn : 1 ≤ n
  · refine .inr ?_
    rw [if_pos hn]
    dsimp only
    split
    · rw [hraise]
      split <;> rfl
    · split <;> rfl
  · refine .inl ?_
    rw [if_neg hn, if_neg (by omega), if_neg (by omega)]

theorem Holds.complete {i : String} {n : Nat} (h : s.Holds id) : (s.complete i n).Holds id ∨ i = id := by
  by_cases hi : i = id
  · exact .inr hi
  obtain ⟨row, hrow, hid⟩ := h
  refine .inl ⟨row, ?_, hid⟩
  rcases s.outbox_complete i n with houtbox | houtbox
  · rw [houtbox]
    exact hrow
  · rw [houtbox]
    exact Table.mem_delete.2 ⟨hrow, decide_eq_false fun heq => hi (heq.symm.trans hid)⟩

theorem Holds.delete {t : ConversationTombstone} (h : s.Holds id) (hs : s.delete t = some s') :
    s'.Holds id ∨ ∃ m ∈ s.messages, m.id = id ∧ m.conversationId = t.conversationId := by
  obtain ⟨-, hs'⟩ := Option.ite_none_left_eq_some.1 hs
  cases hs'
  obtain ⟨row, hrow, hid⟩ := h
  by_cases hany : (s.messages.rows.any fun m =>
      m.conversationId = t.conversationId && m.id = row.logicalMessageId) = true
  · obtain ⟨m, hm, hp⟩ := List.any_eq_true.1 hany
    rw [Bool.and_eq_true, decide_eq_true_eq, decide_eq_true_eq] at hp
    exact .inr ⟨m, hm, hp.2.trans hid, hp.1⟩
  · exact .inl ⟨row, Table.mem_delete.2 ⟨hrow, Bool.eq_false_iff.2 hany⟩, hid⟩

theorem Holds.verify {accountId : String} (h : s.Holds id) :
    (s.verify accountId).Holds id ∨ ∃ t ∈ s.tombstones, t.peerAccountId = accountId ∧ t.syncEventId = id := by
  obtain ⟨row, hrow, hid⟩ := h
  by_cases hany : (s.tombstones.rows.any fun t =>
      t.peerAccountId = accountId && t.syncEventId = row.logicalMessageId) = true
  · obtain ⟨t, ht, hp⟩ := List.any_eq_true.1 hany
    rw [Bool.and_eq_true, decide_eq_true_eq, decide_eq_true_eq] at hp
    exact .inr ⟨t, ht, hp.1, hp.2.trans hid⟩
  · exact .inl ⟨row, Table.mem_delete.2 ⟨hrow, Bool.eq_false_iff.2 hany⟩, hid⟩

/-- An ordinary statement keeps the row, but for deletions and verifications. -/
theorem Holds.statement {st : Statement} (h : s.Holds id) (hs : st.run s = some s') (hleaves : st.LeavesRow) :
    s'.Holds id := by
  cases st with
  | written m row =>
    obtain ⟨-, hs'⟩ := Option.ite_none_right_eq_some.1 hs
    cases hs'
    exact holds_offer.2 (.inr h)
  | queued row =>
    obtain ⟨-, hs'⟩ := Option.ite_none_right_eq_some.1 hs
    cases hs'
    exact holds_offer.2 (.inr h)
  | received m =>
    obtain ⟨-, hs'⟩ := Option.ite_none_right_eq_some.1 hs
    cases hs'
    exact h
  | imported m =>
    cases hs
    exact h
  | raised i status p =>
    cases hs
    exact holds_raise h
  | synced i =>
    cases hs
    exact h
  | completed | deleted | verified => exact hleaves.elim

end Persisted

/-- What a change of an action leaves of a row of the outbox. -/
theorem Change.Of.holds {a : Action} {s s' : Ledger P} {c : Change P} {id : String} (hc : c.Of env a s)
    (hs : c.run s = some s') (h : s.tables.Holds id) :
    s'.tables.Holds id ∨ (∃ n, c = .completed id n) ∨ c.Forgets s id := by
  obtain ⟨s₁, hs₁, rfl⟩ := Change.run_eq hs
  show s₁.tables.Holds id ∨ _
  have stated : ∀ (st : Statement), s.statement st = some s₁ → st.LeavesRow → s₁.tables.Holds id := by
    intro st hst hleaves
    obtain ⟨tables, htables, rfl⟩ := Ledger.statement_eq hst
    exact h.statement htables hleaves
  have deleted : ∀ (t : ConversationTombstone) (s₂ : Ledger P), s.delete t = some s₂ →
      s₂.tables.Holds id ∨ ∃ m ∈ s.tables.messages, m.id = id ∧ m.conversationId = t.conversationId :=
    fun t s₂ hst => h.delete (Ledger.delete_eq hst).1
  cases c with
  | saved | restarted | noted n | answered n | answeredBy o n | marked id state read now | dismissed n now
  | seen id now | unnoted id =>
    cases hs₁
    exact .inl h
  | stated st =>
    refine .inl (stated st hs₁ ?_)
    cases st with
    | completed | deleted | verified => exact hc.elim False.elim False.elim
    | _ => exact True.intro
  | announced t row => exact .inl (stated (.queued row) hs₁ True.intro)
  | unaddressed i => exact .inl (stated (.synced i) hs₁ True.intro)
  | completed i n =>
    obtain ⟨tables, htables, rfl⟩ := Ledger.statement_eq hs₁
    cases htables
    rcases h.complete (i := i) (n := n) with hholds | rfl
    · exact .inl hholds
    · exact .inr (.inl ⟨n, rfl⟩)
  | verified accountId =>
    obtain ⟨tables, htables, rfl⟩ := Ledger.statement_eq hs₁
    cases htables
    rcases h.verify with hholds | ⟨t, ht, haccount, hevent⟩
    · exact .inl hholds
    · exact .inr (.inr (.verified ht haccount hevent))
  | deletedHere t =>
    rcases deleted t s₁ hs₁ with hholds | ⟨m, hm, hid, hconversation⟩
    · exact .inl hholds
    · exact .inr (.inr (.deletedHere hm hid hconversation))
  | processed o branch =>
    obtain ⟨s₂, hs₂, rfl⟩ := Option.map_eq_some_iff.1 hs₁
    show s₂.tables.Holds id ∨ _
    cases branch with
    | control | suppressed =>
      cases hs₂
      exact .inl h
    | received =>
      obtain ⟨tables, htables, rfl⟩ := Ledger.statement_eq hs₂
      exact .inl (h.statement htables True.intro)
    | quarantined n =>
      have hs₂ : (s.statement (.received (o.message o.stored.senderAccountId true))).map (fun s' => s'.note n) =
        some s₂ := hs₂
      obtain ⟨s₃, hs₃, rfl⟩ := Option.map_eq_some_iff.1 hs₂
      obtain ⟨tables, htables, rfl⟩ := Ledger.statement_eq hs₃
      exact .inl (h.statement htables True.intro)
    | deleted =>
      rcases deleted o.tombstone s₂ hs₂ with hholds | ⟨m, hm, hid, hconversation⟩
      · exact .inl hholds
      · exact .inr (.inr (.deleted hm hid hconversation))

namespace Courier

variable {s : Courier P}

/-- What the client makes of an action that is no event of the server. -/
def acted (env : Environment) (s : Courier P) (action : Action) : Courier P :=
  { s with client := s.client.after env action, handed := s.handed ++ s.client.handed env action }

/-- A frame that the client has handed over arrives, and is served to its end. -/
theorem served_reachable (h : (courierSystem env senv profile).Reachable s) {t : Nat} {f : Frame} (hf : f ∈ s.handed) :
    (courierSystem env senv profile).Reachable { s with server := s.server.served senv P t (.binary (.ok f)) } := by
  unfold Cluster.served
  split
  · next hw =>
    obtain ⟨n, hn⟩ := Pool.exists_advance_start (Ws.serve senv P t (.binary (.ok f))) s.server t
    rw [← hn]
    clear hn
    induction n with
    | zero =>
      exact .step (i := .server (.incoming t (.binary (.ok f)))) h trivial (.server (fun _ _ _ => hf) (if_pos hw))
    | succ n ih =>
      rw [Function.iterate_succ_apply']
      generalize (fun q => q.advance t)^[n] (s.server.start t (Ws.serve senv P t (.binary (.ok f)))) = q at ih ⊢
      cases hq : q.tasks t with
      | none => rwa [Pool.advance_of_none hq]
      | some m =>
        refine .step (i := .server (.advance t)) ih trivial (.server True.intro ?_)
        show Cluster.step senv P q (.advance t) = _
        simp [Cluster.step, hq]
  · exact h

end Courier

namespace Scenario.Carried

open Courier

def carol : RuntimeProfile primitives := { firstDevice (uuid '7') (uuid 'c') 3 4 with username := "carol" }

/-- The bundles of Alice and Carol, and UUIDs that end in a number of two digits. -/
def outside : Environment :=
  { environment (fun _ =>
      [{ bundle (uuid '1') 1 [(uuid 'a', 2)] with username := "alice" },
        { bundle (uuid '7') 3 [(uuid 'c', 4)] with username := "carol" }]) [] with
    uuid := fun n => ("00000000-0000-4000-8000-0000000000".push (Char.ofNat (48 + n / 10 % 10))).push
      (Char.ofNat (48 + n % 10)) }

def connected : Courier primitives where
  server := clusterAfter correspondents
  client := .ofProfile carol
  tokens := [1]
  handed := []

/-- Carol verifies Alice, and writes to her. -/
def written : Courier primitives :=
  (((connected.acted outside (.openContact "alice")).acted outside (.selectIndex 0)).acted outside
    .verifySelected).acted outside (.sendText "hello")

def letter : Frame := written.handed.getLast?.getD (frame "" .operationOk)

def taken : Courier primitives :=
  { written with server := written.server.served server primitives 1 (.binary (.ok letter)) }

def acceptance : Frame := (taken.server.shared.out.getLast?.map Prod.snd).getD (frame "" .operationOk)

/-- Carol's device handles the acceptance. -/
def accepted : Courier primitives := taken.acted outside (.serverEvent acceptance)

def messageId : String := "00000000-0000-4000-8000-000000000011"

end Scenario.Carried

end TuiChat
