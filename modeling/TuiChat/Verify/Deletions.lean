import TuiChat.Client.Stages
import TuiChat.Verify.Scenario

/-!
# What a deletion takes

The event of another device's deletion takes every message of the conversation that is stored here, and while its
tombstone stays, a text of an own device in the conversation is ignored as an old one; the time of the deletion is
compared with neither. Where the stored messages and the ignored texts are not later than the deletion, no later
message is lost (`deletions_take_older`).
-/

namespace TuiChat

open Lib
open Lib.Prog (Moves wp)

variable {P : Primitives} {env : Environment}

/-- Stored messages stay with their conversation, and no tombstone is new. -/
structure Persisted.Retains (s s' : Persisted) : Prop where
  messages : ∀ m ∈ s.messages, ∃ m' ∈ s'.messages, m'.id = m.id ∧ m'.conversationId = m.conversationId
  tombstones : ∀ t ∈ s'.tombstones, ∃ t' ∈ s.tombstones,
    t'.peerAccountId = t.peerAccountId ∧ t'.deletedAtMs = t.deletedAtMs

namespace Persisted.Retains

variable {s s' : Persisted}

theorem of_eq (hmessages : s'.messages = s.messages) (htombstones : s'.tombstones = s.tombstones) : s.Retains s' where
  messages m hm := ⟨m, hmessages ▸ hm, rfl, rfl⟩
  tombstones t ht := ⟨t, htombstones ▸ ht, rfl, rfl⟩

theorem insert (s : Persisted) (m : ChatMessage) : s.Retains (s.insert m) where
  messages old hold := ⟨old, Table.mem_insertOrIgnore_of_mem hold, rfl, rfl⟩
  tombstones t ht := ⟨t, ht, rfl, rfl⟩

theorem raise (s : Persisted) (id : String) (status : MessageStatus) (p : ChatMessage → Bool) :
    s.Retains (s.raise id status p) := by
  unfold Persisted.raise
  split
  · refine ⟨fun m hm => ?_, fun t ht => ⟨t, ht, rfl, rfl⟩⟩
    refine ⟨_, Table.mem_update_of_mem (Store.status_id status) hm, ?_⟩
    split
    · exact ⟨rfl, rfl⟩
    · exact ⟨rfl, rfl⟩
  · exact .of_eq rfl rfl

theorem markSynced (s : Persisted) (id : String) : s.Retains (s.markSynced id) := by
  refine ⟨fun m hm => ⟨m, hm, rfl, rfl⟩, fun t ht => ?_⟩
  obtain ⟨old, hold, rfl⟩ := (Table.mem_update Store.synced_peerAccountId).1 ht
  refine ⟨old, hold, ?_⟩
  split
  · exact ⟨rfl, rfl⟩
  · exact ⟨rfl, rfl⟩

end Persisted.Retains

theorem Persisted.delete_messages {s s' : Persisted} {t : ConversationTombstone} (h : s.delete t = some s') :
    s'.messages = s.messages.delete fun m => m.conversationId = t.conversationId := by
  unfold Persisted.delete at h
  split at h
  · cases h
  · cases h
    rfl

/-- A message that came in an envelope is stored beside the others. -/
theorem received_tables {s s' : Ledger P} {m : ChatMessage} (h : s.statement (.received m) = some s') :
    s'.tables = s.tables.insert m ∧ s'.processed = s.processed := by
  obtain ⟨tables, htables, rfl⟩ := Ledger.statement_eq h
  unfold Statement.run at htables
  dsimp only at htables
  split at htables
  · cases htables
    exact ⟨rfl, rfl⟩
  · cases htables

/-- The changes that any method may make take no message. -/
theorem Change.Basic.retains {s s' : Ledger P} {c : Change P} (hc : c.Basic env s) (hs : c.run s = some s') :
    s.tables.Retains s'.tables ∧ s'.processed = s.processed := by
  obtain ⟨s₁, hs₁, rfl⟩ := Change.run_eq hs
  show s.tables.Retains s₁.tables ∧ s₁.processed = s.processed
  cases c with
  | saved | restarted | noted n | marked id state read now | seen id now | unnoted id =>
    cases hs₁
    exact ⟨.of_eq rfl rfl, rfl⟩
  | stated st =>
    obtain ⟨tables, htables, rfl⟩ := Ledger.statement_eq hs₁
    refine ⟨?_, rfl⟩
    cases st with
    | written m row =>
      unfold Statement.run at htables
      dsimp only at htables
      split at htables
      · cases htables
        have hinsert := Persisted.Retains.insert s.tables m
        exact ⟨hinsert.messages, hinsert.tombstones⟩
      · cases htables
    | queued row =>
      unfold Statement.run at htables
      dsimp only at htables
      split at htables
      · cases htables
        exact .of_eq rfl rfl
      · cases htables
    | imported m =>
      cases htables
      exact .insert s.tables m
    | raised id status p =>
      cases htables
      exact .raise s.tables id status p
    | received | completed | synced | deleted | verified => exact hc.elim
  | announced t row =>
    obtain ⟨tables, htables, rfl⟩ := Ledger.statement_eq hs₁
    unfold Statement.run at htables
    dsimp only at htables
    split at htables
    · cases htables
      exact ⟨.of_eq rfl rfl, rfl⟩
    · cases htables
  | unaddressed id =>
    obtain ⟨tables, htables, rfl⟩ := Ledger.statement_eq hs₁
    cases htables
    exact ⟨.markSynced s.tables id, rfl⟩
  | completed | deletedHere | verified | processed | answered | answeredBy | dismissed => exact hc.elim

/-! ## An envelope -/

/-- The changes that the handling of an opened envelope may make. -/
def Change.For (env : Environment) (o : Opened P) (s : Ledger P) (c : Change P) : Prop :=
  c.Basic env s ∨ match c with
  | .processed o' branch => o' = o ∧ branch.Of s o
  | .answeredBy o' _ => o' = o
  | _ => False

instance (o : Opened P) : Admits env (Change.For env o) := ⟨fun _ _ => .inl⟩

/-- Without being opened, an envelope changes nothing. -/
theorem handleEnvelope_unopened {stored : StoredEnvelope} {w : World P}
    (h : ((openEnvelope env stored).exec w).1.toOption = none) (past : List (Change P)) :
    (World.ledger ((handleEnvelope env stored).exec w).2 past) = w.ledger past := by
  have hopen : Alters (fun _ _ => False) (openEnvelope env stored : ClientM P (Opened P)) := openEnvelope_alters stored
  have hmoved : Changes (fun _ _ => False) w ((openEnvelope env stored).exec w).2 := hopen w
  unfold handleEnvelope
  rw [Prog.exec_bind]
  cases hexec : (openEnvelope env stored).exec w with
  | mk result w' =>
    rw [hexec] at h hmoved
    cases result with
    | ok => cases h
    | error => exact hmoved.unmoved past

theorem handleEnvelope_for {stored : StoredEnvelope} {w : World P} {o : Opened P}
    (h : ((openEnvelope env stored).exec w).1.toOption = some o) :
    Changes (Change.For env o) w ((handleEnvelope env stored).exec w).2 := by
  refine Prog.wp_state.1 (wp_handleEnvelope (Prog.wp_iff.2 ⟨fun o' w' hexec => ?_, fun _ _ _ => trivial⟩))
  rw [hexec] at h
  cases h
  exact ⟨fun s branch hbranch => .inr ⟨rfl, hbranch⟩, fun past n _ => .inr rfl⟩

/-- The event of an own device deletes the conversation of the message. -/
def Opened.Deletes (o : Opened P) (m : ChatMessage) : Prop :=
  o.payload.kind = "conversation_deleted" ∧ o.senderIsSelf = true ∧ m.conversationId = o.envelope.conversationId

/-- Every message is still stored, or was of the conversation that the envelope deletes. -/
def Ledger.Keeping (w : World P) (o : Opened P) (s : Ledger P) : Prop :=
  ∀ m ∈ w.store.messages, (∃ m' ∈ s.tables.messages, m'.id = m.id ∧ m'.conversationId = m.conversationId) ∨ o.Deletes m

theorem Ledger.Keeping.of_retains {w : World P} {o : Opened P} {s s' : Ledger P} (h : s.Keeping w o)
    (hretains : s.tables.Retains s'.tables) : s'.Keeping w o := by
  intro m hm
  rcases h m hm with ⟨m', hm', hid, hconversation⟩ | hdeletes
  · obtain ⟨m'', hm'', hid', hconversation'⟩ := hretains.messages m' hm'
    exact .inl ⟨m'', hm'', hid'.trans hid, hconversation'.trans hconversation⟩
  · exact .inr hdeletes

theorem Ledger.Keeping.run {w : World P} {o : Opened P} {s s' : Ledger P} {c : Change P} (h : s.Keeping w o)
    (hc : c.For env o s) (hs : c.run s = some s') : s'.Keeping w o := by
  rcases hc with hbasic | hc
  · exact h.of_retains (hbasic.retains hs).1
  · obtain ⟨s₁, hs₁, rfl⟩ := Change.run_eq hs
    cases c with
    | answeredBy o' n =>
      cases hs₁
      exact h
    | processed o' branch =>
      obtain ⟨rfl, hbranch⟩ := hc
      obtain ⟨s₂, hs₂, rfl⟩ := Option.map_eq_some_iff.1 hs₁
      cases branch with
      | control | suppressed =>
        cases hs₂
        exact h
      | received =>
        have hinsert : s.tables.Retains s₂.tables := by
          rw [(received_tables hs₂).1]
          exact .insert s.tables _
        exact h.of_retains hinsert
      | quarantined n =>
        have hs₂ : (s.statement (.received (o'.message o'.stored.senderAccountId true))).map (fun s' => s'.note n) =
          some s₂ := hs₂
        obtain ⟨s₃, hs₃, rfl⟩ := Option.map_eq_some_iff.1 hs₂
        have hinsert : s.tables.Retains s₃.tables := by
          rw [(received_tables hs₃).1]
          exact .insert s.tables _
        exact h.of_retains hinsert
      | deleted =>
        intro m hm
        rcases h m hm with ⟨m', hm', hid, hconversation⟩ | hdeletes
        · by_cases hsame : m.conversationId = o'.envelope.conversationId
          · exact .inr ⟨hbranch.1, hbranch.2, hsame⟩
          · refine .inl ⟨m', ?_, hid, hconversation⟩
            rw [Persisted.delete_messages (Ledger.delete_eq hs₂).1]
            refine Table.mem_delete.2 ⟨hm', ?_⟩
            rw [hconversation]
            exact decide_eq_false hsame
        · exact .inr hdeletes
    | _ => exact hc.elim

/-! ## A text that is ignored -/

/-- The envelopes that the client has processed. -/
def World.handled (w : World P) : List (Nat × String) := w.log.filterMap Event.handledEnvelope

/-- Until the text is processed the tombstones are those there were; then it is stored, unless it is one of an own
device and the conversation has a tombstone. -/
structure Ledger.Settling (w : World P) (o : Opened P) (s : Ledger P) : Prop where
  tombstones : ∀ t ∈ s.tables.tombstones, ∃ t' ∈ w.store.tombstones,
    t'.peerAccountId = t.peerAccountId ∧ t'.deletedAtMs = t.deletedAtMs
  settled : s.processed = w.handled ∨ (∃ m ∈ s.tables.messages, m.id = o.payload.messageId) ∨
    o.senderIsSelf = true ∧ ∃ t ∈ w.store.tombstones, t.peerAccountId = o.peer

namespace Ledger.Settling

variable {w : World P} {o : Opened P} {s s' : Ledger P}

theorem of_retains (h : s.Settling w o) (hretains : s.tables.Retains s'.tables) (hsame : s'.processed = s.processed) :
    s'.Settling w o where
  tombstones t ht := by
    obtain ⟨t', ht', hpeer, htime⟩ := hretains.tombstones t ht
    obtain ⟨t'', ht'', hpeer', htime'⟩ := h.tombstones t' ht'
    exact ⟨t'', ht'', hpeer'.trans hpeer, htime'.trans htime⟩
  settled := by
    rw [hsame]
    rcases h.settled with hsame | ⟨m, hm, hid⟩ | hold
    · exact .inl hsame
    · obtain ⟨m', hm', hid', -⟩ := hretains.messages m hm
      exact .inr (.inl ⟨m', hm', hid'.trans hid⟩)
    · exact .inr (.inr hold)

/-- A text is settled where it is stored. -/
theorem stored (h : s.Settling w o) {m : ChatMessage} (hid : m.id = o.payload.messageId)
    (htables : s'.tables = s.tables.insert m) : s'.Settling w o where
  tombstones t ht := by
    rw [htables] at ht
    exact h.tombstones t ht
  settled := by
    obtain ⟨m', hm', hid'⟩ : ∃ m' ∈ s'.tables.messages, m'.id = m.id := by
      rw [htables]
      by_cases hnew : ∀ old ∈ s.tables.messages, old.id ≠ m.id
      · exact ⟨m, Table.mem_insertOrIgnore.2 (.inr ⟨rfl, hnew⟩), rfl⟩
      · push Not at hnew
        obtain ⟨old, hold, hsame⟩ := hnew
        exact ⟨old, Table.mem_insertOrIgnore_of_mem hold, hsame⟩
    exact .inr (.inl ⟨m', hm', hid'.trans hid⟩)

theorem run {c : Change P} (h : s.Settling w o) (htext : o.payload.kind = "text") (hc : c.For env o s)
    (hs : c.run s = some s') : s'.Settling w o := by
  rcases hc with hbasic | hc
  · obtain ⟨hretains, hsame⟩ := hbasic.retains hs
    exact h.of_retains hretains hsame
  · obtain ⟨s₁, hs₁, rfl⟩ := Change.run_eq hs
    cases c with
    | answeredBy o' n =>
      cases hs₁
      exact ⟨h.tombstones, h.settled⟩
    | processed o' branch =>
      obtain ⟨rfl, hbranch⟩ := hc
      obtain ⟨s₂, hs₂, rfl⟩ := Option.map_eq_some_iff.1 hs₁
      cases branch with
      | control => exact absurd htext hbranch.1
      | suppressed =>
        cases hs₂
        obtain ⟨t, ht, hpeer⟩ := hbranch.2.2
        obtain ⟨t', ht', hpeer', -⟩ := h.tombstones t ht
        exact ⟨h.tombstones, .inr (.inr ⟨hbranch.2.1, t', ht', hpeer'.trans hpeer⟩)⟩
      | received => exact h.stored (by rfl) (received_tables hs₂).1
      | quarantined n =>
        have hs₂ : (s.statement (.received (o'.message o'.stored.senderAccountId true))).map (fun s' => s'.note n) =
          some s₂ := hs₂
        obtain ⟨s₃, hs₃, rfl⟩ := Option.map_eq_some_iff.1 hs₂
        exact h.stored (by rfl) (received_tables hs₃).1
      | deleted =>
        rw [hbranch.1] at htext
        exact absurd htext (by decide)
    | _ => exact hc.elim

end Ledger.Settling

/-! ## Runs -/

/-- A deletion is not of a message that was sent later, and no text is later than the deletion for which it is
ignored. -/
structure Stage.InTime (env : Environment) (stage : Stage P) : Prop where
  deleted : ∀ o, stage.opened env = some o → ∀ m ∈ stage.before.store.messages, o.Deletes m →
    m.sentAtMs ≤ o.payload.sentAtMs
  ignored : ∀ o, stage.opened env = some o → o.payload.kind = "text" → o.senderIsSelf = true →
    ∀ t ∈ stage.before.store.tombstones, t.peerAccountId = o.peer → o.payload.sentAtMs ≤ t.deletedAtMs

instance (o : Opened P) (m : ChatMessage) : Decidable (o.Deletes m) := by
  unfold Opened.Deletes
  infer_instance

instance (stage : Stage P) : Decidable (stage.InTime env) :=
  decidable_of_iff ((∀ o ∈ stage.opened env, ∀ m ∈ stage.before.store.messages.rows, o.Deletes m →
      m.sentAtMs ≤ o.payload.sentAtMs) ∧
    ∀ o ∈ stage.opened env, o.payload.kind = "text" → o.senderIsSelf = true →
      ∀ t ∈ stage.before.store.tombstones.rows, t.peerAccountId = o.peer → o.payload.sentAtMs ≤ t.deletedAtMs)
    ⟨fun h => ⟨h.1, h.2⟩, fun h => ⟨h.deleted, h.ignored⟩⟩

/-- What an envelope takes of the stored messages is of the conversation that it deletes, and not later than the
deletion; a text that is processed and not stored is not later than the deletion of its conversation. -/
structure Stage.TakesOlder (env : Environment) (stage : Stage P) : Prop where
  deleted : ∀ stored, stage.cause = .envelope stored → ∀ m ∈ stage.before.store.messages,
    (∀ m' ∈ stage.after.store.messages, m'.id ≠ m.id) →
      ∃ o, stage.opened env = some o ∧ o.Deletes m ∧ m.sentAtMs ≤ o.payload.sentAtMs
  ignored : ∀ o, stage.opened env = some o → o.payload.kind = "text" → stage.after.handled ≠ stage.before.handled →
    (∀ m ∈ stage.after.store.messages, m.id ≠ o.payload.messageId) →
      ∃ t ∈ stage.before.store.tombstones, t.peerAccountId = o.peer ∧ o.payload.sentAtMs ≤ t.deletedAtMs

theorem envelope_takesOlder {stored : StoredEnvelope} {w : World P}
    (h : Stage.InTime env ⟨.envelope stored, w, ((handleEnvelope env stored).exec w).2⟩) :
    Stage.TakesOlder env ⟨.envelope stored, w, ((handleEnvelope env stored).exec w).2⟩ := by
  constructor
  · intro _ _ m hm hgone
    cases hopened : ((openEnvelope env stored).exec w).1.toOption with
    | none =>
      have hsame := handleEnvelope_unopened hopened []
      have hmessages : ((handleEnvelope env stored).exec w).2.store.messages = w.store.messages :=
        congrArg (fun s : Ledger P => s.tables.messages) hsame
      exact absurd rfl (hgone m (hmessages ▸ hm))
    | some o =>
      have hstart : (w.ledger []).Keeping w o := fun m hm => .inl ⟨m, hm, rfl, rfl⟩
      obtain ⟨past, hkeeping⟩ := (handleEnvelope_for hopened).invariant (I := fun s => s.Keeping w o) [] hstart
        fun _ _ _ hs hc hrun => hs.run hc hrun
      rcases hkeeping m hm with ⟨m', hm', hid, -⟩ | hdeletes
      · exact absurd hid (hgone m' hm')
      · exact ⟨o, hopened, hdeletes, h.deleted o hopened m hm hdeletes⟩
  · intro o hopened htext hhandled hmissing
    have hstart : (w.ledger []).Settling w o := ⟨fun t ht => ⟨t, ht, rfl, rfl⟩, .inl rfl⟩
    obtain ⟨past, hsettling⟩ := (handleEnvelope_for hopened).invariant (I := fun s => s.Settling w o) [] hstart
      fun _ _ _ hs hc hrun => hs.run htext hc hrun
    rcases hsettling.settled with hsame | ⟨m, hm, hid⟩ | ⟨hself, t, ht, hpeer⟩
    · exact absurd hsame hhandled
    · exact absurd hid (hmissing m hm)
    · exact ⟨t, ht, hpeer, h.ignored o hopened htext hself t ht hpeer⟩

/-- What brings no envelope loses no message to a deletion of another device. -/
theorem action_takesOlder {stage : Stage P} {action : Action} (hcause : stage.cause = .action action) :
    stage.TakesOlder env where
  deleted stored h := by
    rw [hcause] at h
    cases h
  ignored o h := by
    unfold Stage.opened at h
    rw [hcause] at h
    cases h

/-- In every run in which the messages that are deleted and ignored are in time, no later message was lost to a
deletion. -/
theorem deletions_take_older {profile : RuntimeProfile P} {s : World P × List (Stage P)}
    (h : (stagedSystem env profile).ReachableUnder
      (fun s action => ∀ stage ∈ stages env action s.1, stage.InTime env) s) :
    ∀ stage ∈ s.2, stage.TakesOlder env := by
  refine staged_all h fun s action hguard stage hstage => ?_
  have hintime := hguard stage hstage
  obtain ⟨hof, -⟩ := stages_invariant (I := fun _ => True) trivial (fun _ _ _ => trivial) stage hstage
  cases hof with
  | envelope _ _ w => exact envelope_takesOlder hintime
  | whole | opening | closing => exact action_takesOlder rfl

namespace Scenario.Deletions

def alice : RuntimeProfile primitives := firstDevice "alice" "a1" 1 2

/-- What Alice writes to Bob on her other device. -/
def note (sentAtMs : Int) : WirePayload := { payload "text" "m" "alice" "bob" "hello" [] with sentAtMs }

/-- Her other device has deleted the conversation. -/
def deletion (sentAtMs : Int) : WirePayload :=
  { payload "conversation_deleted" "d" "alice" "bob" "bob" [] with sentAtMs }

def outside : Environment :=
  environment (fun _ => [bundle "alice" 1 [("a1", 2), ("a2", 3)], bundle "bob" 5 [("b1", 6)]])
    [note 10, deletion 5, deletion 20]

/-- Two payloads come, one after the other. -/
def arrival (first second : WirePayload) : Action :=
  let conversation := conversationId primitives.sha256 "alice" "bob"
  .serverEvent (batch [envelope 1 "a2" conversation 3 "a1" first, envelope 2 "a2" conversation 3 "a1" second])

def stagesOf (first second : WirePayload) : List (Stage primitives) :=
  stages outside (arrival first second) (.ofProfile alice)

theorem reachable_stagesOf (first second : WirePayload) :
    (stagedSystem outside alice).Reachable ((World.ofProfile alice).after outside (arrival first second),
      stagesOf first second) :=
  .step (.init rfl) trivial (congrArg _ (List.append_nil _).symm)

/-- A message is gone that is later than the payload that came. -/
def deletesLater (stage : Stage primitives) : Bool :=
  stage.sender.isSome && (stage.opened outside).any fun o => stage.before.store.messages.rows.any fun m =>
    (stage.after.store.messages.find m.id).isNone && o.payload.sentAtMs < m.sentAtMs

/-- A text is processed and not stored that is later than every deletion. -/
def ignoresLater (stage : Stage primitives) : Bool :=
  (stage.opened outside).any fun o => o.payload.kind = "text" && stage.after.handled ≠ stage.before.handled &&
    (stage.after.store.messages.find o.payload.messageId).isNone &&
    stage.before.store.tombstones.rows.all fun t => t.deletedAtMs < o.payload.sentAtMs

theorem not_takesOlder_of_deletesLater {stage : Stage primitives} (h : deletesLater stage = true) :
    ¬stage.TakesOlder outside := by
  intro htakes
  obtain ⟨hsender, hany⟩ := Bool.and_eq_true_iff.1 h
  obtain ⟨o, hopened, hany⟩ := (Option.any_eq_true _ _).1 hany
  obtain ⟨m, hm, hboth⟩ := List.any_eq_true.1 hany
  obtain ⟨hgone, hlater⟩ := Bool.and_eq_true_iff.1 hboth
  cases hcause : stage.cause with
  | action a =>
    unfold Stage.sender at hsender
    rw [hcause] at hsender
    cases hsender
  | envelope stored =>
    obtain ⟨o', hopened', -, hintime⟩ := htakes.deleted stored hcause m hm
      (Table.find_eq_none.1 (Option.isNone_iff_eq_none.1 hgone))
    cases hopened.symm.trans hopened'
    exact absurd hintime (not_le.2 (of_decide_eq_true hlater))

theorem not_takesOlder_of_ignoresLater {stage : Stage primitives} (h : ignoresLater stage = true) :
    ¬stage.TakesOlder outside := by
  intro htakes
  obtain ⟨o, hopened, hall⟩ := (Option.any_eq_true _ _).1 h
  obtain ⟨hall, hlater⟩ := Bool.and_eq_true_iff.1 hall
  obtain ⟨hall, hmissing⟩ := Bool.and_eq_true_iff.1 hall
  obtain ⟨htext, hhandled⟩ := Bool.and_eq_true_iff.1 hall
  obtain ⟨t, ht, -, hintime⟩ := htakes.ignored o hopened (of_decide_eq_true htext) (of_decide_eq_true hhandled)
    (Table.find_eq_none.1 (Option.isNone_iff_eq_none.1 hmissing))
  exact absurd hintime (not_le.2 (of_decide_eq_true (List.all_eq_true.1 hlater t ht)))

/-- A text that was written after a deletion is deleted when the deletion comes late, and ignored when it comes itself
late. -/
theorem later_text_lost :
    (∃ s, (stagedSystem outside alice).Reachable s ∧ s.2 = stagesOf (note 10) (deletion 5) ∧
        ¬∀ stage ∈ s.2, stage.TakesOlder outside) ∧
      ∃ s, (stagedSystem outside alice).Reachable s ∧ s.2 = stagesOf (deletion 5) (note 10) ∧
        ¬∀ stage ∈ s.2, stage.TakesOlder outside := by
  refine ⟨⟨_, reachable_stagesOf _ _, rfl, fun htakes => ?_⟩, ⟨_, reachable_stagesOf _ _, rfl, fun htakes => ?_⟩⟩
  · have hlost : (stagesOf (note 10) (deletion 5)).any deletesLater = true := by decide +kernel
    obtain ⟨stage, hstage, hdeletes⟩ := List.any_eq_true.1 hlost
    exact not_takesOlder_of_deletesLater hdeletes (htakes stage hstage)
  · have hlost : (stagesOf (deletion 5) (note 10)).any ignoresLater = true := by decide +kernel
    obtain ⟨stage, hstage, hignores⟩ := List.any_eq_true.1 hlost
    exact not_takesOlder_of_ignoresLater hignores (htakes stage hstage)

/-- The deletion of the other device is the later one. -/
theorem earlier_text_deleted :
    ((World.ofProfile alice).after outside (arrival (note 10) (deletion 20))).store.messages.rows = [] ∧
      ∀ stage ∈ stagesOf (note 10) (deletion 20), stage.TakesOlder outside := by
  have hintime : ∀ stage ∈ stagesOf (note 10) (deletion 20), stage.InTime outside := by decide +kernel
  have hrun : (stagedSystem outside alice).ReachableUnder
      (fun s action => ∀ stage ∈ stages outside action s.1, stage.InTime outside)
      ((World.ofProfile alice).after outside (arrival (note 10) (deletion 20)), stagesOf (note 10) (deletion 20)) :=
    .step (.init rfl) hintime (congrArg _ (List.append_nil _).symm)
  exact ⟨by decide +kernel, deletions_take_older hrun⟩

end Scenario.Deletions

end TuiChat
