import TuiChat.Client.Batches
import TuiChat.Client.LedgerSteps

/-!
# The parts of an action

A batch is handled envelope by envelope, each in a transaction of its own. `stages` lists what an action does in the
order in which it does it, with the states before and after: an envelope of a batch is a stage, and so is what the
batch does before and after its envelopes; every other action is one stage. They lead from the state before the
action to the one after it (`stages_lead`), and each takes the ledger along changes of the action
(`Stage.Of.changes`).
-/

namespace TuiChat

open Lib
open Lib.Prog (Moves wp)

variable {P : Primitives}

/-- What a stage handles. -/
inductive Cause
  | action (action : Action)
  | envelope (stored : StoredEnvelope)

structure Stage (P : Primitives) where
  cause : Cause
  before : World P
  after : World P

/-- The stages follow on each other, from one state to another. -/
def Leads : World P → List (Stage P) → World P → Prop
  | w, [], w' => w' = w
  | w, stage :: rest, w' => stage.before = w ∧ Leads stage.after rest w'

variable (env : Environment)

/-- What comes before the envelopes of a batch, with the cursors of the statuses and of the envelopes. -/
def openBatch (f : Frame) (batch : SyncBatch) : ClientM P (Nat × Nat) := do
  receiveSync f
  let (cursor, statusCursor) ← query env fun s => (s.envelopeCursor, s.statusCursor)
  let statusCursor ← applyDeliveryUpdates env batch.deliveryUpdates statusCursor
  pure (statusCursor, cursor)

/-- The stages of a batch from its envelopes on; an error ends it. -/
def envelopeStages (action : Action) (finish : Nat → ClientM P Unit) :
    List StoredEnvelope → Nat → World P → List (Stage P)
  | [], cursor, w => [⟨.action action, w, ((finish cursor).exec w).2⟩]
  | stored :: rest, cursor, w =>
    if stored.cursor ≤ cursor then envelopeStages action finish rest cursor w
    else ⟨.envelope stored, w, ((handleEnvelope env stored).exec w).2⟩ ::
      match (handleEnvelope env stored).exec w with
      | (.ok _, w') => envelopeStages action finish rest stored.cursor w'
      | (.error _, _) => []

/-- The frame with a batch that an action handles. -/
def Action.syncFrame : Action → Option (Frame × SyncBatch)
  | .serverEvent f =>
    match f.body with
    | some (.syncBatch batch) => some (f, batch)
    | _ => none
  | _ => none

/-- The stages of an action, in order. -/
def stages (action : Action) (w : World P) : List (Stage P) :=
  match action.syncFrame with
  | none => [⟨.action action, w, w.after env action⟩]
  | some (f, batch) =>
    match (openBatch env f batch).exec w with
    | (.ok (statusCursor, cursor), w') => ⟨.action action, w, w'⟩ ::
        envelopeStages env action (finishBatch env batch statusCursor) batch.envelopes cursor w'
    | (.error _, w') => [⟨.action action, w, w'⟩]

variable {env} {action : Action} {w : World P}

theorem Action.syncFrame_eq {f : Frame} {batch : SyncBatch} (h : action.syncFrame = some (f, batch)) :
    action = .serverEvent f ∧ f.body = some (.syncBatch batch) := by
  cases action with
  | serverEvent f' =>
    unfold Action.syncFrame at h
    dsimp only at h
    split at h
    · next batch' hbody =>
      cases h
      exact ⟨rfl, hbody⟩
    · cases h
  | _ => cases h

theorem Action.syncFrame_of {f : Frame} {batch : SyncBatch} (hbody : f.body = some (.syncBatch batch)) :
    (Action.serverEvent f).syncFrame = some (f, batch) := by
  unfold Action.syncFrame
  dsimp only
  rw [hbody]

/-- A batch is what comes before its envelopes, the envelopes, and what comes after them. -/
theorem handleServerEvent_batch {f : Frame} {batch : SyncBatch} (hbody : f.body = some (.syncBatch batch)) :
    (handleServerEvent env f : ClientM P Unit) = openBatch env f batch >>= fun cursors =>
      handleEnvelopes env batch.envelopes cursors.2 >>= finishBatch env batch cursors.1 := by
  unfold handleServerEvent openBatch receiveSync handleSyncFrame handleSyncBatch
  rw [hbody]
  simp only [Prog.bind_assoc]
  refine congrArg (takePending f.id >>= ·) (funext fun pending => congrArg (getApp _ >>= ·) (funext fun awaited => ?_))
  split
  · rfl
  · rfl

theorem envelopeStages_lead {finish : Nat → ClientM P Unit} : ∀ {envelopes : List StoredEnvelope} {cursor : Nat}
    {w : World P}, Leads w (envelopeStages env action finish envelopes cursor w)
      ((handleEnvelopes env envelopes cursor >>= finish).exec w).2 := by
  intro envelopes
  induction envelopes with
  | nil => exact ⟨rfl, rfl⟩
  | cons stored rest ih =>
    intro cursor w
    unfold envelopeStages handleEnvelopes
    by_cases hold : stored.cursor ≤ cursor
    · rw [if_pos hold, if_pos hold]
      exact ih
    · rw [if_neg hold, if_neg hold, Prog.bind_assoc, Prog.exec_bind]
      refine ⟨rfl, ?_⟩
      cases (handleEnvelope env stored).exec w with
      | mk result w' =>
        cases result with
        | ok => exact ih
        | error => rfl

/-- The stages of an action lead from the state before it to the state after it. -/
theorem stages_lead : Leads w (stages env action w) (w.after env action) := by
  unfold stages
  cases hsync : action.syncFrame with
  | none => exact ⟨rfl, rfl⟩
  | some frame =>
    obtain ⟨f, batch⟩ := frame
    obtain ⟨rfl, hbody⟩ := Action.syncFrame_eq hsync
    have hafter : w.after env (.serverEvent f) = ((openBatch env f batch >>= fun cursors =>
        handleEnvelopes env batch.envelopes cursors.2 >>= finishBatch env batch cursors.1).exec w).2 :=
      congrArg (fun m : ClientM P Unit => (m.exec w).2) (handleServerEvent_batch hbody)
    rw [hafter, Prog.exec_bind]
    dsimp only
    cases (openBatch env f batch).exec w with
    | mk result w' =>
      cases result with
      | ok cursors => exact ⟨rfl, envelopeStages_lead⟩
      | error => exact ⟨rfl, rfl⟩

/-! ## What holds of every stage -/

/-- What a stage of an action is. -/
inductive Stage.Of (env : Environment) (action : Action) : Stage P → Prop
  /-- An action that brings no batch. -/
  | whole (hsync : action.syncFrame = none) (w : World P) : Stage.Of env action ⟨.action action, w, w.after env action⟩
  | opening {f : Frame} {batch : SyncBatch} (hsync : action.syncFrame = some (f, batch)) (w : World P) :
    Stage.Of env action ⟨.action action, w, ((openBatch env f batch).exec w).2⟩
  | envelope {f : Frame} {batch : SyncBatch} (hsync : action.syncFrame = some (f, batch)) {stored : StoredEnvelope}
    (hmem : stored ∈ batch.envelopes) (w : World P) :
    Stage.Of env action ⟨.envelope stored, w, ((handleEnvelope env stored).exec w).2⟩
  | closing {f : Frame} {batch : SyncBatch} (hsync : action.syncFrame = some (f, batch)) (statusCursor cursor : Nat)
    (w : World P) :
    Stage.Of env action ⟨.action action, w, ((finishBatch env batch statusCursor cursor).exec w).2⟩

/-- Every stage is one of these, and starts where what each of them keeps still holds. -/
theorem stages_invariant {I : World P → Prop} (hw : I w)
    (hI : ∀ stage : Stage P, stage.Of env action → I stage.before → I stage.after) :
    ∀ stage ∈ stages env action w, stage.Of env action ∧ I stage.before := by
  have henvelopes : ∀ {f : Frame} {batch : SyncBatch}, action.syncFrame = some (f, batch) →
      ∀ statusCursor (envelopes : List StoredEnvelope), (∀ stored ∈ envelopes, stored ∈ batch.envelopes) →
        ∀ (cursor : Nat) (w : World P), I w →
          ∀ stage ∈ envelopeStages env action (finishBatch env batch statusCursor) envelopes cursor w,
            stage.Of env action ∧ I stage.before := by
    intro f batch hsync statusCursor envelopes
    induction envelopes with
    | nil =>
      intro _ cursor w hw stage hstage
      obtain rfl := List.mem_singleton.1 hstage
      exact ⟨.closing hsync statusCursor cursor w, hw⟩
    | cons stored rest ih =>
      intro hmem cursor w hw stage hstage
      have hrest : ∀ stored' ∈ rest, stored' ∈ batch.envelopes := fun s hs => hmem s (List.mem_cons_of_mem _ hs)
      unfold envelopeStages at hstage
      by_cases hold : stored.cursor ≤ cursor
      · rw [if_pos hold] at hstage
        exact ih hrest _ _ hw stage hstage
      · rw [if_neg hold] at hstage
        have hof : Stage.Of env action ⟨.envelope stored, w, ((handleEnvelope env stored).exec w).2⟩ :=
          .envelope hsync (hmem stored List.mem_cons_self) w
        rcases List.mem_cons.1 hstage with rfl | hlater
        · exact ⟨hof, hw⟩
        · have hw' := hI _ hof hw
          revert hlater hw'
          cases (handleEnvelope env stored).exec w with
          | mk result w' =>
            cases result with
            | ok => exact fun hlater hw' => ih hrest _ _ hw' stage hlater
            | error => exact fun hlater => absurd hlater List.not_mem_nil
  intro stage hstage
  unfold stages at hstage
  cases hsync : action.syncFrame with
  | none =>
    rw [hsync] at hstage
    obtain rfl := List.mem_singleton.1 hstage
    exact ⟨.whole hsync w, hw⟩
  | some frame =>
    obtain ⟨f, batch⟩ := frame
    have hof : Stage.Of env action ⟨.action action, w, ((openBatch env f batch).exec w).2⟩ := .opening hsync w
    have hw' := hI _ hof hw
    rw [hsync] at hstage
    dsimp only at hstage
    revert hstage hof hw'
    cases (openBatch env f batch).exec w with
    | mk result w' =>
      cases result with
      | ok cursors =>
        intro hstage hof hw'
        rcases List.mem_cons.1 hstage with rfl | hlater
        · exact ⟨hof, hw⟩
        · exact henvelopes hsync _ _ (fun _ h => h) _ _ hw' stage hlater
      | error =>
        intro hstage hof _
        obtain rfl := List.mem_singleton.1 hstage
        exact ⟨hof, hw⟩

/-! ## The changes of a stage -/

/-- The envelope of a stage, where it can be opened. -/
def Stage.opened (env : Environment) (stage : Stage P) : Option (Opened P) :=
  match stage.cause with
  | .action _ => none
  | .envelope stored => ((openEnvelope env stored).exec stage.before).1.toOption

/-- The account that has sent the envelope of a stage. -/
def Stage.sender (stage : Stage P) : Option String :=
  match stage.cause with
  | .action _ => none
  | .envelope stored => some stored.senderAccountId

section

variable {stage : Stage P}

theorem openBatch_alters {C : Ledger P → Change P → Prop} [Admits env C] (f : Frame) (batch : SyncBatch) :
    Alters C (openBatch env f batch : ClientM P (Nat × Nat)) := by
  have hreceive : Alters C (receiveSync f : ClientM P Unit) :=
    .bind (takePending_alters _) fun _ => .bind (getApp_alters _) fun _ =>
      .ite (fun _ => modifyApp_alters fun _ => rfl) fun _ => .pure _
  exact .bind hreceive fun _ => .bind (query_alters _) fun _ => .bind (applyDeliveryUpdates_alters _ _) fun _ => .pure _

theorem finishBatch_alters {C : Ledger P → Change P → Prop} (batch : SyncBatch) (statusCursor cursor : Nat) :
    Alters C (finishBatch env batch statusCursor cursor : ClientM P Unit) :=
  .bind (execute_some_aside fun _ => ⟨⟨rfl, rfl, rfl⟩, rfl, rfl⟩) fun _ =>
    .bind refreshContactsPreserveSelection_alters fun _ => .ite (fun _ => setStatus_alters _) fun _ => .pure _

/-- A stage takes the ledger along changes of its action. -/
theorem Stage.Of.changes (hof : stage.Of env action) :
    Changes (Change.Of env action) stage.before stage.after := by
  cases hof with
  | whole _ w => exact runAction_alters action w
  | opening _ w => exact openBatch_alters _ _ w
  | envelope hsync hmem w =>
    obtain ⟨rfl, hbody⟩ := Action.syncFrame_eq hsync
    exact handleEnvelope_alters (handles_batch hbody _ hmem) w
  | closing _ statusCursor cursor w => exact finishBatch_alters _ _ _ w

end

/-- A client stays one of its account. -/
theorem ledger_owner {owner : Owner} {s : Ledger P} (h : (ledgerSystem env owner).Reachable s) :
    s.owner = owner ∧ s.stored = owner := by
  refine h.invariant (I := fun s => s.owner = owner ∧ s.stored = owner) (fun s hinit => ?_)
    fun s l s' hs _ hstep => ?_
  · rw [show s = .empty owner from hinit]
    exact ⟨rfl, rfl⟩
  · obtain ⟨s₁, hs₁, rfl⟩ := Change.run_eq hstep.2
    have hstated : ∀ {s s' : Ledger P} {st : Statement}, s.statement st = some s' →
        s.owner = owner ∧ s.stored = owner → s'.owner = owner ∧ s'.stored = owner := by
      intro s s' st hst hs
      obtain ⟨tables, -, rfl⟩ := Ledger.statement_eq hst
      exact hs
    have hdeleted : ∀ {s s' : Ledger P} {t : ConversationTombstone}, s.delete t = some s' →
        s.owner = owner ∧ s.stored = owner → s'.owner = owner ∧ s'.stored = owner := by
      intro s s' t hst hs
      obtain ⟨-, howner, hstored, -⟩ := Ledger.delete_eq hst
      exact ⟨howner.trans hs.1, hstored.trans hs.2⟩
    show s₁.owner = owner ∧ s₁.stored = owner
    revert hs₁
    cases l.2 with
    | saved =>
      intro hs₁
      cases hs₁
      exact ⟨hs.1, hs.1⟩
    | restarted =>
      intro hs₁
      cases hs₁
      exact ⟨hs.2, hs.2⟩
    | stated st => exact fun hs₁ => hstated hs₁ hs
    | announced t row => exact fun hs₁ => hstated hs₁ hs
    | unaddressed id => exact fun hs₁ => hstated hs₁ hs
    | completed id n => exact fun hs₁ => hstated hs₁ hs
    | verified account => exact fun hs₁ => hstated hs₁ hs
    | deletedHere t => exact fun hs₁ => hdeleted hs₁ hs
    | processed o branch =>
      intro hs₁
      obtain ⟨s₂, hs₂, rfl⟩ := Option.map_eq_some_iff.1 hs₁
      show s₂.owner = owner ∧ s₂.stored = owner
      cases branch with
      | control | suppressed =>
        cases hs₂
        exact hs
      | received => exact hstated hs₂ hs
      | quarantined n =>
        have hs₂ : (s.statement (.received (o.message o.stored.senderAccountId true))).map (fun s' => s'.note n) =
          some s₂ := hs₂
        obtain ⟨s₃, hs₃, rfl⟩ := Option.map_eq_some_iff.1 hs₂
        have hs₃ : s₃.owner = owner ∧ s₃.stored = owner := hstated hs₃ hs
        exact hs₃
      | deleted => exact hdeleted hs₂ hs
    | noted n | answered n | answeredBy o n | marked id state read now | dismissed n now | seen id now | unnoted id =>
      intro hs₁
      cases hs₁
      exact hs

/-- An envelope is the account's own if its sender is the account. -/
theorem opened_self {stored : StoredEnvelope} {w : World P} {o : Opened P}
    (h : ((openEnvelope env stored).exec w).1.toOption = some o) :
    o.senderIsSelf = decide (stored.senderAccountId = w.app.profile.accountId) := by
  cases hexec : (openEnvelope env stored).exec w with
  | mk result w' =>
    rw [hexec] at h
    cases result with
    | error => cases h
    | ok o' =>
      cases h
      obtain ⟨hquiet, hstored, hholds⟩ := (openEnvelope_holds stored).ok hexec
      rw [← hstored, ← hquiet.same.1]
      exact hholds.self

/-! ## Runs with their stages -/

/-- The runs of a client, with all stages that there were. -/
def stagedSystem (env : Environment) (profile : RuntimeProfile P) : System (World P × List (Stage P)) Action where
  init s := s = (.ofProfile profile, [])
  step s action s' := s' = (s.1.after env action, stages env action s.1 ++ s.2)

/-- What holds of every stage of an action under the condition holds of every stage of a run whose actions meet it. -/
theorem staged_all {profile : RuntimeProfile P} {C : World P × List (Stage P) → Action → Prop} {p : Stage P → Prop}
    {s : World P × List (Stage P)} (h : (stagedSystem env profile).ReachableUnder C s)
    (hp : ∀ s action, C s action → ∀ stage ∈ stages env action s.1, p stage) : ∀ stage ∈ s.2, p stage := by
  refine h.invariant (I := fun s => ∀ stage ∈ s.2, p stage) (fun s hinit stage hstage => ?_)
    fun s action s' hs hC hstep stage hstage => ?_
  · rw [show s = (.ofProfile profile, []) from hinit] at hstage
    cases hstage
  · rw [show s' = _ from hstep] at hstage
    rcases List.mem_append.1 hstage with hnew | hold
    · exact hp s action hC stage hnew
    · exact hs stage hold

end TuiChat
