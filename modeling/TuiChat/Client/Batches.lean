import TuiChat.Client.Records

/-!
# What is asked of a batch

`handle_sync_batch` handles one envelope after the other, each in the state that the ones before it have left.
`AtBatch env p` says that `p` holds of every envelope a batch comes to, where it does, and `wp_syncFrame` is the rule
of an invariant that a batch keeps under such a condition.
-/

namespace TuiChat

open Lib
open Lib.Prog (wp)

variable {P : Primitives} {env : Environment}

/-- What comes before the handling of a batch: the request that its frame answers is not waited for. -/
def receiveSync (f : Frame) : ClientM P Unit := do
  let pending ← takePending f.id
  let awaited ← getApp fun app => app.backgroundRequests.rows.any fun r => r.2 = .sync
  if pending = some .sync ∨ awaited = false then modifyApp fun app => { app with syncInFlight := false }
  else pure ()

theorem receiveSync_leaves (f : Frame) : Leaves (receiveSync f : ClientM P Unit) := by
  refine .bind (takePending_leaves f.id) fun pending => .bind (getApp_leaves _) fun awaited => ?_
  exact .ite (fun _ => modifyApp_leaves (fun _ => rfl) fun _ => rfl) fun _ => .pure _

/-- What follows the envelopes of a batch. -/
def finishBatch (env : Environment) (batch : SyncBatch) (statusCursor cursor : Nat) : ClientM P Unit := do
  execute env fun s => some { s with
    envelopeCursor := cursor
    statusCursor := max statusCursor batch.nextStatusCursor }
  refreshContactsPreserveSelection env
  if batch.hasMore ∧ cursor = batch.nextCursor then setStatus "仍有历史消息，输入 /sync 继续加载"
  else pure ()

/-- `p` holds of every envelope above the cursor, in the state in which it is handled. -/
def AtEnvelopes (env : Environment) (p : StoredEnvelope → World P → Prop) :
    List StoredEnvelope → Nat → World P → Prop
  | [], _, _ => True
  | stored :: rest, cursor, w =>
    if stored.cursor ≤ cursor then AtEnvelopes env p rest cursor w
    else p stored w ∧
      wp (handleEnvelope env stored) (fun _ => AtEnvelopes env p rest stored.cursor) (fun _ _ => True) w

/-- `p` holds of every envelope that the batch of a frame comes to, in the state in which it does. -/
def AtBatch (env : Environment) (p : StoredEnvelope → World P → Prop) (f : Frame) (batch : SyncBatch)
    (w : World P) : Prop :=
  wp (receiveSync f) (fun _ w' =>
    wp (applyDeliveryUpdates env batch.deliveryUpdates w'.store.statusCursor)
      (fun _ => AtEnvelopes env p batch.envelopes w'.store.envelopeCursor) (fun _ _ => True) w'.ticked)
    (fun _ _ => True) w

section

variable {p : StoredEnvelope → World P → Prop} [∀ stored w, Decidable (p stored w)]

instance AtEnvelopes.decidable : ∀ envelopes cursor w, Decidable (AtEnvelopes env p envelopes cursor w)
  | [], _, _ => isTrue trivial
  | stored :: rest, cursor, _ =>
    have : ∀ cursor w, Decidable (AtEnvelopes env p rest cursor w) := AtEnvelopes.decidable rest
    inferInstanceAs (Decidable (if stored.cursor ≤ cursor then _ else _ ∧ _))

instance (f : Frame) (batch : SyncBatch) (w : World P) : Decidable (AtBatch env p f batch w) :=
  inferInstanceAs (Decidable (wp _ _ _ w))

end

section

variable {I J : World P → Prop} {E : Error → World P → Prop} {p : StoredEnvelope → World P → Prop}

/-- What one envelope keeps, the loop keeps. -/
theorem wp_handleEnvelopes
    (hone : ∀ stored w, I w → p stored w → wp (handleEnvelope env stored) (fun _ => I) E w) :
    ∀ {envelopes : List StoredEnvelope} {cursor : Nat} {w : World P}, I w → AtEnvelopes env p envelopes cursor w →
      wp (handleEnvelopes env envelopes cursor) (fun _ => I) E w := by
  intro envelopes
  induction envelopes with
  | nil => exact fun hw _ => hw
  | cons stored rest ih =>
    intro cursor w hw h
    unfold handleEnvelopes
    unfold AtEnvelopes at h
    by_cases hold : stored.cursor ≤ cursor
    · rw [if_pos hold] at h ⊢
      exact ih hw h
    · rw [if_neg hold] at h ⊢
      obtain ⟨hp, hrest⟩ := h
      rw [Prog.wp_bind]
      refine ((hone stored w hw hp).and hrest).mono (fun _ w' h' => ?_) fun _ _ h' => h'.1
      obtain ⟨hw', hat⟩ := h'
      exact ih hw' hat

/-- A frame with a batch: `J` holds when the batch is handled, and `I` from its delivery updates on. -/
theorem wp_syncFrame {f : Frame} {batch : SyncBatch} {w : World P}
    (hreceive : wp (receiveSync f) (fun _ => J) E w) (hticked : ∀ e w, J w → E e w.ticked)
    (hupdates : ∀ w, J w → wp (applyDeliveryUpdates env batch.deliveryUpdates w.store.statusCursor) (fun _ => I) E
      w.ticked)
    (hone : ∀ stored w, I w → p stored w → wp (handleEnvelope env stored) (fun _ => I) E w)
    (hfinish : ∀ statusCursor cursor w, I w → wp (finishBatch env batch statusCursor cursor) (fun _ => I) E w)
    (h : AtBatch env p f batch w) :
    wp (do
        let pending ← takePending f.id
        handleSyncFrame env pending batch) (fun _ => I) E w := by
  have hbatch : ∀ w, J w → wp (applyDeliveryUpdates env batch.deliveryUpdates w.store.statusCursor)
      (fun _ => AtEnvelopes env p batch.envelopes w.store.envelopeCursor) (fun _ _ => True) w.ticked →
      wp (handleSyncBatch env batch) (fun _ => I) E w := by
    intro w hJ hat
    unfold handleSyncBatch
    rw [Prog.wp_bind]
    refine wp_query ?_ fun e => hticked e w hJ
    rw [Prog.wp_bind]
    refine ((hupdates w hJ).and hat).mono (fun statusCursor w₁ ⟨hw₁, hat₁⟩ => ?_) fun _ _ h => h.1
    exact (wp_handleEnvelopes hone hw₁ hat₁).bind fun cursor w₂ hw₂ => hfinish statusCursor cursor w₂ hw₂
  have hreceived := hreceive.and h
  unfold receiveSync at hreceived
  rw [Prog.wp_bind] at hreceived ⊢
  refine hreceived.mono (fun pending w₁ hrest => ?_) fun _ _ h => h.1
  rw [wp_getApp_bind] at hrest
  unfold handleSyncFrame
  rw [wp_getApp_bind]
  extract_lets handle
  obtain ⟨hdone, hwaiting⟩ := (Prog.wp_ite _ _ _).1 hrest
  refine (Prog.wp_ite _ _ _).2 ⟨fun hcond => ?_, fun hcond => ?_⟩
  · rw [wp_modifyApp_bind]
    have hw₂ := hdone hcond
    exact hbatch _ hw₂.1 hw₂.2
  · have hw₂ := hwaiting hcond
    exact hbatch _ hw₂.1 hw₂.2

end

end TuiChat
