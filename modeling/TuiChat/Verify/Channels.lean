import TuiChat.System.Channels
import TuiChat.Verify.Scenario
import Mathlib.Logic.Relation

/-!
# The event handler and the reader

A response reaches a handler only after the reader has taken every frame that is ahead of it, and those go to
the channel that the handler drains. As long as at most 256 frames are ahead of an awaited response, counting
the channel, the reader's hand, the wire and the server's queue, the reader is never stuck on the full
channel; with one more it ends up there (`mutual_wait_iff`, `Scenario.Flooded.handler_and_reader_wait`).
-/

namespace TuiChat

open Lib
open Relation (ReflTransGen)

namespace Channels

variable {s s' : Channels} {l : Label} {id : String}

/-- The handler waits for a response, and the reader for room in the channel that the handler drains. -/
def MutualWait (s : Channels) : Prop :=
  (∃ id, s.task = .waiting id) ∧ s.held.isSome = true ∧ s.events.length = eventCapacity

/-- The number of frames before the first with the id. -/
def ahead (id : String) (fs : List Frame) : Nat := (fs.takeWhile fun f => f.id ≠ id).length

/-- The frames that have to go to the event channel before the response with the id is read. -/
def backlog (s : Channels) (id : String) : Nat :=
  s.events.length + s.held.toList.length + ahead id (s.wire ++ s.queue)

/-- At most as many frames as the channel holds are ahead of an awaited response, and of one that is about to
be awaited. -/
def Roomy (s : Channels) : Label → Prop
  | .enqueue => ∀ f, s.task = .sending f true → s.backlog f.id ≤ eventCapacity
  | _ => ∀ id, s.task = .waiting id → s.backlog id ≤ eventCapacity

/-- The id whose response the task awaits, or is about to await. -/
def awaited : AppTask → List String
  | .sending f true => [f.id]
  | .waiting id => [id]
  | _ => []

structure Coherent (s : Channels) : Prop where
  room : s.events.length ≤ eventCapacity
  /-- Nothing else has a waiter. -/
  only : s.pending.Sublist (awaited s.task)
  waiting : ∀ id, s.task = .waiting id → id ∈ s.pending
  named : "" ∉ s.pending

theorem ahead_cons_self {f : Frame} {fs : List Frame} : ahead f.id (f :: fs) = 0 := by
  simp [ahead]

theorem ahead_cons {f : Frame} {fs : List Frame} (h : f.id ≠ id) : ahead id (f :: fs) = ahead id fs + 1 := by
  simp [ahead, h]

theorem Coherent.pending (h : s.Coherent) (ht : s.task = .waiting id) : s.pending = [id] := by
  have honly := h.only
  rw [ht] at honly
  rcases List.sublist_singleton.1 honly with hnil | hone
  · have hmem := h.waiting id ht
    rw [hnil] at hmem
    cases hmem
  · exact hone

theorem Coherent.idle (h : s.Coherent) (ht : awaited s.task = []) : s.pending = [] := by
  have honly := h.only
  rw [ht] at honly
  exact List.sublist_nil.1 honly

/-- The reader's frame goes to the waiter, which is the task's, or into the reader's hand. -/
theorem Coherent.received (h : s.Coherent) (f : Frame) (wire : List Frame) : (s.received f wire).Coherent := by
  unfold Channels.received
  split
  · next hf =>
    refine ⟨h.room, ?_, fun id hid => ?_, fun hmem => h.named (List.mem_of_mem_erase hmem)⟩
    · split
      · next ht =>
        have hpending := h.pending ht
        simp [hpending]
      · exact (List.erase_sublist).trans h.only
    · dsimp only at hid ⊢
      split at hid
      · cases hid
      · next ht =>
        have hmem := hf.2
        rw [h.pending hid, List.mem_singleton] at hmem
        rw [hmem] at ht
        exact absurd hid ht
  · exact ⟨h.room, h.only, h.waiting, h.named⟩

theorem Coherent.step (h : s.Coherent) (hs : s.step l = some s') : s'.Coherent := by
  cases l with
  | push body =>
    obtain ⟨_, hs⟩ := Option.ite_none_right_eq_some.1 hs
    cases hs
    exact ⟨h.room, h.only, h.waiting, h.named⟩
  | respond body =>
    simp only [Channels.step] at hs
    split at hs
    · cases hs
    · obtain ⟨_, hs⟩ := Option.ite_none_right_eq_some.1 hs
      cases hs
      exact ⟨h.room, h.only, h.waiting, h.named⟩
  | accept | serverWrites | clientWrites =>
    simp only [Channels.step] at hs
    split at hs
    · cases hs
    · cases hs
      exact ⟨h.room, h.only, h.waiting, h.named⟩
  | read =>
    simp only [Channels.step] at hs
    split at hs
    · cases hs
      exact h.received _ _
    · cases hs
  | deliver =>
    simp only [Channels.step] at hs
    split at hs
    · cases hs
    · obtain ⟨hroom, hs⟩ := Option.ite_none_right_eq_some.1 hs
      cases hs
      refine ⟨?_, h.only, h.waiting, h.named⟩
      rw [List.length_append]
      exact hroom
  | take =>
    simp only [Channels.step] at hs
    split at hs
    · next ht hevents =>
      cases hs
      have hroom := h.room
      rw [hevents] at hroom
      refine ⟨Nat.le_of_succ_le hroom, ?_, nofun, h.named⟩
      rw [h.idle (by rw [ht]; rfl)]
      exact List.nil_sublist _
    · cases hs
  | begin | finish =>
    obtain ⟨ht, hs⟩ := Option.ite_none_right_eq_some.1 hs
    cases hs
    refine ⟨h.room, ?_, nofun, h.named⟩
    rw [h.idle (by rw [ht]; rfl)]
    exact List.nil_sublist _
  | request id body =>
    obtain ⟨⟨ht, hid⟩, hs⟩ := Option.ite_none_right_eq_some.1 hs
    cases hs
    have hnone := h.idle (by rw [ht]; rfl)
    refine ⟨h.room, ?_, nofun, ?_⟩
    · rw [hnone]
      exact List.Sublist.refl _
    · rw [hnone, List.mem_singleton]
      exact Ne.symm hid
  | notify body =>
    obtain ⟨ht, hs⟩ := Option.ite_none_right_eq_some.1 hs
    cases hs
    refine ⟨h.room, ?_, nofun, h.named⟩
    rw [h.idle (by rw [ht]; rfl)]
    exact List.nil_sublist _
  | enqueue =>
    simp only [Channels.step] at hs
    split at hs
    · next f awaits ht =>
      obtain ⟨_, hs⟩ := Option.ite_none_right_eq_some.1 hs
      cases hs
      have honly := h.only
      rw [ht] at honly
      unfold sent
      split
      · next hwaiter =>
        refine ⟨h.room, ?_, fun id hid => ?_, h.named⟩
        · rw [hwaiter.1] at honly
          exact honly
        · cases hid
          exact hwaiter.2
      · next hnone =>
        refine ⟨h.room, ?_, nofun, h.named⟩
        cases awaits with
        | false => exact honly
        | true =>
          rcases List.sublist_singleton.1 honly with hnil | hone
          · rw [hnil]
            exact List.nil_sublist _
          · exact absurd ⟨rfl, by rw [hone]; exact List.mem_cons_self⟩ hnone
    · cases hs
  | trySend f =>
    obtain ⟨_, hs⟩ := Option.ite_none_right_eq_some.1 hs
    cases hs
    exact ⟨h.room, h.only, h.waiting, h.named⟩
  | timeout =>
    simp only [Channels.step] at hs
    split at hs
    · next id ht =>
      cases hs
      have hpending := h.pending ht
      refine ⟨h.room, ?_, nofun, fun hmem => h.named (List.mem_of_mem_erase hmem)⟩
      simp [hpending]
    · cases hs

theorem coherent (hr : channelSystem.Reachable s) : s.Coherent :=
  hr.invariant
    (fun _ hinit => by
      subst hinit
      exact ⟨Nat.zero_le _, List.Sublist.refl _, nofun, nofun⟩)
    fun _ _ _ h _ hs => h.step hs

/-! ## Runs with room -/

/-- The frames at the client fit into the channel while a response is awaited. -/
def Fits (s : Channels) : Prop :=
  ∀ id, s.task = .waiting id → s.events.length + s.held.toList.length ≤ eventCapacity

theorem Fits.of_same (h : s.Fits) (hevents : s'.events = s.events) (hheld : s'.held = s.held)
    (ht : ∀ id, s'.task = .waiting id → s.task = .waiting id) : s'.Fits := fun id hid => by
  rw [hevents, hheld]
  exact h id (ht id hid)

theorem Fits.not_mutualWait (h : s.Fits) : ¬ s.MutualWait := by
  rintro ⟨⟨id, ht⟩, hheld, hevents⟩
  obtain ⟨f, hf⟩ := Option.isSome_iff_exists.1 hheld
  have hfits := h id ht
  rw [hevents, hf] at hfits
  simp at hfits

/-- The reader takes a frame that is ahead of the response, so there is room for it. -/
theorem Fits.received (hc : s.Coherent) (hheld : s.held = none) {f : Frame} {wire : List Frame}
    (hwire : s.wire = f :: wire) (hroom : ∀ id, s.task = .waiting id → s.backlog id ≤ eventCapacity) :
    (s.received f wire).Fits := by
  unfold Channels.received
  split
  · intro id hid
    dsimp only at hid ⊢
    split at hid
    · cases hid
    · rw [hheld]
      exact hc.room
  · next hnone =>
    intro id hid
    have hbacklog := hroom id hid
    have hid' : f.id ≠ id := by
      rintro rfl
      refine hnone ⟨fun hempty => hc.named ?_, hc.waiting _ hid⟩
      rw [← hempty]
      exact hc.waiting _ hid
    unfold backlog at hbacklog
    rw [hheld, hwire, List.cons_append, ahead_cons hid'] at hbacklog
    simp only [Option.toList_none, List.length_nil] at hbacklog
    simp only [Option.toList_some, List.length_singleton]
    omega

theorem Fits.step (h : s.Fits) (hc : s.Coherent) (guard : s.Roomy l) (hs : s.step l = some s') : s'.Fits := by
  cases l with
  | push body =>
    obtain ⟨_, hs⟩ := Option.ite_none_right_eq_some.1 hs
    cases hs
    exact h.of_same rfl rfl fun _ ht => ht
  | respond body =>
    simp only [Channels.step] at hs
    split at hs
    · cases hs
    · obtain ⟨_, hs⟩ := Option.ite_none_right_eq_some.1 hs
      cases hs
      exact h.of_same rfl rfl fun _ ht => ht
  | accept | serverWrites | clientWrites =>
    simp only [Channels.step] at hs
    split at hs
    · cases hs
    · cases hs
      exact h.of_same rfl rfl fun _ ht => ht
  | read =>
    simp only [Channels.step] at hs
    split at hs
    · next f wire hheld hwire =>
      cases hs
      exact .received hc hheld hwire guard
    · cases hs
  | deliver =>
    simp only [Channels.step] at hs
    split at hs
    · cases hs
    · next f hheld =>
      obtain ⟨hroom, hs⟩ := Option.ite_none_right_eq_some.1 hs
      cases hs
      intro id hid
      have hfits := h id hid
      rw [hheld] at hfits
      simpa using hfits
  | take =>
    simp only [Channels.step] at hs
    split at hs
    · cases hs
      exact nofun
    · cases hs
  | begin | finish | request id body | notify body =>
    obtain ⟨_, hs⟩ := Option.ite_none_right_eq_some.1 hs
    cases hs
    exact nofun
  | enqueue =>
    simp only [Channels.step] at hs
    split at hs
    · next f awaits ht =>
      obtain ⟨_, hs⟩ := Option.ite_none_right_eq_some.1 hs
      cases hs
      intro id hid
      dsimp only [sent] at hid
      split at hid
      · next hwaiter =>
        cases hid
        have hbacklog := guard f (by rw [ht, hwaiter.1])
        unfold backlog at hbacklog
        dsimp only
        omega
      · cases hid
    · cases hs
  | trySend f =>
    obtain ⟨_, hs⟩ := Option.ite_none_right_eq_some.1 hs
    cases hs
    exact h.of_same rfl rfl fun _ ht => ht
  | timeout =>
    simp only [Channels.step] at hs
    split at hs
    · cases hs
      exact nofun
    · cases hs

theorem fits (hr : channelSystem.ReachableUnder Roomy s) : s.Fits :=
  (hr.invariant (I := fun s => s.Coherent ∧ s.Fits)
    (fun s hinit => by
      have hs : s = .initial := hinit
      subst hs
      exact ⟨coherent (.init rfl), nofun⟩)
    fun _ _ _ ⟨hc, hf⟩ guard hs => ⟨hc.step hs, hf.step hc guard hs⟩).2

/-! ## Runs without room -/

/-- The server's writer and the reader go on. -/
def Flows : Channels → Channels → Prop :=
  ReflTransGen fun s s' => ∃ l, (l = .serverWrites ∨ l = .read ∨ l = .deliver) ∧ s.step l = some s'

/-- What the writer and the reader have still to do. -/
def work (s : Channels) : Nat := 3 * s.queue.length + 2 * s.wire.length + s.held.toList.length

/-- One frame comes nearer to the channel, or the reader is stuck. -/
theorem flows_one (hc : s.Coherent) (ht : s.task = .waiting id) (hfull : eventCapacity < s.backlog id) :
    s.MutualWait ∨ ∃ l s', (l = .serverWrites ∨ l = .read ∨ l = .deliver) ∧ s.step l = some s' ∧
      s'.task = .waiting id ∧ eventCapacity < s'.backlog id ∧ s'.work < s.work := by
  have hroom := hc.room
  cases hheld : s.held with
  | some f =>
    by_cases hlt : s.events.length < eventCapacity
    · refine .inr ⟨.deliver, { s with held := none, events := s.events ++ [f] }, .inr (.inr rfl), ?_, ht, ?_, ?_⟩
      · simp [Channels.step, hheld, hlt]
      · unfold backlog at hfull ⊢
        rw [hheld] at hfull
        simpa using hfull
      · simp [work, hheld]
    · exact .inl ⟨⟨id, ht⟩, by rw [hheld]; rfl, by omega⟩
  | none =>
    refine .inr ?_
    cases hwire : s.wire with
    | cons f wire =>
      unfold backlog at hfull
      rw [hheld, hwire, List.cons_append] at hfull
      by_cases hid : f.id = id
      · rw [← hid, ahead_cons_self] at hfull
        simp only [Option.toList_none, List.length_nil] at hfull
        omega
      · have hnone : ¬ (f.id ≠ "" ∧ f.id ∈ s.pending) := by
          rintro ⟨-, hmem⟩
          rw [hc.pending ht, List.mem_singleton] at hmem
          exact hid hmem
        refine ⟨.read, { s with wire, held := some f }, .inr (.inl rfl), ?_, ht, ?_, ?_⟩
        · simp only [Channels.step, hheld, hwire]
          unfold Channels.received
          rw [if_neg hnone]
        · rw [ahead_cons hid] at hfull
          unfold backlog
          simp only [Option.toList_none, List.length_nil] at hfull
          simp only [Option.toList_some, List.length_singleton]
          omega
        · simp [work, hheld, hwire]
          omega
    | nil =>
      cases hqueue : s.queue with
      | nil =>
        unfold backlog at hfull
        rw [hheld, hwire, hqueue] at hfull
        simp [ahead] at hfull
        omega
      | cons f queue =>
        refine ⟨.serverWrites, { s with queue, wire := s.wire ++ [f] }, .inl rfl, ?_, ht, ?_, ?_⟩
        · simp [Channels.step, hqueue]
        · unfold backlog at hfull ⊢
          rw [hqueue] at hfull
          simpa using hfull
        · simp [work, hheld, hwire, hqueue]
          omega

/-- With one frame too many the reader ends up on the full channel. -/
theorem flows_to_mutualWait (n : Nat) : ∀ {s : Channels}, s.work ≤ n → s.Coherent → s.task = .waiting id →
    eventCapacity < s.backlog id → ∃ s', Flows s s' ∧ s'.MutualWait := by
  induction n with
  | zero =>
    intro s hn hc ht hfull
    rcases flows_one hc ht hfull with hwait | ⟨l, s', -, -, -, -, hless⟩
    · exact ⟨s, .refl, hwait⟩
    · omega
  | succ n ih =>
    intro s hn hc ht hfull
    rcases flows_one hc ht hfull with hwait | ⟨l, s₁, hl, hs, ht₁, hfull₁, hless⟩
    · exact ⟨s, .refl, hwait⟩
    · obtain ⟨s', hflows, hwait⟩ := ih (by omega) (hc.step hs) ht₁ hfull₁
      exact ⟨s', .head ⟨l, hl, hs⟩ hflows, hwait⟩

/-- In every run in which at most 256 frames are ahead of an awaited response, handler and reader never wait
for each other; from every reachable state in which more are ahead, the server's writer and the reader by
themselves lead to a state in which they do. -/
theorem mutual_wait_iff (s : Channels) :
    (channelSystem.ReachableUnder Roomy s → ¬ s.MutualWait) ∧
    (channelSystem.Reachable s → ∀ id, s.task = .waiting id → eventCapacity < s.backlog id →
      ∃ s', Flows s s' ∧ s'.MutualWait) :=
  ⟨fun hr => (fits hr).not_mutualWait,
    fun hr _ ht hfull => flows_to_mutualWait _ (Nat.le_refl _) (coherent hr) ht hfull⟩

end Channels

namespace Scenario.Flooded

open Channels

/-- A batch that the server pushes. -/
def pushed : Body := .syncBatch
  { envelopes := []
    nextCursor := 0
    hasMore := false
    deliveryUpdates := []
    nextStatusCursor := 0 }

def lookup : Body := .lookupUser { exactUsername := "bob" }

/-- The handler of a batch waits for the bundle of a sender; `n` other batches are in the channel, and the
server has `queue` in its queue. -/
def lookingUp (n : Nat) (queue : List Frame) : Channels :=
  { Channels.initial with
    task := .waiting "r"
    pending := ["r"]
    outgoing := [frame "r" lookup]
    queue
    events := List.replicate n (frame "" pushed) }

theorem next {G : Channels → Label → Prop} {s s' : Channels} {l : Label} (hr : channelSystem.ReachableUnder G s)
    (guard : G s l) (hs : s.step l = some s') : channelSystem.ReachableUnder G s' := hr.step guard hs

/-- The batch arrives, and the handler asks for the bundle. -/
theorem lookingUp_zero : channelSystem.ReachableUnder Roomy (lookingUp 0 []) := by
  have hinit : channelSystem.ReachableUnder Roomy .initial := .init rfl
  have hpushed := next (l := .push pushed) hinit (by intro _ ht; cases ht) rfl
  have hwritten := next (l := .serverWrites) hpushed (by intro _ ht; cases ht) rfl
  have hread := next (l := .read) hwritten (by intro _ ht; cases ht) rfl
  have hdelivered := next (l := .deliver) hread (by intro _ ht; cases ht) rfl
  have htaken := next (l := .take) hdelivered (by intro _ ht; cases ht) rfl
  have hrequested := next (l := .request "r" lookup) htaken (by intro _ ht; cases ht) rfl
  exact next (l := .enqueue) hrequested (by intro _ _; exact Nat.zero_le _) rfl

theorem lookingUp_push {n : Nat} (hr : channelSystem.Reachable (lookingUp n [])) :
    channelSystem.Reachable (lookingUp n [frame "" pushed]) := by
  exact next (l := .push pushed) hr trivial rfl

/-- The reader has another batch in its hand. -/
def holding (n : Nat) : Channels := { lookingUp n [] with held := some (frame "" pushed) }

theorem holding_reachable {n : Nat} (hr : channelSystem.Reachable (lookingUp n [])) :
    channelSystem.Reachable (holding n) := by
  have hwritten := next (l := .serverWrites) (lookingUp_push hr) trivial rfl
  exact next (l := .read) hwritten trivial rfl

/-- The batches that are pushed in the meantime fill the channel. -/
theorem lookingUp_reachable : ∀ n, n ≤ eventCapacity → channelSystem.Reachable (lookingUp n [])
  | 0, _ => lookingUp_zero.reachable
  | n + 1, hn => by
    have hread := holding_reachable (lookingUp_reachable n (Nat.le_of_succ_le hn))
    have hroom : (holding n).events.length < eventCapacity := by
      rw [show (holding n).events.length = n from List.length_replicate]
      exact hn
    have hnext : { holding n with held := none, events := (holding n).events ++ [frame "" pushed] } =
        lookingUp (n + 1) [] := by
      simp [holding, lookingUp, initial, List.replicate_succ']
    refine next (l := .deliver) hread trivial ?_
    rw [← hnext]
    exact if_pos hroom

/-- 257 batches are pushed while the handler waits. -/
theorem mutual_wait_iff_flooded :
    ¬ (lookingUp 0 []).MutualWait ∧
      ∃ s, Flows (lookingUp eventCapacity [frame "" pushed]) s ∧ s.MutualWait := by
  have hr : channelSystem.Reachable (lookingUp eventCapacity [frame "" pushed]) :=
    lookingUp_push (lookingUp_reachable eventCapacity (Nat.le_refl _))
  have hfull : eventCapacity < (lookingUp eventCapacity [frame "" pushed]).backlog "r" := by
    simp [backlog, lookingUp, ahead, frame, initial]
  exact ⟨(mutual_wait_iff _).1 lookingUp_zero, (mutual_wait_iff _).2 hr "r" rfl hfull⟩

/-- The channel is full, and the handler that drains it waits. -/
theorem handler_and_reader_wait :
    channelSystem.Reachable (holding eventCapacity) ∧ (holding eventCapacity).MutualWait :=
  ⟨holding_reachable (lookingUp_reachable eventCapacity (Nat.le_refl _)), ⟨"r", rfl⟩, rfl,
    List.length_replicate⟩

end Scenario.Flooded

end TuiChat
