import TuiChat.Client.Events

/-!
# The effects, exactly

What an effect does is decided by the environment at the number of things learned so far. The rules here are
equations, so that the ends of a program are those that its environment gives it.
-/

namespace TuiChat

open Lib
open Lib.Prog (wp)

variable {P : Primitives} {env : Environment} {α : Type} {w : World P}

section

variable {E : Error → World P → Prop}

/-- The rule of sequencing, where no state is named. -/
theorem wp_bind_eq {β : Type} (m : ClientM P β) (f : β → ClientM P α) {Q : α → World P → Prop} :
    wp (m >>= f) Q E = wp m (fun b => wp (f b) Q E) E :=
  funext fun _ => propext (Prog.wp_bind m f)

theorem wp_draw_iff {Q : Nat → World P → Prop} : wp draw Q E w ↔ Q w.tick w.ticked := Iff.rfl

theorem wp_nowMs_iff {Q : Int → World P → Prop} : wp (nowMs env) Q E w ↔ Q (env.nowMs w.tick) w.ticked := Iff.rfl

theorem wp_instantNow_iff {Q : Nat → World P → Prop} :
    wp (instantNow env) Q E w ↔ Q (env.instant w.tick) w.ticked := Iff.rfl

theorem wp_newUuid_iff {Q : String → World P → Prop} :
    wp (newUuid env) Q E w ↔ Q (env.uuid w.tick) w.ticked := Iff.rfl

theorem wp_attempt_iff {e : Error} {Q : Unit → World P → Prop} : wp (attempt env e) Q E w ↔
    (env.works w.tick = true → Q () w.ticked) ∧ (¬env.works w.tick = true → E e w.ticked) :=
  Prog.wp_ensure (s := w.ticked) _ _

theorem wp_query_iff {f : Store P → α} {Q : α → World P → Prop} : wp (query env f) Q E w ↔
    (env.works w.tick = true → Q (f w.store) w.ticked) ∧
      (¬env.works w.tick = true → E "database error" w.ticked) := by
  unfold query
  rw [Prog.wp_bind, wp_attempt_iff]
  rfl

theorem wp_executeRecording_iff {f : World P → Option (Store P)} {events : World P → List Event}
    {Q : Unit → World P → Prop} : wp (executeRecording env f events) Q E w ↔
    (env.works w.tick = true →
      (∀ store, f w.ticked = some store →
        Q () { w.ticked with store, log := events w.ticked ++ w.log }) ∧
      (f w.ticked = none → E "constraint failed" w.ticked)) ∧
    (¬env.works w.tick = true → E "database error" w.ticked) := by
  unfold executeRecording
  rw [Prog.wp_bind, wp_attempt_iff]
  refine and_congr_left fun _ => forall_congr' fun _ => ?_
  rw [Prog.wp_bind, Prog.wp_gets]
  dsimp only [id]
  cases f w.ticked with
  | none =>
    constructor
    · exact fun h => ⟨fun _ hs => (by cases hs), fun _ => h⟩
    · exact fun h => h.2 rfl
  | some store =>
    constructor
    · exact fun h => ⟨fun _ hs => by cases hs; exact h, fun hs => by cases hs⟩
    · exact fun h => h.1 store rfl

theorem wp_sendFrame_iff {f : Frame} {Q : Unit → World P → Prop} : wp (sendFrame env f) Q E w ↔
    (env.works w.tick = true → Q () { w.ticked with sent := w.sent ++ [f] }) ∧
      (¬env.works w.tick = true → E "connection writer stopped" w.ticked) := by
  unfold sendFrame
  rw [Prog.wp_bind, wp_attempt_iff]
  rfl

/-- The machine is put back where the transaction fails. -/
theorem wp_commitMachine_iff {m : OlmMachine P.olm} {f : RuntimeProfile P → World P → Option (Store P)}
    {events : World P → List Event} {Q : Unit → World P → Prop} : wp (commitMachine env m f events) Q E w ↔
    (env.works w.tick = true →
      (∀ store, f (w.withMachine m).app.profile (w.withMachine m).ticked = some store →
        Q () { (w.withMachine m).ticked with store, log := events (w.withMachine m).ticked ++ w.log }) ∧
      (f (w.withMachine m).app.profile (w.withMachine m).ticked = none →
        E "constraint failed" ((w.withMachine m).ticked.withMachine w.app.profile.machine))) ∧
    (¬env.works w.tick = true →
      E "database error" ((w.withMachine m).ticked.withMachine w.app.profile.machine)) := by
  show wp (Prog.onError (executeRecording env (f (w.withMachine m).app.profile) events)
    fun w' => w'.withMachine w.app.profile.machine) Q E (w.withMachine m) ↔ _
  rw [Prog.wp_onError, wp_executeRecording_iff]
  rfl

end

end TuiChat
