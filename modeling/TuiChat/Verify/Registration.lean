import TuiChat.Server.Live
import TuiChat.Verify.ServerScenario

/-!
# Live entries go with their connection

A connection is registered inside the handler that authenticates it, before the replies and the queued
events are sent, and it is unregistered by the device of its session, which the handler writes last. As long
as nothing fails between the two, no entry of a token is left when the connection's task has ended
(`registrations_cleaned`); a failing send or query there leaves one (`Scenario.FailedPush.entry_left`). A
program never takes away what another connection has registered, but by registering the device itself.
-/

namespace TuiChat

open Lib
open Lib.Proc (wp)

variable {env : ServerEnvironment} {P : Primitives}

/-- The connection has closed, and its task has ended. -/
structure Cluster.Ended (p : Cluster) (i : Nat) : Prop where
  closed : (p.locals i).closed = true
  task : p.tasks i = none

/-- Where a connection has entries and no session, its next action does not fail. -/
def Cluster.Unbroken (env : ServerEnvironment) (p : Cluster) : Cluster.Label → Prop
  | .advance i => p.shared.Carries i → (p.locals i).session = none → env.works p.shared.tick = true
  | _ => True

namespace Cluster

/-- A connection without a task is settled, and one with a task will be. -/
structure Tidy (env : ServerEnvironment) (p : Cluster) (i : Nat) : Prop where
  idle : p.tasks i = none → Rests i (p.world i)
  busy : ∀ m, p.tasks i = some m →
    m.wp (Rely env i) (Touches i) (fun _ => Rests i) (fun _ => Rests i) (p.world i)

variable {p p' : Cluster} {i : Nat}

theorem Tidy.loses (h : p.Tidy env i) {s : AppState} (hs : Loses i p.shared s) {c : Nat → Connection}
    {tasks : Nat → Option (Proc ServerWorld Error Unit)} (hc : c i = p.locals i) (ht : tasks i = p.tasks i) :
    Tidy env { shared := s, locals := c, tasks } i := by
  have settled : Rests i (p.world i) → Rests i (s, c i) := fun h => h.loses hs (by rw [hc]; rfl) (by rw [hc]; rfl)
  refine ⟨fun hnone => settled (h.idle (ht.symm.trans hnone)), fun m hm => ?_⟩
  refine (h.busy m (ht.symm.trans hm)).start (fun t hr => ⟨hs.trans hr.loses, ?_, hr.works⟩) (fun _ => settled) fun _ => settled
  rw [hr.alone]
  exact hc

theorem Tidy.started {m : Proc ServerWorld Error Unit}
    (hm : m.wp (Rely env i) (Touches i) (fun _ => Rests i) (fun _ => Rests i) (p.world i)) :
    Tidy env (p.start i m) i := by
  refine ⟨fun hnone => ?_, fun m' hm' => ?_⟩
  · rw [show (p.start i m).tasks i = some m from Function.update_self ..] at hnone
    cases hnone
  · rw [show (p.start i m).tasks i = some m from Function.update_self ..] at hm'
    cases hm'
    exact hm

theorem Tidy.advance (h : ∀ j, p.Tidy env j) (guard : p.Unbroken env (.advance i)) :
    (∀ j, Tidy env (p.advance i) j) ∧ Touches i (p.world i) ((p.advance i).world i) := by
  have hrely : Rely env i (p.world i) (p.world i) := ⟨.rfl, rfl, guard⟩
  unfold Pool.advance
  split
  · exact ⟨h, .of_eq rfl rfl⟩
  · next r hi =>
    refine ⟨fun j => ?_, .of_eq rfl rfl⟩
    by_cases hj : j = i
    · subst hj
      have hdone := (h j).busy _ hi
      have hsettled : Rests j (p.world j) := by
        cases r with
        | ok a => exact (Proc.wp_pure a).1 hdone
        | error e => exact (Proc.wp_fail e).1 hdone
      refine ⟨fun _ => hsettled, fun m hm => ?_⟩
      dsimp only at hm
      rw [Function.update_self] at hm
      cases hm
    · exact (h j).loses .rfl rfl (Function.update_of_ne hj ..)
  · next f k hi =>
    obtain ⟨htouches, hrest⟩ := (Proc.wp_act f k).1 ((h i).busy _ hi) (p.world i) hrely
    refine ⟨fun j => ?_, by simpa [Pool.world] using htouches⟩
    by_cases hj : j = i
    · subst hj
      refine ⟨fun hnone => ?_, fun m hm => ?_⟩
      · dsimp only at hnone
        rw [Function.update_self] at hnone
        cases hnone
      · dsimp only at hm
        rw [Function.update_self] at hm
        cases hm
        simpa [Pool.world] using hrest
    · exact (h j).loses (htouches.loses j hj) (Function.update_of_ne hj ..) (Function.update_of_ne hj ..)

theorem Tidy.step {l : Label} (h : ∀ j, p.Tidy env j) (guard : p.Unbroken env l)
    (hs : step env P p l = some p') : ∀ j, p'.Tidy env j := by
  have starts : ∀ {i : Nat} {m : Proc ServerWorld Error Unit},
      m.wp (Rely env i) (Touches i) (fun _ => Rests i) (fun _ => Rests i) (p.world i) →
      ∀ j, Tidy env (p.start i m) j := by
    intro i m hm j
    by_cases hj : j = i
    · subst hj
      exact .started hm
    · exact (h j).loses .rfl rfl (Function.update_of_ne hj ..)
  cases l with
  | incoming i m =>
    obtain ⟨hwaits, rfl⟩ := (Option.ite_none_right_eq_some).1 hs |>.imp_right Option.some.inj
    have hidle : p.tasks i = none ∧ (p.locals i).closed = false := by
      cases m <;> exact ⟨Option.isNone_iff_eq_none.1 hwaits.1, by simp_all [Waits]⟩
    exact starts (Ws.serve_settles m (((h i).idle hidle.1).opened hidle.2))
  | command i c =>
    obtain ⟨hwaits, rfl⟩ := (Option.ite_none_right_eq_some).1 hs |>.imp_right Option.some.inj
    exact starts (Ws.settles_of_aside (Admin.runCommand_aside c) ((h i).idle (Option.isNone_iff_eq_none.1 hwaits)))
  | advance i =>
    obtain ⟨-, rfl⟩ := (Option.ite_none_right_eq_some).1 hs |>.imp_right Option.some.inj
    exact (Tidy.advance h guard).1
  | crash =>
    cases hs
    refine fun j => ⟨fun _ hcarries => ?_, nofun⟩
    rcases hcarries with ⟨live, hlive, -⟩ | ⟨x, hx, -⟩
    · exact absurd hlive (Table.not_mem_empty live)
    · exact absurd hx (Table.not_mem_empty x)

theorem tidy (h : (serverSystem env P).ReachableUnder (Unbroken env) p) : ∀ j, p.Tidy env j :=
  h.invariant (I := fun p => ∀ j, p.Tidy env j)
    (fun p hp j => by
      subst hp
      refine ⟨fun _ hcarries => ?_, nofun⟩
      rcases hcarries with ⟨live, hlive, -⟩ | ⟨x, hx, -⟩
      · exact absurd hlive (Table.not_mem_empty live)
      · exact absurd hx (Table.not_mem_empty x))
    fun _ _ _ h guard hs => Tidy.step h guard hs

end Cluster

/-- In a run without such failures, an ended connection has left no entry, and an action of a connection's
task takes an entry of another away only by registering its device. -/
theorem registrations_cleaned {p : Cluster} (h : (serverSystem env P).ReachableUnder (Cluster.Unbroken env) p)
    (i : Nat) :
    (p.Ended i → ¬ p.shared.Carries i) ∧
    (p.Unbroken env (.advance i) → ∀ live ∈ p.shared.connections, live.token ≠ i →
      live ∈ (p.advance i).shared.connections ∨
        ∃ newer ∈ (p.advance i).shared.connections, newer.token = i ∧ newer.deviceId = live.deviceId) := by
  have htidy := Cluster.tidy h
  refine ⟨fun hended hcarries => ?_, fun guard => ((Cluster.Tidy.advance htidy guard).2).replaced⟩
  have hclosed := ((htidy i).idle hended.task hcarries).1
  have htrue : (p.locals i).closed = true := hended.closed
  rw [show (p.locals i).closed = false from hclosed] at htrue
  cases htrue

namespace Scenario.FailedPush

/-- The first query of the queued events fails, after the device was registered. -/
def failing : ServerEnvironment := { server with works := fun n => n ≠ 37 }

def run (env : ServerEnvironment) (p : Cluster) (t : Nat) (body : Body) : Cluster :=
  p.served env primitives t (.binary (.ok (frame "r" body)))

/-- The answer of a device to the challenge of a connection. -/
def proofOf (c : Connection) (username : String) (key : UInt8) : Body :=
  match c.challenge with
  | none => .listOwnDevices
  | some challenge => .deviceAuth
    { username
      deviceId := challenge.deviceId
      signature := primitives.sign (bytes32 key) (Ws.authChallengePayload server.publicDomain username
        challenge.deviceId challenge.nonce challenge.expiresAtMs) }

/-- Alice has a first device, which connects again. -/
def challenged (env : ServerEnvironment) : Cluster :=
  let p := (Cluster.initial env).commanded env 99 (.userAdd "alice" password)
  let p := run env p 0 (helloOf "alice" (uuid 'a'))
  let p := run env p 0 (passwordOf "alice" (uuid 'a'))
  let p := run env p 0 (bootstrapOf (uuid '1') (uuid 'a') 1 2)
  run env p 1 (helloOf "alice" (uuid 'a'))

/-- The device proves its key, and its connection closes. -/
def closed (env : ServerEnvironment) : Cluster :=
  (run env (challenged env) 1 (proofOf ((challenged env).locals 1) "alice" 2)).served env primitives 1 .closed

theorem closed_reachable (env : ServerEnvironment) : (serverSystem env primitives).Reachable (closed env) := by
  refine Cluster.served_reachable (Cluster.served_reachable ?_ 1 _) 1 .closed
  refine Cluster.served_reachable (Cluster.served_reachable ?_ 0 _) 1 _
  refine Cluster.served_reachable (Cluster.served_reachable ?_ 0 _) 0 _
  exact Cluster.commanded_reachable (.init rfl) 99 _

/-- Where everything works, nothing is left. -/
theorem registrations_cleaned_closed : (closed server).Ended 1 ∧ ¬ (closed server).shared.Carries 1 := by
  have hended : (closed server).Ended 1 := ⟨by decide +kernel, by decide +kernel⟩
  have hunder : (serverSystem server primitives).ReachableUnder (Cluster.Unbroken server) (closed server) :=
    (closed_reachable server).mono fun _ l _ => by
      cases l with
      | advance i => exact fun _ _ => rfl
      | _ => trivial
  exact ⟨hended, (registrations_cleaned hunder 1).1 hended⟩

/-- The device is shown as connected, by a connection that has ended. -/
theorem entry_left : (serverSystem failing primitives).Reachable (closed failing) ∧
    (closed failing).Ended 1 ∧ (closed failing).shared.Carries 1 := by
  have hfound : (closed failing).shared.connections.rows.any (fun live => live.token = 1) = true := by
    decide +kernel
  obtain ⟨live, hlive, htoken⟩ := List.any_eq_true.1 hfound
  exact ⟨closed_reachable failing, ⟨by decide +kernel, by decide +kernel⟩,
    .inl ⟨live, hlive, of_decide_eq_true htoken⟩⟩

end Scenario.FailedPush

end TuiChat
