import TuiChat.Server.RequestSteps

/-!
# The runs of the server

In every run, every program guarantees its steps (`Cluster.Serving`), so that each label moves the
shared state and the connections as `Cluster.Moves` says: not at all, by a `ServerStep` of one program,
or by a crash. `Cluster.invariant` is the rule for what holds in every reachable state, and
`Cluster.invariant_under` the rule for runs whose steps all meet a condition.
-/

namespace TuiChat

open Lib

variable {env : ServerEnvironment} {P : Primitives}

/-- The device of a session is one that a challenge was taken for. -/
theorem ServerStep.took {i : Nat} {w w' : ServerWorld} (h : ServerStep env P i w w')
    (took : ∀ session, w.2.session = some session → w.2.Took session.deviceId) :
    ∀ session, w'.2.session = some session → w'.2.Took session.deviceId := by
  have grown : ∀ {c c' : Connection} {d : String}, c.log ⊆ c'.log → c.Took d → c'.Took d :=
    fun hl h => h.imp fun _ h => ⟨hl h.1, h.2⟩
  intro session hsession
  cases h with
  | authenticated f auth challenge account device n capabilities rest log =>
    cases hsession
    exact ⟨challenge, by simp [log], by assumption⟩
  | passwordAccepted f auth challenge row device n phc capabilities rest log =>
    cases hsession
    exact ⟨challenge, by simp [log], rfl⟩
  | bootstrapped old m id rest current =>
    cases hsession
    exact grown (List.Subset.refl _) (took old current)
  | passwordChanged old phc current =>
    cases hsession
    exact grown (List.Subset.refl _) (took old current)
  | wrote => exact grown (List.subset_append_right _ _) (took session hsession)
  | readAccount | readDevice | readClock | received | challenged | taken =>
    exact grown (List.subset_cons_self _ _) (took session hsession)
  | stayed | learned | sent | registered | unregistered | directory | bucket | closed =>
    exact grown (List.Subset.refl _) (took session hsession)

namespace Cluster

variable {p p' : Cluster} {l : Label}

/-! ## Runs in which nothing interferes -/

/-- A connection takes what it waited for, and its task runs to its end. -/
def served (env : ServerEnvironment) (P : Primitives) (p : Cluster) (i : Nat) (m : Ws.Incoming) : Cluster :=
  if Waits p i m then p.finish i (Ws.serve env P i m) else p

def commanded (env : ServerEnvironment) (p : Cluster) (i : Nat) (c : Admin.Command) : Cluster :=
  if (p.tasks i).isNone then p.finish i (Admin.runCommand env c) else p

theorem advance_reachable (h : (serverSystem env P).Reachable p) (i : Nat) :
    (serverSystem env P).Reachable (p.advance i) := by
  cases hi : p.tasks i with
  | none =>
    rw [show p.advance i = p by simp [Pool.advance, hi]]
    exact h
  | some m => exact .step h trivial (show step env P p (.advance i) = _ by simp [step, hi])

theorem advances_reachable (h : (serverSystem env P).Reachable p) (i n : Nat) :
    (serverSystem env P).Reachable ((fun q => q.advance i)^[n] p) := by
  induction n with
  | zero => exact h
  | succ n ih =>
    rw [Function.iterate_succ_apply']
    exact advance_reachable ih i

/-- A program that is started may run to its end. -/
theorem finish_reachable {i : Nat} {m : Proc ServerWorld Error Unit}
    (h : (serverSystem env P).Reachable (p.start i m)) : (serverSystem env P).Reachable (p.finish i m) := by
  obtain ⟨n, hn⟩ := Pool.exists_advance_start m p i
  rw [← hn]
  exact advances_reachable h i n

theorem served_reachable (h : (serverSystem env P).Reachable p) (i : Nat) (m : Ws.Incoming) :
    (serverSystem env P).Reachable (p.served env P i m) := by
  unfold served
  split
  · next hw => exact finish_reachable (.step h trivial (show step env P p (.incoming i m) = _ from if_pos hw))
  · exact h

theorem commanded_reachable (h : (serverSystem env P).Reachable p) (i : Nat) (c : Admin.Command) :
    (serverSystem env P).Reachable (p.commanded env i c) := by
  unfold commanded
  split
  · next hw => exact finish_reachable (.step h trivial (show step env P p (.command i c) = _ from if_pos hw))
  · exact h

/-! ## Steps -/

/-- What a label can do to the shared state and to the connections. -/
inductive Moves (env : ServerEnvironment) (P : Primitives) (p p' : Cluster) : Prop
  | waited (shared : p'.shared = p.shared) (locals : p'.locals = p.locals)
  | acted (i : Nat) (step : ServerStep env P i (p.world i) (p'.world i))
      (others : p'.locals = Function.update p.locals i (p'.locals i))
  | crashed (h : p' = p.crashed)

structure Serving (env : ServerEnvironment) (P : Primitives) (p : Cluster) : Prop where
  guaranteed : p.Guaranteed (Evolves env P) (ServerStep env P)
  took : ∀ i session, (p.locals i).session = some session → (p.locals i).Took session.deviceId

/-- A program's next action is a `ServerStep`, or it has none. -/
theorem Serving.advance (h : p.Serving env P) (i : Nat) :
    Serving env P (p.advance i) ∧
      ((p.advance i).shared = p.shared ∧ (p.advance i).locals = p.locals ∨
        ServerStep env P i (p.world i) ((p.advance i).world i) ∧
          (p.advance i).locals = Function.update p.locals i ((p.advance i).locals i)) := by
  obtain ⟨hg, hmoved⟩ := h.guaranteed.advance (fun _ _ _ h => h.evolves) i
  refine ⟨⟨hg, ?_⟩, hmoved⟩
  rcases hmoved with ⟨-, hlocals⟩ | ⟨hstep, hothers⟩
  · rw [hlocals]
    exact h.took
  · intro j session hsession
    by_cases hj : j = i
    · subst hj
      exact hstep.took (h.took j) session hsession
    · rw [hothers, Function.update_of_ne hj] at hsession ⊢
      exact h.took j session hsession

theorem Serving.step (h : p.Serving env P) (hs : step env P p l = some p') :
    p'.Serving env P ∧ p.Moves env P p' := by
  cases l with
  | incoming i m =>
    obtain ⟨_, hp'⟩ := Option.ite_none_right_eq_some.1 hs
    cases hp'
    exact ⟨⟨h.guaranteed.start (Ws.serve_serves (h.took i) m), h.took⟩, .waited rfl rfl⟩
  | command i c =>
    obtain ⟨_, hp'⟩ := Option.ite_none_right_eq_some.1 hs
    cases hp'
    exact ⟨⟨h.guaranteed.start (Admin.keeps_runCommand c).serves, h.took⟩, .waited rfl rfl⟩
  | advance i =>
    obtain ⟨_, hp'⟩ := Option.ite_none_right_eq_some.1 hs
    cases hp'
    obtain ⟨hserving, ⟨hshared, hlocals⟩ | ⟨hstep, hothers⟩⟩ := h.advance i
    · exact ⟨hserving, .waited hshared hlocals⟩
    · exact ⟨hserving, .acted i hstep hothers⟩
  | crash =>
    cases hs
    exact ⟨⟨fun _ _ hm => (nomatch hm), h.took⟩, .crashed rfl⟩

theorem serving (h : (serverSystem env P).Reachable p) : p.Serving env P :=
  h.invariant (I := Serving env P)
    (fun _ hp => by
      subst hp
      exact ⟨fun _ _ hm => (nomatch hm), fun _ _ hs => (nomatch hs)⟩)
    fun _ _ _ hp _ hs => (hp.step hs).1

/-- A condition on the actions of programs: the shared state before, the connection whose program acts,
and the shared state after. -/
def Meets (G : AppState → Connection → AppState → Prop) (p : Cluster) : Label → Prop
  | .advance i => G p.shared (p.locals i) (p.advance i).shared
  | _ => True

/-- A program that is started may run to its end under a condition that its own actions meet. -/
theorem finish_reachable_under {G : AppState → Connection → AppState → Prop}
    {m : Proc ServerWorld Error Unit} : ∀ {p : Cluster} {i : Nat},
      (serverSystem env P).ReachableUnder (Meets G) (p.start i m) →
      m.always (fun w w' => G w.1 w.2 w'.1) (p.world i) →
      (serverSystem env P).ReachableUnder (Meets G) (p.finish i m) := by
  have advances : ∀ {q : Cluster} {i : Nat}, (serverSystem env P).ReachableUnder (Meets G) q →
      (q.tasks i).isSome → G q.shared (q.locals i) (q.advance i).shared →
      (serverSystem env P).ReachableUnder (Meets G) (q.advance i) := by
    intro q i h hi hG
    exact h.step (i := .advance i) hG (show step env P q (.advance i) = _ from if_pos hi)
  induction m with
  | done r =>
    intro p i h hG
    have hfinish : (p.start i (.done r)).advance i = p.finish i (.done r) := by
      simp [Pool.start, Pool.advance, Pool.finish, Proc.exec, Pool.world]
    rw [← hfinish]
    refine advances h (by simp [Pool.start]) ?_
    rw [hfinish]
    exact hG
  | act f k ih =>
    intro p i h hG
    let p₁ : Cluster :=
      { shared := (f (p.world i)).1
        locals := Function.update p.locals i (f (p.world i)).2
        tasks := p.tasks }
    have hadvance : (p.start i (.act f k)).advance i = p₁.start i (k (p.world i)) := by
      simp [p₁, Pool.start, Pool.advance, Pool.world]
    have hfinish : p₁.finish i (k (p.world i)) = p.finish i (.act f k) := by
      simp [p₁, Pool.finish, Proc.exec, Pool.world]
    rw [← hfinish]
    refine ih (p.world i) ?_ ?_
    · rw [← hadvance]
      refine advances h (by simp [Pool.start]) ?_
      rw [hadvance]
      exact hG.1
    · have hworld : p₁.world i = f (p.world i) := by simp [p₁, Pool.world]
      rw [hworld]
      exact hG.2

/-- What holds of the first state, and is kept by every step that meets the condition and by a crash,
holds in every run whose steps meet it. -/
theorem invariant_under {G : AppState → Connection → AppState → Prop}
    {I : AppState → (Nat → Connection) → Prop}
    (h : (serverSystem env P).ReachableUnder (Meets G) p)
    (initial : I .initial fun _ => .new env.requestBurst)
    (step : ∀ i s cs s' c', I s cs → G s (cs i) s' → ServerStep env P i (s, cs i) (s', c') →
      I s' (Function.update cs i c'))
    (crash : ∀ s cs, I s cs → I s.crashed fun i => (cs i).crashed) : I p.shared p.locals := by
  have hall : p.Serving env P ∧ I p.shared p.locals :=
    h.invariant (I := fun p => p.Serving env P ∧ I p.shared p.locals)
      (fun q hq => ⟨serving (.init hq), by subst hq; exact initial⟩)
      (fun q l q' ⟨hq, hI⟩ guard hs => ⟨(hq.step hs).1, by
        cases l with
        | incoming i m =>
          obtain ⟨_, hq'⟩ := Option.ite_none_right_eq_some.1 hs
          cases hq'
          exact hI
        | command i c =>
          obtain ⟨_, hq'⟩ := Option.ite_none_right_eq_some.1 hs
          cases hq'
          exact hI
        | advance i =>
          obtain ⟨_, hq'⟩ := Option.ite_none_right_eq_some.1 hs
          cases hq'
          obtain ⟨-, ⟨hshared, hlocals⟩ | ⟨hstep, hothers⟩⟩ := hq.advance i
          · rwa [hshared, hlocals]
          · rw [hothers]
            exact step i _ _ _ _ hI guard hstep
        | crash =>
          cases hs
          exact crash _ _ hI⟩)
  exact hall.2

/-- What holds of the first state, and is kept by every step and by a crash, holds in every run. -/
theorem invariant {I : AppState → (Nat → Connection) → Prop} (h : (serverSystem env P).Reachable p)
    (initial : I .initial fun _ => .new env.requestBurst)
    (step : ∀ i s cs s' c', I s cs → ServerStep env P i (s, cs i) (s', c') →
      I s' (Function.update cs i c'))
    (crash : ∀ s cs, I s cs → I s.crashed fun i => (cs i).crashed) : I p.shared p.locals :=
  invariant_under (G := fun _ _ _ => True) (h.mono fun _ l _ => by cases l <;> trivial) initial
    (fun i s cs s' c' hI _ => step i s cs s' c' hI) crash

/-- A rule for what is said of one connection alone. -/
theorem invariant_connection {I : Connection → Prop} (h : (serverSystem env P).Reachable p)
    (initial : I (.new env.requestBurst))
    (step : ∀ i s c s' c', I c → ServerStep env P i (s, c) (s', c') → I c')
    (crash : ∀ c, I c → I c.crashed) (i : Nat) : I (p.locals i) := by
  refine invariant (I := fun _ cs => ∀ j, I (cs j)) h (fun _ => initial) (fun i s cs s' c' hI hs j => ?_)
    (fun _ _ hI j => crash _ (hI j)) i
  by_cases hj : j = i
  · subst hj
    rw [Function.update_self]
    exact step j _ _ _ _ (hI j) hs
  · rw [Function.update_of_ne hj]
    exact hI j

end Cluster

end TuiChat
