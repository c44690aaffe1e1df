import Mathlib.Data.List.Basic

/-!
# Transition systems, guarded runs and logs

A system is a set of initial states and a labelled step relation. `ReachableUnder C` are the states
of the runs whose every step was taken where the guard `C` of state and label held; `Reachable` are
those of all runs. A safety property is proved by one invariant (`ReachableUnder.invariant`), and
refuted by replaying a list of labels (`reachable_of_replay`).
-/

namespace TuiChat.Lib

/-- Of a log that is kept newest first: every entry was made where `p` held of it and of the entries
before it. -/
def Recorded {ε : Type} (p : ε → List ε → Prop) : List ε → Prop
  | [] => True
  | e :: log => p e log ∧ Recorded p log

theorem Recorded.at {ε : Type} {p : ε → List ε → Prop} {e : ε} {pre : List ε} :
    ∀ {post : List ε}, Recorded p (post ++ e :: pre) → p e pre
  | [], h => h.1
  | _ :: _, h => Recorded.at h.2

/-- The labels of steps that lead from one state to another, in order. -/
inductive Path {σ ι : Type} (step : σ → ι → σ → Prop) : σ → List ι → σ → Prop
  | refl {s : σ} : Path step s [] s
  | tail {s s₁ s₂ : σ} {is : List ι} {i : ι} (h : Path step s is s₁) (hs : step s₁ i s₂) :
      Path step s (is ++ [i]) s₂

theorem Path.trans {σ ι : Type} {step : σ → ι → σ → Prop} {s s₁ s₂ : σ} {is is' : List ι}
    (h : Path step s is s₁) (h' : Path step s₁ is' s₂) : Path step s (is ++ is') s₂ := by
  induction h' with
  | refl =>
    rw [List.append_nil]
    exact h
  | tail _ hs ih =>
    rw [← List.append_assoc]
    exact .tail ih hs

/-- Initial states and labelled steps. -/
structure System (σ ι : Type) where
  init : σ → Prop
  step : σ → ι → σ → Prop

namespace System

variable {σ ι : Type} {S : System σ ι} {C D : σ → ι → Prop} {s : σ}

/-- The states of the runs whose steps all meet the guard `C`. -/
inductive ReachableUnder (S : System σ ι) (C : σ → ι → Prop) : σ → Prop
  | init {s : σ} (h : S.init s) : ReachableUnder S C s
  | step {s s' : σ} {i : ι} (h : ReachableUnder S C s) (guard : C s i) (step : S.step s i s') :
      ReachableUnder S C s'

/-- The states of all runs. -/
def Reachable (S : System σ ι) : σ → Prop := S.ReachableUnder fun _ _ => True

theorem ReachableUnder.mono (hCD : ∀ s i, C s i → D s i) (h : S.ReachableUnder C s) :
    S.ReachableUnder D s := by
  induction h with
  | init h => exact .init h
  | step _ guard step ih => exact .step ih (hCD _ _ guard) step

theorem ReachableUnder.reachable (h : S.ReachableUnder C s) : S.Reachable s :=
  h.mono fun _ _ _ => trivial

/-- What holds initially and is kept by every guarded step holds throughout the guarded runs. -/
theorem ReachableUnder.invariant {I : σ → Prop} (h : S.ReachableUnder C s)
    (init : ∀ s, S.init s → I s)
    (step : ∀ s i s', I s → C s i → S.step s i s' → I s') : I s := by
  induction h with
  | init h => exact init _ h
  | step _ guard hstep ih => exact step _ _ _ ih guard hstep

/-- A functional step relation: label `i` takes `s` to `f s i`, where that is defined. -/
def ofFun (init : σ → Prop) (f : σ → ι → Option σ) : System σ ι where
  init := init
  step s i s' := f s i = some s'

/-- The state after the listed labels, if every one of them can be taken. -/
def replay (f : σ → ι → Option σ) : σ → List ι → Option σ
  | s, [] => some s
  | s, i :: is => (f s i).bind fun s' => replay f s' is

theorem ReachableUnder.replay {init : σ → Prop} {f : σ → ι → Option σ} :
    ∀ {is : List ι} {s s' : σ}, (ofFun init f).Reachable s → replay f s is = some s' →
      (ofFun init f).Reachable s'
  | [], s, s', hs, h => by
    cases h; exact hs
  | i :: is, s, s', hs, h => by
    simp only [System.replay] at h
    obtain ⟨t, ht, h⟩ := Option.bind_eq_some_iff.1 h
    exact ReachableUnder.replay (.step hs trivial ht) h

/-- Labels that meet a condition, which no state has a part in. -/
theorem ReachableUnder.replay_under {init : σ → Prop} {f : σ → ι → Option σ} {D : ι → Prop} :
    ∀ {is : List ι} {s s' : σ}, (ofFun init f).ReachableUnder (fun _ i => D i) s → (∀ i ∈ is, D i) →
      System.replay f s is = some s' → (ofFun init f).ReachableUnder (fun _ i => D i) s'
  | [], s, s', hs, _, h => by
    cases h
    exact hs
  | i :: is, s, s', hs, hD, h => by
    simp only [System.replay] at h
    obtain ⟨t, ht, h⟩ := Option.bind_eq_some_iff.1 h
    have hi : D i := hD i List.mem_cons_self
    have his : ∀ j ∈ is, D j := fun j hj => hD j (List.mem_cons_of_mem i hj)
    exact ReachableUnder.replay_under (.step hs hi ht) his h

/-- A replay from an initial state ends in a reachable state. -/
theorem reachable_of_replay {init : σ → Prop} {f : σ → ι → Option σ} {is : List ι} {s s' : σ}
    (hs : init s) (h : replay f s is = some s') : (ofFun init f).Reachable s' :=
  ReachableUnder.replay (.init hs) h

end System

end TuiChat.Lib
