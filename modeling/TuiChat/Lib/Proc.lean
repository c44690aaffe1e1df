import Mathlib.Logic.Function.Basic
import Mathlib.Logic.Function.Iterate
import Mathlib.Order.Defs.Unbundled

/-!
# Programs that others interfere with

`Proc σ ε α` is a program whose actions are atomic and whose state others may change between them:
an `async fn`, cut where it waits. `done` is its end; `act f k` changes the state by `f` and goes on
as `k` says, of the state it found.

`wp R G m Q E s` is the rely-guarantee triple: if what the others do between two actions is along
`R`, then every action of `m` is a `G` step, and the end is as `Q` and `E` say. Its rules for
`pure`, `bind` and the primitives are equations. `Moves` is the triple of a program that needs
nothing of the state it starts in, and `All` is that of one whose actions are of a kind in every state. In a program
that is `Once A B`, at most one action is of another kind than the others.

A `Pool` runs any number of programs, each on the shared state and a state of its own. If the steps
one program guarantees are among those the others rely on, every action of every program is a step it
guarantees (`Pool.Guaranteed.advance`).
-/

namespace TuiChat.Lib

/-- A program over `σ` that may stop with an `ε`, action by action. -/
inductive Proc (σ ε α : Type) : Type
  | done (r : Except ε α)
  | act (f : σ → σ) (k : σ → Proc σ ε α)

namespace Proc

variable {σ ε α β : Type}

protected def bind : Proc σ ε β → (β → Proc σ ε α) → Proc σ ε α
  | done (.ok b), g => g b
  | done (.error e), _ => done (.error e)
  | act f k, g => act f fun s => (k s).bind g

instance : Monad (Proc σ ε) where
  pure a := done (.ok a)
  bind := Proc.bind

theorem bind_assoc {γ : Type} (m : Proc σ ε α) (f : α → Proc σ ε β) (g : β → Proc σ ε γ) :
    m >>= f >>= g = m >>= fun a => f a >>= g := by
  show (m.bind f).bind g = m.bind fun a => (f a).bind g
  induction m with
  | done r => cases r <;> rfl
  | act h k ih => exact congrArg (act h) (funext fun s => ih s)

/-- One action, with its result or its failure. -/
def atomically (f : σ → Except ε α × σ) : Proc σ ε α := act (fun s => (f s).2) fun s => done (f s).1

/-- Stop with an error. -/
def fail (e : ε) : Proc σ ε α := done (.error e)

/-- Stop with `e` unless the condition holds: `if !c { bail!(e) }`. -/
def ensure (c : Prop) [Decidable c] (e : ε) : Proc σ ε Unit := if c then done (.ok ()) else fail e

/-- The value of an option, or stop with `e`. -/
def orFail (o : Option α) (e : ε) : Proc σ ε α :=
  match o with
  | some a => done (.ok a)
  | none => fail e

/-- The value of a pure computation, or its error. -/
def ofExcept (r : Except ε α) : Proc σ ε α := done r

/-- How `m` ended, as a value. -/
def caught : Proc σ ε α → Proc σ ε (Except ε α)
  | done r => done (.ok r)
  | act f k => act f fun s => caught (k s)

/-- Run a program on every element, in order. -/
def each (f : α → Proc σ ε Unit) : List α → Proc σ ε Unit
  | [] => done (.ok ())
  | a :: as => Proc.bind (f a) fun _ => each f as

/-- The run that nothing interferes with. -/
def exec : Proc σ ε α → σ → Except ε α × σ
  | done r, s => (r, s)
  | act f k, s => (k s).exec (f s)

/-- The number of actions of that run. -/
def actions : Proc σ ε α → σ → Nat
  | done _, _ => 0
  | act f k, s => (k s).actions (f s) + 1

/-- The state when that run is cut off after `n` actions. -/
def cut : Nat → Proc σ ε α → σ → σ
  | _, done _, s => s
  | 0, act _ _, s => s
  | n + 1, act f k, s => (k s).cut n (f s)

/-- The actions of that run are `G` steps, and so is staying where it ends. -/
def always (G : σ → σ → Prop) : Proc σ ε α → σ → Prop
  | done _, s => G s s
  | act f k, s => G s (f s) ∧ (k s).always G (f s)

instance decidableAlways (G : σ → σ → Prop) [DecidableRel G] :
    ∀ (m : Proc σ ε α) (s : σ), Decidable (m.always G s)
  | done _, s => inferInstanceAs (Decidable (G s s))
  | act f k, s =>
    have := decidableAlways G (k s) (f s)
    inferInstanceAs (Decidable (G s (f s) ∧ (k s).always G (f s)))

/-! ## Runs that are cut off -/

section

variable {m : Proc σ ε β} {g : β → Proc σ ε α} {n : Nat} {s : σ}

theorem exec_bind (m : Proc σ ε β) (g : β → Proc σ ε α) (s : σ) :
    (m >>= g).exec s = match m.exec s with
      | (.ok b, s') => (g b).exec s'
      | (.error e, s') => (.error e, s') := by
  show (m.bind g).exec s = _
  induction m generalizing s with
  | done r => cases r <;> rfl
  | act f k ih => exact ih s (f s)

theorem exec_bind_eq_ok {a : α} {s' : σ} : (m >>= g).exec s = (.ok a, s') ↔
    ∃ b s₁, m.exec s = (.ok b, s₁) ∧ (g b).exec s₁ = (.ok a, s') := by
  rw [exec_bind]
  rcases m.exec s with ⟨e | b, s₁⟩
  · exact ⟨fun h => (nomatch h), fun ⟨_, _, h, _⟩ => (nomatch h)⟩
  · constructor
    · exact fun h => ⟨b, s₁, rfl, h⟩
    · rintro ⟨_, _, hb, h⟩
      cases hb
      exact h

theorem exec_ensure_eq_ok {c : Prop} [Decidable c] {e : ε} {u : Unit} {s' : σ} :
    (ensure c e : Proc σ ε Unit).exec s = (.ok u, s') ↔ c ∧ s' = s := by
  unfold ensure
  split
  · next h => exact ⟨fun hs => ⟨h, (Prod.mk.inj hs).2.symm⟩, fun hs => by rw [hs.2]; rfl⟩
  · next h => exact ⟨fun hs => (nomatch hs), fun hs => absurd hs.1 h⟩

theorem exec_orFail_eq_ok {o : Option α} {e : ε} {a : α} {s' : σ} :
    (orFail o e : Proc σ ε α).exec s = (.ok a, s') ↔ o = some a ∧ s' = s := by
  cases o with
  | none => exact ⟨fun h => (nomatch h), fun h => (nomatch h.1)⟩
  | some b =>
    constructor
    · intro h
      cases h
      exact ⟨rfl, rfl⟩
    · rintro ⟨h, rfl⟩
      cases h
      rfl

theorem exec_pure_eq_ok {a b : α} {s' : σ} :
    (pure a : Proc σ ε α).exec s = (.ok b, s') ↔ b = a ∧ s' = s := by
  constructor
  · intro h
    cases h
    exact ⟨rfl, rfl⟩
  · rintro ⟨rfl, rfl⟩
    rfl

theorem actions_bind {b : β} {s' : σ} (hm : m.exec s = (.ok b, s')) :
    (m >>= g).actions s = m.actions s + (g b).actions s' := by
  show (m.bind g).actions s = _
  induction m generalizing s with
  | done r =>
    cases hm
    exact (Nat.zero_add _).symm
  | act f k ih =>
    show ((k s).bind g).actions (f s) + 1 = (k s).actions (f s) + 1 + _
    rw [ih s hm, Nat.add_right_comm]

/-- A run that is cut off in its first part. -/
theorem cut_bind_of_lt (h : n < m.actions s) : (m >>= g).cut n s = m.cut n s := by
  show (m.bind g).cut n s = _
  induction m generalizing s n with
  | done r => cases h
  | act f k ih =>
    cases n with
    | zero => rfl
    | succ n => exact ih s (Nat.lt_of_succ_lt_succ h)

/-- A run whose first part ended. -/
theorem cut_bind_of_ok {b : β} {s' : σ} (hm : m.exec s = (.ok b, s')) (h : m.actions s ≤ n) :
    (m >>= g).cut n s = (g b).cut (n - m.actions s) s' := by
  show (m.bind g).cut n s = _
  induction m generalizing s n with
  | done r =>
    cases hm
    rfl
  | act f k ih =>
    cases n with
    | zero => cases h
    | succ n =>
      rw [show (act f k).actions s = (k s).actions (f s) + 1 from rfl, Nat.succ_sub_succ]
      exact ih s hm (Nat.le_of_succ_le_succ h)

/-- A run whose first part failed. -/
theorem cut_bind_of_error {e : ε} {s' : σ} (hm : m.exec s = (.error e, s')) (h : m.actions s ≤ n) :
    (m >>= g).cut n s = s' := by
  show (m.bind g).cut n s = _
  induction m generalizing s n with
  | done r =>
    cases hm
    cases n <;> rfl
  | act f k ih =>
    cases n with
    | zero => cases h
    | succ n => exact ih s hm (Nat.le_of_succ_le_succ h)

/-- A run that is not cut off. -/
theorem cut_eq_exec {m : Proc σ ε α} (h : m.actions s ≤ n) : m.cut n s = (m.exec s).2 := by
  induction m generalizing s n with
  | done r => cases n <;> rfl
  | act f k ih =>
    cases n with
    | zero => cases h
    | succ n => exact ih s (Nat.le_of_succ_le_succ h)

@[simp] theorem cut_zero (m : Proc σ ε α) (s : σ) : m.cut 0 s = s := by cases m <;> rfl

theorem cut_succ_atomically_bind {f : σ → Except ε β × σ} {b : β} (h : (f s).1 = .ok b) :
    (atomically f >>= g).cut (n + 1) s = (g b).cut n (f s).2 := by
  show ((done (f s).1).bind g).cut n (f s).2 = _
  rw [h]
  rfl

/-- A property of the state at every point of the run, by its parts. -/
theorem cut_bind {I : σ → Prop} (hm : ∀ n, I (m.cut n s))
    (hg : ∀ b s', m.exec s = (.ok b, s') → ∀ n, I ((g b).cut n s')) (n : Nat) :
    I ((m >>= g).cut n s) := by
  by_cases h : n < m.actions s
  · rw [cut_bind_of_lt h]
    exact hm n
  · have hle : m.actions s ≤ n := Nat.not_lt.1 h
    rcases hexec : m.exec s with ⟨e | b, s'⟩
    · have hs' := hm n
      rw [cut_eq_exec hle, hexec] at hs'
      rw [cut_bind_of_error hexec hle]
      exact hs'
    · rw [cut_bind_of_ok hexec hle]
      exact hg b s' hexec _

/-- After `n` actions of the run, what is left of `m` is `m'`, in `s'`. -/
structure Passes (m : Proc σ ε α) (s : σ) (n : Nat) (m' : Proc σ ε α) (s' : σ) : Prop where
  cut : ∀ k, m.cut (n + k) s = m'.cut k s'
  actions : m.actions s = n + m'.actions s'

theorem Passes.bind {b : β} {s' : σ} (hm : m.exec s = (.ok b, s')) (hn : m.actions s = n) :
    Passes (m >>= g) s n (g b) s' where
  cut k := by
    rw [cut_bind_of_ok hm (by omega), hn, Nat.add_sub_cancel_left]
  actions := by rw [actions_bind hm, hn]

theorem Passes.trans {m₁ m₂ m₃ : Proc σ ε α} {s₁ s₂ s₃ : σ} {k : Nat} (h : Passes m₁ s₁ n m₂ s₂)
    (h' : Passes m₂ s₂ k m₃ s₃) : Passes m₁ s₁ (n + k) m₃ s₃ where
  cut j := by rw [Nat.add_assoc, h.cut, h'.cut]
  actions := by rw [h.actions, h'.actions, Nat.add_assoc]

/-- What comes to hold with the last action of a run, if `C`, and else not at all. -/
def EndsWith (A : σ → Prop) (C : Prop) (m : Proc σ ε α) (s : σ) : Prop :=
  ∀ n, A (m.cut n s) ↔ C ∧ m.actions s ≤ n

theorem EndsWith.congr {A : σ → Prop} {C C' : Prop} {m : Proc σ ε α} (h : EndsWith A C m s) (hC : C ↔ C') :
    EndsWith A C' m s := fun n => (h n).trans (and_congr_left fun _ => hC)

theorem EndsWith.bind {A : σ → Prop} {C : Prop} {b : β} {s' : σ} (hm : ∀ n, ¬A (m.cut n s))
    (hexec : m.exec s = (.ok b, s')) (hg : EndsWith A C (g b) s') : EndsWith A C (m >>= g) s := by
  intro n
  have hactions : (m >>= g).actions s = m.actions s + (g b).actions s' := actions_bind hexec
  by_cases h : n < m.actions s
  · rw [cut_bind_of_lt h, hactions]
    exact ⟨fun hA => absurd hA (hm n), fun hC => by omega⟩
  · rw [cut_bind_of_ok hexec (Nat.not_lt.1 h), hactions, hg]
    exact and_congr_right fun _ => by omega

theorem EndsWith.error {A : σ → Prop} {C : Prop} {e : ε} {s' : σ} (hm : ∀ n, ¬A (m.cut n s))
    (hexec : m.exec s = (.error e, s')) (hC : ¬C) : EndsWith A C (m >>= g) s := fun n =>
  have hn : ¬A ((m >>= g).cut n s) := cut_bind (I := fun s => ¬A s) hm (fun b s'' h => by
    rw [hexec] at h
    cases h) n
  ⟨fun h => absurd h hn, fun h => absurd h.1 hC⟩

end

/-! ## The triple -/

section

variable (R G : σ → σ → Prop)

/-- Every action of `m` is a `G` step and its end is as stated, as long as the others move along `R`. -/
def wp : Proc σ ε α → (α → σ → Prop) → (ε → σ → Prop) → σ → Prop
  | done (.ok a), Q, _, s => Q a s
  | done (.error e), _, E, s => E e s
  | act f k, Q, E, s => ∀ s', R s s' → G s' (f s') ∧ wp (k s') Q E (f s')

end

variable {R G T : σ → σ → Prop} {Q Q' : α → σ → Prop} {E E' : ε → σ → Prop} {s : σ}

@[simp] theorem wp_pure (a : α) : wp R G (pure a : Proc σ ε α) Q E s ↔ Q a s := Iff.rfl

@[simp] theorem wp_fail (e : ε) : wp R G (fail e : Proc σ ε α) Q E s ↔ E e s := Iff.rfl

theorem wp_act (f : σ → σ) (k : σ → Proc σ ε α) :
    wp R G (act f k) Q E s ↔ ∀ s', R s s' → G s' (f s') ∧ wp R G (k s') Q E (f s') := Iff.rfl

@[simp] theorem wp_bind (m : Proc σ ε β) (g : β → Proc σ ε α) :
    wp R G (m >>= g) Q E s ↔ wp R G m (fun b => wp R G (g b) Q E) E s := by
  show wp R G (m.bind g) Q E s ↔ _
  induction m generalizing s with
  | done r => cases r <;> rfl
  | act f k ih =>
    constructor
    · intro h s' hs
      exact ⟨(h s' hs).1, (ih s').1 (h s' hs).2⟩
    · intro h s' hs
      exact ⟨(h s' hs).1, (ih s').2 (h s' hs).2⟩

@[simp] theorem wp_atomically (f : σ → Except ε α × σ) :
    wp R G (atomically f) Q E s ↔ ∀ s', R s s' → G s' (f s').2 ∧
      (∀ a, (f s').1 = .ok a → Q a (f s').2) ∧ (∀ e, (f s').1 = .error e → E e (f s').2) := by
  refine forall₂_congr fun s' _ => and_congr_right fun _ => ?_
  show wp R G (done (f s').1) Q E (f s').2 ↔ _
  rcases (f s').1 with e | a
  · constructor
    · intro h
      exact ⟨fun _ ha => (nomatch ha), fun _ he => by cases he; exact h⟩
    · intro h
      exact h.2 e rfl
  · constructor
    · intro h
      exact ⟨fun _ ha => by cases ha; exact h, fun _ he => (nomatch he)⟩
    · intro h
      exact h.1 a rfl

@[simp] theorem wp_ensure (c : Prop) [Decidable c] (e : ε) {Q : Unit → σ → Prop} :
    wp R G (ensure c e : Proc σ ε Unit) Q E s ↔ (c → Q () s) ∧ (¬c → E e s) := by
  unfold ensure
  split
  · next h => exact ⟨fun q => ⟨fun _ => q, fun n => absurd h n⟩, fun q => q.1 h⟩
  · next h => exact ⟨fun q => ⟨fun n => absurd n h, fun _ => q⟩, fun q => q.2 h⟩

@[simp] theorem wp_orFail (o : Option α) (e : ε) :
    wp R G (orFail o e : Proc σ ε α) Q E s ↔ (∀ a, o = some a → Q a s) ∧ (o = none → E e s) := by
  cases o with
  | none => exact ⟨fun h => ⟨fun _ h' => (nomatch h'), fun _ => h⟩, fun h => h.2 rfl⟩
  | some a => exact ⟨fun h => ⟨fun b hb => by cases hb; exact h, fun h' => (nomatch h')⟩, fun h => h.1 a rfl⟩

@[simp] theorem wp_ofExcept (r : Except ε α) :
    wp R G (ofExcept r : Proc σ ε α) Q E s ↔ (∀ a, r = .ok a → Q a s) ∧ (∀ e, r = .error e → E e s) := by
  cases r with
  | error e => exact ⟨fun h => ⟨fun _ h' => (nomatch h'), fun b hb => by cases hb; exact h⟩, fun h => h.2 e rfl⟩
  | ok a => exact ⟨fun h => ⟨fun b hb => by cases hb; exact h, fun _ h' => (nomatch h')⟩, fun h => h.1 a rfl⟩

@[simp] theorem wp_ite (c : Prop) [Decidable c] (m n : Proc σ ε α) :
    wp R G (if c then m else n) Q E s ↔ (c → wp R G m Q E s) ∧ (¬c → wp R G n Q E s) := by
  split
  · next h => exact ⟨fun q => ⟨fun _ => q, fun n => absurd h n⟩, fun q => q.1 h⟩
  · next h => exact ⟨fun q => ⟨fun n => absurd n h, fun _ => q⟩, fun q => q.2 h⟩

@[simp] theorem wp_caught (m : Proc σ ε α) {Q : Except ε α → σ → Prop} :
    wp R G (caught m) Q E s ↔ wp R G m (fun a => Q (.ok a)) (fun e => Q (.error e)) s := by
  induction m generalizing s with
  | done r => cases r <;> rfl
  | act f k ih =>
    constructor
    · intro h s' hs
      exact ⟨(h s' hs).1, (ih s').1 (h s' hs).2⟩
    · intro h s' hs
      exact ⟨(h s' hs).1, (ih s').2 (h s' hs).2⟩

/-- The rule of consequence. -/
theorem wp.mono {G' : σ → σ → Prop} {m : Proc σ ε α} (h : wp R G m Q E s)
    (hG : ∀ s s', G s s' → G' s s') (hQ : ∀ a s', Q a s' → Q' a s') (hE : ∀ e s', E e s' → E' e s') :
    wp R G' m Q' E' s := by
  induction m generalizing s with
  | done r =>
    cases r with
    | error e => exact hE _ _ h
    | ok a => exact hQ _ _ h
  | act f k ih =>
    intro s' hs
    exact ⟨hG _ _ (h s' hs).1, ih s' (h s' hs).2⟩

/-- What is said of a program twice. -/
theorem wp.and {G' : σ → σ → Prop} {m : Proc σ ε α} (h : wp R G m Q E s) (h' : wp R G' m Q' E' s) :
    wp R (fun s s' => G s s' ∧ G' s s') m (fun a s => Q a s ∧ Q' a s) (fun e s => E e s ∧ E' e s) s := by
  induction m generalizing s with
  | done r =>
    cases r with
    | error e => exact ⟨h, h'⟩
    | ok a => exact ⟨h, h'⟩
  | act f k ih =>
    intro s' hs
    exact ⟨⟨(h s' hs).1, (h' s' hs).1⟩, ih s' (h s' hs).2 (h' s' hs).2⟩

/-- The rule of sequencing. -/
theorem wp.bind {m : Proc σ ε β} {g : β → Proc σ ε α} {I : β → σ → Prop} (h : wp R G m I E s)
    (hg : ∀ b s', I b s' → wp R G (g b) Q E s') : wp R G (m >>= g) Q E s :=
  (wp_bind m g).2 (h.mono (fun _ _ h => h) hg fun _ _ h => h)

theorem wp.ensure {c : Prop} [Decidable c] {e : ε} {g : Unit → Proc σ ε α} (hE : E e s)
    (hg : c → wp R G (g ()) Q E s) : wp R G (Proc.ensure c e >>= g) Q E s := by
  rw [wp_bind, wp_ensure]
  exact ⟨hg, fun _ => hE⟩

theorem wp.orFail {o : Option β} {e : ε} {g : β → Proc σ ε α} (hE : E e s)
    (hg : ∀ b, o = some b → wp R G (g b) Q E s) : wp R G (Proc.orFail o e >>= g) Q E s := by
  rw [wp_bind, wp_orFail]
  exact ⟨hg, fun _ => hE⟩

theorem wp.ofExcept {r : Except ε β} {g : β → Proc σ ε α} (hE : ∀ e, E e s)
    (hg : ∀ b, r = .ok b → wp R G (g b) Q E s) : wp R G (Proc.ofExcept r >>= g) Q E s := by
  rw [wp_bind, wp_ofExcept]
  exact ⟨hg, fun e _ => hE e⟩

/-- A program that has not begun may start elsewhere, if what the others do from there is covered. -/
theorem wp.start {m : Proc σ ε α} {s s' : σ} (h : wp R G m Q E s) (hR : ∀ t, R s' t → R s t)
    (hQ : ∀ a, Q a s → Q a s') (hE : ∀ e, E e s → E e s') : wp R G m Q E s' := by
  cases m with
  | done r =>
    cases r with
    | error e => exact hE _ h
    | ok a => exact hQ _ h
  | act f k => exact fun t ht => h t (hR t ht)

/-- A program that has not begun may wait: what the others do before its first action is covered. -/
theorem wp.wait [IsTrans σ R] {m : Proc σ ε α} {s s' : σ} (h : wp R G m Q E s) (hs : R s s')
    (hQ : ∀ a, Q a s → Q a s') (hE : ∀ e, E e s → E e s') : wp R G m Q E s' :=
  h.start (fun _ ht => IsTrans.trans _ _ _ hs ht) hQ hE

/-- How the run ends that nothing interferes with. -/
theorem wp.exec_ok [Std.Refl R] {m : Proc σ ε α} {a : α} {s' : σ} (h : wp R G m Q E s)
    (hexec : m.exec s = (.ok a, s')) : Q a s' := by
  induction m generalizing s with
  | done r =>
    cases hexec
    exact h
  | act f k ih => exact ih s (h s (refl_of R s)).2 hexec

theorem wp.exec_error [Std.Refl R] {m : Proc σ ε α} {e : ε} {s' : σ} (h : wp R G m Q E s)
    (hexec : m.exec s = (.error e, s')) : E e s' := by
  induction m generalizing s with
  | done r =>
    cases hexec
    exact h
  | act f k ih => exact ih s (h s (refl_of R s)).2 hexec

-- A program is taken apart by the rules above; unfolding it would run it.
attribute [irreducible] wp

/-! ## Programs that need nothing of their start -/

/-- From every state, the actions of `m` are `G` steps, and together with what the others do they
move the state along `T`. -/
def Moves (R G T : σ → σ → Prop) (m : Proc σ ε α) : Prop := ∀ s, wp R G m (fun _ => T s) (fun _ => T s) s

namespace Moves

variable {m : Proc σ ε α}

/-- A program that moves along `T`, before another. -/
theorem wp_bind {m : Proc σ ε β} (h : Moves R G T m) {g : β → Proc σ ε α}
    (hE : ∀ e s', T s s' → E e s') (hg : ∀ b s', T s s' → Proc.wp R G (g b) Q E s') :
    Proc.wp R G (m >>= g) Q E s :=
  (Proc.wp_bind m g).2 ((h s).mono (fun _ _ h => h) hg hE)

theorem atomically {f : σ → Except ε α × σ} (h : ∀ s s', R s s' → G s' (f s').2 ∧ T s (f s').2) :
    Moves R G T (atomically f) := fun s => by
  rw [wp_atomically]
  intro s' hs
  exact ⟨(h s s' hs).1, fun _ _ => (h s s' hs).2, fun _ _ => (h s s' hs).2⟩

protected theorem ite {c : Prop} [Decidable c] {n : Proc σ ε α} (hm : c → Moves R G T m)
    (hn : ¬c → Moves R G T n) : Moves R G T (if c then m else n) := by
  split
  · next h => exact hm h
  · next h => exact hn h

protected theorem caught (h : Moves R G T m) : Moves R G T (caught m) :=
  fun s => (wp_caught m).2 (h s)

/-- What every action keeps, holds at every point of a run. -/
theorem cut {I : σ → Prop} [Std.Refl R] (h : Moves R (fun s s' => I s → I s') T m) (hs : I s) (n : Nat) :
    I (m.cut n s) := by
  have hrun : wp R (fun s s' => I s → I s') m (fun _ _ => True) (fun _ _ => True) s :=
    (h s).mono (fun _ _ h => h) (fun _ _ _ => trivial) fun _ _ _ => trivial
  clear h
  induction m generalizing s n with
  | done r => cases n <;> exact hs
  | act f k ih =>
    cases n with
    | zero => exact hs
    | succ n =>
      have hact := (wp_act f k).1 hrun s (refl_of R s)
      exact ih s (hact.1 hs) n hact.2

theorem exec {I : σ → Prop} [Std.Refl R] (h : Moves R (fun s s' => I s → I s') T m) (hs : I s) :
    I (m.exec s).2 := by
  rw [← cut_eq_exec (Nat.le_refl (m.actions s))]
  exact h.cut hs _

section Preorder

variable [Std.Refl T]

protected theorem pure (a : α) : Moves R G T (pure a : Proc σ ε α) := fun s =>
  (wp_pure a).2 (refl_of T s)

protected theorem fail (e : ε) : Moves R G T (fail e : Proc σ ε α) := fun s =>
  (wp_fail e).2 (refl_of T s)

protected theorem ensure (c : Prop) [Decidable c] (e : ε) :
    Moves R G T (ensure c e : Proc σ ε Unit) := fun s =>
  (wp_ensure c e).2 ⟨fun _ => refl_of T s, fun _ => refl_of T s⟩

protected theorem orFail (o : Option α) (e : ε) : Moves R G T (orFail o e : Proc σ ε α) :=
  fun s => (wp_orFail o e).2 ⟨fun _ _ => refl_of T s, fun _ => refl_of T s⟩

protected theorem ofExcept (r : Except ε α) : Moves R G T (ofExcept r : Proc σ ε α) :=
  fun s => (wp_ofExcept r).2 ⟨fun _ _ => refl_of T s, fun _ _ => refl_of T s⟩

variable [IsTrans σ T]

omit [Std.Refl T] in
protected theorem bind {m : Proc σ ε β} {g : β → Proc σ ε α} (hm : Moves R G T m)
    (hg : ∀ b, Moves R G T (g b)) : Moves R G T (m >>= g) := fun _ =>
  hm.wp_bind (fun _ _ h => h) fun b s' h => (hg b s').mono (fun _ _ h => h)
    (fun _ _ h' => IsTrans.trans _ _ _ h h') fun _ _ h' => IsTrans.trans _ _ _ h h'

protected theorem each {f : α → Proc σ ε Unit} :
    ∀ {as : List α}, (∀ a ∈ as, Moves R G T (f a)) → Moves R G T (each f as)
  | [], _ => fun s => (wp_pure ()).2 (refl_of T s)
  | a :: _, hf =>
    Moves.bind (hf a List.mem_cons_self) fun _ => Moves.each fun b hb => hf b (List.mem_cons_of_mem a hb)

end Preorder

end Moves

/-! ## Programs whose actions are all of a kind -/

instance : Std.Refl fun _ _ : σ => True := ⟨fun _ => trivial⟩

instance : IsTrans σ fun _ _ : σ => True := ⟨fun _ _ _ _ _ => trivial⟩

/-- Every action of `m` is an `A` step, from any state. -/
abbrev All (A : σ → σ → Prop) (m : Proc σ ε α) : Prop := Moves (fun _ _ => True) A (fun _ _ => True) m

theorem All.mono {A B : σ → σ → Prop} {m : Proc σ ε α} (h : All A m) (hAB : ∀ s s', A s s' → B s s') : All B m :=
  fun s => (h s).mono hAB (fun _ _ h => h) fun _ _ h => h

theorem all_trivial (m : Proc σ ε α) : All (fun _ _ => True) m := by
  induction m with
  | done r =>
    cases r with
    | error e => exact Moves.fail e
    | ok a => exact Moves.pure a
  | act f k ih =>
    intro s
    rw [wp_act]
    exact fun s' _ => ⟨trivial, ih s' (f s')⟩

/-- What a step of the kind does after the others have moved, the program does. -/
theorem All.moves {A : σ → σ → Prop} [Std.Refl T] [IsTrans σ T] {m : Proc σ ε α} (h : All A m)
    (hA : ∀ s s' s'', R s s' → A s' s'' → G s' s'' ∧ T s s'') : Moves R G T m := by
  induction m with
  | done r =>
    intro s
    cases r with
    | error e => exact (wp_fail e).2 (refl_of T s)
    | ok a => exact (wp_pure a).2 (refl_of T s)
  | act f k ih =>
    intro s
    rw [wp_act]
    intro s' hs
    obtain ⟨hact, hrest⟩ := (wp_act f k).1 (h s') s' trivial
    obtain ⟨hG, hT⟩ := hA s s' (f s') hs hact
    have hall : All A (k s') := fun t => hrest.start (fun _ _ => trivial) (fun _ h => h) fun _ h => h
    refine ⟨hG, (ih s' hall (f s')).mono (fun _ _ h => h) ?_ ?_⟩
    · exact fun _ s'' h => IsTrans.trans _ _ _ hT h
    · exact fun _ s'' h => IsTrans.trans _ _ _ hT h

theorem all_act (f : σ → σ) (k : σ → Proc σ ε α) {A : σ → σ → Prop} :
    All A (act f k) ↔ ∀ s, A s (f s) ∧ All A (k s) := by
  constructor
  · intro h s
    obtain ⟨hact, hrest⟩ := (wp_act f k).1 (h s) s trivial
    exact ⟨hact, fun _ => hrest.start (fun _ _ => trivial) (fun _ h => h) fun _ h => h⟩
  · intro h s
    rw [wp_act]
    exact fun s' _ => ⟨(h s').1, (h s').2 (f s')⟩

/-- What such steps guarantee where `I` holds, a program of such steps guarantees from there, and it keeps `I`. -/
theorem All.wp {A : σ → σ → Prop} {I : σ → Prop} {m : Proc σ ε α} (h : All A m)
    (hR : ∀ s s', I s → R s s' → I s') (hA : ∀ s s', I s → A s s' → G s s' ∧ I s') (hs : I s) :
    Proc.wp R G m (fun _ => I) (fun _ => I) s := by
  induction m generalizing s with
  | done r =>
    cases r with
    | error e => exact (wp_fail e).2 hs
    | ok a => exact (wp_pure a).2 hs
  | act f k ih =>
    rw [wp_act]
    intro s' hr
    obtain ⟨hact, hrest⟩ := (all_act f k).1 h s'
    obtain ⟨hG, hnext⟩ := hA s' (f s') (hR s s' hs hr) hact
    exact ⟨hG, ih s' hrest hnext⟩

/-! ## Programs with one action of another kind -/

/-- Every action of `m` is an `A` step but for at most one, which is a `B` step, from any state. -/
def Once (A B : σ → σ → Prop) : Proc σ ε α → Prop
  | done _ => True
  | act f k => ∀ s, A s (f s) ∧ (k s).Once A B ∨ B s (f s) ∧ All A (k s)

namespace Once

variable {A B : σ → σ → Prop}

theorem of_all {m : Proc σ ε α} (h : All A m) : Once A B m := by
  induction m with
  | done r => trivial
  | act f k ih => exact fun s => .inl ⟨((all_act f k).1 h s).1, ih s ((all_act f k).1 h s).2⟩

/-- The one action is in the second part. -/
protected theorem bind {m : Proc σ ε β} {g : β → Proc σ ε α} (hm : All A m) (hg : ∀ b, Once A B (g b)) :
    Once A B (m >>= g) := by
  show Once A B (m.bind g)
  induction m with
  | done r =>
    cases r with
    | error e => trivial
    | ok b => exact hg b
  | act f k ih => exact fun s => .inl ⟨((all_act f k).1 hm s).1, ih s ((all_act f k).1 hm s).2⟩

/-- The one action is in the first part. -/
theorem bind_all {m : Proc σ ε β} {g : β → Proc σ ε α} (hm : Once A B m) (hg : ∀ b, All A (g b)) :
    Once A B (m >>= g) := by
  show Once A B (m.bind g)
  induction m with
  | done r =>
    cases r with
    | error e => trivial
    | ok b => exact of_all (hg b)
  | act f k ih =>
    intro s
    rcases hm s with ⟨hact, hrest⟩ | ⟨hact, hrest⟩
    · exact .inl ⟨hact, ih s hrest⟩
    · exact .inr ⟨hact, Moves.bind hrest hg⟩

theorem atomically {f : σ → Except ε α × σ} (h : ∀ s, B s (f s).2) : Once A B (atomically f) := fun s =>
  .inr ⟨h s, Moves.ofExcept (f s).1⟩

protected theorem ite {c : Prop} [Decidable c] {m n : Proc σ ε α} (hm : c → Once A B m) (hn : ¬c → Once A B n) :
    Once A B (if c then m else n) := by
  split
  · next h => exact hm h
  · next h => exact hn h

protected theorem caught {m : Proc σ ε α} (h : Once A B m) : Once A B (caught m) := by
  induction m with
  | done r => trivial
  | act f k ih =>
    intro s
    rcases h s with ⟨hact, hrest⟩ | ⟨hact, hrest⟩
    · exact .inl ⟨hact, ih s hrest⟩
    · exact .inr ⟨hact, Moves.caught hrest⟩

protected theorem mono {A' B' : σ → σ → Prop} {m : Proc σ ε α} (h : Once A B m) (hA : ∀ s s', A s s' → A' s s')
    (hB : ∀ s s', B s s' → B' s s') : Once A' B' m := by
  induction m with
  | done r => trivial
  | act f k ih =>
    intro s
    rcases h s with ⟨hact, hrest⟩ | ⟨hact, hrest⟩
    · exact .inl ⟨hA _ _ hact, ih s hrest⟩
    · exact .inr ⟨hB _ _ hact, hrest.mono hA⟩

/-- The one action is of the common kind as well. -/
theorem all {m : Proc σ ε α} (h : Once A B m) (hB : ∀ s s', B s s' → A s s') : All A m := by
  induction m with
  | done r => exact Moves.ofExcept r
  | act f k ih =>
    refine (all_act f k).2 fun s => ?_
    rcases h s with ⟨hact, hrest⟩ | ⟨hact, hrest⟩
    · exact ⟨hact, ih s hrest⟩
    · exact ⟨hB _ _ hact, hrest⟩

theorem act {f : σ → σ} {k : σ → Proc σ ε α} (h : Once A B (act f k)) (s : σ) :
    A s (f s) ∧ Once A B (k s) ∨ B s (f s) ∧ All A (k s) := h s

end Once

attribute [irreducible] Once

end Proc

/-! ## Pools -/

/-- Programs on a shared state, each with a state of its own. -/
structure Pool (ι σ τ ε : Type) where
  shared : σ
  locals : ι → τ
  tasks : ι → Option (Proc (σ × τ) ε Unit)

namespace Pool

variable {ι σ τ ε : Type}

/-- What a program works on. -/
def world (p : Pool ι σ τ ε) (i : ι) : σ × τ := (p.shared, p.locals i)

variable [DecidableEq ι]

/-- Program `i` does its next action, or leaves when it has none. -/
def advance (p : Pool ι σ τ ε) (i : ι) : Pool ι σ τ ε :=
  match p.tasks i with
  | none => p
  | some (.done _) => { p with tasks := Function.update p.tasks i none }
  | some (.act f k) =>
    { shared := (f (p.world i)).1
      locals := Function.update p.locals i (f (p.world i)).2
      tasks := Function.update p.tasks i (some (k (p.world i))) }

/-- A program starts. -/
def start (p : Pool ι σ τ ε) (i : ι) (m : Proc (σ × τ) ε Unit) : Pool ι σ τ ε :=
  { p with tasks := Function.update p.tasks i (some m) }

/-- The pool in which program `i` has run to its end, with nothing between its actions. -/
def finish (p : Pool ι σ τ ε) (i : ι) (m : Proc (σ × τ) ε Unit) : Pool ι σ τ ε :=
  { shared := (m.exec (p.world i)).2.1
    locals := Function.update p.locals i (m.exec (p.world i)).2.2
    tasks := Function.update p.tasks i none }

omit [DecidableEq ι] in
theorem advance_of_none [DecidableEq ι] {p : Pool ι σ τ ε} {i : ι} (h : p.tasks i = none) : p.advance i = p := by
  simp [advance, h]

/-- Advancing a program often enough finishes it. -/
theorem exists_advance_start (m : Proc (σ × τ) ε Unit) :
    ∀ (p : Pool ι σ τ ε) (i : ι), ∃ n, (fun q => q.advance i)^[n] (p.start i m) = p.finish i m := by
  induction m with
  | done r =>
    intro p i
    refine ⟨1, ?_⟩
    simp [start, advance, finish, Proc.exec, world]
  | act f k ih =>
    intro p i
    obtain ⟨n, hn⟩ := ih (p.world i)
      { shared := (f (p.world i)).1
        locals := Function.update p.locals i (f (p.world i)).2
        tasks := p.tasks } i
    refine ⟨n + 1, ?_⟩
    rw [Function.iterate_succ_apply]
    simpa [start, advance, finish, Proc.exec, world] using hn

/-- The others move the shared state and leave this program's own alone. -/
def Interferes (R : σ → σ → Prop) (w w' : σ × τ) : Prop := R w.1 w'.1 ∧ w'.2 = w.2

instance {R : σ → σ → Prop} [Std.Refl R] : Std.Refl (Interferes (τ := τ) R) := ⟨fun w => ⟨refl_of R w.1, rfl⟩⟩

instance {R : σ → σ → Prop} [IsTrans σ R] : IsTrans (σ × τ) (Interferes R) :=
  ⟨fun _ _ _ h h' => ⟨IsTrans.trans _ _ _ h.1 h'.1, h'.2.trans h.2⟩⟩

/-- Every program of the pool guarantees its steps from here on. -/
def Guaranteed (R : σ → σ → Prop) (G : ι → σ × τ → σ × τ → Prop) (p : Pool ι σ τ ε) : Prop :=
  ∀ i m, p.tasks i = some m →
    m.wp (Interferes R) (G i) (fun _ _ => True) (fun _ _ => True) (p.world i)

variable {R : σ → σ → Prop} {G : ι → σ × τ → σ × τ → Prop} {p : Pool ι σ τ ε}

omit [DecidableEq ι] in
/-- Others outside the pool move the shared state. -/
theorem Guaranteed.moved [IsTrans σ R] (h : p.Guaranteed R G) {s : σ} (hs : R p.shared s) :
    Guaranteed R G { p with shared := s } := fun i m hm =>
  (h i m hm).wait ⟨hs, rfl⟩ (fun _ _ => trivial) fun _ _ => trivial

theorem Guaranteed.start (h : p.Guaranteed R G) {i : ι} {m : Proc (σ × τ) ε Unit}
    (hm : m.wp (Interferes R) (G i) (fun _ _ => True) (fun _ _ => True) (p.world i)) :
    (p.start i m).Guaranteed R G := by
  intro j n hn
  by_cases hj : j = i
  · subst hj
    rw [show (p.start j m).tasks j = some m from Function.update_self ..] at hn
    cases hn
    exact hm
  · rw [show (p.start i m).tasks j = p.tasks j from Function.update_of_ne hj ..] at hn
    exact h j n hn

/-- A program's action leaves the others' programs and states alone. -/
theorem advance_of_ne {i j : ι} (h : j ≠ i) :
    (p.advance i).tasks j = p.tasks j ∧ (p.advance i).locals j = p.locals j := by
  unfold Pool.advance
  split
  · exact ⟨rfl, rfl⟩
  · exact ⟨Function.update_of_ne h _ _, rfl⟩
  · exact ⟨Function.update_of_ne h _ _, Function.update_of_ne h _ _⟩

theorem advance_of_done {i : ι} {r : Except ε Unit} (h : p.tasks i = some (.done r)) :
    p.advance i = { p with tasks := Function.update p.tasks i none } := by
  simp [Pool.advance, h]

theorem advance_of_act {i : ι} {f : σ × τ → σ × τ} {k : σ × τ → Proc (σ × τ) ε Unit}
    (h : p.tasks i = some (.act f k)) :
    (p.advance i).world i = f (p.world i) ∧ (p.advance i).tasks i = some (k (p.world i)) := by
  simp [Pool.advance, h, world]

/-- A program's action is a `G` step and the rest is as before, or the program leaves. -/
theorem advance_of_wp [Std.Refl R] {G : σ × τ → σ × τ → Prop} {i : ι} {m : Proc (σ × τ) ε Unit}
    (hm : p.tasks i = some m) (h : m.wp (Interferes R) G (fun _ _ => True) (fun _ _ => True) (p.world i)) :
    ((p.advance i).shared = p.shared ∧ (p.advance i).locals = p.locals ∨
      G (p.world i) ((p.advance i).world i) ∧
        (p.advance i).locals = Function.update p.locals i ((p.advance i).locals i)) ∧
      ∀ m', (p.advance i).tasks i = some m' →
        m'.wp (Interferes R) G (fun _ _ => True) (fun _ _ => True) ((p.advance i).world i) := by
  cases m with
  | done r =>
    rw [advance_of_done hm]
    refine ⟨.inl ⟨rfl, rfl⟩, fun m' hm' => ?_⟩
    dsimp only at hm'
    rw [Function.update_self] at hm'
    cases hm'
  | act f k =>
    have hact := (Proc.wp_act f k).1 h (p.world i) (refl_of (Interferes R) _)
    obtain ⟨hworld, htask⟩ := advance_of_act hm
    rw [hworld, htask]
    refine ⟨.inr ⟨hact.1, ?_⟩, fun m' hm' => ?_⟩
    · simp [Pool.advance, hm]
    · cases hm'
      exact hact.2

/-- A program's action is a step it guarantees, and so are all that follow; or it leaves. -/
theorem Guaranteed.advance [Std.Refl R] [IsTrans σ R] (hG : ∀ i w w', G i w w' → R w.1 w'.1)
    (h : p.Guaranteed R G) (i : ι) :
    (p.advance i).Guaranteed R G ∧
      ((p.advance i).shared = p.shared ∧ (p.advance i).locals = p.locals ∨
        G i (p.world i) ((p.advance i).world i) ∧
          (p.advance i).locals = Function.update p.locals i ((p.advance i).locals i)) := by
  cases hi : p.tasks i with
  | none =>
    rw [advance_of_none hi]
    exact ⟨h, .inl ⟨rfl, rfl⟩⟩
  | some m =>
    obtain ⟨hstep, hrest⟩ := advance_of_wp hi (h i m hi)
    refine ⟨fun j n hn => ?_, hstep⟩
    by_cases hj : j = i
    · subst hj
      exact hrest n hn
    · obtain ⟨htask, hlocal⟩ := advance_of_ne (p := p) hj
      rw [htask] at hn
      have hmoved : Interferes R (p.world j) ((p.advance i).world j) := by
        refine ⟨?_, hlocal⟩
        rcases hstep with ⟨hshared, -⟩ | ⟨hact, -⟩
        · show R p.shared (p.advance i).shared
          rw [hshared]
          exact refl_of R _
        · exact hG i (p.world i) ((p.advance i).world i) hact
      exact (h j n hn).wait hmoved (fun _ _ => trivial) fun _ _ => trivial

end Pool

end TuiChat.Lib
