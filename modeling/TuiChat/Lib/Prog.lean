import Mathlib.Order.Defs.Unbundled

/-!
# Fallible stateful programs

`Prog σ ε α` is a program over a state `σ` that returns an `α` or stops with an `ε`, and keeps the
state it reached in both cases: a method on `&mut self` whose statements end in `?`. A failure is
not a rollback.

Two kinds of rule are used. `wp` follows one program from one state to its two kinds of end, and
its rules for `pure`, `bind` and the primitives are equations, so that a straight line of code is
peeled by rewriting. `Moves R` says that a program takes every state to an `R`-related one,
whatever its result; for a preorder `R` it composes, and it is how frame conditions are stated.
-/

namespace TuiChat.Lib

/-- A program over `σ` that may stop with an `ε`; the state survives the failure. -/
def Prog (σ ε α : Type) := σ → Except ε α × σ

namespace Prog

variable {σ ε α β γ : Type}

/-- The result and the final state of a run. -/
def exec (m : Prog σ ε α) (s : σ) : Except ε α × σ := m s

/-- Return a value and leave the state alone. -/
protected def pure (a : α) : Prog σ ε α := fun s => (.ok a, s)

/-- Run `m`, then `f` on its result; a failure of `m` ends the program. -/
protected def bind (m : Prog σ ε α) (f : α → Prog σ ε β) : Prog σ ε β := fun s =>
  match m s with
  | (.ok a, s') => f a s'
  | (.error e, s') => (.error e, s')

instance : Monad (Prog σ ε) where
  pure := Prog.pure
  bind := Prog.bind

/-- Stop with an error. -/
def fail (e : ε) : Prog σ ε α := fun s => (.error e, s)

/-- Read the state. -/
def gets (f : σ → α) : Prog σ ε α := fun s => (.ok (f s), s)

/-- Change the state. -/
def modify (f : σ → σ) : Prog σ ε Unit := fun s => (.ok (), f s)

/-- Stop with `e` unless the condition holds: `if !c { bail!(e) }`. -/
def ensure (c : Prop) [Decidable c] (e : ε) : Prog σ ε Unit := if c then Prog.pure () else fail e

/-- The value of an option, or stop with `e`: `o.ok_or_else(|| e)?`. -/
def orFail (o : Option α) (e : ε) : Prog σ ε α :=
  match o with
  | some a => Prog.pure a
  | none => fail e

/-- The value of a pure computation, or its error. -/
def ofExcept (r : Except ε α) : Prog σ ε α := fun s => (r, s)

/-- Whether `m` ended well, whatever state it left: `m.is_ok()`. -/
def succeeds (m : Prog σ ε α) : Prog σ ε Bool := fun s =>
  match m s with
  | (.ok _, s') => (.ok true, s')
  | (.error _, s') => (.ok false, s')

/-- A failure of `m` is undone by `f` before it is passed on: `if let Err(e) = m { f; return Err(e) }`. -/
def onError (m : Prog σ ε α) (f : σ → σ) : Prog σ ε α := fun s =>
  match m s with
  | (.ok a, s') => (.ok a, s')
  | (.error e, s') => (.error e, f s')

/-- Run a program on every element, in order. -/
def each (f : α → Prog σ ε Unit) : List α → Prog σ ε Unit
  | [] => Prog.pure ()
  | a :: as => Prog.bind (f a) fun _ => each f as

theorem bind_assoc (m : Prog σ ε α) (f : α → Prog σ ε β) (g : β → Prog σ ε γ) :
    m >>= f >>= g = m >>= fun a => f a >>= g := by
  funext s
  show (Prog.bind (Prog.bind m f) g) s = (Prog.bind m fun a => Prog.bind (f a) g) s
  unfold Prog.bind
  rcases m s with ⟨_ | _, _⟩ <;> rfl

theorem exec_bind (m : Prog σ ε α) (f : α → Prog σ ε β) (s : σ) :
    (m >>= f).exec s = match m.exec s with
      | (.ok a, s') => (f a).exec s'
      | (.error e, s') => (.error e, s') := rfl

theorem exec_bind_eq_ok {m : Prog σ ε α} {f : α → Prog σ ε β} {s s' : σ} {b : β} :
    (m >>= f).exec s = (.ok b, s') ↔ ∃ a s₁, m.exec s = (.ok a, s₁) ∧ (f a).exec s₁ = (.ok b, s') := by
  rw [exec_bind]
  rcases m.exec s with ⟨e | a, s₁⟩
  · exact ⟨nofun, fun ⟨_, _, h, _⟩ => (nomatch h)⟩
  · constructor
    · exact fun h => ⟨a, s₁, rfl, h⟩
    · rintro ⟨_, _, ha, h⟩
      cases ha
      exact h

theorem exec_ensure_eq_ok {c : Prop} [Decidable c] {e : ε} {u : Unit} {s s' : σ} :
    (ensure c e : Prog σ ε Unit).exec s = (.ok u, s') ↔ c ∧ s' = s := by
  unfold ensure
  split
  · next h => exact ⟨fun hs => ⟨h, (Prod.mk.inj hs).2.symm⟩, fun hs => by rw [hs.2]; rfl⟩
  · next h => exact ⟨fun hs => (nomatch hs), fun hs => absurd hs.1 h⟩

theorem exec_orFail_eq_ok {o : Option α} {e : ε} {a : α} {s s' : σ} :
    (orFail o e : Prog σ ε α).exec s = (.ok a, s') ↔ o = some a ∧ s' = s := by
  cases o with
  | none => exact ⟨fun h => (nomatch h), fun h => (nomatch h.1)⟩
  | some b =>
    constructor
    · intro h
      cases h
      exact ⟨rfl, rfl⟩
    · rintro ⟨h, rfl⟩
      cases h
      rfl

theorem exec_ofExcept_eq_ok {r : Except ε α} {a : α} {s s' : σ} :
    (ofExcept r : Prog σ ε α).exec s = (.ok a, s') ↔ r = .ok a ∧ s' = s := by
  constructor
  · intro h
    cases h
    exact ⟨rfl, rfl⟩
  · rintro ⟨rfl, rfl⟩
    rfl

theorem exec_pure_eq_ok {a b : α} {s s' : σ} :
    (pure a : Prog σ ε α).exec s = (.ok b, s') ↔ b = a ∧ s' = s := by
  constructor
  · intro h
    cases h
    exact ⟨rfl, rfl⟩
  · rintro ⟨rfl, rfl⟩
    rfl

/-! ## Weakest preconditions -/

/-- Every end of `m` from `s` is as stated: `Q` of the value and the state it returns with, `E` of
the error and the state it stops in. -/
def wp (m : Prog σ ε α) (Q : α → σ → Prop) (E : ε → σ → Prop) (s : σ) : Prop :=
  match m s with
  | (.ok a, s') => Q a s'
  | (.error e, s') => E e s'

variable {Q Q' : α → σ → Prop} {E E' : ε → σ → Prop} {s : σ}

instance decidableWp {m : Prog σ ε α} [∀ a s, Decidable (Q a s)] [∀ e s, Decidable (E e s)] :
    Decidable (wp m Q E s) :=
  match h : m s with
  | (.ok a, s') => decidable_of_iff (Q a s') (by unfold wp; rw [h])
  | (.error e, s') => decidable_of_iff (E e s') (by unfold wp; rw [h])

@[simp] theorem wp_pure (a : α) : wp (pure a : Prog σ ε α) Q E s ↔ Q a s := Iff.rfl

@[simp] theorem wp_fail (e : ε) : wp (fail e : Prog σ ε α) Q E s ↔ E e s := Iff.rfl

@[simp] theorem wp_gets (f : σ → α) : wp (gets f : Prog σ ε α) Q E s ↔ Q (f s) s := Iff.rfl

@[simp] theorem wp_modify (f : σ → σ) {Q : Unit → σ → Prop} :
    wp (modify f : Prog σ ε Unit) Q E s ↔ Q () (f s) := Iff.rfl

@[simp] theorem wp_bind (m : Prog σ ε β) (f : β → Prog σ ε α) :
    wp (m >>= f) Q E s ↔ wp m (fun b => wp (f b) Q E) E s := by
  show wp (Prog.bind m f) Q E s ↔ _
  unfold wp Prog.bind
  rcases m s with ⟨_ | _, _⟩ <;> rfl

@[simp] theorem wp_ensure (c : Prop) [Decidable c] (e : ε) {Q : Unit → σ → Prop} :
    wp (ensure c e : Prog σ ε Unit) Q E s ↔ (c → Q () s) ∧ (¬c → E e s) := by
  unfold ensure
  split
  · next h => exact ⟨fun q => ⟨fun _ => q, fun n => absurd h n⟩, fun q => q.1 h⟩
  · next h => exact ⟨fun q => ⟨fun n => absurd n h, fun _ => q⟩, fun q => q.2 h⟩

@[simp] theorem wp_orFail (o : Option α) (e : ε) :
    wp (orFail o e : Prog σ ε α) Q E s ↔ (∀ a, o = some a → Q a s) ∧ (o = none → E e s) := by
  cases o with
  | none => exact ⟨fun h => ⟨fun _ h' => (nomatch h'), fun _ => h⟩, fun h => h.2 rfl⟩
  | some a =>
    refine ⟨fun h => ⟨fun b hb => ?_, fun h' => (nomatch h')⟩, fun h => h.1 a rfl⟩
    cases hb; exact h

@[simp] theorem wp_ofExcept (r : Except ε α) :
    wp (ofExcept r : Prog σ ε α) Q E s ↔ (∀ a, r = .ok a → Q a s) ∧ (∀ e, r = .error e → E e s) := by
  cases r with
  | error e =>
    refine ⟨fun h => ⟨fun _ h' => (nomatch h'), fun b hb => ?_⟩, fun h => h.2 e rfl⟩
    cases hb; exact h
  | ok a =>
    refine ⟨fun h => ⟨fun b hb => ?_, fun _ h' => (nomatch h')⟩, fun h => h.1 a rfl⟩
    cases hb; exact h

@[simp] theorem wp_succeeds (m : Prog σ ε α) {Q : Bool → σ → Prop} :
    wp (succeeds m) Q E s ↔ wp m (fun _ => Q true) (fun _ => Q false) s := by
  unfold wp succeeds
  rcases m s with ⟨_ | _, _⟩ <;> rfl

@[simp] theorem wp_onError (m : Prog σ ε α) (f : σ → σ) :
    wp (onError m f) Q E s ↔ wp m Q (fun e s' => E e (f s')) s := by
  unfold wp onError
  rcases m s with ⟨_ | _, _⟩ <;> rfl

@[simp] theorem wp_ite (c : Prop) [Decidable c] (m n : Prog σ ε α) :
    wp (if c then m else n) Q E s ↔ (c → wp m Q E s) ∧ (¬c → wp n Q E s) := by
  split
  · next h => exact ⟨fun q => ⟨fun _ => q, fun n => absurd h n⟩, fun q => q.1 h⟩
  · next h => exact ⟨fun q => ⟨fun n => absurd n h, fun _ => q⟩, fun q => q.2 h⟩

/-- The rule of consequence. -/
theorem wp.mono {m : Prog σ ε α} (h : wp m Q E s) (hQ : ∀ a s', Q a s' → Q' a s')
    (hE : ∀ e s', E e s' → E' e s') : wp m Q' E' s := by
  unfold wp at *
  rcases hm : m s with ⟨_ | _, _⟩ <;> rw [hm] at h
  · exact hE _ _ h
  · exact hQ _ _ h

/-- The rule of sequencing. -/
theorem wp.bind {m : Prog σ ε β} {f : β → Prog σ ε α} {R : β → σ → Prop} (h : wp m R E s)
    (hf : ∀ b s', R b s' → wp (f b) Q E s') : wp (m >>= f) Q E s :=
  (wp_bind m f).2 (h.mono hf fun _ _ h => h)

/-- A test whose failure is covered. -/
theorem wp.ensure {c : Prop} [Decidable c] {e : ε} {f : Unit → Prog σ ε α}
    (hE : E e s) (hf : c → wp (f ()) Q E s) : wp (Prog.ensure c e >>= f) Q E s := by
  rw [wp_bind, wp_ensure]
  exact ⟨hf, fun _ => hE⟩

theorem wp.orFail {o : Option β} {e : ε} {f : β → Prog σ ε α}
    (hE : E e s) (hf : ∀ b, o = some b → wp (f b) Q E s) : wp (Prog.orFail o e >>= f) Q E s := by
  rw [wp_bind, wp_orFail]
  exact ⟨hf, fun _ => hE⟩

theorem wp.ofExcept {r : Except ε β} {f : β → Prog σ ε α}
    (hE : ∀ e, E e s) (hf : ∀ b, r = .ok b → wp (f b) Q E s) :
    wp (Prog.ofExcept r >>= f) Q E s := by
  rw [wp_bind, wp_ofExcept]
  exact ⟨hf, fun e _ => hE e⟩

/-- Every run ends. -/
theorem wp.trivial {m : Prog σ ε α} : wp m (fun _ _ => True) (fun _ _ => True) s := by
  unfold wp
  rcases m s with ⟨_ | _, _⟩ <;> exact True.intro

/-- Two facts about one run hold together. -/
theorem wp.and {m : Prog σ ε α} (h : wp m Q E s) (h' : wp m Q' E' s) :
    wp m (fun a s' => Q a s' ∧ Q' a s') (fun e s' => E e s' ∧ E' e s') s := by
  unfold wp at *
  rcases hm : m s with ⟨_ | _, _⟩ <;> rw [hm] at h h' <;> exact ⟨h, h'⟩

/-- A fact about the ends of a run, with the run. -/
theorem wp.exec {m : Prog σ ε α} (h : wp m Q E s) :
    wp m (fun a s' => Q a s' ∧ m.exec s = (.ok a, s')) (fun e s' => E e s' ∧ m.exec s = (.error e, s')) s := by
  unfold wp Prog.exec at *
  rcases hm : m s with ⟨_ | _, _⟩ <;> rw [hm] at h <;> exact ⟨h, rfl⟩

/-- What is stated of the ends is stated of each of them. -/
theorem wp_iff {m : Prog σ ε α} : wp m Q E s ↔ (∀ a s', m.exec s = (.ok a, s') → Q a s') ∧
    ∀ e s', m.exec s = (.error e, s') → E e s' := by
  unfold wp exec
  rcases m s with ⟨e | a, s'⟩
  · constructor
    · exact fun h => ⟨nofun, fun _ _ he => by cases he; exact h⟩
    · exact fun h => h.2 e s' rfl
  · constructor
    · exact fun h => ⟨fun _ _ ha => by cases ha; exact h, nofun⟩
    · exact fun h => h.1 a s' rfl

/-- What holds of every end holds of a given one. -/
theorem wp.ok {m : Prog σ ε α} (h : wp m Q E s) {a : α} {s' : σ} (hm : m.exec s = (.ok a, s')) :
    Q a s' := by
  unfold wp at h
  rw [show m s = _ from hm] at h
  exact h

theorem wp.error {m : Prog σ ε α} (h : wp m Q E s) {e : ε} {s' : σ}
    (hm : m.exec s = (.error e, s')) : E e s' := by
  unfold wp at h
  rw [show m s = _ from hm] at h
  exact h

/-- A fact about the final state alone. -/
theorem wp_state {m : Prog σ ε α} {P : σ → Prop} :
    wp m (fun _ => P) (fun _ => P) s ↔ P (m.exec s).2 := by
  unfold wp exec
  rcases m s with ⟨_ | _, _⟩ <;> rfl

/-- The invariant rule of `each`. -/
theorem wp_each {f : α → Prog σ ε Unit} {I : σ → Prop} {E : ε → σ → Prop} :
    ∀ {as : List α} {s : σ}, (∀ a ∈ as, ∀ s, I s → wp (f a) (fun _ => I) E s) → I s →
      wp (each f as) (fun _ => I) E s
  | [], _, _, hs => hs
  | a :: as, s, hf, hs => by
    show wp (f a >>= fun _ => each f as) _ _ s
    rw [wp_bind]
    refine (hf a List.mem_cons_self s hs).mono (fun _ s' hs' => ?_) (fun _ _ h => h)
    exact wp_each (fun b hb => hf b (List.mem_cons_of_mem a hb)) hs'

/-- Every run of `m` returns. -/
def Total (m : Prog σ ε α) : Prop := ∀ s, wp m (fun _ _ => True) (fun _ _ => False) s

namespace Total

variable {m : Prog σ ε α}

protected theorem pure (a : α) : Total (pure a : Prog σ ε α) := fun _ => True.intro

protected theorem gets (f : σ → α) : Total (gets f : Prog σ ε α) := fun _ => True.intro

protected theorem modify (f : σ → σ) : Total (modify f : Prog σ ε Unit) := fun _ => True.intro

protected theorem succeeds (m : Prog σ ε α) : Total (succeeds m) := fun _ =>
  (wp_succeeds m).2 wp.trivial

protected theorem bind {f : α → Prog σ ε β} (hm : Total m) (hf : ∀ a, Total (f a)) : Total (m >>= f) :=
  fun s => wp.bind (hm s) fun a s' _ => hf a s'

protected theorem ite {c : Prop} [Decidable c] {n : Prog σ ε α} (hm : Total m) (hn : Total n) :
    Total (if c then m else n) := by
  split
  · exact hm
  · exact hn

protected theorem each {f : α → Prog σ ε Unit} (hf : ∀ a, Total (f a)) : ∀ as, Total (each f as)
  | [] => .pure _
  | a :: as => Total.bind (hf a) fun _ => Total.each hf as

/-- What holds wherever a run may end holds where it returns. -/
theorem wp (h : Total m) {I : σ → Prop} {s : σ} (hI : Prog.wp m (fun _ => I) (fun _ => I) s)
    {E : ε → σ → Prop} : Prog.wp m (fun _ => I) E s :=
  (hI.and (h s)).mono (fun _ _ h => h.1) fun _ _ h => h.2.elim

end Total

/-! ## Frames -/

/-- Every run of `m` takes the state along `R`, whatever its result. -/
def Moves (R : σ → σ → Prop) (m : Prog σ ε α) : Prop := ∀ s, R s (m.exec s).2

namespace Moves

variable {R : σ → σ → Prop} {m : Prog σ ε α}

theorem wp (h : Moves R m) (s : σ) : wp m (fun _ => R s) (fun _ => R s) s := wp_state.2 (h s)

theorem of_wp (h : ∀ s, Prog.wp m (fun _ => R s) (fun _ => R s) s) : Moves R m :=
  fun s => wp_state.1 (h s)

/-- A program that moves along `R`, before another. -/
theorem wp_bind (h : Moves R m) {f : α → Prog σ ε β} {Q : β → σ → Prop} {E : ε → σ → Prop} {s : σ}
    (hE : ∀ e s', R s s' → E e s') (hf : ∀ a s', R s s' → Prog.wp (f a) Q E s') :
    Prog.wp (m >>= f) Q E s :=
  (Prog.wp_bind m f).2 ((h.wp s).mono hf hE)

theorem mono {S : σ → σ → Prop} (h : Moves R m) (hRS : ∀ s s', R s s' → S s s') : Moves S m :=
  fun s => hRS _ _ (h s)

protected theorem modify {f : σ → σ} (h : ∀ s, R s (f s)) : Moves R (modify f : Prog σ ε Unit) := h

protected theorem succeeds (h : Moves R m) : Moves R (succeeds m) := fun s => by
  have hs := h s
  unfold exec at hs
  unfold exec succeeds
  rcases hm : m s with ⟨_ | _, _⟩ <;> rw [hm] at hs <;> exact hs

protected theorem ite {c : Prop} [Decidable c] {n : Prog σ ε α} (hm : c → Moves R m)
    (hn : ¬c → Moves R n) : Moves R (if c then m else n) := by
  split
  · next h => exact hm h
  · next h => exact hn h

section Preorder

variable [Std.Refl R]

protected theorem pure (a : α) : Moves R (pure a : Prog σ ε α) := fun s => refl_of R s

protected theorem fail (e : ε) : Moves R (fail e : Prog σ ε α) := fun s => refl_of R s

protected theorem gets (f : σ → α) : Moves R (gets f : Prog σ ε α) := fun s => refl_of R s

protected theorem ensure (c : Prop) [Decidable c] (e : ε) :
    Moves R (ensure c e : Prog σ ε Unit) := fun s => by
  unfold ensure; split <;> exact refl_of R s

protected theorem orFail (o : Option α) (e : ε) : Moves R (orFail o e : Prog σ ε α) := fun s => by
  cases o <;> exact refl_of R s

protected theorem ofExcept (r : Except ε α) : Moves R (ofExcept r : Prog σ ε α) :=
  fun s => refl_of R s

variable [IsTrans σ R]

omit [Std.Refl R] in
protected theorem bind {f : α → Prog σ ε β} (hm : Moves R m) (hf : ∀ a, Moves R (f a)) :
    Moves R (m >>= f) := fun s => by
  have h := hm s
  show R s (Prog.bind m f s).2
  unfold exec at h
  unfold Prog.bind
  rcases hm' : m s with ⟨e | a, s'⟩ <;> rw [hm'] at h
  · exact h
  · exact IsTrans.trans _ _ _ h (hf a s')

protected theorem each {f : α → Prog σ ε Unit} :
    ∀ {as : List α}, (∀ a ∈ as, Moves R (f a)) → Moves R (each f as)
  | [], _ => fun s => refl_of R s
  | a :: _, hf =>
    Moves.bind (hf a List.mem_cons_self)
      fun _ => Moves.each fun b hb => hf b (List.mem_cons_of_mem a hb)

end Preorder

end Moves

end Prog

end TuiChat.Lib
