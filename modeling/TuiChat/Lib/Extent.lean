import TuiChat.Lib.Table

/-!
# The extent of a write

What a write may do to the rows of a table is given by three predicates: on the rows that come, on the rows that
go, and on a row with what it becomes (`Extent`). Two tables are apart by an extent at most (`Table.Within`) if
that is so at every key. The rules are those of the writes of SQL.
-/

namespace TuiChat.Lib

/-- The changes that are allowed to the rows of a table. By default there are none. -/
structure Extent (α : Type) where
  comes : α → Prop := fun _ => False
  goes : α → Prop := fun _ => False
  becomes : α → α → Prop := fun _ _ => False

namespace Extent

variable {α : Type} {x : Extent α}

/-- What may be of the row of one key, which may be none before and after. -/
inductive Allows (x : Extent α) : Option α → Option α → Prop
  | same (o : Option α) : Allows x o o
  | comes {a : α} (h : x.comes a) : Allows x none (some a)
  | goes {a : α} (h : x.goes a) : Allows x (some a) none
  | becomes {a b : α} (h : x.becomes a b) : Allows x (some a) (some b)

theorem Allows.mono {y : Extent α} {o o' : Option α} (h : x.Allows o o') (comes : ∀ a, x.comes a → y.comes a)
    (goes : ∀ a, x.goes a → y.goes a) (becomes : ∀ a b, x.becomes a b → y.becomes a b) : y.Allows o o' := by
  cases h with
  | same => exact .same _
  | comes h => exact .comes (comes _ h)
  | goes h => exact .goes (goes _ h)
  | becomes h => exact .becomes (becomes _ _ h)

/-- A row that is changed, or not. -/
theorem Allows.ite {a b : α} {c : Prop} [Decidable c] (h : c → x.becomes a b) :
    x.Allows (some a) (some (if c then b else a)) := by
  split
  · next hc => exact .becomes (h hc)
  · exact .same _

/-- A row that is deleted, or not. -/
theorem Allows.filter {a : α} {p : α → Bool} (h : p a = true → x.goes a) :
    x.Allows (some a) ((some a).filter fun a => !p a) := by
  cases hp : p a with
  | true =>
    rw [Option.filter_some, hp]
    exact .goes (h hp)
  | false =>
    rw [Option.filter_some, hp]
    exact .same _

end Extent

namespace Table

variable {α κ : Type} {key : α → κ} [DecidableEq κ] {t u : Table key} {x y : Extent α}

/-- The second table is the first with changes that are allowed. -/
def Within (t u : Table key) (x : Extent α) : Prop := ∀ k, x.Allows (t.find k) (u.find k)

theorem Within.refl (t : Table key) : t.Within t x := fun _ => .same _

theorem Within.of_eq (h : u = t) : t.Within u x := h ▸ .refl t

theorem within_update {p : α → Bool} {f : α → α} (hf : ∀ a, key (f a) = key a)
    (h : ∀ a ∈ t, p a = true → x.becomes a (f a)) : t.Within (t.update p f hf) x := by
  intro k
  rw [find_update]
  cases hfind : t.find k with
  | none => exact .same _
  | some a => exact .ite (h a (mem_of_find hfind))

theorem within_delete {p : α → Bool} (h : ∀ a ∈ t, p a = true → x.goes a) : t.Within (t.delete p) x := by
  intro k
  rw [find_delete]
  cases hfind : t.find k with
  | none => exact .same _
  | some a => exact .filter (h a (mem_of_find hfind))

theorem within_insertOrIgnore {a : α} (h : t.find (key a) = none → x.comes a) : t.Within (t.insertOrIgnore a) x := by
  cases hfind : t.find (key a) with
  | some b =>
    rw [insertOrIgnore_of_find hfind]
    exact .refl t
  | none =>
    intro k
    by_cases hk : k = key a
    · rw [hk, hfind, find_insertOrIgnore_of_none hfind]
      exact .comes (h hfind)
    · rw [find_insertOrIgnore_ne hk]
      exact .same _

/-- A row that is put where there was none. -/
theorem within_put {a : α} (hfind : t.find (key a) = none) (h : x.comes a) : t.Within (t.put a) x := by
  intro k
  by_cases hk : k = key a
  · rw [hk, hfind, find_put_self]
    exact .comes h
  · rw [find_put_ne hk]
    exact .same _

section

variable {r : α → α → Prop} (htrans : ∀ a b c, r a b → r b c → r a c)
include htrans

theorem Within.trans {v : Table key} (h : t.Within u { becomes := r }) (h' : u.Within v { becomes := r }) :
    t.Within v { becomes := r } := by
  intro k
  have hfirst := h k
  have hsecond := h' k
  generalize t.find k = o at hfirst ⊢
  generalize u.find k = o' at hfirst hsecond
  generalize v.find k = o'' at hsecond ⊢
  cases hfirst with
  | same => exact hsecond
  | comes h => exact h.elim
  | goes h => exact h.elim
  | becomes hab =>
    cases hsecond with
    | same => exact .becomes hab
    | goes h => exact h.elim
    | becomes hbc => exact .becomes (htrans _ _ _ hab hbc)

/-- A series of writes that only change rows. -/
theorem within_foldl {β : Type} {f : Table key → β → Table key} {bs : List β}
    (h : ∀ b ∈ bs, ∀ t : Table key, t.Within (f t b) { becomes := r }) :
    ∀ t : Table key, t.Within (bs.foldl f t) { becomes := r } := by
  induction bs with
  | nil => exact fun t => .refl t
  | cons b bs ih =>
    intro t
    have hrest := ih fun b' hb' => h b' (List.mem_cons_of_mem _ hb')
    exact .trans htrans (h b List.mem_cons_self t) (hrest (f t b))

end

end Table

end TuiChat.Lib
