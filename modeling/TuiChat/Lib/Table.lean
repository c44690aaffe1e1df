import Mathlib.Data.List.Basic
import Mathlib.Data.List.Nodup
import Mathlib.Algebra.Order.BigOperators.Group.List
import Mathlib.Algebra.Order.Ring.Nat

/-!
# Tables with a primary key

A `Table key` is a list of rows in which no two rows have one key; the key constraint is a field, so
every operation returns a table that satisfies it. The operations are the writes of SQL: `INSERT OR
IGNORE`, `INSERT OR REPLACE` (also `ON CONFLICT DO UPDATE` of every column), `UPDATE .. WHERE` and
`DELETE .. WHERE`. For each of them one lemma says what a row of the result is, and one what a
lookup by key gives.
-/

namespace TuiChat.Lib

/-- Equality under `COLLATE NOCASE`, which folds the ASCII letters. -/
def nocase (s : String) : List Char := s.toList.map Char.toLower

/-- Rows with pairwise distinct keys. -/
structure Table {α κ : Type} (key : α → κ) where
  rows : List α
  nodup : (rows.map key).Nodup

namespace Table

variable {α κ : Type} {key : α → κ}

instance : Membership α (Table key) := ⟨fun t a => a ∈ t.rows⟩

theorem mem_rows {t : Table key} {a : α} : a ∈ t.rows ↔ a ∈ t := Iff.rfl

/-- The table without rows. -/
def empty : Table key := ⟨[], List.nodup_nil⟩

instance : EmptyCollection (Table key) := ⟨empty⟩

@[simp] theorem not_mem_empty (a : α) : a ∉ (∅ : Table key) := List.not_mem_nil

/-- Rows of one table with one key are one row. -/
theorem eq_of_mem {t : Table key} {a b : α} (ha : a ∈ t) (hb : b ∈ t) (h : key a = key b) : a = b :=
  List.inj_on_of_nodup_map t.nodup ha hb h

/-- A row with a fresh key can be appended. -/
theorem nodup_append (t : Table key) {a : α} (h : ∀ b ∈ t.rows, key b ≠ key a) :
    ((t.rows ++ [a]).map key).Nodup := by
  rw [List.map_append, List.nodup_append]
  refine ⟨t.nodup, by simp, fun k hk k' hk' => ?_⟩
  obtain ⟨b, hb, rfl⟩ := List.mem_map.1 hk
  rw [List.mem_singleton.1 hk']
  exact h b hb

/-- `DELETE .. WHERE p`. -/
def delete (t : Table key) (p : α → Bool) : Table key :=
  ⟨t.rows.filter fun a => !p a, t.nodup.sublist (List.filter_sublist.map key)⟩

@[simp] theorem mem_delete {t : Table key} {p : α → Bool} {a : α} :
    a ∈ t.delete p ↔ a ∈ t ∧ p a = false := by
  show a ∈ t.rows.filter _ ↔ _
  simp [mem_rows]

/-- `UPDATE .. SET f WHERE p`, for an `f` that keeps the key. -/
def update (t : Table key) (p : α → Bool) (f : α → α) (hf : ∀ a, key (f a) = key a) : Table key :=
  ⟨t.rows.map fun a => if p a then f a else a, by
    rw [List.map_map]
    convert t.nodup using 2
    funext a
    show key (if p a then f a else a) = key a
    split
    · exact hf a
    · rfl⟩

theorem mem_update {t : Table key} {p : α → Bool} {f : α → α} (hf : ∀ a, key (f a) = key a) {a : α} :
    a ∈ t.update p f hf ↔ ∃ b ∈ t, a = if p b then f b else b := by
  show a ∈ t.rows.map _ ↔ _
  simp only [List.mem_map, mem_rows, eq_comm]

theorem mem_update_of_mem {t : Table key} {p : α → Bool} {f : α → α} (hf : ∀ a, key (f a) = key a) {a : α}
    (h : a ∈ t) : (if p a then f a else a) ∈ t.update p f hf := (mem_update hf).2 ⟨a, h, rfl⟩

theorem update_of_none {t : Table key} {p : α → Bool} {f : α → α} {hf : ∀ a, key (f a) = key a}
    (h : ∀ a ∈ t, p a = false) : t.update p f hf = t := by
  cases t with
  | mk rows nodup =>
    have hrows : (rows.map fun a => if p a then f a else a) = rows := by
      refine List.map_congr_left (fun a ha => ?_) |>.trans (List.map_id _)
      exact if_neg (by simp [h a ha])
    simp only [update, hrows]

section Key

variable [DecidableEq κ]

/-- The row of a key. -/
def find (t : Table key) (k : κ) : Option α := t.rows.find? fun a => key a = k

theorem mem_of_find {t : Table key} {k : κ} {a : α} (h : t.find k = some a) : a ∈ t :=
  List.mem_of_find?_eq_some h

theorem key_of_find {t : Table key} {k : κ} {a : α} (h : t.find k = some a) : key a = k := by
  simpa using List.find?_some h

theorem find_of_mem {t : Table key} {a : α} (h : a ∈ t) : t.find (key a) = some a := by
  cases hf : t.find (key a) with
  | none =>
    have := List.find?_eq_none.1 hf a h
    simp at this
  | some b => rw [eq_of_mem (mem_of_find hf) h (key_of_find hf)]

theorem find_eq_some {t : Table key} {k : κ} {a : α} : t.find k = some a ↔ a ∈ t ∧ key a = k :=
  ⟨fun h => ⟨mem_of_find h, key_of_find h⟩, fun ⟨h, hk⟩ => hk ▸ find_of_mem h⟩

theorem find_eq_none {t : Table key} {k : κ} : t.find k = none ↔ ∀ a ∈ t, key a ≠ k := by
  simp [find, List.find?_eq_none, mem_rows]

@[simp] theorem find_empty (k : κ) : (∅ : Table key).find k = none := rfl

/-- `INSERT OR IGNORE`: an existing row of the key stays. -/
def insertOrIgnore (t : Table key) (a : α) : Table key :=
  if h : ∀ b ∈ t.rows, key b ≠ key a then
    ⟨t.rows ++ [a], t.nodup_append h⟩
  else t

theorem mem_insertOrIgnore {t : Table key} {a b : α} :
    b ∈ t.insertOrIgnore a ↔ b ∈ t ∨ (b = a ∧ ∀ c ∈ t, key c ≠ key a) := by
  unfold insertOrIgnore
  split
  · next h =>
    show b ∈ t.rows ++ [a] ↔ _
    simp only [List.mem_append, List.mem_singleton, mem_rows]
    exact ⟨fun h' => h'.imp_right fun hb => ⟨hb, h⟩, fun h' => h'.imp_right And.left⟩
  · next h => exact ⟨Or.inl, fun h' => h'.resolve_right fun h'' => h h''.2⟩

theorem mem_insertOrIgnore_of_mem {t : Table key} {a b : α} (h : b ∈ t) : b ∈ t.insertOrIgnore a :=
  mem_insertOrIgnore.2 (.inl h)

theorem insertOrIgnore_of_find_none {t : Table key} {a : α} (h : t.find (key a) = none) :
    (t.insertOrIgnore a).rows = t.rows ++ [a] := by
  have hfresh : ∀ b ∈ t.rows, key b ≠ key a := find_eq_none.1 h
  unfold insertOrIgnore
  rw [dif_pos hfresh]

theorem insertOrIgnore_of_find {t : Table key} {a b : α} (h : t.find (key a) = some b) :
    t.insertOrIgnore a = t := by
  unfold insertOrIgnore
  rw [dif_neg fun hfresh => hfresh b (mem_of_find h) (key_of_find h)]

theorem find_insertOrIgnore_ne {t : Table key} {a : α} {k : κ} (h : k ≠ key a) :
    (t.insertOrIgnore a).find k = t.find k := by
  refine Option.ext fun b => ?_
  simp only [find_eq_some, mem_insertOrIgnore]
  exact ⟨fun ⟨h', hk⟩ => ⟨h'.resolve_right fun e => h (hk ▸ e.1 ▸ rfl), hk⟩,
    fun ⟨h', hk⟩ => ⟨.inl h', hk⟩⟩

theorem find_insertOrIgnore_of_none {t : Table key} {a : α} (h : t.find (key a) = none) :
    (t.insertOrIgnore a).find (key a) = some a :=
  find_eq_some.2 ⟨mem_insertOrIgnore.2 (.inr ⟨rfl, find_eq_none.1 h⟩), rfl⟩

/-- `INSERT OR REPLACE`, and `ON CONFLICT(key) DO UPDATE` of every other column. -/
def put (t : Table key) (a : α) : Table key :=
  if h : ∀ b ∈ t.rows, key b ≠ key a then
    ⟨t.rows ++ [a], t.nodup_append h⟩
  else
    ⟨t.rows.map fun b => if key b = key a then a else b, by
      rw [List.map_map]
      convert t.nodup using 2
      funext b
      show key (if key b = key a then a else b) = key b
      split
      · next hb => exact hb.symm
      · rfl⟩

theorem mem_put {t : Table key} {a b : α} : b ∈ t.put a ↔ b = a ∨ (b ∈ t ∧ key b ≠ key a) := by
  unfold put
  split
  · next h =>
    show b ∈ t.rows ++ [a] ↔ _
    simp only [List.mem_append, List.mem_singleton, mem_rows]
    exact ⟨fun h' => h'.symm.imp_right fun hb => ⟨hb, h b hb⟩, fun h' => h'.symm.imp_left And.left⟩
  · next h =>
    show b ∈ t.rows.map _ ↔ _
    simp only [List.mem_map, mem_rows]
    constructor
    · rintro ⟨c, hc, rfl⟩
      split
      · exact .inl rfl
      · next hne => exact .inr ⟨hc, hne⟩
    · rintro (rfl | ⟨hb, hne⟩)
      · push Not at h
        obtain ⟨c, hc, hk⟩ := h
        exact ⟨c, hc, if_pos hk⟩
      · exact ⟨b, hb, if_neg hne⟩

theorem find_put {t : Table key} {a : α} {k : κ} :
    (t.put a).find k = if k = key a then some a else t.find k := by
  refine Option.ext fun b => ?_
  rw [find_eq_some, mem_put]
  split
  · next h =>
    subst h
    exact ⟨fun ⟨h', hk⟩ => by rw [h'.resolve_right fun e => e.2 hk],
      fun h' => by cases h'; exact ⟨.inl rfl, rfl⟩⟩
  · next h =>
    rw [find_eq_some]
    exact ⟨fun ⟨h', hk⟩ => ⟨(h'.resolve_left fun e => h (hk ▸ e ▸ rfl)).1, hk⟩,
      fun ⟨h', hk⟩ => ⟨.inr ⟨h', fun e => h (hk ▸ e)⟩, hk⟩⟩

@[simp] theorem find_put_self {t : Table key} {a : α} : (t.put a).find (key a) = some a := by
  rw [find_put, if_pos rfl]

theorem find_put_ne {t : Table key} {a : α} {k : κ} (h : k ≠ key a) :
    (t.put a).find k = t.find k := by
  rw [find_put, if_neg h]

theorem insertOrIgnore_eq_put {t : Table key} {a : α} (h : t.find (key a) = none) : t.insertOrIgnore a = t.put a := by
  have hfresh : ∀ b ∈ t.rows, key b ≠ key a := find_eq_none.1 h
  unfold insertOrIgnore put
  rw [dif_pos hfresh, dif_pos hfresh]

theorem length_put {t : Table key} {a : α} (h : t.find (key a) = none) :
    (t.put a).rows.length = t.rows.length + 1 := by
  have hfresh : ∀ b ∈ t.rows, key b ≠ key a := find_eq_none.1 h
  unfold put
  rw [dif_pos hfresh]
  simp

/-- A row that is there is put without effect. -/
theorem put_of_mem {t : Table key} {a : α} (h : a ∈ t) : t.put a = t := by
  have hnot : ¬ ∀ b ∈ t.rows, key b ≠ key a := fun hne => hne a h rfl
  have hrows : (t.rows.map fun b => if key b = key a then a else b) = t.rows := by
    have hid : ∀ b ∈ t.rows, (if key b = key a then a else b) = id b := by
      intro b hb
      by_cases hk : key b = key a
      · rw [if_pos hk, eq_of_mem hb h hk]
        rfl
      · rw [if_neg hk]
        rfl
    rw [List.map_congr_left hid, List.map_id]
  unfold put
  rw [dif_neg hnot]
  cases t
  simp only [hrows]

/-- An update of one row puts what becomes of it. -/
theorem update_eq_put {t : Table key} {f : α → α} (hf : ∀ a, key (f a) = key a) {k : κ} {a : α}
    (h : t.find k = some a) : t.update (fun b => key b = k) f hf = t.put (f a) := by
  obtain ⟨hmem, hkey⟩ := find_eq_some.1 h
  have hnot : ¬ ∀ b ∈ t.rows, key b ≠ key (f a) := fun hne => hne a hmem (hf a).symm
  unfold put
  rw [dif_neg hnot]
  have hrows : (t.rows.map fun b => if decide (key b = k) = true then f b else b) =
      t.rows.map fun b => if key b = key (f a) then f a else b := by
    refine List.map_congr_left fun b hb => ?_
    rw [hf, hkey]
    by_cases hk : key b = k
    · rw [eq_of_mem hb hmem (hk.trans hkey.symm)]
      simp
    · simp [hk]
  unfold update
  simp only [hrows]

theorem find_delete {t : Table key} {p : α → Bool} {k : κ} :
    (t.delete p).find k = (t.find k).filter fun a => !p a := by
  refine Option.ext fun a => ?_
  simp only [find_eq_some, mem_delete, Option.filter_eq_some_iff, Bool.not_eq_true']
  exact ⟨fun ⟨⟨h, hp⟩, hk⟩ => ⟨⟨h, hk⟩, hp⟩, fun ⟨⟨h, hk⟩, hp⟩ => ⟨⟨h, hp⟩, hk⟩⟩

theorem find_update {t : Table key} {p : α → Bool} {f : α → α} (hf : ∀ a, key (f a) = key a)
    {k : κ} : (t.update p f hf).find k = (t.find k).map fun a => if p a then f a else a := by
  have hkey : ∀ b : α, key (if p b then f b else b) = key b := fun b => by
    split
    · exact hf b
    · rfl
  refine Option.ext fun a => ?_
  simp only [find_eq_some, mem_update, Option.map_eq_some_iff]
  constructor
  · rintro ⟨⟨b, hb, rfl⟩, hk⟩
    exact ⟨b, ⟨hb, (hkey b).symm.trans hk⟩, rfl⟩
  · rintro ⟨b, ⟨hb, hk⟩, rfl⟩
    exact ⟨⟨b, hb, rfl⟩, (hkey b).trans hk⟩

theorem find_update_of_find {t : Table key} {p : α → Bool} {f : α → α} (hf : ∀ a, key (f a) = key a)
    {k : κ} {a : α} (h : t.find k = some a) :
    (t.update p f hf).find k = some (if p a then f a else a) := by
  rw [find_update, h]
  rfl

/-! ## References -/

section Refers

variable {β ι : Type} [DecidableEq ι] {other : β → ι} {t : Table key} {f : α → ι} {u : Table other}

/-- A foreign key: what a row names is a row of the other table. -/
def Refers (t : Table key) (f : α → ι) (u : Table other) : Prop := ∀ a ∈ t, (u.find (f a)).isSome

omit [DecidableEq κ] in
theorem Refers.delete_left (h : t.Refers f u) (p : α → Bool) : (t.delete p).Refers f u :=
  fun a ha => h a (mem_delete.1 ha).1

omit [DecidableEq κ] in
/-- Rows that no row names may go. -/
theorem Refers.delete_right (h : t.Refers f u) {q : β → Bool}
    (hq : ∀ a ∈ t, ∀ b ∈ u, other b = f a → q b = false) : t.Refers f (u.delete q) := by
  intro a ha
  obtain ⟨b, hb⟩ := Option.isSome_iff_exists.1 (h a ha)
  rw [find_delete, hb, Option.filter_some, hq a ha b (mem_of_find hb) (key_of_find hb)]
  rfl

end Refers

/-! ## Sums over a table -/

/-- A number that the rows have, summed up. -/
def sum (t : Table key) (f : α → Nat) : Nat := (t.rows.map f).sum

omit [DecidableEq κ] in
theorem sum_delete_add (t : Table key) (p : α → Bool) (f : α → Nat) :
    (t.delete p).sum f + ((t.rows.filter p).map f).sum = t.sum f := by
  show ((t.rows.filter fun a => !p a).map f).sum + _ = (t.rows.map f).sum
  induction t.rows with
  | nil => rfl
  | cons a as ih =>
    cases h : p a
    all_goals
      simp only [h, List.filter_cons, Bool.not_false, Bool.not_true, if_true, if_false, List.map_cons,
        List.sum_cons, Bool.false_eq_true]
      omega

omit [DecidableEq κ] in
theorem sum_delete_le (t : Table key) (p : α → Bool) (f : α → Nat) : (t.delete p).sum f ≤ t.sum f :=
  Nat.le.intro (sum_delete_add t p f)

omit [DecidableEq κ] in
theorem sum_update_eq {t : Table key} {p : α → Bool} {g : α → α} (hg : ∀ a, key (g a) = key a)
    {f : α → Nat} (hf : ∀ a, f (g a) = f a) : (t.update p g hg).sum f = t.sum f := by
  show ((t.rows.map fun a => if p a then g a else a).map f).sum = (t.rows.map f).sum
  rw [List.map_map]
  congr 1
  apply List.map_congr_left
  intro a _
  show f (if p a then g a else a) = f a
  split
  · exact hf a
  · rfl

omit [DecidableEq κ] in
theorem sum_update_le {t : Table key} {p : α → Bool} {g : α → α} (hg : ∀ a, key (g a) = key a)
    {f : α → Nat} (hf : ∀ a, f (g a) ≤ f a) : (t.update p g hg).sum f ≤ t.sum f := by
  show ((t.rows.map fun a => if p a then g a else a).map f).sum ≤ (t.rows.map f).sum
  rw [List.map_map]
  apply List.sum_le_sum
  intro a _
  show f (if p a then g a else a) ≤ f a
  split
  · exact hf a
  · exact le_rfl

/-- Among rows with distinct keys, one is replaced. -/
theorem sum_replace {a b : α} (f : α → Nat) (hk : key b = key a) :
    ∀ rows : List α, (rows.map key).Nodup → b ∈ rows →
      ((rows.map fun c => if key c = key a then a else c).map f).sum + f b = (rows.map f).sum + f a
  | [], _, hmem => nomatch hmem
  | c :: rows, hnodup, hmem => by
    obtain ⟨hc, hnodup⟩ := List.nodup_cons.1 hnodup
    rcases List.mem_cons.1 hmem with rfl | hmem
    · have hrest : (rows.map fun d => if key d = key a then a else d) = rows := by
        have hother : ∀ d ∈ rows, (if key d = key a then a else d) = id d := by
          intro d hd
          rw [if_neg]
          · rfl
          · intro hkey
            exact hc ((hkey.trans hk.symm) ▸ List.mem_map_of_mem hd)
        rw [List.map_congr_left hother, List.map_id]
      simp only [List.map_cons, if_pos hk, hrest, List.sum_cons]
      omega
    · have hne : key c ≠ key a := by
        intro hkey
        exact hc (hkey.trans hk.symm ▸ List.mem_map_of_mem hmem)
      have := sum_replace f hk rows hnodup hmem
      simp only [List.map_cons, if_neg hne, List.sum_cons]
      omega

/-- What a row that is put adds, less what the row of its key had. -/
theorem sum_put (t : Table key) (a : α) (f : α → Nat) :
    (t.put a).sum f + ((t.find (key a)).map f).getD 0 = t.sum f + f a := by
  unfold put sum
  split
  · next h =>
    rw [find_eq_none.2 h]
    simp
  · next h =>
    push Not at h
    obtain ⟨b, hb, hk⟩ := h
    rw [find_eq_some.2 ⟨hb, hk⟩]
    exact sum_replace f hk t.rows t.nodup hb

omit [DecidableEq κ] in
theorem sum_congr {t : Table key} {f g : α → Nat} (h : ∀ a ∈ t, f a = g a) : t.sum f = t.sum g := by
  show (t.rows.map f).sum = (t.rows.map g).sum
  rw [List.map_congr_left h]

omit [DecidableEq κ] in
theorem sum_le_sum {t : Table key} {f g : α → Nat} (h : ∀ a ∈ t, f a ≤ g a) : t.sum f ≤ t.sum g :=
  List.sum_le_sum h

omit [DecidableEq κ] in
theorem sum_add (t : Table key) (f g : α → Nat) : (t.sum fun a => f a + g a) = t.sum f + t.sum g :=
  List.sum_map_add

/-! ## Numbers of rows -/

/-- The number of rows of a kind. -/
def count (t : Table key) (p : α → Bool) : Nat := t.sum fun a => (p a).toNat

omit [DecidableEq κ] in
@[simp] theorem count_empty (p : α → Bool) : (∅ : Table key).count p = 0 := rfl

omit [DecidableEq κ] in
theorem count_congr {t : Table key} {p q : α → Bool} (h : ∀ a ∈ t, p a = q a) : t.count p = t.count q :=
  sum_congr fun a ha => by rw [h a ha]

omit [DecidableEq κ] in
theorem count_delete (t : Table key) (p q : α → Bool) : (t.delete p).count q = t.count fun a => q a && !p a := by
  show ((t.rows.filter fun a => !p a).map fun a => (q a).toNat).sum =
    (t.rows.map fun a => (q a && !p a).toNat).sum
  induction t.rows with
  | nil => rfl
  | cons a rows ih =>
    rw [List.map_cons, List.sum_cons, ← ih]
    cases hp : p a with
    | true => simp [hp]
    | false => simp [hp]

omit [DecidableEq κ] in
theorem count_le_count {t : Table key} {p q : α → Bool} (h : ∀ a ∈ t, p a = true → q a = true) :
    t.count p ≤ t.count q := by
  apply sum_le_sum
  intro a ha
  exact Bool.toNat_le_toNat (h a ha)

omit [DecidableEq κ] in
theorem count_add (t : Table key) {p q r : α → Bool} (h : ∀ a, (p a).toNat = (q a).toNat + (r a).toNat) :
    t.count p = t.count q + t.count r := by
  unfold count
  rw [← sum_add]
  exact sum_congr fun a _ => h a

omit [DecidableEq κ] in
theorem count_le_add {t : Table key} {p q r : α → Bool} (h : ∀ a ∈ t, p a = true → q a = true ∨ r a = true) :
    t.count p ≤ t.count q + t.count r := by
  unfold count
  rw [← sum_add]
  apply sum_le_sum
  intro a ha
  cases hp : p a with
  | false => exact Nat.zero_le _
  | true => rcases h a ha hp with hq | hr <;> simp [*]

omit [DecidableEq κ] in
theorem count_eq_zero {t : Table key} {p : α → Bool} (h : ∀ a ∈ t, p a = false) : t.count p = 0 := by
  have hzero : t.count p = t.sum fun _ => 0 := sum_congr fun a ha => by rw [h a ha]; rfl
  simp [hzero, sum]

theorem count_put_of_find {t : Table key} {a b : α} (h : t.find (key a) = some b) (p : α → Bool) :
    (t.put a).count p + (p b).toNat = t.count p + (p a).toNat := by
  have hput := sum_put t a fun c => (p c).toNat
  rw [h] at hput
  exact hput

theorem count_put_of_none {t : Table key} {a : α} (h : t.find (key a) = none) (p : α → Bool) :
    (t.put a).count p = t.count p + (p a).toNat := by
  have hput := sum_put t a fun c => (p c).toNat
  rw [h] at hput
  exact hput

end Key

/-! ## Maps -/

section Maps

variable {β γ : Type}

/-- A map, as the rows of its keys and values. -/
abbrev Map (κ β : Type) := Table (Prod.fst : κ × β → κ)

/-- The map with a function applied to its values. -/
def mapValues (f : β → γ) (t : Map κ β) : Map κ γ :=
  ⟨t.rows.map fun a => (a.1, f a.2), by
    rw [List.map_map]
    exact t.nodup⟩

theorem find_mapValues [DecidableEq κ] (f : β → γ) (t : Map κ β) (k : κ) :
    (t.mapValues f).find k = (t.find k).map fun a => (a.1, f a.2) := by
  show (t.rows.map fun a => (a.1, f a.2)).find? (fun a => decide (a.1 = k)) = _
  rw [List.find?_map]
  rfl

end Maps

end Table

end TuiChat.Lib
