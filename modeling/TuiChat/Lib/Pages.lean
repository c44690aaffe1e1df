import Mathlib.Data.List.Induction
import Mathlib.Data.List.Sort

/-!
# Pages of a sorted list

A list whose keys rise is handed out in pages: a page is the first of its entries, and the next one has
those with keys above where the page ends. An entry is on the page if and only if its key is not above that
(`mem_take_iff`), and some entry is left if and only if the list is longer (`exists_above_iff`).
-/

namespace TuiChat.Lib.Page

variable {α : Type} {key : α → Nat} {after n : Nat} {l : List α} {a : α}

/-- The key that a page ends with, or that it started after. -/
def next (key : α → Nat) (after : Nat) (page : List α) : Nat := (page.getLast?.map key).getD after

/-- Keys rise along the list. -/
abbrev Rises (key : α → Nat) (l : List α) : Prop := l.Pairwise fun a b => key a < key b

theorem next_concat : next key after (l ++ [a]) = key a := by simp [next]

theorem next_eq (key : α → Nat) (after : Nat) (l : List α) :
    l = [] ∧ next key after l = after ∨ ∃ a ∈ l, next key after l = key a := by
  cases h : l.getLast? with
  | none => exact .inl ⟨List.getLast?_eq_none_iff.1 h, by rw [next, h]; rfl⟩
  | some a => exact .inr ⟨a, List.mem_of_getLast? h, by rw [next, h]; rfl⟩

theorem le_next (h : Rises key l) (ha : a ∈ l) : key a ≤ next key after l := by
  induction l using List.reverseRecOn with
  | nil => cases ha
  | append_singleton init last _ =>
    rw [next_concat]
    rcases List.mem_append.1 ha with ha | ha
    · exact Nat.le_of_lt ((List.pairwise_append.1 h).2.2 a ha last (List.mem_singleton_self _))
    · exact Nat.le_of_eq (congrArg key (List.mem_singleton.1 ha))

theorem after_le_next (h : ∀ a ∈ l, after < key a) : after ≤ next key after l := by
  rcases next_eq key after l with ⟨-, heq⟩ | ⟨a, ha, heq⟩
  · exact Nat.le_of_eq heq.symm
  · rw [heq]
    exact Nat.le_of_lt (h a ha)

/-- What is not on the page comes after it. -/
theorem next_lt (h : Rises key l) (hn : 0 < n) (ha : a ∈ l.drop n) : next key after (l.take n) < key a := by
  have hsplit := List.pairwise_append.1 (List.take_append_drop n l ▸ h)
  rcases next_eq key after (l.take n) with ⟨hnil, -⟩ | ⟨b, hb, heq⟩
  · rcases List.take_eq_nil_iff.1 hnil with h0 | rfl
    · omega
    · simp at ha
  · rw [heq]
    exact hsplit.2.2 b hb a ha

theorem mem_take_or_drop (n : Nat) (ha : a ∈ l) : a ∈ l.take n ∨ a ∈ l.drop n :=
  List.mem_append.1 ((List.take_append_drop n l).symm ▸ ha)

theorem mem_take_iff (h : Rises key l) (hn : 0 < n) (ha : a ∈ l) :
    a ∈ l.take n ↔ key a ≤ next key after (l.take n) := by
  constructor
  · exact fun ht => le_next (h.sublist (List.take_sublist n l)) ht
  · intro hle
    refine (mem_take_or_drop n ha).resolve_right fun hd => ?_
    have hlt := (next_lt h hn hd : next key after (l.take n) < key a)
    omega

theorem exists_above_iff (after : Nat) (h : Rises key l) (hn : 0 < n) :
    (∃ a ∈ l, next key after (l.take n) < key a) ↔ n < l.length := by
  constructor
  · rintro ⟨a, ha, hlt⟩
    by_contra hshort
    rw [List.take_of_length_le (by omega)] at hlt
    have hle : key a ≤ next key after l := le_next h ha
    omega
  · intro hlt
    have hlast : l[n] ∈ l.drop n := by
      rw [List.drop_eq_getElem_cons hlt]
      exact List.mem_cons_self
    exact ⟨l[n], List.mem_of_mem_drop hlast, next_lt h hn hlast⟩

/-- Rows with distinct numbers, sorted by them. -/
theorem rises_insertionSort (number : α → Nat) (nodup : l.Nodup)
    (distinct : ∀ a ∈ l, ∀ b ∈ l, number a = number b → a = b) :
    Rises number (l.insertionSort fun a b => number a ≤ number b) := by
  have hsorted : (l.insertionSort fun a b => number a ≤ number b).Pairwise fun a b => number a ≤ number b :=
    List.pairwise_insertionSort _ _
  have hnodup : (l.insertionSort fun a b => number a ≤ number b).Nodup :=
    (List.perm_insertionSort _ _).nodup_iff.2 nodup
  refine (hsorted.and hnodup).imp_of_mem fun {a b} ha hb ⟨hle, hne⟩ => ?_
  refine Nat.lt_of_le_of_ne hle fun heq => hne ?_
  exact distinct a ((List.mem_insertionSort _).1 ha) b ((List.mem_insertionSort _).1 hb) heq

end TuiChat.Lib.Page
