import Mathlib.Data.List.Sort

/-!
# Paging backward by a key

A page is the last `n` rows in an order, oldest first; the page before it is the last `n` of the rows that
are before its first one. If the order tells rows apart, then prepending page after page gives longer and
longer ends of the sorted rows (`loaded_eq`), whatever keys tie: a page that is not full is the first one
(`page_full_or_all`). A query that takes the first `n` rows of the reverse order and sorts them again
returns such a page (`query_eq_lastPage`).
-/

namespace TuiChat.Lib.Keyset

variable {α : Type} (le : α → α → Bool) (n : Nat)

def sorted (rows : List α) : List α := rows.insertionSort fun a b => le a b

/-- The last `n` rows, oldest first. -/
def lastPage (rows : List α) : List α := (sorted le rows).drop ((sorted le rows).length - n)

/-- `SELECT * FROM (SELECT .. ORDER BY key DESC LIMIT n) ORDER BY key`. -/
def query (rows : List α) : List α :=
  ((rows.insertionSort fun a b => le b a).take n).insertionSort fun a b => le a b

/-- The rows before one. -/
def before (a : α) (rows : List α) : List α := rows.filter fun b => !le a b

/-- The page before the loaded rows. -/
def older (rows loaded : List α) : List α :=
  match loaded.head? with
  | none => []
  | some a => lastPage le n (before le a rows)

/-- The rows that are loaded after `k` older pages were prepended to the last one. -/
def loaded (rows : List α) : Nat → List α
  | 0 => lastPage le n rows
  | k + 1 => older le n rows (loaded rows k) ++ loaded rows k

/-- The last one of the pages that were loaded then. -/
def page (rows : List α) : Nat → List α
  | 0 => lastPage le n rows
  | k + 1 => older le n rows (loaded le n rows k)

/-- The order tells the rows apart. -/
def Distinguishes (rows : List α) : Prop := ∀ a ∈ rows, ∀ b ∈ rows, le a b = true → le b a = true → a = b

section

variable {le n} {rows : List α}

theorem sorted_perm (rows : List α) : (sorted le rows).Perm rows := List.perm_insertionSort _ _

variable [Std.Total fun a b => le a b = true] [IsTrans α fun a b => le a b = true]

theorem sorted_pairwise (rows : List α) : (sorted le rows).Pairwise fun a b => le a b = true :=
  List.pairwise_insertionSort _ _

/-- There is one way to sort rows that the order tells apart. -/
theorem eq_sorted (h : Distinguishes le rows) {l : List α} (hperm : l.Perm rows)
    (hl : l.Pairwise fun a b => le a b = true) : l = sorted le rows := by
  apply List.Perm.eq_of_pairwise _ hl (sorted_pairwise rows) (hperm.trans (sorted_perm rows).symm)
  intro a b ha hb
  exact h a (hperm.mem_iff.1 ha) b ((sorted_perm rows).mem_iff.1 hb)

theorem sorted_filter (h : Distinguishes le rows) (p : α → Bool) :
    sorted le (rows.filter p) = (sorted le rows).filter p := by
  have hfilter : Distinguishes le (rows.filter p) := fun a ha b hb =>
    h a (List.mem_of_mem_filter ha) b (List.mem_of_mem_filter hb)
  exact (eq_sorted hfilter ((sorted_perm rows).filter p) ((sorted_pairwise rows).filter p)).symm

/-- The query has the rows of the page. -/
theorem query_eq_lastPage (h : Distinguishes le rows) : query le n rows = lastPage le n rows := by
  have hdescending : rows.insertionSort (fun a b => le b a) = (sorted le rows).reverse := by
    have htotal : Std.Total fun a b => le b a = true := ⟨fun a b => Std.Total.total (r := fun a b => le a b = true) b a⟩
    have htrans : IsTrans α fun a b => le b a = true :=
      ⟨fun a b c hab hbc => IsTrans.trans (r := fun a b => le a b = true) c b a hbc hab⟩
    have hsort := List.pairwise_insertionSort (fun a b => le b a = true) rows
    have hperm := List.perm_insertionSort (fun a b => le b a = true) rows
    have hreverse := eq_sorted h ((List.reverse_perm _).trans hperm) (List.pairwise_reverse.2 hsort)
    rw [← hreverse, List.reverse_reverse]
  have htake : ((sorted le rows).reverse.take n) = (lastPage le n rows).reverse := by
    rw [List.take_reverse, lastPage]
  unfold query
  rw [hdescending, htake]
  have hpage : Distinguishes le (lastPage le n rows).reverse := by
    intro a ha b hb
    have hmem : ∀ c ∈ (lastPage le n rows).reverse, c ∈ rows := fun c hc =>
      (sorted_perm rows).mem_iff.1 (List.mem_of_mem_drop (List.mem_reverse.1 hc))
    exact h a (hmem a ha) b (hmem b hb)
  exact (eq_sorted hpage (List.reverse_perm _).symm ((sorted_pairwise rows).drop)).symm

/-- The rows before one of the sorted rows are those in front of it. -/
theorem sorted_before (h : Distinguishes le rows) (hnodup : rows.Nodup) {front back : List α} {a : α}
    (hsplit : sorted le rows = front ++ a :: back) : sorted le (before le a rows) = front := by
  have hsorted : (sorted le rows).Pairwise fun a b => le a b = true := sorted_pairwise rows
  have hnodup : (sorted le rows).Nodup := (sorted_perm rows).nodup_iff.2 hnodup
  rw [hsplit] at hsorted hnodup
  obtain ⟨-, hback, hfront⟩ := List.pairwise_append.1 hsorted
  have hmem : ∀ b ∈ front ++ a :: back, b ∈ rows := fun b hb => (sorted_perm rows).mem_iff.1 (hsplit ▸ hb)
  have hkept : front.filter (fun b => !le a b) = front := by
    apply List.filter_eq_self.2
    intro b hb
    rw [Bool.not_eq_true']
    by_contra hle
    rw [Bool.not_eq_false] at hle
    have heq := h a (hmem a (by simp)) b (hmem b (by simp [hb])) hle (hfront b hb a List.mem_cons_self)
    rw [← heq] at hb
    exact (List.nodup_append.1 hnodup).2.2 a hb a List.mem_cons_self rfl
  have hself : le a a = true := (Std.Total.total (r := fun a b => le a b = true) a a).elim id id
  have hdropped : (a :: back).filter (fun b => !le a b) = [] := by
    apply List.filter_eq_nil_iff.2
    intro b hb
    rcases List.mem_cons.1 hb with rfl | hb
    · simp [hself]
    · simp [(List.pairwise_cons.1 hback).1 b hb]
  rw [before, sorted_filter h, hsplit, List.filter_append, hkept, hdropped, List.append_nil]

/-- Prepending a page to an end of the sorted rows gives a longer end. -/
theorem older_append (h : Distinguishes le rows) (hnodup : rows.Nodup) {m : Nat}
    (hm : m < (sorted le rows).length ∨ rows = []) :
    older le n rows ((sorted le rows).drop m) ++ (sorted le rows).drop m = (sorted le rows).drop (m - n) := by
  rcases hm with hm | rfl
  · have hdrop : (sorted le rows).drop m = (sorted le rows)[m] :: (sorted le rows).drop (m + 1) :=
      List.drop_eq_getElem_cons hm
    have hsplit : sorted le rows = (sorted le rows).take m ++ (sorted le rows)[m] :: (sorted le rows).drop (m + 1) := by
      rw [← hdrop, List.take_append_drop]
    have hfront := sorted_before h hnodup hsplit
    have holder : older le n rows ((sorted le rows).drop m) = ((sorted le rows).take m).drop (m - n) := by
      unfold older
      rw [hdrop]
      dsimp only [List.head?_cons]
      rw [lastPage, hfront, List.length_take, Nat.min_eq_left hm.le]
    rw [holder]
    conv_rhs => rw [← List.take_append_drop m (sorted le rows)]
    have hlength : m - n ≤ ((sorted le rows).take m).length := by
      rw [List.length_take, Nat.min_eq_left hm.le]
      omega
    rw [List.drop_append_of_le_length hlength]
  · simp [sorted, older]

/-- After `k` older pages, the last `(k + 1) * n` rows are loaded, each once. -/
theorem loaded_eq (h : Distinguishes le rows) (hnodup : rows.Nodup) (hn : 0 < n) (k : Nat) :
    loaded le n rows k = (sorted le rows).drop ((sorted le rows).length - (k + 1) * n) := by
  induction k with
  | zero => rw [loaded, lastPage, Nat.zero_add, Nat.one_mul]
  | succ k ih =>
    have hpos : 0 < (k + 1) * n := Nat.mul_pos k.succ_pos hn
    have hm : (sorted le rows).length - (k + 1) * n < (sorted le rows).length ∨ rows = [] := by
      rcases Nat.eq_zero_or_pos (sorted le rows).length with hzero | hlength
      · rw [sorted, List.length_insertionSort] at hzero
        exact .inr (List.length_eq_zero_iff.1 hzero)
      · exact .inl (by omega)
    rw [loaded, ih, older_append h hnodup hm, Nat.sub_sub]
    congr 2
    rw [Nat.succ_mul (k + 1)]

theorem length_page (h : Distinguishes le rows) (hnodup : rows.Nodup) (hn : 0 < n) (k : Nat) :
    (page le n rows k).length = min n (rows.length - k * n) := by
  have hlength : (sorted le rows).length = rows.length := List.length_insertionSort _ _
  cases k with
  | zero =>
    rw [page, lastPage, List.length_drop, hlength]
    omega
  | succ k =>
    have hloaded := congrArg List.length (loaded_eq h hnodup hn (k + 1))
    rw [loaded, List.length_append, loaded_eq h hnodup hn k, List.length_drop, List.length_drop, hlength,
      Nat.succ_mul (k + 1)] at hloaded
    rw [page, loaded_eq h hnodup hn k, hlength]
    omega

/-- A page that is not full is the last to be loaded. -/
theorem page_full_or_all (h : Distinguishes le rows) (hnodup : rows.Nodup) (hn : 0 < n) {k : Nat}
    (hshort : (page le n rows k).length < n) : loaded le n rows k = sorted le rows := by
  rw [length_page h hnodup hn] at hshort
  have hlength : (sorted le rows).length = rows.length := List.length_insertionSort _ _
  have hmul : (k + 1) * n = k * n + n := Nat.succ_mul k n
  have hzero : (sorted le rows).length - (k + 1) * n = 0 := by omega
  rw [loaded_eq h hnodup hn, hzero, List.drop_zero]

end

end TuiChat.Lib.Keyset
