import Mathlib.Data.List.Basic

/-!
# Texts and their byte offsets

A text is the list of its characters. An offset into it counts bytes of UTF-8, as in a `&str`, and is
a boundary where it falls between two characters. What slices or replaces at another offset panics,
which is `none` here.
-/

namespace TuiChat.Lib

/-- `char::is_whitespace`: the Unicode property `White_Space`. -/
def isWhitespace (c : Char) : Bool :=
  (9 ≤ c.toNat && c.toNat ≤ 13) || (0x2000 ≤ c.toNat && c.toNat ≤ 0x200A) ||
    c.toNat ∈ [0x20, 0x85, 0xA0, 0x1680, 0x2028, 0x2029, 0x202F, 0x205F, 0x3000]

/-- `char::is_control`: the Unicode category `Cc`. -/
def isControl (c : Char) : Bool := c.toNat < 0x20 || (0x7F ≤ c.toNat && c.toNat < 0xA0)

/-- `text.len()`. -/
def byteLength : List Char → Nat
  | [] => 0
  | c :: cs => c.utf8Size + byteLength cs

@[simp] theorem byteLength_nil : byteLength [] = 0 := rfl

@[simp] theorem byteLength_cons (c : Char) (cs : List Char) :
    byteLength (c :: cs) = c.utf8Size + byteLength cs := rfl

@[simp] theorem byteLength_append (a b : List Char) : byteLength (a ++ b) = byteLength a + byteLength b := by
  induction a with
  | nil => simp
  | cons c cs ih => simp [ih, Nat.add_assoc]

theorem byteLength_eq_zero {a : List Char} : byteLength a = 0 ↔ a = [] := by
  cases a with
  | nil => simp
  | cons c cs =>
    have hpos := c.utf8Size_pos
    simp
    omega

/-- The parts of a text before and from an offset on. -/
def splitAtByte : List Char → Nat → Option (List Char × List Char)
  | text, 0 => some ([], text)
  | [], _ + 1 => none
  | c :: cs, n + 1 =>
    if c.utf8Size ≤ n + 1 then
      (splitAtByte cs (n + 1 - c.utf8Size)).map fun (before, after) => (c :: before, after)
    else none

theorem splitAtByte_eq_some : ∀ {text : List Char} {n : Nat} {a b : List Char},
    splitAtByte text n = some (a, b) ↔ text = a ++ b ∧ byteLength a = n
  | text, 0, a, b => by
    constructor
    · intro h
      rw [splitAtByte] at h
      cases h
      exact ⟨rfl, rfl⟩
    · rintro ⟨rfl, hlength⟩
      rw [byteLength_eq_zero.1 hlength, splitAtByte, List.nil_append]
  | [], n + 1, a, b => by
    constructor
    · intro h
      cases h
    · rintro ⟨htext, hlength⟩
      have ha : a = [] := (List.append_eq_nil_iff.1 htext.symm).1
      rw [ha] at hlength
      cases hlength
  | c :: cs, n + 1, a, b => by
    have hpos := c.utf8Size_pos
    rw [splitAtByte]
    constructor
    · intro h
      split at h
      · next hle =>
        obtain ⟨⟨before, after⟩, hsplit, heq⟩ := Option.map_eq_some_iff.1 h
        cases heq
        obtain ⟨rfl, hlength⟩ := splitAtByte_eq_some.1 hsplit
        refine ⟨rfl, ?_⟩
        rw [byteLength_cons]
        omega
      · cases h
    · rintro ⟨htext, hlength⟩
      cases a with
      | nil => cases hlength
      | cons c' before =>
        rw [List.cons_append] at htext
        obtain ⟨rfl, rfl⟩ := List.cons.inj htext
        rw [byteLength_cons] at hlength
        have hsplit : splitAtByte (before ++ b) (n + 1 - c.utf8Size) = some (before, b) :=
          splitAtByte_eq_some.2 ⟨rfl, by omega⟩
        rw [if_pos (by omega), hsplit]
        rfl

theorem splitAtByte_append (a b : List Char) : splitAtByte (a ++ b) (byteLength a) = some (a, b) :=
  splitAtByte_eq_some.2 ⟨rfl, rfl⟩

/-- `text.is_char_boundary(n)`. -/
def IsBoundary (text : List Char) (n : Nat) : Prop := ∃ a b, text = a ++ b ∧ byteLength a = n

theorem isBoundary_append (a b : List Char) : IsBoundary (a ++ b) (byteLength a) := ⟨a, b, rfl, rfl⟩

theorem isBoundary_zero (text : List Char) : IsBoundary text 0 := isBoundary_append [] text

theorem isBoundary_byteLength (text : List Char) : IsBoundary text (byteLength text) :=
  ⟨text, [], by simp, rfl⟩

theorem IsBoundary.le {text : List Char} {n : Nat} (h : IsBoundary text n) : n ≤ byteLength text := by
  obtain ⟨a, b, rfl, rfl⟩ := h
  simp

/-! ## Slices -/

/-- `&text[..n]`. -/
def sliceTo (text : List Char) (n : Nat) : Option (List Char) := (splitAtByte text n).map Prod.fst

/-- `&text[n..]`. -/
def sliceFrom (text : List Char) (n : Nat) : Option (List Char) := (splitAtByte text n).map Prod.snd

/-- `&text[start..stop]`. -/
def slice (text : List Char) (start stop : Nat) : Option (List Char) :=
  (sliceTo text stop).bind fun before => sliceFrom before start

/-- `text.replace_range(start..stop, with)`. -/
def replaceRange (text : List Char) (start stop : Nat) (inserted : List Char) : Option (List Char) := do
  let (upTo, after) ← splitAtByte text stop
  let before ← sliceTo upTo start
  return before ++ inserted ++ after

/-- `text.insert_str(n, inserted)`. -/
def insertStr (text : List Char) (n : Nat) (inserted : List Char) : Option (List Char) :=
  (splitAtByte text n).map fun (before, after) => before ++ inserted ++ after

@[simp] theorem sliceTo_append (a b : List Char) : sliceTo (a ++ b) (byteLength a) = some a := by
  rw [sliceTo, splitAtByte_append, Option.map_some]

@[simp] theorem sliceFrom_append (a b : List Char) : sliceFrom (a ++ b) (byteLength a) = some b := by
  rw [sliceFrom, splitAtByte_append, Option.map_some]

theorem slice_append (a m b : List Char) :
    slice (a ++ (m ++ b)) (byteLength a) (byteLength (a ++ m)) = some m := by
  rw [slice, ← List.append_assoc, sliceTo_append, Option.bind_some, sliceFrom_append]

theorem replaceRange_append (a m b inserted : List Char) :
    replaceRange (a ++ (m ++ b)) (byteLength a) (byteLength (a ++ m)) inserted =
      some (a ++ inserted ++ b) := by
  unfold replaceRange
  rw [← List.append_assoc, splitAtByte_append]
  simp

theorem insertStr_append (a b inserted : List Char) :
    insertStr (a ++ b) (byteLength a) inserted = some (a ++ inserted ++ b) := by
  rw [insertStr, splitAtByte_append, Option.map_some]

/-! ## Searches -/

/-- `text.find(c)`. -/
def findChar (c : Char) : List Char → Option Nat
  | [] => none
  | d :: text => if d = c then some 0 else (findChar c text).map (d.utf8Size + ·)

/-- `text.rfind(c)`. -/
def rfindChar (c : Char) : List Char → Option Nat
  | [] => none
  | d :: text =>
    match rfindChar c text with
    | some n => some (d.utf8Size + n)
    | none => if d = c then some 0 else none

theorem findChar_eq_none {c : Char} {text : List Char} : findChar c text = none ↔ c ∉ text := by
  induction text with
  | nil => simp [findChar]
  | cons d text ih =>
    rw [findChar]
    by_cases hd : d = c
    · simp [hd]
    · simp [hd, ih, Ne.symm hd]

theorem findChar_eq_some {c : Char} : ∀ {text : List Char} {n : Nat}, findChar c text = some n →
    ∃ a b, text = a ++ c :: b ∧ c ∉ a ∧ byteLength a = n
  | [], _, h => by cases h
  | d :: text, n, h => by
    rw [findChar] at h
    by_cases hd : d = c
    · rw [if_pos hd] at h
      cases h
      exact ⟨[], text, by simp [hd], by simp, rfl⟩
    · rw [if_neg hd] at h
      obtain ⟨m, hm, rfl⟩ := Option.map_eq_some_iff.1 h
      obtain ⟨a, b, rfl, ha, rfl⟩ := findChar_eq_some hm
      exact ⟨d :: a, b, rfl, by simp [ha, Ne.symm hd], rfl⟩

theorem rfindChar_eq_none {c : Char} {text : List Char} : rfindChar c text = none ↔ c ∉ text := by
  induction text with
  | nil => simp [rfindChar]
  | cons d text ih =>
    rw [rfindChar]
    cases hr : rfindChar c text with
    | some n =>
      have hmem : c ∈ text := by
        by_contra hnot
        rw [ih.2 hnot] at hr
        cases hr
      simp [hmem]
    | none =>
      have hnot : c ∉ text := ih.1 hr
      by_cases hd : d = c
      · simp [hd]
      · simp [hd, hnot, Ne.symm hd]

theorem rfindChar_eq_some {c : Char} : ∀ {text : List Char} {n : Nat}, rfindChar c text = some n →
    ∃ a b, text = a ++ c :: b ∧ c ∉ b ∧ byteLength a = n
  | [], _, h => by cases h
  | d :: text, n, h => by
    rw [rfindChar] at h
    cases hr : rfindChar c text with
    | some m =>
      rw [hr] at h
      cases h
      obtain ⟨a, b, rfl, hb, rfl⟩ := rfindChar_eq_some hr
      exact ⟨d :: a, b, rfl, hb, rfl⟩
    | none =>
      rw [hr] at h
      dsimp only at h
      by_cases hd : d = c
      · rw [if_pos hd] at h
        cases h
        exact ⟨[], text, by simp [hd], rfindChar_eq_none.1 hr, rfl⟩
      · rw [if_neg hd] at h
        cases h

/-! ## Pieces -/

/-- The pieces of a text with their offsets, for a text that starts at an offset. -/
def indicesFrom : Nat → List (List Char) → List (Nat × List Char)
  | _, [] => []
  | n, piece :: pieces => (n, piece) :: indicesFrom (n + byteLength piece) pieces

theorem indicesFrom_append (n : Nat) (ps qs : List (List Char)) :
    indicesFrom n (ps ++ qs) = indicesFrom n ps ++ indicesFrom (n + byteLength ps.flatten) qs := by
  induction ps generalizing n with
  | nil => simp [indicesFrom]
  | cons p ps ih => simp [indicesFrom, ih, Nat.add_assoc]

/-- A piece stands where the pieces before it end. -/
theorem mem_indicesFrom {n i : Nat} {piece : List Char} : ∀ {pieces : List (List Char)},
    (i, piece) ∈ indicesFrom n pieces →
      ∃ ps qs, pieces = ps ++ piece :: qs ∧ i = n + byteLength ps.flatten
  | [], h => by cases h
  | p :: pieces, h => by
    rcases List.mem_cons.1 h with heq | hmem
    · cases heq
      exact ⟨[], pieces, rfl, rfl⟩
    · obtain ⟨ps, qs, rfl, rfl⟩ := mem_indicesFrom hmem
      exact ⟨p :: ps, qs, rfl, by simp [Nat.add_assoc]⟩

end TuiChat.Lib
