import TuiChat.Lib.Json

/-!
# Lines

A message of a protocol of lines is what comes up to a newline. The reader stops there, or at the end of what it is
willing to read. Compact JSON is one line, since the newlines of its strings are escaped.
-/

namespace TuiChat.Lib

/-- The bytes up to the first newline, and it: `read_until(b'\n')`. -/
def readLine : Bytes → Bytes
  | [] => []
  | b :: bs => if b = 10 then [b] else b :: readLine bs

/-- Bytes without a newline. -/
def Inline (bs : Bytes) : Prop := 10 ∉ bs

instance (bs : Bytes) : Decidable (Inline bs) := inferInstanceAs (Decidable (10 ∉ bs))

section

variable {bs cs : Bytes} {n : Nat}

theorem readLine_of_inline (h : Inline bs) : readLine bs = bs := by
  induction bs with
  | nil => rfl
  | cons b bs ih =>
    obtain ⟨hb, hbs⟩ := not_or.1 (fun hmem => h (List.mem_cons.2 hmem))
    rw [readLine, if_neg (Ne.symm hb), ih hbs]

theorem readLine_append (h : Inline bs) : readLine (bs ++ 10 :: cs) = bs ++ [10] := by
  induction bs with
  | nil => rfl
  | cons b bs ih =>
    obtain ⟨hb, hbs⟩ := not_or.1 (fun hmem => h (List.mem_cons.2 hmem))
    rw [List.cons_append, readLine, if_neg (Ne.symm hb), ih hbs, List.cons_append]

theorem Inline.take (h : Inline bs) (n : Nat) : Inline (bs.take n) := fun hmem => h (List.mem_of_mem_take hmem)

/-- A line that fits is read as it is. -/
theorem readLine_take (h : Inline bs) (hle : bs.length < n) : readLine ((bs ++ [10]).take n) = bs ++ [10] := by
  have hfits : (bs ++ [10]).length ≤ n := by
    rw [List.length_append]
    exact hle
  rw [List.take_of_length_le hfits]
  exact readLine_append h

/-- A longer one is cut off. -/
theorem length_readLine_take (h : Inline bs) : (readLine ((bs ++ [10]).take n)).length = min (bs.length + 1) n := by
  by_cases hlt : bs.length < n
  · rw [readLine_take h hlt, List.length_append, List.length_singleton]
    omega
  · have htake : (bs ++ [10]).take n = bs.take n := List.take_append_of_le_length (Nat.not_lt.1 hlt)
    rw [htake, readLine_of_inline (h.take n), List.length_take]
    omega

end

namespace Json

open Wire (utf8)

/-! ## JSON is one line -/

theorem inline_append {bs cs : Bytes} (h : Inline bs) (h' : Inline cs) : Inline (bs ++ cs) := fun hmem =>
  (List.mem_append.1 hmem).elim h h'

/-- A newline is encoded for a newline alone: the bytes of longer characters are above. -/
theorem inline_utf8EncodeChar {c : Char} (hc : c.toNat ≠ 10) : Inline (String.utf8EncodeChar c) := by
  have hhigh : ∀ n : Nat, n < 64 → ∀ m : Nat, 128 ≤ m → m + n < 256 → (10 : UInt8) ≠ UInt8.ofNat (n + m) := by
    intro n _ m hm hlt heq
    have hnat := congrArg UInt8.toNat heq
    rw [UInt8.toNat_ofNat', Nat.mod_eq_of_lt (by omega)] at hnat
    change 10 = n + m at hnat
    omega
  unfold String.utf8EncodeChar
  dsimp only
  split
  · next hsmall =>
    intro hmem
    have hnat := congrArg UInt8.toNat (List.mem_singleton.1 hmem)
    rw [UInt8.toNat_ofNat', Nat.mod_eq_of_lt (by omega)] at hnat
    exact hc hnat.symm
  split
  · intro hmem
    simp only [List.mem_cons, List.not_mem_nil, or_false] at hmem
    rcases hmem with hmem | hmem
    · exact hhigh _ (by omega) _ (by omega) (by omega) hmem
    · exact hhigh _ (by omega) _ (by omega) (by omega) hmem
  split
  · intro hmem
    simp only [List.mem_cons, List.not_mem_nil, or_false] at hmem
    rcases hmem with hmem | hmem | hmem
    · exact hhigh _ (by omega) _ (by omega) (by omega) hmem
    · exact hhigh _ (by omega) _ (by omega) (by omega) hmem
    · exact hhigh _ (by omega) _ (by omega) (by omega) hmem
  · intro hmem
    simp only [List.mem_cons, List.not_mem_nil, or_false] at hmem
    rcases hmem with hmem | hmem | hmem | hmem
    · exact hhigh _ (by omega) _ (by omega) (by omega) hmem
    · exact hhigh _ (by omega) _ (by omega) (by omega) hmem
    · exact hhigh _ (by omega) _ (by omega) (by omega) hmem
    · exact hhigh _ (by omega) _ (by omega) (by omega) hmem

theorem inline_utf8 {s : String} (h : ∀ c ∈ s.toList, c.toNat ≠ 10) : Inline (utf8 s) := by
  intro hmem
  obtain ⟨c, hc, hmem⟩ := List.mem_flatMap.1 hmem
  exact inline_utf8EncodeChar (h c hc) hmem

theorem inline_escapeChar (c : Char) : Inline (escapeChar c) := by
  have hdigit : ∀ n : Nat, n < 16 → (10 : UInt8) ≠ hexByte n := by decide
  unfold escapeChar
  dsimp only
  split
  · exact nofun
  split
  · exact nofun
  split
  · exact nofun
  split
  · exact nofun
  split
  · exact nofun
  split
  · exact nofun
  split
  · exact nofun
  split
  · simp [Inline, hdigit (c.toNat / 16) (by omega), hdigit (c.toNat % 16) (by omega)]
  · exact inline_utf8EncodeChar (by assumption)

@[simp] theorem inline_string (s : String) : Inline (string s) := by
  have hescape : Inline (escape s) := fun hmem => by
    obtain ⟨c, -, hmem⟩ := List.mem_flatMap.1 hmem
    exact inline_escapeChar c hmem
  exact inline_append (inline_append nofun hescape) nofun

@[simp] theorem inline_int (n : Int) : Inline (int n) := by
  have hnat : ∀ k : Nat, ∀ c ∈ k.repr.toList, c.toNat ≠ 10 := by
    intro k c hc heq
    rw [Nat.toList_repr] at hc
    have hdigit := Nat.isDigit_of_mem_toDigits (by decide) (by decide) hc
    have hchar : c = Char.ofNat 10 := by rw [← heq, Char.ofNat_toNat]
    rw [hchar] at hdigit
    cases hdigit
  refine inline_utf8 fun c hc => ?_
  cases n with
  | ofNat k => exact hnat k c hc
  | negSucc k =>
    change c ∈ ("-" ++ (k + 1).repr).toList at hc
    rw [String.toList_append, List.mem_append] at hc
    rcases hc with hc | hc
    · rw [List.mem_singleton.1 hc]
      decide
    · exact hnat _ c hc

@[simp] theorem inline_bool (b : Bool) : Inline (bool b) := by
  cases b
  · decide
  · decide

theorem inline_option {α : Type} {encode : α → Bytes} (h : ∀ a, Inline (encode a)) :
    ∀ o, Inline (option encode o)
  | none => by
    have hnull : Inline (utf8 "null") := by decide
    exact hnull
  | some a => h a

theorem inline_commas : ∀ {bs : List Bytes}, (∀ b ∈ bs, Inline b) → Inline (commas bs)
  | [], _ => nofun
  | [b], h => h b List.mem_cons_self
  | b :: c :: bs, h => by
    have hrest : Inline (commas (c :: bs)) := inline_commas fun b hb => h b (List.mem_cons_of_mem _ hb)
    exact inline_append (inline_append (h b List.mem_cons_self) nofun) hrest

@[simp] theorem inline_array {bs : List Bytes} (h : ∀ b ∈ bs, Inline b) : Inline (array bs) :=
  inline_append (inline_append nofun (inline_commas h)) nofun

@[simp] theorem inline_object {bs : List Bytes} (h : ∀ b ∈ bs, Inline b) : Inline (object bs) :=
  inline_append (inline_append nofun (inline_commas h)) nofun

@[simp] theorem inline_field (name : String) {value : Bytes} (h : Inline value) : Inline (field name value) :=
  inline_append (inline_append (inline_string name) nofun) h

/-! ## Records -/

/-- The bytes of a record beside its values. -/
def recordSize (names : List String) : Nat :=
  (names.map fun name => escapedLen name + 3).sum + (names.length - 1) + 2

theorem length_record (fields : List (String × Bytes)) :
    (object (fields.map fun f => field f.1 f.2)).length =
      recordSize (fields.map Prod.fst) + (fields.map fun f => f.2.length).sum := by
  have hsum : ((fields.map fun f => field f.1 f.2).map List.length).sum =
      ((fields.map Prod.fst).map fun name => escapedLen name + 3).sum + (fields.map fun f => f.2.length).sum := by
    induction fields with
    | nil => rfl
    | cons f fields ih =>
      simp only [List.map_cons, List.sum_cons, length_field, ih]
      omega
  rw [length_object, hsum, recordSize, List.length_map, List.length_map]
  omega

end Json

end TuiChat.Lib
