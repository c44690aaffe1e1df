import Mathlib.Data.List.Basic
import Mathlib.Algebra.Ring.Nat
import Mathlib.Algebra.Group.Int.Defs

/-!
# The protobuf wire format, as an encoder writes it

Base-128 varints and the field encoders of proto3: a scalar field that holds its default value is
not written, a message field is written as key, length and body. Every encoder comes with the
length of what it writes, in terms of the lengths of what it is given.
-/

namespace TuiChat.Lib

/-- A byte string. -/
abbrev Bytes := List UInt8

/-- Consecutive pieces of `n` elements; the last may be shorter. -/
def chunksGo {α : Type} (n : Nat) : Nat → List α → List (List α)
  | 0, _ => []
  | fuel + 1, as => if as.isEmpty then [] else as.take n :: chunksGo n fuel (as.drop n)

/-- `chunks(n)`. -/
def chunks {α : Type} (n : Nat) (as : List α) : List (List α) := chunksGo n as.length as

theorem length_chunksGo {α : Type} (n : Nat) (hn : 0 < n) : ∀ (fuel : Nat) (as : List α),
    as.length ≤ fuel → (chunksGo n fuel as).length = (as.length + n - 1) / n
  | 0, as, h => by
    have hnil : as.length = 0 := by omega
    rw [hnil, chunksGo, Nat.zero_add, Nat.div_eq_of_lt (by omega)]
    rfl
  | fuel + 1, [], _ => by
    rw [chunksGo, List.length_nil, Nat.zero_add, Nat.div_eq_of_lt (by omega)]
    rfl
  | fuel + 1, a :: as, h => by
    have hdrop : ((a :: as).drop n).length = (a :: as).length - n := List.length_drop
    have hshort : ((a :: as).drop n).length ≤ fuel := by
      simp only [List.length_cons] at h hdrop
      omega
    rw [chunksGo, if_neg (by simp), List.length_cons, length_chunksGo n hn fuel _ hshort, hdrop]
    rcases Nat.le_total n (a :: as).length with hle | hle
    · rw [show (a :: as).length + n - 1 = ((a :: as).length - n + n - 1) + n by omega,
        Nat.add_div_right _ hn]
    · rw [show (a :: as).length - n + n - 1 = n - 1 by omega, Nat.div_eq_of_lt (by omega),
        Nat.div_eq_of_lt_le]
      · simp
      · simp only [List.length_cons] at hle ⊢
        omega

theorem length_chunks {α : Type} (n : Nat) (hn : 0 < n) (as : List α) :
    (chunks n as).length = (as.length + n - 1) / n := length_chunksGo n hn _ as (Nat.le_refl _)

namespace Wire

/-- The bytes of a text, in UTF-8. -/
def utf8 (s : String) : Bytes := s.toList.flatMap String.utf8EncodeChar

theorem utf8_injective {s t : String} (h : utf8 s = utf8 t) : s = t := by
  have hbytes : ∀ s : String, s.toByteArray = (utf8 s).toByteArray := fun s => by
    conv_lhs => rw [← String.ofList_toList (s := s)]
    rw [String.toByteArray_ofList]
    rfl
  rw [← String.toByteArray_inj, hbytes, hbytes, h]

theorem eq_zero_of_ofNat {n : Nat} (hn : n < 256) (h : 0 = UInt8.ofNat n) : n = 0 := by
  have hnat := congrArg UInt8.toNat h
  rw [UInt8.toNat_ofNat', Nat.mod_eq_of_lt hn] at hnat
  exact hnat.symm

theorem zero_mem_utf8EncodeChar {c : Char} (h : 0 ∈ String.utf8EncodeChar c) : c = '\x00' := by
  revert h
  fun_cases String.utf8EncodeChar c with
  | case1 v hv =>
    intro h
    have hv0 : c.val.toNat = 0 := eq_zero_of_ofNat (n := v) (by omega) (List.mem_singleton.1 h)
    exact Char.ext (UInt32.toNat.inj hv0)
  | case2 v =>
    intro h
    simp only [List.mem_cons, List.not_mem_nil, or_false] at h
    rcases h with h | h <;> exact absurd (eq_zero_of_ofNat (by omega) h) (by omega)
  | case3 v =>
    intro h
    simp only [List.mem_cons, List.not_mem_nil, or_false] at h
    rcases h with h | h | h <;> exact absurd (eq_zero_of_ofNat (by omega) h) (by omega)
  | case4 v =>
    intro h
    simp only [List.mem_cons, List.not_mem_nil, or_false] at h
    rcases h with h | h | h | h <;> exact absurd (eq_zero_of_ofNat (by omega) h) (by omega)

/-- A text without NUL is written without a zero byte. -/
theorem zero_notMem_utf8 {s : String} (h : '\x00' ∉ s.toList) : 0 ∉ utf8 s := by
  intro hmem
  obtain ⟨c, hc, hzero⟩ := List.mem_flatMap.1 hmem
  exact h (zero_mem_utf8EncodeChar hzero ▸ hc)

/-- A field without the byte that ends it can be told from what follows. -/
theorem terminated_injective {b : UInt8} : ∀ {field field' rest rest' : Bytes}, b ∉ field → b ∉ field' →
    field ++ b :: rest = field' ++ b :: rest' → field = field' ∧ rest = rest'
  | [], [], _, _, _, _, h => ⟨rfl, (List.cons.inj h).2⟩
  | [], _ :: _, _, _, _, hfree, h => absurd ((List.cons.inj h).1 ▸ List.mem_cons_self) hfree
  | _ :: _, [], _, _, hfree, _, h => absurd ((List.cons.inj h).1 ▸ List.mem_cons_self) hfree
  | a :: field, a' :: field', rest, rest', hfree, hfree', h => by
    obtain ⟨rfl, htail⟩ := List.cons.inj h
    obtain ⟨rfl, hrest⟩ := terminated_injective (fun hb => hfree (List.mem_cons_of_mem _ hb))
      (fun hb => hfree' (List.mem_cons_of_mem _ hb)) htail
    exact ⟨rfl, hrest⟩

/-- Base-128 varint with at most `k + 1` bytes: seven bits a byte, low bits first. -/
def varintGo : Nat → Nat → Bytes
  | 0, n => [UInt8.ofNat (n % 128)]
  | k + 1, n => if n < 128 then [UInt8.ofNat n] else UInt8.ofNat (n % 128 + 128) :: varintGo k (n / 128)

/-- The varint of a 64-bit value: at most ten bytes. -/
def varint (n : Nat) : Bytes := varintGo 9 n

/-- The number of bytes of a varint. -/
def varintLen (n : Nat) : Nat := (varint n).length

/-- The key of a field: its number and its wire type. -/
def key (field wireType : Nat) : Bytes := varint (field * 8 + wireType)

/-- A `uint32`, `uint64`, `bool` or `enum` field. -/
def uintField (field n : Nat) : Bytes := if n = 0 then [] else key field 0 ++ varint n

/-- An `int64` field: two's complement in 64 bits. -/
def intField (field : Nat) (n : Int) : Bytes := uintField field (n % 2 ^ 64).toNat

def boolField (field : Nat) (b : Bool) : Bytes := uintField field b.toNat

/-- A length-delimited field that is written even when empty. -/
def messageField (field : Nat) (body : Bytes) : Bytes :=
  key field 2 ++ varint body.length ++ body

/-- A `bytes` field. -/
def bytesField (field : Nat) (b : Bytes) : Bytes := if b = [] then [] else messageField field b

/-- A `string` field. -/
def stringField (field : Nat) (s : String) : Bytes := bytesField field (utf8 s)

/-- A `repeated` message field. -/
def repeatedField {α : Type} (field : Nat) (encode : α → Bytes) (as : List α) : Bytes :=
  as.flatMap fun a => messageField field (encode a)

/-- An optional message field. -/
def optionField {α : Type} (field : Nat) (encode : α → Bytes) (a : Option α) : Bytes :=
  repeatedField field encode a.toList

/-! ## Lengths -/

theorem varintGo_length_le : ∀ k n, (varintGo k n).length ≤ k + 1
  | 0, _ => Nat.le_refl 1
  | k + 1, n => by
    unfold varintGo
    split
    · simp
    · simpa using varintGo_length_le k (n / 128)

theorem varintGo_length_pos : ∀ k n, 1 ≤ (varintGo k n).length
  | 0, _ => Nat.le_refl 1
  | k + 1, n => by unfold varintGo; split <;> simp

theorem varintGo_length_mono : ∀ k {m n : Nat}, m ≤ n → (varintGo k m).length ≤ (varintGo k n).length
  | 0, _, _, _ => Nat.le_refl 1
  | k + 1, m, n, h => by
    unfold varintGo
    split
    · split <;> simp
    · next hm =>
      rw [if_neg (by omega)]
      simpa using varintGo_length_mono k (Nat.div_le_div_right h)

theorem varintGo_length_of_lt : ∀ k {n : Nat}, n < 128 ^ (k + 1) → ∀ j, (varintGo (k + j) n).length ≤ k + 1
  | 0, n, h, j => by
    cases j with
    | zero => exact Nat.le_refl 1
    | succ j => unfold varintGo; rw [if_pos (by simpa using h)]; simp
  | k + 1, n, h, j => by
    rw [show k + 1 + j = (k + j) + 1 by omega]
    unfold varintGo
    split
    · simp
    · have hlt : n / 128 < 128 ^ (k + 1) := by
        rw [Nat.div_lt_iff_lt_mul (by decide)]
        simpa [Nat.pow_succ] using h
      simpa using varintGo_length_of_lt k hlt j

theorem varintLen_pos (n : Nat) : 1 ≤ varintLen n := varintGo_length_pos 9 n

theorem varintLen_le (n : Nat) : varintLen n ≤ 10 := varintGo_length_le 9 n

theorem varintLen_mono {m n : Nat} (h : m ≤ n) : varintLen m ≤ varintLen n :=
  varintGo_length_mono 9 h

/-- Three bytes hold every length below `2 ^ 21`. -/
theorem varintLen_le_three {n : Nat} (h : n < 2097152) : varintLen n ≤ 3 :=
  varintGo_length_of_lt 2 h 7

@[simp] theorem length_varint (n : Nat) : (varint n).length = varintLen n := rfl

/-- The bytes of a length-delimited field around a body of length `n`. -/
def fieldLen (field n : Nat) : Nat := varintLen (field * 8 + 2) + varintLen n + n

theorem fieldLen_mono (field : Nat) {m n : Nat} (h : m ≤ n) : fieldLen field m ≤ fieldLen field n := by
  have := varintLen_mono h
  unfold fieldLen
  omega

/-- The bytes of a `bytes` or `string` field that holds `n` bytes. -/
def bytesLen (field n : Nat) : Nat := if n = 0 then 0 else fieldLen field n

/-- The bytes of a varint field. -/
def uintLen (field n : Nat) : Nat := if n = 0 then 0 else varintLen (field * 8) + varintLen n

/-- The bytes of an `int64` field. -/
def intLen (field : Nat) (n : Int) : Nat := uintLen field (n % 2 ^ 64).toNat

@[simp] theorem length_messageField (field : Nat) (b : Bytes) :
    (messageField field b).length = fieldLen field b.length := by
  simp [messageField, key, fieldLen, Nat.add_assoc]

@[simp] theorem length_bytesField (field : Nat) (b : Bytes) :
    (bytesField field b).length = bytesLen field b.length := by
  cases b <;> simp [bytesField, bytesLen]

@[simp] theorem length_stringField (field : Nat) (s : String) :
    (stringField field s).length = bytesLen field (utf8 s).length := length_bytesField field _

@[simp] theorem length_uintField (field n : Nat) : (uintField field n).length = uintLen field n := by
  unfold uintField uintLen
  split
  · rfl
  · simp [key]

@[simp] theorem length_intField (field : Nat) (n : Int) :
    (intField field n).length = intLen field n := length_uintField field _

@[simp] theorem length_repeatedField {α : Type} (field : Nat) (encode : α → Bytes) (as : List α) :
    (repeatedField field encode as).length =
      (as.map fun a => fieldLen field (encode a).length).sum := by
  simp [repeatedField, List.length_flatMap]

theorem uintLen_le (field n : Nat) : uintLen field n ≤ varintLen (field * 8) + 10 := by
  have := varintLen_le n
  unfold uintLen
  split <;> omega

theorem bytesLen_mono (field : Nat) {m n : Nat} (h : m ≤ n) : bytesLen field m ≤ bytesLen field n := by
  have := fieldLen_mono field h
  unfold bytesLen
  split <;> split <;> omega

end Wire

end TuiChat.Lib
