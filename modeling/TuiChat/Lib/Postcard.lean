import TuiChat.Lib.Wire

/-!
# Positional codecs

A `Codec` writes a value as bytes and reads one from the front of a stream. `Lawful` says that it reads what it
wrote, whatever follows, and that it reports the unexpected end of a stream that stops inside an encoding.
Records are pairs of their fields in order, and every combinator keeps the law. The base codecs are those of
the wire format of `postcard`: lengths and `usize`s are varints, and sequences begin with their length.
-/

namespace TuiChat.Lib

inductive PostcardError
  | deserializeUnexpectedEnd
  | other (text : String)
deriving DecidableEq, Repr

structure Codec (α : Type) where
  encode : α → Bytes
  decode : Bytes → Except PostcardError (α × Bytes)

namespace Codec

variable {α β : Type}

/-- `from_bytes`: what the value leaves of the bytes is not looked at. -/
def fromBytes (c : Codec α) (b : Bytes) : Except PostcardError α := (c.decode b).map Prod.fst

structure Lawful (c : Codec α) : Prop where
  decode_encode : ∀ a rest, c.decode (c.encode a ++ rest) = .ok (a, rest)
  unexpectedEnd : ∀ a b, b <+: c.encode a → b ≠ c.encode a → c.decode b = .error .deserializeUnexpectedEnd

theorem Lawful.fromBytes_encode {c : Codec α} (h : c.Lawful) (a : α) : c.fromBytes (c.encode a) = .ok a := by
  have hdecode := h.decode_encode a []
  rw [List.append_nil] at hdecode
  unfold fromBytes
  rw [hdecode]
  rfl

theorem Lawful.fromBytes_of_short {c : Codec α} (h : c.Lawful) {a : α} {b : Bytes} (hpre : b <+: c.encode a)
    (hne : b ≠ c.encode a) : c.fromBytes b = .error .deserializeUnexpectedEnd := by
  unfold fromBytes
  rw [h.unexpectedEnd a b hpre hne]
  rfl

/-- A stream that stops inside two parts stops inside the first, or after it inside the second. -/
theorem proper_prefix_append {x y b : Bytes} (h : b <+: x ++ y) (hne : b ≠ x ++ y) :
    (b <+: x ∧ b ≠ x) ∨ ∃ b', b = x ++ b' ∧ b' <+: y ∧ b' ≠ y := by
  obtain ⟨rest, hrest⟩ := h
  rcases List.append_eq_append_iff.1 hrest with ⟨left, hx, -⟩ | ⟨b', rfl, hy⟩
  · have hpre : b <+: x := ⟨left, hx.symm⟩
    by_cases heq : b = x
    · subst heq
      refine .inr ⟨[], (List.append_nil b).symm, List.nil_prefix, ?_⟩
      rintro rfl
      exact hne (List.append_nil b).symm
    · exact .inl ⟨hpre, heq⟩
  · refine .inr ⟨b', rfl, ⟨rest, hy.symm⟩, ?_⟩
    rintro rfl
    exact hne rfl

/-! ## Records -/

def pair (c : Codec α) (d : Codec β) : Codec (α × β) where
  encode p := c.encode p.1 ++ d.encode p.2
  decode b := (c.decode b).bind fun p => (d.decode p.2).map fun q => ((p.1, q.1), q.2)

theorem Lawful.pair {c : Codec α} {d : Codec β} (hc : c.Lawful) (hd : d.Lawful) : (c.pair d).Lawful where
  decode_encode p rest := by
    show (c.decode (c.encode p.1 ++ d.encode p.2 ++ rest)).bind _ = _
    rw [List.append_assoc, hc.decode_encode]
    show (d.decode (d.encode p.2 ++ rest)).map _ = _
    rw [hd.decode_encode]
    rfl
  unexpectedEnd p b hpre hne := by
    show (c.decode b).bind _ = _
    rcases proper_prefix_append hpre hne with ⟨hpre, hne⟩ | ⟨b', rfl, hpre, hne⟩
    · rw [hc.unexpectedEnd p.1 b hpre hne]
      rfl
    · rw [hc.decode_encode]
      show (d.decode b').map _ = _
      rw [hd.unexpectedEnd p.2 b' hpre hne]
      rfl

/-- The codec of a record, from that of its fields. -/
def iso (c : Codec α) (f : α → β) (g : β → α) : Codec β where
  encode b := c.encode (g b)
  decode bytes := (c.decode bytes).map fun p => (f p.1, p.2)

theorem Lawful.iso {c : Codec α} (hc : c.Lawful) {f : α → β} {g : β → α} (h : ∀ b, f (g b) = b) :
    (c.iso f g).Lawful where
  decode_encode b rest := by
    show (c.decode (c.encode (g b) ++ rest)).map _ = _
    rw [hc.decode_encode]
    show Except.ok (f (g b), rest) = _
    rw [h]
  unexpectedEnd b bytes hpre hne := by
    show (c.decode bytes).map _ = _
    rw [hc.unexpectedEnd (g b) bytes hpre hne]
    rfl

end Codec

/-! ## The wire format -/

namespace Postcard

open Codec
open Lib.Wire (utf8)

variable {α : Type}

/-- `varint(usize)`: seven bits a byte, low bits first. -/
def encodeVarint (n : Nat) : Bytes :=
  if h : n < 128 then [UInt8.ofNat n]
  else UInt8.ofNat (n % 128 + 128) :: encodeVarint (n / 128)
termination_by n
decreasing_by omega

def decodeVarint : Bytes → Except PostcardError (Nat × Bytes)
  | [] => .error .deserializeUnexpectedEnd
  | b :: bs =>
    if b.toNat < 128 then .ok (b.toNat, bs)
    else (decodeVarint bs).map fun p => (b.toNat - 128 + 128 * p.1, p.2)

def varint : Codec Nat := ⟨encodeVarint, decodeVarint⟩

theorem encodeVarint_ne_nil (n : Nat) : encodeVarint n ≠ [] := by
  unfold encodeVarint
  split <;> simp

theorem varint_lawful : varint.Lawful where
  decode_encode n rest := by
    show decodeVarint (encodeVarint n ++ rest) = _
    induction n using Nat.strongRecOn with
    | ind n ih =>
      unfold encodeVarint
      split
      · next hn =>
        have hbyte : (UInt8.ofNat n).toNat = n := by
          simp only [UInt8.toNat_ofNat']
          omega
        simp only [List.singleton_append, decodeVarint, hbyte, if_pos hn]
      · next hn =>
        have hbyte : (UInt8.ofNat (n % 128 + 128)).toNat = n % 128 + 128 := by
          simp only [UInt8.toNat_ofNat']
          omega
        have hnot : ¬ n % 128 + 128 < 128 := by omega
        have hvalue : n % 128 + 128 - 128 + 128 * (n / 128) = n := by omega
        simp only [List.cons_append, decodeVarint, hbyte, if_neg hnot, ih (n / 128) (by omega), Except.map, hvalue]
  unexpectedEnd n b hpre hne := by
    show decodeVarint b = _
    change b <+: encodeVarint n at hpre
    change b ≠ encodeVarint n at hne
    induction n using Nat.strongRecOn generalizing b with
    | ind n ih =>
      cases b with
      | nil => rfl
      | cons first b =>
        unfold encodeVarint at hpre hne
        split at hpre
        · next hn =>
          rw [dif_pos hn] at hne
          obtain ⟨rfl, hrest⟩ := List.cons_prefix_cons.1 hpre
          rw [List.prefix_nil.1 hrest] at hne
          exact absurd rfl hne
        · next hn =>
          rw [dif_neg hn] at hne
          obtain ⟨rfl, hrest⟩ := List.cons_prefix_cons.1 hpre
          have hbyte : (UInt8.ofNat (n % 128 + 128)).toNat = n % 128 + 128 := by
            simp only [UInt8.toNat_ofNat']
            omega
          have hnot : ¬ n % 128 + 128 < 128 := by omega
          have hrestNe : b ≠ encodeVarint (n / 128) := by
            rintro rfl
            exact hne rfl
          simp only [decodeVarint, hbyte, if_neg hnot, ih (n / 128) (by omega) b hrest hrestNe]
          rfl

/-- `[u8; n]`. -/
def array (n : Nat) : Codec { b : Bytes // b.length = n } where
  encode a := a.1
  decode b :=
    if h : n ≤ b.length then .ok (⟨b.take n, by rw [List.length_take]; omega⟩, b.drop n)
    else .error .deserializeUnexpectedEnd

theorem array_lawful (n : Nat) : (array n).Lawful where
  decode_encode a rest := by
    obtain ⟨a, rfl⟩ := a
    have hlength : a.length ≤ (a ++ rest).length := by simp
    show (if h : a.length ≤ (a ++ rest).length then _ else _) = _
    rw [dif_pos hlength]
    show Except.ok ((⟨(a ++ rest).take a.length, _⟩ : { b : Bytes // b.length = a.length }), (a ++ rest).drop a.length) = _
    simp
  unexpectedEnd a b hpre hne := by
    have hlt : ¬ n ≤ b.length := by
      intro hle
      exact hne (hpre.eq_of_length (Nat.le_antisymm hpre.length_le (le_of_eq_of_le a.2 hle)))
    exact dif_neg hlt

def byte : Codec UInt8 where
  encode b := [b]
  decode
    | [] => .error .deserializeUnexpectedEnd
    | b :: rest => .ok (b, rest)

/-- A stream that stops inside one byte has none. -/
theorem eq_nil_of_prefix_singleton {first : UInt8} {b : Bytes} (hpre : b <+: [first]) (hne : b ≠ [first]) : b = [] := by
  cases b with
  | nil => rfl
  | cons second b =>
    obtain ⟨rfl, hrest⟩ := List.cons_prefix_cons.1 hpre
    rw [List.prefix_nil.1 hrest] at hne
    exact absurd rfl hne

theorem byte_lawful : byte.Lawful where
  decode_encode _ _ := rfl
  unexpectedEnd b stream hpre hne := by
    rw [eq_nil_of_prefix_singleton hpre hne]
    rfl

def bool : Codec Bool where
  encode b := [if b then 1 else 0]
  decode
    | [] => .error .deserializeUnexpectedEnd
    | b :: rest =>
      if b = 0 then .ok (false, rest) else if b = 1 then .ok (true, rest) else .error (.other "DeserializeBadBool")

theorem bool_lawful : bool.Lawful where
  decode_encode b rest := by cases b <;> rfl
  unexpectedEnd b stream hpre hne := by
    rw [eq_nil_of_prefix_singleton hpre hne]
    rfl

def option (c : Codec α) : Codec (Option α) where
  encode
    | none => [0]
    | some a => 1 :: c.encode a
  decode
    | [] => .error .deserializeUnexpectedEnd
    | b :: rest =>
      if b = 0 then .ok (none, rest)
      else if b = 1 then (c.decode rest).map fun p => (some p.1, p.2)
      else .error (.other "DeserializeBadOption")

theorem option_lawful {c : Codec α} (hc : c.Lawful) : (option c).Lawful where
  decode_encode a rest := by
    cases a with
    | none => rfl
    | some a =>
      show (c.decode (c.encode a ++ rest)).map _ = _
      rw [hc.decode_encode]
      rfl
  unexpectedEnd a stream hpre hne := by
    cases a with
    | none =>
      rw [eq_nil_of_prefix_singleton hpre hne]
      rfl
    | some a =>
      cases stream with
      | nil => rfl
      | cons first stream =>
        obtain ⟨rfl, hrest⟩ := List.cons_prefix_cons.1 hpre
        have hrestNe : stream ≠ c.encode a := by
          rintro rfl
          exact hne rfl
        show (c.decode stream).map _ = _
        rw [hc.unexpectedEnd a stream hrest hrestNe]
        rfl

/-- So many values. -/
def decodeMany (c : Codec α) : Nat → Bytes → Except PostcardError (List α × Bytes)
  | 0, b => .ok ([], b)
  | n + 1, b => (c.decode b).bind fun p => (decodeMany c n p.2).map fun q => (p.1 :: q.1, q.2)

def seq (c : Codec α) : Codec (List α) where
  encode as := varint.encode as.length ++ as.flatMap c.encode
  decode b := (varint.decode b).bind fun p => decodeMany c p.1 p.2

theorem seq_encode_ne_nil (c : Codec α) (as : List α) : (seq c).encode as ≠ [] := by
  intro h
  exact encodeVarint_ne_nil as.length (List.append_eq_nil_iff.1 h).1

theorem decodeMany_flatMap {c : Codec α} (hc : c.Lawful) (rest : Bytes) : ∀ as : List α,
    decodeMany c as.length (as.flatMap c.encode ++ rest) = .ok (as, rest)
  | [] => rfl
  | a :: as => by
    rw [List.flatMap_cons, List.append_assoc]
    show (c.decode (c.encode a ++ _)).bind _ = _
    rw [hc.decode_encode]
    show (decodeMany c as.length (as.flatMap c.encode ++ rest)).map _ = _
    rw [decodeMany_flatMap hc rest as]
    rfl

theorem decodeMany_of_short {c : Codec α} (hc : c.Lawful) : ∀ {as : List α} {b : Bytes},
    b <+: as.flatMap c.encode → b ≠ as.flatMap c.encode →
      decodeMany c as.length b = .error .deserializeUnexpectedEnd
  | [], b, hpre, hne => absurd (List.prefix_nil.1 hpre) hne
  | a :: as, b, hpre, hne => by
    rw [List.flatMap_cons] at hpre hne
    show (c.decode b).bind _ = _
    rcases proper_prefix_append hpre hne with ⟨hpre, hne⟩ | ⟨b', rfl, hpre, hne⟩
    · rw [hc.unexpectedEnd a b hpre hne]
      rfl
    · rw [hc.decode_encode]
      show (decodeMany c as.length b').map _ = _
      rw [decodeMany_of_short hc hpre hne]
      rfl

theorem seq_lawful {c : Codec α} (hc : c.Lawful) : (seq c).Lawful where
  decode_encode as rest := by
    show (varint.decode (varint.encode as.length ++ as.flatMap c.encode ++ rest)).bind _ = _
    rw [List.append_assoc, varint_lawful.decode_encode]
    exact decodeMany_flatMap hc rest as
  unexpectedEnd as b hpre hne := by
    show (varint.decode b).bind _ = _
    rcases proper_prefix_append hpre hne with ⟨hpre, hne⟩ | ⟨b', rfl, hpre, hne⟩
    · rw [varint_lawful.unexpectedEnd as.length b hpre hne]
      rfl
    · rw [varint_lawful.decode_encode]
      exact decodeMany_of_short hc hpre hne

/-- A string is the sequence of its UTF-8 bytes. -/
def string : Codec String where
  encode s := (seq byte).encode (utf8 s)
  decode b := ((seq byte).decode b).bind fun p =>
    match p.1.toByteArray.utf8Decode? with
    | none => .error (.other "DeserializeBadUtf8")
    | some cs => .ok (.ofList cs.toList, p.2)

theorem string_lawful : string.Lawful where
  decode_encode s rest := by
    show ((seq byte).decode ((seq byte).encode (utf8 s) ++ rest)).bind _ = _
    rw [(seq_lawful byte_lawful).decode_encode]
    have hdecode : (utf8 s).toByteArray.utf8Decode? = some s.toList.toArray := by
      show (s.toList.utf8Encode).utf8Decode? = _
      exact List.utf8Decode?_utf8Encode
    show (match (utf8 s).toByteArray.utf8Decode? with
      | none => Except.error (PostcardError.other "DeserializeBadUtf8")
      | some cs => .ok (String.ofList cs.toList, rest)) = _
    rw [hdecode]
    simp
  unexpectedEnd s b hpre hne := by
    show ((seq byte).decode b).bind _ = _
    rw [(seq_lawful byte_lawful).unexpectedEnd (utf8 s) b hpre hne]
    rfl

end Postcard

end TuiChat.Lib
