import TuiChat.Lib.Wire

/-!
# JSON, as a compact encoder writes it

No blanks; a string is escaped byte by byte: quote, backslash and the control characters, the latter
by their two-byte names where they have one and as `\u00xx` elsewhere. `escapedLen` is the length of
what the escaping gives, at most six times the length of the text (`escapedLen_le`).
-/

namespace TuiChat.Lib

namespace Json

open Wire (utf8)

/-- The hexadecimal digit of a number below 16. -/
def hexByte (n : Nat) : UInt8 := UInt8.ofNat (if n < 10 then 48 + n else 87 + n)

/-- One character of a string. -/
def escapeChar (c : Char) : Bytes :=
  let n := c.toNat
  if n = 34 then [92, 34]
  else if n = 92 then [92, 92]
  else if n = 8 then [92, 98]
  else if n = 9 then [92, 116]
  else if n = 10 then [92, 110]
  else if n = 12 then [92, 102]
  else if n = 13 then [92, 114]
  else if n < 32 then [92, 117, 48, 48, hexByte (n / 16), hexByte (n % 16)]
  else String.utf8EncodeChar c

def escape (s : String) : Bytes := s.toList.flatMap escapeChar

def string (s : String) : Bytes := [34] ++ escape s ++ [34]

def int (n : Int) : Bytes := utf8 (toString n)

def bool (b : Bool) : Bytes := utf8 (if b then "true" else "false")

/-- `null` or the value. -/
def option {α : Type} (encode : α → Bytes) : Option α → Bytes
  | none => utf8 "null"
  | some a => encode a

/-- Elements with commas between them. -/
def commas : List Bytes → Bytes
  | [] => []
  | [b] => b
  | b :: bs => b ++ [44] ++ commas bs

def array (bs : List Bytes) : Bytes := [91] ++ commas bs ++ [93]

def field (name : String) (value : Bytes) : Bytes := string name ++ [58] ++ value

def object (fields : List Bytes) : Bytes := [123] ++ commas fields ++ [125]

/-! ## Lengths -/

/-- The number of bytes of a text, escaped. -/
def escapedLen (s : String) : Nat := (escape s).length

/-- Elements and the commas after all but the last. -/
theorem length_commas : ∀ bs : List Bytes,
    (commas bs).length = (bs.map List.length).sum + (bs.length - 1)
  | [] => rfl
  | [b] => by simp [commas]
  | b :: c :: bs => by
    have ih := length_commas (c :: bs)
    simp only [commas, List.length_append, List.length_cons, List.length_nil, ih, List.map_cons,
      List.sum_cons]
    omega

@[simp] theorem length_string (s : String) : (string s).length = escapedLen s + 2 := by
  simp [string, escapedLen]

theorem length_array (bs : List Bytes) :
    (array bs).length = (bs.map List.length).sum + (bs.length - 1) + 2 := by
  simp [array, length_commas]

theorem length_object (bs : List Bytes) :
    (object bs).length = (bs.map List.length).sum + (bs.length - 1) + 2 := by
  simp [object, length_commas]

@[simp] theorem length_field (name : String) (value : Bytes) :
    (field name value).length = escapedLen name + 3 + value.length := by
  simp [field]; omega

theorem utf8EncodeChar_length_pos (c : Char) : 1 ≤ (String.utf8EncodeChar c).length := by
  rw [String.length_utf8EncodeChar]
  exact c.utf8Size_pos

theorem escapeChar_length_le (c : Char) :
    (escapeChar c).length ≤ 6 * (String.utf8EncodeChar c).length := by
  have hpos := utf8EncodeChar_length_pos c
  unfold escapeChar
  dsimp only
  repeat' split
  all_goals first | (simp only [List.length_cons, List.length_nil]; omega) | omega

theorem escapedLen_le (s : String) : escapedLen s ≤ 6 * (utf8 s).length := by
  unfold escapedLen escape utf8
  rw [List.length_flatMap, List.length_flatMap]
  induction s.toList with
  | nil => simp
  | cons c cs ih =>
    have hc := escapeChar_length_le c
    simp only [List.map_cons, List.sum_cons] at ih ⊢
    omega

end Json

end TuiChat.Lib
