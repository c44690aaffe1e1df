import TuiChat.Lib.Json
import Mathlib.Data.List.Basic

/-!
# JSON values of numbers, arrays and objects

The tree that a JSON text is of, as a compact encoder writes it, and what a typed decoder makes of it: a byte from a
number, bytes from an array of them, a field from the one that has its name. A decoder answers `none` for a value of
another kind.
-/

namespace TuiChat.Lib

namespace Json

inductive Value
  | number (n : Nat)
  | array (elements : List Value)
  | object (fields : List (String × Value))

namespace Value

mutual

def write : Value → Bytes
  | number n => int n
  | array elements => Json.array (writeAll elements)
  | object fields => Json.object (writeFields fields)

def writeAll : List Value → List Bytes
  | [] => []
  | v :: vs => v.write :: writeAll vs

def writeFields : List (String × Value) → List Bytes
  | [] => []
  | (name, v) :: fields => field name v.write :: writeFields fields

end

/-! ## Typed decoders -/

def toByte : Value → Option UInt8
  | number n => if n < 256 then some (UInt8.ofNat n) else none
  | _ => none

def toBytes : Value → Option Bytes
  | array elements => elements.mapM toByte
  | _ => none

/-- The value of the field, which there has to be once. -/
def fieldOf (name : String) (fields : List (String × Value)) : Option Value :=
  match fields.filter fun f => f.1 = name with
  | [f] => some f.2
  | _ => none

def ofByte (b : UInt8) : Value := number b.toNat

def ofBytes (bytes : Bytes) : Value := array (bytes.map ofByte)

@[simp] theorem toByte_ofByte (b : UInt8) : (ofByte b).toByte = some b := by
  have hlt : b.toNat < 256 := b.toNat_lt
  simp [ofByte, toByte, hlt]

@[simp] theorem toBytes_ofBytes (bytes : Bytes) : (ofBytes bytes).toBytes = some bytes := by
  unfold ofBytes toBytes
  induction bytes with
  | nil => rfl
  | cons b bs ih => simp [List.mapM_cons, ih]

/-- A byte is not an array. -/
theorem toBytes_ofByte (b : UInt8) : (ofByte b).toBytes = none := rfl

theorem writeAll_eq (vs : List Value) : writeAll vs = vs.map write := by
  induction vs with
  | nil => rfl
  | cons v vs ih => rw [writeAll, ih, List.map_cons]

theorem write_array (elements : List Value) : ∃ rest, (array elements).write = 91 :: rest :=
  ⟨_, by rw [write]; rfl⟩

theorem write_object (fields : List (String × Value)) : ∃ rest, (object fields).write = 123 :: rest :=
  ⟨_, by rw [write]; rfl⟩

end Value

end Json

end TuiChat.Lib
