import TuiChat.Crypto.Blob
import TuiChat.Verify.Vault

/-!
# Reading a blob back

A blob is stored in its binary form, as a JSON object, or as a JSON array that holds the bytes of either.
`decode_encrypted_blob` tries one decoder after the other, and each encoding fails at those before its own: a JSON
text does not start with the marker, and an array of bytes is no blob.
-/

namespace TuiChat

open Lib (Bytes)
open Lib.Json (Value)
open Lib.Wire (utf8)

/-- The values of the two types. -/
def IsWritten (v : Value) : Prop :=
  (∃ blob : EncryptedBlob, v = EncryptedBlob.serialize blob) ∨ ∃ bytes : Bytes, v = .ofBytes bytes

/-- The blanks of a JSON text. -/
def isJsonBlank (b : UInt8) : Bool := b = 32 || b = 9 || b = 10 || b = 13

/-- `serde_json::from_slice` reads what `to_vec` wrote by the `Deserialize` of its type, and bytes only from an
array. -/
structure VaultCrypto.ReadsJson (C : VaultCrypto) : Prop where
  blob : ∀ v, IsWritten v → (C.blobFromSlice v.write).toOption = EncryptedBlob.deserialize v
  bytes : ∀ v, IsWritten v → (C.bytesFromSlice v.write).toOption = v.toBytes
  array : ∀ text bytes, C.bytesFromSlice text = .ok bytes → (text.dropWhile isJsonBlank).head? = some 91

/-- The forms that `from_bytes` is for. -/
inductive EncryptedBlob.Encodes (blob : EncryptedBlob) : Bytes → Prop
  | binary : Encodes blob blob.toBytes
  | object : Encodes blob (EncryptedBlob.serialize blob).write

/-- The forms that a column has. -/
inductive EncryptedBlob.StoredAs (blob : EncryptedBlob) : Bytes → Prop
  | plain {encoded : Bytes} (encodes : Encodes blob encoded) : StoredAs blob encoded
  | nested {inner : Bytes} (encodes : Encodes blob inner) : StoredAs blob (Value.ofBytes inner).write

theorem eq_ok_of_toOption {α : Type} {e : Except Error α} {a : α} (h : e.toOption = some a) : e = .ok a := by
  cases e with
  | error e => cases h
  | ok b =>
    cases h
    rfl

theorem eq_error_of_toOption {α : Type} {e : Except Error α} (h : e.toOption = none) : ∃ error, e = .error error := by
  cases e with
  | error e => exact ⟨e, rfl⟩
  | ok b => cases h

namespace EncryptedBlob

variable {C : VaultCrypto}

/-- A JSON text goes to `serde_json`. -/
theorem fromBytes_of_json {b : UInt8} {rest : Bytes} (h : b ≠ 84) :
    fromBytes C (b :: rest) = C.blobFromSlice (b :: rest) := by
  refine Sealed.decode_of_other fun hmarked => ?_
  have hmarker : utf8 "TCB" = [84, 67, 66] := by decide
  rw [hmarker, List.cons_prefix_cons] at hmarked
  exact h hmarked.1.symm

theorem Encodes.fromBytes (hC : C.ReadsJson) {blob : EncryptedBlob} {encoded : Bytes} (h : blob.Encodes encoded) :
    EncryptedBlob.fromBytes C encoded = .ok blob := by
  cases h with
  | binary => exact fromBytes_toBytes C blob
  | object =>
    have hread := hC.blob _ (.inl ⟨blob, rfl⟩)
    rw [deserialize_serialize] at hread
    obtain ⟨rest, hwrite⟩ := Value.write_object
      [("version", .ofByte blob.version), ("salt", .ofBytes blob.salt.1), ("nonce", .ofBytes blob.nonce.1),
        ("ciphertext", .ofBytes blob.ciphertext)]
    have hobject : blob.serialize.write = 123 :: rest := hwrite
    rw [hobject] at hread ⊢
    rw [fromBytes_of_json (by decide)]
    exact eq_ok_of_toOption hread

/-- The bytes of an array are not taken for a blob. -/
theorem fromBytes_nested (hC : C.ReadsJson) (inner : Bytes) :
    ∃ e, EncryptedBlob.fromBytes C (Value.ofBytes inner).write = .error e := by
  have hread := hC.blob _ (.inr ⟨inner, rfl⟩)
  rw [deserialize_ofBytes] at hread
  obtain ⟨rest, hwrite⟩ := Value.write_array (inner.map Value.ofByte)
  have harray : (Value.ofBytes inner).write = 91 :: rest := hwrite
  rw [harray] at hread ⊢
  rw [fromBytes_of_json (by decide)]
  exact eq_error_of_toOption hread

theorem StoredAs.decode (hC : C.ReadsJson) {blob : EncryptedBlob} {stored : Bytes} (h : blob.StoredAs stored) :
    decodeEncryptedBlob C stored = .ok blob := by
  unfold decodeEncryptedBlob
  cases h with
  | plain hencodes => rw [hencodes.fromBytes hC]
  | @nested inner hencodes =>
    obtain ⟨e, herror⟩ := fromBytes_nested hC inner
    have hbytes : C.bytesFromSlice (Value.ofBytes inner).write = .ok inner := by
      have hread := hC.bytes _ (.inr ⟨inner, rfl⟩)
      rw [Value.toBytes_ofBytes] at hread
      exact eq_ok_of_toOption hread
    rw [herror, hbytes]
    exact hencodes.fromBytes hC

/-- A text under the marker is no JSON array. -/
theorem bytesFromSlice_marked (hC : C.ReadsJson) {encoded : Bytes} (h : utf8 "TCB" <+: encoded) :
    ∃ e, C.bytesFromSlice encoded = .error e := by
  cases hread : C.bytesFromSlice encoded with
  | error e => exact ⟨e, rfl⟩
  | ok bytes =>
    obtain ⟨rest, rfl⟩ := h
    have hmarker : utf8 "TCB" = [84, 67, 66] := by decide
    have hfirst := hC.array _ _ hread
    rw [hmarker] at hfirst
    have hblank : isJsonBlank 84 = false := by decide
    rw [List.cons_append, List.dropWhile_cons_of_neg (by rw [hblank]; exact Bool.false_ne_true)] at hfirst
    exact absurd (Option.some.inj hfirst) (by decide)

end EncryptedBlob

open EncryptedBlob in
/-- Every blob is read back from its binary form and from everything that a column may have for it. Under the
marker, 44 bytes or more are decoded, to what encodes to them, and fewer are refused; nothing panics. -/
theorem blob_encodings {C : VaultCrypto} (hC : C.ReadsJson) :
    (∀ blob : EncryptedBlob, fromBytesChecked C blob.toBytes = some (.ok blob) ∧
      ∀ stored, blob.StoredAs stored → decodeEncryptedBlobChecked C stored = some (.ok blob)) ∧
    (∀ encoded, utf8 "TCB" <+: encoded → 44 ≤ encoded.length →
      ∃ blob : EncryptedBlob, fromBytesChecked C encoded = some (.ok blob) ∧
        decodeEncryptedBlobChecked C encoded = some (.ok blob) ∧ blob.toBytes = encoded) ∧
    ∀ encoded, utf8 "TCB" <+: encoded → encoded.length < 44 →
      (∃ e, fromBytesChecked C encoded = some (.error e)) ∧
        ∃ e, decodeEncryptedBlobChecked C encoded = some (.error e) := by
  simp only [fromBytesChecked_eq, decodeEncryptedBlobChecked_eq, Option.some.injEq]
  refine ⟨fun blob => ⟨fromBytes_toBytes C blob, fun stored h => h.decode hC⟩, fun encoded hmarked hlength => ?_,
    fun encoded hmarked hlength => ?_⟩
  · obtain ⟨blob, hdecode, hencode⟩ := Sealed.encode_decode rfl hmarked hlength
    have hfrom : fromBytes C encoded = .ok blob := hdecode
    refine ⟨blob, hfrom, ?_, hencode⟩
    unfold decodeEncryptedBlob
    rw [hfrom]
  · have hfrom : fromBytes C encoded = .error "truncated encrypted blob" := Sealed.decode_truncated hmarked hlength
    refine ⟨⟨_, hfrom⟩, ?_⟩
    obtain ⟨e, hbytes⟩ := bytesFromSlice_marked hC hmarked
    unfold decodeEncryptedBlob
    rw [hfrom, hbytes]
    exact ⟨e, rfl⟩

namespace Scenario.Blobs

open Lib.Json (Value int string commas)

/-! ## A decoder of these texts -/

def isDigit (b : UInt8) : Bool := 48 ≤ b.toNat && b.toNat ≤ 57

/-- The number of a run of digits that goes on. -/
def digit (n : Nat) (b : UInt8) : Nat := 10 * n + (b.toNat - 48)

/-- The runs of digits of a text, after the run at its start. -/
def numbersFrom (run : Option Nat) : Bytes → List Nat
  | [] => run.toList
  | b :: bs => if isDigit b then numbersFrom (some (digit (run.getD 0) b)) bs else run.toList ++ numbersFrom none bs

theorem numbersFrom_run {ds : Bytes} (hds : ∀ d ∈ ds, isDigit d = true) {c : UInt8} (hc : isDigit c = false)
    (rest : Bytes) (n : Nat) : numbersFrom (some n) (ds ++ c :: rest) = ds.foldl digit n :: numbersFrom none rest := by
  induction ds generalizing n with
  | nil => simp [numbersFrom, hc]
  | cons d ds ih =>
    have hd : isDigit d = true := hds d List.mem_cons_self
    have hrest := ih fun d' hd' => hds d' (List.mem_cons_of_mem d hd')
    rw [List.cons_append, numbersFrom, if_pos hd, Option.getD_some, hrest]
    rfl

theorem numbersFrom_of_other {text : Bytes} (htext : text.any isDigit = false) (rest : Bytes) :
    numbersFrom none (text ++ rest) = numbersFrom none rest := by
  induction text with
  | nil => rfl
  | cons b bs ih =>
    obtain ⟨hb, hbs⟩ := Bool.or_eq_false_iff.1 htext
    rw [List.cons_append, numbersFrom, hb]
    exact ih hbs

/-- The text of a byte is a run of digits. -/
theorem byte_digits (b : UInt8) : ∃ d ds, int b.toNat = d :: ds ∧ (∀ d' ∈ d :: ds, isDigit d' = true) ∧
    ds.foldl digit (digit 0 d) = b.toNat := by
  have hall : ∀ n : Fin 256, (int (n.1 : Int)).all isDigit = true ∧ (int (n.1 : Int)).foldl digit 0 = n.1 ∧
      int (n.1 : Int) ≠ [] := by decide +kernel
  obtain ⟨hdigits, hvalue, hne⟩ := hall ⟨b.toNat, b.toNat_lt⟩
  obtain ⟨d, ds, hint⟩ := List.exists_cons_of_ne_nil hne
  rw [hint] at hdigits hvalue
  exact ⟨d, ds, hint, List.all_eq_true.1 hdigits, hvalue⟩

theorem numbersFrom_byte (b : UInt8) {c : UInt8} (hc : isDigit c = false) (rest : Bytes) :
    numbersFrom none ((Value.ofByte b).write ++ c :: rest) = b.toNat :: numbersFrom none rest := by
  obtain ⟨d, ds, hint, hdigits, hvalue⟩ := byte_digits b
  have hwrite : (Value.ofByte b).write = d :: ds := hint
  have hd : isDigit d = true := hdigits d List.mem_cons_self
  rw [hwrite, List.cons_append, numbersFrom, if_pos hd, Option.getD_none,
    numbersFrom_run (fun d' hd' => hdigits d' (List.mem_cons_of_mem d hd')) hc, hvalue]

theorem numbersFrom_bytes (bytes : Bytes) {c : UInt8} (hc : isDigit c = false) (rest : Bytes) :
    numbersFrom none (commas (Value.writeAll (bytes.map Value.ofByte)) ++ c :: rest) =
      bytes.map UInt8.toNat ++ numbersFrom none rest := by
  induction bytes with
  | nil => simp [Value.writeAll, commas, numbersFrom, hc]
  | cons b bs ih =>
    cases bs with
    | nil => exact numbersFrom_byte b hc rest
    | cons b' bs =>
      have hcomma : isDigit 44 = false := by decide
      have htext : commas (Value.writeAll ((b :: b' :: bs).map Value.ofByte)) ++ c :: rest =
          (Value.ofByte b).write ++ 44 :: (commas (Value.writeAll ((b' :: bs).map Value.ofByte)) ++ c :: rest) := by
        simp [Value.writeAll, commas]
      rw [htext, numbersFrom_byte b hcomma, ih]
      rfl

theorem numbersFrom_array (bytes rest : Bytes) :
    numbersFrom none ((Value.ofBytes bytes).write ++ rest) = bytes.map UInt8.toNat ++ numbersFrom none rest := by
  have htext : (Value.ofBytes bytes).write ++ rest =
      [91] ++ (commas (Value.writeAll (bytes.map Value.ofByte)) ++ 93 :: rest) := by
    simp [Value.ofBytes, Value.write, Lib.Json.array]
  rw [htext, numbersFrom_of_other (by decide), numbersFrom_bytes bytes (by decide)]

/-- The object holds the numbers of its fields in their order. -/
theorem numbersFrom_blob (blob : EncryptedBlob) : numbersFrom none (EncryptedBlob.serialize blob).write =
    blob.version.toNat :: (blob.salt.1 ++ (blob.nonce.1 ++ blob.ciphertext)).map UInt8.toNat := by
  have htext : (EncryptedBlob.serialize blob).write =
      (123 :: string "version" ++ [58]) ++ ((Value.ofByte blob.version).write ++ 44 ::
        ((string "salt" ++ [58]) ++ ((Value.ofBytes blob.salt.1).write ++
          ((44 :: string "nonce" ++ [58]) ++ ((Value.ofBytes blob.nonce.1).write ++
            ((44 :: string "ciphertext" ++ [58]) ++ ((Value.ofBytes blob.ciphertext).write ++ [125]))))))) := by
    simp [EncryptedBlob.serialize, Value.write, Value.writeFields, Lib.Json.object, Lib.Json.field, commas]
  have hend : numbersFrom none [125] = [] := by decide
  rw [htext, numbersFrom_of_other (by decide), numbersFrom_byte _ (by decide), numbersFrom_of_other (by decide),
    numbersFrom_array, numbersFrom_of_other (by decide), numbersFrom_array, numbersFrom_of_other (by decide),
    numbersFrom_array, hend, List.append_nil, List.map_append, List.map_append]

def bytesOf (numbers : List Nat) : Bytes := numbers.map UInt8.ofNat

theorem bytesOf_toNat (bytes : Bytes) : bytesOf (bytes.map UInt8.toNat) = bytes := by
  simp [bytesOf, Function.comp_def]

/-- A blob from the numbers of an object, and bytes from those of an array. -/
def crypto : VaultCrypto :=
  { Vault.crypto with
    blobFromSlice := fun text =>
      match text.head?, numbersFrom none text with
      | some 123, version :: numbers =>
        match tryInto 16 ((bytesOf numbers).take 16), tryInto 24 (((bytesOf numbers).drop 16).take 24) with
        | some salt, some nonce =>
          .ok { version := UInt8.ofNat version, salt, nonce, ciphertext := (bytesOf numbers).drop 40 }
        | _, _ => .error "invalid length"
      | _, _ => .error "expected struct EncryptedBlob"
    bytesFromSlice := fun text =>
      if text.head? = some 91 then .ok (bytesOf (numbersFrom none text)) else .error "expected a sequence" }

theorem blobFromSlice_serialize (blob : EncryptedBlob) :
    crypto.blobFromSlice (EncryptedBlob.serialize blob).write = .ok blob := by
  obtain ⟨rest, hwrite⟩ : ∃ rest, (EncryptedBlob.serialize blob).write = 123 :: rest := Value.write_object _
  have hhead : (EncryptedBlob.serialize blob).write.head? = some 123 := by rw [hwrite]; rfl
  obtain ⟨version, ⟨salt, hsalt⟩, ⟨nonce, hnonce⟩, ciphertext⟩ := blob
  have hnumbers := numbersFrom_blob ⟨version, ⟨salt, hsalt⟩, ⟨nonce, hnonce⟩, ciphertext⟩
  have hsaltIs : (salt ++ (nonce ++ ciphertext)).take 16 = salt := by
    rw [← hsalt, List.take_left]
  have hnonceAt : (salt ++ (nonce ++ ciphertext)).drop 16 = nonce ++ ciphertext := by
    rw [← hsalt, List.drop_left]
  have hnonceIs : (nonce ++ ciphertext).take 24 = nonce := by
    rw [← hnonce, List.take_left]
  have hrest : (salt ++ (nonce ++ ciphertext)).drop 40 = ciphertext := by
    have hforty : (40 : Nat) = 16 + 24 := rfl
    rw [hforty, ← List.drop_drop, hnonceAt, ← hnonce, List.drop_left]
  simp only [crypto, hhead, hnumbers, bytesOf_toNat, hsaltIs, hnonceAt, hnonceIs, hrest, tryInto, hsalt, hnonce]
  simp

theorem reads_json : crypto.ReadsJson where
  blob v hv := by
    rcases hv with ⟨blob, rfl⟩ | ⟨bytes, rfl⟩
    · rw [blobFromSlice_serialize, EncryptedBlob.deserialize_serialize]
      rfl
    · obtain ⟨rest, hwrite⟩ : ∃ rest, (Value.ofBytes bytes).write = 91 :: rest := Value.write_array _
      rw [EncryptedBlob.deserialize_ofBytes, hwrite]
      rfl
  bytes v hv := by
    rcases hv with ⟨blob, rfl⟩ | ⟨bytes, rfl⟩
    · obtain ⟨rest, hwrite⟩ : ∃ rest, (EncryptedBlob.serialize blob).write = 123 :: rest := Value.write_object _
      rw [hwrite]
      rfl
    · obtain ⟨rest, hwrite⟩ : ∃ rest, (Value.ofBytes bytes).write = 91 :: rest := Value.write_array _
      have hnumbers := numbersFrom_array bytes []
      rw [List.append_nil] at hnumbers
      have hhead : (Value.ofBytes bytes).write.head? = some 91 := by rw [hwrite]; rfl
      simp [crypto, hhead, hnumbers, numbersFrom, bytesOf_toNat, Except.toOption]
  array text bytes h := by
    simp only [crypto] at h
    split at h
    · next hhead =>
      cases text with
      | nil => cases hhead
      | cons b rest =>
        obtain rfl : b = 91 := Option.some.inj hhead
        rfl
    · cases h

/-- A blob whose binary form, and then the array that holds it, is stored. -/
theorem blob_encodings_nested :
    decodeEncryptedBlobChecked crypto (Value.ofBytes (Vault.legacyBlob profileAad [123, 125]).toBytes).write =
      some (.ok (Vault.legacyBlob profileAad [123, 125])) :=
  ((blob_encodings reads_json).1 _).2 _ (.nested .binary)

end Scenario.Blobs

end TuiChat
