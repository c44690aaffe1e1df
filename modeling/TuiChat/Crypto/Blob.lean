import TuiChat.Client.Vault
import TuiChat.Lib.JsonValue

/-!
# The encodings of a blob

`from_bytes` and `decode_encrypted_blob` with the bounds checks of their indexing, where `none` is a panic
(`decodeEncryptedBlobChecked_eq`: there is none), and the JSON values of `EncryptedBlob` and `Vec<u8>` with the
`Deserialize` that is derived for them.
-/

namespace TuiChat

open Lib (Bytes)
open Lib.Json (Value)
open Lib.Wire (utf8)

/-! ## Indexing -/

/-- `&b[start..stop]`. -/
def slice (b : Bytes) (start stop : Nat) : Option Bytes :=
  if start ≤ stop ∧ stop ≤ b.length then some ((b.take stop).drop start) else none

/-- `<[u8; n]>::try_from`. -/
def tryInto (n : Nat) (b : Bytes) : Option (FixedBytes n) := if h : b.length = n then some ⟨b, h⟩ else none

namespace Sealed

def decodeChecked (marker : Bytes) (fromSlice : Bytes → Except Error Sealed)
    (truncated invalidSalt invalidNonce : Error) (encoded : Bytes) : Option (Except Error Sealed) :=
  if marker.isPrefixOf encoded then
    if encoded.length < 44 then some (.error truncated)
    else do
      let version ← encoded[3]?
      match tryInto 16 (← slice encoded 4 20) with
      | none => some (.error invalidSalt)
      | some salt =>
        match tryInto 24 (← slice encoded 20 44) with
        | none => some (.error invalidNonce)
        | some nonce =>
          let ciphertext ← slice encoded 44 encoded.length
          some (.ok { version, salt, nonce, ciphertext })
  else some (fromSlice encoded)

variable {marker encoded : Bytes} {fromSlice : Bytes → Except Error Sealed} {truncated : Error}

/-- No index is out of bounds, and no array has another length. -/
theorem decodeChecked_eq (invalidSalt invalidNonce : Error) :
    decodeChecked marker fromSlice truncated invalidSalt invalidNonce encoded =
      some (decode marker fromSlice truncated encoded) := by
  unfold decodeChecked decode
  by_cases hmarked : marker.isPrefixOf encoded = true
  · rw [if_pos hmarked, if_pos hmarked]
    by_cases hshort : encoded.length < 44
    · rw [if_pos hshort, dif_pos hshort]
    · have hversion : encoded[3]? = some (encoded.getD 3 0) := by
        have hlt : 3 < encoded.length := by omega
        rw [List.getD_eq_getElem?_getD, List.getElem?_eq_getElem hlt, Option.getD_some]
      have hsalt : slice encoded 4 20 = some ((encoded.drop 4).take 16) := by
        unfold slice
        rw [if_pos ⟨by omega, by omega⟩, List.drop_take]
      have hnonce : slice encoded 20 44 = some ((encoded.drop 20).take 24) := by
        unfold slice
        rw [if_pos ⟨by omega, by omega⟩, List.drop_take]
      have hrest : slice encoded 44 encoded.length = some (encoded.drop 44) := by
        unfold slice
        rw [if_pos ⟨by omega, le_rfl⟩, List.take_length]
      have hsaltLength : ((encoded.drop 4).take 16).length = 16 := by
        rw [List.length_take, List.length_drop]
        omega
      have hnonceLength : ((encoded.drop 20).take 24).length = 24 := by
        rw [List.length_take, List.length_drop]
        omega
      rw [if_neg hshort, dif_neg hshort, hversion, hsalt, hnonce, hrest]
      simp [tryInto, hsaltLength, hnonceLength]
  · rw [if_neg hmarked, if_neg hmarked]

/-- Under the marker, 44 bytes are enough, and encoding gives them back. -/
theorem encode_decode (hmarker : marker.length = 3) (hmarked : marker <+: encoded) (hlength : 44 ≤ encoded.length) :
    ∃ s, decode marker fromSlice truncated encoded = .ok s ∧ s.encode marker = encoded := by
  have hlong : ¬ encoded.length < 44 := by omega
  unfold decode
  rw [if_pos (List.isPrefixOf_iff_prefix.2 hmarked), dif_neg hlong]
  refine ⟨_, rfl, ?_⟩
  obtain ⟨tail, rfl⟩ := hmarked
  cases tail with
  | nil =>
    rw [List.append_nil] at hlength
    omega
  | cons version tail =>
    have hdrop : ∀ n, (marker ++ version :: tail).drop (n + 4) = tail.drop n := by
      intro n
      have hsplit : n + 4 = marker.length + (n + 1) := by omega
      rw [hsplit, ← List.drop_drop, List.drop_left, List.drop_succ_cons]
    have hversion : (marker ++ version :: tail).getD 3 0 = version := by
      rw [List.getD_eq_getElem?_getD, List.getElem?_append_right (by omega)]
      simp [hmarker]
    have hrest : (tail.take 16 ++ ((tail.drop 16).take 24 ++ tail.drop 40)) = tail := by
      have hinner : (tail.drop 16).take 24 ++ tail.drop 40 = tail.drop 16 := by
        have hforty : tail.drop 40 = (tail.drop 16).drop 24 := by rw [List.drop_drop]
        rw [hforty, List.take_append_drop]
      rw [hinner, List.take_append_drop]
    unfold encode
    have hsaltAt := hdrop 0
    have hnonceAt := hdrop 16
    have hciphertextAt := hdrop 40
    simp only [hversion, hsaltAt, hnonceAt, hciphertextAt, List.drop_zero]
    rw [hrest]

theorem decode_truncated (hmarked : marker <+: encoded) (hlength : encoded.length < 44) :
    decode marker fromSlice truncated encoded = .error truncated := by
  unfold decode
  rw [if_pos (List.isPrefixOf_iff_prefix.2 hmarked), dif_pos hlength]

/-- Another text goes to `serde_json`. -/
theorem decode_of_other (hother : ¬ marker <+: encoded) :
    decode marker fromSlice truncated encoded = fromSlice encoded := by
  unfold decode
  rw [if_neg fun hmarked => hother (List.isPrefixOf_iff_prefix.1 hmarked)]

end Sealed

variable (C : VaultCrypto)

def EncryptedBlob.fromBytesChecked : Bytes → Option (Except Error EncryptedBlob) :=
  Sealed.decodeChecked (utf8 "TCB") C.blobFromSlice "truncated encrypted blob" "invalid encrypted blob salt"
    "invalid encrypted blob nonce"

def decodeEncryptedBlobChecked (encoded : Bytes) : Option (Except Error EncryptedBlob) := do
  match ← EncryptedBlob.fromBytesChecked C encoded with
  | .ok blob => some (.ok blob)
  | .error _ =>
    match C.bytesFromSlice encoded with
    | .error e => some (.error e)
    | .ok nested => EncryptedBlob.fromBytesChecked C nested

theorem EncryptedBlob.fromBytesChecked_eq (encoded : Bytes) :
    fromBytesChecked C encoded = some (fromBytes C encoded) := Sealed.decodeChecked_eq _ _

theorem decodeEncryptedBlobChecked_eq (encoded : Bytes) :
    decodeEncryptedBlobChecked C encoded = some (decodeEncryptedBlob C encoded) := by
  unfold decodeEncryptedBlobChecked decodeEncryptedBlob
  rw [EncryptedBlob.fromBytesChecked_eq]
  cases EncryptedBlob.fromBytes C encoded with
  | ok blob => rfl
  | error e =>
    cases hnested : C.bytesFromSlice encoded with
    | error e => simp [Except.bind]
    | ok nested => simp [Except.bind, EncryptedBlob.fromBytesChecked_eq]

/-! ## JSON values -/

namespace EncryptedBlob

/-- The derived `Serialize`. -/
def serialize (blob : EncryptedBlob) : Value :=
  .object
    [ ("version", .ofByte blob.version)
    , ("salt", .ofBytes blob.salt.1)
    , ("nonce", .ofBytes blob.nonce.1)
    , ("ciphertext", .ofBytes blob.ciphertext) ]

def ofFields (version salt nonce ciphertext : Value) : Option EncryptedBlob := do
  let version ← version.toByte
  let salt ← tryInto 16 (← salt.toBytes)
  let nonce ← tryInto 24 (← nonce.toBytes)
  let ciphertext ← ciphertext.toBytes
  some { version, salt, nonce, ciphertext }

/-- The derived `Deserialize`: of an object by the names of the fields, of an array by their order. -/
def deserialize : Value → Option EncryptedBlob
  | .object fields => do
    ofFields (← Value.fieldOf "version" fields) (← Value.fieldOf "salt" fields) (← Value.fieldOf "nonce" fields)
      (← Value.fieldOf "ciphertext" fields)
  | .array [version, salt, nonce, ciphertext] => ofFields version salt nonce ciphertext
  | _ => none

theorem deserialize_serialize (blob : EncryptedBlob) : deserialize blob.serialize = some blob := by
  obtain ⟨version, ⟨salt, hsalt⟩, ⟨nonce, hnonce⟩, ciphertext⟩ := blob
  simp [serialize, deserialize, Value.fieldOf, ofFields, tryInto, hsalt, hnonce]

/-- An array of bytes is no blob: the salt is not a byte. -/
theorem deserialize_ofBytes (bytes : Bytes) : deserialize (.ofBytes bytes) = none := by
  unfold Value.ofBytes deserialize
  split
  · next h => cases h
  · next version salt nonce ciphertext h =>
    injection h with h
    have hsalt : ∃ b, salt = Value.ofByte b := by
      have hmem : salt ∈ bytes.map Value.ofByte := by
        rw [h]
        simp
      obtain ⟨b, -, hb⟩ := List.mem_map.1 hmem
      exact ⟨b, hb.symm⟩
    obtain ⟨b, rfl⟩ := hsalt
    simp [ofFields, Value.toBytes_ofByte]
  · rfl

end EncryptedBlob

end TuiChat
