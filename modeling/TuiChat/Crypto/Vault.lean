import TuiChat.Crypto.Identity
import Mathlib.Data.List.Basic

/-!
# Encryption at rest

`crates/crypto/src/vault.rs`: blobs encrypted under a key derived from the passphrase (version 1) or under
the data key of the vault (version 2), and the data key wrapped under the passphrase. `argon2`,
`chacha20poly1305` and `serde_json` are parameters.
-/

namespace TuiChat

open Lib (Bytes)
open Lib.Wire (utf8)

/-- `[u8; n]`. -/
abbrev FixedBytes (n : Nat) := { b : Bytes // b.length = n }

/-- The fields that `EncryptedBlob` and `WrappedVaultKey` both have. -/
structure Sealed where
  version : UInt8
  salt : FixedBytes 16
  nonce : FixedBytes 24
  ciphertext : Bytes
deriving DecidableEq

abbrev EncryptedBlob := Sealed

abbrev WrappedVaultKey := Sealed

/-- What the vault is built on. -/
structure VaultCrypto where
  /-- `Argon2id` over 64 MiB with three passes and one lane. -/
  hashPasswordInto : (passphrase : Bytes) → (salt : FixedBytes 16) → Except Error (FixedBytes 32)
  aeadEncrypt : FixedBytes 32 → (nonce : FixedBytes 24) → (aad plaintext : Bytes) → Option Bytes
  aeadDecrypt : FixedBytes 32 → (nonce : FixedBytes 24) → (aad ciphertext : Bytes) → Option Bytes
  /-- `serde_json::from_slice` at the two structures and at `Vec<u8>`. -/
  blobFromSlice : Bytes → Except Error EncryptedBlob
  wrappedFromSlice : Bytes → Except Error WrappedVaultKey
  bytesFromSlice : Bytes → Except Error Bytes

/-- Authenticated decryption inverts encryption for the same key, nonce and associated data. -/
def VaultCrypto.Inverts (C : VaultCrypto) : Prop := ∀ {key nonce aad plaintext ciphertext},
  C.aeadEncrypt key nonce aad plaintext = some ciphertext → C.aeadDecrypt key nonce aad ciphertext = some plaintext

/-! ## Encodings -/

namespace Sealed

def encode (marker : Bytes) (s : Sealed) : Bytes :=
  marker ++ s.version :: (s.salt.1 ++ (s.nonce.1 ++ s.ciphertext))

def decode (marker : Bytes) (fromSlice : Bytes → Except Error Sealed) (truncated : Error) (encoded : Bytes) :
    Except Error Sealed :=
  if marker.isPrefixOf encoded then
    if h : encoded.length < 44 then .error truncated
    else
      .ok
        { version := encoded.getD 3 0
          salt := ⟨(encoded.drop 4).take 16, by rw [List.length_take, List.length_drop]; omega⟩
          nonce := ⟨(encoded.drop 20).take 24, by rw [List.length_take, List.length_drop]; omega⟩
          ciphertext := encoded.drop 44 }
  else fromSlice encoded

/-- Under a marker of three bytes the encoding is read back, whatever `serde_json` does. -/
theorem decode_encode {marker : Bytes} (hmarker : marker.length = 3) (fromSlice : Bytes → Except Error Sealed)
    (truncated : Error) (s : Sealed) : decode marker fromSlice truncated (s.encode marker) = .ok s := by
  obtain ⟨version, ⟨salt, hsalt⟩, ⟨nonce, hnonce⟩, ciphertext⟩ := s
  obtain ⟨a, b, c, rfl⟩ := List.length_eq_three.1 hmarker
  have hprefix : List.isPrefixOf [a, b, c] (encode [a, b, c] ⟨version, ⟨salt, hsalt⟩, ⟨nonce, hnonce⟩, ciphertext⟩) :=
    List.isPrefixOf_iff_prefix.2 (List.prefix_append _ _)
  have hlength : ¬ (encode [a, b, c] ⟨version, ⟨salt, hsalt⟩, ⟨nonce, hnonce⟩, ciphertext⟩).length < 44 := by
    simp only [encode, List.length_append, List.length_cons, List.length_nil, hsalt, hnonce]
    omega
  have hnonceAt : (salt ++ (nonce ++ ciphertext)).drop 16 = nonce ++ ciphertext := by
    rw [← hsalt, List.drop_left]
  have hrest : (salt ++ (nonce ++ ciphertext)).drop 40 = ciphertext := by
    rw [show (40 : Nat) = 16 + 24 from rfl, ← List.drop_drop, hnonceAt, ← hnonce, List.drop_left]
  unfold decode
  rw [if_pos hprefix, dif_neg hlength]
  have hsaltIs : (salt ++ (nonce ++ ciphertext)).take 16 = salt := by
    rw [← hsalt, List.take_left]
  have hnonceIs : (nonce ++ ciphertext).take 24 = nonce := by
    rw [← hnonce, List.take_left]
  simp [encode, hsaltIs, hnonceIs, hnonceAt, hrest]

end Sealed

namespace EncryptedBlob

def toBytes (blob : EncryptedBlob) : Bytes := Sealed.encode (utf8 "TCB") blob

def fromBytes (C : VaultCrypto) : Bytes → Except Error EncryptedBlob :=
  Sealed.decode (utf8 "TCB") C.blobFromSlice "truncated encrypted blob"

theorem fromBytes_toBytes (C : VaultCrypto) (blob : EncryptedBlob) : fromBytes C (toBytes blob) = .ok blob :=
  Sealed.decode_encode rfl _ _ blob

end EncryptedBlob

namespace WrappedVaultKey

def toBytes (wrapped : WrappedVaultKey) : Bytes := Sealed.encode (utf8 "TCW") wrapped

def fromBytes (C : VaultCrypto) : Bytes → Except Error WrappedVaultKey :=
  Sealed.decode (utf8 "TCW") C.wrappedFromSlice "truncated wrapped vault key"

theorem fromBytes_toBytes (C : VaultCrypto) (wrapped : WrappedVaultKey) :
    fromBytes C (toBytes wrapped) = .ok wrapped := Sealed.decode_encode rfl _ _ wrapped

end WrappedVaultKey

/-! ## Keys -/

abbrev VaultKey := FixedBytes 32

variable (C : VaultCrypto)

def deriveKey (passphrase : String) (salt : FixedBytes 16) : Except Error (FixedBytes 32) :=
  C.hashPasswordInto (utf8 passphrase) salt

/-- What `create` draws. -/
structure VaultDraw where
  dataKey : FixedBytes 32
  salt : FixedBytes 16
  nonce : FixedBytes 24

def zeroSalt : FixedBytes 16 := ⟨List.replicate 16 0, rfl⟩

namespace VaultKey

def aad : Bytes := utf8 "tui-chat-vault-key-v2"

def create (passphrase : String) (draw : VaultDraw) : Except Error (VaultKey × WrappedVaultKey) :=
  (deriveKey C passphrase draw.salt).bind fun wrappingKey =>
    match C.aeadEncrypt wrappingKey draw.nonce aad draw.dataKey.1 with
    | none => .error "failed to wrap local vault key"
    | some ciphertext => .ok (draw.dataKey, { version := 2, salt := draw.salt, nonce := draw.nonce, ciphertext })

def unlock (passphrase : String) (wrapped : WrappedVaultKey) : Except Error VaultKey :=
  if wrapped.version ≠ 2 then .error "unsupported wrapped vault key version"
  else
    (deriveKey C passphrase wrapped.salt).bind fun wrappingKey =>
      match C.aeadDecrypt wrappingKey wrapped.nonce aad wrapped.ciphertext with
      | none => .error "wrong local passphrase or corrupted vault key"
      | some plaintext =>
        if h : plaintext.length = 32 then .ok ⟨plaintext, h⟩ else .error "invalid local vault key length"

def encrypt (key : VaultKey) (nonce : FixedBytes 24) (aad plaintext : Bytes) : Except Error EncryptedBlob :=
  match C.aeadEncrypt key nonce aad plaintext with
  | none => .error "local encryption failed"
  | some ciphertext => .ok { version := 2, salt := zeroSalt, nonce, ciphertext }

def decrypt (key : VaultKey) (aad : Bytes) (blob : EncryptedBlob) : Except Error Bytes :=
  if blob.version ≠ 2 then .error "encrypted blob does not use the unlocked vault key"
  else
    match C.aeadDecrypt key blob.nonce aad blob.ciphertext with
    | none => .error "wrong local vault key or corrupted data"
    | some plaintext => .ok plaintext

variable {C}

/-- The passphrase unlocks the key that was created under it. -/
theorem unlock_create (hC : C.Inverts) {passphrase : String} {draw : VaultDraw} {key : VaultKey}
    {wrapped : WrappedVaultKey} (h : create C passphrase draw = .ok (key, wrapped)) :
    unlock C passphrase wrapped = .ok key := by
  unfold create at h
  cases hderive : deriveKey C passphrase draw.salt with
  | error e =>
    rw [hderive] at h
    cases h
  | ok wrappingKey =>
    rw [hderive] at h
    simp only [Except.bind] at h
    split at h
    · cases h
    · next ciphertext hencrypt =>
      cases h
      unfold unlock
      rw [if_neg fun hversion => hversion rfl]
      simp only [hderive, Except.bind, hC hencrypt]
      exact dif_pos draw.dataKey.2

theorem decrypt_encrypt (hC : C.Inverts) {key : VaultKey} {nonce : FixedBytes 24} {aad plaintext : Bytes}
    {blob : EncryptedBlob} (h : encrypt C key nonce aad plaintext = .ok blob) :
    blob.version = 2 ∧ decrypt C key aad blob = .ok plaintext := by
  unfold encrypt at h
  split at h
  · cases h
  · next ciphertext hencrypt =>
    cases h
    refine ⟨rfl, ?_⟩
    unfold decrypt
    rw [if_neg fun hversion => hversion rfl]
    simp only [hC hencrypt]

end VaultKey

/-! ## The passphrase as the key -/

def encryptBlob (passphrase : String) (salt : FixedBytes 16) (nonce : FixedBytes 24) (aad plaintext : Bytes) :
    Except Error EncryptedBlob :=
  (deriveKey C passphrase salt).bind fun key =>
    match C.aeadEncrypt key nonce aad plaintext with
    | none => .error "local encryption failed"
    | some ciphertext => .ok { version := 1, salt, nonce, ciphertext }

def decryptBlob (passphrase : String) (aad : Bytes) (blob : EncryptedBlob) : Except Error Bytes :=
  if blob.version ≠ 1 then .error "unsupported encrypted storage version"
  else
    (deriveKey C passphrase blob.salt).bind fun key =>
      match C.aeadDecrypt key blob.nonce aad blob.ciphertext with
      | none => .error "wrong local passphrase or corrupted data"
      | some plaintext => .ok plaintext

variable {C}

theorem decryptBlob_encryptBlob (hC : C.Inverts) {passphrase : String} {salt : FixedBytes 16}
    {nonce : FixedBytes 24} {aad plaintext : Bytes} {blob : EncryptedBlob}
    (h : encryptBlob C passphrase salt nonce aad plaintext = .ok blob) :
    blob.version = 1 ∧ decryptBlob C passphrase aad blob = .ok plaintext := by
  unfold encryptBlob at h
  cases hderive : deriveKey C passphrase salt with
  | error e =>
    rw [hderive] at h
    cases h
  | ok key =>
    rw [hderive] at h
    simp only [Except.bind] at h
    split at h
    · cases h
    · next ciphertext hencrypt =>
      cases h
      refine ⟨rfl, ?_⟩
      unfold decryptBlob
      rw [if_neg fun hversion => hversion rfl]
      simp only [hderive, Except.bind, hC hencrypt]

theorem version_of_decryptBlob {passphrase : String} {aad plaintext : Bytes} {blob : EncryptedBlob}
    (h : decryptBlob C passphrase aad blob = .ok plaintext) : blob.version = 1 := by
  unfold decryptBlob at h
  split at h
  · cases h
  · next hversion => exact not_not.1 hversion

end TuiChat
