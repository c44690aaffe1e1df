import TuiChat.Server.AppState

/-!
# What is signed

The four payloads that a key of an account or of a device signs. Together they are one injective encoding
(`signed_payloads_agree`): from the bytes follow the kind of payload and all its fields, and the server
verifies the bytes that a client signs and that a client verifies.
-/

namespace TuiChat

open Lib (Bytes)
open Lib.Wire (utf8)

/-! ## Framing -/

theorem be32_injective {m n : Nat} (hm : m < 2 ^ 32) (hn : n < 2 ^ 32) (h : be32 m = be32 n) : m = n := by
  simp only [be32, List.cons.injEq, and_true, ← UInt8.toNat_inj, UInt8.toNat_ofNat'] at h
  omega

theorem be64_injective {m n : Nat} (hm : m < 2 ^ 64) (hn : n < 2 ^ 64)
    (h : DeviceIdentity.be64 m = DeviceIdentity.be64 n) : m = n := by
  have hsplit := List.append_inj h rfl
  have hhigh : m / 2 ^ 32 = n / 2 ^ 32 := be32_injective (by omega) (by omega) hsplit.1
  have hlow : m % 2 ^ 32 = n % 2 ^ 32 := be32_injective (by omega) (by omega) hsplit.2
  omega

theorem be64Int_injective {m n : Int} (hm : -2 ^ 63 ≤ m ∧ m < 2 ^ 63) (hn : -2 ^ 63 ≤ n ∧ n < 2 ^ 63)
    (h : Ws.be64Int m = Ws.be64Int n) : m = n := by
  have hmod : (m % 2 ^ 64).toNat = (n % 2 ^ 64).toNat := be64_injective (by omega) (by omega) h
  omega

/-- Fields behind their lengths can be told apart, whatever follows them. -/
theorem lengthPrefixed_injective : ∀ {fields fields' : List Bytes} {rest rest' : Bytes},
    fields.length = fields'.length → (∀ field ∈ fields, field.length < 2 ^ 32) →
    (∀ field ∈ fields', field.length < 2 ^ 32) →
    lengthPrefixed fields ++ rest = lengthPrefixed fields' ++ rest' → fields = fields' ∧ rest = rest'
  | [], [], _, _, _, _, _, h => ⟨rfl, h⟩
  | field :: fields, field' :: fields', rest, rest', hlength, hshort, hshort', h => by
    have hcons : ∀ (f : Bytes) (fs : List Bytes) (r : Bytes),
        lengthPrefixed (f :: fs) ++ r = be32 f.length ++ (f ++ (lengthPrefixed fs ++ r)) := fun f fs r => by
      simp [lengthPrefixed]
    rw [hcons, hcons] at h
    obtain ⟨hlength₀, htail⟩ := List.append_inj h rfl
    have hsame : field.length = field'.length := be32_injective (hshort _ List.mem_cons_self)
      (hshort' _ List.mem_cons_self) hlength₀
    obtain ⟨hfield, hfields⟩ := List.append_inj htail hsame
    obtain ⟨htails, hrest⟩ := lengthPrefixed_injective (Nat.succ.inj hlength)
      (fun f hf => hshort f (List.mem_cons_of_mem _ hf)) (fun f hf => hshort' f (List.mem_cons_of_mem _ hf)) hfields
    rw [hfield, htails]
    exact ⟨rfl, hrest⟩

/-! ## Payloads -/

/-- What a signature is made for. -/
inductive SignedContent
  | deviceCertificate (accountId deviceId : String) (authKey olmEd25519 olmCurve25519 : Bytes)
  | authChallenge (domain username deviceId : String) (nonce : Bytes) (expiresAtMs : Int)
  | prekey (keyId : String) (curve25519Key : Bytes)
  | roster (accountId : String) (revision : Nat) (deviceId : String)

namespace SignedContent

def payload : SignedContent → Bytes
  | deviceCertificate accountId deviceId authKey olmEd25519 olmCurve25519 =>
    deviceCertificatePayload accountId deviceId authKey olmEd25519 olmCurve25519
  | authChallenge domain username deviceId nonce expiresAtMs =>
    Ws.authChallengePayload domain username deviceId nonce expiresAtMs
  | prekey keyId curve25519Key => prekeyPayload keyId curve25519Key
  | roster accountId revision deviceId => DeviceIdentity.rosterPayload accountId revision deviceId

/-- Fields are shorter than `2^32` bytes, numbers have 64 bits, a prekey has 32 bytes, and the account id
of a roster has no NUL. -/
def Fits : SignedContent → Prop
  | deviceCertificate accountId deviceId authKey olmEd25519 olmCurve25519 =>
    ∀ field ∈ [utf8 accountId, utf8 deviceId, authKey, olmEd25519, olmCurve25519], field.length < 2 ^ 32
  | authChallenge domain username deviceId nonce expiresAtMs =>
    (∀ field ∈ [utf8 domain, utf8 username, utf8 deviceId, nonce], field.length < 2 ^ 32) ∧
      -2 ^ 63 ≤ expiresAtMs ∧ expiresAtMs < 2 ^ 63
  | prekey keyId curve25519Key => (utf8 keyId).length < 2 ^ 32 ∧ curve25519Key.length = 32
  | roster accountId revision deviceId =>
    (∀ field ∈ [utf8 accountId, utf8 deviceId], field.length < 2 ^ 32) ∧ 0 ∉ utf8 accountId ∧ revision < 2 ^ 64

/-- The text that a payload begins with. -/
def domain : SignedContent → Bytes
  | deviceCertificate .. => utf8 "tui-chat-device-certificate-v1" ++ [0]
  | authChallenge .. => utf8 "tui-chat-device-auth-v1" ++ [0]
  | prekey .. => utf8 "tui-chat-prekey-v1" ++ [0]
  | roster .. => utf8 "tui-chat-roster-v1" ++ [0]

variable {c c' : SignedContent}

theorem domain_initial (c : SignedContent) : c.domain <+: c.payload := by
  cases c with
  | deviceCertificate => exact List.prefix_append _ _
  | authChallenge =>
    rw [payload, Ws.authChallengePayload, List.append_assoc]
    exact List.prefix_append _ _
  | prekey =>
    rw [payload, prekeyPayload, List.append_assoc, List.append_assoc]
    exact List.prefix_append _ _
  | roster =>
    rw [payload, DeviceIdentity.rosterPayload, List.append_assoc, List.append_assoc, List.append_assoc]
    exact List.prefix_append _ _

/-- No domain is a prefix of another. -/
theorem domain_eq_of_initial (h : c.domain <+: c'.domain) : c.domain = c'.domain := by
  revert h
  cases c <;> cases c' <;> simp only [domain] <;> decide +kernel

theorem domain_eq (h : c.payload = c'.payload) : c.domain = c'.domain := by
  rcases List.prefix_or_prefix_of_prefix c.domain_initial (h ▸ c'.domain_initial) with hp | hp
  · exact domain_eq_of_initial hp
  · exact (domain_eq_of_initial hp).symm

/-- The payload says all that it is made for. -/
theorem payload_injective (hc : c.Fits) (hc' : c'.Fits) (h : c.payload = c'.payload) : c = c' := by
  have hdomain := domain_eq h
  cases c <;> cases c' <;> try exact absurd hdomain (by simp only [domain]; decide +kernel)
  case deviceCertificate.deviceCertificate a d k e u a' d' k' e' u' =>
    have hframed : lengthPrefixed [utf8 a, utf8 d, k, e, u] ++ [] =
        lengthPrefixed [utf8 a', utf8 d', k', e', u'] ++ [] :=
      congrArg (· ++ []) (List.append_cancel_left h)
    obtain ⟨hfields, -⟩ := lengthPrefixed_injective (by rfl) hc hc' hframed
    simp only [List.cons.injEq, and_true] at hfields
    obtain ⟨ha, hd, hk, he, hu⟩ := hfields
    rw [Lib.Wire.utf8_injective ha, Lib.Wire.utf8_injective hd, hk, he, hu]
  case authChallenge.authChallenge domain user d nonce e domain' user' d' nonce' e' =>
    simp only [payload, Ws.authChallengePayload, List.append_assoc] at h
    have hframed : lengthPrefixed [utf8 domain, utf8 user, utf8 d, nonce] ++ Ws.be64Int e =
        lengthPrefixed [utf8 domain', utf8 user', utf8 d', nonce'] ++ Ws.be64Int e' :=
      List.append_cancel_left (List.append_cancel_left h)
    obtain ⟨hfields, hexpires⟩ := lengthPrefixed_injective (by rfl) hc.1 hc'.1 hframed
    simp only [List.cons.injEq, and_true] at hfields
    obtain ⟨hname, huser, hd, hnonce⟩ := hfields
    rw [Lib.Wire.utf8_injective hname, Lib.Wire.utf8_injective huser, Lib.Wire.utf8_injective hd, hnonce,
      be64Int_injective hc.2 hc'.2 hexpires]
  case prekey.prekey id key id' key' =>
    simp only [payload, prekeyPayload, List.append_assoc] at h
    have htail := List.append_cancel_left (List.append_cancel_left h)
    -- The key at the end has its full length, whatever the id is.
    obtain ⟨hid, hkey⟩ := List.append_inj' htail (by simp [hc.2, hc'.2])
    rw [Lib.Wire.utf8_injective hid, List.append_cancel_left hkey]
  case roster.roster a r d a' r' d' =>
    simp only [payload, DeviceIdentity.rosterPayload, List.append_assoc] at h
    have htail := List.append_cancel_left (List.append_cancel_left h)
    obtain ⟨ha, hrest⟩ := Lib.Wire.terminated_injective hc.2.1 hc'.2.1 htail
    have hnumbered : DeviceIdentity.be64 r ++ utf8 d = DeviceIdentity.be64 r' ++ utf8 d' := hrest
    obtain ⟨hr, hd⟩ := List.append_inj hnumbered rfl
    rw [Lib.Wire.utf8_injective ha, Lib.Wire.utf8_injective hd, be64_injective hc.2.2 hc'.2.2 hr]

end SignedContent

/-! ## Signers and verifiers -/

section

variable (P : Primitives)

/-- A signature over the bytes, by a key of the right length. -/
def IsSignature (key message signature : Bytes) : Prop :=
  key.length = 32 ∧ signature.length = 64 ∧ P.verifyStrict key message signature = true

def certificateOf (accountId : String) (device : DeviceBundle) : SignedContent :=
  .deviceCertificate accountId device.deviceId device.authSigningKey device.olmEd25519Key device.olmCurve25519Key

/-- What a client answers a challenge with, at login and at a reconnect. -/
def DeviceIdentity.answerChallenge (identity : DeviceIdentity) (host username : String)
    (challenge : AuthChallenge) : Bytes :=
  identity.signAuthChallenge P
    (Ws.authChallengePayload host username identity.deviceId challenge.nonce challenge.expiresAtMs)

theorem verifySignature_eq_ok {key message signature : Bytes} :
    Ws.verifySignature P key message signature = .ok () ↔ IsSignature P key message signature := by
  unfold Ws.verifySignature IsSignature
  by_cases hkey : key.length = 32 <;> by_cases hsignature : signature.length = 64 <;>
    cases P.verifyStrict key message signature <;> simp [hkey, hsignature]

theorem verifyDeviceBundle_eq_ok {master : Bytes} {accountId : String} {device : DeviceBundle} :
    verifyDeviceBundle P master accountId device = .ok () ↔
      IsSignature P master (certificateOf accountId device).payload device.certificateSignature := by
  unfold verifyDeviceBundle IsSignature certificateOf SignedContent.payload
  by_cases hkey : master.length = 32 <;> by_cases hsignature : device.certificateSignature.length = 64 <;>
    cases P.verifyStrict master _ device.certificateSignature <;> simp [hkey, hsignature]

theorem verifyPrekey_eq_ok {device : DeviceBundle} {key : OneTimeKey} :
    verifyPrekey P device key = .ok () ↔
      IsSignature P device.authSigningKey (SignedContent.prekey key.keyId key.curve25519Key).payload key.signature := by
  unfold verifyPrekey IsSignature SignedContent.payload
  by_cases hkey : device.authSigningKey.length = 32 <;> by_cases hsignature : key.signature.length = 64 <;>
    cases P.verifyStrict device.authSigningKey _ key.signature <;> simp [hkey, hsignature]

/-- Whoever signs or verifies a content does so with its payload. -/
structure PayloadsAgree : Prop where
  certificateAtServer : ∀ master accountId device,
    Ws.verifyDeviceCertificate P master accountId device = .ok () ↔
      IsSignature P master (certificateOf accountId device).payload device.certificateSignature
  certificateAtClient : ∀ master accountId device,
    verifyDeviceBundle P master accountId device = .ok () ↔
      IsSignature P master (certificateOf accountId device).payload device.certificateSignature
  certificateSigned : ∀ (identity : DeviceIdentity) (device device' : DeviceBundle),
    identity.certifyBundle P device = .ok device' → ∃ secret, identity.master = some secret ∧
      device'.certificateSignature = P.sign secret (certificateOf identity.accountId device').payload
  ownCertificateSigned : ∀ (identity : DeviceIdentity) (olm : P.olm.Account) (secret : Bytes),
    identity.master = some secret → (identity.publicDevice P olm).certificateSignature =
      P.sign secret (certificateOf identity.accountId (identity.publicDevice P olm)).payload
  challengeAtServer : ∀ key domain username deviceId nonce expiresAtMs signature,
    Ws.verifySignature P key (Ws.authChallengePayload domain username deviceId nonce expiresAtMs) signature = .ok () ↔
      IsSignature P key (SignedContent.authChallenge domain username deviceId nonce expiresAtMs).payload signature
  challengeSigned : ∀ (identity : DeviceIdentity) host username (challenge : AuthChallenge),
    identity.answerChallenge P host username challenge = P.sign identity.auth (SignedContent.authChallenge host
      username identity.deviceId challenge.nonce challenge.expiresAtMs).payload
  prekeyAtServer : ∀ key (prekey : OneTimeKey), Ws.verifyPrekey P key prekey = .ok () ↔
    IsSignature P key (SignedContent.prekey prekey.keyId prekey.curve25519Key).payload prekey.signature
  prekeyAtClient : ∀ (device : DeviceBundle) (prekey : OneTimeKey), verifyPrekey P device prekey = .ok () ↔
    IsSignature P device.authSigningKey (SignedContent.prekey prekey.keyId prekey.curve25519Key).payload
      prekey.signature
  prekeySigned : ∀ (identity : DeviceIdentity) keyId curve25519Key,
    (identity.signPrekey P keyId curve25519Key).signature =
      P.sign identity.auth (SignedContent.prekey keyId curve25519Key).payload
  rosterAtServer : ∀ master accountId revision deviceId signature,
    Ws.verifyRosterSignature P master accountId revision deviceId signature = .ok () ↔
      IsSignature P master (SignedContent.roster accountId revision deviceId).payload signature
  rosterSigned : ∀ (identity : DeviceIdentity) revision deviceId signature,
    identity.signRoster P revision deviceId = .ok signature → ∃ secret, identity.master = some secret ∧
      signature = P.sign secret (SignedContent.roster identity.accountId revision deviceId).payload

theorem payloadsAgree : PayloadsAgree P where
  certificateAtServer _ _ _ := verifySignature_eq_ok P
  certificateAtClient _ _ _ := verifyDeviceBundle_eq_ok P
  certificateSigned identity device device' h := by
    unfold DeviceIdentity.certifyBundle at h
    cases hmaster : identity.master with
    | none =>
      rw [hmaster] at h
      cases h
    | some secret =>
      rw [hmaster] at h
      cases h
      exact ⟨secret, rfl, rfl⟩
  ownCertificateSigned identity olm secret h := by
    simp only [DeviceIdentity.publicDevice, h, Option.map_some, Option.getD_some]
    rfl
  challengeAtServer _ _ _ _ _ _ _ := verifySignature_eq_ok P
  challengeSigned _ _ _ _ := rfl
  prekeyAtServer _ _ := verifySignature_eq_ok P
  prekeyAtClient _ _ := verifyPrekey_eq_ok P
  prekeySigned _ _ _ := rfl
  rosterAtServer _ _ _ _ _ := verifySignature_eq_ok P
  rosterSigned identity revision deviceId signature h := by
    unfold DeviceIdentity.signRoster at h
    cases hmaster : identity.master with
    | none =>
      rw [hmaster] at h
      cases h
    | some secret =>
      rw [hmaster] at h
      cases h
      exact ⟨secret, rfl, rfl⟩

end

/-- No two contents have one payload, and all that sign and verify a content agree on its payload. -/
theorem signed_payloads_agree :
    (∀ c c' : SignedContent, c.Fits → c'.Fits → c.payload = c'.payload → c = c') ∧
      ∀ P : Primitives, PayloadsAgree P :=
  ⟨fun _ _ => SignedContent.payload_injective, payloadsAgree⟩

end TuiChat
