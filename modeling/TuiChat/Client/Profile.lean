import TuiChat.Client.Vault
import TuiChat.Crypto.Sessions
import TuiChat.Lib.Postcard

/-!
# The stored profile

`encode_profile` and `load_profile` of `crates/client/src/local.rs`, with `DeviceIdentity::to_bytes` and
`from_bytes`: what the encrypted profile holds, in each of the formats it was ever written in. `postcard` and
`serde_json` are parameters; a structure is written as its fields in order.
-/

namespace TuiChat

open Lib (Bytes Codec PostcardError)
open Lib.Wire (utf8)

/-- `postcard` at the types of the fields. -/
structure PostcardFormat where
  string : Codec String
  bytes : Codec Bytes
  bool : Codec Bool
  array : Codec (FixedBytes 32)
  optionArray : Codec (Option (FixedBytes 32))
  optionString : Codec (Option String)
  strings : Codec (List String)

/-- It reads what it wrote and reports where the input ends early; a sequence begins with its length. -/
structure PostcardFormat.Lawful (F : PostcardFormat) : Prop where
  string : F.string.Lawful
  bytes : F.bytes.Lawful
  bool : F.bool.Lawful
  array : F.array.Lawful
  optionArray : F.optionArray.Lawful
  optionString : F.optionString.Lawful
  strings : F.strings.Lawful
  strings_ne_nil : ∀ ss, F.strings.encode ss ≠ []

def postcardText : PostcardError → Error
  | .deserializeUnexpectedEnd => "Hit the end of buffer, expected more data"
  | .other text => text

/-! ## Structures -/

structure IdentityPickle where
  accountId : String
  deviceId : String
  deviceName : String
  master : Option (FixedBytes 32)
  auth : FixedBytes 32
deriving DecidableEq

structure StoredProfile where
  username : String
  accountId : String
  serverUrl : String
  identity : Bytes
  machine : Bytes
  pending : Bool
  pairingSecret : Option (FixedBytes 32)
  accountMasterPublic : Bytes
  spkiPin : Option String
  serverCapabilities : List String
deriving DecidableEq

/-- The layout of before `server_capabilities`. -/
structure LegacyStoredProfileV3 where
  username : String
  accountId : String
  serverUrl : String
  identity : Bytes
  machine : Bytes
  pending : Bool
  pairingSecret : Option (FixedBytes 32)
  accountMasterPublic : Bytes
  spkiPin : Option String
deriving DecidableEq

/-- `From<LegacyStoredProfileV3> for StoredProfile`. -/
def LegacyStoredProfileV3.into (profile : LegacyStoredProfileV3) : StoredProfile where
  username := profile.username
  accountId := profile.accountId
  serverUrl := profile.serverUrl
  identity := profile.identity
  machine := profile.machine
  pending := profile.pending
  pairingSecret := profile.pairingSecret
  accountMasterPublic := profile.accountMasterPublic
  spkiPin := profile.spkiPin
  serverCapabilities := []

namespace PostcardFormat

variable (F : PostcardFormat)

def identityPickle : Codec IdentityPickle :=
  (F.string.pair (F.string.pair (F.string.pair (F.optionArray.pair F.array)))).iso
    (fun (accountId, deviceId, deviceName, master, auth) => { accountId, deviceId, deviceName, master, auth })
    fun i => (i.accountId, i.deviceId, i.deviceName, i.master, i.auth)

def storedProfile : Codec StoredProfile :=
  (F.string.pair (F.string.pair (F.string.pair (F.bytes.pair (F.bytes.pair (F.bool.pair (F.optionArray.pair
    (F.bytes.pair (F.optionString.pair F.strings))))))))).iso
    (fun (username, accountId, serverUrl, identity, machine, pending, pairingSecret, accountMasterPublic, spkiPin,
        serverCapabilities) =>
      { username, accountId, serverUrl, identity, machine, pending, pairingSecret, accountMasterPublic, spkiPin,
        serverCapabilities })
    fun p => (p.username, p.accountId, p.serverUrl, p.identity, p.machine, p.pending, p.pairingSecret,
      p.accountMasterPublic, p.spkiPin, p.serverCapabilities)

def legacyStoredProfileV3 : Codec LegacyStoredProfileV3 :=
  (F.string.pair (F.string.pair (F.string.pair (F.bytes.pair (F.bytes.pair (F.bool.pair (F.optionArray.pair
    (F.bytes.pair F.optionString)))))))).iso
    (fun (username, accountId, serverUrl, identity, machine, pending, pairingSecret, accountMasterPublic, spkiPin) =>
      { username, accountId, serverUrl, identity, machine, pending, pairingSecret, accountMasterPublic, spkiPin })
    fun p => (p.username, p.accountId, p.serverUrl, p.identity, p.machine, p.pending, p.pairingSecret,
      p.accountMasterPublic, p.spkiPin)

variable {F}

theorem identityPickle_lawful (hF : F.Lawful) : F.identityPickle.Lawful :=
  (hF.string.pair (hF.string.pair (hF.string.pair (hF.optionArray.pair hF.array)))).iso fun _ => rfl

theorem storedProfile_lawful (hF : F.Lawful) : F.storedProfile.Lawful :=
  (hF.string.pair (hF.string.pair (hF.string.pair (hF.bytes.pair (hF.bytes.pair (hF.bool.pair (hF.optionArray.pair
    (hF.bytes.pair (hF.optionString.pair hF.strings))))))))).iso fun _ => rfl

theorem legacyStoredProfileV3_lawful (hF : F.Lawful) : F.legacyStoredProfileV3.Lawful :=
  (hF.string.pair (hF.string.pair (hF.string.pair (hF.bytes.pair (hF.bytes.pair (hF.bool.pair (hF.optionArray.pair
    (hF.bytes.pair hF.optionString)))))))).iso fun _ => rfl

/-- The longer layout is the shorter one and the capabilities. -/
theorem encode_into (profile : LegacyStoredProfileV3) :
    F.storedProfile.encode profile.into = F.legacyStoredProfileV3.encode profile ++ F.strings.encode [] := by
  show F.string.encode _ ++ _ = (F.string.encode _ ++ _) ++ _
  simp only [Codec.pair, LegacyStoredProfileV3.into, List.append_assoc]

end PostcardFormat

/-! ## Profiles -/

/-- An identity with keys of 32 bytes, as `SigningKey` has them. -/
abbrev KeyedIdentity :=
  { identity : DeviceIdentity // (∀ key ∈ identity.master, key.length = 32) ∧ identity.auth.length = 32 }

namespace KeyedIdentity

def pickle (identity : KeyedIdentity) : IdentityPickle where
  accountId := identity.1.accountId
  deviceId := identity.1.deviceId
  deviceName := identity.1.deviceName
  master := identity.1.master.pmap (fun key h => ⟨key, h⟩) identity.2.1
  auth := ⟨identity.1.auth, identity.2.2⟩

def fromPickle (pickle : IdentityPickle) : KeyedIdentity where
  val :=
    { accountId := pickle.accountId
      deviceId := pickle.deviceId
      deviceName := pickle.deviceName
      master := pickle.master.map Subtype.val
      auth := pickle.auth.1 }
  property := by
    refine ⟨fun key hkey => ?_, pickle.auth.2⟩
    obtain ⟨fixed, -, rfl⟩ := Option.map_eq_some_iff.1 hkey
    exact fixed.2

theorem fromPickle_pickle (identity : KeyedIdentity) : fromPickle identity.pickle = identity := by
  obtain ⟨⟨accountId, deviceId, deviceName, master, auth⟩, hmaster, hauth⟩ := identity
  apply Subtype.ext
  cases master <;> rfl

end KeyedIdentity

variable {O : Olm} {K : Pickling O}

/-- `RuntimeProfile`, with all that is stored of it. -/
structure LocalProfile (O : Olm) where
  username : String
  accountId : String
  serverUrl : String
  identity : KeyedIdentity
  machine : OlmMachine O
  pending : Bool
  pairingSecret : Option (FixedBytes 32)
  accountMasterPublic : Bytes
  spkiPin : Option String
  serverCapabilities : List String

/-- `postcard`, and `serde_json` at the types it is used at: `to_vec` of the profile in the two layouts, which
earlier versions wrote. -/
structure ProfileFormats (K : Pickling O) where
  postcard : PostcardFormat
  machine : PickleJson K
  identityFromSlice : Bytes → Except Error IdentityPickle
  profileFromSlice : Bytes → Except Error StoredProfile
  profileToVec : StoredProfile → Bytes
  legacyToVec : LegacyStoredProfileV3 → Bytes

namespace ProfileFormats

variable (F : ProfileFormats K)

/-- `postcard` is lawful; `serde_json` writes objects, reads what it wrote and has the default for a field that is
not there. -/
structure Lawful : Prop where
  postcard : F.postcard.Lawful
  profile : ∀ p, F.profileFromSlice (F.profileToVec p) = .ok p
  legacy : ∀ p, F.profileFromSlice (F.legacyToVec p) = .ok p.into
  profile_object : ∀ p, ∃ rest, F.profileToVec p = 123 :: rest
  legacy_object : ∀ p, ∃ rest, F.legacyToVec p = 123 :: rest

def identityToBytes (identity : KeyedIdentity) : Bytes :=
  utf8 "TCI3" ++ F.postcard.identityPickle.encode identity.pickle

def identityFromBytes (bytes : Bytes) : Except Error KeyedIdentity :=
  (match bytes.dropPrefix? (utf8 "TCI3") with
    | some encoded => (F.postcard.identityPickle.fromBytes encoded).mapError postcardText
    | none => F.identityFromSlice bytes).map KeyedIdentity.fromPickle

/-- The structure that `encode_profile` builds. -/
def storeProfile (profile : LocalProfile O) : Except Error StoredProfile :=
  (F.machine.toBytes profile.machine).map fun machine =>
    { username := profile.username
      accountId := profile.accountId
      serverUrl := profile.serverUrl
      identity := F.identityToBytes profile.identity
      machine
      pending := profile.pending
      pairingSecret := profile.pairingSecret
      accountMasterPublic := profile.accountMasterPublic
      spkiPin := profile.spkiPin
      serverCapabilities := profile.serverCapabilities }

/-- What `encode_profile` encrypts. -/
def encodeProfile (profile : LocalProfile O) : Except Error Bytes :=
  (F.storeProfile profile).map fun plain => utf8 "TCP4" ++ F.postcard.storedProfile.encode plain

/-- What `load_profile` makes of the decrypted bytes. -/
def decodeProfile (decrypted : Bytes) : Except Error StoredProfile :=
  match decrypted.dropPrefix? (utf8 "TCP4") with
  | some encoded => (F.postcard.storedProfile.fromBytes encoded).mapError postcardText
  | none =>
    match decrypted.dropPrefix? (utf8 "TCP3") with
    | some encoded =>
      match F.postcard.storedProfile.fromBytes encoded with
      | .ok profile => .ok profile
      | .error .deserializeUnexpectedEnd =>
        ((F.postcard.legacyStoredProfileV3.fromBytes encoded).mapError postcardText).map LegacyStoredProfileV3.into
      | .error error => .error (postcardText error)
    | none => F.profileFromSlice decrypted

def runtimeProfile (plain : StoredProfile) : Except Error (LocalProfile O) :=
  (F.identityFromBytes plain.identity).bind fun identity =>
    (F.machine.fromBytes plain.machine).map fun machine =>
      { username := plain.username
        accountId := plain.accountId
        serverUrl := plain.serverUrl
        identity
        machine
        pending := plain.pending
        pairingSecret := plain.pairingSecret
        accountMasterPublic := plain.accountMasterPublic
        spkiPin := plain.spkiPin
        serverCapabilities := plain.serverCapabilities }

def loadProfile (C : VaultCrypto) (vault : VaultSession) (s : VaultStore) : Except Error (Option (LocalProfile O)) :=
  (s.openProfile C vault).bind fun
    | none => .ok none
    | some decrypted => ((F.decodeProfile decrypted).bind F.runtimeProfile).map some

def saveProfile (C : VaultCrypto) (vault : VaultSession) (nonce : FixedBytes 24) (profile : LocalProfile O)
    (s : VaultStore) : Except Error VaultStore :=
  (F.encodeProfile profile).bind fun plain => s.saveProfile C vault nonce plain

end ProfileFormats

end TuiChat
