import TuiChat.Client.Profile
import TuiChat.Verify.SessionTable
import TuiChat.Verify.Vault

/-!
# The formats of the stored profile

The profile was written in five formats, and each is read as the profile it was written from
(`profile_formats`). One marker stands before two layouts: bytes of the shorter one are a proper prefix of bytes
of the longer one, so the decoder of the longer one reports that they end early, and never takes them.
-/

namespace TuiChat

open Lib (Bytes Codec PostcardError)
open Lib.Wire (utf8)

variable {O : Olm} {K : Pickling O} {F : ProfileFormats K}

/-- The formats that a profile was ever written in: JSON and `TCP3`, each without and with the capabilities, and
`TCP4`. -/
inductive ProfileFormat
  | jsonWithout
  | json
  | tcp3Without
  | tcp3
  | tcp4
deriving DecidableEq

/-- What the profile has in the layout without the capabilities. -/
def StoredProfile.legacy (plain : StoredProfile) : LegacyStoredProfileV3 where
  username := plain.username
  accountId := plain.accountId
  serverUrl := plain.serverUrl
  identity := plain.identity
  machine := plain.machine
  pending := plain.pending
  pairingSecret := plain.pairingSecret
  accountMasterPublic := plain.accountMasterPublic
  spkiPin := plain.spkiPin

namespace ProfileFormat

def hasCapabilities : ProfileFormat → Bool
  | jsonWithout | tcp3Without => false
  | json | tcp3 | tcp4 => true

def write (F : ProfileFormats K) (plain : StoredProfile) : ProfileFormat → Bytes
  | jsonWithout => F.legacyToVec plain.legacy
  | json => F.profileToVec plain
  | tcp3Without => utf8 "TCP3" ++ F.postcard.legacyStoredProfileV3.encode plain.legacy
  | tcp3 => utf8 "TCP3" ++ F.postcard.storedProfile.encode plain
  | tcp4 => utf8 "TCP4" ++ F.postcard.storedProfile.encode plain

end ProfileFormat

/-- The layout without the capabilities ends early for the one that has them. -/
theorem PostcardFormat.fromBytes_legacy {P : PostcardFormat} (hP : P.Lawful) (profile : LegacyStoredProfileV3) :
    P.storedProfile.fromBytes (P.legacyStoredProfileV3.encode profile) = .error .deserializeUnexpectedEnd := by
  have hinto : P.storedProfile.encode profile.into =
      P.legacyStoredProfileV3.encode profile ++ P.strings.encode [] := P.encode_into profile
  apply (P.storedProfile_lawful hP).fromBytes_of_short (a := profile.into)
  · rw [hinto]
    exact List.prefix_append _ _
  · intro heq
    rw [hinto] at heq
    exact hP.strings_ne_nil [] (List.self_eq_append_right.1 heq)

namespace ProfileFormats

theorem dropPrefix_append (marker encoded : Bytes) : (marker ++ encoded).dropPrefix? marker = some encoded :=
  List.dropPrefix?_append_of_beq encoded (by simp)

/-- A marker is not found where the first byte is another. -/
theorem dropPrefix_cons_ne {a b : UInt8} (h : b ≠ a) (marker rest : Bytes) :
    (b :: rest).dropPrefix? (a :: marker) = none := by
  unfold List.dropPrefix?
  rw [if_neg (by simpa using h)]

theorem dropPrefix_tcp3 (encoded : Bytes) : (utf8 "TCP3" ++ encoded).dropPrefix? (utf8 "TCP4") = none := rfl

/-- JSON has neither of the markers. -/
theorem decodeProfile_object {bytes rest : Bytes} (h : bytes = 123 :: rest) :
    F.decodeProfile bytes = F.profileFromSlice bytes := by
  subst h
  unfold decodeProfile
  rfl

/-- Every format is read as what was written, without the capabilities where the format has none. -/
theorem decodeProfile_write (hF : F.Lawful) (plain : StoredProfile) (format : ProfileFormat) :
    F.decodeProfile (format.write F plain) =
      .ok { plain with serverCapabilities := if format.hasCapabilities then plain.serverCapabilities else [] } := by
  have hstored := F.postcard.storedProfile_lawful hF.postcard
  cases format with
  | jsonWithout =>
    obtain ⟨rest, hrest⟩ := hF.legacy_object plain.legacy
    exact (decodeProfile_object hrest).trans (hF.legacy plain.legacy)
  | json =>
    obtain ⟨rest, hrest⟩ := hF.profile_object plain
    exact (decodeProfile_object hrest).trans (hF.profile plain)
  | tcp3Without =>
    have hlegacy := F.postcard.legacyStoredProfileV3_lawful hF.postcard
    unfold decodeProfile ProfileFormat.write
    rw [dropPrefix_tcp3, dropPrefix_append]
    dsimp only
    rw [F.postcard.fromBytes_legacy hF.postcard, hlegacy.fromBytes_encode]
    rfl
  | tcp3 =>
    unfold decodeProfile ProfileFormat.write
    rw [dropPrefix_tcp3, dropPrefix_append]
    dsimp only
    rw [hstored.fromBytes_encode]
    rfl
  | tcp4 =>
    unfold decodeProfile ProfileFormat.write
    rw [dropPrefix_append]
    dsimp only
    rw [hstored.fromBytes_encode]
    rfl

theorem identityFromBytes_identityToBytes (hF : F.Lawful) (identity : KeyedIdentity) :
    F.identityFromBytes (F.identityToBytes identity) = .ok identity := by
  unfold identityFromBytes identityToBytes
  rw [dropPrefix_append]
  dsimp only
  rw [(F.postcard.identityPickle_lawful hF.postcard).fromBytes_encode]
  show Except.ok (KeyedIdentity.fromPickle identity.pickle) = _
  rw [KeyedIdentity.fromPickle_pickle]

end ProfileFormats

/-- The same profile, with the sessions of the machine in a table whose rows may stand in another order. -/
structure LocalProfile.SameAs (p q : LocalProfile O) : Prop where
  fields : p = { q with machine := p.machine }
  account : p.machine.account = q.machine.account
  sessions : ∀ d, p.machine.sessions.find d = q.machine.sessions.find d

namespace ProfileFormats

/-- The structure of a profile, with or without the capabilities, stands for the profile. -/
theorem runtimeProfile_storeProfile (hF : F.Lawful) (hK : K.RoundTrips) (hJ : F.machine.RoundTrips)
    {profile : LocalProfile O} {plain : StoredProfile} (h : F.storeProfile profile = .ok plain)
    (capabilities : List String) :
    ∃ loaded, F.runtimeProfile { plain with serverCapabilities := capabilities } = .ok loaded ∧
      loaded.SameAs { profile with serverCapabilities := capabilities } := by
  unfold storeProfile at h
  cases hbytes : F.machine.toBytes profile.machine with
  | error e =>
    rw [hbytes] at h
    cases h
  | ok bytes =>
    rw [hbytes] at h
    cases h
    obtain ⟨machine, hmachine, haccount, hsessions⟩ := F.machine.fromBytes_toBytes hK hJ hbytes
    refine ⟨{ profile with machine, serverCapabilities := capabilities }, ?_, ⟨rfl, haccount, hsessions⟩⟩
    unfold runtimeProfile
    dsimp only
    rw [identityFromBytes_identityToBytes hF]
    show (F.machine.fromBytes bytes).map _ = _
    rw [hmachine]
    rfl

theorem loadProfile_write (hF : F.Lawful) (hK : K.RoundTrips) (hJ : F.machine.RoundTrips) {C : VaultCrypto}
    {profile : LocalProfile O} {plain : StoredProfile} (h : F.storeProfile profile = .ok plain)
    (format : ProfileFormat) {vault : VaultSession} {s : VaultStore}
    (hs : s.openProfile C vault = .ok (some (format.write F plain))) :
    ∃ loaded, F.loadProfile C vault s = .ok (some loaded) ∧ loaded.SameAs { profile with
      serverCapabilities := if format.hasCapabilities then profile.serverCapabilities else [] } := by
  have hcapabilities : plain.serverCapabilities = profile.serverCapabilities := by
    unfold storeProfile at h
    cases hbytes : F.machine.toBytes profile.machine with
    | error e =>
      rw [hbytes] at h
      cases h
    | ok bytes =>
      rw [hbytes] at h
      cases h
      rfl
  obtain ⟨loaded, hloaded, hsame⟩ := runtimeProfile_storeProfile hF hK hJ h
    (if format.hasCapabilities then plain.serverCapabilities else [])
  refine ⟨loaded, ?_, ?_⟩
  · unfold loadProfile
    rw [hs]
    show ((F.decodeProfile (format.write F plain)).bind _).map some = _
    rw [decodeProfile_write hF]
    show (F.runtimeProfile _).map some = _
    rw [hloaded]
    rfl
  · rw [hcapabilities] at hsame
    exact hsame

end ProfileFormats

/-- What a session saved, it opens. -/
theorem VaultStore.openProfile_saveProfile {C : VaultCrypto} (hC : C.Inverts) {vault : VaultSession}
    {nonce : FixedBytes 24} {plain : Bytes} {s s' : VaultStore} (h : s.saveProfile C vault nonce plain = .ok s') :
    s'.openProfile C vault = .ok (some plain) := by
  unfold saveProfile at h
  cases hencrypt : vault.encrypt C nonce profileAad plain with
  | error e =>
    rw [hencrypt] at h
    cases h
  | ok blob =>
    rw [hencrypt] at h
    cases h
    obtain ⟨hversion, hdecrypt⟩ := VaultKey.decrypt_encrypt hC hencrypt
    have hsession : vault.decrypt C profileAad blob = .ok plain := by
      unfold VaultSession.decrypt
      rw [if_pos hversion]
      exact hdecrypt
    unfold openProfile
    show ((decodeEncryptedBlob C (EncryptedBlob.toBytes blob)).bind _) = _
    rw [decodeEncryptedBlob_toBytes]
    show (vault.decrypt C profileAad blob).map some = _
    rw [hsession]
    rfl

/-- A profile that was written in any of its formats is loaded as it was, without capabilities where the format
has none; what `encode_profile` writes is one of the formats, and a saved profile is loaded; and no encoding of the
layout without the capabilities is taken for one of the layout with them. -/
theorem profile_formats (hF : F.Lawful) (hK : K.RoundTrips) (hJ : F.machine.RoundTrips) {C : VaultCrypto}
    (hC : C.Inverts) {profile : LocalProfile O} {plain : StoredProfile} (h : F.storeProfile profile = .ok plain) :
    (∀ (format : ProfileFormat) (vault : VaultSession) (s : VaultStore),
      s.openProfile C vault = .ok (some (format.write F plain)) →
        ∃ loaded, F.loadProfile C vault s = .ok (some loaded) ∧ loaded.SameAs { profile with
          serverCapabilities := if format.hasCapabilities then profile.serverCapabilities else [] }) ∧
    F.encodeProfile profile = .ok (ProfileFormat.tcp4.write F plain) ∧
    (∀ vault nonce s s', F.saveProfile C vault nonce profile s = .ok s' →
      ∃ loaded, F.loadProfile C vault s' = .ok (some loaded) ∧ loaded.SameAs profile) ∧
    ∀ legacy : LegacyStoredProfileV3,
      F.postcard.storedProfile.fromBytes (F.postcard.legacyStoredProfileV3.encode legacy) =
        .error .deserializeUnexpectedEnd := by
  have hencode : F.encodeProfile profile = .ok (ProfileFormat.tcp4.write F plain) := by
    unfold ProfileFormats.encodeProfile
    rw [h]
    rfl
  refine ⟨fun format vault s hs => ProfileFormats.loadProfile_write hF hK hJ h format hs, hencode,
    fun vault nonce s s' hsave => ?_, F.postcard.fromBytes_legacy hF.postcard⟩
  unfold ProfileFormats.saveProfile at hsave
  rw [hencode] at hsave
  exact ProfileFormats.loadProfile_write hF hK hJ h .tcp4 (VaultStore.openProfile_saveProfile hC hsave)

namespace Scenario.Profiles

/-- The wire format of `postcard`. -/
def postcard : PostcardFormat where
  string := Lib.Postcard.string
  bytes := Lib.Postcard.seq Lib.Postcard.byte
  bool := Lib.Postcard.bool
  array := Lib.Postcard.array 32
  optionArray := Lib.Postcard.option (Lib.Postcard.array 32)
  optionString := Lib.Postcard.option Lib.Postcard.string
  strings := Lib.Postcard.seq Lib.Postcard.string

theorem postcard_lawful : postcard.Lawful where
  string := Lib.Postcard.string_lawful
  bytes := Lib.Postcard.seq_lawful Lib.Postcard.byte_lawful
  bool := Lib.Postcard.bool_lawful
  array := Lib.Postcard.array_lawful 32
  optionArray := Lib.Postcard.option_lawful (Lib.Postcard.array_lawful 32)
  optionString := Lib.Postcard.option_lawful Lib.Postcard.string_lawful
  strings := Lib.Postcard.seq_lawful Lib.Postcard.string_lawful
  strings_ne_nil := Lib.Postcard.seq_encode_ne_nil Lib.Postcard.string

/-- An object, with a byte that tells the layouts apart. -/
def formats : ProfileFormats Sessions.pickling where
  postcard := postcard
  machine := Sessions.json
  identityFromSlice _ := .error "expected value"
  profileFromSlice
    | 123 :: 1 :: bytes => (postcard.storedProfile.fromBytes bytes).mapError postcardText
    | 123 :: 0 :: bytes =>
      ((postcard.legacyStoredProfileV3.fromBytes bytes).mapError postcardText).map LegacyStoredProfileV3.into
    | _ => .error "expected value"
  profileToVec profile := 123 :: 1 :: postcard.storedProfile.encode profile
  legacyToVec profile := 123 :: 0 :: postcard.legacyStoredProfileV3.encode profile

theorem formats_lawful : formats.Lawful where
  postcard := postcard_lawful
  profile p := by
    show (postcard.storedProfile.fromBytes (postcard.storedProfile.encode p)).mapError _ = _
    rw [(postcard.storedProfile_lawful postcard_lawful).fromBytes_encode]
    rfl
  legacy p := by
    show ((postcard.legacyStoredProfileV3.fromBytes (postcard.legacyStoredProfileV3.encode p)).mapError _).map _ = _
    rw [(postcard.legacyStoredProfileV3_lawful postcard_lawful).fromBytes_encode]
    rfl
  profile_object _ := ⟨_, rfl⟩
  legacy_object _ := ⟨_, rfl⟩

def profile : LocalProfile olm where
  username := "alice"
  accountId := "alice"
  serverUrl := "ws://127.0.0.1:8080/v1/ws"
  identity :=
    ⟨{ accountId := "alice", deviceId := "a1", deviceName := "test", master := some (bytes32 1), auth := bytes32 2 },
      by decide⟩
  machine := .ofAccount (bytes32 2)
  pending := false
  pairingSecret := none
  accountMasterPublic := bytes32 1
  spkiPin := none
  serverCapabilities := ["own-devices-v1"]

theorem profile_formats_alice :
    ∃ plain, formats.storeProfile profile = .ok plain ∧
      ∀ (format : ProfileFormat) (vault : VaultSession) (s : VaultStore),
        s.openProfile Vault.crypto vault = .ok (some (format.write formats plain)) →
          ∃ loaded, formats.loadProfile Vault.crypto vault s = .ok (some loaded) ∧ loaded.SameAs { profile with
            serverCapabilities := if format.hasCapabilities then ["own-devices-v1"] else [] } := by
  have hstore : ∃ plain, formats.storeProfile profile = .ok plain := ⟨_, rfl⟩
  obtain ⟨plain, hplain⟩ := hstore
  exact ⟨plain, hplain, (profile_formats formats_lawful Sessions.pickling_roundTrips Sessions.json_roundTrips
    Vault.crypto_inverts hplain).1⟩

end Scenario.Profiles

end TuiChat
