import TuiChat.Client.Vault
import TuiChat.Verify.Scenario

/-!
# The migration of the vault

A store that is encrypted under the passphrase alone is migrated by `unlock` and `migrate_legacy_messages`, by
any number of processes that may end anywhere, while others write messages. `Sound` says that every encrypted
column is readable in the way its version says, and `Extends` what any step leaves: once there is a vault its
key stays, no row becomes a legacy row, and every message keeps its plaintext. Every action of the programs is
such a step, so a session reads what was there before the migration (`vault_migration`).
-/

namespace TuiChat

open Lib (Bytes Proc Table Pool)
open Lib.Wire (utf8)

variable {C : VaultCrypto} {passphrase : String}

/-! ## What the columns say -/

/-- An encrypted column of the given version has the plaintext, for who has the passphrase and the data key. -/
inductive Reads (C : VaultCrypto) (passphrase : String) (key : Option VaultKey) (aad encoded plaintext : Bytes) :
    Nat → Prop
  | legacy (blob : EncryptedBlob) (decode : decodeEncryptedBlob C encoded = .ok blob)
    (decrypt : decryptBlob C passphrase aad blob = .ok plaintext) : Reads C passphrase key aad encoded plaintext 1
  | vault (blob : EncryptedBlob) (k : VaultKey) (decode : decodeEncryptedBlob C encoded = .ok blob) (has : key = some k)
    (version : blob.version = 2) (decrypt : VaultKey.decrypt C k aad blob = .ok plaintext) :
    Reads C passphrase key aad encoded plaintext 2

/-- A column that was encrypted under the passphrase alone, in whatever encoding. -/
def EncryptedUnder (C : VaultCrypto) (passphrase : String) (aad encoded plaintext : Bytes) : Prop :=
  ∃ salt nonce blob, encryptBlob C passphrase salt nonce aad plaintext = .ok blob ∧
    decodeEncryptedBlob C encoded = .ok blob

theorem decodeEncryptedBlob_toBytes (C : VaultCrypto) (blob : EncryptedBlob) :
    decodeEncryptedBlob C (EncryptedBlob.toBytes blob) = .ok blob := by
  unfold decodeEncryptedBlob
  rw [EncryptedBlob.fromBytes_toBytes]

theorem EncryptedUnder.reads (hC : C.Inverts) {aad encoded plaintext : Bytes} {key : Option VaultKey}
    (h : EncryptedUnder C passphrase aad encoded plaintext) : Reads C passphrase key aad encoded plaintext 1 := by
  obtain ⟨salt, nonce, blob, hencrypt, hdecode⟩ := h
  exact .legacy blob hdecode (decryptBlob_encryptBlob hC hencrypt).2

/-- Without a data key only legacy columns are readable, and they are with any. -/
theorem Reads.of_none {aad encoded plaintext : Bytes} {version : Nat} {key : Option VaultKey}
    (h : Reads C passphrase none aad encoded plaintext version) :
    version = 1 ∧ Reads C passphrase key aad encoded plaintext version := by
  cases h with
  | legacy blob hdecode hdecrypt => exact ⟨rfl, .legacy blob hdecode hdecrypt⟩
  | vault blob k hdecode hhas => cases hhas

/-- What a session wrote. -/
theorem reads_of_encrypt (hC : C.Inverts) {vault : VaultSession} {nonce : FixedBytes 24} {aad plaintext : Bytes}
    {blob : EncryptedBlob} (h : vault.encrypt C nonce aad plaintext = .ok blob) :
    Reads C passphrase (some vault.key) aad (EncryptedBlob.toBytes blob) plaintext 2 := by
  obtain ⟨hversion, hdecrypt⟩ := VaultKey.decrypt_encrypt hC h
  exact .vault blob vault.key (decodeEncryptedBlob_toBytes C blob) rfl hversion hdecrypt

namespace VaultStore

variable (C passphrase)

/-- The key that the passphrase unlocks. -/
def dataKey (s : VaultStore) : Option VaultKey :=
  s.wrappedKey.bind fun encoded =>
    ((WrappedVaultKey.fromBytes C encoded).bind (VaultKey.unlock C passphrase)).toOption

def ReadsProfile (s : VaultStore) (plaintext : Bytes) : Prop :=
  ∃ row, s.profile = some row ∧
    Reads C passphrase (s.dataKey C passphrase) profileAad row.encryptedBlob plaintext row.encryptionVersion

def ReadsMessage (s : VaultStore) (id : String) (plaintext : Bytes) : Prop :=
  ∃ row, s.messages.find id = some row ∧
    Reads C passphrase (s.dataKey C passphrase) (messageAad id) row.encryptedBody plaintext row.encryptionVersion

/-- Everything is readable, and with a vault the profile is under its key. -/
structure Sound (s : VaultStore) : Prop where
  dataKey : s.wrappedKey.isSome → (s.dataKey C passphrase).isSome
  profile : s.profile.isSome → ∃ plaintext, s.ReadsProfile C passphrase plaintext
  migrated : s.wrappedKey.isSome → ∀ row ∈ s.profile, row.encryptionVersion = 2
  messages : ∀ row ∈ s.messages, ∃ plaintext, s.ReadsMessage C passphrase row.logicalMessageId plaintext

/-- What a step leaves. -/
structure Extends (s s' : VaultStore) : Prop where
  untouched : s'.wrappedKey = none → s' = s
  wrappedKey : ∀ encoded, s.wrappedKey = some encoded → s'.wrappedKey = some encoded
  legacy : ∀ row ∈ s'.messages, row.encryptionVersion = 1 → row ∈ s.messages
  messages : ∀ id plaintext, s.ReadsMessage C passphrase id plaintext → s'.ReadsMessage C passphrase id plaintext

/-- What a step of the migration leaves. -/
structure Migrates (s s' : VaultStore) : Prop extends Extends C passphrase s s' where
  profile : ∀ plaintext, s.ReadsProfile C passphrase plaintext → s'.ReadsProfile C passphrase plaintext

variable {C passphrase} {s s' s'' : VaultStore}

theorem Extends.refl (s : VaultStore) : Extends C passphrase s s :=
  ⟨fun _ => rfl, fun _ h => h, fun _ h _ => h, fun _ _ h => h⟩

theorem Extends.trans (h : Extends C passphrase s s') (h' : Extends C passphrase s' s'') :
    Extends C passphrase s s'' where
  untouched hnone := by
    have heq := h'.untouched hnone
    subst heq
    exact h.untouched hnone
  wrappedKey encoded hs := h'.wrappedKey encoded (h.wrappedKey encoded hs)
  legacy row hrow hversion := h.legacy row (h'.legacy row hrow hversion) hversion
  messages id plaintext hs := h'.messages id plaintext (h.messages id plaintext hs)

theorem Migrates.refl (s : VaultStore) : Migrates C passphrase s s := ⟨.refl s, fun _ h => h⟩

theorem dataKey_of_none (h : s.wrappedKey = none) : s.dataKey C passphrase = none := by
  unfold dataKey
  rw [h]
  rfl

/-- A store with a data key has it wrapped. -/
theorem wrappedKey_ne_none {key : VaultKey} (h : s.dataKey C passphrase = some key) : s.wrappedKey ≠ none := by
  intro hnone
  rw [dataKey_of_none hnone] at h
  cases h

/-- The data key stays. -/
theorem Extends.dataKey_eq (h : Extends C passphrase s s') {key : VaultKey} (hkey : s.dataKey C passphrase = some key) :
    s'.dataKey C passphrase = some key := by
  cases hwrapped : s.wrappedKey with
  | none =>
    rw [dataKey_of_none hwrapped] at hkey
    cases hkey
  | some encoded =>
    unfold dataKey at hkey ⊢
    rw [hwrapped] at hkey
    rw [h.wrappedKey encoded hwrapped]
    exact hkey

theorem readsMessage_of_mem {row : MessageRow} (h : row ∈ s.messages) {plaintext : Bytes} :
    s.ReadsMessage C passphrase row.logicalMessageId plaintext ↔
      Reads C passphrase (s.dataKey C passphrase) (messageAad row.logicalMessageId) row.encryptedBody plaintext
        row.encryptionVersion := by
  unfold ReadsMessage
  rw [Table.find_of_mem h]
  simp

theorem legacyMessages_pos {row : MessageRow} (h : row ∈ s.messages) (hversion : row.encryptionVersion = 1) :
    0 < s.legacyMessages := by
  have hone : (decide (row.encryptionVersion = 1)).toNat = 1 := by
    rw [hversion]
    rfl
  have hle : (decide (row.encryptionVersion = 1)).toNat ≤ s.legacyMessages :=
    List.le_sum_of_mem (List.mem_map.2 ⟨row, h, rfl⟩)
  omega

/-! ## The transaction of `unlock` -/

/-- What `unlock` decrypted of a profile. -/
theorem decryptProfile_some {encoded : Bytes} {profilePlain : Option Bytes}
    (h : VaultM.decryptProfile C passphrase (some encoded) = .ok profilePlain) :
    ∃ blob plaintext, decodeEncryptedBlob C encoded = .ok blob ∧
      decryptBlob C passphrase profileAad blob = .ok plaintext ∧ profilePlain = some plaintext := by
  unfold VaultM.decryptProfile at h
  dsimp only at h
  cases hdecode : decodeEncryptedBlob C encoded with
  | error e =>
    rw [hdecode] at h
    cases h
  | ok blob =>
    rw [hdecode] at h
    cases hdecrypt : decryptBlob C passphrase profileAad blob with
    | error e =>
      simp only [Except.bind, hdecrypt] at h
      cases h
    | ok plaintext =>
      simp only [Except.bind, hdecrypt] at h
      cases h
      exact ⟨blob, plaintext, rfl, hdecrypt, rfl⟩

theorem dataKey_createVault (hC : C.Inverts) {draw : VaultDraw} {key : VaultKey} {wrapped : WrappedVaultKey}
    (hcreate : VaultKey.create C passphrase draw = .ok (key, wrapped)) (hs : s.wrappedKey = some wrapped.toBytes) :
    s.dataKey C passphrase = some key := by
  unfold dataKey
  rw [hs]
  show ((WrappedVaultKey.fromBytes C (WrappedVaultKey.toBytes wrapped)).bind _).toOption = _
  rw [WrappedVaultKey.fromBytes_toBytes]
  show (VaultKey.unlock C passphrase wrapped).toOption = _
  rw [VaultKey.unlock_create hC hcreate]
  rfl

/-- Without a vault every row is a legacy row, and legacy rows are read without the data key. -/
theorem reads_of_none (hnone : s.wrappedKey = none) {row : MessageRow}
    (hrow : row ∈ s.messages) {plaintext : Bytes} (hreads : s.ReadsMessage C passphrase row.logicalMessageId plaintext)
    (key : Option VaultKey) :
    Reads C passphrase key (messageAad row.logicalMessageId) row.encryptedBody plaintext row.encryptionVersion := by
  rw [readsMessage_of_mem hrow, dataKey_of_none hnone] at hreads
  exact hreads.of_none.2

theorem createVault_migrates (hC : C.Inverts) (h : s.Sound C passphrase) {profilePlain : Option Bytes}
    (hplain : VaultM.decryptProfile C passphrase (s.profile.map ProfileRow.encryptedBlob) = .ok profilePlain) {draw : VaultDraw} {key : VaultKey} {wrapped : WrappedVaultKey}
    (hcreate : VaultKey.create C passphrase draw = .ok (key, wrapped)) {nonce : FixedBytes 24}
    (hok : s.createVault C key wrapped nonce profilePlain = (.ok (), s')) :
    s'.Sound C passphrase ∧ Migrates C passphrase s s' ∧ s'.dataKey C passphrase = some key := by
  unfold createVault at hok
  split at hok
  · cases hok
  · next hvault =>
    have hnone : s.wrappedKey = none := by simpa using hvault
    -- What holds whatever becomes of the profile.
    have hstep : ∀ profile : Option ProfileRow,
        (∀ row ∈ profile, row.encryptionVersion = 2) →
        (∀ t : VaultStore, t.profile = profile → t.dataKey C passphrase = some key →
          (profile.isSome → ∃ plaintext, t.ReadsProfile C passphrase plaintext) ∧
          ∀ plaintext, s.ReadsProfile C passphrase plaintext → t.ReadsProfile C passphrase plaintext) →
        s' = { s with wrappedKey := some wrapped.toBytes, profile } →
        s'.Sound C passphrase ∧ Migrates C passphrase s s' ∧ s'.dataKey C passphrase = some key := by
      rintro profile hversion hprofile rfl
      let s' : VaultStore := { s with wrappedKey := some wrapped.toBytes, profile }
      have hkey : s'.dataKey C passphrase = some key := dataKey_createVault hC hcreate rfl
      obtain ⟨hreads, hsame⟩ := hprofile s' rfl hkey
      have hmessages : ∀ id plaintext, s.ReadsMessage C passphrase id plaintext →
          s'.ReadsMessage C passphrase id plaintext := by
        intro id plaintext hs
        have hfound := hs
        obtain ⟨row, hfind, -⟩ := hfound
        obtain ⟨hrow, rfl⟩ := Table.find_eq_some.1 hfind
        exact ⟨row, hfind, reads_of_none hnone hrow hs _⟩
      refine ⟨⟨fun _ => ?_, hreads, fun _ => hversion, fun row hrow => ?_⟩, ⟨⟨fun hn => ?_, fun e he => ?_, fun _ hrow _ =>
        hrow, hmessages⟩, hsame⟩, hkey⟩
      · rw [hkey]
        rfl
      · obtain ⟨plaintext, hs⟩ := h.messages row hrow
        exact ⟨plaintext, hmessages _ _ hs⟩
      · cases hn
      · rw [hnone] at he
        cases he
    cases hprofile : s.profile with
    | none =>
      rw [hprofile] at hplain
      cases hplain
      cases hok
      refine hstep none (fun _ hrow => nomatch hrow) (fun t ht hkey => ⟨fun hsome => (nomatch hsome), ?_⟩) ?_
      · rintro plaintext ⟨row, hrow, -⟩
        rw [hprofile] at hrow
        cases hrow
      · rw [← hprofile]
    | some row =>
      rw [hprofile] at hplain
      obtain ⟨blob, plaintext, hdecode, hdecrypt, rfl⟩ := decryptProfile_some hplain
      dsimp only at hok
      split at hok
      · cases hok
      · next newBlob hencrypt =>
        cases hok
        refine hstep (some { encryptedBlob := newBlob.toBytes, encryptionVersion := 2 }) ?_ (fun t ht hkey => ?_) ?_
        · intro row' hrow'
          cases hrow'
          rfl
        · have hreads : t.ReadsProfile C passphrase plaintext := by
            refine ⟨_, ht, ?_⟩
            rw [hkey]
            exact @reads_of_encrypt C passphrase hC { key, legacyPassphrase := none } _ _ _ _ hencrypt
          refine ⟨fun _ => ⟨plaintext, hreads⟩, ?_⟩
          rintro plaintext' ⟨row', hrow', hold⟩
          rw [hprofile] at hrow'
          cases hrow'
          rw [dataKey_of_none hnone] at hold
          obtain ⟨hversion, hold⟩ := @Reads.of_none C passphrase _ _ _ _ none hold
          rw [hversion] at hold
          cases hold with
          | legacy blob' hdecode' hdecrypt' =>
            rw [hdecode] at hdecode'
            cases hdecode'
            rw [hdecrypt] at hdecrypt'
            cases hdecrypt'
            exact hreads
        · rw [hprofile]
          rfl

theorem createVault_error {key : VaultKey} {wrapped : WrappedVaultKey} {nonce : FixedBytes 24}
    {profilePlain : Option Bytes} {e : Error} (h : s.createVault C key wrapped nonce profilePlain = (.error e, s')) :
    s' = s := by
  unfold createVault at h
  split at h
  · cases h
    rfl
  · split at h
    · cases h
    · split at h
      · cases h
        rfl
      · cases h

theorem createVault_ok {key : VaultKey} {wrapped : WrappedVaultKey} {nonce : FixedBytes 24}
    {profilePlain : Option Bytes} (h : s.createVault C key wrapped nonce profilePlain = (.ok (), s')) :
    s.wrappedKey = none := by
  unfold createVault at h
  split at h
  · cases h
  · next hvault => simpa using hvault

/-! ## The other writes -/

theorem dataKey_congr (h : s'.wrappedKey = s.wrappedKey) : s'.dataKey C passphrase = s.dataKey C passphrase := by
  unfold dataKey
  rw [h]

/-- A legacy row gets its body under the data key. -/
theorem updateBody_migrates (hC : C.Inverts) (h : s.Sound C passphrase) {vault : VaultSession}
    (hkey : s.dataKey C passphrase = some vault.key) {id : String} {nonce : FixedBytes 24} {plaintext : Bytes}
    {blob : EncryptedBlob} (hencrypt : vault.encrypt C nonce (messageAad id) plaintext = .ok blob)
    (hplain : ∀ row ∈ s.messages, row.logicalMessageId = id → row.encryptionVersion = 1 →
      ∃ old, decodeEncryptedBlob C row.encryptedBody = .ok old ∧
        decryptBlob C passphrase (messageAad id) old = .ok plaintext) :
    (s.updateBody blob.toBytes id).Sound C passphrase ∧ Migrates C passphrase s (s.updateBody blob.toBytes id) ∧
      ∀ row ∈ (s.updateBody blob.toBytes id).messages, row.logicalMessageId = id → row.encryptionVersion ≠ 1 := by
  have hdataKey : (s.updateBody blob.toBytes id).dataKey C passphrase = s.dataKey C passphrase := dataKey_congr rfl
  have hrows : ∀ row, row ∈ (s.updateBody blob.toBytes id).messages ↔ ∃ old ∈ s.messages,
      row = if old.logicalMessageId = id ∧ old.encryptionVersion = 1 then
        { old with encryptedBody := blob.toBytes, encryptionVersion := 2 } else old := fun row => by
    unfold updateBody
    simp [Table.mem_update]
  have hlegacy : ∀ row ∈ (s.updateBody blob.toBytes id).messages, row.encryptionVersion = 1 →
      row ∈ s.messages ∧ row.logicalMessageId ≠ id := by
    intro row hrow hversion
    obtain ⟨old, hold, heq⟩ := (hrows row).1 hrow
    split at heq
    · subst heq
      cases hversion
    · next hnot =>
      subst heq
      exact ⟨hold, fun hid => hnot ⟨hid, hversion⟩⟩
  have hmessages : ∀ id' plaintext', s.ReadsMessage C passphrase id' plaintext' →
      (s.updateBody blob.toBytes id).ReadsMessage C passphrase id' plaintext' := by
    rintro id' plaintext' ⟨old, hfind, hreads⟩
    obtain ⟨hold, rfl⟩ := Table.find_eq_some.1 hfind
    have hfound := Table.find_update_of_find
      (p := fun row : MessageRow => row.logicalMessageId = id && row.encryptionVersion = 1)
      (f := fun row : MessageRow => { row with encryptedBody := blob.toBytes, encryptionVersion := 2 })
      (fun _ => rfl) hfind
    refine ⟨_, hfound, ?_⟩
    rw [hdataKey]
    by_cases hthis : old.logicalMessageId = id ∧ old.encryptionVersion = 1
    · obtain ⟨hid, hversion⟩ := hthis
      simp only [hid, hversion, decide_true, Bool.and_self, if_true]
      obtain ⟨oldBlob, hdecode, hdecrypt⟩ := hplain old hold hid hversion
      rw [hversion, hid] at hreads
      cases hreads with
      | legacy blob' hdecode' hdecrypt' =>
        rw [hdecode] at hdecode'
        cases hdecode'
        rw [hdecrypt] at hdecrypt'
        cases hdecrypt'
        rw [hkey]
        exact reads_of_encrypt hC hencrypt
    · have hnot : (decide (old.logicalMessageId = id) && decide (old.encryptionVersion = 1)) = false := by
        simpa using hthis
      simp only [hnot, Bool.false_eq_true, if_false]
      exact hreads
  have hprofile : ∀ plaintext', s.ReadsProfile C passphrase plaintext' →
      (s.updateBody blob.toBytes id).ReadsProfile C passphrase plaintext' := by
    rintro plaintext' ⟨row, hrow, hreads⟩
    exact ⟨row, hrow, hdataKey ▸ hreads⟩
  refine ⟨⟨fun hsome => ?_, fun hsome => ?_, h.migrated, fun row hrow => ?_⟩, ⟨⟨fun hnone => ?_, fun _ he => he,
    fun row hrow hversion => (hlegacy row hrow hversion).1, hmessages⟩, hprofile⟩, fun row hrow hid hversion =>
    (hlegacy row hrow hversion).2 hid⟩
  · rw [hdataKey]
    exact h.dataKey hsome
  · obtain ⟨plaintext', hreads⟩ := h.profile hsome
    exact ⟨plaintext', hprofile plaintext' hreads⟩
  · obtain ⟨old, hold, rfl⟩ := (hrows row).1 hrow
    obtain ⟨plaintext', hreads⟩ := h.messages old hold
    refine ⟨plaintext', ?_⟩
    have hsame := hmessages _ _ hreads
    split <;> exact hsame
  · exact absurd hnone (wrappedKey_ne_none hkey)

theorem saveProfile_extends (hC : C.Inverts) (h : s.Sound C passphrase) {vault : VaultSession}
    (hkey : s.dataKey C passphrase = some vault.key) {nonce : FixedBytes 24} {plain : Bytes}
    (hok : s.saveProfile C vault nonce plain = .ok s') : s'.Sound C passphrase ∧ Extends C passphrase s s' := by
  unfold saveProfile at hok
  cases hencrypt : vault.encrypt C nonce profileAad plain with
  | error e =>
    rw [hencrypt] at hok
    cases hok
  | ok blob =>
    rw [hencrypt] at hok
    cases hok
    let s' : VaultStore := { s with profile := some { encryptedBlob := blob.toBytes, encryptionVersion := 2 } }
    have hdataKey : s'.dataKey C passphrase = s.dataKey C passphrase := dataKey_congr rfl
    have hmessages : ∀ id plaintext, s.ReadsMessage C passphrase id plaintext →
        s'.ReadsMessage C passphrase id plaintext := by
      rintro id plaintext ⟨row, hrow, hreads⟩
      exact ⟨row, hrow, hdataKey ▸ hreads⟩
    refine ⟨⟨fun hsome => ?_, fun _ => ⟨plain, _, rfl, ?_⟩, fun _ row hrow => ?_, fun row hrow => ?_⟩,
      ⟨fun hnone => ?_, fun _ he => he, fun row hrow _ => hrow, hmessages⟩⟩
    · show (s'.dataKey C passphrase).isSome
      rw [hdataKey]
      exact h.dataKey hsome
    · show Reads C passphrase (s'.dataKey C passphrase) _ _ _ _
      rw [hdataKey, hkey]
      exact reads_of_encrypt hC hencrypt
    · cases hrow
      rfl
    · obtain ⟨plaintext, hreads⟩ := h.messages row hrow
      exact ⟨plaintext, hmessages _ _ hreads⟩
    · exact absurd hnone (wrappedKey_ne_none hkey)

theorem insertMessage_migrates (hC : C.Inverts) (h : s.Sound C passphrase) {vault : VaultSession}
    (hkey : s.dataKey C passphrase = some vault.key) {id : String} {nonce : FixedBytes 24} {body : Bytes}
    {sentAtMs : Int} (hok : s.insertMessage C vault id nonce body sentAtMs = .ok s') :
    s'.Sound C passphrase ∧ Migrates C passphrase s s' := by
  unfold insertMessage at hok
  cases hencrypt : vault.encrypt C nonce (messageAad id) body with
  | error e =>
    rw [hencrypt] at hok
    cases hok
  | ok blob =>
    rw [hencrypt] at hok
    cases hok
    let row : MessageRow :=
      { logicalMessageId := id, encryptedBody := blob.toBytes, sentAtMs, encryptionVersion := 2 }
    let s' : VaultStore := { s with messages := s.messages.insertOrIgnore row }
    have hdataKey : s'.dataKey C passphrase = s.dataKey C passphrase := dataKey_congr rfl
    have hmessages : ∀ id' plaintext, s.ReadsMessage C passphrase id' plaintext →
        s'.ReadsMessage C passphrase id' plaintext := by
      rintro id' plaintext ⟨old, hfind, hreads⟩
      obtain ⟨hold, rfl⟩ := Table.find_eq_some.1 hfind
      have hmem : old ∈ s'.messages := Table.mem_insertOrIgnore_of_mem hold
      exact ⟨old, Table.find_of_mem hmem, hdataKey ▸ hreads⟩
    refine ⟨⟨fun hsome => ?_, fun hsome => ?_, h.migrated, fun row' hrow' => ?_⟩, ⟨⟨fun hnone => ?_, fun _ he => he,
      fun row' hrow' hversion => ?_, hmessages⟩, ?_⟩⟩
    · show (s'.dataKey C passphrase).isSome
      rw [hdataKey]
      exact h.dataKey hsome
    · obtain ⟨plaintext, old, hold, hreads⟩ := h.profile hsome
      exact ⟨plaintext, old, hold, hdataKey ▸ hreads⟩
    · rcases Table.mem_insertOrIgnore.1 hrow' with hold | ⟨rfl, hfresh⟩
      · obtain ⟨plaintext, hreads⟩ := h.messages row' hold
        exact ⟨plaintext, hmessages _ _ hreads⟩
      · refine ⟨body, (readsMessage_of_mem (s := s') hrow').2 ?_⟩
        rw [hdataKey, hkey]
        exact reads_of_encrypt hC hencrypt
    · exact absurd hnone (wrappedKey_ne_none hkey)
    · rcases Table.mem_insertOrIgnore.1 hrow' with hold | ⟨rfl, -⟩
      · exact hold
      · cases hversion
    · rintro plaintext ⟨old, hold, hreads⟩
      exact ⟨old, hold, hdataKey ▸ hreads⟩

end VaultStore

/-! ## Sessions -/

namespace VaultSession

open VaultStore

variable {s s' : VaultStore} {vault : VaultSession}

/-- The session has the data key, and the passphrase as long as there are legacy messages. -/
structure Opens (C : VaultCrypto) (passphrase : String) (s : VaultStore) (vault : VaultSession) : Prop where
  key : s.dataKey C passphrase = some vault.key
  legacy : vault.legacyPassphrase = some passphrase ∨ ∀ row ∈ s.messages, row.encryptionVersion ≠ 1

theorem Opens.mono (h : vault.Opens C passphrase s) (hs : Extends C passphrase s s') : vault.Opens C passphrase s' where
  key := hs.dataKey_eq h.key
  legacy := h.legacy.imp_right fun hnone row hrow hversion => hnone row (hs.legacy row hrow hversion) hversion

/-- What the columns say, the session decrypts. -/
theorem Opens.decrypt (h : vault.Opens C passphrase s) {aad encoded plaintext : Bytes} {version : Nat}
    (hlegacy : version = 1 → vault.legacyPassphrase = some passphrase)
    (hreads : Reads C passphrase (s.dataKey C passphrase) aad encoded plaintext version) :
    ∃ blob, decodeEncryptedBlob C encoded = .ok blob ∧ vault.decrypt C aad blob = .ok plaintext := by
  cases hreads with
  | legacy blob hdecode hdecrypt =>
    refine ⟨blob, hdecode, ?_⟩
    have hversion : blob.version = 1 := version_of_decryptBlob hdecrypt
    unfold VaultSession.decrypt
    rw [hlegacy rfl, hversion]
    exact hdecrypt
  | vault blob k hdecode hhas hversion hdecrypt =>
    refine ⟨blob, hdecode, ?_⟩
    rw [h.key] at hhas
    cases hhas
    unfold VaultSession.decrypt
    rw [if_pos hversion]
    exact hdecrypt

theorem Opens.openMessage (h : vault.Opens C passphrase s) {id : String} {plaintext : Bytes}
    (hreads : s.ReadsMessage C passphrase id plaintext) : s.openMessage C vault id = .ok (some plaintext) := by
  obtain ⟨row, hfind, hreads⟩ := hreads
  have hlegacy : row.encryptionVersion = 1 → vault.legacyPassphrase = some passphrase := fun hversion =>
    h.legacy.resolve_right fun hnone => hnone row (Table.mem_of_find hfind) hversion
  obtain ⟨blob, hdecode, hdecrypt⟩ := h.decrypt hlegacy hreads
  unfold VaultStore.openMessage
  rw [hfind]
  simp only [hdecode, Except.bind, hdecrypt]
  rfl

/-- With a vault the profile is not a legacy row. -/
theorem Opens.openProfile (h : vault.Opens C passphrase s) (hs : s.Sound C passphrase) {plaintext : Bytes}
    (hreads : s.ReadsProfile C passphrase plaintext) : s.openProfile C vault = .ok (some plaintext) := by
  obtain ⟨row, hrow, hreads⟩ := hreads
  have hvault : s.wrappedKey.isSome := Option.isSome_iff_ne_none.2 (wrappedKey_ne_none h.key)
  have hversion : row.encryptionVersion = 2 := hs.migrated hvault row hrow
  have hlegacy : row.encryptionVersion = 1 → vault.legacyPassphrase = some passphrase := by
    intro hone
    rw [hversion] at hone
    cases hone
  obtain ⟨blob, hdecode, hdecrypt⟩ := h.decrypt hlegacy hreads
  unfold VaultStore.openProfile
  rw [hrow]
  simp only [hdecode, Except.bind, hdecrypt]
  rfl

end VaultSession

/-! ## The programs -/

section Programs

open Lib.Pool (Interferes)
open VaultSession (Opens)
open VaultStore (Sound Extends Migrates)

/-- What others do to a sound store. -/
def VaultRely (C : VaultCrypto) (passphrase : String) (s s' : VaultStore) : Prop :=
  s.Sound C passphrase → s'.Sound C passphrase ∧ Extends C passphrase s s'

instance : Std.Refl (VaultRely C passphrase) := ⟨fun s h => ⟨h, .refl s⟩⟩

instance : IsTrans VaultStore (VaultRely C passphrase) where
  trans _ _ _ h h' hs := by
    obtain ⟨hs', hext⟩ := h hs
    obtain ⟨hs'', hext'⟩ := h' hs'
    exact ⟨hs'', hext.trans hext'⟩

/-- What a process has is right: its session opens the store, and after its migration no message is a legacy
row. -/
structure ClientSound (C : VaultCrypto) (passphrase : String) (w : VaultStore × VaultClient) : Prop where
  session : ∀ vault ∈ w.2.session, vault.Opens C passphrase w.1
  migrated : w.2.migrated.isSome → ∀ row ∈ w.1.messages, row.encryptionVersion ≠ 1
  vault : w.2.migrated.isSome → w.1.wrappedKey.isSome

theorem ClientSound.mono {s s' : VaultStore} {client : VaultClient} (h : ClientSound C passphrase (s, client))
    (hs : Extends C passphrase s s') : ClientSound C passphrase (s', client) where
  session vault hvault := (h.session vault hvault).mono hs
  migrated hsome row hrow hversion := h.migrated hsome row (hs.legacy row hrow hversion) hversion
  vault hsome := by
    obtain ⟨encoded, hwrapped⟩ := Option.isSome_iff_exists.1 (h.vault hsome)
    show s'.wrappedKey.isSome
    rw [hs.wrappedKey encoded hwrapped]
    rfl

/-- What an action of the programs does. -/
structure VaultStep (C : VaultCrypto) (passphrase : String) (w w' : VaultStore × VaultClient) : Prop where
  store : w.1.Sound C passphrase → w'.1.Sound C passphrase ∧ Migrates C passphrase w.1 w'.1
  client : w.1.Sound C passphrase → ClientSound C passphrase w → ClientSound C passphrase w'

theorem VaultStep.refl (w : VaultStore × VaultClient) : VaultStep C passphrase w w :=
  ⟨fun h => ⟨h, .refl w.1⟩, fun _ h => h⟩

theorem VaultStep.of_store {s s' : VaultStore} {client : VaultClient} (hs' : s'.Sound C passphrase)
    (h : Migrates C passphrase s s') : VaultStep C passphrase (s, client) (s', client) :=
  ⟨fun _ => ⟨hs', h⟩, fun _ hclient => hclient.mono h.toExtends⟩

theorem VaultStep.rely {w w' : VaultStore × VaultClient} (h : VaultStep C passphrase w w') :
    VaultRely C passphrase w.1 w'.1 := fun hs => ⟨(h.store hs).1, (h.store hs).2.toExtends⟩

namespace VaultM

variable {α : Type} {w : VaultStore × VaultClient} {E : Error → VaultStore × VaultClient → Prop}

/-- The triple of a program on a sound store, with others at work. -/
abbrev Triple (C : VaultCrypto) (passphrase : String) (m : VaultM α) (Q : α → VaultStore × VaultClient → Prop)
    (w : VaultStore × VaultClient) : Prop :=
  m.wp (Interferes (VaultRely C passphrase)) (VaultStep C passphrase) Q (fun _ _ => True) w

theorem triple_select {f : VaultStore → α} {Q : α → VaultStore × VaultClient → Prop} (hs : w.1.Sound C passphrase)
    (h : ∀ s, s.Sound C passphrase → Extends C passphrase w.1 s → Q (f s) (s, w.2)) :
    Triple C passphrase (select f) Q w := by
  unfold Triple select
  rw [Proc.wp_atomically]
  rintro ⟨s, client⟩ ⟨hrely, hlocal⟩
  obtain ⟨hs', hext⟩ := hrely hs
  dsimp only at hlocal
  subst hlocal
  refine ⟨.refl _, ?_, fun _ _ => trivial⟩
  intro a ha
  cases ha
  exact h s hs' hext

/-- The session with a key that was unlocked, and the passphrase if there are legacy messages. -/
theorem opens_of_count {s : VaultStore} {key : VaultKey} {count : Nat} (hkey : s.dataKey C passphrase = some key)
    (hcount : s.legacyMessages ≤ count) :
    Opens C passphrase s { key, legacyPassphrase := if count > 0 then some passphrase else none } where
  key := hkey
  legacy := by
    by_cases hpos : count > 0
    · exact .inl (if_pos hpos)
    · right
      intro row hrow hversion
      have hlegacy : 0 < s.legacyMessages := VaultStore.legacyMessages_pos hrow hversion
      omega

/-- The transaction of `unlock`, on a store that is as the profile was read from it or has a vault by now. -/
theorem triple_createVault (hC : C.Inverts) {s : VaultStore} {profilePlain : Option Bytes}
    (hplain : decryptProfile C passphrase (s.profile.map ProfileRow.encryptedBlob) = .ok profilePlain)
    {draw : VaultDraw} {key : VaultKey} {wrapped : WrappedVaultKey}
    (hcreate : VaultKey.create C passphrase draw = .ok (key, wrapped)) (nonce : FixedBytes 24)
    (hs : w.1.Sound C passphrase) (hsame : w.1.wrappedKey = none → w.1 = s) :
    Triple C passphrase (.atomically fun w =>
      let (result, s) := w.1.createVault C key wrapped nonce profilePlain
      (result, (s, w.2)))
      (fun _ w' => w'.1.Sound C passphrase ∧ w'.1.dataKey C passphrase = some key ∧ w'.2 = w.2) w := by
  unfold Triple
  rw [Proc.wp_atomically]
  rintro ⟨s', client⟩ ⟨hrely, hlocal⟩
  dsimp only at hlocal
  subst hlocal
  obtain ⟨hs', hext⟩ := hrely hs
  dsimp only at hs' hext ⊢
  cases hresult : s'.createVault C key wrapped nonce profilePlain with
  | mk result s'' =>
    cases result with
    | error e =>
      have hleft : s'' = s' := VaultStore.createVault_error hresult
      subst hleft
      exact ⟨.refl _, fun _ hok => (nomatch hok), fun _ _ => trivial⟩
    | ok u =>
      have hvault : s'.wrappedKey = none := VaultStore.createVault_ok hresult
      have hunchanged : s' = s := by
        have heq := hext.untouched hvault
        subst heq
        exact hsame hvault
      subst hunchanged
      obtain ⟨hs'', hmigrates, hdataKey⟩ := VaultStore.createVault_migrates hC hs' hplain hcreate hresult
      exact ⟨.of_store hs'' hmigrates, fun _ _ => ⟨hs'', hdataKey, rfl⟩, fun _ herror => (nomatch herror)⟩

theorem triple_unlock (hC : C.Inverts) (draw : VaultDraw) (nonce : FixedBytes 24) (hs : w.1.Sound C passphrase) :
    Triple C passphrase (unlock C passphrase draw nonce)
      (fun vault w' => w'.1.Sound C passphrase ∧ vault.Opens C passphrase w'.1 ∧ w'.2 = w.2) w := by
  unfold Triple unlock
  refine Proc.wp.bind (I := fun existing w' => w'.1.Sound C passphrase ∧ existing = w'.1.wrappedKey ∧ w'.2 = w.2)
    (triple_select hs fun s hs _ => ⟨hs, rfl, rfl⟩) ?_
  rintro existing ⟨s₁, client⟩ ⟨hs₁, hexisting, hclient⟩
  dsimp only at hs₁ hexisting hclient
  subst hclient
  cases existing with
  | some encoded =>
    apply Proc.wp.ofExcept (fun _ => trivial)
    intro wrapped hwrapped
    apply Proc.wp.ofExcept (fun _ => trivial)
    intro key hkey
    have hdataKey : s₁.dataKey C passphrase = some key := by
      unfold VaultStore.dataKey
      rw [← hexisting]
      show ((WrappedVaultKey.fromBytes C encoded).bind _).toOption = _
      rw [hwrapped]
      show (VaultKey.unlock C passphrase wrapped).toOption = _
      rw [hkey]
      rfl
    refine Proc.wp.bind (I := fun count w' => w'.1.Sound C passphrase ∧ w'.1.dataKey C passphrase = some key ∧
      count = w'.1.legacyProfiles + w'.1.legacyMessages ∧ w'.2 = w.2)
      (triple_select (w := (s₁, w.2)) hs₁ fun s hs hext => ⟨hs, hext.dataKey_eq hdataKey, rfl, rfl⟩) ?_
    rintro count w₂ ⟨hs₂, hdataKey₂, hcount, hclient⟩
    rw [Proc.wp_pure]
    exact ⟨hs₂, opens_of_count hdataKey₂ (by omega), hclient⟩
  | none =>
    refine Proc.wp.bind (I := fun legacyProfile w' => w'.1.Sound C passphrase ∧
      legacyProfile = w'.1.profile.map ProfileRow.encryptedBlob ∧ w'.2 = w.2)
      (triple_select (w := (s₁, w.2)) hs₁ fun s hs _ => ⟨hs, rfl, rfl⟩) ?_
    rintro legacyProfile ⟨s₂, client⟩ ⟨hs₂, hlegacyProfile, hclient⟩
    dsimp only at hs₂ hlegacyProfile hclient
    subst hclient
    apply Proc.wp.ofExcept (fun _ => trivial)
    intro profilePlain hplain
    rw [hlegacyProfile] at hplain
    -- The copy leaves the store, and so do the others as long as there is no vault.
    refine Proc.wp.bind (I := fun _ w' => w'.1.Sound C passphrase ∧ (w'.1.wrappedKey = none → w'.1 = s₂) ∧
      w'.2 = w.2) ?_ ?_
    · rw [Proc.wp_ite]
      constructor
      · exact fun _ => triple_select (w := (s₂, w.2)) hs₂ fun s hs hext => ⟨hs, hext.untouched, rfl⟩
      · exact fun _ => (Proc.wp_pure ()).2 ⟨hs₂, fun _ => rfl, rfl⟩
    · rintro - ⟨s₃, client⟩ ⟨hs₃, hsame, hclient⟩
      dsimp only at hs₃ hsame hclient
      subst hclient
      apply Proc.wp.ofExcept (fun _ => trivial)
      rintro ⟨key, wrapped⟩ hcreate
      refine Proc.wp.bind (triple_createVault (w := (s₃, w.2)) hC hplain hcreate nonce hs₃ hsame) ?_
      rintro - ⟨s₄, client⟩ ⟨hs₄, hdataKey, hclient⟩
      dsimp only at hs₄ hdataKey hclient
      subst hclient
      refine Proc.wp.bind (I := fun count w' => w'.1.Sound C passphrase ∧ w'.1.dataKey C passphrase = some key ∧
        count = w'.1.legacyMessages ∧ w'.2 = w.2)
        (triple_select (w := (s₄, w.2)) hs₄ fun s hs hext => ⟨hs, hext.dataKey_eq hdataKey, rfl, rfl⟩) ?_
      rintro count w₅ ⟨hs₅, hdataKey₅, hcount, hclient⟩
      rw [Proc.wp_pure]
      exact ⟨hs₅, opens_of_count hdataKey₅ (by omega), hclient⟩

/-- One turn of the loop: the message with the id of the row is not a legacy row any more. -/
theorem triple_migrateMessage (hC : C.Inverts) {vault : VaultSession} (nonces : String → FixedBytes 24)
    {row : MessageRow} (hrow : row.encryptionVersion = 1) (hs : w.1.Sound C passphrase)
    (hopens : vault.Opens C passphrase w.1)
    (hsame : ∀ row' ∈ w.1.messages, row'.logicalMessageId = row.logicalMessageId → row'.encryptionVersion = 1 →
      row' = row)
    (hreads : ∃ plaintext, Reads C passphrase none (messageAad row.logicalMessageId) row.encryptedBody plaintext 1) :
    Triple C passphrase (migrateMessage C vault nonces row) (fun _ w' => w'.1.Sound C passphrase ∧
      Extends C passphrase w.1 w'.1 ∧ w'.2 = w.2 ∧
      ∀ row' ∈ w'.1.messages, row'.logicalMessageId = row.logicalMessageId → row'.encryptionVersion ≠ 1) w := by
  unfold Triple migrateMessage
  apply Proc.wp.ofExcept (fun _ => trivial)
  intro blob hdecode
  apply Proc.wp.ofExcept (fun _ => trivial)
  intro plaintext hdecrypt
  apply Proc.wp.ofExcept (fun _ => trivial)
  intro encoded hencrypt
  rw [Proc.wp_atomically]
  rintro ⟨s, client⟩ ⟨hrely, hlocal⟩
  dsimp only at hlocal
  subst hlocal
  obtain ⟨hs', hext⟩ := hrely hs
  have hopens' := hopens.mono hext
  -- A row that is still a legacy row is the one that was read, and its body was decrypted with the passphrase.
  have hplain : ∀ row' ∈ s.messages, row'.logicalMessageId = row.logicalMessageId → row'.encryptionVersion = 1 →
      ∃ old, decodeEncryptedBlob C row'.encryptedBody = .ok old ∧
        decryptBlob C passphrase (messageAad row.logicalMessageId) old = .ok plaintext := by
    intro row' hrow' hid hversion
    have hbefore : row' ∈ w.1.messages := hext.legacy row' hrow' hversion
    have heq : row' = row := hsame row' hbefore hid hversion
    subst heq
    obtain ⟨plaintext', hreads⟩ := hreads
    cases hreads with
    | legacy old hdecode' hdecrypt' =>
      rw [hdecode] at hdecode'
      cases hdecode'
      have hpassphrase : vault.legacyPassphrase = some passphrase :=
        hopens'.legacy.resolve_right fun hnone => hnone row' hrow' hversion
      have hsession : vault.decrypt C (messageAad row'.logicalMessageId) blob = .ok plaintext' := by
        unfold VaultSession.decrypt
        rw [version_of_decryptBlob hdecrypt', hpassphrase]
        exact hdecrypt'
      rw [hdecrypt] at hsession
      cases hsession
      exact ⟨blob, hdecode, hdecrypt'⟩
  obtain ⟨hs'', hmigrates, hdone⟩ := VaultStore.updateBody_migrates hC hs' hopens'.key hencrypt hplain
  refine ⟨.of_store hs'' hmigrates, fun _ _ => ⟨hs'', hext.trans hmigrates.toExtends, rfl, hdone⟩, fun _ _ => trivial⟩

/-- The loop: the legacy rows are among those that are left, and in the end there are none. -/
theorem triple_each (hC : C.Inverts) {vault : VaultSession} (nonces : String → FixedBytes 24) {s₀ : VaultStore} :
    ∀ {rows : List MessageRow} {w : VaultStore × VaultClient},
      (∀ row ∈ rows, row ∈ s₀.messages ∧ row.encryptionVersion = 1 ∧
        ∃ plaintext, Reads C passphrase none (messageAad row.logicalMessageId) row.encryptedBody plaintext 1) →
      w.1.Sound C passphrase → vault.Opens C passphrase w.1 → Extends C passphrase s₀ w.1 →
      (∀ row ∈ w.1.messages, row.encryptionVersion = 1 → row ∈ rows) →
        Triple C passphrase (Proc.each (migrateMessage C vault nonces) rows) (fun _ w' =>
          w'.1.Sound C passphrase ∧ vault.Opens C passphrase w'.1 ∧ w'.2 = w.2 ∧
          ∀ row ∈ w'.1.messages, row.encryptionVersion ≠ 1) w
  | [], w, _, hs, hopens, _, hleft => (Proc.wp_pure ()).2 ⟨hs, hopens, rfl, fun row hrow hversion =>
      (nomatch hleft row hrow hversion)⟩
  | row :: rows, w, hrows, hs, hopens, hext, hleft => by
    obtain ⟨hrow, hversion, hreads⟩ := hrows row List.mem_cons_self
    have hsame : ∀ row' ∈ w.1.messages, row'.logicalMessageId = row.logicalMessageId →
        row'.encryptionVersion = 1 → row' = row := fun row' hrow' hid hversion' =>
      Table.eq_of_mem (hext.legacy row' hrow' hversion') hrow hid
    refine Proc.wp.bind (triple_migrateMessage hC nonces hversion hs hopens hsame hreads) ?_
    rintro - ⟨s, client⟩ ⟨hs', hext', hclient, hdone⟩
    dsimp only at hclient
    subst hclient
    refine triple_each hC nonces (w := (s, w.2)) (fun row' hrow' => hrows row' (List.mem_cons_of_mem row hrow')) hs'
      (hopens.mono hext') (hext.trans hext') ?_
    intro row' hrow' hversion'
    rcases List.mem_cons.1 (hleft row' (hext'.legacy row' hrow' hversion') hversion') with rfl | hrest
    · exact absurd hversion' (hdone row' hrow' rfl)
    · exact hrest

theorem triple_migrateLegacyMessages (hC : C.Inverts) {vault : VaultSession} (nonces : String → FixedBytes 24)
    (hs : w.1.Sound C passphrase) (hopens : vault.Opens C passphrase w.1) :
    Triple C passphrase (migrateLegacyMessages C vault nonces) (fun _ w' => w'.1.Sound C passphrase ∧
      vault.Opens C passphrase w'.1 ∧ w'.2 = w.2 ∧ ∀ row ∈ w'.1.messages, row.encryptionVersion ≠ 1) w := by
  unfold Triple migrateLegacyMessages
  refine Proc.wp.bind (I := fun rows w' => w'.1.Sound C passphrase ∧ vault.Opens C passphrase w'.1 ∧ w'.2 = w.2 ∧
    ∀ row, row ∈ rows ↔ row ∈ w'.1.messages ∧ row.encryptionVersion = 1)
    (triple_select hs fun s hs hext => ⟨hs, hopens.mono hext, rfl, fun row => ?_⟩) ?_
  · rw [(List.perm_insertionSort _ _).mem_iff]
    simp [Table.mem_rows]
  · rintro rows ⟨s, client⟩ ⟨hs', hopens', hclient, hrows⟩
    dsimp only at hclient hrows
    subst hclient
    have hlegacy : ∀ row ∈ rows, row ∈ s.messages ∧ row.encryptionVersion = 1 ∧
        ∃ plaintext, Reads C passphrase none (messageAad row.logicalMessageId) row.encryptedBody plaintext 1 := by
      intro row hrow
      obtain ⟨hmem, hversion⟩ := (hrows row).1 hrow
      obtain ⟨plaintext, hreads⟩ := hs'.messages row hmem
      rw [VaultStore.readsMessage_of_mem hmem, hversion] at hreads
      cases hreads with
      | legacy blob hdecode hdecrypt => exact ⟨hmem, hversion, plaintext, .legacy blob hdecode hdecrypt⟩
    refine Proc.wp.bind (triple_each hC nonces (w := (s, w.2)) hlegacy hs' hopens' (.refl s) fun row hrow hversion =>
      (hrows row).2 ⟨hrow, hversion⟩) ?_
    rintro - w' ⟨hs'', hopens'', hclient, hnone⟩
    rw [Proc.wp_pure]
    exact ⟨hs'', hopens'', hclient, hnone⟩

/-- Without legacy rows the migration does nothing. -/
theorem exec_migrateLegacyMessages {s : VaultStore} (h : ∀ row ∈ s.messages, row.encryptionVersion ≠ 1)
    (vault : VaultSession) (nonces : String → FixedBytes 24) (client : VaultClient) :
    (migrateLegacyMessages C vault nonces).exec (s, client) = (.ok 0, (s, client)) := by
  have hnone : (s.messages.rows.filter fun row => decide (row.encryptionVersion = 1)) = [] := by
    rw [List.filter_eq_nil_iff]
    intro row hrow
    simpa using h row hrow
  have hselect : (select fun s => (s.messages.rows.filter fun row => row.encryptionVersion = 1).insertionSort
      fun a b => a.sentAtMs ≤ b.sentAtMs).exec (s, client) = (.ok [], (s, client)) := by
    show (Except.ok (((s.messages.rows.filter fun row => decide (row.encryptionVersion = 1))).insertionSort _), _) = _
    rw [hnone]
    rfl
  unfold migrateLegacyMessages
  rw [Proc.exec_bind, hselect]
  rfl

end VaultM

/-! ## Runs of processes -/

/-- The event writes a profile. -/
def VaultEvent.SavesProfile {ι : Type} : VaultEvent ι → Prop
  | .write _ writes => ∃ nonce plain, .saveProfile nonce plain ∈ writes
  | _ => False

namespace VaultPool

variable {ι : Type}

/-- Every process is right, and every action of its program is one that is guaranteed. -/
structure Sane (C : VaultCrypto) (passphrase : String) (p : VaultPool ι) : Prop where
  sound : p.shared.Sound C passphrase
  guaranteed : p.Guaranteed (VaultRely C passphrase) fun _ => VaultStep C passphrase
  clients : ∀ i, ClientSound C passphrase (p.world i)

theorem writes_extend (hC : C.Inverts) {vault : VaultSession} :
    ∀ {writes : List VaultWrite} {s s' : VaultStore}, s.Sound C passphrase → vault.Opens C passphrase s →
      writes.foldlM (VaultWrite.run C vault) s = .ok s' →
        s'.Sound C passphrase ∧ Extends C passphrase s s' ∧
          ((∀ nonce plain, .saveProfile nonce plain ∉ writes) → Migrates C passphrase s s')
  | [], s, _, hs, _, h => by
    cases h
    exact ⟨hs, .refl s, fun _ => .refl s⟩
  | write :: writes, s, s'', hs, hopens, h => by
    rw [List.foldlM_cons] at h
    cases hwrite : VaultWrite.run C vault s write with
    | error e =>
      rw [hwrite] at h
      cases h
    | ok s' =>
      rw [hwrite] at h
      have hstep : s'.Sound C passphrase ∧ Extends C passphrase s s' ∧
          ((∀ nonce plain, write ≠ .saveProfile nonce plain) → Migrates C passphrase s s') := by
        cases write with
        | saveProfile nonce plain =>
          obtain ⟨hs', hext⟩ := VaultStore.saveProfile_extends hC hs hopens.key hwrite
          exact ⟨hs', hext, fun hnot => absurd rfl (hnot nonce plain)⟩
        | insertMessage id nonce body sentAtMs =>
          obtain ⟨hs', hmigrates⟩ := VaultStore.insertMessage_migrates hC hs hopens.key hwrite
          exact ⟨hs', hmigrates.toExtends, fun _ => hmigrates⟩
      obtain ⟨hs', hext, hmigrates⟩ := hstep
      obtain ⟨hs'', hext', hmigrates'⟩ := writes_extend hC hs' (hopens.mono hext) h
      refine ⟨hs'', hext.trans hext', fun hnot => ⟨hext.trans hext', fun plaintext hreads => ?_⟩⟩
      have hfirst := hmigrates fun nonce plain heq => hnot nonce plain (heq ▸ List.mem_cons_self)
      have hrest := hmigrates' fun nonce plain hmem => hnot nonce plain (List.mem_cons_of_mem write hmem)
      exact hrest.profile plaintext (hfirst.profile plaintext hreads)

variable [DecidableEq ι] {p : VaultPool ι}

omit [DecidableEq ι] in
/-- Others outside the programs move the store. -/
theorem Sane.moved (h : p.Sane C passphrase) {s : VaultStore} (hs : s.Sound C passphrase)
    (hext : Extends C passphrase p.shared s) : Sane C passphrase { p with shared := s } where
  sound := hs
  guaranteed := h.guaranteed.moved fun _ => ⟨hs, hext⟩
  clients i := (h.clients i).mono hext

theorem Sane.start (h : p.Sane C passphrase) {i : ι} {m : VaultM Unit}
    (hm : VaultM.Triple C passphrase m (fun _ _ => True) (p.world i)) : Sane C passphrase (p.start i m) where
  sound := h.sound
  guaranteed := h.guaranteed.start hm
  clients := h.clients

theorem Sane.advance (h : p.Sane C passphrase) (i : ι) :
    Sane C passphrase (p.advance i) ∧ Migrates C passphrase p.shared (p.advance i).shared := by
  obtain ⟨hguaranteed, hstep⟩ :=
    Pool.Guaranteed.advance (fun _ _ _ hG => VaultStep.rely hG) h.guaranteed i
  rcases hstep with ⟨hshared, hlocals⟩ | ⟨hG, hlocals⟩
  · refine ⟨⟨?_, hguaranteed, fun j => ?_⟩, ?_⟩
    · rw [hshared]
      exact h.sound
    · have hworld : (p.advance i).world j = p.world j := by
        unfold Pool.world
        rw [hshared, hlocals]
      rw [hworld]
      exact h.clients j
    · rw [hshared]
      exact .refl _
  · obtain ⟨hsound, hmigrates⟩ := hG.store h.sound
    refine ⟨⟨hsound, hguaranteed, fun j => ?_⟩, hmigrates⟩
    by_cases hj : j = i
    · subst hj
      exact hG.client h.sound (h.clients j)
    · have hlocal : (p.advance i).locals j = p.locals j := (Pool.advance_of_ne hj).2
      show ClientSound C passphrase ((p.advance i).shared, (p.advance i).locals j)
      rw [hlocal]
      exact (h.clients j).mono hmigrates.toExtends

/-- A program that ends in what the process has from then on. -/
theorem triple_record {α : Type} {m : VaultM α} {f : α → VaultClient → VaultClient} {w : VaultStore × VaultClient}
    (h : VaultM.Triple C passphrase m (fun a w' => w'.1.Sound C passphrase ∧ ∀ s, s.Sound C passphrase →
      Extends C passphrase w'.1 s → ClientSound C passphrase (s, w'.2) → ClientSound C passphrase (s, f a w'.2)) w) :
    VaultM.Triple C passphrase (m >>= fun a => .atomically fun w => (.ok (), (w.1, f a w.2))) (fun _ _ => True) w := by
  refine Proc.wp.bind h ?_
  rintro a ⟨s, client⟩ ⟨hs, hclient⟩
  rw [Proc.wp_atomically]
  rintro ⟨s', client'⟩ ⟨hrely, hlocal⟩
  dsimp only at hlocal
  subst hlocal
  obtain ⟨hs', hext⟩ := hrely hs
  refine ⟨⟨fun h => ⟨h, .refl _⟩, fun _ hold => hclient s' hs' hext hold⟩, fun _ _ => trivial, fun _ _ => trivial⟩

theorem wrappedKey_of_opens {s : VaultStore} {vault : VaultSession} (h : vault.Opens C passphrase s) :
    s.wrappedKey.isSome := Option.isSome_iff_ne_none.2 (VaultStore.wrappedKey_ne_none h.key)

theorem step_sane (hC : C.Inverts) (h : p.Sane C passphrase) (e : VaultEvent ι) :
    Sane C passphrase (step C passphrase p e) ∧ Extends C passphrase p.shared (step C passphrase p e).shared ∧
      (¬e.SavesProfile → Migrates C passphrase p.shared (step C passphrase p e).shared) := by
  cases e with
  | unlock i draw profileNonce =>
    refine ⟨h.start ?_, .refl _, fun _ => .refl _⟩
    refine triple_record (f := fun session _ => { session := some session, migrated := none })
      ((VaultM.triple_unlock (w := p.world i) hC draw profileNonce h.sound).mono (fun _ _ hG => hG) ?_
        fun _ _ _ => trivial)
    rintro session w' ⟨hs, hopens, -⟩
    refine ⟨hs, fun s _ hext _ => ⟨fun vault hvault => ?_, fun hsome => (by cases hsome), fun hsome => by cases hsome⟩⟩
    cases hvault
    exact hopens.mono hext
  | migrate i nonces =>
    cases hsession : (p.locals i).session with
    | none =>
      simp only [step, hsession]
      exact ⟨h, .refl _, fun _ => .refl _⟩
    | some vault =>
      simp only [step, hsession]
      have hopens : vault.Opens C passphrase p.shared := (h.clients i).session vault hsession
      refine ⟨h.start ?_, .refl _, fun _ => .refl _⟩
      refine triple_record (f := fun migrated client => { client with migrated := some migrated })
        ((VaultM.triple_migrateLegacyMessages (w := p.world i) hC nonces h.sound hopens).mono (fun _ _ hG => hG) ?_
          fun _ _ _ => trivial)
      rintro migrated w' ⟨hs, hopens', -, hnone⟩
      refine ⟨hs, fun s _ hext hold => ⟨hold.session, fun _ row hrow hversion => ?_, fun _ => ?_⟩⟩
      · exact hnone row (hext.legacy row hrow hversion) hversion
      · exact wrappedKey_of_opens (hopens'.mono hext)
  | advance i =>
    obtain ⟨hsane, hmigrates⟩ := h.advance i
    exact ⟨hsane, hmigrates.toExtends, fun _ => hmigrates⟩
  | stop i =>
    refine ⟨⟨h.sound, fun j m hm => ?_, h.clients⟩, .refl _, fun _ => .refl _⟩
    have htask : p.tasks j = some m := by
      by_cases hj : j = i
      · subst hj
        simp [step] at hm
      · simpa [step, Function.update_of_ne hj] using hm
    exact h.guaranteed j m htask
  | write i writes =>
    cases hsession : (p.locals i).session with
    | none =>
      simp only [step, hsession]
      exact ⟨h, .refl _, fun _ => .refl _⟩
    | some vault =>
      cases hwrites : writes.foldlM (VaultWrite.run C vault) p.shared with
      | error e =>
        simp only [step, hsession, hwrites]
        exact ⟨h, .refl _, fun _ => .refl _⟩
      | ok s =>
        simp only [step, hsession, hwrites]
        have hopens : vault.Opens C passphrase p.shared := (h.clients i).session vault hsession
        obtain ⟨hs, hext, hmigrates⟩ := writes_extend hC h.sound hopens hwrites
        refine ⟨h.moved hs hext, hext, fun hnot => hmigrates fun nonce plain hmem => hnot ⟨nonce, plain, hmem⟩⟩
  | crash =>
    refine ⟨⟨h.sound, fun j m hm => (by cases hm), fun j => ?_⟩, .refl _, fun _ => .refl _⟩
    exact ⟨fun vault hvault => (by cases hvault), fun hsome => (by cases hsome), fun hsome => by cases hsome⟩

theorem run_sane (hC : C.Inverts) : ∀ {events : List (VaultEvent ι)} {p : VaultPool ι}, p.Sane C passphrase →
    Sane C passphrase (run C passphrase p events) ∧ Extends C passphrase p.shared (run C passphrase p events).shared ∧
      ((∀ e ∈ events, ¬e.SavesProfile) → Migrates C passphrase p.shared (run C passphrase p events).shared)
  | [], p, h => ⟨h, .refl _, fun _ => .refl _⟩
  | e :: events, p, h => by
    obtain ⟨hsane, hext, hmigrates⟩ := step_sane hC h e
    obtain ⟨hsane', hext', hmigrates'⟩ := @run_sane hC events _ hsane
    refine ⟨hsane', hext.trans hext', fun hnot => ⟨hext.trans hext', fun plaintext hreads => ?_⟩⟩
    have hfirst := hmigrates (hnot e List.mem_cons_self)
    have hrest := hmigrates' fun e' he' => hnot e' (List.mem_cons_of_mem e he')
    exact hrest.profile plaintext (hfirst.profile plaintext hreads)

end VaultPool

/-! ## Legacy stores -/

/-- A store of before the vault: the profile and the messages are encrypted under the passphrase. -/
structure VaultStore.Legacy (C : VaultCrypto) (passphrase : String) (s : VaultStore) : Prop where
  wrappedKey : s.wrappedKey = none
  profile : ∀ row ∈ s.profile, row.encryptionVersion = 1 ∧
    ∃ plaintext, EncryptedUnder C passphrase profileAad row.encryptedBlob plaintext
  messages : ∀ row ∈ s.messages, row.encryptionVersion = 1 ∧
    ∃ plaintext, EncryptedUnder C passphrase (messageAad row.logicalMessageId) row.encryptedBody plaintext

namespace VaultStore.Legacy

variable {s : VaultStore}

theorem readsMessage (hC : C.Inverts) (h : s.Legacy C passphrase) {row : MessageRow} (hrow : row ∈ s.messages)
    {plaintext : Bytes}
    (hplain : EncryptedUnder C passphrase (messageAad row.logicalMessageId) row.encryptedBody plaintext) :
    s.ReadsMessage C passphrase row.logicalMessageId plaintext := by
  rw [readsMessage_of_mem hrow, (h.messages row hrow).1]
  exact hplain.reads hC

theorem readsProfile (hC : C.Inverts) (h : s.Legacy C passphrase) {row : ProfileRow} (hrow : s.profile = some row)
    {plaintext : Bytes} (hplain : EncryptedUnder C passphrase profileAad row.encryptedBlob plaintext) :
    s.ReadsProfile C passphrase plaintext := by
  refine ⟨row, hrow, ?_⟩
  rw [(h.profile row hrow).1]
  exact hplain.reads hC

theorem sound (hC : C.Inverts) (h : s.Legacy C passphrase) : s.Sound C passphrase where
  dataKey hsome := by
    rw [h.wrappedKey] at hsome
    cases hsome
  profile hsome := by
    obtain ⟨row, hrow⟩ := Option.isSome_iff_exists.1 hsome
    obtain ⟨-, plaintext, hplain⟩ := h.profile row hrow
    exact ⟨plaintext, h.readsProfile hC hrow hplain⟩
  migrated hsome := by
    rw [h.wrappedKey] at hsome
    cases hsome
  messages row hrow := by
    obtain ⟨-, plaintext, hplain⟩ := h.messages row hrow
    exact ⟨plaintext, h.readsMessage hC hrow hplain⟩

end VaultStore.Legacy

/-- In any run of any processes on a legacy store, with ends of programs and crashes anywhere and with messages
written meanwhile: a session that an unlock gave reads the plaintext of every message of the legacy store, that of
its profile unless a profile was saved, and every message there is. After a completed migration there is no
legacy row, and where no message is a legacy row a migration does nothing. -/
theorem vault_migration (hC : C.Inverts) {ι : Type} [DecidableEq ι] {s : VaultStore} (h : s.Legacy C passphrase)
    (events : List (VaultEvent ι)) :
    let p := VaultPool.run C passphrase (VaultPool.closed s) events
    (∀ i, ∀ vault ∈ (p.locals i).session,
      (∀ row ∈ s.profile, ∀ plaintext, EncryptedUnder C passphrase profileAad row.encryptedBlob plaintext →
        (∀ e ∈ events, ¬e.SavesProfile) → p.shared.openProfile C vault = .ok (some plaintext)) ∧
      (∀ row ∈ s.messages, ∀ plaintext,
        EncryptedUnder C passphrase (messageAad row.logicalMessageId) row.encryptedBody plaintext →
          p.shared.openMessage C vault row.logicalMessageId = .ok (some plaintext)) ∧
      ∀ row ∈ p.shared.messages, ∃ plaintext,
        p.shared.openMessage C vault row.logicalMessageId = .ok (some plaintext)) ∧
    (∀ i, (p.locals i).migrated.isSome → p.shared.legacyProfiles + p.shared.legacyMessages = 0) ∧
    (p.shared.legacyMessages = 0 → ∀ vault nonces client,
      (VaultM.migrateLegacyMessages C vault nonces).exec (p.shared, client) = (.ok 0, (p.shared, client))) := by
  have hclosed : VaultPool.Sane C passphrase (VaultPool.closed s : VaultPool ι) :=
    ⟨h.sound hC, fun _ _ hm => (nomatch hm), fun _ => ⟨fun _ hvault => (nomatch hvault),
      fun hsome => (nomatch hsome), fun hsome => (nomatch hsome)⟩⟩
  obtain ⟨hsane, hext, hmigrates⟩ := @VaultPool.run_sane C passphrase _ _ hC events _ hclosed
  refine ⟨fun i vault hvault => ?_, fun i hsome => ?_, fun hzero vault nonces client => ?_⟩
  · have hopens : vault.Opens C passphrase _ := (hsane.clients i).session vault hvault
    refine ⟨fun row hrow plaintext hplain hnot => ?_, fun row hrow plaintext hplain => ?_, fun row hrow => ?_⟩
    · exact hopens.openProfile hsane.sound ((hmigrates hnot).profile plaintext (h.readsProfile hC hrow hplain))
    · exact hopens.openMessage (hext.messages _ plaintext (h.readsMessage hC hrow hplain))
    · obtain ⟨plaintext, hreads⟩ := hsane.sound.messages row hrow
      exact ⟨plaintext, hopens.openMessage hreads⟩
  · have hclient := hsane.clients i
    have hmessages : (VaultPool.run C passphrase (VaultPool.closed s : VaultPool ι) events).shared.legacyMessages = 0 :=
      Table.count_eq_zero fun row hrow => by simpa using hclient.migrated hsome row hrow
    have hprofiles :
        (VaultPool.run C passphrase (VaultPool.closed s : VaultPool ι) events).shared.legacyProfiles = 0 := by
      unfold VaultStore.legacyProfiles
      rw [List.length_eq_zero_iff, List.filter_eq_nil_iff]
      intro row hrow
      have hversion := hsane.sound.migrated (hclient.vault hsome) row (Option.mem_toList.1 hrow)
      simp [hversion]
    omega
  · refine VaultM.exec_migrateLegacyMessages (fun row hrow hversion => ?_) vault nonces client
    have hpos := VaultStore.legacyMessages_pos hrow hversion
    omega

end Programs

namespace Scenario.Vault

def fixed (n : Nat) (b : UInt8) : FixedBytes n := ⟨List.replicate n b, List.length_replicate⟩

/-- The tag of a ciphertext. -/
def tag (key : FixedBytes 32) (aad : Bytes) : Bytes := [key.1.headD 0, checksum aad]

/-- Keys are a checksum of the passphrase, and a ciphertext is the plaintext with a tag. -/
def crypto : VaultCrypto where
  hashPasswordInto passphrase _ := .ok (fixed 32 (checksum passphrase))
  aeadEncrypt key _ aad plaintext := some (plaintext ++ tag key aad)
  aeadDecrypt key _ aad ciphertext :=
    if ciphertext.drop (ciphertext.length - 2) = tag key aad then some (ciphertext.take (ciphertext.length - 2)) else none
  blobFromSlice _ := .error "expected value"
  wrappedFromSlice _ := .error "expected value"
  bytesFromSlice _ := .error "expected value"

theorem crypto_inverts : crypto.Inverts := by
  intro key nonce aad plaintext ciphertext h
  cases h
  have hlength : (plaintext ++ tag key aad).length - 2 = plaintext.length := by
    simp [tag]
  show (if (plaintext ++ tag key aad).drop ((plaintext ++ tag key aad).length - 2) = tag key aad then _ else none) = _
  rw [hlength, List.drop_left, if_pos rfl, List.take_left]

/-- What `encrypt_blob` made of a plaintext. -/
def legacyBlob (aad plaintext : Bytes) : EncryptedBlob where
  version := 1
  salt := fixed 16 3
  nonce := fixed 24 4
  ciphertext := plaintext ++ tag (fixed 32 (checksum (utf8 "correct horse"))) aad

theorem encryptedUnder_legacyBlob (aad plaintext : Bytes) :
    EncryptedUnder crypto "correct horse" aad (legacyBlob aad plaintext).toBytes plaintext :=
  ⟨fixed 16 3, fixed 24 4, legacyBlob aad plaintext, rfl, decodeEncryptedBlob_toBytes crypto _⟩

def legacyMessage (id : String) (body : Bytes) (sentAtMs : Int) : MessageRow where
  logicalMessageId := id
  encryptedBody := (legacyBlob (messageAad id) body).toBytes
  sentAtMs
  encryptionVersion := 1

/-- A profile and two messages. -/
def store : VaultStore where
  wrappedKey := none
  profile := some { encryptedBlob := (legacyBlob profileAad [123, 125]).toBytes, encryptionVersion := 1 }
  messages := ((∅ : Table MessageRow.logicalMessageId).insertOrIgnore (legacyMessage "m1" [104, 105] 10)).insertOrIgnore
    (legacyMessage "m2" [104, 111] 20)

theorem store_messages {row : MessageRow} (h : row ∈ store.messages) :
    row = legacyMessage "m1" [104, 105] 10 ∨ row = legacyMessage "m2" [104, 111] 20 := by
  rcases Table.mem_insertOrIgnore.1 h with h | ⟨rfl, -⟩
  · rcases Table.mem_insertOrIgnore.1 h with h | ⟨rfl, -⟩
    · exact absurd h (Table.not_mem_empty row)
    · exact .inl rfl
  · exact .inr rfl

theorem store_legacy : store.Legacy crypto "correct horse" where
  wrappedKey := rfl
  profile row hrow := by
    cases hrow
    exact ⟨rfl, _, encryptedUnder_legacyBlob profileAad [123, 125]⟩
  messages row hrow := by
    rcases store_messages hrow with rfl | rfl
    · exact ⟨rfl, _, encryptedUnder_legacyBlob (messageAad "m1") [104, 105]⟩
    · exact ⟨rfl, _, encryptedUnder_legacyBlob (messageAad "m2") [104, 111]⟩

def draw : VaultDraw where
  dataKey := fixed 32 7
  salt := fixed 16 5
  nonce := fixed 24 6

/-- The first migration crashes between its two messages, after a message was written, and the second one
completes. -/
def events : List (VaultEvent Nat) :=
  .unlock 0 draw (fixed 24 8) :: List.replicate 7 (.advance 0) ++
  .migrate 0 (fun _ => fixed 24 9) :: List.replicate 2 (.advance 0) ++
  [.write 0 [.insertMessage "m3" (fixed 24 1) [111, 107] 30], .crash] ++
  .unlock 0 draw (fixed 24 8) :: List.replicate 4 (.advance 0) ++
  .migrate 0 (fun _ => fixed 24 2) :: List.replicate 4 (.advance 0)

theorem vault_migration_crash :
    let p := VaultPool.run crypto "correct horse" (VaultPool.closed store) events
    (p.locals 0).session.isSome ∧
    (∀ vault ∈ (p.locals 0).session,
      p.shared.openMessage crypto vault "m1" = .ok (some [104, 105]) ∧
      p.shared.openMessage crypto vault "m2" = .ok (some [104, 111])) ∧
    ((p.locals 0).migrated.isSome → p.shared.legacyProfiles + p.shared.legacyMessages = 0) := by
  obtain ⟨hreads, hdone, -⟩ := vault_migration crypto_inverts store_legacy events
  refine ⟨by decide, fun vault hvault => ?_, hdone 0⟩
  obtain ⟨-, hmessages, -⟩ := hreads 0 vault hvault
  have hfirst : legacyMessage "m1" [104, 105] 10 ∈ store.messages :=
    Table.mem_insertOrIgnore.2 (.inl (Table.mem_insertOrIgnore.2 (.inr ⟨rfl, fun _ h => nomatch h⟩)))
  have hsecond : legacyMessage "m2" [104, 111] 20 ∈ store.messages.rows := by decide
  exact ⟨hmessages _ hfirst _ (encryptedUnder_legacyBlob (messageAad "m1") [104, 105]),
    hmessages _ hsecond _ (encryptedUnder_legacyBlob (messageAad "m2") [104, 111])⟩

example : ((VaultPool.run crypto "correct horse" (VaultPool.closed store) events).locals 0).migrated = some 1 := by
  decide

end Scenario.Vault

end TuiChat
