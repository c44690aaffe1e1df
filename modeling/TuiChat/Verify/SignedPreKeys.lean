import TuiChat.Server.Roster
import TuiChat.Verify.PreKeys
import TuiChat.Verify.ServerScenario

/-!
# The signatures of prekeys

`PublishPreKeys` checks each key under the device's row before it stores it; `BootstrapDevice` stores the
keys of its frame unchecked. Where a connection stores keys that pass the check under the signing key that
the device's row has then (`SignsPreKeys`), every key that a claim hands over passes it under the signing
key handed over with it (`claimed_prekeys_verify`). A new device's own keys need not (`unsigned_first`).
-/

namespace TuiChat

open Lib

variable {env : ServerEnvironment} {P : Primitives}

instance (P : Primitives) (authSigningKey : Bytes) (key : OneTimeKey) :
    Decidable (key.Checked P authSigningKey) :=
  decidable_of_iff (key.keyId ≠ "" ∧ (Wire.utf8 key.keyId).length ≤ 64 ∧ key.curve25519Key.length = 32 ∧
      key.signature.length = 64 ∧ Ws.verifyPrekey P authSigningKey key = .ok ())
    ⟨fun ⟨h₁, h₂, h₃, h₄, h₅⟩ => ⟨h₁, h₂, h₃, h₄, h₅⟩, fun ⟨h₁, h₂, h₃, h₄, h₅⟩ => ⟨h₁, h₂, h₃, h₄, h₅⟩⟩

def Db.signingKey (db : Db) (deviceId : String) : Option Bytes :=
  (db.devices.find deviceId).map DeviceRow.authSigningKey

/-- Where a step stores prekeys of the session's device, the device's row has the signing key that they
were checked under: that of the row the handler of `PublishPreKeys` has read, or that of a `BootstrapDevice`
whose one-time keys pass the check under it. -/
def SignsPreKeys (P : Primitives) (s : AppState) (c : Connection) (s' : AppState) : Prop :=
  (∃ row ∈ s'.db.prekeys.rows, row ∉ s.db.prekeys.rows) →
    match c.session, c.handling with
    | some session, some (.publishPreKeys _) =>
      s.db.signingKey session.deviceId = c.foundDevice.map DeviceRow.authSigningKey
    | some session, some (.bootstrapDevice m) =>
      s.db.signingKey session.deviceId = some m.authSigningKey ∧
        ∀ key ∈ m.oneTimeKeys, key.Checked P m.authSigningKey
    | _, _ => True

instance (s : AppState) (c : Connection) (s' : AppState) : Decidable (SignsPreKeys P s c s') := by
  unfold SignsPreKeys
  refine @instDecidableForall _ _ inferInstance ?_
  split <;> infer_instance

/-! ## Writes -/

open Db in
/-- Accounts go away by the deletion of a user only. -/
theorem Writes.accounts {had : Db → Prop} {c : Connection} {db db' : Db} (h : Writes env P had c db db') :
    (∀ a, (db.accounts.find a).isSome → (db'.accounts.find a).isSome) ∨
      ∃ accountId, db' = db.deleteUserRecords accountId := by
  have updated : ∀ {p : AccountRow → Bool} {f : AccountRow → AccountRow} (hf : ∀ row, (f row).id = row.id)
      (a : String), (db.accounts.find a).isSome → ((db.accounts.update p f hf).find a).isSome := by
    intro p f hf a ha
    rwa [Table.find_update hf, Option.isSome_map]
  cases h with
  | deleted accountId => exact .inr ⟨accountId, rfl⟩
  | password | userState | passwordReset => exact .inl (updated (by intro; rfl))
  | claimed s m session pending certificate write =>
    obtain ⟨-, rfl⟩ := bootstrapMaster_eq_ok.1 write
    exact .inl (updated (by intro; rfl))
  | activated s id m bundle master session active received device pairing key certificate submitted write =>
    obtain ⟨-, -, rfl⟩ := activateDevice_eq_ok.1 write
    exact .inl (updated (by intro; rfl))
  | devicesReset username write =>
    obtain ⟨account, -, rfl⟩ := resetDevices_eq_ok.1 write
    exact .inl (updated (by intro; rfl))
  | added id username phc write =>
    obtain ⟨-, -, rfl⟩ := addAccount_eq_ok.1 write
    refine .inl fun a ha => ?_
    obtain ⟨row, hrow⟩ := Option.isSome_iff_exists.1 ha
    have hmem : row ∈ db.accounts.insertOrIgnore (AccountRow.added id username phc) :=
      Table.mem_insertOrIgnore_of_mem (Table.mem_of_find hrow)
    rw [← Table.key_of_find hrow]
    exact Option.isSome_iff_exists.2 ⟨row, Table.find_of_mem hmem⟩
  | inserted s m pendingRow now session pending device certificate key write =>
    obtain ⟨-, -, rfl⟩ := insertDevice_eq_ok.1 write
    exact .inl fun _ h => h
  | prekeys s keys now session write source =>
    obtain ⟨-, rfl⟩ := publishPreKeys_eq_ok.1 write
    exact .inl fun _ h => h
  | prekeyClaimed accountId deviceId =>
    obtain ⟨_, hdb⟩ := claimPreKey_snd db accountId deviceId
    rw [hdb]
    exact .inl fun _ h => h
  | stored s m now free session active write =>
    obtain ⟨_, _, _, _, hdb⟩ := storeEnvelopes_aside write
    rw [hdb]
    exact .inl fun _ h => h
  | acked s id m now session active received =>
    unfold Db.ack
    split <;> exact .inl fun _ h => h
  | pairing s e expiresAtMs session size type write =>
    obtain ⟨-, -, rfl⟩ := insertPairingEvent_eq_ok.1 write
    exact .inl fun _ h => h
  | revokedOwn s deviceId session active other =>
    rw [markRevoked_snd]
    exact .inl fun _ h => h
  | authenticated | pairingAcked | cleanedDevice | cleanedDelivered | cleanedPairing | audited | revoked
  | pruned => exact .inl fun _ h => h

open Db in
/-- Prekeys are stored by the publications of a session only. -/
theorem Writes.prekeys_published {had : Db → Prop} {c : Connection} {db db' : Db}
    (h : Writes env P had c db db') : (∀ row ∈ db'.prekeys, row ∈ db.prekeys) ∨
      ∃ session keys now, c.session = some session ∧
        db.publishPreKeys session.deviceId keys now = .ok db' ∧ PreKeySource P c keys := by
  rcases h.preKeyStep [] [] with ⟨op, st', hstep, rfl, hsource⟩ | ⟨p, hprekeys⟩
  · cases hstep with
    | published write =>
      obtain ⟨source, session, current, rfl⟩ := hsource _ _ _ rfl
      exact .inr ⟨session, _, _, current, write, source⟩
    | claimed =>
      rename_i accountId deviceId
      obtain ⟨p, hclaim⟩ := claimPreKey_snd db accountId deviceId
      refine .inl fun row hrow => ?_
      rw [hclaim] at hrow
      exact (Table.mem_delete.1 hrow).1
    | other prekeys => exact .inl fun row hrow => prekeys ▸ hrow
  · exact .inl fun row hrow => (Table.mem_delete.1 (hprekeys ▸ hrow)).1

/-! ## The invariant -/

/-- Every stored key is of a device, under whose signing key it passes the check. -/
def Db.Signed (P : Primitives) (db : Db) : Prop :=
  ∀ row ∈ db.prekeys, ∃ authSigningKey, db.signingKey row.deviceId = some authSigningKey ∧
    row.key.Checked P authSigningKey

theorem Db.signingKey_eq {db : Db} {deviceId : String} {authSigningKey : Bytes} :
    db.signingKey deviceId = some authSigningKey ↔
      ∃ row, db.roster.device deviceId = some row ∧ row.authSigningKey = authSigningKey := by
  simp [signingKey, roster, DeviceRow.lasting]

/-- A device of an account that stays keeps its signing key. -/
theorem Writes.signingKey_kept {had : Db → Prop} {c : Connection} {db db' : Db} (h : Writes env P had c db db')
    (linked : db.roster.Linked) (accounts : ∀ a, (db.accounts.find a).isSome → (db'.accounts.find a).isSome)
    {deviceId : String} {authSigningKey : Bytes} (hkey : db.signingKey deviceId = some authSigningKey) :
    db'.signingKey deviceId = some authSigningKey := by
  obtain ⟨row, hrow, rfl⟩ := Db.signingKey_eq.1 hkey
  have haccount : (db'.roster.master row.accountId).isSome := by
    rw [Db.roster_master]
    exact accounts _ (Db.roster_master.symm.trans (linked deviceId row hrow))
  obtain ⟨row', hrow', hsame, -⟩ := h.roster.lasts hrow haccount
  exact Db.signingKey_eq.2 ⟨row', hrow', hsame.authSigningKey⟩

/-- The keys of a deleted account's devices go with it. -/
theorem Db.Signed.deleted {db : Db} (h : db.Signed P) (accountId : String) :
    (db.deleteUserRecords accountId).Signed P := by
  intro row hrow
  obtain ⟨hmem, hother⟩ := Table.mem_delete.1 hrow
  obtain ⟨authSigningKey, hkey, hchecked⟩ := h row hmem
  refine ⟨authSigningKey, ?_, hchecked⟩
  obtain ⟨device, hdevice, rfl⟩ := Option.map_eq_some_iff.1 hkey
  have hne : device.accountId ≠ accountId := by
    intro hown
    simp [Db.device, hdevice, hown] at hother
  have hkept : (db.devices.delete fun row => row.accountId = accountId).find row.deviceId = some device := by
    rw [Table.find_delete, hdevice]
    simp [hne]
  exact Option.map_eq_some_iff.2 ⟨device, hkept, rfl⟩

theorem Writes.signed {s : AppState} {c : Connection} {db' : Db} {log : List ServerEvent} {n : Nat}
    (h : Writes env P s.Had c s.db db') (linked : s.db.roster.Linked) (hs : s.db.Signed P)
    (guard : SignsPreKeys P s c { s with db := db', past := s.db :: s.past, tick := n, log := log }) :
    db'.Signed P := by
  rcases h.accounts with haccounts | ⟨accountId, rfl⟩
  · have hkept : ∀ row ∈ s.db.prekeys, ∃ authSigningKey, db'.signingKey row.deviceId = some authSigningKey ∧
        row.key.Checked P authSigningKey := by
      intro row hrow
      obtain ⟨authSigningKey, hkey, hchecked⟩ := hs row hrow
      exact ⟨authSigningKey, h.signingKey_kept linked haccounts hkey, hchecked⟩
    rcases h.prekeys_published with hsub | ⟨session, keys, now, current, write, source⟩
    · exact fun row hrow => hkept row (hsub row hrow)
    · intro row hrow
      by_cases hold : row ∈ s.db.prekeys
      · exact hkept row hold
      · obtain ⟨-, hdb⟩ := Db.publishPreKeys_eq_ok.1 write
        have hmem : row ∈ withPreKeys s.db.prekeys session.deviceId now keys := by
          rw [hdb] at hrow
          exact hrow
        rcases mem_withPreKeys hmem with hmem | ⟨key, hin, rfl⟩
        · exact absurd hmem hold
        have hguard := guard ⟨_, hrow, hold⟩
        cases source with
        | published m device handling read checked =>
          simp only [current, handling, read] at hguard
          exact ⟨_, h.signingKey_kept linked haccounts hguard, checked key hin⟩
        | bootstrapped m handling =>
          simp only [current, handling] at hguard
          exact ⟨_, h.signingKey_kept linked haccounts hguard.1, hguard.2 key hin⟩
  · exact hs.deleted accountId

/-! ## Claims -/

/-- A key is handed over with the signing key of its device. -/
theorem Db.Signed.claimed {db db' : Db} {accountId deviceId : String} {bundle : DeviceBundle} {key : OneTimeKey}
    (h : db.Signed P) (hclaim : db.claimPreKey accountId deviceId = (some (bundle, key), db')) :
    key.Checked P bundle.authSigningKey := by
  unfold claimPreKey at hclaim
  split at hclaim
  · cases hclaim
  split at hclaim
  · cases hclaim
  · next device hdevice _ row hrow =>
    cases hclaim
    have hmem : row ∈ (db.prekeys.rows.filter fun row => row.deviceId = deviceId) :=
      (List.mem_insertionSort _).1 (List.mem_of_mem_head? hrow)
    obtain ⟨hmem, hof⟩ := List.mem_filter.1 hmem
    obtain ⟨authSigningKey, hkey, hchecked⟩ := h row hmem
    obtain ⟨hfound, -⟩ := Option.filter_eq_some_iff.1 hdevice
    obtain ⟨hfind, -⟩ := Option.filter_eq_some_iff.1 hfound
    rw [of_decide_eq_true hof, signingKey, hfind] at hkey
    cases hkey
    exact hchecked

/-- In a run in which no step stores unsigned keys, what a claim hands over passes the check under the
signing key of the device that it hands over. -/
theorem claimed_prekeys_verify {p : Cluster}
    (h : (serverSystem env P).ReachableUnder (Cluster.Meets (SignsPreKeys P)) p) {accountId deviceId : String}
    {bundle : DeviceBundle} {key : OneTimeKey} {db' : Db}
    (hclaim : p.shared.db.claimPreKey accountId deviceId = (some (bundle, key), db')) :
    key.Checked P bundle.authSigningKey := by
  have hinv : p.shared.db.roster.Linked ∧ p.shared.db.Signed P := by
    refine Cluster.invariant_under (I := fun s _ => s.db.roster.Linked ∧ s.db.Signed P) h ⟨nofun, ?_⟩
      (fun i s cs s' c' ⟨hlinked, hsigned⟩ guard hs => ?_) fun _ _ hI => hI
    · exact fun row hrow => absurd hrow (Table.not_mem_empty row)
    · cases hs with
      | wrote log events write stored acknowledged recorded =>
        exact ⟨write.roster.linked hlinked, write.signed hlinked hsigned guard⟩
      | _ => exact ⟨hlinked, hsigned⟩
  exact hinv.2.claimed hclaim

namespace Scenario.UnsignedPreKeys

/-- Alice's first device submits itself with a one-time key. -/
def submitted (key : OneTimeKey) : List Move :=
  [.command 99 (.userAdd "alice" password), .frame 0 (helloOf "alice" (uuid 'a')),
    .frame 0 (passwordOf "alice" (uuid 'a')),
    .frame 0 (match bootstrapOf (uuid '1') (uuid 'a') 1 2 with
      | .bootstrapDevice m => .bootstrapDevice { m with oneTimeKeys := [key] }
      | body => body)]

/-- The key that is then claimed, with the signing key that comes with it. -/
def claimed (key : OneTimeKey) : Option (Bytes × OneTimeKey) :=
  ((clusterAfter (submitted key)).shared.db.claimPreKey (uuid '1') (uuid 'a')).1.map fun r =>
    (r.1.authSigningKey, r.2)

def unsigned : OneTimeKey := { keyId := "", curve25519Key := [], signature := [] }

/-- Nobody can use the key that is handed over. -/
theorem unsigned_first : (serverSystem server primitives).Reachable (clusterAfter (submitted unsigned)) ∧
    ∃ bundle key db', (clusterAfter (submitted unsigned)).shared.db.claimPreKey (uuid '1') (uuid 'a') =
      (some (bundle, key), db') ∧ ¬key.Checked primitives bundle.authSigningKey := by
  have hclaimed : claimed unsigned = some (bytes32 2, unsigned) := by decide +kernel
  obtain ⟨⟨bundle, key⟩, hr, heq⟩ := Option.map_eq_some_iff.1 hclaimed
  obtain ⟨-, rfl⟩ := Prod.mk.inj heq
  exact ⟨clusterAfter_reachable _, bundle, unsigned, _, Prod.ext hr rfl, fun hchecked => hchecked.named rfl⟩

theorem claimed_prekeys_verify_signed :
    claimed (RestoredKeys.oneTimeKey "AAAAAQ" 7) = some (bytes32 2, RestoredKeys.oneTimeKey "AAAAAQ" 7) ∧
      (RestoredKeys.oneTimeKey "AAAAAQ" 7).Checked primitives (bytes32 2) := by
  have hclaimed : claimed (RestoredKeys.oneTimeKey "AAAAAQ" 7) =
      some (bytes32 2, RestoredKeys.oneTimeKey "AAAAAQ" 7) := by decide +kernel
  refine ⟨hclaimed, ?_⟩
  obtain ⟨⟨bundle, key⟩, hr, heq⟩ := Option.map_eq_some_iff.1 hclaimed
  obtain ⟨hkey, rfl⟩ := Prod.mk.inj heq
  rw [← hkey]
  exact claimed_prekeys_verify (clusterAfter_under (by decide +kernel)) (Prod.ext hr rfl)

end Scenario.UnsignedPreKeys

end TuiChat
