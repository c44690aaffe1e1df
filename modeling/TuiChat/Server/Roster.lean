import TuiChat.Server.Runs
import TuiChat.Server.Envelopes

/-!
# Accounts and their devices

A `Roster` is what the database says of accounts and devices, less what no check reads: the master key
of an account, and the row of a device. Every write of the server is a `RosterStep`
(`Writes.roster`). Accounts go away with all their devices, and other devices stay and keep their keys
(`RosterStep.lasts`), so that what was once read of a device still holds of it (`Registered`).
-/

namespace TuiChat

open Lib

variable {env : ServerEnvironment} {P : Primitives}

structure Roster where
  master : String → Option (Option Bytes)
  device : String → Option DeviceRow

/-- The row of a device, less the time that its authentications change. -/
def DeviceRow.lasting (row : DeviceRow) : DeviceRow := { row with lastAuthenticatedAtMs := none }

/-- The row's certificate is one of the master key. -/
def DeviceRow.CertifiedBy (P : Primitives) (master : Bytes) (row : DeviceRow) : Prop :=
  Ws.verifyDeviceCertificate P master row.accountId row.bundle = .ok ()

/-- The rows are of one device, with the same keys. -/
structure DeviceRow.SameKeys (row row' : DeviceRow) : Prop where
  accountId : row'.accountId = row.accountId
  authSigningKey : row'.authSigningKey = row.authSigningKey
  olmEd25519Key : row'.olmEd25519Key = row.olmEd25519Key
  olmCurve25519Key : row'.olmCurve25519Key = row.olmCurve25519Key

theorem DeviceRow.SameKeys.refl (row : DeviceRow) : row.SameKeys row := ⟨rfl, rfl, rfl, rfl⟩

theorem DeviceRow.SameKeys.trans {row row' row'' : DeviceRow} (h : row.SameKeys row')
    (h' : row'.SameKeys row'') : row.SameKeys row'' :=
  ⟨h'.accountId.trans h.accountId, h'.authSigningKey.trans h.authSigningKey,
    h'.olmEd25519Key.trans h.olmEd25519Key, h'.olmCurve25519Key.trans h.olmCurve25519Key⟩

def Db.roster (db : Db) : Roster where
  master accountId := (db.accounts.find accountId).map AccountRow.masterPublicKey
  device deviceId := (db.devices.find deviceId).map DeviceRow.lasting

/-- The key that a connection certifies devices with: the one its session has of the account, or the one
its own frame has claimed. -/
def Connection.workingKey (c : Connection) : Option Bytes :=
  (c.session.bind fun s => s.account.masterPublicKey).or c.claimedKey

/-! ## Steps -/

open Function (update) in
/-- What a write does to the roster, for a connection that works with `key`. -/
inductive RosterStep (P : Primitives) (had : Db → Prop) (key : Option Bytes) (r : Roster) : Roster → Prop
  | aside : RosterStep P had key r r
  | added (accountId : String) (fresh : r.master accountId = none) :
    RosterStep P had key r { r with master := update r.master accountId (some none) }
  | claimed (accountId : String) (master : Bytes) (keyless : r.master accountId = some none) :
    RosterStep P had key r { r with master := update r.master accountId (some (some master)) }
  | inserted (row : DeviceRow) (account : (r.master row.accountId).isSome) (fresh : r.device row.id = none)
      (certified : row.pending = false → ∃ master, key = some master ∧ row.CertifiedBy P master) :
    RosterStep P had key r { r with device := update r.device row.id (some row) }
  | activated (row : DeviceRow) (bundle : DeviceBundle) (master : Bytes) (account : (r.master row.accountId).isSome)
      (found : r.device row.id = some row)
      (pending : row.pending = true) (device : bundle.deviceId = row.id)
      (submitted : SubmittedIn had row.accountId bundle) (working : key = some master)
      (certificate : Ws.verifyDeviceCertificate P master row.accountId bundle = .ok ()) :
    RosterStep P had key r { r with
      device := update r.device row.id
        (some { row with pending := false, certificateSignature := bundle.certificateSignature }) }
  | revoked (p : DeviceRow → Bool) :
    RosterStep P had key r { r with
      device := fun d => (r.device d).map fun row => if p row then { row with revoked := true } else row }
  | reset (accountId : String) (account : (r.master accountId).isSome) :
    RosterStep P had key r
      { master := update r.master accountId (some none)
        device := fun d => (r.device d).map fun row =>
          if row.accountId = accountId then { row with revoked := true } else row }
  | deleted (accountId : String) :
    RosterStep P had key r
      { master := update r.master accountId none
        device := fun d => (r.device d).filter fun row => row.accountId ≠ accountId }

namespace Db

variable {db db' : Db}

theorem roster_device {d : String} {row : DeviceRow} :
    db.roster.device d = some row ↔ ∃ stored ∈ db.devices, stored.id = d ∧ row = stored.lasting := by
  constructor
  · intro h
    obtain ⟨stored, hfind, rfl⟩ := Option.map_eq_some_iff.1 h
    exact ⟨stored, Table.mem_of_find hfind, Table.key_of_find hfind, rfl⟩
  · rintro ⟨stored, hmem, rfl, rfl⟩
    exact Option.map_eq_some_iff.2 ⟨stored, Table.find_of_mem hmem, rfl⟩

theorem roster_master {accountId : String} :
    (db.roster.master accountId).isSome = (db.accounts.find accountId).isSome := by
  simp [roster]

/-- The accounts keep their master keys. -/
theorem master_update (p : AccountRow → Bool) (f : AccountRow → AccountRow)
    (hf : ∀ row, (f row).id = row.id) (hmaster : ∀ row, (f row).masterPublicKey = row.masterPublicKey)
    (accountId : String) : ((db.accounts.update p f hf).find accountId).map AccountRow.masterPublicKey =
      db.roster.master accountId := by
  rw [Table.find_update hf, Option.map_map]
  refine Option.map_congr fun row _ => ?_
  show (if p row then f row else row).masterPublicKey = _
  split
  · exact hmaster row
  · rfl

/-- One account gets another master key. -/
theorem master_updateAccount {accountId : String} {f : AccountRow → AccountRow}
    {hf : ∀ row, (f row).id = row.id} (master : Option Bytes) (hmaster : ∀ row, (f row).masterPublicKey = master)
    (haccount : (db.accounts.find accountId).isSome) :
    (db.updateAccount accountId f hf).roster =
      { db.roster with master := Function.update db.roster.master accountId (some master) } := by
  have hkeys : ∀ a, (db.updateAccount accountId f hf).roster.master a =
      Function.update db.roster.master accountId (some master) a := by
    intro a
    show ((db.accounts.update _ f hf).find a).map _ = _
    rw [Table.find_update hf, Option.map_map]
    by_cases ha : a = accountId
    · subst ha
      obtain ⟨row, hrow⟩ := Option.isSome_iff_exists.1 haccount
      have hid : row.id = a := Table.key_of_find hrow
      rw [Function.update_self, hrow]
      simp [hid, hmaster]
    · rw [Function.update_of_ne ha]
      refine Option.map_congr fun row hrow => ?_
      have hid : row.id = a := Table.key_of_find hrow
      show (if decide (row.id = accountId) = true then f row else row).masterPublicKey = _
      rw [if_neg (by simpa [hid] using ha)]
  exact congrArg₂ Roster.mk (funext hkeys) rfl

/-- An update that reads and changes what lasts of the rows of devices. -/
theorem device_update (p : DeviceRow → Bool) (f g : DeviceRow → DeviceRow)
    (hf : ∀ row, (f row).id = row.id) (hp : ∀ row, p row = p row.lasting)
    (hg : ∀ row, (f row).lasting = g row.lasting) :
    (fun d => ((db.devices.update p f hf).find d).map DeviceRow.lasting) =
      fun d => (db.roster.device d).map fun row => if p row then g row else row := by
  funext d
  show _ = ((db.devices.find d).map DeviceRow.lasting).map _
  rw [Table.find_update hf, Option.map_map, Option.map_map]
  refine Option.map_congr fun row _ => ?_
  show (if p row then f row else row).lasting = if p row.lasting then g row.lasting else row.lasting
  rw [← hp row]
  split
  · exact hg row
  · rfl

theorem device_insert {row : DeviceRow} (h : db.devices.find row.id = none) :
    (fun d => ((db.devices.insertOrIgnore row).find d).map DeviceRow.lasting) =
      Function.update db.roster.device row.id (some row.lasting) := by
  funext d
  by_cases hd : d = row.id
  · subst hd
    rw [Table.find_insertOrIgnore_of_none h, Function.update_self]
    rfl
  · rw [Table.find_insertOrIgnore_ne hd, Function.update_of_ne hd]
    rfl

theorem master_insert (row : AccountRow) (h : db.accounts.find row.id = none) :
    (fun a => ((db.accounts.insertOrIgnore row).find a).map AccountRow.masterPublicKey) =
      Function.update db.roster.master row.id (some row.masterPublicKey) := by
  funext a
  by_cases ha : a = row.id
  · subst ha
    rw [Table.find_insertOrIgnore_of_none h, Function.update_self]
    rfl
  · rw [Table.find_insertOrIgnore_ne ha, Function.update_of_ne ha]
    rfl

/-! ## The statements that change it -/

variable {accountId deviceId username : String}

theorem roster_addAccount {phc : String} (h : db.addAccount accountId username phc = .ok db') :
    db.roster.master accountId = none ∧ db'.roster =
      { db.roster with master := Function.update db.roster.master accountId (some none) } := by
  obtain ⟨hnone, -, rfl⟩ := addAccount_eq_ok.1 h
  refine ⟨by simp [roster, hnone], ?_⟩
  exact congrArg₂ Roster.mk (master_insert (.added accountId username phc) hnone) rfl

theorem roster_bootstrapMaster {master : Bytes} (h : db.bootstrapMaster accountId master = .ok db') :
    db.roster.master accountId = some none ∧ db'.roster =
      { db.roster with master := Function.update db.roster.master accountId (some (some master)) } := by
  obtain ⟨⟨row, hrow, hnone⟩, rfl⟩ := bootstrapMaster_eq_ok.1 h
  refine ⟨by simp [roster, hrow, hnone], ?_⟩
  apply master_updateAccount
  · intro row
    rfl
  · rw [hrow]
    rfl

theorem roster_insertDevice {bundle : DeviceBundle} {sasPublic : Bytes} {pending : Bool} {now : Int}
    (h : db.insertDevice accountId bundle sasPublic pending now = .ok db') :
    (db.roster.master accountId).isSome ∧ db.roster.device bundle.deviceId = none ∧ db'.roster =
      { db.roster with
        device := Function.update db.roster.device bundle.deviceId
          (some (DeviceRow.submitted accountId bundle sasPublic pending now)) } := by
  obtain ⟨haccount, hnone, rfl⟩ := insertDevice_eq_ok.1 h
  refine ⟨roster_master.trans haccount, by simp [roster, hnone], ?_⟩
  exact congrArg₂ Roster.mk rfl (device_insert hnone)

theorem roster_activateDevice {revision : Nat} {certificate : Bytes}
    (h : db.activateDevice accountId deviceId revision certificate = .ok db') :
    (db.roster.master accountId).isSome ∧ ∃ row, db.roster.device deviceId = some row ∧
      row.accountId = accountId ∧ row.pending = true ∧ db'.roster =
        { db.roster with
          device := Function.update db.roster.device deviceId
            (some { row with pending := false, certificateSignature := certificate }) } := by
  obtain ⟨⟨account, haccount, -⟩, ⟨row, hrow, hpending⟩, rfl⟩ := activateDevice_eq_ok.1 h
  obtain ⟨hfind, hown⟩ := Option.filter_eq_some_iff.1 hrow
  rw [decide_eq_true_eq] at hown
  have hid : row.id = deviceId := Table.key_of_find hfind
  refine ⟨by simp [roster, haccount], row.lasting, by simp [roster, hfind], hown, hpending, ?_⟩
  refine congrArg₂ Roster.mk (funext (master_update (fun row => row.id = accountId)
    (fun row => { row with rosterRevision := revision }) (fun _ => rfl) fun _ => rfl)) ?_
  refine (device_update (fun row => row.accountId = accountId && row.id = deviceId && row.pending)
    (fun row => { row with pending := false, certificateSignature := certificate })
    (fun row => { row with pending := false, certificateSignature := certificate })
    (fun _ => rfl) (fun _ => rfl) fun _ => rfl).trans ?_
  funext d
  by_cases hd : d = deviceId
  · subst hd
    rw [Function.update_self]
    simp [roster, hfind, hown, hid, hpending, DeviceRow.lasting]
  · rw [Function.update_of_ne hd]
    cases hother : db.roster.device d with
    | none => rfl
    | some other =>
      have hne : other.id ≠ deviceId := by
        obtain ⟨stored, -, rfl, rfl⟩ := roster_device.1 hother
        exact hd
      simp [hne]

/-- Devices are revoked that a condition on what lasts of their rows picks. -/
theorem roster_revoke (db : Db) (p : DeviceRow → Bool) (hp : ∀ row, p row = p row.lasting) :
    Db.roster { db with devices := db.devices.update p (fun row => { row with revoked := true }) fun _ => rfl } =
      { db.roster with
        device := fun d => (db.roster.device d).map fun row => if p row then { row with revoked := true } else row } :=
  congrArg₂ Roster.mk rfl (device_update p (fun row => { row with revoked := true })
    (fun row => { row with revoked := true }) (fun _ => rfl) hp fun _ => rfl)

theorem roster_resetDevices {r : List String × Db} (h : db.resetDevices username = .ok r) :
    ∃ accountId, (db.roster.master accountId).isSome ∧ r.2.roster =
      { master := Function.update db.roster.master accountId (some none)
        device := fun d => (db.roster.device d).map fun row =>
          if row.accountId = accountId then { row with revoked := true } else row } := by
  obtain ⟨account, haccount, rfl⟩ := resetDevices_eq_ok.1 h
  have hmem : account ∈ db.accounts := List.mem_of_find?_eq_some haccount
  have hfind : (db.accounts.find account.id).isSome := by
    rw [Table.find_of_mem hmem]
    rfl
  refine ⟨account.id, roster_master.trans hfind, ?_⟩
  have hrevoked := roster_revoke db (fun row => row.accountId = account.id) fun _ => rfl
  rw [master_updateAccount none]
  · refine congrArg₂ Roster.mk rfl ((congrArg Roster.device hrevoked).trans ?_)
    simp
  · intro row
    rfl
  · exact hfind

theorem roster_deleteUserRecords : (db.deleteUserRecords accountId).roster =
    { master := Function.update db.roster.master accountId none
      device := fun d => (db.roster.device d).filter fun row => row.accountId ≠ accountId } := by
  refine congrArg₂ Roster.mk (funext fun a => ?_) (funext fun d => ?_)
  · show ((db.accounts.delete fun row => row.id = accountId).find a).map _ = _
    rw [Table.find_delete]
    by_cases ha : a = accountId
    · subst ha
      rw [Function.update_self]
      cases hrow : db.accounts.find a with
      | none => rfl
      | some row =>
        have hid : row.id = a := Table.key_of_find hrow
        simp [hid]
    · rw [Function.update_of_ne ha]
      cases hrow : db.accounts.find a with
      | none => simp [roster, hrow]
      | some row =>
        have hid : row.id = a := Table.key_of_find hrow
        simp [roster, hrow, hid, ha]
  · show ((db.devices.delete fun row => row.accountId = accountId).find d).map _ = _
    rw [Table.find_delete]
    cases hrow : db.devices.find d with
    | none => simp [roster, hrow]
    | some row => by_cases hown : row.accountId = accountId <;> simp [roster, hrow, hown, DeviceRow.lasting, Option.filter_some]

end Db

open Db in
/-- What a write does to accounts and devices. -/
theorem Writes.roster {had : Db → Prop} {c : Connection} {db db' : Db} (h : Writes env P had c db db') :
    RosterStep P had c.workingKey db.roster db'.roster := by
  have aside : ∀ {db' : Db}, db'.roster = db.roster → RosterStep P had c.workingKey db.roster db'.roster :=
    fun h => h ▸ .aside
  have keyed : ∀ {p : AccountRow → Bool} {f : AccountRow → AccountRow} (hf : ∀ row, (f row).id = row.id),
      (∀ row, (f row).masterPublicKey = row.masterPublicKey) →
      RosterStep P had c.workingKey db.roster (Db.roster { db with accounts := db.accounts.update p f hf }) :=
    fun hf hmaster => aside (congrArg₂ Roster.mk (funext (master_update _ _ hf hmaster)) rfl)
  cases h with
  | authenticated deviceId now =>
    refine aside (congrArg₂ Roster.mk rfl ?_)
    refine (device_update (fun row => row.id = deviceId)
      (fun row => { row with lastAuthenticatedAtMs := some now }) id (fun _ => rfl) (fun _ => rfl)
      fun _ => rfl).trans ?_
    simp only [id, ite_self, Option.map_id']
    rfl
  | password | userState | passwordReset => exact keyed _ fun _ => rfl
  | claimed s m session pending certificate write =>
    obtain ⟨hkeyless, hroster⟩ := roster_bootstrapMaster write
    rw [hroster]
    exact .claimed _ _ hkeyless
  | inserted s m pendingRow now session pending device certificate key write =>
    obtain ⟨haccount, hfresh, hroster⟩ := roster_insertDevice write
    rw [hroster]
    refine .inserted (.submitted s.account.id (Ws.BootstrapDevice.bundle m) m.sasPublicKey pendingRow now)
      haccount hfresh fun hactive => ?_
    have hrow : pendingRow = false := hactive
    subst hrow
    refine ⟨m.accountMasterKey, ?_, certificate⟩
    have hkeyless : s.account.masterPublicKey = none := key.1
    have hclaimed : c.claimedKey = some m.accountMasterKey := key.2
    simp [Connection.workingKey, session, hkeyless, hclaimed]
  | activated s id m bundle master session active received device pairing key certificate submitted write =>
    obtain ⟨haccount, row, hrow, hown, hpending, hroster⟩ := roster_activateDevice write
    rw [hroster]
    have hid : row.id = bundle.deviceId := by
      obtain ⟨stored, -, hid, rfl⟩ := roster_device.1 hrow
      exact hid
    rw [← hown] at haccount certificate submitted
    rw [← hid] at hrow ⊢
    refine .activated row bundle master haccount hrow hpending hid.symm submitted ?_ certificate
    simp [Connection.workingKey, session, key]
  | revokedOwn s deviceId session active other =>
    rw [markRevoked_snd, roster_revoke _ _ fun _ => rfl]
    exact .revoked _
  | revoked accountId deviceId =>
    refine (roster_revoke db (fun row => row.accountId = accountId && row.id = deviceId)
      fun _ => rfl) ▸ ?_
    exact .revoked _
  | added id username phc write =>
    obtain ⟨hfresh, hroster⟩ := roster_addAccount write
    rw [hroster]
    exact .added _ hfresh
  | devicesReset username write =>
    obtain ⟨accountId, haccount, hroster⟩ := roster_resetDevices write
    rw [hroster]
    exact .reset _ haccount
  | deleted accountId =>
    rw [roster_deleteUserRecords]
    exact .deleted _
  | prekeys s keys now session write =>
    obtain ⟨-, rfl⟩ := publishPreKeys_eq_ok.1 write
    exact .aside
  | prekeyClaimed accountId deviceId =>
    obtain ⟨_, hdb⟩ := claimPreKey_snd db accountId deviceId
    rw [hdb]
    exact .aside
  | stored s m now free session active write =>
    obtain ⟨_, _, _, _, hdb⟩ := storeEnvelopes_aside write
    rw [hdb]
    exact .aside
  | acked s id m now session active received =>
    unfold Db.ack
    split <;> exact .aside
  | pairing s e expiresAtMs session size type write =>
    obtain ⟨-, -, rfl⟩ := insertPairingEvent_eq_ok.1 write
    exact .aside
  | pairingAcked | cleanedDevice | cleanedDelivered | cleanedPairing | audited | pruned => exact .aside

/-! ## What lasts -/

section

variable {had : Db → Prop} {key : Option Bytes} {r r' : Roster}

/-- Every device is one of an account that there is. -/
def Roster.Linked (r : Roster) : Prop :=
  ∀ d row, r.device d = some row → (r.master row.accountId).isSome

theorem RosterStep.linked (h : RosterStep P had key r r') (hr : r.Linked) : r'.Linked := by
  have keyed : ∀ {a : String} {m : Option Bytes} {b : String}, (r.master b).isSome →
      (Function.update r.master a (some m) b).isSome := by
    intro a m b hb
    by_cases hab : b = a
    · rw [hab, Function.update_self]
      rfl
    · rwa [Function.update_of_ne hab]
  intro d row hrow
  cases h with
  | aside => exact hr d row hrow
  | added accountId fresh => exact keyed (hr d row hrow)
  | claimed accountId master keyless => exact keyed (hr d row hrow)
  | inserted new account fresh certified =>
    dsimp only at hrow
    rw [Function.update_apply] at hrow
    split at hrow
    · cases hrow
      exact account
    · exact hr d row hrow
  | activated old bundle master account found pending device submitted working certificate =>
    dsimp only at hrow
    rw [Function.update_apply] at hrow
    split at hrow
    · cases hrow
      exact account
    · exact hr d row hrow
  | revoked p =>
    obtain ⟨old, hold, rfl⟩ := Option.map_eq_some_iff.1 hrow
    have hown := hr d old hold
    split
    · exact hown
    · exact hown
  | reset accountId account =>
    obtain ⟨old, hold, rfl⟩ := Option.map_eq_some_iff.1 hrow
    have hown := keyed (a := accountId) (m := none) (hr d old hold)
    split
    · exact hown
    · exact hown
  | deleted accountId =>
    obtain ⟨hold, hne⟩ := Option.filter_eq_some_iff.1 hrow
    rw [decide_eq_true_eq] at hne
    dsimp only
    rw [Function.update_of_ne hne]
    exact hr d row hold

/-- A device stays as long as its account does, with its keys; if it is revoked it stays revoked. -/
theorem RosterStep.lasts (h : RosterStep P had key r r') {d : String} {row : DeviceRow}
    (hrow : r.device d = some row) (account : (r'.master row.accountId).isSome) :
    ∃ row', r'.device d = some row' ∧ row.SameKeys row' ∧ (row.revoked = true → row'.revoked = true) := by
  have same : r'.device d = some row → ∃ row', r'.device d = some row' ∧ row.SameKeys row' ∧
      (row.revoked = true → row'.revoked = true) := fun h => ⟨row, h, .refl row, id⟩
  cases h with
  | aside | added | claimed => exact same hrow
  | inserted new _ fresh certified =>
    have hd : d ≠ new.id := by
      rintro rfl
      cases fresh.symm.trans hrow
    exact same ((Function.update_of_ne hd ..).trans hrow)
  | activated old bundle master _ found pending device submitted working certificate =>
    by_cases hd : d = old.id
    · subst hd
      cases found.symm.trans hrow
      exact ⟨_, Function.update_self .., ⟨rfl, rfl, rfl, rfl⟩, id⟩
    · exact same ((Function.update_of_ne hd ..).trans hrow)
  | revoked p =>
    refine ⟨_, Option.map_eq_some_iff.2 ⟨row, hrow, rfl⟩, ?_⟩
    split
    · exact ⟨⟨rfl, rfl, rfl, rfl⟩, fun _ => rfl⟩
    · exact ⟨.refl row, id⟩
  | reset accountId _ =>
    refine ⟨_, Option.map_eq_some_iff.2 ⟨row, hrow, rfl⟩, ?_⟩
    split
    · exact ⟨⟨rfl, rfl, rfl, rfl⟩, fun _ => rfl⟩
    · exact ⟨.refl row, id⟩
  | deleted accountId =>
    have hne : row.accountId ≠ accountId := by
      intro hown
      dsimp only at account
      rw [hown, Function.update_self] at account
      cases account
    exact same (Option.filter_eq_some_iff.2 ⟨hrow, decide_eq_true hne⟩)

end

/-! ## The databases there were -/

/-- Accounts that a step adds have ids that no account had before: they are drawn as UUIDs. -/
def NewAccounts (s s' : AppState) : Prop :=
  ∀ account ∈ s'.db.accounts.rows, s.db.accounts.find account.id = none →
    ∀ db ∈ s.past, db.accounts.find account.id = none

instance (s s' : AppState) : Decidable (NewAccounts s s') := by unfold NewAccounts; infer_instance

theorem NewAccounts.not_had {s s' : AppState} {a : String} {db : Db} (h : NewAccounts s s')
    (before : s.db.accounts.find a = none) (after : (s'.db.accounts.find a).isSome) (had : s.Had db) :
    db.accounts.find a = none := by
  obtain ⟨account, haccount⟩ := Option.isSome_iff_exists.1 after
  have hid : account.id = a := Table.key_of_find haccount
  rcases had with rfl | had
  · exact before
  · have hgone := h account (Table.mem_of_find haccount) (hid ▸ before) db had
    rwa [hid] at hgone

/-- What was once read of the devices of an account still holds while the account is there. -/
structure Registered (s : AppState) : Prop where
  linked : ∀ db, s.Had db → db.roster.Linked
  lasting : ∀ db, s.Had db → ∀ d row, db.roster.device d = some row →
    (s.db.roster.master row.accountId).isSome →
    ∃ row', s.db.roster.device d = some row' ∧ row.SameKeys row' ∧ (row.revoked = true → row'.revoked = true)

theorem Registered.initial : Registered .initial where
  linked db had := by
    rcases had with rfl | had
    · exact fun _ _ h => (nomatch h)
    · cases had
  lasting db had := by
    rcases had with rfl | had
    · exact fun _ _ h => (nomatch h)
    · cases had

theorem Registered.step {i : Nat} {s s' : AppState} {c c' : Connection} (h : Registered s)
    (fresh : NewAccounts s s') (hs : ServerStep env P i (s, c) (s', c')) : Registered s' := by
  cases hs with
  | wrote log events write acknowledged recorded =>
    have hstep := write.roster
    have hlinked := hstep.linked (h.linked _ (.inl rfl))
    refine ⟨fun db had => ?_, fun db had d row hrow account => ?_⟩
    · rcases had with rfl | had
      · exact hlinked
      · exact h.linked db (List.mem_cons.1 had)
    · rcases had with rfl | had
      · exact ⟨row, hrow, .refl row, id⟩
      · have had : s.Had db := List.mem_cons.1 had
        have hbefore : (s.db.roster.master row.accountId).isSome := by
          by_contra hnone
          rw [Db.roster_master, Option.not_isSome_iff_eq_none] at hnone
          have hgone := fresh.not_had hnone (Db.roster_master.symm.trans account) had
          have hthere := h.linked db had d row hrow
          rw [Db.roster_master, hgone] at hthere
          cases hthere
        obtain ⟨row₁, hrow₁, hsame₁, hrevoked₁⟩ := h.lasting db had d row hrow hbefore
        rw [← hsame₁.accountId] at account
        obtain ⟨row₂, hrow₂, hsame₂, hrevoked₂⟩ := hstep.lasts hrow₁ account
        exact ⟨row₂, hrow₂, hsame₁.trans hsame₂, hrevoked₂ ∘ hrevoked₁⟩
  | _ => exact ⟨h.linked, h.lasting⟩

end TuiChat
