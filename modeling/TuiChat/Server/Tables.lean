import TuiChat.Server.Admin

/-!
# What the writes to accounts, devices and prekeys do

For every statement that can be refused, when it is not and what it gives then.
-/

namespace TuiChat

open Lib

/-- The row of a device that is submitted now. -/
def DeviceRow.submitted (accountId : String) (bundle : DeviceBundle) (sasPublic : Bytes) (pending : Bool)
    (now : Int) : DeviceRow :=
  { id := bundle.deviceId
    accountId
    name := bundle.deviceName
    authSigningKey := bundle.authSigningKey
    olmEd25519Key := bundle.olmEd25519Key
    olmCurve25519Key := bundle.olmCurve25519Key
    certificateSignature := bundle.certificateSignature
    sasPublicKey := sasPublic
    pending
    revoked := false
    createdAtMs := now
    lastAuthenticatedAtMs := none }

/-- The row of an account that is added now. -/
def AccountRow.added (id username phc : String) : AccountRow :=
  { id
    username
    passwordPhc := phc
    state := .active
    requirePasswordChange := true
    masterPublicKey := none
    rosterRevision := 0 }

/-! ## Published prekeys -/

/-- The rows of a publication that are not there yet. -/
def withPreKeys (prekeys : Table PreKeyRow.id) (deviceId : String) (now : Int) (keys : List OneTimeKey) :
    Table PreKeyRow.id :=
  keys.foldl (fun prekeys key => prekeys.insertOrIgnore { deviceId, key, createdAtMs := now }) prekeys

section

variable {prekeys : Table PreKeyRow.id} {deviceId : String} {now : Int}

theorem mem_withPreKeys_of_mem {row : PreKeyRow} {keys : List OneTimeKey} (h : row ∈ prekeys) :
    row ∈ withPreKeys prekeys deviceId now keys := by
  induction keys generalizing prekeys with
  | nil => exact h
  | cons key keys ih => exact ih (Table.mem_insertOrIgnore_of_mem h)

/-- A row that a publication adds is of one of its keys. -/
theorem mem_withPreKeys {row : PreKeyRow} {keys : List OneTimeKey}
    (h : row ∈ withPreKeys prekeys deviceId now keys) :
    row ∈ prekeys ∨ ∃ key ∈ keys, row = { deviceId, key, createdAtMs := now } := by
  induction keys generalizing prekeys with
  | nil => exact .inl h
  | cons key keys ih =>
    rcases ih h with hmem | ⟨other, hother, rfl⟩
    · rcases Table.mem_insertOrIgnore.1 hmem with hmem | ⟨rfl, -⟩
      · exact .inl hmem
      · exact .inr ⟨key, List.mem_cons_self, rfl⟩
    · exact .inr ⟨other, List.mem_cons_of_mem _ hother, rfl⟩

end

/-! ## Statements -/

namespace Db

variable {db db' : Db} {accountId deviceId username : String} {now : Int}

theorem insertDevice_eq_ok {bundle : DeviceBundle} {sasPublic : Bytes} {pending : Bool} :
    db.insertDevice accountId bundle sasPublic pending now = .ok db' ↔
      (db.accounts.find accountId).isSome ∧ db.devices.find bundle.deviceId = none ∧
        db' = { db with
          devices := db.devices.insertOrIgnore (.submitted accountId bundle sasPublic pending now) } := by
  unfold insertDevice
  cases db.accounts.find accountId <;> cases db.devices.find bundle.deviceId <;>
    simp [DeviceRow.submitted, eq_comm]

theorem bootstrapMaster_eq_ok {master : Bytes} :
    db.bootstrapMaster accountId master = .ok db' ↔
      (∃ row, db.accounts.find accountId = some row ∧ row.masterPublicKey = none) ∧
        db' = db.updateAccount accountId
          (fun row => { row with masterPublicKey := some master, rosterRevision := 1 }) fun _ => rfl := by
  unfold bootstrapMaster
  cases db.accounts.find accountId with
  | none => simp
  | some row => cases hmaster : row.masterPublicKey <;> simp [hmaster, eq_comm]

theorem publishPreKeys_eq_ok {keys : List OneTimeKey} :
    db.publishPreKeys deviceId keys now = .ok db' ↔
      (keys ≠ [] → (db.devices.find deviceId).isSome) ∧ db' = { db with
        prekeys := keys.foldl
          (fun prekeys key => prekeys.insertOrIgnore { deviceId, key, createdAtMs := now }) db.prekeys } := by
  unfold publishPreKeys
  cases db.devices.find deviceId <;> by_cases hkeys : keys = [] <;> simp [hkeys, eq_comm]

theorem activateDevice_eq_ok {revision : Nat} {certificate : Bytes} :
    db.activateDevice accountId deviceId revision certificate = .ok db' ↔
      (∃ account, db.accounts.find accountId = some account ∧ revision = account.rosterRevision + 1) ∧
        (∃ row, db.device accountId deviceId = some row ∧ row.pending = true) ∧
        db' = { db with
          devices := db.devices.update
            (fun row => row.accountId = accountId && row.id = deviceId && row.pending)
            (fun row => { row with pending := false, certificateSignature := certificate }) fun _ => rfl
          }.updateAccount accountId (fun row => { row with rosterRevision := revision }) fun _ => rfl := by
  unfold activateDevice
  cases haccount : db.accounts.find accountId with
  | none => simp
  | some account =>
    cases hdevice : db.device accountId deviceId with
    | none => by_cases hrevision : revision = account.rosterRevision + 1 <;> simp [hrevision]
    | some row =>
      by_cases hrevision : revision = account.rosterRevision + 1
      · cases hpending : row.pending
        · simp [hrevision, hpending]
        · simp only [hrevision, hpending, ne_eq, not_true, if_false, Option.any_some, Bool.not_true,
            Bool.false_eq_true, Option.some.injEq, exists_eq_left', true_and]
          exact ⟨fun h => (Except.ok.inj h).symm, fun h => by rw [h]⟩
      · simp [hrevision]

/-- A key that is handed over is deleted, and nothing else is. -/
theorem claimPreKey_snd (db : Db) (accountId deviceId : String) : ∃ p, (db.claimPreKey accountId deviceId).2 = { db with
    prekeys := db.prekeys.delete p } := by
  have hkept : db = { db with prekeys := db.prekeys.delete fun _ => false } := by
    simp [Table.delete]
  unfold claimPreKey
  split
  · exact ⟨_, hkept⟩
  split
  · exact ⟨_, hkept⟩
  · exact ⟨_, rfl⟩

/-- The device is marked if it is there, and not yet. -/
theorem markRevoked_snd : (db.markRevoked accountId deviceId).2 = { db with
    devices := db.devices.update
      (fun row => (db.device accountId deviceId).any (fun row => !row.revoked) &&
        (row.accountId = accountId && row.id = deviceId))
      (fun row => { row with revoked := true }) fun _ => rfl } := by
  unfold markRevoked
  split
  · next h => simp [h]
  · next h => simp [h, Table.update]

theorem insertPairingEvent_eq_ok {pairingId sender target eventType : String} {payload : Bytes} {expires : Int}
    {r : Nat × Db} :
    db.insertPairingEvent pairingId sender target eventType payload expires = .ok r ↔
      (db.devices.find sender).isSome ∧ (db.devices.find target).isSome ∧
        r = (db.lastPairingEvent + 1, { db with
          pairingEvents := db.pairingEvents.put
            { id := db.lastPairingEvent + 1
              pairingId
              senderDeviceId := sender
              targetDeviceId := target
              eventType
              payload
              expiresAtMs := expires }
          lastPairingEvent := db.lastPairingEvent + 1 }) := by
  unfold insertPairingEvent
  cases db.devices.find sender with
  | none => simp
  | some _ =>
    cases db.devices.find target with
    | none => simp
    | some _ => exact ⟨fun h => ⟨rfl, rfl, (Except.ok.inj h).symm⟩, fun h => by rw [h.2.2]; rfl⟩

theorem addAccount_eq_ok {phc : String} :
    db.addAccount accountId username phc = .ok db' ↔
      db.accounts.find accountId = none ∧ db.accountByUsername username = none ∧
        db' = { db with accounts := db.accounts.insertOrIgnore (.added accountId username phc) } := by
  unfold addAccount
  cases db.accounts.find accountId <;> cases db.accountByUsername username <;>
    simp [AccountRow.added, eq_comm]

theorem resetDevices_eq_ok {r : List String × Db} :
    db.resetDevices username = .ok r ↔
      ∃ account, db.accountByUsername username = some account ∧
        r = (((db.devicesOf account.id).filter fun row => !row.revoked).map DeviceRow.id,
          ({ db with
            devices := db.devices.update (fun row => row.accountId = account.id)
              (fun row => { row with revoked := true }) fun _ => rfl
            prekeys := db.prekeys.delete fun row => (db.device account.id row.deviceId).isSome
          }.updateAccount account.id
            (fun row => { row with masterPublicKey := none, rosterRevision := 0 }) fun _ => rfl)) := by
  unfold resetDevices
  cases db.accountByUsername username <;> simp [eq_comm]

/-! ## Revoked devices -/

/-- An update that reaches a device of the account, and revokes. -/
theorem mem_of_revoked {row : DeviceRow} {p : DeviceRow → Bool} (h : db.device accountId deviceId = some row)
    (hp : row.accountId = accountId → row.id = deviceId → p row = true) :
    ∃ row' ∈ db.devices.update p (fun row => { row with revoked := true }) fun _ => rfl,
      row'.id = deviceId ∧ row'.revoked = true := by
  obtain ⟨hfind, haccount⟩ := Option.filter_eq_some_iff.1 h
  have hid : row.id = deviceId := Table.key_of_find hfind
  have hreached := hp (of_decide_eq_true haccount) hid
  refine ⟨_, (Table.mem_update ?_).2 ⟨row, Table.mem_of_find hfind, rfl⟩, ?_⟩
  · exact fun _ => rfl
  · simp [hreached, hid]

theorem mem_of_markRevoked (h : (db.markRevoked accountId deviceId).1 = true) :
    ∃ row ∈ (db.markRevoked accountId deviceId).2.devices, row.id = deviceId ∧ row.revoked = true := by
  unfold markRevoked at h ⊢
  split at h
  · next hany =>
    rw [if_pos hany]
    cases hrow : db.device accountId deviceId with
    | none => simp [hrow] at hany
    | some row => exact mem_of_revoked hrow fun haccount hid => by simp [haccount, hid]
  · cases h

theorem mem_of_revokeDevice (h : (db.revokeDevice accountId deviceId).1 = true) :
    ∃ row ∈ (db.revokeDevice accountId deviceId).2.devices, row.id = deviceId ∧ row.revoked = true := by
  obtain ⟨row, hrow⟩ := Option.isSome_iff_exists.1 h
  exact mem_of_revoked hrow fun haccount hid => by simp [haccount, hid]

theorem mem_of_resetDevices {r : List String × Db} (h : db.resetDevices username = .ok r)
    (hid : deviceId ∈ r.1) : ∃ row ∈ r.2.devices, row.id = deviceId ∧ row.revoked = true := by
  obtain ⟨account, _, rfl⟩ := resetDevices_eq_ok.1 h
  obtain ⟨row, hrow, rfl⟩ := List.mem_map.1 hid
  have hmem := List.mem_filter.1 (List.mem_filter.1 hrow).1
  have hfind : db.device account.id row.id = some row :=
    Option.filter_eq_some_iff.2 ⟨Table.find_of_mem hmem.1, hmem.2⟩
  exact mem_of_revoked hfind fun haccount _ => by simp [haccount]

end Db

end TuiChat
