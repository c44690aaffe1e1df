import TuiChat.Server.Tables
import TuiChat.Verify.ServerScenario

/-!
# The life of a device

Two flags say what a device is, and five statements change them. In any order of them a device is added,
activated and revoked, and an account's revision counts the activations, as long as no device is activated that
was revoked while it was pending: the activation looks at one flag alone (`device_lifecycle`).
-/

namespace TuiChat

open Lib

inductive Lifecycle
  | absent
  | pending
  | active
  | revoked
deriving DecidableEq

/-- What a device may be after what it was. -/
inductive Lifecycle.Turns : Lifecycle → Lifecycle → Prop
  | same (l : Lifecycle) : Turns l l
  | submitted : Turns .absent .pending
  | first : Turns .absent .active
  | activated : Turns .pending .active
  | rejected : Turns .pending .revoked
  | revoked : Turns .active .revoked

def DeviceRow.lifecycle (row : DeviceRow) : Lifecycle :=
  if row.revoked then .revoked else if row.pending then .pending else .active

/-! ## Calls -/

/-- The calls that change devices, and the one that starts an account's revision. -/
inductive DeviceCall
  | insert (accountId : String) (bundle : DeviceBundle) (sasPublic : Bytes) (pending : Bool) (now : Int)
  | bootstrap (accountId : String) (master : Bytes)
  | activate (accountId deviceId : String) (revision : Nat) (certificate : Bytes)
  | revokeOwn (accountId deviceId : String)
  | revoke (username deviceId : String)
  | reset (username : String)

namespace Db

def lifecycle (db : Db) (accountId deviceId : String) : Lifecycle :=
  ((db.device accountId deviceId).map DeviceRow.lifecycle).getD .absent

def revision (db : Db) (accountId : String) : Option Nat :=
  (db.accounts.find accountId).map AccountRow.rosterRevision

/-- A statement or a transaction, which leaves nothing behind where it fails. -/
def commit (db : Db) : Except Error Db → Except Error Unit × Db
  | .ok db' => (.ok (), db')
  | .error e => (.error e, db)

/-- `revoke_own_device`; the handler takes `false` for an error. -/
def revokeOwnDevice (db : Db) (accountId deviceId : String) : Bool × Db :=
  match db.markRevoked accountId deviceId with
  | (true, db) => (true, db.cleanupRevokedDevice deviceId)
  | (false, db) => (false, db)

/-- `admin::revoke_device`. -/
def revokeDeviceOf (db : Db) (username deviceId : String) : Except Error Unit × Db :=
  match db.accountByUsername username with
  | none => (.error "account not found", db)
  | some account =>
    match db.revokeDevice account.id deviceId with
    | (false, db) => (.error "device not found", db)
    | (true, db) => (.ok (), (db.cleanupRevokedDevice deviceId).recordAudit "admin" "local-admin" "device_revoke"
        deviceId "success")

/-- `admin::reset_devices`. -/
def resetDevicesOf (db : Db) (username : String) : Except Error Unit × Db :=
  match Ws.normalizeUsername username with
  | .error e => (.error e, db)
  | .ok username =>
    match db.resetDevices username with
    | .error e => (.error e, db)
    | .ok (deviceIds, db) => (.ok (), (deviceIds.foldl cleanupRevokedDevice db).recordAudit "admin" "local-admin"
        "device_generation_reset" username "success")

def call (db : Db) : DeviceCall → Except Error Unit × Db
  | .insert accountId bundle sasPublic pending now =>
    db.commit (db.insertDevice accountId bundle sasPublic pending now)
  | .bootstrap accountId master => db.commit (db.bootstrapMaster accountId master)
  | .activate accountId deviceId revision certificate =>
    db.commit (db.activateDevice accountId deviceId revision certificate)
  | .revokeOwn accountId deviceId =>
    match db.revokeOwnDevice accountId deviceId with
    | (true, db) => (.ok (), db)
    | (false, db) => (.error "device is not active or does not belong to this account", db)
  | .revoke username deviceId => db.revokeDeviceOf username deviceId
  | .reset username => db.resetDevicesOf username

/-- The call starts the account's revision anew. -/
def Restarts (db : Db) (accountId : String) : DeviceCall → Prop
  | .bootstrap a _ => a = accountId
  | .reset username => ∃ name account, Ws.normalizeUsername username = .ok name ∧
      db.accountByUsername name = some account ∧ account.id = accountId
  | _ => False

/-- The call does to devices and revisions what it should. -/
structure Lawful (db : Db) (c : DeviceCall) : Prop where
  turns : ∀ accountId deviceId,
    (db.lifecycle accountId deviceId).Turns ((db.call c).2.lifecycle accountId deviceId)
  refuses : ∀ accountId deviceId revision certificate, c = .activate accountId deviceId revision certificate →
    db.lifecycle accountId deviceId = .revoked → (db.call c).1 ≠ .ok ()
  counts : ∀ accountId deviceId, db.lifecycle accountId deviceId = .pending →
    (db.call c).2.lifecycle accountId deviceId = .active →
      (db.call c).2.revision accountId = (db.revision accountId).map (· + 1)
  stays : ∀ accountId, ¬db.Restarts accountId c →
    (∀ deviceId, ¬(db.lifecycle accountId deviceId = .pending ∧
      (db.call c).2.lifecycle accountId deviceId = .active)) →
      (db.call c).2.revision accountId = db.revision accountId
  failed : (db.call c).1 ≠ .ok () → (db.call c).2 = db

/-- An activation, with the next revision, of a device that was revoked while it was pending. -/
def ActivatesRevoked (db : Db) (c : DeviceCall) : Prop :=
  ∃ accountId deviceId revision certificate, c = .activate accountId deviceId (revision + 1) certificate ∧
    db.revision accountId = some revision ∧
      ∃ row, db.device accountId deviceId = some row ∧ row.pending = true ∧ row.revoked = true

/-- Every call of a sequence has the property where it is made. -/
def Along (p : Db → DeviceCall → Prop) : Db → List DeviceCall → Prop
  | _, [] => True
  | db, c :: cs => p db c ∧ Along p (db.call c).2 cs

/-! ## Steps -/

variable {db db' : Db} {accountId deviceId : String} {c : DeviceCall}

theorem lifecycle_of_device {row : DeviceRow} (h : db.device accountId deviceId = some row) :
    db.lifecycle accountId deviceId = row.lifecycle := by
  rw [lifecycle, h]
  rfl

theorem lifecycle_of_none (h : db.device accountId deviceId = none) : db.lifecycle accountId deviceId = .absent := by
  rw [lifecycle, h]
  rfl

/-- Devices and revisions are as they were. -/
structure SameDevices (db db' : Db) : Prop where
  devices : db'.devices = db.devices
  accounts : db'.accounts = db.accounts

theorem SameDevices.lifecycle (h : db.SameDevices db') (accountId deviceId : String) :
    db'.lifecycle accountId deviceId = db.lifecycle accountId deviceId := by
  unfold Db.lifecycle Db.device
  rw [h.devices]

theorem SameDevices.revision (h : db.SameDevices db') (accountId : String) :
    db'.revision accountId = db.revision accountId := by
  unfold Db.revision
  rw [h.accounts]

theorem cleanups_sameDevices (deviceIds : List String) (db : Db) :
    db.SameDevices (deviceIds.foldl cleanupRevokedDevice db) := by
  induction deviceIds generalizing db with
  | nil => exact ⟨rfl, rfl⟩
  | cons deviceId deviceIds ih =>
    have hrest := ih (db.cleanupRevokedDevice deviceId)
    exact ⟨hrest.devices, hrest.accounts⟩

theorem device_update_devices {p : DeviceRow → Bool} {f : DeviceRow → DeviceRow} {hf : ∀ row, (f row).id = row.id}
    (haccount : ∀ row, (f row).accountId = row.accountId) (hdevices : db'.devices = db.devices.update p f hf)
    (accountId deviceId : String) : db'.device accountId deviceId =
      (db.device accountId deviceId).map fun row => if p row then f row else row := by
  unfold Db.device
  rw [hdevices, Table.find_update hf]
  cases db.devices.find deviceId with
  | none => rfl
  | some row =>
    have hkept : (if p row then f row else row).accountId = row.accountId := by
      split
      · exact haccount row
      · rfl
    simp only [Option.map_some, Option.filter_some, hkept]
    split
    · rfl
    · rfl

/-- A revision is read of an updated account. -/
theorem revision_updateAccount {f : AccountRow → AccountRow} {hf : ∀ row, (f row).id = row.id}
    (haccounts : db'.accounts = (db.updateAccount accountId f hf).accounts) (a : String) :
    db'.revision a = (db.accounts.find a).map fun row => if row.id = accountId then (f row).rosterRevision
      else row.rosterRevision := by
  unfold revision
  rw [haccounts]
  show ((db.accounts.update _ f hf).find a).map _ = _
  rw [Table.find_update hf, Option.map_map]
  refine Option.map_congr fun row _ => ?_
  by_cases hid : row.id = accountId
  · simp [hid]
  · simp [hid]

theorem revision_of_ne {f : AccountRow → AccountRow} {hf : ∀ row, (f row).id = row.id}
    (haccounts : db'.accounts = (db.updateAccount accountId f hf).accounts) {a : String} (ha : a ≠ accountId) :
    db'.revision a = db.revision a := by
  rw [revision_updateAccount haccounts]
  refine Option.map_congr fun row hrow => ?_
  have hid : row.id = a := Table.key_of_find hrow
  rw [if_neg (hid ▸ ha)]

/-- Devices stay what they are, or are revoked. -/
def Revokes (db db' : Db) : Prop :=
  ∀ accountId deviceId, db'.lifecycle accountId deviceId = db.lifecycle accountId deviceId ∨
    db.lifecycle accountId deviceId ≠ .absent ∧ db'.lifecycle accountId deviceId = .revoked

theorem revokes_update {p : DeviceRow → Bool}
    (hdevices : db'.devices = db.devices.update p (fun row => { row with revoked := true }) fun _ => rfl) :
    db.Revokes db' := by
  intro accountId deviceId
  have haccount : ∀ row : DeviceRow, ({ row with revoked := true } : DeviceRow).accountId = row.accountId := fun _ => rfl
  have hdevice := device_update_devices haccount hdevices accountId deviceId
  cases hrow : db.device accountId deviceId with
  | none =>
    rw [hrow] at hdevice
    exact .inl ((lifecycle_of_none hdevice).trans (lifecycle_of_none hrow).symm)
  | some row =>
    rw [hrow, Option.map_some] at hdevice
    rw [lifecycle_of_device hdevice, lifecycle_of_device hrow]
    by_cases hp : p row
    · right
      rw [if_pos hp]
      refine ⟨?_, rfl⟩
      unfold DeviceRow.lifecycle
      split
      · simp
      · split <;> simp
    · left
      rw [if_neg hp]

/-! ## Calls that are lawful -/

theorem lawful_of_error {e : Error} (h : db.call c = (.error e, db)) : db.Lawful c := by
  have hsame : (db.call c).2 = db := congrArg Prod.snd h
  have hfailed : (db.call c).1 ≠ .ok () := by
    rw [h]
    nofun
  refine ⟨fun a d => ?_, fun _ _ _ _ _ _ => hfailed, fun a d hpending hactive => ?_, fun a _ _ => ?_, fun _ => hsame⟩
  · rw [hsame]
    exact .same _
  · rw [hsame, hpending] at hactive
    cases hactive
  · rw [hsame]

/-- A call that activates nothing that was pending. -/
theorem lawful_of_ok (hok : (db.call c).1 = .ok ()) (hcall : ∀ a d r s, c ≠ .activate a d r s)
    (turns : ∀ a d, (db.lifecycle a d).Turns ((db.call c).2.lifecycle a d))
    (idle : ∀ a d, db.lifecycle a d = .pending → (db.call c).2.lifecycle a d ≠ .active)
    (stays : ∀ a, ¬db.Restarts a c → (db.call c).2.revision a = db.revision a) : db.Lawful c where
  turns := turns
  refuses a d r s hc := absurd hc (hcall a d r s)
  counts a d hpending hactive := absurd hactive (idle a d hpending)
  stays a hc _ := stays a hc
  failed hfailed := absurd hok hfailed

theorem lawful_of_revokes (hok : (db.call c).1 = .ok ()) (hcall : ∀ a d r s, c ≠ .activate a d r s)
    (revokes : db.Revokes (db.call c).2)
    (stays : ∀ a, ¬db.Restarts a c → (db.call c).2.revision a = db.revision a) : db.Lawful c := by
  refine lawful_of_ok hok hcall (fun a d => ?_) (fun a d hpending hactive => ?_) stays
  · rcases revokes a d with hsame | ⟨hthere, hrevoked⟩
    · rw [hsame]
      exact .same _
    · rw [hrevoked]
      cases hbefore : db.lifecycle a d with
      | absent => exact absurd hbefore hthere
      | pending => exact .rejected
      | active => exact .revoked
      | revoked => exact .same _
  · rcases revokes a d with hsame | ⟨-, hrevoked⟩
    · rw [hsame, hpending] at hactive
      cases hactive
    · rw [hrevoked] at hactive
      cases hactive

theorem insert_lawful (bundle : DeviceBundle) (sasPublic : Bytes) (pending : Bool) (now : Int) :
    db.Lawful (.insert accountId bundle sasPublic pending now) := by
  cases h : db.insertDevice accountId bundle sasPublic pending now with
  | error e =>
    have hcall : db.call (.insert accountId bundle sasPublic pending now) = (.error e, db) := by
      simp only [call, h, commit]
    exact lawful_of_error hcall
  | ok db' =>
    have hcall : db.call (.insert accountId bundle sasPublic pending now) = (.ok (), db') := by
      simp only [call, h, commit]
    obtain ⟨-, hnone, hdb⟩ := insertDevice_eq_ok.1 h
    -- Only the device of the bundle is new.
    have hdevice : ∀ a d, db'.lifecycle a d = db.lifecycle a d ∨
        db.lifecycle a d = .absent ∧ (db'.lifecycle a d = .pending ∨ db'.lifecycle a d = .active) := by
      intro a d
      by_cases hd : d = bundle.deviceId
      · subst hd
        have hbefore : db.lifecycle a bundle.deviceId = .absent := lifecycle_of_none (by rw [Db.device, hnone]; rfl)
        by_cases ha : a = accountId
        · subst ha
          have hafter := lifecycle_of_device (Ws.device_of_insertDevice h)
          refine .inr ⟨hbefore, ?_⟩
          rw [hafter]
          cases pending with
          | true => exact .inl rfl
          | false => exact .inr rfl
        · left
          rw [hbefore]
          refine lifecycle_of_none ?_
          have hfind : db'.devices.find bundle.deviceId = some (.submitted accountId bundle sasPublic pending now) := by
            rw [hdb]
            exact Table.find_insertOrIgnore_of_none hnone
          rw [Db.device, hfind, Option.filter_some, if_neg]
          simp [DeviceRow.submitted, Ne.symm ha]
      · left
        have hfind : db'.devices.find d = db.devices.find d := by
          rw [hdb]
          exact Table.find_insertOrIgnore_ne hd
        unfold lifecycle Db.device
        rw [hfind]
    refine lawful_of_ok (by rw [hcall]) (fun _ _ _ _ h => by cases h) (fun a d => ?_) (fun a d hpending hactive => ?_) fun a _ => ?_
    · rw [hcall]
      rcases hdevice a d with hsame | ⟨habsent, hnow | hnow⟩
      · rw [hsame]
        exact .same _
      · rw [habsent, hnow]
        exact .submitted
      · rw [habsent, hnow]
        exact .first
    · rw [hcall] at hactive
      rcases hdevice a d with hsame | ⟨habsent, -⟩
      · rw [hsame, hpending] at hactive
        cases hactive
      · rw [habsent] at hpending
        cases hpending
    · rw [hcall, hdb]
      rfl

theorem bootstrap_lawful (master : Bytes) : db.Lawful (.bootstrap accountId master) := by
  cases h : db.bootstrapMaster accountId master with
  | error e =>
    have hcall : db.call (.bootstrap accountId master) = (.error e, db) := by simp only [call, h, commit]
    exact lawful_of_error hcall
  | ok db' =>
    have hcall : db.call (.bootstrap accountId master) = (.ok (), db') := by simp only [call, h, commit]
    obtain ⟨-, hdb⟩ := bootstrapMaster_eq_ok.1 h
    refine lawful_of_revokes (by rw [hcall]) (fun _ _ _ _ h => by cases h) (fun a d => .inl ?_) fun a ha => ?_
    · rw [hcall, hdb]
      rfl
    · rw [hcall]
      exact revision_of_ne (by rw [hdb]) fun heq => ha heq.symm

theorem revokeOwn_lawful : db.Lawful (.revokeOwn accountId deviceId) := by
  have hmarked := @markRevoked_snd db accountId deviceId
  cases h : db.markRevoked accountId deviceId with
  | mk found db₁ =>
    rw [h] at hmarked
    cases found with
    | false =>
      have hsame : db₁ = db := by
        unfold markRevoked at h
        split at h
        · cases h
        · exact (Prod.mk.inj h).2.symm
      have hcall : db.call (.revokeOwn accountId deviceId) =
          (.error "device is not active or does not belong to this account", db) := by
        simp only [call, revokeOwnDevice, h, hsame]
      exact lawful_of_error hcall
    | true =>
      have hcall : db.call (.revokeOwn accountId deviceId) = (.ok (), db₁.cleanupRevokedDevice deviceId) := by
        simp only [call, revokeOwnDevice, h]
      have hclean : db₁.SameDevices (db₁.cleanupRevokedDevice deviceId) := ⟨rfl, rfl⟩
      refine lawful_of_revokes (by rw [hcall]) (fun _ _ _ _ h => by cases h) (fun a d => ?_) fun a _ => ?_
      · rw [hcall, hclean.lifecycle]
        exact revokes_update (congrArg Db.devices hmarked) a d
      · rw [hcall, hclean.revision]
        have haccounts := congrArg Db.accounts hmarked
        exact congrArg (fun accounts => (accounts.find a).map AccountRow.rosterRevision) haccounts

theorem revoke_lawful (username : String) : db.Lawful (.revoke username deviceId) := by
  cases haccount : db.accountByUsername username with
  | none =>
    have hcall : db.call (.revoke username deviceId) = (.error "account not found", db) := by
      simp only [call, revokeDeviceOf, haccount]
    exact lawful_of_error hcall
  | some account =>
    cases h : db.revokeDevice account.id deviceId with
    | mk found db₁ =>
      have hfound : (db.device account.id deviceId).isSome = found := congrArg Prod.fst h
      have hrevokes : db.Revokes db₁ := revokes_update (congrArg (fun r => r.2.devices) h).symm
      have haccounts : db₁.accounts = db.accounts := (congrArg (fun r => r.2.accounts) h).symm
      cases found with
      | false =>
        -- No row is of the account and the device, so the update finds none.
        have hnone : db.device account.id deviceId = none := by simpa using hfound
        have hcall : db.call (.revoke username deviceId) = (.error "device not found", db₁) := by
          simp only [call, revokeDeviceOf, haccount, h]
        have hsame : db₁ = db := by
          rw [show db₁ = (db.revokeDevice account.id deviceId).2 from (congrArg Prod.snd h).symm]
          refine congrArg (fun devices => { db with devices }) (Table.update_of_none fun row hrow => ?_)
          by_contra hp
          simp only [Bool.not_eq_false, Bool.and_eq_true, decide_eq_true_eq] at hp
          rw [Db.device, Option.filter_eq_none_iff] at hnone
          exact hnone row (Table.find_eq_some.2 ⟨hrow, hp.2⟩) (by simpa using hp.1)
        rw [hsame] at hcall
        exact lawful_of_error hcall
      | true =>
        have hcall : db.call (.revoke username deviceId) = (.ok (), (db₁.cleanupRevokedDevice deviceId).recordAudit
            "admin" "local-admin" "device_revoke" deviceId "success") := by
          simp only [call, revokeDeviceOf, haccount, h]
        have hclean : db₁.SameDevices ((db₁.cleanupRevokedDevice deviceId).recordAudit "admin" "local-admin"
            "device_revoke" deviceId "success") := ⟨rfl, rfl⟩
        refine lawful_of_revokes (by rw [hcall]) (fun _ _ _ _ h => by cases h) (fun a d => ?_) fun a _ => ?_
        · rw [hcall, hclean.lifecycle]
          exact hrevokes a d
        · rw [hcall, hclean.revision, revision, revision, haccounts]

theorem reset_lawful (username : String) : db.Lawful (.reset username) := by
  cases hname : Ws.normalizeUsername username with
  | error e =>
    have hcall : db.call (.reset username) = (.error e, db) := by simp only [call, resetDevicesOf, hname]
    exact lawful_of_error hcall
  | ok name =>
    cases h : db.resetDevices name with
    | error e =>
      have hcall : db.call (.reset username) = (.error e, db) := by simp only [call, resetDevicesOf, hname, h]
      exact lawful_of_error hcall
    | ok r =>
      obtain ⟨deviceIds, db₁⟩ := r
      have hcall : db.call (.reset username) = (.ok (), (deviceIds.foldl cleanupRevokedDevice db₁).recordAudit
          "admin" "local-admin" "device_generation_reset" name "success") := by
        simp only [call, resetDevicesOf, hname, h]
      have hclean : db₁.SameDevices ((deviceIds.foldl cleanupRevokedDevice db₁).recordAudit "admin" "local-admin"
          "device_generation_reset" name "success") :=
        ⟨(cleanups_sameDevices deviceIds db₁).devices, (cleanups_sameDevices deviceIds db₁).accounts⟩
      obtain ⟨account, haccount, hr⟩ := resetDevices_eq_ok.1 h
      have hdb : db₁ = _ := congrArg Prod.snd hr
      refine lawful_of_revokes (by rw [hcall]) (fun _ _ _ _ h => by cases h) (fun a d => ?_) fun a ha => ?_
      · rw [hcall, hclean.lifecycle]
        exact revokes_update (congrArg Db.devices hdb) a d
      · have hother : a ≠ account.id := fun heq => ha ⟨name, account, hname, haccount, heq.symm⟩
        rw [hcall, hclean.revision]
        exact revision_of_ne (congrArg Db.accounts hdb) hother

/-! ## Activations -/

/-- A pending device, and the account's next revision. -/
structure Activation (db : Db) (accountId deviceId : String) (revision : Nat) (row : DeviceRow) : Prop where
  revision : db.revision accountId = some revision
  device : db.device accountId deviceId = some row
  pending : row.pending = true

theorem activation_of_ok {revision : Nat} {certificate : Bytes}
    (h : db.activateDevice accountId deviceId revision certificate = .ok db') :
    ∃ current row, revision = current + 1 ∧ db.Activation accountId deviceId current row := by
  obtain ⟨⟨account, haccount, hrevision⟩, ⟨row, hrow, hpending⟩, -⟩ := activateDevice_eq_ok.1 h
  exact ⟨account.rosterRevision, row, hrevision, by rw [Db.revision, haccount]; rfl, hrow, hpending⟩

theorem Activation.ok {current : Nat} {row : DeviceRow} (h : db.Activation accountId deviceId current row)
    (certificate : Bytes) : ∃ db', db.activateDevice accountId deviceId (current + 1) certificate = .ok db' := by
  obtain ⟨account, haccount, hcurrent⟩ := Option.map_eq_some_iff.1 h.revision
  exact ⟨_, activateDevice_eq_ok.2 ⟨⟨account, haccount, by rw [hcurrent]⟩, ⟨row, h.device, h.pending⟩, rfl⟩⟩

theorem activate_lifecycle {revision : Nat} {certificate : Bytes} {row : DeviceRow}
    (h : db.activateDevice accountId deviceId revision certificate = .ok db')
    (hrow : db.device accountId deviceId = some row) (hpending : row.pending = true) :
    db'.lifecycle accountId deviceId = (if row.revoked then .revoked else .active) ∧
      (∀ a d, (a, d) ≠ (accountId, deviceId) → db'.lifecycle a d = db.lifecycle a d) ∧
      db'.revision accountId = some revision ∧ ∀ a, a ≠ accountId → db'.revision a = db.revision a := by
  obtain ⟨⟨account, haccount, -⟩, -, hdb⟩ := activateDevice_eq_ok.1 h
  have hdevices : db'.devices = db.devices.update
      (fun row => row.accountId = accountId && row.id = deviceId && row.pending)
      (fun row => { row with pending := false, certificateSignature := certificate }) fun _ => rfl := by rw [hdb]; rfl
  have hid : ∀ {a d : String} {stored : DeviceRow}, db.device a d = some stored → stored.id = d ∧ stored.accountId = a := by
    intro a d stored hstored
    obtain ⟨hfind, haccount⟩ := Option.filter_eq_some_iff.1 hstored
    exact ⟨Table.key_of_find hfind, of_decide_eq_true haccount⟩
  have hkept : ∀ row : DeviceRow, ({ row with pending := false, certificateSignature := certificate } : DeviceRow).accountId =
      row.accountId := fun _ => rfl
  have hdevice := device_update_devices hkept hdevices
  refine ⟨?_, fun a d hne => ?_, ?_, fun a ha => ?_⟩
  · have hafter := hdevice accountId deviceId
    obtain ⟨hdeviceId, haccountId⟩ := hid hrow
    rw [hrow, Option.map_some, if_pos (by simp [hdeviceId, haccountId, hpending])] at hafter
    rw [lifecycle_of_device hafter]
    rfl
  · unfold lifecycle
    rw [hdevice a d]
    cases hstored : db.device a d with
    | none => rfl
    | some stored =>
      obtain ⟨hdeviceId, haccountId⟩ := hid hstored
      rw [Option.map_some, if_neg]
      simp only [Bool.and_eq_true, decide_eq_true_eq]
      rintro ⟨⟨rfl, rfl⟩, -⟩
      exact hne (by rw [hdeviceId, haccountId])
  · have hrevision := revision_updateAccount (congrArg Db.accounts hdb) accountId
    rw [hrevision, haccount]
    have haccountId : account.id = accountId := Table.key_of_find haccount
    simp [haccountId]
  · exact revision_of_ne (congrArg Db.accounts hdb) ha

theorem activate_lawful_iff {revision : Nat} {certificate : Bytes} :
    db.Lawful (.activate accountId deviceId revision certificate) ↔
      ¬db.ActivatesRevoked (.activate accountId deviceId revision certificate) := by
  constructor
  · rintro hlawful ⟨a, d, current, s, heq, hrevision, row, hrow, hpending, hrevoked⟩
    cases heq
    have hactivation : db.Activation accountId deviceId current row := ⟨hrevision, hrow, hpending⟩
    obtain ⟨db', h⟩ := hactivation.ok certificate
    have hok : (db.call (.activate accountId deviceId (current + 1) certificate)).1 = .ok () := by
      simp only [call, h, commit]
    refine hlawful.refuses _ _ _ _ rfl ?_ hok
    rw [lifecycle_of_device hrow]
    exact if_pos hrevoked
  · intro hlate
    cases h : db.activateDevice accountId deviceId revision certificate with
    | error e =>
      have hcall : db.call (.activate accountId deviceId revision certificate) = (.error e, db) := by
        simp only [call, h, commit]
      exact lawful_of_error hcall
    | ok db' =>
      have hcall : db.call (.activate accountId deviceId revision certificate) = (.ok (), db') := by
        simp only [call, h, commit]
      obtain ⟨current, row, rfl, hactivation⟩ := activation_of_ok h
      have hrevoked : row.revoked = false := by
        by_contra hrevoked
        exact hlate ⟨_, _, _, _, rfl, hactivation.revision, row, hactivation.device, hactivation.pending,
          by simpa using hrevoked⟩
      obtain ⟨hafter, hothers, hnext, hrest⟩ := activate_lifecycle h hactivation.device hactivation.pending
      rw [hrevoked, if_neg (by simp)] at hafter
      have hbefore : db.lifecycle accountId deviceId = .pending := by
        rw [lifecycle_of_device hactivation.device, DeviceRow.lifecycle, hrevoked, hactivation.pending]
        rfl
      refine ⟨fun a d => ?_, ?_, fun a d hpending hactive => ?_, fun a _ hidle => ?_, fun hfailed => ?_⟩
      · rw [hcall]
        by_cases hsame : (a, d) = (accountId, deviceId)
        · cases hsame
          rw [hbefore, hafter]
          exact .activated
        · rw [hothers a d hsame]
          exact .same _
      · rintro a d r s heq hdevice
        cases heq
        rw [hbefore] at hdevice
        cases hdevice
      · rw [hcall] at hactive ⊢
        by_cases hsame : (a, d) = (accountId, deviceId)
        · cases hsame
          rw [hnext, hactivation.revision]
          rfl
        · rw [hothers a d hsame, hpending] at hactive
          cases hactive
      · rw [hcall] at hidle ⊢
        refine hrest a fun heq => hidle deviceId ?_
        subst heq
        exact ⟨hbefore, hafter⟩
      · rw [hcall] at hfailed
        exact absurd rfl hfailed

theorem lawful_iff : db.Lawful c ↔ ¬db.ActivatesRevoked c := by
  have hother : (∀ a d r s, c ≠ .activate a d r s) → ¬db.ActivatesRevoked c := by
    rintro hc ⟨a, d, r, s, heq, -⟩
    exact hc _ _ _ _ heq
  cases c with
  | insert accountId bundle sasPublic pending now =>
    exact iff_of_true (insert_lawful bundle sasPublic pending now) (hother nofun)
  | bootstrap accountId master => exact iff_of_true (bootstrap_lawful master) (hother nofun)
  | activate accountId deviceId revision certificate => exact activate_lawful_iff
  | revokeOwn accountId deviceId => exact iff_of_true revokeOwn_lawful (hother nofun)
  | revoke username deviceId => exact iff_of_true (revoke_lawful username) (hother nofun)
  | reset username => exact iff_of_true (reset_lawful username) (hother nofun)

theorem along_congr {p q : Db → DeviceCall → Prop} (h : ∀ db c, p db c ↔ q db c) (cs : List DeviceCall) (db : Db) :
    db.Along p cs ↔ db.Along q cs := by
  induction cs generalizing db with
  | nil => exact Iff.rfl
  | cons c cs ih => exact and_congr (h db c) (ih _)

end Db

/-- Along every sequence of calls, from any database, every call is lawful if and only if no call activates, with
the next revision, a device that was revoked while it was pending. -/
theorem device_lifecycle (db : Db) (cs : List DeviceCall) :
    db.Along Db.Lawful cs ↔ db.Along (fun db c => ¬db.ActivatesRevoked c) cs :=
  Db.along_congr (fun _ _ => Db.lawful_iff) cs db

namespace Scenario.Rejected

/-- Alice has a device. -/
def alone : Db := (clusterAfter (firstDeviceOf 0 "alice" (uuid '1') 'a' 1 2)).shared.db

def second : DeviceBundle :=
  { deviceId := uuid 'b'
    deviceName := "device"
    authSigningKey := bytes32 3
    olmEd25519Key := bytes32 3
    olmCurve25519Key := bytes32 3
    certificateSignature := []
    revoked := false }

def insert : DeviceCall := .insert (uuid '1') second [] true 0

def revokeOwn : DeviceCall := .revokeOwn (uuid '1') (uuid 'b')

def activate : DeviceCall := .activate (uuid '1') (uuid 'b') 2 []

/-- Her second device is revoked before it is activated. -/
def rejected : Db := ((alone.call insert).2.call revokeOwn).2

theorem rejected_activates : rejected.lifecycle (uuid '1') (uuid 'b') = .revoked ∧
    (rejected.call activate).1.isOk = true ∧ rejected.revision (uuid '1') = some 1 ∧
    (rejected.call activate).2.revision (uuid '1') = some 2 := by decide +kernel

theorem revoked_activated : ¬alone.Along Db.Lawful [insert, revokeOwn, activate] := by
  rintro ⟨-, -, hlawful, -⟩
  obtain ⟨hrevoked, hok, -⟩ := rejected_activates
  refine hlawful.refuses (uuid '1') (uuid 'b') 2 [] rfl hrevoked ?_
  change (rejected.call activate).1 = .ok ()
  cases h : (rejected.call activate).1 with
  | ok => rfl
  | error e =>
    rw [h] at hok
    cases hok

end Scenario.Rejected

end TuiChat
