import TuiChat.Server.Roster
import TuiChat.Verify.ServerScenario

/-!
# Certificates and master keys

A session decides on the account that it read when it was opened, and its statements meet the account as
it is then. Where every device appears under the key that its account has (`AppearsUnderKey`), the
devices of the database are certified in every state (`certified_under`). Nothing in the code sees to
it: a device that was waiting to be submitted is inserted after its account was reset
(`keyless_device`).
-/

namespace TuiChat

open Lib

variable {env : ServerEnvironment} {P : Primitives}

/-! ## Devices that appear -/

def Db.masterKey (db : Db) (accountId : String) : Option Bytes :=
  (db.accounts.find accountId).bind AccountRow.masterPublicKey

/-- The device is new, or it was pending and is no more. -/
def Appears (db : Db) (row : DeviceRow) : Prop :=
  ∀ old ∈ db.devices.rows, old.id = row.id → old.pending = true ∧ row.pending = false

instance (db : Db) (row : DeviceRow) : Decidable (Appears db row) := by unfold Appears; infer_instance

/-- An unrevoked device that appears is one of an account that has a key; if it is not pending, the key
is the one that the connection works with. -/
def AppearsUnderKey (s : AppState) (c : Connection) (s' : AppState) : Prop :=
  ∀ row ∈ s'.db.devices.rows, row.revoked = false → Appears s.db row →
    (s.db.masterKey row.accountId).isSome ∧
      (row.pending = false → c.workingKey = s.db.masterKey row.accountId)

instance (s : AppState) (c : Connection) (s' : AppState) : Decidable (AppearsUnderKey s c s') := by
  unfold AppearsUnderKey; infer_instance

/-! ## The invariant -/

/-- The unrevoked devices of the database have the certificates they need. -/
structure Db.Certified (P : Primitives) (db : Db) : Prop where
  certificate : ∀ row ∈ db.devices, row.revoked = false → row.pending = false →
    ∃ account ∈ db.accounts, ∃ master, account.id = row.accountId ∧
      account.masterPublicKey = some master ∧ row.CertifiedBy P master
  keyless : ∀ account ∈ db.accounts, account.masterPublicKey = none →
    ∀ row ∈ db.devices, row.accountId = account.id → row.revoked = true

/-- An unrevoked device is one of an account with a key; if it is not pending, it is certified by it. -/
def Roster.Certified (P : Primitives) (r : Roster) : Prop :=
  ∀ d row, r.device d = some row → row.revoked = false →
    ∃ master, r.master row.accountId = some (some master) ∧ (row.pending = false → row.CertifiedBy P master)

theorem Roster.Certified.db {db : Db} (h : db.roster.Certified P) : db.Certified P := by
  have found : ∀ row ∈ db.devices, db.roster.device row.id = some row.lasting := fun row hrow =>
    Db.roster_device.2 ⟨row, hrow, rfl, rfl⟩
  constructor
  · intro row hrow hunrevoked hactive
    obtain ⟨master, hmaster, hcertified⟩ := h row.id row.lasting (found row hrow) hunrevoked
    obtain ⟨account, haccount, hkey⟩ := Option.map_eq_some_iff.1 hmaster
    exact ⟨account, Table.mem_of_find haccount, master, Table.key_of_find haccount, hkey, hcertified hactive⟩
  · intro account haccount hnone row hrow hown
    by_contra hrevoked
    rw [Bool.not_eq_true] at hrevoked
    obtain ⟨master, hmaster, -⟩ := h row.id row.lasting (found row hrow) hrevoked
    have hfind : db.roster.master row.accountId = some none := by
      rw [hown]
      exact Option.map_eq_some_iff.2 ⟨account, Table.find_of_mem haccount, hnone⟩
    cases hfind.symm.trans hmaster

/-- What appears is as the condition says, and the rest is as it was. -/
theorem RosterStep.certified {had : Db → Prop} {key : Option Bytes} {r r' : Roster}
    (h : RosterStep P had key r r') (hr : r.Certified P)
    (appears : ∀ d row, r'.device d = some row → row.revoked = false →
      (∀ old, r.device d = some old → old.pending = true ∧ row.pending = false) →
      ∃ master, r.master row.accountId = some (some master) ∧ (row.pending = false → key = some master))
    (lasting : ∀ bundle row, SubmittedIn had row.accountId bundle → r.device bundle.deviceId = some row →
      row.authSigningKey = bundle.authSigningKey ∧ row.olmEd25519Key = bundle.olmEd25519Key ∧
        row.olmCurve25519Key = bundle.olmCurve25519Key) : r'.Certified P := by
  intro d row hrow hunrevoked
  cases h with
  | aside => exact hr d row hrow hunrevoked
  | added accountId fresh =>
    obtain ⟨master, hmaster, hcertified⟩ := hr d row hrow hunrevoked
    have hne : row.accountId ≠ accountId := by
      intro hown
      rw [hown, fresh] at hmaster
      cases hmaster
    exact ⟨master, (Function.update_of_ne hne ..).trans hmaster, hcertified⟩
  | claimed accountId master keyless =>
    obtain ⟨master', hmaster, hcertified⟩ := hr d row hrow hunrevoked
    have hne : row.accountId ≠ accountId := by
      intro hown
      rw [hown, keyless] at hmaster
      cases hmaster
    exact ⟨master', (Function.update_of_ne hne ..).trans hmaster, hcertified⟩
  | inserted new account fresh certified =>
    have hnew := appears new.id new (Function.update_self ..)
    dsimp only at hrow
    rw [Function.update_apply] at hrow
    split at hrow
    · cases hrow
      obtain ⟨master, hmaster, hkey⟩ := hnew hunrevoked fun old hold => by cases fresh.symm.trans hold
      refine ⟨master, hmaster, fun hactive => ?_⟩
      obtain ⟨master', hkey', hcertificate⟩ := certified hactive
      cases (hkey hactive).symm.trans hkey'
      exact hcertificate
    · exact hr d row hrow hunrevoked
  | activated old bundle master account found pending device submitted working certificate =>
    have hnew := appears old.id _ (Function.update_self ..)
    have hkeys := lasting bundle old submitted (device ▸ found)
    dsimp only at hrow
    rw [Function.update_apply] at hrow
    split at hrow
    · cases hrow
      obtain ⟨master', hmaster, hkey⟩ := hnew hunrevoked fun other hother => by
        cases found.symm.trans hother
        exact ⟨pending, rfl⟩
      cases working.symm.trans (hkey rfl)
      refine ⟨master, hmaster, fun _ => ?_⟩
      unfold DeviceRow.CertifiedBy Ws.verifyDeviceCertificate DeviceRow.bundle
      unfold Ws.verifyDeviceCertificate at certificate
      rwa [hkeys.1, hkeys.2.1, hkeys.2.2, ← device]
    · exact hr d row hrow hunrevoked
  | revoked p =>
    obtain ⟨old, hold, rfl⟩ := Option.map_eq_some_iff.1 hrow
    split at hunrevoked
    · cases hunrevoked
    · next hp =>
      rw [if_neg hp]
      exact hr d old hold hunrevoked
  | reset accountId account =>
    obtain ⟨old, hold, rfl⟩ := Option.map_eq_some_iff.1 hrow
    split at hunrevoked
    · cases hunrevoked
    · next hne =>
      rw [if_neg hne]
      obtain ⟨master, hmaster, hcertified⟩ := hr d old hold hunrevoked
      exact ⟨master, (Function.update_of_ne hne ..).trans hmaster, hcertified⟩
  | deleted accountId =>
    obtain ⟨hold, hne⟩ := Option.filter_eq_some_iff.1 hrow
    obtain ⟨master, hmaster, hcertified⟩ := hr d row hold hunrevoked
    exact ⟨master, (Function.update_of_ne (of_decide_eq_true hne) ..).trans hmaster, hcertified⟩

theorem Db.masterKey_eq_some {db : Db} {accountId : String} {master : Bytes} :
    db.masterKey accountId = some master ↔ db.roster.master accountId = some (some master) := by
  simp [Db.masterKey, Db.roster, Option.bind_eq_some_iff]

/-- Where accounts are new and devices appear under the keys of their accounts, the devices are certified
in every state. -/
theorem certified_under {p : Cluster} (h : (serverSystem env P).ReachableUnder
    (Cluster.Meets fun s c s' => NewAccounts s s' ∧ AppearsUnderKey s c s') p) :
    p.shared.db.Certified P := by
  refine Roster.Certified.db (Cluster.invariant_under
    (I := fun s _ => Registered s ∧ s.db.roster.Certified P) h
    ⟨.initial, fun _ _ h => (nomatch h)⟩ (fun i s cs s' c' ⟨hregistered, hI⟩ ⟨fresh, appears⟩ hs =>
      ⟨hregistered.step fresh hs, ?_⟩) fun _ _ ⟨hregistered, hI⟩ =>
        ⟨⟨hregistered.linked, hregistered.lasting⟩, hI⟩).2
  cases hs with
  | wrote log events write =>
    refine write.roster.certified hI (fun d row hrow hunrevoked hnew => ?_) fun bundle row submitted hrow => ?_
    · obtain ⟨stored, hstored, hid, rfl⟩ := Db.roster_device.1 hrow
      obtain ⟨hsome, hworking⟩ := appears stored hstored hunrevoked fun old hold hsame =>
        hnew old.lasting (Db.roster_device.2 ⟨old, hold, hsame.trans hid, rfl⟩)
      obtain ⟨master, hmaster⟩ := Option.isSome_iff_exists.1 hsome
      exact ⟨master, Db.masterKey_eq_some.1 hmaster, fun hactive => (hworking hactive).trans hmaster⟩
    · -- The row that was checked is still the device's.
      obtain ⟨db, had, old, hold, hauth, hed, hcurve⟩ := submitted
      obtain ⟨hfind, hown⟩ := Option.filter_eq_some_iff.1 hold
      rw [decide_eq_true_eq] at hown
      have holdRoster : db.roster.device bundle.deviceId = some old.lasting :=
        Option.map_eq_some_iff.2 ⟨old, hfind, rfl⟩
      have haccount : (s.db.roster.master old.lasting.accountId).isSome := by
        rw [show old.lasting.accountId = row.accountId from hown]
        exact hregistered.linked s.db (.inl rfl) _ _ hrow
      obtain ⟨row', hrow', hsame, -⟩ := hregistered.lasting db had _ _ holdRoster haccount
      cases hrow'.symm.trans hrow
      exact ⟨hsame.authSigningKey.trans hauth, hsame.olmEd25519Key.trans hed,
        hsame.olmCurve25519Key.trans hcurve⟩
  | _ => exact hI

namespace Scenario.Reset

/-- The first device of an account logs in. -/
def firstLogin : List Move :=
  [.command 9 (.userAdd "alice" password),
    .frame 0 (helloOf "alice" (uuid 'a')),
    .frame 0 (passwordOf "alice" (uuid 'a')),
    .frame 0 (bootstrapOf (uuid '1') (uuid 'a') 1 2)]

/-- A second device has entered the password when the devices are reset, and is submitted then. -/
def lateSubmission : List Move :=
  firstLogin ++
    [.frame 1 (helloOf "alice" (uuid 'b')),
      .frame 1 (passwordOf "alice" (uuid 'b')),
      .command 9 (.userResetDevices "alice"),
      .frame 1 (joiningOf (uuid 'b') 1 3)]

theorem certified_under_firstLogin : (clusterAfter firstLogin).shared.db.Certified primitives ∧
    (clusterAfter firstLogin).shared.db.devices.rows.length = 1 :=
  ⟨@certified_under server _ _ (clusterAfter_under (by decide +kernel)), by decide +kernel⟩

/-- The account has no master key, and a device that is not revoked. -/
theorem keyless_device : (serverSystem server primitives).Reachable (clusterAfter lateSubmission) ∧
    ¬(clusterAfter lateSubmission).shared.db.Certified primitives := by
  refine ⟨clusterAfter_reachable _, fun h => ?_⟩
  have hkeyless : (clusterAfter lateSubmission).shared.db.accounts.rows.all
      (fun account => account.masterPublicKey.isNone &&
        (clusterAfter lateSubmission).shared.db.devices.rows.any fun row =>
          row.accountId = account.id && !row.revoked) = true ∧
      (clusterAfter lateSubmission).shared.db.accounts.rows.isEmpty = false := by decide +kernel
  obtain ⟨account, haccount⟩ := List.exists_mem_of_ne_nil _ (List.isEmpty_eq_false_iff.1 hkeyless.2)
  have hfound := List.all_eq_true.1 hkeyless.1 account haccount
  rw [Bool.and_eq_true, Option.isNone_iff_eq_none] at hfound
  obtain ⟨row, hrow, hrest⟩ := List.any_eq_true.1 hfound.2
  rw [Bool.and_eq_true, decide_eq_true_eq, Bool.not_eq_true'] at hrest
  have hrevoked := h.keyless account haccount hfound.1 row hrow hrest.1
  rw [hrest.2] at hrevoked
  cases hrevoked

end Scenario.Reset

end TuiChat
