import TuiChat.Server.RequestSteps
import TuiChat.Server.Envelopes
import TuiChat.Lib.Trans
import TuiChat.Verify.Scenario

/-!
# Publishing and claiming prekeys

A publication is answered with `OperationOk` whether its keys were inserted or ignored, and a claim
deletes what it hands over. Where a publication has no id that is stored with other bytes or was
handed out (`FreshIds`), every published key is stored or was handed out, and no key of a device is
handed out twice (`prekeys_accounted`). A client that was restored to before it drew its keys
publishes such ids: one key is lost, another one's place is handed out twice (`restored_client`).
-/

namespace TuiChat

open Lib
open Lib.Proc (wp)

variable {env : ServerEnvironment} {P : Primitives}

/-! ## Runs -/

/-- The database, with the keys that publications were answered for and those that claims handed out,
each with its device. -/
structure PreKeyState where
  db : Db
  published : List (String × OneTimeKey)
  handedOut : List (String × OneTimeKey)

inductive PreKeyOp
  | publish (deviceId : String) (keys : List OneTimeKey) (now : Int)
  | claim (accountId deviceId : String)
  /-- Anything else; it leaves the prekeys alone. -/
  | other (db : Db)

inductive PreKeyStep (st : PreKeyState) : PreKeyOp → PreKeyState → Prop
  | published {deviceId : String} {keys : List OneTimeKey} {now : Int} {db : Db}
      (write : st.db.publishPreKeys deviceId keys now = .ok db) :
    PreKeyStep st (.publish deviceId keys now) { st with
      db
      published := keys.map (deviceId, ·) ++ st.published }
  | claimed {accountId deviceId : String} :
    PreKeyStep st (.claim accountId deviceId) { st with
      db := (st.db.claimPreKey accountId deviceId).2
      handedOut := ((st.db.claimPreKey accountId deviceId).1.map fun r => (deviceId, r.2)).toList ++
        st.handedOut }
  | other {db : Db} (prekeys : db.prekeys = st.db.prekeys) : PreKeyStep st (.other db) { st with db }

/-- The runs of publications and claims from an empty database. -/
def preKeySystem : System PreKeyState PreKeyOp where
  init st := st = { db := .empty, published := [], handedOut := [] }
  step := PreKeyStep

/-- A key's place in the table: its device, and its id. -/
def place (key : String × OneTimeKey) : String × String := (key.1, key.2.keyId)

/-- The id of every published key is new, or is stored for the key itself. -/
def FreshIds (st : PreKeyState) : PreKeyOp → Prop
  | .publish deviceId keys _ => ∀ key ∈ keys,
      (∀ row ∈ st.db.prekeys.rows, row.id = (deviceId, key.keyId) → row.key = key) ∧
      (deviceId, key.keyId) ∉ st.handedOut.map place ∧
      ∀ other ∈ keys, other.keyId = key.keyId → other = key
  | _ => True

/-! ## The statements -/

section

variable {prekeys : Table PreKeyRow.id} {deviceId accountId : String} {now : Int}

/-- After a publication, there is a row with the id of each of its keys. -/
theorem exists_mem_withPreKeys (prekeys : Table PreKeyRow.id) (deviceId : String) (now : Int) {key : OneTimeKey}
    {keys : List OneTimeKey} (h : key ∈ keys) :
    ∃ row ∈ withPreKeys prekeys deviceId now keys, row.id = (deviceId, key.keyId) := by
  induction keys generalizing prekeys with
  | nil => cases h
  | cons first keys ih =>
    rcases List.mem_cons.1 h with rfl | h
    · have hrow : ∃ row ∈ prekeys.insertOrIgnore { deviceId, key, createdAtMs := now },
          row.id = (deviceId, key.keyId) := by
        by_cases hnew : ∀ row ∈ prekeys, row.id ≠ (deviceId, key.keyId)
        · exact ⟨_, Table.mem_insertOrIgnore.2 (.inr ⟨rfl, hnew⟩), rfl⟩
        · push Not at hnew
          obtain ⟨row, hmem, hid⟩ := hnew
          exact ⟨row, Table.mem_insertOrIgnore_of_mem hmem, hid⟩
      obtain ⟨row, hmem, hid⟩ := hrow
      have hkept : row ∈ withPreKeys (prekeys.insertOrIgnore { deviceId, key, createdAtMs := now }) deviceId now keys :=
        mem_withPreKeys_of_mem hmem
      exact ⟨row, hkept, hid⟩
    · exact ih _ h

/-- A claim hands over the key of a row of the device, and deletes that row. -/
theorem Db.claimPreKey_eq (db : Db) (accountId deviceId : String) :
    db.claimPreKey accountId deviceId = (none, db) ∨
      ∃ bundle, ∃ row ∈ db.prekeys, row.deviceId = deviceId ∧
        db.claimPreKey accountId deviceId =
          (some (bundle, row.key), { db with prekeys := db.prekeys.delete fun other => other.id = row.id }) := by
  unfold claimPreKey
  split
  · exact .inl rfl
  split
  · exact .inl rfl
  · next device _ _ row hrow =>
    have hmem : row ∈ (db.prekeys.rows.filter fun row => row.deviceId = deviceId) :=
      (List.mem_insertionSort _).1 (List.mem_of_mem_head? hrow)
    obtain ⟨hmem, hdevice⟩ := List.mem_filter.1 hmem
    exact .inr ⟨device.bundle, row, hmem, of_decide_eq_true hdevice, rfl⟩

end

/-! ## The invariant -/

structure PreKeyState.Accounted (st : PreKeyState) : Prop where
  kept : ∀ key ∈ st.published,
    (∃ row ∈ st.db.prekeys, row.deviceId = key.1 ∧ row.key = key.2) ∨ key ∈ st.handedOut
  once : (st.handedOut.map place).Nodup
  gone : ∀ row ∈ st.db.prekeys, row.id ∉ st.handedOut.map place

theorem PreKeyState.Accounted.step {st st' : PreKeyState} {op : PreKeyOp} (h : st.Accounted)
    (fresh : FreshIds st op) (hs : PreKeyStep st op st') : st'.Accounted := by
  cases hs with
  | other prekeys => exact ⟨by rw [prekeys]; exact h.kept, h.once, by rw [prekeys]; exact h.gone⟩
  | published write =>
    rename_i deviceId keys now db
    obtain ⟨-, rfl⟩ := Db.publishPreKeys_eq_ok.1 write
    refine ⟨fun key hkey => ?_, h.once, fun row hrow => ?_⟩
    · rcases List.mem_append.1 hkey with hkey | hkey
      · obtain ⟨key, hmem, rfl⟩ := List.mem_map.1 hkey
        obtain ⟨row, hrow, hid⟩ := exists_mem_withPreKeys st.db.prekeys deviceId now hmem
        obtain ⟨hdevice, -⟩ := Prod.mk.inj hid
        refine .inl ⟨row, hrow, hdevice, ?_⟩
        rcases mem_withPreKeys hrow with hold | ⟨other, hother, rfl⟩
        · exact (fresh key hmem).1 row hold hid
        · exact (fresh key hmem).2.2 other hother (Prod.mk.inj hid).2
      · exact (h.kept key hkey).imp_left fun ⟨row, hrow, hkept⟩ => ⟨row, mem_withPreKeys_of_mem hrow, hkept⟩
    · rcases mem_withPreKeys hrow with hold | ⟨key, hkey, rfl⟩
      · exact h.gone row hold
      · exact (fresh key hkey).2.1
  | claimed =>
    rename_i accountId deviceId
    rcases st.db.claimPreKey_eq accountId deviceId with hclaim | ⟨bundle, row, hrow, rfl, hclaim⟩
    · rw [hclaim]
      exact ⟨h.kept, h.once, h.gone⟩
    · rw [hclaim]
      refine ⟨fun key hkey => ?_, ?_, fun other hother => ?_⟩
      · rcases h.kept key hkey with ⟨other, hother, hdevice, hkept⟩ | hgone
        · by_cases hsame : other.id = row.id
          · cases Table.eq_of_mem hother hrow hsame
            refine .inr (List.mem_cons.2 (.inl ?_))
            exact Prod.ext hdevice.symm hkept.symm
          · refine .inl ⟨other, Table.mem_delete.2 ⟨hother, ?_⟩, hdevice, hkept⟩
            simpa using hsame
        · exact .inr (List.mem_cons_of_mem _ hgone)
      · exact List.nodup_cons.2 ⟨h.gone row hrow, h.once⟩
      · obtain ⟨hmem, hne⟩ := Table.mem_delete.1 hother
        rw [decide_eq_false_iff_not] at hne
        exact List.not_mem_cons_of_ne_of_not_mem hne (h.gone other hmem)

/-- Where published ids are new, every published key is stored for its device or was handed out, and no
key of a device is handed out twice. -/
theorem prekeys_accounted {st : PreKeyState} (h : preKeySystem.ReachableUnder FreshIds st) :
    (∀ key ∈ st.published,
      (∃ row ∈ st.db.prekeys, row.deviceId = key.1 ∧ row.key = key.2) ∨ key ∈ st.handedOut) ∧
    (st.handedOut.map place).Nodup := by
  have hinv : st.Accounted := h.invariant
    (fun _ hst => by
      cases hst
      exact ⟨nofun, .nil, nofun⟩)
    fun _ _ _ hst fresh hs => hst.step fresh hs
  exact ⟨hinv.kept, hinv.once⟩

/-! ## The server -/

/-- A `PublishPreKeys` that is answered was stored for the session's device. -/
theorem handlePublishPreKeys_published {i : Nat} {id : String} {m : PublishPreKeys} {s : AppState}
    {c : Connection} (handling : c.handling = some (.publishPreKeys m)) :
    wp (Pool.Interferes (Evolves env P)) (ServerStep env P i) (Ws.handlePublishPreKeys env P i id m)
      (fun _ w => ∃ session, ∃ (db : Db) (now : Int) (db' : Db), c.session = some session ∧
        db.publishPreKeys session.deviceId m.keys now = .ok db' ∧ w.1.Had db')
      (fun _ _ => True) (s, c) := by
  refine Keeps.wp_bind Ws.keeps_usableSession (fun _ _ _ => trivial) fun session _ _ ⟨current, _⟩ => ?_
  refine Keeps.wp_bind keeps_ensure (fun _ _ _ => trivial) fun _ _ _ _ => ?_
  refine Ws.wp_device (fun _ _ => trivial) fun found _ => ?_
  refine Keeps.wp_bind keeps_orFail (fun _ _ _ => trivial) fun row _ _ hfound => ?_
  refine Keeps.wp_bind (keeps_each_forall fun _ _ _ => Ws.keeps_checkPreKey) (fun _ _ _ => trivial)
    fun _ _ _ checked => ?_
  refine Keeps.wp_bind Ws.keeps_nowMs (fun _ _ _ => trivial) fun now _ _ _ => ?_
  refine Keeps.wp_bind (Ws.keeps_write fun _ _ _ h => .prekeys session m.keys now current h
    (.published m row handling (by simp [Connection.foundDevice, hfound]) checked)) (fun _ _ _ => trivial)
    fun _ s₁ _ ⟨db, hpublished⟩ => ?_
  refine Proc.wp.mono (Ws.keeps_reply rfl) (fun _ _ h => h) (fun _ w h => ?_) fun _ _ _ => trivial
  exact ⟨session, db, now, s₁.db, current, hpublished, AppState.Had.evolves (.inl rfl) h.1⟩

open Db in
/-- A write of the server publishes keys for the session's device, claims, deletes prekeys (of revoked
devices, and of accounts that are reset or deleted), or leaves them alone. -/
theorem Writes.preKeyStep {had : Db → Prop} {c : Connection} {db db' : Db} (h : Writes env P had c db db')
    (published handedOut : List (String × OneTimeKey)) :
    (∃ op st', PreKeyStep { db, published, handedOut } op st' ∧ st'.db = db' ∧
      ∀ deviceId keys now, op = .publish deviceId keys now →
        PreKeySource P c keys ∧ ∃ session, c.session = some session ∧ session.deviceId = deviceId) ∨
      ∃ p, db'.prekeys = db.prekeys.delete p := by
  have aside : ∀ {db' : Db}, db'.prekeys = db.prekeys →
      (∃ op st', PreKeyStep { db, published, handedOut } op st' ∧ st'.db = db' ∧
        ∀ deviceId keys now, op = .publish deviceId keys now →
          PreKeySource P c keys ∧ ∃ session, c.session = some session ∧ session.deviceId = deviceId) ∨
        ∃ p, db'.prekeys = db.prekeys.delete p := fun h => .inl ⟨_, _, .other h, rfl, nofun⟩
  cases h with
  | prekeys s keys now session write source =>
    refine .inl ⟨_, _, .published write, rfl, fun _ _ _ hop => ?_⟩
    cases hop
    exact ⟨source, s, session, rfl⟩
  | prekeyClaimed accountId deviceId => exact .inl ⟨_, _, .claimed, rfl, nofun⟩
  | cleanedDevice | deleted => exact .inr ⟨_, rfl⟩
  | devicesReset username write =>
    obtain ⟨_, -, rfl⟩ := resetDevices_eq_ok.1 write
    exact .inr ⟨_, rfl⟩
  | claimed s m session pending certificate write =>
    obtain ⟨-, rfl⟩ := bootstrapMaster_eq_ok.1 write
    exact aside rfl
  | inserted s m pendingRow now session pending device certificate key write =>
    obtain ⟨-, -, rfl⟩ := insertDevice_eq_ok.1 write
    exact aside rfl
  | stored s m now free session active write =>
    obtain ⟨_, _, _, _, hdb⟩ := storeEnvelopes_aside write
    rw [hdb]
    exact aside rfl
  | acked s id m now session active received =>
    unfold Db.ack
    split <;> exact aside rfl
  | pairing s e expiresAtMs session size type write =>
    obtain ⟨-, -, rfl⟩ := insertPairingEvent_eq_ok.1 write
    exact aside rfl
  | activated s id m bundle master session active received device pairing key certificate submitted write =>
    obtain ⟨-, -, rfl⟩ := activateDevice_eq_ok.1 write
    exact aside rfl
  | revokedOwn s deviceId session active other =>
    rw [markRevoked_snd]
    exact aside rfl
  | added id username phc write =>
    obtain ⟨-, -, rfl⟩ := addAccount_eq_ok.1 write
    exact aside rfl
  | authenticated | password | pairingAcked | cleanedDelivered | cleanedPairing | audited | userState
  | passwordReset | revoked | pruned => exact aside rfl

namespace Scenario.RestoredKeys

/-- A one-time key of a device, whose curve key is one byte. -/
def oneTimeKey (keyId : String) (byte : UInt8) : OneTimeKey :=
  { keyId
    curve25519Key := bytes32 byte
    signature := primitives.sign (bytes32 2) (prekeyPayload keyId (bytes32 byte)) }

/-- A database with one active device. -/
def withDevice : Db :=
  { Db.empty with
    accounts := Db.empty.accounts.put { AccountRow.added "alice" "alice" "" with masterPublicKey := some (bytes32 1) }
    devices := Db.empty.devices.put
      (.submitted "alice" (Scenario.device "alice" "a1" 1 2) (bytes32 3) false 0) }

def start : PreKeyState := { db := withDevice, published := [], handedOut := [] }

/-- The state after a publication, or the old one if it is refused. -/
def publish (st : PreKeyState) (keys : List OneTimeKey) (now : Int) : PreKeyState :=
  match st.db.publishPreKeys "a1" keys now with
  | .ok db => { st with db, published := keys.map ("a1", ·) ++ st.published }
  | .error _ => st

def claim (st : PreKeyState) : PreKeyState :=
  { st with
    db := (st.db.claimPreKey "alice" "a1").2
    handedOut := ((st.db.claimPreKey "alice" "a1").1.map fun r => ("a1", r.2)).toList ++ st.handedOut }

theorem publish_reachable {C : PreKeyState → PreKeyOp → Prop} {st : PreKeyState} {keys : List OneTimeKey}
    {now : Int} (h : preKeySystem.ReachableUnder C st) (guard : C st (.publish "a1" keys now)) :
    preKeySystem.ReachableUnder C (publish st keys now) := by
  unfold publish
  cases hwrite : st.db.publishPreKeys "a1" keys now with
  | ok db => exact h.step guard (.published hwrite)
  | error e => exact h

theorem claim_reachable {C : PreKeyState → PreKeyOp → Prop} {st : PreKeyState}
    (h : preKeySystem.ReachableUnder C st) (guard : C st (.claim "alice" "a1")) :
    preKeySystem.ReachableUnder C (claim st) := .step h guard .claimed

theorem start_reachable {C : PreKeyState → PreKeyOp → Prop} (guard : ∀ st db, C st (.other db)) :
    preKeySystem.ReachableUnder C start :=
  .step (.init rfl) (guard _ _) (.other rfl)

/-- The client draws a key again under an id it had used, with other bytes. -/
def ignored : PreKeyState := publish (publish start [oneTimeKey "AAAAAQ" 7] 0) [oneTimeKey "AAAAAQ" 8] 1

/-- The first key was claimed when the client draws the second one. -/
def reissued : PreKeyState :=
  claim (publish (claim (publish start [oneTimeKey "AAAAAQ" 7] 0)) [oneTimeKey "AAAAAQ" 8] 1)

/-- A key that was answered for is nowhere; a place is handed out twice. -/
theorem restored_client :
    (preKeySystem.Reachable ignored ∧ ("a1", oneTimeKey "AAAAAQ" 8) ∈ ignored.published ∧
      ¬((∃ row ∈ ignored.db.prekeys, row.deviceId = "a1" ∧ row.key = oneTimeKey "AAAAAQ" 8) ∨
        ("a1", oneTimeKey "AAAAAQ" 8) ∈ ignored.handedOut)) ∧
    preKeySystem.Reachable reissued ∧ ¬(reissued.handedOut.map place).Nodup := by
  have hstart : preKeySystem.Reachable start := start_reachable fun _ _ => trivial
  have hfirst : preKeySystem.Reachable (publish start [oneTimeKey "AAAAAQ" 7] 0) :=
    publish_reachable hstart trivial
  refine ⟨⟨publish_reachable hfirst trivial, by decide +kernel, ?_⟩, ?_, by decide +kernel⟩
  · show ¬((∃ row ∈ ignored.db.prekeys.rows, row.deviceId = "a1" ∧ row.key = oneTimeKey "AAAAAQ" 8) ∨ _)
    decide +kernel
  · exact claim_reachable (publish_reachable (claim_reachable hfirst trivial) trivial) trivial

/-- Two keys are published, and one of them is claimed. -/
theorem prekeys_accounted_claimed :
    let st := claim (publish start [oneTimeKey "AAAAAQ" 7, oneTimeKey "AAAAAg" 8] 0)
    (∀ key ∈ st.published,
      (∃ row ∈ st.db.prekeys, row.deviceId = key.1 ∧ row.key = key.2) ∨ key ∈ st.handedOut) ∧
    (st.handedOut.map place).Nodup ∧ st.published.length = 2 ∧ st.handedOut.length = 1 := by
  have hrun : preKeySystem.ReachableUnder FreshIds
      (claim (publish start [oneTimeKey "AAAAAQ" 7, oneTimeKey "AAAAAg" 8] 0)) := by
    refine claim_reachable (publish_reachable (start_reachable fun _ _ => trivial) ?_) trivial
    show ∀ key ∈ [oneTimeKey "AAAAAQ" 7, oneTimeKey "AAAAAg" 8], _
    decide +kernel
  exact ⟨(prekeys_accounted hrun).1, (prekeys_accounted hrun).2, by decide +kernel, by decide +kernel⟩

end Scenario.RestoredKeys

end TuiChat
