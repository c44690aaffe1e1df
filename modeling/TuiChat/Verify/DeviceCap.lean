import TuiChat.Server.Roster
import TuiChat.Client.Queued
import TuiChat.Verify.ServerScenario
import Mathlib.Data.Set.Card

/-!
# The number of devices of an account

The server counts the active devices of an account when another one is submitted, and not when it is
activated. Where no device becomes active beside eight others (`BelowCap`), there are at most eight in
every state, and the list that a text is encrypted for, of devices that the server has named, fits into
one batch (`device_cap`). With seven active devices two more can be submitted, and both be activated
(`ninth_device`).
-/

namespace TuiChat

open Lib
open Lib.Prog (wp)

variable {env : ServerEnvironment} {P : Primitives}

/-! ## Active devices -/

/-- The ids of the active devices of an account. -/
def Roster.actives (r : Roster) (accountId : String) : Set String :=
  {d | ∃ row, r.device d = some row ∧ row.accountId = accountId ∧ row.active = true}

theorem Db.actives_eq (db : Db) (accountId : String) : db.roster.actives accountId =
    (((db.devicesOf accountId).filter DeviceRow.active).map DeviceRow.id).toFinset := by
  ext d
  simp only [Roster.actives, Set.mem_ofPred_eq, List.coe_toFinset, List.mem_map, List.mem_filter]
  constructor
  · rintro ⟨_, hrow, hown, hactive⟩
    obtain ⟨row, hmem, hid, rfl⟩ := Db.roster_device.1 hrow
    exact ⟨row, ⟨List.mem_filter.2 ⟨hmem, decide_eq_true hown⟩, hactive⟩, hid⟩
  · rintro ⟨row, ⟨hrow, hactive⟩, hid⟩
    obtain ⟨hmem, hown⟩ := List.mem_filter.1 hrow
    exact ⟨row.lasting, Db.roster_device.2 ⟨row, hmem, hid, rfl⟩, of_decide_eq_true hown, hactive⟩

theorem Db.actives_finite (db : Db) (accountId : String) : (db.roster.actives accountId).Finite := by
  rw [actives_eq]
  exact Finset.finite_toSet _

theorem Db.deviceCounts_eq (db : Db) (accountId : String) :
    (db.deviceCounts accountId).1 = (db.roster.actives accountId).ncard := by
  have hnodup : (((db.devicesOf accountId).filter DeviceRow.active).map DeviceRow.id).Nodup :=
    db.devices.nodup.sublist ((List.filter_sublist.trans List.filter_sublist).map DeviceRow.id)
  rw [actives_eq, Set.ncard_coe_finset, List.toFinset_card_of_nodup hnodup, List.length_map]
  exact List.countP_eq_length_filter

/-- A step makes at most one device active; an account whose devices it does not make active has no other
active devices than before. -/
theorem RosterStep.actives {had : Db → Prop} {key : Option Bytes} {r r' : Roster}
    (h : RosterStep P had key r r') (accountId : String) :
    r'.actives accountId ⊆ r.actives accountId ∨
      ∃ d row, r'.device d = some row ∧ row.accountId = accountId ∧ row.active = true ∧
        (∀ old, r.device d = some old → old.active = false) ∧
        r'.actives accountId ⊆ insert d (r.actives accountId) := by
  -- One device gets another row.
  have one : ∀ (d : String) (new : DeviceRow), (∀ old, r.device d = some old → old.active = false) →
      r'.device = Function.update r.device d (some new) →
      r'.actives accountId ⊆ r.actives accountId ∨
        ∃ d row, r'.device d = some row ∧ row.accountId = accountId ∧ row.active = true ∧
          (∀ old, r.device d = some old → old.active = false) ∧
          r'.actives accountId ⊆ insert d (r.actives accountId) := by
    intro d new hold hdevice
    by_cases hnew : new.accountId = accountId ∧ new.active = true
    · refine .inr ⟨d, new, ?_, hnew.1, hnew.2, hold, ?_⟩
      · rw [hdevice, Function.update_self]
      · rintro d' ⟨row, hrow, hown⟩
        rw [hdevice, Function.update_apply] at hrow
        split at hrow
        · next hd => exact .inl hd
        · exact .inr ⟨row, hrow, hown⟩
    · refine .inl ?_
      rintro d' ⟨row, hrow, hown⟩
      rw [hdevice, Function.update_apply] at hrow
      split at hrow
      · cases hrow
        exact absurd hown hnew
      · exact ⟨row, hrow, hown⟩
  cases h with
  | aside | added | claimed => exact .inl subset_rfl
  | inserted new account fresh certified =>
    exact one new.id new (fun old hold => by cases fresh.symm.trans hold) rfl
  | activated old bundle master account found pending device submitted working certificate =>
    refine one old.id _ (fun other hother => ?_) rfl
    cases found.symm.trans hother
    simp [DeviceRow.active, pending]
  | revoked p =>
    refine .inl ?_
    rintro d ⟨row, hrow, hown, hactive⟩
    obtain ⟨old, hold, rfl⟩ := Option.map_eq_some_iff.1 hrow
    split at hactive
    · simp [DeviceRow.active] at hactive
    · next hp =>
      rw [if_neg hp] at hown
      exact ⟨old, hold, hown, hactive⟩
  | reset accountId' account =>
    refine .inl ?_
    rintro d ⟨row, hrow, hown, hactive⟩
    obtain ⟨old, hold, rfl⟩ := Option.map_eq_some_iff.1 hrow
    split at hactive
    · simp [DeviceRow.active] at hactive
    · next hp =>
      rw [if_neg hp] at hown
      exact ⟨old, hold, hown, hactive⟩
  | deleted accountId' =>
    refine .inl ?_
    rintro d ⟨row, hrow, hown, hactive⟩
    exact ⟨row, (Option.filter_eq_some_iff.1 hrow).1, hown, hactive⟩

/-- A device becomes active only while its account has less than eight that are. -/
def BelowCap (s : AppState) (_ : Connection) (s' : AppState) : Prop :=
  ∀ row ∈ s'.db.devices.rows, row.active = true →
    (∀ old ∈ s.db.devices.rows, old.id = row.id → old.active = false) →
      (s.db.deviceCounts row.accountId).1 < 8

instance (s : AppState) (c : Connection) (s' : AppState) : Decidable (BelowCap s c s') := by
  unfold BelowCap; infer_instance

theorem deviceCounts_le {p : Cluster}
    (h : (serverSystem env P).ReachableUnder (Cluster.Meets BelowCap) p) (accountId : String) :
    (p.shared.db.deviceCounts accountId).1 ≤ 8 := by
  refine Cluster.invariant_under (I := fun s _ => ∀ a, (s.db.deviceCounts a).1 ≤ 8) h
    (fun _ => Nat.zero_le _) (fun i s cs s' c' hI below hs => ?_) (fun _ _ hI => hI) accountId
  cases hs with
  | wrote log events write =>
    intro a
    rw [Db.deviceCounts_eq]
    dsimp only
    rcases write.roster.actives a with hsub | ⟨d, row, hrow, hown, hactive, hold, hsub⟩
    · have hle := Set.ncard_le_ncard hsub (s.db.actives_finite a)
      have := hI a
      rw [Db.deviceCounts_eq] at this
      omega
    · obtain ⟨stored, hstored, hid, rfl⟩ := Db.roster_device.1 hrow
      have hbelow := below stored hstored hactive fun old hmem hsame =>
        hold old.lasting (Db.roster_device.2 ⟨old, hmem, hsame.trans hid, rfl⟩)
      rw [show stored.accountId = a from hown, Db.deviceCounts_eq] at hbelow
      have hle := Set.ncard_le_ncard hsub ((s.db.actives_finite a).insert d)
      have hinsert := Set.ncard_insert_le d (s.db.roster.actives a)
      omega
  | _ => exact hI

/-! ## The list that a text is encrypted for -/

/-- The bundle has the devices that the server has named of an account. -/
def Db.Names (db : Db) (bundle : UserBundle) : Prop :=
  ∃ username account, db.lookupUserBundle username = some (account, bundle.devices)

theorem Db.Names.active_length {db : Db} {bundle : UserBundle} (h : db.Names bundle) :
    ∃ accountId, bundle.active.length = (db.deviceCounts accountId).1 := by
  obtain ⟨username, account, hlookup⟩ := h
  unfold lookupUserBundle at hlookup
  split at hlookup
  · cases hlookup
  split at hlookup
  · cases hlookup
  next found _ _ =>
  have hdevices : db.deviceBundles found.id false = bundle.devices :=
    congrArg Prod.snd (Option.some.inj hlookup)
  refine ⟨found.id, ?_⟩
  rw [UserBundle.active, ← hdevices]
  show ((db.deviceBundles found.id false).filter _).length = (db.devicesOf found.id).countP DeviceRow.active
  rw [deviceBundles, List.filter_map, List.length_map, List.filter_filter, List.countP_eq_length_filter]
  congr 2
  funext row
  cases hrevoked : row.revoked <;> simp [DeviceRow.bundle, DeviceRow.active, hrevoked]

/-- Batches that were queued meanwhile have at most `n` envelopes. -/
def Batches (n : Nat) (w w' : World P) : Prop :=
  ∀ message, .queued message ∈ w'.log → .queued message ∈ w.log ∨ message.envelopes.length ≤ n

instance {n : Nat} : Std.Refl (Batches (P := P) n) := ⟨fun _ _ h => .inl h⟩

instance {n : Nat} : IsTrans (World P) (Batches n) :=
  ⟨fun _ _ _ h h' m hm => (h' m hm).elim (h m) .inr⟩

theorem QuietStep.queued {v v' : View P} (h : QuietStep v v') {message : SendEnvelopes}
    (hm : .queued message ∈ v'.log) : .queued message ∈ v.log := by
  cases h with
  | upsert | imported => simpa [View.keyWritten] using hm
  | loaded | opened | displayed | verified | committed | raised | decrypted | encrypted | requested
  | started | compared | migrated | certified | handled =>
    rcases List.mem_cons.1 hm with heq | hold
    · cases heq
    · exact hold
  | shown | flags | deleted | message | aside | sent | joined | marked | ended => exact hm

theorem Quiet.batches {n : Nat} {w w' : World P} (h : Quiet w w') : Batches n w w' := by
  intro message hm
  have hlog : ∀ {v v' : View P}, Relation.ReflTransGen QuietStep v v' → .queued message ∈ v'.log →
      .queued message ∈ v.log := by
    intro v v' h
    induction h with
    | refl => exact id
    | tail _ hs ih => exact fun hm => ih (hs.queued hm)
  exact .inl (hlog h hm)

section

variable {env : Environment}

/-- The answer of a request. -/
theorem wp_request {body : Body} {w : World P} :
    wp (request env body : ClientM P (Option Body)) (fun r _ => ∃ n, env.answer n body = .ok r)
      (fun _ _ => True) w := by
  unfold request
  rw [Prog.wp_bind]
  refine wp.trivial.mono (fun id w₁ _ => ?_) fun _ _ h => h
  rw [Prog.wp_bind]
  refine wp.trivial.mono (fun _ w₂ _ => ?_) fun _ _ h => h
  rw [Prog.wp_bind]
  refine wp.trivial.mono (fun n w₃ _ => ?_) fun _ _ h => h
  cases hanswer : env.answer n body with
  | error e => trivial
  | ok r =>
    split
    · trivial
    · trivial
    · next response _ heq =>
      cases heq
      exact ⟨n, hanswer⟩

/-- What is known of the bundles that are answered, or cached, is known of one that is looked up. -/
theorem wp_lookupBundle {p : UserBundle → Prop} {username : String} {w : World P}
    (cached : ∀ entry ∈ w.app.bundleCache, p entry.bundle)
    (answered : ∀ n body bundle, env.answer n body = .ok (some (.userBundle bundle)) → p bundle) :
    wp (lookupBundle env username : ClientM P UserBundle) (fun bundle _ => p bundle) (fun _ _ => True) w := by
  have fresh : ∀ w' : World P, wp (lookupBundleFresh env username : ClientM P UserBundle)
      (fun bundle _ => p bundle) (fun _ _ => True) w' := by
    intro w'
    unfold lookupBundleFresh
    refine wp_request.bind fun response w₁ ⟨n, hanswer⟩ => wp.orFail True.intro fun bundle hbundle => ?_
    rw [Prog.wp_bind]
    refine wp.trivial.mono (fun _ _ _ => ?_) fun _ _ h => h
    cases response with
    | none => cases hbundle
    | some body =>
      cases body with
      | userBundle found =>
        cases hbundle
        exact answered n _ _ hanswer
      | _ => cases hbundle
  unfold lookupBundle
  rw [wp_getApp_bind]
  split
  · exact fresh w
  · next entry hentry =>
    rw [Prog.wp_bind]
    refine wp.trivial.mono (fun now w₁ _ => ?_) fun _ _ h => h
    rw [Prog.wp_ite]
    exact ⟨fun _ => cached entry (Table.mem_of_find hentry), fun _ => fresh w₁⟩

/-- One envelope for each target. -/
theorem encryptTargets_length (o : Outgoing) : ∀ (targets : List Target) (m : OlmMachine P.olm)
    (w : World P), wp (encryptTargets env o m targets) (fun r _ => r.1.length = targets.length)
      (fun _ _ => True) w
  | [], _, _ => rfl
  | t :: ts, m, w => by
    unfold encryptTargets
    refine wp.ofExcept (fun _ => True.intro) fun _ _ => ?_
    rw [Prog.wp_bind]
    refine wp.trivial.mono (fun r w₁ _ => ?_) fun _ _ h => h
    rw [Prog.wp_bind]
    refine wp.trivial.mono (fun id w₂ _ => ?_) fun _ _ h => h
    rw [Prog.wp_bind]
    refine (encryptTargets_length o ts r.2 w₂).mono (fun r' w₃ hr' => ?_) fun _ _ h => h
    exact congrArg Nat.succ hr'

theorem Lib.Prog.Moves.batches {α : Type} {n : Nat} {m : ClientM P α} (h : IsQuiet m) :
    Prog.Moves (Batches n) m := h.mono fun _ _ => Quiet.batches

theorem modifyApp_batches {n : Nat} (f : App P → App P) :
    Prog.Moves (Batches n) (modifyApp f : ClientM P Unit) := fun _ _ h => .inl h

theorem dispatchBackground_batches {n : Nat} (f : Frame) (operation : BackgroundRequest) :
    Prog.Moves (Batches n) (dispatchBackground env f operation : ClientM P Unit) := by
  refine .of_wp fun w => wp_dispatchBackground.mono (fun _ w' ⟨f', _, hw'⟩ message hm => .inl ?_)
    fun _ w' hw' => (Quiet.of_view_eq hw').batches
  have hlog : w'.log = w.log := congrArg View.log hw'
  rwa [hlog] at hm

/-- A text is queued for no more devices than the bundle of its contact and the own one have. -/
theorem sendText_batches {n k : Nat} {text : String} {w : World P}
    (peer : ∀ contact, w.app.selectedContact = some contact → contact.bundle.active.length ≤ n)
    (cached : ∀ entry ∈ w.app.bundleCache, entry.bundle.active.length ≤ k)
    (answered : ∀ i body bundle, env.answer i body = .ok (some (.userBundle bundle)) →
      bundle.active.length ≤ k) :
    wp (sendText env text) (fun _ w' => Batches (n + k) w w') (fun _ w' => Batches (n + k) w w') w := by
  have stays : Batches (n + k) w w := refl_of _ w
  have own : wp (ownBundle (lookupBundle env) : ClientM P UserBundle)
      (fun bundle _ => bundle.active.length ≤ k) (fun _ _ => True) w := by
    unfold ownBundle
    rw [wp_getApp_bind]
    refine (wp_lookupBundle cached answered).bind fun bundle w₁ hbundle => ?_
    exact wp.ensure True.intro fun _ => hbundle
  unfold sendText
  refine wp.ensure stays fun _ => ?_
  rw [wp_getApp_bind]
  refine wp.orFail stays fun contact hcontact => ?_
  rw [Prog.wp_ite]
  refine ⟨fun _ => ?_, fun _ => ?_⟩
  · exact Prog.Moves.wp (.bind showSafetyCode_quiet.batches fun _ => .fail _) w
  refine wp.ofExcept (fun _ => stays) fun _ _ => ?_
  rw [Prog.wp_bind]
  refine (((ownBundle_steady lookupBundle_steady).wp w).and own).mono (fun selfBundle w₁ ⟨hw₁, hself⟩ => ?_)
    fun _ _ h => h.1.1.batches
  refine newUuid_quiet.wp_bind (fun _ _ h => (hw₁.1.trans h).batches) fun logicalId w₂ hw₂ => ?_
  replace hw₂ := hw₁.1.trans hw₂
  refine nowMs_quiet.wp_bind (fun _ _ h => (hw₂.trans h).batches) fun sentAtMs w₃ hw₃ => ?_
  replace hw₃ := hw₂.trans hw₃
  rw [wp_getApp_bind]
  show wp (encryptTargets env _ w₃.app.profile.machine _ >>= _) _ _ w₃
  rw [Prog.wp_bind]
  refine ((encryptTargets_derived _ _ _ w₃ [] (.refl w₃.log _)).and (encryptTargets_length _ _ _ w₃)).mono
    (fun r w₄ ⟨⟨hw₄, _⟩, hlength⟩ => ?_) fun _ _ h => (hw₃.trans h.1.1).batches
  replace hw₄ := hw₃.trans hw₄.1
  refine wp.ensure hw₄.batches fun _ => ?_
  refine newUuid_quiet.wp_bind (fun _ _ h => (hw₄.trans h).batches) fun _ w₅ hw₅ => ?_
  replace hw₅ := hw₄.trans hw₅
  refine nowMs_quiet.wp_bind (fun _ _ h => (hw₅.trans h).batches) fun now w₆ hw₆ => ?_
  replace hw₆ := hw₅.trans (hw₆.trans (ticked_quiet w₆))
  rw [Prog.wp_bind]
  refine wp_commitMachine (fun _ => hw₆.batches) fun store hstore => ?_
  -- The batch has an envelope for each target; nothing is queued after it.
  have hbatch : r.1.length ≤ n + k := by
    have htargets := textTargets_length w₃.app.profile contact.bundle selfBundle
    have := peer contact hcontact
    omega
  have hcommitted : Batches (n + k) w
      (w₆.ticked.committedWith store [.queued { envelopes := r.1 }] r.2) := by
    intro message hmessage
    rcases List.mem_cons.1 hmessage with heq | hmessage
    · cases heq
      exact .inr hbatch
    · exact hw₆.batches message hmessage
  have rest : ∀ {m : ClientM P Unit}, Prog.Moves (Batches (n + k)) m →
      wp m (fun _ w' => Batches (n + k) w w') (fun _ w' => Batches (n + k) w w')
        (w₆.ticked.committedWith store [.queued { envelopes := r.1 }] r.2) := fun h =>
    (h.wp _).mono (fun _ _ h => IsTrans.trans _ _ _ hcommitted h) fun _ _ h => IsTrans.trans _ _ _ hcommitted h
  refine rest (.bind (modifyApp_batches _) fun _ => .bind (.succeeds (dispatchBackground_batches _ _))
    fun _ => ?_)
  have hdraft : ∀ conversation, Prog.Moves (Batches (P := P) (n + k))
      (execute env fun s => some (s.saveDraft conversation "")) := fun conversation =>
    (execute_some_quiet fun _ => .saveDraft conversation _).batches
  refine .ite (fun _ => .bind (setStatus_quiet _).batches fun _ => .bind (hdraft _) fun _ => ?_)
    fun _ => .bind (modifyApp_batches _) fun _ => .bind (hdraft _) fun _ => ?_
  all_goals exact .bind (modifyApp_batches _) fun _ => refreshContactsPreserveSelection_quiet.batches

end

/-! ## The cap -/

/-- The bundle has the devices that the server has named in a state of such a run. -/
def NamedUnderCap (env : ServerEnvironment) (P : Primitives) (bundle : UserBundle) : Prop :=
  ∃ p, (serverSystem env P).ReachableUnder (Cluster.Meets BelowCap) p ∧ p.shared.db.Names bundle

theorem NamedUnderCap.active_length {bundle : UserBundle} (h : NamedUnderCap env P bundle) :
    bundle.active.length ≤ 8 := by
  obtain ⟨p, hp, hnames⟩ := h
  obtain ⟨accountId, hlength⟩ := hnames.active_length
  rw [hlength]
  exact deviceCounts_le hp accountId

/-- Where no ninth device becomes active, there are at most eight in every state, and a text, written
with bundles that the server has named, is queued in batches that it takes. -/
theorem device_cap :
    (∀ p, (serverSystem env P).ReachableUnder (Cluster.Meets BelowCap) p →
      ∀ accountId, (p.shared.db.deviceCounts accountId).1 ≤ 8) ∧
    ∀ (outside : Environment) (text : String) (w : World P),
      (∀ contact, w.app.selectedContact = some contact → NamedUnderCap env P contact.bundle) →
      (∀ entry ∈ w.app.bundleCache, NamedUnderCap env P entry.bundle) →
      (∀ i body bundle, outside.answer i body = .ok (some (.userBundle bundle)) →
        NamedUnderCap env P bundle) →
      ∀ message, .queued message ∈ ((sendText outside text).exec w).2.log →
        .queued message ∈ w.log ∨ message.envelopes.length ≤ 16 := by
  refine ⟨fun p hp => deviceCounts_le hp, fun outside text w peer cached answered => ?_⟩
  exact Prog.wp_state.1 (sendText_batches (fun contact h => (peer contact h).active_length)
    (fun entry h => (cached entry h).active_length) fun i body bundle h => (answered i body bundle h).active_length)

namespace Scenario.Cap

/-! ## Nine devices -/

/-- Another device of Alice's first account enters her password and is submitted. -/
def join (t : Nat) (device : Char) (key : UInt8) : List Move :=
  [.frame t (helloOf "alice" (uuid device)),
    .frame t (passwordOf "alice" (uuid device)),
    .frame t (joiningOf (uuid device) 1 key)]

/-- The first device activates another one. -/
def activate (device : Char) (key : UInt8) (revision : Nat) : Move :=
  .frame 0 (.activateDevice
    { pairingId := uuid device
      device := some (Scenario.device (uuid '1') (uuid device) 1 key)
      rosterRevision := revision
      rosterSignature := primitives.sign (bytes32 1)
        (DeviceIdentity.rosterPayload (uuid '1') revision (uuid device)) })

def firstLogin : List Move :=
  [.command 99 (.userAdd "alice" password),
    .frame 0 (helloOf "alice" (uuid 'a')),
    .frame 0 (passwordOf "alice" (uuid 'a')),
    .frame 0 (bootstrapOf (uuid '1') (uuid 'a') 1 2)]

/-- Two devices are submitted beside seven active ones, and both are activated then. -/
def nineDevices : List Move :=
  firstLogin ++ join 1 'b' 3 ++ [activate 'b' 3 2] ++ join 2 'c' 4 ++ [activate 'c' 4 3] ++
    join 3 'd' 5 ++ [activate 'd' 5 4] ++ join 4 'e' 6 ++ [activate 'e' 6 5] ++
    join 5 'f' 7 ++ [activate 'f' 7 6] ++ join 6 '2' 8 ++ [activate '2' 8 7] ++
    join 7 '3' 9 ++ join 8 '4' 10 ++ [activate '3' 9 8, activate '4' 10 9]

theorem ninth_device : (serverSystem server primitives).Reachable (clusterAfter nineDevices) ∧
    ¬((clusterAfter nineDevices).shared.db.deviceCounts (uuid '1')).1 ≤ 8 :=
  ⟨clusterAfter_reachable _, by decide +kernel⟩

/-! ## Two users -/

def twoUsers : List Move :=
  firstLogin ++
    [.command 99 (.userAdd "bob" password),
      .frame 1 (helloOf "bob" (uuid 'b')),
      .frame 1 (passwordOf "bob" (uuid 'b')),
      .frame 1 (bootstrapOf (uuid '7') (uuid 'b') 5 6)]

/-- The bundle of an account and of the devices that the server names of it. -/
def bundleOf (account : AccountRow) (devices : List DeviceBundle) : UserBundle :=
  { accountId := account.id
    username := account.username
    accountMasterKey := account.masterPublicKey.getD []
    rosterRevision := account.rosterRevision
    devices }

/-- Lookups are answered from a database. -/
def directory (db : Db) : Environment :=
  { environment (fun _ => []) [] with
    answer := fun _ body => .ok <| match body with
      | .lookupUser m => (db.lookupUserBundle m.exactUsername).map fun found =>
          .userBundle (bundleOf found.1 found.2)
      | .claimPreKey m => (db.device m.accountId m.deviceId).map fun row =>
          .preKeyBundle { device := some row.bundle, oneTimeKey := some (oneTimeKey row.bundle) }
      | _ => some .operationOk }

def bob : UserBundle :=
  match (clusterAfter twoUsers).shared.db.lookupUserBundle "bob" with
  | some (account, devices) => bundleOf account devices
  | none => bundle "bob" 0 []

/-- Alice's first device, with Bob as its verified contact. -/
def alice : World primitives :=
  let w := World.ofProfile { firstDevice (uuid '1') (uuid 'a') 1 2 with username := "alice" }
  { w with app := { w.app with
      contacts :=
        [{ bundle := bob
           verified := true
           identityChanged := false
           unreadCount := 0
           lastActivityMs := 0 }]
      selected := some 0 } }

def greeted : World primitives :=
  ((sendText (directory (clusterAfter twoUsers).shared.db) "hello").exec alice).2

/-- The text is queued, for at most sixteen devices. -/
theorem device_cap_twoUsers : (∀ accountId, ((clusterAfter twoUsers).shared.db.deviceCounts accountId).1 ≤ 8) ∧
    (∀ message, .queued message ∈ greeted.log → message.envelopes.length ≤ 16) ∧
    greeted.log.any (fun | .queued _ => true | _ => false) = true := by
  have hrun : (serverSystem server primitives).ReachableUnder (Cluster.Meets BelowCap) (clusterAfter twoUsers) :=
    clusterAfter_under (by decide +kernel)
  have hbob : (clusterAfter twoUsers).shared.db.Names bob := by
    refine ⟨"bob", ?_⟩
    unfold bob
    cases hlookup : (clusterAfter twoUsers).shared.db.lookupUserBundle "bob" with
    | none =>
      have hfound : ((clusterAfter twoUsers).shared.db.lookupUserBundle "bob").isSome = true := by
        decide +kernel
      rw [hlookup] at hfound
      cases hfound
    | some found => exact ⟨found.1, rfl⟩
  have hcap := @device_cap server primitives
  refine ⟨hcap.1 _ hrun, fun message hmessage => ?_, by decide +kernel⟩
  refine (hcap.2 (directory (clusterAfter twoUsers).shared.db) "hello" alice ?_ ?_ ?_ message hmessage).resolve_left
    nofun
  · intro contact hcontact
    cases hcontact
    exact ⟨_, hrun, hbob⟩
  · exact nofun
  · intro i body answer hanswer
    cases body with
    | lookupUser m =>
      obtain ⟨found, hfound, heq⟩ := Option.map_eq_some_iff.1 (Except.ok.inj hanswer)
      cases heq
      exact ⟨_, hrun, m.exactUsername, found.1, hfound⟩
    | claimPreKey m =>
      obtain ⟨_, _, heq⟩ := Option.map_eq_some_iff.1 (Except.ok.inj hanswer)
      cases heq
    | _ => cases hanswer

end Scenario.Cap

end TuiChat
