import TuiChat.Server.Exec
import TuiChat.Verify.ServerScenario

/-!
# Bootstraps that are cut off

The handler of a `BootstrapDevice` writes the master key, the device and its prekeys one after the other.
`bootstrap_atomic` says at which points it may fail, or the server crash, with the tables as they were;
between them a first device leaves an account with a master key that no device holds
(`claimed_without_device`).
-/

namespace TuiChat

open Lib (Bytes Proc Table)
open Lib.Proc (Moves EndsWith)

namespace Ws

variable {env : ServerEnvironment} {P : Primitives} {i : Nat} {id : String} {α β : Type}

/-! ## What the actions keep -/

section

variable (J : Db → List (Nat × Frame) → Prop)

/-- The property of the database and of the frames handed over. -/
abbrev Holds (w : ServerWorld) : Prop := J w.1.db w.1.out

/-- The steps that keep it. -/
def Holding (w w' : ServerWorld) : Prop := Holds J w → Holds J w'

instance : Std.Refl (Holding J) := ⟨fun _ h => h⟩

instance : IsTrans ServerWorld (Holding J) := ⟨fun _ _ _ h h' hw => h' (h hw)⟩

/-- Every action of a program keeps it. -/
abbrev Preserves (m : ServerM α) : Prop := Moves Eq (Holding J) (Holding J) m

end

variable {J : Db → List (Nat × Frame) → Prop}

theorem preserves_action {f : ServerWorld → Except Error α × ServerWorld}
    (h : ∀ w, Holds J w → Holds J (f w).2) : Preserves J (.atomically f) :=
  Moves.atomically fun w w' hw => by
    cases hw
    exact ⟨h w, h w⟩

theorem preserves_nowMs : Preserves J (nowMs env) := preserves_action fun _ h => h

theorem preserves_getState {f : AppState → α} : Preserves J (getState f) := preserves_action fun _ h => h

theorem preserves_getConnection {f : Connection → α} : Preserves J (getConnection f) :=
  preserves_action fun _ h => h

theorem preserves_modifyConnection {f : Connection → Connection} : Preserves J (modifyConnection f) :=
  preserves_action fun _ h => h

theorem preserves_queryRecording {f : Db → α} {events : α → List ConnectionEvent} :
    Preserves J (queryRecording env f events) := preserves_action fun w h => by
  cases hw : env.works w.1.tick <;> simpa [hw] using h

theorem preserves_executeRecording {f : Nat → Db → Except Error (α × Db)}
    {serverEvents : Db → α × Db → List ServerEvent} {events : Db → List ConnectionEvent}
    (hf : ∀ n db r out, f n db = .ok r → J db out → J r.2 out) :
    Preserves J (executeRecording env f serverEvents events) := preserves_action fun w h => by
  cases hw : env.works w.1.tick with
  | false => simpa [hw] using h
  | true =>
    cases hr : f w.1.tick w.1.db with
    | error e => simpa [hw, hr] using h
    | ok r => simpa [hw, hr] using hf _ _ r _ hr h

theorem preserves_write {f : Db → Except Error Db} (hf : ∀ db db' out, f db = .ok db' → J db out → J db' out) :
    Preserves J (write env f) := by
  unfold write execute
  refine preserves_executeRecording fun _ db r out hr h => ?_
  cases hdb : f db with
  | error e => simp [hdb, Except.map] at hr
  | ok db' =>
    simp only [hdb, Except.map, Except.ok.injEq] at hr
    subst hr
    exact hf db db' out hdb h

theorem preserves_send {t : Nat} {f : Frame} (hf : ∀ db out, J db out → J db (out ++ [(t, f)])) :
    Preserves J (send env t f) := preserves_action fun w h => by
  cases hw : env.works w.1.tick with
  | false => simpa [hw] using h
  | true => simpa [hw] using hf _ _ h

theorem preserves_register {session : Session} : Preserves J (register session i) := by
  refine .bind (preserves_action fun _ h => h) fun previous => ?_
  have hsessions := preserves_action (J := J) (f := fun w => (.ok (), ({ w.1 with
    sessions := w.1.sessions.put
      { id := i
        accountId := session.account.id
        username := session.account.username
        deviceId := session.deviceId
        pending := session.pending } }, w.2))) fun _ h => h
  cases previous with
  | none => exact hsessions
  | some previous => exact .bind (preserves_action fun _ h => h) fun _ => hsessions

theorem preserves_pushAccount {accountId : String} {f : Frame}
    (hf : ∀ t db out, J db out → J db (out ++ [(t, f)])) : Preserves J (pushAccount env accountId f) :=
  .bind preserves_getState fun _ => .each fun live _ =>
    .bind (.caught (preserves_send (hf live.token))) fun _ => .pure _

variable {s : AppState} {c : Connection}

/-! ## The parts of a bootstrap -/

/-- What the handler reads and checks before it writes. -/
def checkBootstrap (env : ServerEnvironment) (m : BootstrapDevice) : ServerM (Session × Bool × (Nat × Nat)) := do
  let session ← anySession "password authentication required"
  Proc.ensure (session.pending = true ∧ m.deviceId = session.deviceId) "invalid bootstrap state"
  let existing ← device env session.account.id session.deviceId
  Proc.ensure (existing.isNone = true) "device was already submitted"
  Proc.ensure (validBootstrap m = true) "invalid public key length"
  let hasDevices ← query env fun db => db.hasActiveDevices session.account.id
  let counts ← query env fun db => db.deviceCounts session.account.id
  pure (session, hasDevices, counts)

def claimMaster (env : ServerEnvironment) (session : Session) (m : BootstrapDevice) : ServerM Unit :=
  executeRecording env
    (fun _ db => (db.bootstrapMaster session.account.id m.accountMasterKey).map fun db => ((), db))
    (fun _ _ => []) fun db => [.masterClaimed session.account.id m.accountMasterKey
      ((db.accounts.find session.account.id).bind AccountRow.masterPublicKey)]

/-- What follows the claim of the master key. -/
def afterClaim (env : ServerEnvironment) (i : Nat) (id : String) (session : Session) (m : BootstrapDevice) :
    ServerM Unit := do
  let now ← nowMs env
  write env fun db => db.insertDevice session.account.id (BootstrapDevice.bundle m) m.sasPublicKey false now
  let now ← nowMs env
  write env fun db => db.publishPreKeys session.deviceId m.oneTimeKeys now
  let session := { session with
    account := { session.account with
      masterPublicKey := some m.accountMasterKey
      rosterRevision := 1 }
    pending := false
    passwordChangeRequired := session.account.requirePasswordChange }
  modifyConnection fun c => { c with session := some session }
  register session i
  sendAuthenticated env i id session

def submitDevice (env : ServerEnvironment) (session : Session) (m : BootstrapDevice) (now : Int) :
    ServerM Unit :=
  write env fun db => db.insertDevice session.account.id (BootstrapDevice.bundle m) m.sasPublicKey true now

/-- What follows the insertion of a pending device. -/
def afterSubmission (env : ServerEnvironment) (i : Nat) (id : String) (session : Session)
    (m : BootstrapDevice) : ServerM Unit := do
  let now ← nowMs env
  write env fun db => db.publishPreKeys session.deviceId m.oneTimeKeys now
  register session i
  pushAccount env session.account.id
    (frame "" (.pairingRequest (pairingRequest (BootstrapDevice.bundle m) m.sasPublicKey)))
  sendAuthenticated env i id session

theorem handleBootstrapDevice_eq (m : BootstrapDevice) : handleBootstrapDevice env P i id m =
    checkBootstrap env m >>= fun r =>
      if r.2.1 = false ∧ r.1.account.masterPublicKey = none then do
        Proc.ensure (r.2.2 = (0, 0)) "account device state is inconsistent"
        bootstrapFirst env P i id r.1 m
      else bootstrapPending env i id r.1 m r.2.2 := by
  unfold handleBootstrapDevice checkBootstrap
  simp only [Proc.bind_assoc]
  rfl

theorem bootstrapFirst_eq {session : Session} {m : BootstrapDevice} : bootstrapFirst env P i id session m = (do
    Proc.ofExcept (verifyDeviceCertificate P m.accountMasterKey session.account.id (BootstrapDevice.bundle m))
    claimMaster env session m
    afterClaim env i id session m) := rfl

theorem bootstrapPending_eq {session : Session} {m : BootstrapDevice} {counts : Nat × Nat} :
    bootstrapPending env i id session m counts = (do
      Proc.ensure (counts.1 < 8 ∧ counts.2 < 2) "account device limit reached"
      Proc.ensure (session.account.masterPublicKey = some m.accountMasterKey) "account identity mismatch"
      Proc.ensure (m.certificateSignature = [])
        "pending device certificate must be issued by an existing device"
      let now ← nowMs env
      submitDevice env session m now
      afterSubmission env i id session m) := rfl

/-- The frame passes the checks that come before the writes. -/
structure Checked (env : ServerEnvironment) (m : BootstrapDevice) (session : Session) (s : AppState)
    (c : Connection) : Prop where
  opened : c.session = some session
  pending : session.pending = true
  own : m.deviceId = session.deviceId
  new : s.db.device session.account.id session.deviceId = none
  valid : validBootstrap m = true
  reads : ∀ k < 3, env.works (s.tick + k) = true

/-- Where the checks end. -/
def checkedWorld (session : Session) (s : AppState) (c : Connection) : ServerWorld :=
  let row := s.db.device session.account.id session.deviceId
  ({ s with tick := s.tick + 3 },
    { c with log := .readDevice session.account.id session.deviceId row :: c.log })

theorem exec_checkBootstrap {m : BootstrapDevice} {r : Session × Bool × (Nat × Nat)} {w : ServerWorld} :
    (checkBootstrap env m).exec (s, c) = (.ok r, w) ↔ Checked env m r.1 s c ∧
      r.2 = (s.db.hasActiveDevices r.1.account.id, s.db.deviceCounts r.1.account.id) ∧
      w = checkedWorld r.1 s c := by
  unfold checkBootstrap anySession device query
  simp only [Proc.exec_bind_eq_ok, Proc.exec_ensure_eq_ok, Proc.exec_orFail_eq_ok, Proc.exec_pure_eq_ok,
    exec_queryRecording_eq_ok, exec_getConnection_eq_ok]
  constructor
  · rintro ⟨session, _, ⟨_, _, ⟨rfl, rfl⟩, hopened, rfl⟩, _, _, ⟨hown, rfl⟩, existing, _, ⟨h₀, rfl, rfl⟩,
      _, _, ⟨hnew, rfl⟩, _, _, ⟨hvalid, rfl⟩, _, _, ⟨h₁, rfl, rfl⟩, _, _, ⟨h₂, rfl, rfl⟩, rfl, rfl⟩
    refine ⟨⟨hopened, hown.1, hown.2, Option.isNone_iff_eq_none.1 hnew, hvalid, ?_⟩, rfl, rfl⟩
    intro k hk
    obtain rfl | rfl | rfl : k = 0 ∨ k = 1 ∨ k = 2 := by omega
    · exact h₀
    · exact h₁
    · exact h₂
  · rintro ⟨h, hr, rfl⟩
    exact ⟨r.1, (s, c), ⟨_, _, ⟨rfl, rfl⟩, h.opened, rfl⟩, (), _, ⟨⟨h.pending, h.own⟩, rfl⟩,
      _, _, ⟨h.reads 0 (by decide), rfl, rfl⟩, (), _, ⟨Option.isNone_iff_eq_none.2 h.new, rfl⟩,
      (), _, ⟨h.valid, rfl⟩, _, _, ⟨h.reads 1 (by decide), rfl, rfl⟩,
      _, _, ⟨h.reads 2 (by decide), rfl, rfl⟩, Prod.ext rfl hr, rfl⟩

theorem actions_checkBootstrap {m : BootstrapDevice} {session : Session} (h : Checked env m session s c) :
    (checkBootstrap env m).actions (s, c) = 4 := by
  have h₀ : env.works s.tick = true := h.reads 0 (by decide)
  have h₁ : env.works (s.tick + 1) = true := h.reads 1 (by decide)
  have h₂ : env.works (s.tick + 1 + 1) = true := h.reads 2 (by decide)
  simp [checkBootstrap, anySession, device, query, queryRecording, learn, getConnection, Proc.atomically,
    Proc.orFail, Proc.ensure, bind, pure, Proc.bind, Proc.actions, h₀, h₁, h₂, h.opened, h.pending, h.own, h.new, h.valid]

theorem preserves_checkBootstrap {m : BootstrapDevice} : Preserves J (checkBootstrap env m) :=
  .bind (.bind preserves_getConnection fun _ => .orFail _ _) fun _ => .bind (.ensure _ _) fun _ =>
    .bind preserves_queryRecording fun _ => .bind (.ensure _ _) fun _ => .bind (.ensure _ _) fun _ =>
      .bind preserves_queryRecording fun _ => .bind preserves_queryRecording fun _ => .pure _

theorem preserves_afterClaim {session : Session} {m : BootstrapDevice}
    (hinsert : ∀ db db' now out, db.insertDevice session.account.id (BootstrapDevice.bundle m)
      m.sasPublicKey false now = .ok db' → J db out → J db' out)
    (hpublish : ∀ db db' now out, db.publishPreKeys session.deviceId m.oneTimeKeys now = .ok db' →
      J db out → J db' out)
    (hsend : ∀ f db out, J db out → J db (out ++ [(i, f)])) : Preserves J (afterClaim env i id session m) :=
  .bind preserves_nowMs fun now => .bind (preserves_write (hinsert · · now)) fun _ =>
    .bind preserves_nowMs fun now => .bind (preserves_write (hpublish · · now)) fun _ =>
      .bind preserves_modifyConnection fun _ => .bind preserves_register fun _ =>
        preserves_send (hsend _)

theorem preserves_afterSubmission {session : Session} {m : BootstrapDevice}
    (hpublish : ∀ db db' now out, db.publishPreKeys session.deviceId m.oneTimeKeys now = .ok db' →
      J db out → J db' out)
    (hsend : ∀ t f db out, J db out → J db (out ++ [(t, f)])) :
    Preserves J (afterSubmission env i id session m) :=
  .bind preserves_nowMs fun now => .bind (preserves_write (hpublish · · now)) fun _ =>
    .bind preserves_register fun _ => .bind (preserves_pushAccount fun t => hsend t _) fun _ =>
      preserves_send (hsend _ _)

/-! ## Answers and tables -/

/-- The frame was answered with `Authenticated`, since the frames that were there before. -/
def Answered (i : Nat) (id : String) (before out : List (Nat × Frame)) : Prop :=
  ∃ new a, out = before ++ new ∧ (i, frame id (.authenticated a)) ∈ new

def Unanswered (i : Nat) (id : String) (before out : List (Nat × Frame)) : Prop :=
  ∃ new, out = before ++ new ∧ ∀ a, (i, frame id (.authenticated a)) ∉ new

variable {before out : List (Nat × Frame)}

theorem Unanswered.refl : Unanswered i id before before := ⟨[], (List.append_nil _).symm, fun _ h => nomatch h⟩

theorem Unanswered.not_answered (h : Unanswered i id before out) : ¬Answered i id before out := by
  obtain ⟨new, rfl, hnew⟩ := h
  rintro ⟨new', a, hout, ha⟩
  rw [List.append_cancel_left hout] at hnew
  exact hnew a ha

theorem Unanswered.append {t : Nat} {f : Frame} (h : Unanswered i id before out)
    (hf : ∀ a, f.body ≠ some (.authenticated a)) : Unanswered i id before (out ++ [(t, f)]) := by
  obtain ⟨new, rfl, hnew⟩ := h
  refine ⟨new ++ [(t, f)], List.append_assoc .., fun a ha => ?_⟩
  rcases List.mem_append.1 ha with ha | ha
  · exact hnew a ha
  · rw [List.mem_singleton, Prod.mk.injEq] at ha
    exact hf a (ha.2 ▸ rfl)

theorem Unanswered.answered {a : Authenticated} (h : Unanswered i id before out) :
    Answered i id before (out ++ [(i, frame id (.authenticated a))]) := by
  obtain ⟨new, rfl, -⟩ := h
  exact ⟨new ++ [_], a, List.append_assoc .., List.mem_append_right _ List.mem_cons_self⟩

/-- No cut of the run is answered. -/
theorem not_answered_cut {m : ServerM α} {w : ServerWorld}
    (hm : Preserves (fun _ out => Unanswered i id before out) m) (h : Unanswered i id before w.1.out) (n : Nat) :
    ¬Answered i id before (m.cut n w).1.out :=
  (Moves.cut (I := Holds fun _ out => Unanswered i id before out) hm h n).not_answered

/-- The accounts, the devices and the prekeys are as before. -/
def SameTables (db db' : Db) : Prop :=
  db'.accounts = db.accounts ∧ db'.devices = db.devices ∧ db'.prekeys = db.prekeys

/-! ## The two ways to end -/

section

variable {session : Session} {m : BootstrapDevice}

abbrev AnsweredAt (i : Nat) (id : String) (before : List (Nat × Frame)) (w : ServerWorld) : Prop :=
  Answered i id before w.1.out

theorem endsWith_sendAuthenticated (h : Unanswered i id before s.out) :
    EndsWith (AnsweredAt i id before) (env.works s.tick = true) (sendAuthenticated env i id session) (s, c) := by
  intro n
  have hactions : (sendAuthenticated env i id session).actions (s, c) = 1 := rfl
  rw [hactions]
  cases n with
  | zero =>
    rw [Proc.cut_zero]
    exact ⟨fun ha => absurd ha h.not_answered, fun hn => absurd hn.2 (by decide)⟩
  | succ n =>
    rw [Proc.cut_eq_exec (by rw [hactions]; omega)]
    cases hw : env.works s.tick with
    | false =>
      simp only [Bool.false_eq_true, false_and, iff_false]
      simpa [AnsweredAt, sendAuthenticated, reply, send, learn, Proc.atomically, Proc.exec, hw] using
        h.not_answered
    | true =>
      simp only [true_and]
      refine ⟨fun _ => Nat.le_add_left 1 n, fun _ => ?_⟩
      simpa [AnsweredAt, sendAuthenticated, reply, send, learn, Proc.atomically, Proc.exec, hw] using
        h.answered

/-- A write that `C` asks to work, and the rest of the run. -/
theorem endsWith_write {f : Db → Except Error Db} {db : Db} {g : Unit → ServerM Unit} {C : Prop}
    (h : Unanswered i id before s.out) (hf : f s.db = .ok db) (hC : C → env.works s.tick = true)
    (hg : env.works s.tick = true → EndsWith (AnsweredAt i id before) C (g ()) ({ s with
      db
      past := s.db :: s.past
      tick := s.tick + 1 }, c)) :
    EndsWith (AnsweredAt i id before) C (write env f >>= g) (s, c) := by
  have hsilent : ∀ n, ¬AnsweredAt i id before ((write env f).cut n (s, c)) :=
    not_answered_cut (preserves_write fun _ _ _ _ h => h) h
  by_cases hw : env.works s.tick = true
  · exact EndsWith.bind hsilent (exec_write hw hf) (hg hw)
  · obtain ⟨e, he⟩ := exec_write_error (s := s) (c := c) (f := f) fun db hdb => hw hdb.1
    exact EndsWith.error hsilent he (mt hC hw)

/-- The connection is registered, and the rest of the run. -/
theorem endsWith_register {g : Unit → ServerM Unit} {C : Prop} (h : Unanswered i id before s.out)
    (hg : ∀ s', Unanswered i id before s'.out → s'.tick = s.tick → s'.connections = s.connections.put
        { deviceId := session.deviceId, token := i, accountId := session.account.id } →
      EndsWith (AnsweredAt i id before) C (g ()) (s', c)) :
    EndsWith (AnsweredAt i id before) C (register session i >>= g) (s, c) := by
  obtain ⟨s', hs', -, hout, htick, hconnections⟩ := exec_register (i := i) (s := s) (c := c) session
  exact EndsWith.bind (not_answered_cut preserves_register h) hs' (hg s' (hout ▸ h) htick hconnections)

/-- What has to work after the claim; the id of the device is no other device's. -/
def ClaimEnds (env : ServerEnvironment) (m : BootstrapDevice) (db : Db) (t : Nat) : Prop :=
  db.devices.find m.deviceId = none ∧ env.works (t + 1) = true ∧ env.works (t + 3) = true ∧
    env.works (t + 4) = true

/-- The device has been inserted, so its prekeys can be published. -/
theorem publishPreKeys_of_insertDevice {db db' : Db} {accountId : String} {sasPublic : Bytes}
    {pending : Bool} {now : Int} (own : m.deviceId = session.deviceId)
    (h : db.insertDevice accountId (BootstrapDevice.bundle m) sasPublic pending now = .ok db') (now' : Int) :
    ∃ db'', db'.publishPreKeys session.deviceId m.oneTimeKeys now' = .ok db'' := by
  obtain ⟨-, hunused, rfl⟩ := Db.insertDevice_eq_ok.1 h
  refine ⟨_, Db.publishPreKeys_eq_ok.2 ⟨fun _ => ?_, rfl⟩⟩
  rw [← own]
  exact Option.isSome_iff_exists.2 ⟨_, Table.find_insertOrIgnore_of_none hunused⟩

theorem endsWith_afterClaim (haccount : (s.db.accounts.find session.account.id).isSome = true)
    (own : m.deviceId = session.deviceId) (h : Unanswered i id before s.out) :
    EndsWith (AnsweredAt i id before) (ClaimEnds env m s.db s.tick) (afterClaim env i id session m) (s, c) := by
  refine EndsWith.bind (not_answered_cut preserves_nowMs h) rfl ?_
  by_cases hunused : s.db.devices.find m.deviceId = none
  case neg =>
    have hrefused : ∃ e, (write env fun db => db.insertDevice session.account.id (BootstrapDevice.bundle m)
        m.sasPublicKey false (env.nowMs s.tick)).exec ({ s with tick := s.tick + 1 }, c) =
          (.error e, ({ s with tick := s.tick + 1 + 1 }, c)) :=
      exec_write_error fun db hdb => hunused (Db.insertDevice_eq_ok.1 hdb.2).2.1
    obtain ⟨e, he⟩ := hrefused
    exact EndsWith.error (not_answered_cut (preserves_write fun _ _ _ _ h => h) h) he fun hends =>
      hunused hends.1
  obtain ⟨db₁, hdb₁⟩ : ∃ db₁, s.db.insertDevice session.account.id (BootstrapDevice.bundle m)
      m.sasPublicKey false (env.nowMs s.tick) = .ok db₁ :=
    ⟨_, Db.insertDevice_eq_ok.2 ⟨haccount, hunused, rfl⟩⟩
  refine endsWith_write h hdb₁ (fun hends => hends.2.1) fun h₁ => ?_
  refine EndsWith.bind (not_answered_cut preserves_nowMs h) rfl ?_
  obtain ⟨db₂, hdb₂⟩ := publishPreKeys_of_insertDevice own hdb₁ (env.nowMs (s.tick + 1 + 1))
  refine endsWith_write h hdb₂ (fun hends => hends.2.2.1) fun h₂ => ?_
  refine EndsWith.bind (not_answered_cut preserves_modifyConnection h) rfl ?_
  refine endsWith_register h fun s' hs' htick _ => ?_
  refine (endsWith_sendAuthenticated hs').congr ?_
  rw [htick]
  exact ⟨fun hw => ⟨hunused, h₁, h₂, hw⟩, fun hends => hends.2.2.2⟩

/-- What has to work after the device was submitted; `k` connections of its account are told. -/
def SubmissionEnds (env : ServerEnvironment) (t k : Nat) : Prop :=
  env.works (t + 1) = true ∧ env.works (t + 2 + k) = true

/-- The connections that are live when the device has registered its own. -/
def toldOf (i : Nat) (session : Session) (connections : Table LiveConnection.deviceId) : Nat :=
  ((connections.put { deviceId := session.deviceId, token := i, accountId := session.account.id }).rows.filter
    fun live => live.accountId = session.account.id).length

theorem endsWith_afterSubmission (hdevice : (s.db.devices.find session.deviceId).isSome = true)
    (h : Unanswered i id before s.out) :
    EndsWith (AnsweredAt i id before) (SubmissionEnds env s.tick (toldOf i session s.connections))
      (afterSubmission env i id session m) (s, c) := by
  refine EndsWith.bind (not_answered_cut preserves_nowMs h) rfl ?_
  refine endsWith_write h (Db.publishPreKeys_eq_ok.2 ⟨fun _ => hdevice, rfl⟩) (fun hends => hends.1) fun h₁ => ?_
  refine endsWith_register h fun s₁ hs₁ htick₁ hconnections => ?_
  have hpush : Preserves (fun _ out => Unanswered i id before out) (pushAccount env session.account.id
      (frame "" (.pairingRequest (pairingRequest (BootstrapDevice.bundle m) m.sasPublicKey)))) :=
    preserves_pushAccount fun _ _ _ h => h.append fun _ hbody => nomatch hbody
  have hout := Moves.exec (I := Holds fun _ out => Unanswered i id before out) (s := (s₁, c)) hpush hs₁
  obtain ⟨s₂, hs₂, -, htick₂⟩ := exec_pushAccount (s := s₁) (c := c)
    (f := frame "" (.pairingRequest (pairingRequest (BootstrapDevice.bundle m) m.sasPublicKey)))
  refine EndsWith.bind (not_answered_cut hpush hs₁) hs₂ ?_
  rw [hs₂] at hout
  refine (endsWith_sendAuthenticated hout).congr ?_
  rw [htick₂, htick₁, hconnections]
  exact ⟨fun hw => ⟨h₁, hw⟩, fun hends => hends.2⟩

end

/-! ## Atomicity -/

/-- The frame was answered with `Authenticated`, or the tables are as they were. -/
def Atomic (i : Nat) (id : String) (w w' : ServerWorld) : Prop :=
  Answered i id w.1.out w'.1.out ∨ SameTables w.1.db w'.1.db

/-- The frame claims the master key of its account. -/
structure Claims (env : ServerEnvironment) (P : Primitives) (m : BootstrapDevice) (session : Session)
    (s : AppState) (c : Connection) : Prop extends Checked env m session s c where
  first : s.db.hasActiveDevices session.account.id = false ∧ session.account.masterPublicKey = none
  alone : s.db.deviceCounts session.account.id = (0, 0)
  certificate : verifyDeviceCertificate P m.accountMasterKey session.account.id
    (BootstrapDevice.bundle m) = .ok ()
  writes : env.works (s.tick + 3) = true
  keyless : ∃ row, s.db.accounts.find session.account.id = some row ∧ row.masterPublicKey = none

/-- The frame adds a pending device to its account. -/
structure Submits (env : ServerEnvironment) (m : BootstrapDevice) (session : Session) (s : AppState)
    (c : Connection) : Prop extends Checked env m session s c where
  later : ¬(s.db.hasActiveDevices session.account.id = false ∧ session.account.masterPublicKey = none)
  room : (s.db.deviceCounts session.account.id).1 < 8 ∧ (s.db.deviceCounts session.account.id).2 < 2
  identity : session.account.masterPublicKey = some m.accountMasterKey
  uncertified : m.certificateSignature = []
  writes : env.works (s.tick + 4) = true
  account : (s.db.accounts.find session.account.id).isSome = true
  unused : s.db.devices.find m.deviceId = none

section

variable {session : Session} {m : BootstrapDevice}

abbrev SameTablesAt (db : Db) (w : ServerWorld) : Prop := SameTables db w.1.db

theorem sameTables_cut {p : ServerM α} {w : ServerWorld} {db : Db}
    (hp : Preserves (fun db' _ => SameTables db db') p) (h : SameTablesAt db w) (n : Nat) :
    SameTablesAt db (p.cut n w) := Moves.cut (I := Holds fun db' _ => SameTables db db') hp h n

/-- An action that fails leaves the tables alone. -/
theorem sameTables_error {p : ServerM α} {g : α → ServerM β} {e : Error} {db : Db}
    (hp : p.actions (s, c) = 1) (he : p.exec (s, c) = (.error e, ({ s with tick := s.tick + 1 }, c)))
    (h : SameTables db s.db) (n : Nat) : SameTablesAt db ((p >>= g).cut n (s, c)) := by
  cases n with
  | zero => rwa [Proc.cut_zero]
  | succ n =>
    rw [Proc.cut_bind_of_error he (by rw [hp]; exact Nat.le_add_left 1 n)]
    exact h

theorem sameTables_claimMaster {g : Unit → ServerM β} {db : Db} (h : SameTables db s.db)
    (hrefused : env.works s.tick = true →
      ¬∃ row, s.db.accounts.find session.account.id = some row ∧ row.masterPublicKey = none) (n : Nat) :
    SameTablesAt db ((claimMaster env session m >>= g).cut n (s, c)) := by
  have hfails : ∃ e, (claimMaster env session m).exec (s, c) =
      (.error e, ({ s with tick := s.tick + 1 }, c)) := by
    apply exec_executeRecording_error
    rintro r ⟨hw, hr⟩
    obtain ⟨db', hdb, -⟩ := Except.map_eq_ok.1 hr
    exact hrefused hw (Db.bootstrapMaster_eq_ok.1 hdb).1
  obtain ⟨e, he⟩ := hfails
  exact sameTables_error rfl he h n

theorem sameTables_submitDevice {g : Unit → ServerM β} {db : Db} {now : Int} (h : SameTables db s.db)
    (hrefused : env.works s.tick = true → (s.db.accounts.find session.account.id).isSome = true →
      s.db.devices.find m.deviceId ≠ none) (n : Nat) :
    SameTablesAt db ((submitDevice env session m now >>= g).cut n (s, c)) := by
  have hfails : ∃ e, (submitDevice env session m now).exec (s, c) =
      (.error e, ({ s with tick := s.tick + 1 }, c)) := by
    apply exec_write_error
    rintro db' ⟨hw, hdb⟩
    obtain ⟨haccount, hunused, -⟩ := Db.insertDevice_eq_ok.1 hdb
    exact hrefused hw haccount hunused
  obtain ⟨e, he⟩ := hfails
  exact sameTables_error rfl he h n

/-- A frame that neither claims a key nor adds a device leaves the tables alone. -/
theorem sameTables_of_not (id : String) (hclaims : ∀ session, ¬Claims env P m session s c)
    (hsubmits : ∀ session, ¬Submits env m session s c) (n : Nat) :
    SameTablesAt s.db ((handleBootstrapDevice env P i id m).cut n (s, c)) := by
  have hsame : SameTables s.db s.db := ⟨rfl, rfl, rfl⟩
  rw [handleBootstrapDevice_eq]
  refine Proc.cut_bind (sameTables_cut preserves_checkBootstrap hsame) ?_ n
  rintro ⟨session, hasDevices, counts⟩ w hw
  obtain ⟨hchecked, hread, rfl⟩ := exec_checkBootstrap.1 hw
  dsimp only at hchecked hread hw ⊢
  cases hread
  split
  · next hfirst =>
    refine Proc.cut_bind (sameTables_cut (.ensure _ _) hsame) fun _ _ hensure => ?_
    obtain ⟨halone, rfl⟩ := Proc.exec_ensure_eq_ok.1 hensure
    rw [bootstrapFirst_eq]
    refine Proc.cut_bind (sameTables_cut (.ofExcept _) hsame) fun _ _ hverify => ?_
    obtain ⟨hcertificate, rfl⟩ := Prod.mk.inj hverify
    refine sameTables_claimMaster hsame fun hworks hkeyless => ?_
    exact hclaims session
      { hchecked with
        first := hfirst
        alone := halone
        certificate := hcertificate
        writes := hworks
        keyless := hkeyless }
  · next hlater =>
    rw [bootstrapPending_eq]
    refine Proc.cut_bind (sameTables_cut (.ensure _ _) hsame) fun _ _ hensure => ?_
    obtain ⟨hroom, rfl⟩ := Proc.exec_ensure_eq_ok.1 hensure
    refine Proc.cut_bind (sameTables_cut (.ensure _ _) hsame) fun _ _ hensure => ?_
    obtain ⟨hidentity, rfl⟩ := Proc.exec_ensure_eq_ok.1 hensure
    refine Proc.cut_bind (sameTables_cut (.ensure _ _) hsame) fun _ _ hensure => ?_
    obtain ⟨huncertified, rfl⟩ := Proc.exec_ensure_eq_ok.1 hensure
    refine Proc.cut_bind (sameTables_cut preserves_nowMs hsame) fun now _ hnow => ?_
    obtain ⟨-, rfl⟩ := Prod.mk.inj hnow
    refine sameTables_submitDevice hsame fun hworks haccount hunused => ?_
    exact hsubmits session
      { hchecked with
        later := hlater
        room := hroom
        identity := hidentity
        uncertified := huncertified
        writes := hworks
        account := haccount
        unused := hunused }

theorem exec_claimMaster {db : Db} (hw : env.works s.tick = true)
    (hdb : s.db.bootstrapMaster session.account.id m.accountMasterKey = .ok db) :
    ∃ c', (claimMaster env session m).exec (s, c) = (.ok (), ({ s with
      db
      past := s.db :: s.past
      tick := s.tick + 1 }, c')) := by
  unfold claimMaster
  exact ⟨_, exec_executeRecording (r := ((), db)) hw (Except.map_eq_ok.2 ⟨db, hdb, rfl⟩)⟩

/-- Past the checks. -/
theorem Checked.passes (h : Checked env m session s c) (id : String) : Proc.Passes (handleBootstrapDevice env P i id m)
    (s, c) 4
    (if s.db.hasActiveDevices session.account.id = false ∧ session.account.masterPublicKey = none then do
      Proc.ensure (s.db.deviceCounts session.account.id = (0, 0)) "account device state is inconsistent"
      bootstrapFirst env P i id session m
    else bootstrapPending env i id session m (s.db.deviceCounts session.account.id))
    (checkedWorld session s c) := by
  rw [handleBootstrapDevice_eq]
  have hexec : (checkBootstrap env m).exec (s, c) = (.ok (session,
      s.db.hasActiveDevices session.account.id, s.db.deviceCounts session.account.id),
      checkedWorld session s c) := exec_checkBootstrap.2 ⟨h, rfl, rfl⟩
  exact Proc.Passes.bind hexec (actions_checkBootstrap h)

/-- The frame claims the master key with the fifth action. -/
theorem Claims.passes (h : Claims env P m session s c) (id : String) : ∃ s₁ c₁,
    s.db.bootstrapMaster session.account.id m.accountMasterKey = .ok s₁.db ∧ s₁.out = s.out ∧
      s₁.tick = s.tick + 4 ∧
      Proc.Passes (handleBootstrapDevice env P i id m) (s, c) 5 (afterClaim env i id session m) (s₁, c₁) := by
  obtain ⟨db, hdb⟩ : ∃ db, s.db.bootstrapMaster session.account.id m.accountMasterKey = .ok db :=
    ⟨_, Db.bootstrapMaster_eq_ok.2 ⟨h.keyless, rfl⟩⟩
  obtain ⟨c₁, hclaim⟩ := exec_claimMaster (s := (checkedWorld session s c).1)
    (c := (checkedWorld session s c).2) h.writes hdb
  refine ⟨{ s with db, past := s.db :: s.past, tick := s.tick + 4 }, c₁, hdb, rfl, rfl, ?_⟩
  have hpasses := h.toChecked.passes id (P := P) (i := i)
  rw [if_pos h.first, h.alone, bootstrapFirst_eq, h.certificate] at hpasses
  have hclaimed : Proc.Passes (claimMaster env session m >>= fun _ => afterClaim env i id session m)
      (checkedWorld session s c) 1 (afterClaim env i id session m) _ := Proc.Passes.bind hclaim rfl
  exact hpasses.trans hclaimed

/-- The device is inserted with the sixth action, and nothing is written before. -/
theorem Submits.passes (h : Submits env m session s c) (id : String) : ∃ s₁ c₁,
    (∃ now, s.db.insertDevice session.account.id (BootstrapDevice.bundle m) m.sasPublicKey true now =
      .ok s₁.db) ∧ s₁.out = s.out ∧ s₁.tick = s.tick + 5 ∧ s₁.connections = s.connections ∧
      Proc.Passes (handleBootstrapDevice env P i id m) (s, c) 6 (afterSubmission env i id session m)
        (s₁, c₁) ∧
      SameTablesAt s.db ((handleBootstrapDevice env P i id m).cut 5 (s, c)) := by
  obtain ⟨db, hdb⟩ : ∃ db, s.db.insertDevice session.account.id (BootstrapDevice.bundle m) m.sasPublicKey
      true (env.nowMs (s.tick + 3)) = .ok db := ⟨_, Db.insertDevice_eq_ok.2 ⟨h.account, h.unused, rfl⟩⟩
  have hpasses := h.toChecked.passes id (P := P) (i := i)
  rw [if_neg h.later, bootstrapPending_eq] at hpasses
  have hensures : Proc.Passes (do
      Proc.ensure ((s.db.deviceCounts session.account.id).1 < 8 ∧
        (s.db.deviceCounts session.account.id).2 < 2) "account device limit reached"
      Proc.ensure (session.account.masterPublicKey = some m.accountMasterKey) "account identity mismatch"
      Proc.ensure (m.certificateSignature = [])
        "pending device certificate must be issued by an existing device"
      let now ← nowMs env
      submitDevice env session m now
      afterSubmission env i id session m) (checkedWorld session s c) 1
      (submitDevice env session m (env.nowMs (s.tick + 3)) >>= fun _ => afterSubmission env i id session m)
      ({ s with tick := s.tick + 4 }, (checkedWorld session s c).2) := by
    have hnow : (nowMs env).exec (checkedWorld session s c) =
        (.ok (env.nowMs (s.tick + 3)), ({ s with tick := s.tick + 4 }, (checkedWorld session s c).2)) := rfl
    simp only [Proc.ensure, h.room, h.identity, h.uncertified, and_self, if_true]
    exact (Proc.Passes.bind hnow rfl : Proc.Passes (nowMs env >>= fun now =>
      submitDevice env session m now >>= fun _ => afterSubmission env i id session m) _ _ _ _)
  have hbefore := hpasses.trans hensures
  refine ⟨{ s with db, past := s.db :: s.past, tick := s.tick + 5 }, (checkedWorld session s c).2,
    ⟨_, hdb⟩, rfl, rfl, rfl, ?_, ?_⟩
  · exact hbefore.trans (Proc.Passes.bind (exec_write h.writes hdb) rfl)
  · rw [show (5 : Nat) = 4 + 1 + 0 from rfl, hbefore.cut, Proc.cut_zero]
    exact ⟨rfl, rfl, rfl⟩

/-- Before the fifth action nothing is written. -/
theorem Checked.sameTables (h : Checked env m session s c) {n : Nat} (hn : n < 5) :
    SameTablesAt s.db ((handleBootstrapDevice env P i id m).cut n (s, c)) := by
  by_cases hlt : n < 4
  · rw [handleBootstrapDevice_eq, Proc.cut_bind_of_lt (by rwa [actions_checkBootstrap h])]
    exact sameTables_cut preserves_checkBootstrap ⟨rfl, rfl, rfl⟩ n
  · obtain rfl : n = 4 + 0 := by omega
    rw [(h.passes id).cut, Proc.cut_zero]
    exact ⟨rfl, rfl, rfl⟩

theorem find_bootstrapMaster {db db' : Db} {accountId : String} {master : Bytes} {row : AccountRow}
    (h : db.bootstrapMaster accountId master = .ok db') (hrow : db.accounts.find accountId = some row) :
    db'.accounts.find accountId =
      some { row with masterPublicKey := some master, rosterRevision := 1 } := by
  obtain ⟨-, rfl⟩ := Db.bootstrapMaster_eq_ok.1 h
  unfold Db.updateAccount
  rw [Table.find_update, hrow, Option.map_some, if_pos (decide_eq_true (Table.key_of_find hrow))]

/-- A claim changes the accounts, whatever follows. -/
theorem Claims.not_sameTables {s₁ : AppState} (h : Claims env P m session s c) (id : String) (c₁ : Connection)
    (hclaimed : s.db.bootstrapMaster session.account.id m.accountMasterKey = .ok s₁.db) (n : Nat) :
    ¬SameTablesAt s.db ((afterClaim env i id session m).cut n (s₁, c₁)) := by
  intro hsame
  have hkept : ((afterClaim env i id session m).cut n (s₁, c₁)).1.db.accounts = s₁.db.accounts := by
    refine Moves.cut (I := Holds fun db _ => db.accounts = s₁.db.accounts) (preserves_afterClaim ?_ ?_ ?_) rfl n
    · intro db db' now out hdb hJ
      obtain ⟨-, -, rfl⟩ := Db.insertDevice_eq_ok.1 hdb
      exact hJ
    · intro db db' now out hdb hJ
      obtain ⟨-, rfl⟩ := Db.publishPreKeys_eq_ok.1 hdb
      exact hJ
    · exact fun _ _ _ hJ => hJ
  obtain ⟨row, hrow, hkeyless⟩ := h.keyless
  have hset := find_bootstrapMaster hclaimed hrow
  rw [← hkept, hsame.1, hrow] at hset
  have hmaster := congrArg AccountRow.masterPublicKey (Option.some.inj hset)
  rw [hkeyless] at hmaster
  cases hmaster

/-- A submission changes the devices, whatever follows. -/
theorem not_sameTables_of_insertDevice {s₁ : AppState} {c₁ : Connection} {now : Int}
    (hinserted : s.db.insertDevice session.account.id
      (BootstrapDevice.bundle m) m.sasPublicKey true now = .ok s₁.db) (n : Nat) :
    ¬SameTablesAt s.db ((afterSubmission env i id session m).cut n (s₁, c₁)) := by
  intro hsame
  have hkept : ((afterSubmission env i id session m).cut n (s₁, c₁)).1.db.devices = s₁.db.devices := by
    refine Moves.cut (I := Holds fun db _ => db.devices = s₁.db.devices)
      (preserves_afterSubmission ?_ ?_) rfl n
    · intro db db' now out hdb hJ
      obtain ⟨-, rfl⟩ := Db.publishPreKeys_eq_ok.1 hdb
      exact hJ
    · exact fun _ _ _ _ hJ => hJ
  obtain ⟨-, hunused, hdb⟩ := Db.insertDevice_eq_ok.1 hinserted
  have hfind : s₁.db.devices.find m.deviceId = none := by
    rw [← hkept, hsame.2.1]
    exact hunused
  rw [hdb] at hfind
  exact absurd ((Table.find_insertOrIgnore_of_none hunused).symm.trans hfind) nofun

theorem Claims.atomic (h : Claims env P m session s c) (n : Nat) :
    Atomic i id (s, c) ((handleBootstrapDevice env P i id m).cut n (s, c)) ↔ n < 5 ∨
      ClaimEnds env m s.db (s.tick + 4) ∧ (handleBootstrapDevice env P i id m).actions (s, c) ≤ n := by
  by_cases hn : n < 5
  · exact ⟨fun _ => .inl hn, fun _ => .inr (h.sameTables hn)⟩
  obtain ⟨k, rfl⟩ := Nat.exists_eq_add_of_le (Nat.not_lt.1 hn)
  obtain ⟨s₁, c₁, hclaimed, hout, htick, hpasses⟩ := h.passes id (i := i)
  have hdb := (Db.bootstrapMaster_eq_ok.1 hclaimed).2
  have haccount : (s₁.db.accounts.find session.account.id).isSome = true := by
    obtain ⟨row, hrow, -⟩ := h.keyless
    exact Option.isSome_iff_exists.2 ⟨_, find_bootstrapMaster hclaimed hrow⟩
  have hunanswered : Unanswered i id s.out s₁.out := hout ▸ .refl
  have hends : EndsWith (AnsweredAt i id s.out) (ClaimEnds env m s₁.db s₁.tick)
      (afterClaim env i id session m) (s₁, c₁) := endsWith_afterClaim haccount h.own hunanswered
  have hdevices : s₁.db.devices = s.db.devices := by rw [hdb]; rfl
  have hsame := h.not_sameTables id (i := i) c₁ hclaimed k
  rw [htick, ClaimEnds, hdevices] at hends
  replace hends := hends k
  rw [Atomic, hpasses.cut, hpasses.actions, or_iff_left hsame]
  exact hends.trans ⟨fun ⟨hC, hk⟩ => .inr ⟨hC, by omega⟩, fun hC =>
    hC.elim (fun hlt => absurd hlt hn) fun ⟨hC, hk⟩ => ⟨hC, by omega⟩⟩

theorem Submits.atomic (h : Submits env m session s c) (n : Nat) :
    Atomic i id (s, c) ((handleBootstrapDevice env P i id m).cut n (s, c)) ↔ n < 6 ∨
      SubmissionEnds env (s.tick + 5) (toldOf i session s.connections) ∧
        (handleBootstrapDevice env P i id m).actions (s, c) ≤ n := by
  obtain ⟨s₁, c₁, ⟨now, hinserted⟩, hout, htick, hconnections, hpasses, hbefore⟩ :=
    h.passes id (P := P) (i := i)
  by_cases hn : n < 6
  · refine ⟨fun _ => .inl hn, fun _ => .inr ?_⟩
    by_cases hlt : n < 5
    · exact h.toChecked.sameTables hlt
    · obtain rfl : n = 5 := by omega
      exact hbefore
  obtain ⟨k, rfl⟩ := Nat.exists_eq_add_of_le (Nat.not_lt.1 hn)
  have hdevice : (s₁.db.devices.find session.deviceId).isSome = true := by
    rw [(Db.insertDevice_eq_ok.1 hinserted).2.2, ← h.own]
    exact Option.isSome_iff_exists.2 ⟨_, Table.find_insertOrIgnore_of_none h.unused⟩
  have hunanswered : Unanswered i id s.out s₁.out := hout ▸ .refl
  have hends : EndsWith (AnsweredAt i id s.out)
      (SubmissionEnds env s₁.tick (toldOf i session s₁.connections))
      (afterSubmission env i id session m) (s₁, c₁) := endsWith_afterSubmission hdevice hunanswered
  have hsame : ¬SameTablesAt s.db ((afterSubmission env i id session m).cut k (s₁, c₁)) :=
    not_sameTables_of_insertDevice hinserted k
  rw [htick, hconnections] at hends
  replace hends := hends k
  rw [Atomic, hpasses.cut, hpasses.actions, or_iff_left hsame]
  exact hends.trans ⟨fun ⟨hC, hk⟩ => .inr ⟨hC, by omega⟩, fun hC =>
    hC.elim (fun hlt => absurd hlt hn) fun ⟨hC, hk⟩ => ⟨hC, by omega⟩⟩

end

/-- The bootstrap is atomic if it fails before its first write, and else if all that follows works and the
server does not crash before the answer. -/
theorem bootstrap_atomic (env : ServerEnvironment) (P : Primitives) (i : Nat) (id : String)
    (m : BootstrapDevice) (s : AppState) (c : Connection) (n : Nat) :
    Atomic i id (s, c) ((handleBootstrapDevice env P i id m).cut n (s, c)) ↔
      (∀ session, Claims env P m session s c → n < 5 ∨
        ClaimEnds env m s.db (s.tick + 4) ∧ (handleBootstrapDevice env P i id m).actions (s, c) ≤ n) ∧
      (∀ session, Submits env m session s c → n < 6 ∨
        SubmissionEnds env (s.tick + 5) (toldOf i session s.connections) ∧
          (handleBootstrapDevice env P i id m).actions (s, c) ≤ n) := by
  by_cases hclaims : ∃ session, Claims env P m session s c
  · obtain ⟨session, hclaims⟩ := hclaims
    have heq : ∀ session', c.session = some session' → session' = session := fun session' h =>
      Option.some.inj (h.symm.trans hclaims.opened)
    rw [hclaims.atomic]
    constructor
    · refine fun h => ⟨fun session' h' => h, fun session' h' => ?_⟩
      obtain rfl := heq session' h'.opened
      exact absurd hclaims.first h'.later
    · exact fun h => h.1 session hclaims
  by_cases hsubmits : ∃ session, Submits env m session s c
  · obtain ⟨session, hsubmits⟩ := hsubmits
    have heq : ∀ session', c.session = some session' → session' = session := fun session' h =>
      Option.some.inj (h.symm.trans hsubmits.opened)
    rw [hsubmits.atomic]
    constructor
    · refine fun h => ⟨fun session' h' => absurd ⟨session', h'⟩ hclaims, fun session' h' => ?_⟩
      obtain rfl := heq session' h'.opened
      exact h
    · exact fun h => h.2 session hsubmits
  · have hsame := sameTables_of_not id (i := i) (fun session h => hclaims ⟨session, h⟩)
      (fun session h => hsubmits ⟨session, h⟩) n
    exact ⟨fun _ => ⟨fun session h => absurd ⟨session, h⟩ hclaims,
      fun session h => absurd ⟨session, h⟩ hsubmits⟩, fun _ => .inr hsame⟩

end Ws

namespace Scenario.Bootstrap

/-! ## A key without a device -/

/-- Bob's device is bootstrapped, and Alice's password is entered on a client that has its id. -/
def sameId : List Move :=
  [.command 99 (.userAdd "bob" password),
    .frame 0 (helloOf "bob" (uuid 'b')),
    .frame 0 (passwordOf "bob" (uuid 'b')),
    .frame 0 (bootstrapOf (uuid '1') (uuid 'b') 1 2),
    .command 99 (.userAdd "alice" password),
    .frame 1 (helloOf "alice" (uuid 'b')),
    .frame 1 (passwordOf "alice" (uuid 'b'))]

/-- What her client submits. -/
def submitted : BootstrapDevice :=
  { deviceId := uuid 'b'
    deviceName := "device"
    authSigningKey := bytes32 6
    olmEd25519Key := bytes32 6
    olmCurve25519Key := bytes32 6
    sasPublicKey := bytes32 6
    accountMasterKey := bytes32 5
    certificateSignature := DeviceIdentity.certificate primitives (uuid '7') (uuid 'b') (bytes32 5)
      (bytes32 6) (bytes32 6) (bytes32 6)
    oneTimeKeys := [] }

def before : ServerWorld := (clusterAfter sameId).world 1

/-- The handler up to an action. -/
def after (n : Nat) : ServerWorld := (Ws.handleBootstrapDevice server primitives 1 "r" submitted).cut n before

/-- The master key is claimed; that the id is another device's comes out after. -/
theorem claimed_without_device : (serverSystem server primitives).Reachable (clusterAfter sameId) ∧
    ¬Ws.Atomic 1 "r" before (after 100) := by
  refine ⟨clusterAfter_reachable _, ?_⟩
  rintro (⟨new, a, hout, ha⟩ | ⟨haccounts, -, -⟩)
  · have hsame : (after 100).1.out = before.1.out := by decide +kernel
    rw [hsame] at hout
    rw [List.self_eq_append_right.1 hout] at ha
    cases ha
  · have hkey : ((after 100).1.db.accounts.find (uuid '7')).bind AccountRow.masterPublicKey =
        some (bytes32 5) := by decide +kernel
    have hnone : (before.1.db.accounts.find (uuid '7')).bind AccountRow.masterPublicKey = none := by
      decide +kernel
    rw [haccounts, hnone] at hkey
    cases hkey

end Scenario.Bootstrap

end TuiChat
