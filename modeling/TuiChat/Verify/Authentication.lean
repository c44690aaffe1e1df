import TuiChat.Verify.ServerScenario

/-!
# The authentication state machine

A connection's log records its frames, its challenges and what its attempts to authenticate read. A
session becomes active in two steps only, and what precedes it in the log is then fixed: the reads of
a `DeviceAuth` on a challenge that was the latest and was not used (`ProvedKey`), or a master key
that was claimed where there was none, after the password of the account (`ClaimedMaster`). Until
then the ten requests of a session are refused and change nothing (`refuses_handleBody`).
-/

namespace TuiChat

open Lib

variable {env : ServerEnvironment} {P : Primitives} {i : Nat}

/-! ## Evidence -/

/-- The event is neither a challenge nor an attempt that takes one. -/
def ConnectionEvent.keepsChallenge : ConnectionEvent → Bool
  | .challenged _ | .taken _ => false
  | _ => true

/-- The challenge answers the latest `ClientHello` that was answered, which names its user and device;
no attempt has taken it. -/
def Offered (challenge : Challenge) (log : List ConnectionEvent) : Prop :=
  ∃ post f hello pre, log = post ++ .challenged challenge :: .received f :: pre ∧
    (∀ e ∈ post, e.keepsChallenge = true) ∧ f.body = some (.clientHello hello) ∧
    Ws.normalizeUsername hello.username = .ok challenge.username ∧ challenge.deviceId = hello.deviceId

/-- The log ends in a `DeviceAuth` that proves the key of the session's device. -/
def ProvedKey (env : ServerEnvironment) (P : Primitives) (log : List ConnectionEvent) (s : Session) : Prop :=
  ∃ f auth challenge device n rest,
    log = .readDevice s.account.id s.deviceId (some device) ::
      .readAccount challenge.username (some s.account) :: .readClock n :: .taken (some challenge) ::
      .received f :: rest ∧
    f.body = some (.deviceAuth auth) ∧ Offered challenge rest ∧
    Ws.normalizeUsername auth.username = .ok challenge.username ∧
    challenge.deviceId = auth.deviceId ∧ auth.deviceId = s.deviceId ∧
    env.nowMs n ≤ challenge.expiresAtMs ∧
    s.account.state = .active ∧ device.pending = false ∧ device.revoked = false ∧
    Ws.verifySignature P device.authSigningKey (Ws.authChallengePayload env.publicDomain
      s.account.username auth.deviceId challenge.nonce challenge.expiresAtMs) auth.signature = .ok ()

/-- The log ends in a `PasswordAuth` with the password of the account's row, for the device. -/
def ProvedPassword (env : ServerEnvironment) (log : List ConnectionEvent) (row : AccountRow)
    (deviceId : String) : Prop :=
  ∃ f auth challenge device n rest,
    log = .readDevice row.id deviceId device :: .readAccount challenge.username (some row) ::
      .readClock n :: .taken (some challenge) :: .received f :: rest ∧
    f.body = some (.passwordAuth auth) ∧ Offered challenge rest ∧ challenge.deviceId = auth.deviceId ∧
    auth.deviceId = deviceId ∧ row.state = .active ∧
    env.passwords.verify row.passwordPhc auth.password = true

/-- The log ends in a master key that the session's device has claimed, where the account had none. -/
def ClaimedMaster (env : ServerEnvironment) (P : Primitives) (log : List ConnectionEvent) (s : Session) :
    Prop :=
  ∃ f m row rest post pre,
    log = .masterClaimed s.account.id m.accountMasterKey none :: rest ∧
    .received f ∈ rest ∧ f.body = some (.bootstrapDevice m) ∧ m.deviceId = s.deviceId ∧
    Ws.verifyDeviceCertificate P m.accountMasterKey s.account.id (Ws.BootstrapDevice.bundle m) = .ok () ∧
    rest = post ++ .passwordAccepted row s.deviceId :: pre ∧ row.id = s.account.id ∧
    ProvedPassword env pre row s.deviceId

/-! ## The invariant of a connection -/

/-- What a log has before an event. -/
def Justified (env : ServerEnvironment) : ConnectionEvent → List ConnectionEvent → Prop
  | .taken (some challenge), pre => Offered challenge pre
  | .passwordAccepted row deviceId, pre => ProvedPassword env pre row deviceId
  | _, _ => True

theorem Offered.cons {challenge : Challenge} {log : List ConnectionEvent} {e : ConnectionEvent}
    (h : Offered challenge log) (he : e.keepsChallenge = true) : Offered challenge (e :: log) := by
  obtain ⟨post, f, hello, pre, rfl, hpost, h⟩ := h
  refine ⟨e :: post, f, hello, pre, rfl, fun e' he' => ?_, h⟩
  rcases List.mem_cons.1 he' with rfl | he'
  · exact he
  · exact hpost e' he'

/-- What came last does not matter if it keeps the challenge. -/
theorem Offered.of_cons {challenge : Challenge} {log : List ConnectionEvent} {e : ConnectionEvent}
    (h : Offered challenge (e :: log)) (he : e.keepsChallenge = true) : Offered challenge log := by
  obtain ⟨post, f, hello, pre, hlog, hpost, h⟩ := h
  cases post with
  | nil =>
    cases hlog
    cases he
  | cons e' post =>
    cases hlog
    exact ⟨post, f, hello, pre, rfl, fun e he => hpost e (List.mem_cons_of_mem _ he), h⟩

namespace Connection

structure Accounted (env : ServerEnvironment) (c : Connection) : Prop where
  challenge : ∀ challenge, c.challenge = some challenge → Offered challenge c.log
  pending : ∀ s, c.session = some s → s.pending = true →
    ∃ row, .passwordAccepted row s.deviceId ∈ c.log ∧ row.id = s.account.id
  recorded : Recorded (Justified env) c.log

/-- An event that needs no justification. -/
theorem Accounted.cons {c : Connection} {e : ConnectionEvent} (h : c.Accounted env)
    (he : e.keepsChallenge = true) (hj : Justified env e c.log) :
    Accounted env { c with log := e :: c.log } where
  challenge challenge hc := (h.challenge challenge hc).cons he
  pending s hs hp := (h.pending s hs hp).imp fun _ hrow => ⟨List.mem_cons_of_mem _ hrow.1, hrow.2⟩
  recorded := ⟨hj, h.recorded⟩

/-- The session becomes an active one. -/
theorem Accounted.active {c : Connection} (h : c.Accounted env) {s : Session} (hs : s.pending = false) :
    Accounted env { c with session := some s } where
  challenge := h.challenge
  pending s' hs' hp := by
    cases hs'
    rw [hs] at hp
    cases hp
  recorded := h.recorded

theorem Accounted.step {c c' : Connection} {s s' : AppState} (h : c.Accounted env)
    (hs : ServerStep env P i (s, c) (s', c')) : c'.Accounted env := by
  cases hs with
  | stayed | learned | sent | registered | unregistered | directory => exact h
  | bucket | closed => exact ⟨h.challenge, h.pending, h.recorded⟩
  | readAccount | readDevice | readClock | received => exact h.cons rfl trivial
  | wrote log events write stored acknowledged recorded =>
    rcases recorded with rfl | ⟨session, m, _, rfl⟩
    · exact h
    · exact h.cons rfl trivial
  | challenged f hello challenge rest session log body username device =>
    refine ⟨fun ch hch => ?_, fun s hs => absurd (session.symm.trans hs) nofun, trivial, h.recorded⟩
    cases hch
    exact ⟨[], f, hello, rest, by rw [log]; rfl, fun _ he => (nomatch he), body, username, device⟩
  | taken session =>
    refine ⟨fun _ hch => (nomatch hch), fun s hs => absurd (session.symm.trans hs) nofun, ?_, h.recorded⟩
    cases hc : c.challenge with
    | none => trivial
    | some challenge => exact h.challenge challenge hc
  | authenticated => exact h.active rfl
  | bootstrapped => exact h.active rfl
  | passwordChanged session phc current active => exact h.active active
  | passwordAccepted f auth challenge row device n phc capabilities rest log session body challenged active
      password =>
    refine ⟨fun ch hch => (h.challenge ch hch).cons rfl, fun s hs _ => ?_, ?_, h.recorded⟩
    · cases hs
      exact ⟨row, List.mem_cons_self, rfl⟩
    · have hrecorded := h.recorded
      rw [log] at hrecorded
      have hoffered : Offered challenge rest := hrecorded.2.2.2.1.of_cons rfl
      exact ⟨f, auth, challenge, device, n, rest, log, body, hoffered, challenged, challenged.symm, active,
        password⟩

end Connection

theorem accounted {p : Cluster} (h : (serverSystem env P).Reachable p) (t : Nat) :
    (p.locals t).Accounted env :=
  Cluster.invariant_connection (I := Connection.Accounted env) h
    ⟨fun _ h => (nomatch h), fun _ h => (nomatch h), trivial⟩
    (fun _ _ _ _ _ hI hs => hI.step hs) (fun _ hI => ⟨hI.challenge, hI.pending, hI.recorded⟩) t

/-- A step that makes the session active for another account or device than before. -/
theorem activated_of_step {c c' : Connection} {s s' : AppState} (h : c.Accounted env)
    (hs : ServerStep env P i (s, c) (s', c')) {session : Session} (hsession : c'.session = some session)
    (active : session.pending = false)
    (new : ¬∃ old, c.session = some old ∧ old.pending = false ∧ old.account.id = session.account.id ∧
      old.deviceId = session.deviceId) :
    ProvedKey env P c'.log session ∨ ClaimedMaster env P c'.log session := by
  cases hs with
  | authenticated f auth challenge account device n capabilities rest log hnone body username challenged
      unexpired accountActive deviceActive signature =>
    cases hsession
    have hrecorded := h.recorded
    rw [log] at hrecorded
    have hoffered : Offered challenge rest := hrecorded.2.2.2.1.of_cons rfl
    have hdevice : device.pending = false ∧ device.revoked = false := by
      simpa [DeviceRow.active] using deviceActive
    exact .inl ⟨f, auth, challenge, device, n, rest, log, body, hoffered, username, challenged, rfl,
      unexpired, accountActive, hdevice.1, hdevice.2, signature⟩
  | bootstrapped old m id rest current pending received device log inserted certificate =>
    cases hsession
    obtain ⟨f, hf, -, body⟩ := received
    obtain ⟨row, hrow, hid⟩ := h.pending old current pending
    have hrecorded := h.recorded
    rw [log] at hf hrow hrecorded
    have hf' : .received f ∈ rest := (List.mem_cons.1 hf).resolve_left nofun
    have hrow' : .passwordAccepted row old.deviceId ∈ rest := (List.mem_cons.1 hrow).resolve_left nofun
    obtain ⟨post, pre, hrest⟩ := List.append_of_mem hrow'
    have hpassword : ProvedPassword env pre row old.deviceId := by
      have hr := hrecorded.2
      rw [hrest] at hr
      exact hr.at
    exact .inr ⟨f, m, row, rest, post, pre, log, hf', body, device, certificate, hrest, hid, hpassword⟩
  | passwordChanged old phc current hactive =>
    cases hsession
    exact absurd ⟨old, current, hactive, rfl, rfl⟩ new
  | passwordAccepted =>
    cases hsession
    cases active
  | challenged | taken | stayed | learned | sent | registered | unregistered | directory | bucket | closed
  | readAccount | readDevice | readClock | received | wrote =>
    exact absurd ⟨session, hsession, active, rfl, rfl⟩ new

/-! ## Requests without a session -/

/-- The session of the connection is absent or pending. -/
def Connection.Inactive (c : Connection) : Prop := ∀ s, c.session = some s → s.pending = true

/-- The requests of an active session. -/
def Body.needsActive : Body → Bool
  | .changePassword _ | .lookupUser _ | .publishPreKeys _ | .claimPreKey _ | .sendEnvelopes _
  | .syncRequest _ | .ackEnvelope _ | .activateDevice _ | .listOwnDevices | .revokeOwnDevice _ => true
  | _ => false

/-- The program changes nothing and ends in an error, whatever the others do meanwhile. -/
def Refuses {α : Type} (m : ServerM α) (c : Connection) : Prop :=
  ∀ s, m.wp (Pool.Interferes fun _ _ => True) (fun w w' => w' = w) (fun _ _ => False) (fun _ _ => True)
    (s, c)

theorem Ws.refuses_activeSession {α : Type} {c : Connection} (h : c.Inactive) {f : Session → ServerM α} :
    Refuses (Ws.activeSession >>= f) c := by
  intro s
  unfold Ws.activeSession Ws.getConnection
  rw [Proc.wp_bind, Proc.wp_bind, Proc.wp_atomically]
  rintro ⟨s', _⟩ ⟨-, rfl⟩
  refine ⟨rfl, fun slot hslot => ?_, fun _ _ => trivial⟩
  cases hslot
  refine Proc.wp.orFail trivial fun session hsession => Proc.wp.ensure trivial fun hactive => ?_
  rw [h session hsession] at hactive
  cases hactive

theorem Ws.refuses_handleBody {c : Connection} (h : c.Inactive) {body : Body}
    (hbody : body.needsActive = true) (token : Nat) (id : String) :
    Refuses (Ws.handleBody env P token id body) c := by
  cases body with
  | changePassword | lookupUser | publishPreKeys | claimPreKey | sendEnvelopes | syncRequest | ackEnvelope
  | activateDevice | listOwnDevices | revokeOwnDevice => exact Ws.refuses_activeSession h
  | _ => cases hbody

/-! ## The state machine -/

/-- Whenever the session of a connection becomes active for an account and a device, the connection
has proved the device's key or claimed the account's master key; in every state in which it is not
active, the requests of a session are refused and change nothing. -/
theorem authentication_state_machine {p : Cluster} (h : (serverSystem env P).Reachable p) (t : Nat) :
    (∀ l p' session, Cluster.step env P p l = some p' → (p'.locals t).session = some session →
      session.pending = false →
      (¬∃ old, (p.locals t).session = some old ∧ old.pending = false ∧
        old.account.id = session.account.id ∧ old.deviceId = session.deviceId) →
      ProvedKey env P (p'.locals t).log session ∨ ClaimedMaster env P (p'.locals t).log session) ∧
    ((p.locals t).Inactive → ∀ body id, body.needsActive = true →
      Refuses (Ws.handleBody env P t id body) (p.locals t)) := by
  refine ⟨fun l p' session hs hsession active new => ?_, fun hinactive body id hbody =>
    Ws.refuses_handleBody hinactive hbody t id⟩
  have same : p'.locals t = p.locals t → False := fun heq =>
    new ⟨session, heq ▸ hsession, active, rfl, rfl⟩
  cases ((Cluster.serving h).step hs).2 with
  | waited shared locals => exact (same (congrFun locals t)).elim
  | acted i hstep others =>
    by_cases ht : t = i
    · subst ht
      exact activated_of_step (accounted h t) hstep hsession active new
    · exact (same (by rw [others, Function.update_of_ne ht])).elim
  | crashed hcrashed =>
    subst hcrashed
    exact absurd ⟨session, hsession, active, rfl, rfl⟩ new

namespace Scenario.FirstLogin

def moves : List Move :=
  [.command 9 (.userAdd "alice" password), .frame 0 (helloOf "alice" (uuid 'a')),
    .frame 0 (passwordOf "alice" (uuid 'a'))]

/-- The server while it handles the first device of Alice, after some of the handler's actions. -/
def submitted (n : Nat) : Cluster :=
  (fun p => p.advance 0)^[n] ((clusterAfter moves).start 0 (Ws.serve server primitives 0
    (.binary (.ok (frame "r" (bootstrapOf (uuid '1') (uuid 'a') 1 2))))))

theorem submitted_reachable (n : Nat) : (serverSystem server primitives).Reachable (submitted n) := by
  refine Cluster.advances_reachable (.step (clusterAfter_reachable moves) trivial
    (i := .incoming 0 (.binary (.ok (frame "r" (bootstrapOf (uuid '1') (uuid 'a') 1 2))))) ?_) 0 n
  exact if_pos (by decide +kernel)

theorem authentication_state_machine_alice :
    (∃ session, ((submitted 13).locals 0).session = some session ∧ session.pending = false ∧
      (ProvedKey server primitives ((submitted 13).locals 0).log session ∨
        ClaimedMaster server primitives ((submitted 13).locals 0).log session)) ∧
    ∀ body id, body.needsActive = true →
      Refuses (Ws.handleBody server primitives 0 id body) ((submitted 12).locals 0) := by
  have hstep : Cluster.step server primitives (submitted 12) (.advance 0) = some (submitted 13) := by
    rw [show submitted 13 = (submitted 12).advance 0 from Function.iterate_succ_apply' ..]
    exact if_pos (by decide +kernel)
  have hpending : ((submitted 12).locals 0).session.all Session.pending = true := by decide +kernel
  have hactive : ((submitted 13).locals 0).session.any (fun s => !s.pending) = true := by decide +kernel
  have inactive : ((submitted 12).locals 0).Inactive := fun s hs => by
    rw [hs] at hpending
    exact hpending
  obtain ⟨session, hsession, hnot⟩ := Option.any_eq_true _ _ |>.1 hactive
  have active : session.pending = false := by simpa using hnot
  refine ⟨⟨session, hsession, active, ?_⟩, ?_⟩
  · refine (authentication_state_machine (submitted_reachable 12) 0).1 _ _ session hstep hsession active ?_
    rintro ⟨old, hold, hfalse, -⟩
    rw [inactive old hold] at hfalse
    cases hfalse
  · exact (authentication_state_machine (submitted_reachable 12) 0).2 inactive

end Scenario.FirstLogin

end TuiChat
