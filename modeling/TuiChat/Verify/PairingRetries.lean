import TuiChat.Client.Effects
import TuiChat.Client.Exec
import TuiChat.Verify.Scenario

/-!
# Repeating a pairing action that failed

The three functions consume what their guards test before they do what can fail: `start_pairing` removes the
request, `confirm_pairing` sets the flag, `finish_pairing_as_approver` takes the session out. So a failed call
is attempted again by the same action if it had nothing to attempt, or if another copy of the request is at
hand (`failed_pairing_retries_iff`).
-/

namespace TuiChat

open Lib
open Lib.Prog (Moves wp)
open Lib.Wire (utf8)

variable {P : Primitives} {env : Environment} {w : World P} {notified : Option PairingRequest}
  {requested : Option String} {r : PairingRequest}

/-! ## Actions and what they attempt -/

/-- The calls of the three functions. A notification's request is put back before the call it makes. -/
inductive PairingCall
  | start (notified : Option PairingRequest) (requested : Option String)
  | confirm
  | finish
deriving DecidableEq, Repr

/-- With the request of a notification among those at hand. -/
def App.offering (app : App P) : Option PairingRequest → App P
  | none => app
  | some r => { app with pairingRequests := addPairingRequest app.pairingRequests r }

def PairingCall.run (env : Environment) : PairingCall → ClientM P Unit
  | .start notified requested => do
    modifyApp fun app => app.offering notified
    startPairing env requested
  | .confirm => confirmPairing env
  | .finish => finishPairingAsApprover env

/-- Starting from a notification is one of the calls. -/
theorem activatePairingNotification_start {n : Notification} {pairingId device name : String} {key : Bytes}
    {d : DeviceBundle} (hn : n.data = .pairing false pairingId device name key d) :
    (activatePairingNotification env n : ClientM P Unit) =
      PairingCall.run env (.start n.data.pairingRequest (some pairingId)) >>= fun _ =>
        markNotificationState env n.id .inProgress true := by
  unfold activatePairingNotification PairingCall.run
  rw [hn, Prog.bind_assoc]
  rfl

/-- What a call is there to do. -/
inductive ProtocolStep
  /-- Answer a request with a key of our own. -/
  | answer (r : PairingRequest)
  /-- Tell the other end that the strings agree. -/
  | confirmation (pairingId : String)
  /-- Certify the device, move the account to it and have it activated. -/
  | activation (pairingId : String)
deriving DecidableEq, Repr

/-- The request that `start_pairing` selects, with its index. -/
def App.selects (app : App P) (requested : Option String) : Option (Nat × PairingRequest) :=
  (requestIndex app.pairingRequests requested).bind fun i => app.pairingRequests[i]?.map fun r => (i, r)

/-- The request that its guards let through. -/
def App.starts (app : App P) (requested : Option String) : Option (Nat × PairingRequest) :=
  if app.profile.pending = false ∧ app.pairing.isSome = false then app.selects requested else none

def App.withoutRequest (app : App P) (i : Nat) : App P :=
  { app with pairingRequests := app.pairingRequests.eraseIdx i }

/-- The step that a call attempts: what its guards let through. -/
def PairingCall.attempts (app : App P) : PairingCall → Option ProtocolStep
  | .start notified requested => ((app.offering notified).starts requested).map fun c => .answer c.2
  | .confirm => app.pairing.bind fun p =>
    if p.ourConfirmed then none
    else if p.approver = true ∧ p.peerConfirmed = true then some (.activation p.pairingId)
    else some (.confirmation p.pairingId)
  | .finish => app.pairing.bind fun p =>
    if p.ourConfirmed = false ∨ p.peerConfirmed = false then none else some (.activation p.pairingId)

theorem attempts_start (app : App P) : PairingCall.attempts app (.start notified requested) =
    ((app.offering notified).starts requested).map fun c => .answer c.2 := rfl

theorem attempts_without {app : App P} (h : app.pairing = none) :
    PairingCall.attempts app .confirm = none ∧ PairingCall.attempts app .finish = none := by
  unfold PairingCall.attempts
  rw [h]
  exact ⟨rfl, rfl⟩

/-- The same call attempts again what it attempted. -/
def PairingCall.Retries (c : PairingCall) (app app' : App P) : Prop :=
  ∀ step, c.attempts app = some step → c.attempts app' = some step

/-- `start_pairing` stops at the request before it has made a session, when the number of the next thing learned
is as given. -/
def PairingRequest.Stops (P : Primitives) (env : Environment) (r : PairingRequest) (n : Nat) : Prop :=
  r.pendingDevice = none ∨ r.sasPublicKey.length ≠ 32 ∨
    (∀ channel, establish P (P.x25519Secret n) r.sasPublicKey r.pairingId ≠ .ok channel) ∨
      ¬env.works (n + 1) = true

/-- The call is a start that stops at the request it has removed, and selects an equal one among the others. -/
def PairingCall.Reselects (env : Environment) (w : World P) : PairingCall → Prop
  | .start notified requested => ∃ i r, (w.app.offering notified).starts requested = some (i, r) ∧
      r.Stops P env w.tick ∧
        ∃ j, (((w.app.offering notified).withoutRequest i).offering notified).starts requested = some (j, r)
  | .confirm | .finish => False

/-! ## What keeps the session -/

/-- The session in memory is the same. -/
def SameSession (w w' : World P) : Prop := w'.app.pairing = w.app.pairing

instance : Std.Refl (SameSession (P := P)) := ⟨fun _ => rfl⟩

instance : IsTrans (World P) SameSession := ⟨fun _ _ _ h h' => Eq.trans h' h⟩

theorem modifyApp_session {f : App P → App P} (h : ∀ app, (f app).pairing = app.pairing) :
    Moves SameSession (modifyApp f) := fun w => h w.app

theorem draw_session : Moves SameSession (draw : ClientM P Nat) :=
  .bind (.gets _) fun _ => .bind (.modify fun _ => rfl) fun _ => .pure _

theorem attempt_session (e : Error) : Moves SameSession (attempt env e : ClientM P Unit) :=
  .bind draw_session fun _ => .ensure _ _

theorem query_session {α : Type} (f : Store P → α) : Moves SameSession (query env f) :=
  .bind (attempt_session _) fun _ => .gets _

theorem execute_session (f : Store P → Option (Store P)) : Moves SameSession (execute env f) :=
  .bind (attempt_session _) fun _ => .bind (.gets _) fun w => by
    dsimp only
    cases f w.store with
    | none => exact .fail _
    | some store => exact .modify fun _ => rfl

theorem sendFrame_session (f : Frame) : Moves SameSession (sendFrame env f : ClientM P Unit) :=
  .bind (attempt_session _) fun _ => .modify fun _ => rfl

theorem request_session (body : Body) : Moves SameSession (request env body : ClientM P (Option Body)) := by
  refine .bind (.bind draw_session fun _ => .pure _) fun _ => .bind (sendFrame_session _) fun _ =>
    .bind draw_session fun n => ?_
  split
  · exact .fail _
  · exact .fail _
  · exact .pure _

theorem markNotificationState_session (id : String) (state : NotificationState) (read : Bool) :
    Moves SameSession (markNotificationState env id state read : ClientM P Unit) := by
  refine .bind (.bind draw_session fun _ => .pure _) fun _ => .bind (execute_session _) fun _ => ?_
  refine .bind (.gets _) fun _ => .bind (query_session _) fun _ => modifyApp_session fun _ => rfl

/-- The notification of a pairing gets its state. -/
theorem markPairing_session (pairingId : String) (state : NotificationState) :
    Moves SameSession (do
      let notification ← notificationByRequestId env pairingId
      match notification with
      | none => pure ()
      | some n => markNotificationState env n.id state true : ClientM P Unit) :=
  .bind (query_session _) fun n => by
    cases n with
    | none => exact .pure _
    | some n => exact markNotificationState_session _ _ _

theorem lookupBundleFresh_session (username : String) :
    Moves SameSession (lookupBundleFresh env username : ClientM P UserBundle) :=
  .bind (request_session _) fun _ => .bind (.orFail _ _) fun _ =>
    .bind (.bind (.bind draw_session fun _ => .pure _) fun _ => modifyApp_session fun _ => rfl) fun _ => .pure _

theorem sendPairingPayload_session (p : PairingSession) (eventType : String) (plaintext : Bytes) :
    Moves SameSession (sendPairingPayload env p eventType plaintext : ClientM P Unit) :=
  .bind draw_session fun _ => sendFrame_session _

theorem sendTransfers_session (p : PairingSession) (secret : Bytes) :
    Moves SameSession (sendTransfers env p secret : ClientM P Unit) :=
  .bind (query_session _) fun _ => .bind (sendPairingPayload_session _ _ _) fun _ =>
    .bind (query_session _) fun _ => .bind (.each fun _ _ => sendPairingPayload_session _ _ _) fun _ =>
      sendPairingPayload_session _ _ _

/-! ## How the three calls stop -/

/-- `start_pairing` stops at its guards, at the request it has removed, or with a session. -/
theorem startPairing_ends : wp (startPairing env requested) (fun _ _ => w.app.starts requested ≠ none)
    (fun _ w' => w.app.starts requested = none ∧ w' = w ∨
      ∃ i r, w.app.starts requested = some (i, r) ∧
        (r.Stops P env w.tick ∧ w'.app = w.app.withoutRequest i ∨
          ¬r.Stops P env w.tick ∧ w'.app.pairing.isSome = true)) w := by
  unfold startPairing
  rw [wp_getApp_bind]
  rw [Prog.wp_bind, Prog.wp_ensure]
  refine ⟨fun hactive => ?_, fun h => .inl ⟨if_neg fun h' => h h'.1, rfl⟩⟩
  rw [wp_getApp_bind, Prog.wp_bind, Prog.wp_ensure]
  refine ⟨fun hidle => ?_, fun h => .inl ⟨if_neg fun h' => h h'.2, rfl⟩⟩
  have hstarts : w.app.starts requested = w.app.selects requested := if_pos ⟨hactive, hidle⟩
  rw [wp_getApp_bind, Prog.wp_bind, Prog.wp_orFail, hstarts]
  refine ⟨fun c hc => ?_, fun h => .inl ⟨h, rfl⟩⟩
  obtain ⟨i, r⟩ := c
  have hselected : w.app.selects requested = some (i, r) := hc
  have hstops : ∀ {w' : World P}, r.Stops P env w.tick → w'.app = w.app.withoutRequest i →
      w.app.selects requested = none ∧ w' = w ∨
        ∃ i r, w.app.selects requested = some (i, r) ∧
          (r.Stops P env w.tick ∧ w'.app = w.app.withoutRequest i ∨
            ¬r.Stops P env w.tick ∧ w'.app.pairing.isSome = true) :=
    fun h happ => .inr ⟨i, r, hselected, .inl ⟨h, happ⟩⟩
  rw [wp_modifyApp_bind, Prog.wp_bind, Prog.wp_orFail]
  refine ⟨fun d hdevice => ?_, fun h => hstops (.inl h) rfl⟩
  rw [Prog.wp_bind, Prog.wp_ensure]
  refine ⟨fun hkey => ?_, fun h => hstops (.inr (.inl h)) rfl⟩
  rw [Prog.wp_bind, wp_draw_iff, Prog.wp_bind, Prog.wp_ofExcept]
  refine ⟨fun channel hchannel => ?_, fun e he => hstops (.inr (.inr (.inl fun c hc => ?_))) rfl⟩
  case refine_2 => cases he.symm.trans hc
  unfold notify
  rw [Prog.wp_bind, wp_sendFrame_iff]
  refine ⟨fun hworks => ?_, fun h => hstops (.inr (.inr (.inr h))) rfl⟩
  have hgoes : ¬r.Stops P env w.tick := by
    rintro (h | h | h | h)
    · cases h.symm.trans hdevice
    · exact h hkey
    · exact h channel hchannel
    · exact h hworks
  unfold setStatus setPairing record
  rw [wp_modifyApp_bind, wp_modifyApp_bind, Prog.wp_bind, Prog.wp_modify]
  have hsome : w.app.selects requested ≠ none := hselected ▸ Option.some_ne_none _
  refine ((markPairing_session _ _).wp _).mono (fun _ _ _ => hsome) fun _ w' h => ?_
  refine .inr ⟨i, r, hselected, .inr ⟨hgoes, ?_⟩⟩
  rw [show w'.app.pairing = _ from h]
  rfl

/-- A call that stops with a session of both confirmations has taken it out. -/
theorem finishPairing_ends : wp (finishPairingAsApprover env) (fun _ _ => PairingCall.attempts w.app .finish ≠ none)
    (fun _ w' => PairingCall.attempts w.app .finish = none ∧ w'.sent = w.sent ∨
      PairingCall.attempts w.app .finish ≠ none ∧ w'.app.pairing = none) w := by
  unfold finishPairingAsApprover setPairing PairingCall.attempts
  rw [wp_getApp_bind, wp_modifyApp_bind, Prog.wp_bind, Prog.wp_orFail]
  refine ⟨fun p hp => ?_, fun h => .inl ⟨by rw [h]; rfl, rfl⟩⟩
  rw [hp]
  by_cases hboth : p.ourConfirmed = false ∨ p.peerConfirmed = false
  · rw [if_pos hboth]
    exact .inl ⟨if_pos hboth, rfl⟩
  rw [if_neg hboth]
  have hstep : ((some p).bind fun p : PairingSession => if p.ourConfirmed = false ∨ p.peerConfirmed = false
      then none else some (ProtocolStep.activation p.pairingId)) ≠ none := by
    rw [Option.bind_some, if_neg hboth]
    exact Option.some_ne_none _
  -- The rest of the call never puts the session back.
  have hrest : Moves SameSession (do
      let identity ← getApp fun app => app.profile.identity
      let device ← Prog.ofExcept (identity.certifyBundle P p.pendingDevice)
      record (.certified p device)
      let masterSecret ← Prog.orFail identity.master "账号主密钥不可用"
      sendTransfers env p masterSecret
      let username ← getApp fun app => app.profile.username
      let selfBundle ← lookupBundleFresh env username
      let revision := selfBundle.rosterRevision + 1
      let rosterSignature ← Prog.ofExcept (identity.signRoster P revision device.deviceId)
      let _ ← request env (.activateDevice
        { pairingId := p.pairingId
          device := some device
          rosterRevision := revision
          rosterSignature })
      let notification ← notificationByRequestId env p.pairingId
      match notification with
      | none => pure ()
      | some n => markNotificationState env n.id .completed true
      setStatus "设备已批准" : ClientM P Unit) := by
    refine .bind (.gets _) fun identity => .bind (.ofExcept _) fun device => .bind (.modify fun _ => rfl) fun _ =>
      .bind (.orFail _ _) fun secret => .bind (sendTransfers_session _ _) fun _ => .bind (.gets _) fun username =>
      .bind (lookupBundleFresh_session _) fun bundle => .bind (.ofExcept _) fun signature =>
      .bind (request_session _) fun _ => .bind (query_session _) fun n => ?_
    cases n with
    | none => exact modifyApp_session fun _ => rfl
    | some n => exact .bind (markNotificationState_session _ _ _) fun _ => modifyApp_session fun _ => rfl
  exact (hrest.wp _).mono (fun _ _ _ => hstep) fun _ w' h => .inr ⟨hstep, h⟩

/-- A call that stops with a session that was to be confirmed has taken it out or marked it confirmed. -/
theorem confirmPairing_ends : wp (confirmPairing env)
    (fun _ w' => PairingCall.attempts w.app .confirm = none → w'.sent = w.sent)
    (fun _ w' => PairingCall.attempts w.app .confirm = none ∧ w'.sent = w.sent ∨
      PairingCall.attempts w.app .confirm ≠ none ∧ PairingCall.attempts w'.app .confirm = none) w := by
  unfold confirmPairing
  rw [wp_getApp_bind, Prog.wp_bind, Prog.wp_orFail]
  refine ⟨fun p hp => ?_, fun h => .inl ⟨(attempts_without h).1, rfl⟩⟩
  by_cases hours : p.ourConfirmed = true
  · rw [if_pos hours]
    exact fun _ => rfl
  rw [if_neg hours]
  have hstep : PairingCall.attempts w.app .confirm ≠ none := by
    unfold PairingCall.attempts
    rw [hp, Option.bind_some, if_neg hours]
    by_cases hboth : p.approver = true ∧ p.peerConfirmed = true
    · rw [if_pos hboth]
      exact Option.some_ne_none _
    · rw [if_neg hboth]
      exact Option.some_ne_none _
  -- With the flag set the call has nothing to attempt.
  have hset : ∀ {w' : World P}, w'.app.pairing = some { p with ourConfirmed := true } →
      PairingCall.attempts w'.app .confirm = none := by
    intro w' h
    unfold PairingCall.attempts
    rw [h]
    rfl
  unfold record setPairing
  rw [Prog.wp_bind, Prog.wp_modify, wp_modifyApp_bind]
  by_cases happrover : p.approver = true
  · rw [if_pos happrover]
    by_cases hpeer : p.peerConfirmed = true
    · rw [if_pos hpeer]
      refine finishPairing_ends.mono (fun _ _ _ h => absurd h hstep) fun _ w' h => .inr ⟨hstep, ?_⟩
      rcases h with ⟨h, -⟩ | h
      · have : PairingCall.attempts (P := P) { w.app with pairing := some { p with ourConfirmed := true } }
            .finish = some (.activation p.pairingId) := by
          unfold PairingCall.attempts
          exact if_neg (by simp [hpeer])
        cases this.symm.trans h
      · exact (attempts_without h.2).1
    · rw [if_neg hpeer]
      exact fun h => absurd h hstep
  · rw [if_neg happrover]
    have hsend : Moves SameSession (do
        sendPairingPayload env p "sas_confirmed" (utf8 "sas-confirmed")
        setStatus "已确认短认证码，等待旧设备批准并迁移历史" : ClientM P Unit) :=
      .bind (sendPairingPayload_session _ _ _) fun _ => modifyApp_session fun _ => rfl
    exact (hsend.wp _).mono (fun _ _ _ h => absurd h hstep) fun _ w' h => .inr ⟨hstep, hset h⟩

/-! ## Failed calls -/

/-- A call with nothing to attempt sends nothing. -/
theorem nothing_attempted (c : PairingCall) (h : c.attempts w.app = none) :
    ((c.run env).exec w).2.sent = w.sent := by
  refine (Prog.wp_state (P := fun w' : World P => w'.sent = w.sent)).1 ?_
  cases c with
  | confirm =>
    exact confirmPairing_ends.mono (fun _ _ hs => hs h) fun _ _ hs => hs.elim And.right fun hs => absurd h hs.1
  | finish =>
    exact finishPairing_ends.mono (fun _ _ hs => absurd h hs) fun _ _ hs => hs.elim And.right fun hs => absurd h hs.1
  | start notified requested =>
    have hnone : (w.app.offering notified).starts requested = none := by
      rw [attempts_start] at h
      exact Option.map_eq_none_iff.1 h
    unfold PairingCall.run
    rw [wp_modifyApp_bind]
    refine startPairing_ends.mono (fun _ _ hs => absurd hnone hs) fun _ w' hs => ?_
    rcases hs with ⟨-, rfl⟩ | ⟨i, r, hstarts, -⟩
    · rfl
    · cases hnone.symm.trans hstarts

/-- After a failed call the same call attempts what it attempted, if and only if that was nothing, or a request
that the call stopped at and that is selected again from what it left. -/
theorem failed_pairing_retries_iff {c : PairingCall} {e : Error} {w' : World P}
    (h : (c.run env).exec w = (.error e, w')) :
    c.Retries w.app w'.app ↔ c.attempts w.app = none ∨ c.Reselects env w := by
  have hlost : c.attempts w.app ≠ none → c.attempts w'.app = none → ¬c.Reselects env w →
      (c.Retries w.app w'.app ↔ c.attempts w.app = none ∨ c.Reselects env w) := by
    intro hstep hafter hnot
    obtain ⟨step, hstep'⟩ := Option.ne_none_iff_exists'.1 hstep
    refine iff_of_false (fun hr => ?_) fun hr => hr.elim hstep hnot
    cases (hr step hstep').symm.trans hafter
  have hnone : c.attempts w.app = none →
      (c.Retries w.app w'.app ↔ c.attempts w.app = none ∨ c.Reselects env w) := by
    intro hnone
    refine iff_of_true (fun step hstep => ?_) (.inl hnone)
    cases hstep.symm.trans hnone
  cases c with
  | confirm =>
    rcases confirmPairing_ends.error h with ⟨h, -⟩ | ⟨hstep, hafter⟩
    · exact hnone h
    · exact hlost hstep hafter id
  | finish =>
    rcases finishPairing_ends.error h with ⟨h, -⟩ | ⟨hstep, hafter⟩
    · exact hnone h
    · exact hlost hstep (attempts_without hafter).2 id
  | start notified requested =>
    have hrun : (startPairing env requested).exec { w with app := w.app.offering notified } = (.error e, w') := h
    rcases startPairing_ends.error hrun with ⟨hstarts, -⟩ | ⟨i, r, hstarts, hends⟩
    · refine hnone ?_
      rw [attempts_start, show (w.app.offering notified).starts requested = none from hstarts]
      rfl
    have hstarts : (w.app.offering notified).starts requested = some (i, r) := hstarts
    have hstep : PairingCall.attempts w.app (.start notified requested) = some (.answer r) := by
      rw [attempts_start, hstarts]
      rfl
    rcases hends with ⟨hstops, happ⟩ | ⟨hgoes, hsession⟩
    · have happ : w'.app = (w.app.offering notified).withoutRequest i := happ
      have hafter : PairingCall.attempts w'.app (.start notified requested) = some (.answer r) ↔
          ∃ j, (((w.app.offering notified).withoutRequest i).offering notified).starts requested = some (j, r) := by
        rw [attempts_start, happ, Option.map_eq_some_iff]
        constructor
        · rintro ⟨⟨j, r'⟩, hj, hr'⟩
          cases hr'
          exact ⟨j, hj⟩
        · rintro ⟨j, hj⟩
          exact ⟨(j, r), hj, rfl⟩
      constructor
      · intro hr
        exact .inr ⟨i, r, hstarts, hstops, hafter.1 (hr _ hstep)⟩
      · rintro (hnot | ⟨i', r', hstarts', -, hagain⟩)
        · cases hstep.symm.trans hnot
        · cases hstarts.symm.trans hstarts'
          intro step h'
          cases hstep.symm.trans h'
          exact hafter.2 hagain
    · refine hlost (by rw [hstep]; exact Option.some_ne_none _) ?_ ?_
      · rw [attempts_start]
        unfold App.starts
        rw [if_neg]
        · rfl
        · rintro ⟨-, hidle⟩
          have hkept : (w'.app.offering notified).pairing = w'.app.pairing := by
            cases notified <;> rfl
          rw [hkept, hsession] at hidle
          cases hidle
      · rintro ⟨i', r', hstarts', hstops, -⟩
        cases hstarts.symm.trans hstarts'
        exact hgoes hstops

namespace Scenario.PairingRetries

def request : PairingRequest :=
  { pairingId := "p"
    pendingDeviceId := "a2"
    pendingDeviceName := "a2"
    sasPublicKey := bytes32 7
    pendingDevice := some (device "alice" "a2" 1 3) }

def offline : Environment := { environment (fun _ => []) [] with works := fun _ => false }

def asked : World primitives :=
  let w := World.ofProfile (firstDevice "alice" "a1" 1 2)
  { w with app := { w.app with pairingRequests := [request] } }

/-- `/pair p`. -/
def command : PairingCall := .start none (some "p")

/-- The pairing notification of the request. -/
def notification : PairingCall := .start (some request) (some "p")

theorem command_stopped : (command.run offline).exec asked =
    (.error "connection writer stopped", ((command.run offline).exec asked).2) := by
  rfl

theorem notification_stopped : (notification.run offline).exec asked =
    (.error "connection writer stopped", ((notification.run offline).exec asked).2) := by
  rfl

/-- The key is not sent, and the request is gone. -/
theorem request_gone : ¬∀ (c : PairingCall) (e : Error) (w' : World primitives),
    (c.run offline).exec asked = (.error e, w') → c.Retries asked.app w'.app := by
  intro h
  have hretries := h command _ _ command_stopped (.answer request) (by decide +kernel)
  have hafter : command.attempts ((command.run offline).exec asked).2.app = none := by decide +kernel
  cases hafter.symm.trans hretries

/-- The notification puts the request back. -/
theorem notification_retries :
    notification.Retries asked.app ((notification.run offline).exec asked).2.app := by
  have hstops : request.Stops primitives offline asked.tick := .inr (.inr (.inr nofun))
  exact (failed_pairing_retries_iff notification_stopped).2
    (.inr ⟨0, request, by decide +kernel, hstops, 0, by decide +kernel⟩)

end Scenario.PairingRetries

end TuiChat
