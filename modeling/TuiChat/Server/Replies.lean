import TuiChat.Server.Admin
import TuiChat.Server.Cluster

/-!
# What a handler hands over

`Body.Answers` says what a request is answered with. A handler hands over at most one answer to its request, under the
request's id and to its own connection (`once_handleBody`); all else that it hands over are pushes, which have no id.
`Hands K` is the kind of the actions that hand over nothing but what `K` allows.
-/

namespace TuiChat

open Lib
open Lib.Proc (All Once)

/-- The kinds of frames that are sent without a request. -/
def Body.isPush : Body → Bool
  | .syncBatch _ | .deliveryUpdate _ | .pairingRequest _ | .pairingEvent _ => true
  | _ => false

/-- The body answers a request. -/
def Body.Answers : Body → Body → Prop
  | .clientHello _, .authChallenge _ => True
  | .deviceAuth _, .authenticated _ => True
  | .passwordAuth _, .authenticated _ => True
  | .bootstrapDevice _, .authenticated _ => True
  | .changePassword _, .authenticated _ => True
  | .lookupUser _, .userBundle _ => True
  | .publishPreKeys _, .operationOk => True
  | .claimPreKey _, .preKeyBundle _ => True
  | .sendEnvelopes m, .sendAccepted a =>
    a.logicalMessageId = (m.envelopes.head?.map EncryptedEnvelope.logicalMessageId).getD ""
  | .syncRequest _, .syncBatch _ => True
  | .ackEnvelope _, .operationOk => True
  | .pairingEvent _, .operationOk => True
  | .ackPairingEvent _, .operationOk => True
  | .activateDevice _, .operationOk => True
  | .listOwnDevices, .ownDeviceList _ => True
  | .revokeOwnDevice _, .ownDeviceList _ => True
  | .ping m, .pong p => p.sentAtMs = m.sentAtMs
  | _, _ => False

/-- What connection `i` hands over beside answers, while it handles a frame with the id. -/
inductive Unasked (i : Nat) (id : String) : Nat × Frame → Prop
  | push {t : Nat} {body : Body} (push : body.isPush = true) : Unasked i id (t, frame "" body)
  | pong {m : Pong} : Unasked i id (i, frame "" (.pong m))
  | notice {m : ErrorFrame} : Unasked i id (i, frame "" (.error m))
  | refusal {m : ErrorFrame} : Unasked i id (i, frame id (.error m))

/-- The frame answers the other. -/
structure Frame.Replies (f g : Frame) : Prop where
  id : f.id = g.id
  answers : ∃ request body, g.body = some request ∧ f.body = some body ∧ request.Answers body

/-- The answer of connection `i` to a request with the id. -/
inductive Answer (i : Nat) (id : String) (request : Body) : Nat × Frame → Prop
  | answer {body : Body} (answers : request.Answers body) : Answer i id request (i, frame id body)

/-- The frames that the connection received, newest first. -/
def Connection.requests (c : Connection) : List Frame :=
  c.log.filterMap fun
    | .received f => some f
    | _ => none

namespace Ws

/-- An action that hands over one frame at most, such that `K`, and receives none. -/
structure Hands (K : Nat × Frame → Prop) (w w' : ServerWorld) : Prop where
  out : w'.1.out = w.1.out ∨ ∃ e, K e ∧ w'.1.out = w.1.out ++ [e]
  requests : w'.2.requests = w.2.requests

variable {env : ServerEnvironment} {P : Primitives} {i : Nat} {α β : Type} {K : Nat × Frame → Prop}

theorem Hands.of_out {w w' : ServerWorld} (out : w'.1.out = w.1.out) (requests : w'.2.requests = w.2.requests) :
    Hands K w w' := ⟨.inl out, requests⟩

/-! ## Rules -/

theorem hands_bind {m : ServerM β} {g : β → ServerM α} (hm : All (Hands K) m) (hg : ∀ b, All (Hands K) (g b)) :
    All (Hands K) (m >>= g) := Proc.Moves.bind hm hg

theorem hands_caught {m : ServerM α} (hm : All (Hands K) m) : All (Hands K) (Proc.caught m) := Proc.Moves.caught hm

theorem hands_each {f : α → ServerM Unit} {as : List α} (hf : ∀ a, All (Hands K) (f a)) :
    All (Hands K) (Proc.each f as) := Proc.Moves.each fun a _ => hf a

theorem hands_pure (a : α) : All (Hands K) (pure a : ServerM α) := Proc.Moves.pure a

theorem hands_fail (e : Error) : All (Hands K) (Proc.fail e : ServerM α) := Proc.Moves.fail e

theorem hands_ensure (c : Prop) [Decidable c] (e : Error) : All (Hands K) (Proc.ensure c e : ServerM Unit) :=
  Proc.Moves.ensure c e

theorem hands_orFail (o : Option α) (e : Error) : All (Hands K) (Proc.orFail o e : ServerM α) := Proc.Moves.orFail o e

theorem hands_ofExcept (r : Except Error α) : All (Hands K) (Proc.ofExcept r : ServerM α) := Proc.Moves.ofExcept r

theorem hands_atomically {f : ServerWorld → Except Error α × ServerWorld} (h : ∀ w, Hands K w (f w).2) :
    All (Hands K) (Proc.atomically f) := Proc.Moves.atomically fun _ w' _ => ⟨h w', trivial⟩

theorem hands_learn {r : Nat → Except Error α} : All (Hands K) (learn fun n w => (r n, w)) :=
  hands_atomically fun _ => .of_out rfl rfl

theorem hands_getState {f : AppState → α} : All (Hands K) (getState f) :=
  hands_atomically fun _ => .of_out rfl rfl

theorem hands_getConnection {f : Connection → α} : All (Hands K) (getConnection f) :=
  hands_atomically fun _ => .of_out rfl rfl

theorem hands_modifyState {f : AppState → AppState} (h : ∀ s, (f s).out = s.out) : All (Hands K) (modifyState f) :=
  hands_atomically fun _ => .of_out (h _) rfl

theorem hands_modifyConnection {f : Connection → Connection} (h : ∀ c, (f c).requests = c.requests) :
    All (Hands K) (modifyConnection f) := hands_atomically fun _ => .of_out rfl (h _)

theorem hands_nowMs : All (Hands K) (nowMs env) := hands_learn

theorem requests_append {c : Connection} {events : List ConnectionEvent} (h : ∀ f, .received f ∉ events) :
    Connection.requests { c with log := events ++ c.log } = c.requests := by
  unfold Connection.requests
  rw [List.filterMap_append, List.append_left_eq_self, List.filterMap_eq_nil_iff]
  intro event hevent
  cases event with
  | received f => exact absurd hevent (h f)
  | _ => rfl

theorem hands_queryRecording {f : Db → α} {events : α → List ConnectionEvent} (h : ∀ a f, .received f ∉ events a) :
    All (Hands K) (queryRecording env f events) := by
  refine hands_atomically fun w => ?_
  dsimp only
  split
  · exact .of_out rfl (requests_append (h _))
  · exact .of_out rfl rfl

theorem hands_query {f : Db → α} : All (Hands K) (query env f) := hands_queryRecording fun _ _ => List.not_mem_nil

theorem hands_accountByUsername (username : String) : All (Hands K) (accountByUsername env username) :=
  hands_queryRecording fun _ _ => by simp

theorem hands_device (accountId deviceId : String) : All (Hands K) (device env accountId deviceId) :=
  hands_queryRecording fun _ _ => by simp

theorem hands_executeRecording {f : Nat → Db → Except Error (α × Db)}
    {serverEvents : Db → α × Db → List ServerEvent} {events : Db → List ConnectionEvent}
    (h : ∀ db f, .received f ∉ events db) : All (Hands K) (executeRecording env f serverEvents events) := by
  refine hands_atomically fun w => ?_
  dsimp only
  split
  · split
    · exact .of_out rfl rfl
    · exact .of_out rfl (requests_append (h _))
  · exact .of_out rfl rfl

theorem hands_execute {f : Db → Except Error (α × Db)} : All (Hands K) (execute env f) :=
  hands_executeRecording fun _ _ => List.not_mem_nil

theorem hands_update {f : Db → Db} : All (Hands K) (update env f) := hands_execute

theorem hands_write {f : Db → Except Error Db} : All (Hands K) (write env f) := hands_execute

theorem hands_audit (category actor action target result : String) :
    All (Hands K) (audit env category actor action target result) := hands_update

theorem hands_send {t : Nat} {f : Frame} (h : K (t, f)) : All (Hands K) (send env t f) := by
  refine hands_atomically fun w => ?_
  dsimp only
  split
  · exact ⟨.inr ⟨_, h, rfl⟩, rfl⟩
  · exact .of_out rfl rfl

theorem hands_trySend {t : Nat} {f : Frame} (h : K (t, f)) : All (Hands K) (trySend env t f) :=
  hands_bind (hands_caught (hands_send h)) fun _ => hands_pure ()

theorem hands_pushDevice {deviceId : String} {f : Frame} (h : ∀ t, K (t, f)) :
    All (Hands K) (pushDevice env deviceId f) := by
  refine hands_bind hands_getState fun live => ?_
  cases live with
  | none => exact hands_pure ()
  | some live => exact hands_trySend (h _)

theorem hands_pushAccount {accountId : String} {f : Frame} (h : ∀ t, K (t, f)) :
    All (Hands K) (pushAccount env accountId f) :=
  hands_bind hands_getState fun _ => hands_each fun _ => hands_trySend (h _)

theorem hands_signal (token : Nat) (reason : String) : All (Hands K) (signal token reason) :=
  hands_modifyState fun _ => rfl

theorem hands_register (session : Session) (token : Nat) : All (Hands K) (register session token) := by
  refine hands_bind (hands_atomically fun _ => .of_out rfl rfl) fun previous => ?_
  cases previous with
  | none => exact hands_modifyState fun _ => rfl
  | some previous => exact hands_bind (hands_signal _ _) fun _ => hands_modifyState fun _ => rfl

theorem hands_kickDevice (deviceId reason : String) : All (Hands K) (kickDevice deviceId reason) := by
  refine hands_bind hands_getState fun live => ?_
  cases live with
  | none => exact hands_pure ()
  | some live => exact hands_signal _ _

theorem hands_activeSession : All (Hands K) activeSession :=
  hands_bind hands_getConnection fun _ => hands_bind (hands_orFail _ _) fun _ =>
    hands_bind (hands_ensure _ _) fun _ => hands_pure _

theorem hands_anySession (e : Error) : All (Hands K) (anySession e) :=
  hands_bind hands_getConnection fun _ => hands_orFail _ _

theorem hands_ensureUnauthenticated : All (Hands K) ensureUnauthenticated :=
  hands_bind hands_getConnection fun _ => hands_ensure _ _

theorem hands_takeValidChallenge (username deviceId : String) :
    All (Hands K) (takeValidChallenge env username deviceId) := by
  refine hands_bind (hands_atomically fun _ => .of_out rfl rfl) fun _ => ?_
  refine hands_bind (hands_orFail _ _) fun _ => hands_bind (hands_ofExcept _) fun _ => ?_
  refine hands_bind (hands_atomically fun _ => .of_out rfl rfl) fun _ => ?_
  exact hands_bind (hands_ensure _ _) fun _ => hands_pure _

/-! ## Handlers -/

/-- The program hands over one answer to the request at most, and else is quiet. -/
abbrev Answering (i : Nat) (id : String) (request : Body) (m : ServerM α) : Prop :=
  Once (Hands (Unasked i id)) (Hands (Answer i id request)) m

section

variable {requestId : String} {request : Body}

theorem hands_push {t : Nat} {body : Body} (h : body.isPush = true) :
    All (Hands (Unasked i requestId)) (send env t (frame "" body)) := hands_send (.push h)

theorem hands_pushQueuedEvent (session : Session) (devices : List DeviceBundle) (row : PairingEventRow) :
    All (Hands (Unasked i requestId)) (pushQueuedEvent env i session devices row) := hands_push rfl

theorem hands_pushPendingDevice (session : Session) (pending : DeviceBundle × Bytes) :
    All (Hands (Unasked i requestId)) (pushPendingDevice env i session pending) := by
  unfold pushPendingDevice
  exact .ite (fun _ => hands_pure ()) fun _ => hands_push rfl

theorem hands_pushPostAuth (session : Session) : All (Hands (Unasked i requestId)) (pushPostAuth env i session) :=
  hands_bind hands_query fun _ => hands_bind hands_nowMs fun _ => hands_bind hands_query fun _ =>
    hands_bind (hands_each fun row => hands_pushQueuedEvent session _ row) fun _ => hands_bind hands_query fun _ =>
      hands_each fun pending => hands_pushPendingDevice session pending

theorem once_bind {m : ServerM β} {g : β → ServerM α} (hm : All (Hands (Unasked i requestId)) m)
    (hg : ∀ b, Answering i requestId request (g b)) : Answering i requestId request (m >>= g) := .bind hm hg

theorem once_reply {body : Body} (h : request.Answers body) :
    Answering i requestId request (reply env i requestId body) := .atomically fun w => by
  dsimp only
  split
  · exact ⟨.inr ⟨_, .answer h, rfl⟩, rfl⟩
  · exact .of_out rfl rfl

theorem once_confirm (h : request.Answers .operationOk) : Answering i requestId request (confirm env i requestId) := by
  unfold confirm
  exact .ite (fun _ => .of_all (hands_pure ())) fun _ => once_reply h

theorem once_handleClientHello (hello : ClientHello) :
    Answering i requestId (.clientHello hello) (handleClientHello env i requestId hello) :=
  once_bind hands_ensureUnauthenticated fun _ => once_bind (hands_ofExcept _) fun _ =>
    once_bind (hands_ensure _ _) fun _ => once_bind (hands_ensure _ _) fun _ => once_bind hands_learn fun _ =>
      once_bind hands_nowMs fun _ => once_bind (hands_modifyConnection fun _ => rfl) fun _ =>
        once_reply trivial

theorem once_handleDeviceAuth (auth : DeviceAuth) :
    Answering i requestId (.deviceAuth auth) (handleDeviceAuth env P i requestId auth) := by
  refine once_bind hands_ensureUnauthenticated fun _ => once_bind (hands_takeValidChallenge _ _) fun _ => ?_
  refine once_bind (hands_accountByUsername _) fun _ => once_bind (hands_orFail _ _) fun _ => ?_
  refine once_bind (hands_ensure _ _) fun _ => once_bind (hands_device _ _) fun _ => ?_
  refine once_bind (hands_orFail _ _) fun _ => once_bind (hands_ensure _ _) fun _ => ?_
  refine once_bind (hands_ofExcept _) fun _ => once_bind hands_nowMs fun _ => once_bind hands_update fun _ => ?_
  refine once_bind (hands_register _ _) fun _ => Once.bind_all (once_reply trivial) fun _ => ?_
  refine hands_bind (hands_pushPostAuth _) fun _ => hands_bind (hands_caught (hands_audit _ _ _ _ _)) fun _ => ?_
  exact hands_modifyConnection fun _ => rfl

theorem hands_rehashPassword (account : AccountRow) (replacement : Option String) :
    All (Hands K) (rehashPassword env account replacement) := by
  cases replacement with
  | none => exact hands_pure account
  | some phc => exact hands_bind hands_update fun _ => hands_pure _

theorem once_openPendingSession {auth : PasswordAuth} (challenge : Challenge) (row : AccountRow)
    (replacement : Option String) :
    Answering i requestId (.passwordAuth auth) (openPendingSession env i requestId challenge row replacement) := by
  refine once_bind (hands_rehashPassword row replacement) fun account => once_bind (hands_device _ _) fun _ => ?_
  refine once_bind (hands_ensure _ _) fun _ => Once.bind_all (once_reply trivial) fun _ => ?_
  have hrest : All (Hands (Unasked i requestId)) (do
      let _ ← Proc.caught (audit env "auth" account.username "password_auth" challenge.deviceId "success")
      modifyConnection fun c => { c with
        session := some
          { account
            deviceId := challenge.deviceId
            pending := true
            passwordChangeRequired := false
            capabilities := challenge.capabilities }
        log := .passwordAccepted row challenge.deviceId :: c.log }) :=
    hands_bind (hands_caught (hands_audit _ _ _ _ _)) fun _ => hands_modifyConnection fun _ => rfl
  refine .ite (fun _ => ?_) fun _ => hrest
  exact hands_bind (hands_register _ _) fun _ => hands_bind (hands_pushPostAuth _) fun _ => hrest

theorem once_handlePasswordAuth (auth : PasswordAuth) :
    Answering i requestId (.passwordAuth auth) (handlePasswordAuth env i requestId auth) := by
  refine once_bind hands_ensureUnauthenticated fun _ => once_bind (hands_takeValidChallenge _ _) fun _ => ?_
  refine once_bind (hands_ensure _ _) fun _ => once_bind hands_learn fun _ => once_bind (hands_ensure _ _) fun _ => ?_
  refine once_bind (hands_accountByUsername _) fun account => once_bind hands_learn fun checked => ?_
  obtain ⟨valid, replacement⟩ := checked
  dsimp only
  cases account.filter fun row => valid && row.state = .active with
  | none => exact once_bind (hands_caught (hands_audit _ _ _ _ _)) fun _ => .of_all (hands_fail _)
  | some row => exact once_openPendingSession _ row _

theorem once_bootstrapFirst (session : Session) (m : BootstrapDevice) :
    Answering i requestId (.bootstrapDevice m) (bootstrapFirst env P i requestId session m) := by
  refine once_bind (hands_ofExcept _) fun _ => once_bind (hands_executeRecording fun _ _ => by simp) fun _ => ?_
  refine once_bind hands_nowMs fun _ => once_bind hands_write fun _ => once_bind hands_nowMs fun _ => ?_
  refine once_bind hands_write fun _ => once_bind (hands_modifyConnection fun _ => rfl) fun _ => ?_
  exact once_bind (hands_register _ _) fun _ => once_reply trivial

theorem once_bootstrapPending (session : Session) (m : BootstrapDevice) (counts : Nat × Nat) :
    Answering i requestId (.bootstrapDevice m) (bootstrapPending env i requestId session m counts) := by
  refine once_bind (hands_ensure _ _) fun _ => once_bind (hands_ensure _ _) fun _ => ?_
  refine once_bind (hands_ensure _ _) fun _ => once_bind hands_nowMs fun _ => once_bind hands_write fun _ => ?_
  refine once_bind hands_nowMs fun _ => once_bind hands_write fun _ => once_bind (hands_register _ _) fun _ => ?_
  exact once_bind (hands_pushAccount fun _ => .push rfl) fun _ => once_reply trivial

theorem once_handleBootstrapDevice (m : BootstrapDevice) :
    Answering i requestId (.bootstrapDevice m) (handleBootstrapDevice env P i requestId m) := by
  refine once_bind (hands_anySession _) fun session => once_bind (hands_ensure _ _) fun _ => ?_
  refine once_bind (hands_device _ _) fun _ => once_bind (hands_ensure _ _) fun _ => ?_
  refine once_bind (hands_ensure _ _) fun _ => once_bind hands_query fun _ => once_bind hands_query fun counts => ?_
  refine .ite (fun _ => ?_) fun _ => once_bootstrapPending session m counts
  exact once_bind (hands_ensure _ _) fun _ => once_bootstrapFirst session m

theorem once_handleChangePassword (change : ChangePassword) :
    Answering i requestId (.changePassword change) (handleChangePassword env i requestId change) := by
  refine once_bind hands_activeSession fun _ => once_bind (hands_ensure _ _) fun _ => ?_
  refine once_bind (hands_ofExcept _) fun _ => once_bind hands_learn fun _ => once_bind (hands_ensure _ _) fun _ => ?_
  refine once_bind hands_learn fun _ => once_bind hands_update fun _ => ?_
  refine once_bind (hands_modifyConnection fun _ => rfl) fun _ => ?_
  exact once_bind (hands_audit _ _ _ _ _) fun _ => once_reply trivial

theorem once_handleLookupUser (lookup : LookupUser) :
    Answering i requestId (.lookupUser lookup) (handleLookupUser env i requestId lookup) :=
  once_bind hands_activeSession fun _ => once_bind (hands_ofExcept _) fun _ => once_bind hands_query fun _ =>
    once_bind (hands_orFail _ _) fun _ => once_reply trivial

theorem hands_checkPreKey (device : DeviceRow) (key : OneTimeKey) : All (Hands K) (checkPreKey P device key) :=
  hands_bind (hands_ensure _ _) fun _ => hands_ofExcept _

theorem once_handlePublishPreKeys (keys : PublishPreKeys) :
    Answering i requestId (.publishPreKeys keys) (handlePublishPreKeys env P i requestId keys) := by
  refine once_bind hands_activeSession fun _ => once_bind (hands_ensure _ _) fun _ => ?_
  refine once_bind (hands_device _ _) fun _ => once_bind (hands_orFail _ _) fun found => ?_
  refine once_bind (hands_each (hands_checkPreKey found)) fun _ => once_bind hands_nowMs fun _ => ?_
  exact once_bind hands_write fun _ => once_reply trivial

theorem once_handleClaimPreKey (claim : ClaimPreKey) :
    Answering i requestId (.claimPreKey claim) (handleClaimPreKey env i requestId claim) :=
  once_bind hands_activeSession fun _ => once_bind (hands_ensure _ _) fun _ => once_bind hands_execute fun _ =>
    once_bind (hands_orFail _ _) fun _ => once_reply trivial

theorem hands_checkEnvelope (e : EncryptedEnvelope) : All (Hands K) (checkEnvelope env e) :=
  hands_bind hands_nowMs fun _ => hands_ensure _ _

theorem hands_pushStored (envelopes : List EncryptedEnvelope) (destination : String × Nat) :
    All (Hands (Unasked i requestId)) (pushStored env envelopes destination) := by
  unfold pushStored
  cases envelopes.find? fun e => e.recipientDeviceId = destination.1 with
  | none => exact hands_pure ()
  | some e =>
    refine hands_bind hands_query fun stored => ?_
    cases stored with
    | none => exact hands_pure ()
    | some stored => exact hands_pushDevice fun _ => .push rfl

theorem once_handleSendEnvelopes (m : SendEnvelopes) :
    Answering i requestId (.sendEnvelopes m) (handleSendEnvelopes env P i requestId m) := by
  refine once_bind hands_activeSession fun _ => once_bind (hands_ensure _ _) fun _ => ?_
  refine once_bind (hands_each hands_checkEnvelope) fun _ => once_bind hands_nowMs fun _ => ?_
  refine once_bind (hands_executeRecording fun _ _ => by simp) fun _ => once_bind (hands_each (hands_pushStored _)) fun _ => ?_
  exact once_reply rfl

theorem once_handleSyncRequest (m : SyncRequest) :
    Answering i requestId (.syncRequest m) (handleSyncRequest env i requestId m) :=
  once_bind hands_activeSession fun _ => once_bind hands_query fun _ => once_reply trivial

theorem once_handleAckEnvelope (ack : AckEnvelope) :
    Answering i requestId (.ackEnvelope ack) (handleAckEnvelope env i requestId ack) := by
  refine once_bind hands_activeSession fun _ => once_bind (hands_ensure _ _) fun _ => ?_
  refine once_bind hands_nowMs fun _ => once_bind (hands_executeRecording fun _ _ => by simp) fun acked => ?_
  cases acked with
  | none => exact once_confirm trivial
  | some sender =>
    exact once_bind hands_nowMs fun _ => once_bind (hands_pushAccount fun _ => .push rfl) fun _ =>
      once_confirm trivial

theorem once_handlePairingEvent (event : PairingEvent) :
    Answering i requestId (.pairingEvent event) (handlePairingEvent env i requestId event) := by
  refine once_bind (hands_anySession _) fun _ => once_bind (hands_ensure _ _) fun _ => ?_
  refine once_bind hands_query fun _ => once_bind (hands_orFail _ _) fun _ => once_bind (hands_ensure _ _) fun _ => ?_
  refine once_bind (hands_device _ _) fun _ => once_bind (hands_ensure _ _) fun _ => ?_
  refine once_bind (hands_ensure _ _) fun _ => once_bind hands_nowMs fun _ => once_bind hands_execute fun _ => ?_
  refine once_bind hands_query fun _ => once_bind (hands_orFail _ _) fun _ => ?_
  exact once_bind (hands_pushDevice fun _ => .push rfl) fun _ => once_confirm trivial

theorem once_handleAckPairingEvent (ack : AckPairingEvent) :
    Answering i requestId (.ackPairingEvent ack) (handleAckPairingEvent env i requestId ack) :=
  once_bind (hands_anySession _) fun _ => once_bind (hands_ensure _ _) fun _ => once_bind hands_execute fun _ =>
    once_bind (hands_ensure _ _) fun _ => once_confirm trivial

theorem once_handleActivateDevice (activate : ActivateDevice) :
    Answering i requestId (.activateDevice activate) (handleActivateDevice env P i requestId activate) := by
  refine once_bind hands_activeSession fun _ => once_bind (hands_orFail _ _) fun _ => ?_
  refine once_bind (hands_ensure _ _) fun _ => once_bind hands_query fun _ => once_bind (hands_orFail _ _) fun _ => ?_
  refine once_bind (hands_ensure _ _) fun _ => once_bind (hands_orFail _ _) fun _ => ?_
  refine once_bind (hands_ofExcept _) fun _ => once_bind (hands_ofExcept _) fun _ => once_bind hands_write fun _ => ?_
  exact once_bind (hands_pushDevice fun _ => .push rfl) fun _ => once_reply trivial

theorem hands_ownDeviceList (accountId currentDeviceId : String) :
    All (Hands K) (ownDeviceList env accountId currentDeviceId) :=
  hands_bind hands_getState fun _ => hands_bind hands_query fun _ => hands_pure _

theorem once_handleListOwnDevices :
    Answering i requestId .listOwnDevices (handleListOwnDevices env i requestId) :=
  once_bind hands_activeSession fun _ => once_bind (hands_ensure _ _) fun _ =>
    once_bind (hands_ownDeviceList _ _) fun _ => once_reply trivial

theorem once_handleRevokeOwnDevice (revoke : RevokeOwnDevice) :
    Answering i requestId (.revokeOwnDevice revoke) (handleRevokeOwnDevice env i requestId revoke) := by
  refine once_bind hands_activeSession fun _ => once_bind (hands_ensure _ _) fun _ => ?_
  refine once_bind (hands_ensure _ _) fun _ => once_bind (hands_ensure _ _) fun _ => once_bind hands_execute fun _ => ?_
  refine once_bind (hands_ensure _ _) fun _ => once_bind hands_update fun _ => once_bind (hands_kickDevice _ _) fun _ => ?_
  exact once_bind (hands_audit _ _ _ _ _) fun _ => once_bind (hands_ownDeviceList _ _) fun _ => once_reply trivial

theorem once_handleBody (request : Body) :
    Answering i requestId request (handleBody env P i requestId request) := by
  cases request with
  | clientHello m => exact once_handleClientHello m
  | deviceAuth m => exact once_handleDeviceAuth m
  | passwordAuth m => exact once_handlePasswordAuth m
  | bootstrapDevice m => exact once_handleBootstrapDevice m
  | changePassword m => exact once_handleChangePassword m
  | lookupUser m => exact once_handleLookupUser m
  | publishPreKeys m => exact once_handlePublishPreKeys m
  | claimPreKey m => exact once_handleClaimPreKey m
  | sendEnvelopes m => exact once_handleSendEnvelopes m
  | syncRequest m => exact once_handleSyncRequest m
  | ackEnvelope m => exact once_handleAckEnvelope m
  | pairingEvent m => exact once_handlePairingEvent m
  | ackPairingEvent m => exact once_handleAckPairingEvent m
  | activateDevice m => exact once_handleActivateDevice m
  | listOwnDevices => exact once_handleListOwnDevices
  | revokeOwnDevice m => exact once_handleRevokeOwnDevice m
  | ping m => exact once_reply rfl
  | pong => exact .of_all (hands_pure ())
  | _ => exact .of_all (hands_fail _)

/-! ## The loop -/

theorem hands_sendError_notice (code message : String) (retryable : Bool) :
    All (Hands (Unasked i requestId)) (sendError env i "" code message retryable) := hands_trySend .notice

theorem hands_sendError (code message : String) (retryable : Bool) :
    All (Hands (Unasked i requestId)) (sendError env i requestId code message retryable) := hands_trySend .refusal

theorem hands_close : All (Hands K) (close i) := by
  refine hands_bind (hands_modifyConnection fun _ => rfl) fun _ => hands_bind hands_getConnection fun slot => ?_
  cases slot with
  | none => exact hands_pure ()
  | some session => exact hands_bind (hands_modifyState fun _ => rfl) fun _ => hands_modifyState fun _ => rfl

theorem hands_takeRequest : All (Hands K) (takeRequest env) := hands_atomically fun _ => .of_out rfl rfl

theorem hands_recheckAccess : All (Hands K) (recheckAccess env) := by
  refine hands_bind hands_getConnection fun slot => ?_
  cases slot.filter fun session => !session.pending with
  | none => exact hands_pure true
  | some active =>
    exact hands_bind (hands_caught (hands_accountByUsername _)) fun _ => hands_bind (hands_caught (hands_device _ _))
      fun _ => hands_pure _

/-- What is handed over while a frame is handled, once it is received. -/
abbrev Replying (i : Nat) (incoming : Frame) (m : ServerM α) : Prop :=
  Once (Hands (Unasked i incoming.id)) (Hands fun e => e.1 = i ∧ e.2.Replies incoming) m

theorem once_handleFrame (incoming : Frame) : Replying i incoming (handleFrame env P i incoming) := by
  unfold handleFrame
  cases hbody : incoming.body with
  | none => exact .of_all (hands_fail _)
  | some request =>
    refine (once_handleBody request).mono (fun _ _ h => h) fun w w' h => ⟨h.out.imp_right ?_, h.requests⟩
    rintro ⟨e, ⟨answers⟩, hout⟩
    exact ⟨_, ⟨rfl, rfl, request, _, hbody, rfl, answers⟩, hout⟩

theorem once_handleReporting (incoming : Frame) : Replying i incoming (handleReporting env P i incoming) := by
  refine (once_handleFrame incoming).caught.bind_all fun result => ?_
  cases result with
  | ok => exact hands_pure ()
  | error e => exact hands_sendError _ _ _

/-- A frame is received, and replied to once at most. -/
theorem serveFrame_eq (incoming : Frame) : ∃ rest : ServerM Unit,
    serveFrame env P i incoming = (record (.received incoming) >>= fun _ => rest) ∧ Replying i incoming rest := by
  refine ⟨_, rfl, .ite (fun _ => ?_) fun _ => ?_⟩
  · exact .of_all (hands_bind (hands_sendError_notice _ _ _) fun _ => hands_close)
  refine .bind hands_takeRequest fun admitted => .ite (fun _ => ?_) fun _ => ?_
  · exact .of_all (hands_bind (hands_sendError _ _ _) fun _ => hands_close)
  refine .bind hands_recheckAccess fun allowed => .ite (fun _ => ?_) fun _ => once_handleReporting incoming
  exact .of_all (hands_bind (hands_sendError _ _ _) fun _ => hands_close)

/-- Else nothing is received, and only notices are handed over. -/
theorem hands_serve (m : Incoming) :
    (∃ incoming, m = .binary (.ok incoming) ∧ serve env P i m = serveFrame env P i incoming) ∨
      All (Hands (Unasked i "")) (serve env P i m) := by
  cases m with
  | binary decoded =>
    cases decoded with
    | error e => exact .inr (hands_sendError_notice _ _ _)
    | ok incoming =>
      by_cases h : incoming.protocolVersion = protocolVersion
      · exact .inl ⟨incoming, rfl, if_pos h⟩
      · exact .inr (.ite (fun h' => absurd h' h) fun _ => hands_sendError_notice _ _ _)
  | ping first => exact .inr (hands_trySend .pong)
  | other => exact .inr (hands_pure ())
  | closed => exact .inr hands_close
  | disconnect reason => exact .inr (hands_bind (hands_sendError_notice _ _ _) fun _ => hands_close)

end

end Ws

/-! ## Commands -/

namespace Admin

open Ws

variable {env : ServerEnvironment} {K : Nat × Frame → Prop}

theorem hands_kickAccount (accountId reason : String) : All (Hands K) (kickAccount accountId reason) :=
  hands_bind hands_getState fun _ => hands_each fun _ => hands_signal _ _

theorem hands_control {request : ServerM Unit} (h : All (Hands K) request) : All (Hands K) (control env request) :=
  hands_bind hands_learn fun _ => .ite (fun _ => h) fun _ => hands_pure ()

theorem hands_disconnectUserIfOnline (username reason : String) :
    All (Hands K) (disconnectUserIfOnline env username reason) := by
  refine hands_bind hands_query fun account => ?_
  cases account with
  | none => exact hands_pure ()
  | some account => exact hands_control (hands_kickAccount _ _)

theorem hands_setUserState (username : String) (state : AccountState) :
    All (Hands K) (setUserState env username state) :=
  hands_bind (hands_ofExcept _) fun _ => hands_bind hands_execute fun _ => hands_bind (hands_ensure _ _) fun _ =>
    hands_audit _ _ _ _ _

theorem hands_cleanupRounds (cutoff : Int) (rounds : Nat) : All (Hands K) (cleanupRounds env cutoff rounds) := by
  induction rounds with
  | zero => exact hands_pure ()
  | succ rounds ih => exact hands_bind hands_execute fun _ => .ite (fun _ => hands_pure ()) fun _ => ih

/-- A command hands over nothing. -/
theorem hands_runCommand (c : Command) : All (Hands K) (runCommand env c) := by
  cases c with
  | userAdd username password =>
    refine hands_bind (hands_ofExcept _) fun _ => hands_bind hands_learn fun _ => hands_bind hands_learn fun _ => ?_
    exact hands_bind hands_write fun _ => hands_audit _ _ _ _ _
  | userDisable username =>
    exact hands_bind (hands_setUserState _ _) fun _ => hands_disconnectUserIfOnline _ _
  | userEnable username => exact hands_setUserState _ _
  | userResetPassword username password =>
    refine hands_bind (hands_ofExcept _) fun _ => hands_bind hands_learn fun _ => hands_bind hands_execute fun _ => ?_
    exact hands_bind (hands_ensure _ _) fun _ => hands_audit _ _ _ _ _
  | userResetDevices username =>
    refine hands_bind ?_ fun _ => hands_disconnectUserIfOnline _ _
    refine hands_bind (hands_ofExcept _) fun _ => hands_bind hands_execute fun _ => ?_
    exact hands_bind (hands_each fun _ => hands_update) fun _ => hands_audit _ _ _ _ _
  | userDelete username =>
    refine hands_bind (hands_ofExcept _) fun _ => hands_bind hands_query fun _ => hands_bind (hands_orFail _ _) fun _ => ?_
    exact hands_bind (hands_disconnectUserIfOnline _ _) fun _ => hands_bind hands_update fun _ => hands_audit _ _ _ _ _
  | deviceRevoke username deviceId =>
    refine hands_bind ?_ fun _ => hands_control (hands_kickDevice _ _)
    refine hands_bind hands_query fun _ => hands_bind (hands_orFail _ _) fun _ => hands_bind hands_execute fun _ => ?_
    exact hands_bind (hands_ensure _ _) fun _ => hands_bind hands_update fun _ => hands_audit _ _ _ _ _
  | storageCleanup retentionDays rounds =>
    exact hands_bind hands_nowMs fun _ => hands_bind (hands_cleanupRounds _ _) fun _ => hands_audit _ _ _ _ _
  | conversationPrune conversation before deliveredOnly =>
    exact hands_bind (hands_ensure _ _) fun _ => hands_bind hands_update fun _ => hands_audit _ _ _ _ _
  | sessionKick id =>
    refine hands_bind (hands_bind hands_getState fun _ => ?_) fun _ => hands_bind (hands_ensure _ _) fun _ =>
      hands_audit _ _ _ _ _
    exact .ite (fun _ => hands_bind (hands_signal _ _) fun _ => hands_pure _) fun _ => hands_pure _
  | maintenance deliveredRetentionDays =>
    exact hands_bind hands_nowMs fun _ => hands_bind hands_update fun _ => hands_update

end Admin

end TuiChat
