import TuiChat.Server.FrameSteps

/-!
# The requests of a session, the loop and the commands

The handlers that need a session, and what they are called from: `serve_serves` for a connection's
task, `runCommand_serves` for a command.
-/

namespace TuiChat

open Lib
open Lib.Proc (wp)

namespace Ws

variable {env : ServerEnvironment} {P : Primitives} {i : Nat} {α β : Type} {s : AppState}
  {c : Connection}

/-! ## Devices -/

/-- Another device of an account. -/
theorem bootstrapPending_serves {id : String} {session : Session} {m : BootstrapDevice}
    {counts : Nat × Nat} (current : c.session = some session) (pending : session.pending = true)
    (handling : c.handling = some (.bootstrapDevice m))
    (took : c.Took session.deviceId) (device : m.deviceId = session.deviceId) :
    Serves env P i (bootstrapPending env i id session m counts) c s := by
  refine Keeps.then keeps_ensure fun _ _ _ _ => Keeps.then keeps_ensure fun _ _ _ hmaster => ?_
  refine Keeps.then keeps_ensure fun _ _ _ hcertificate => Keeps.then keeps_nowMs fun now _ _ _ => ?_
  refine Keeps.then (keeps_write fun _ _ _ h =>
    .inserted session m true now current pending device hcertificate hmaster h) fun _ _ _ _ => ?_
  refine Keeps.then keeps_nowMs fun now _ _ _ => ?_
  refine Keeps.then (keeps_write fun _ _ _ h =>
    .prekeys session m.oneTimeKeys now current h (.bootstrapped m handling)) fun _ _ _ _ => ?_
  refine Keeps.then (keeps_register took) fun _ _ _ _ => ?_
  exact Keeps.then (keeps_pushAccount fun _ _ _ _ _ => sends_answer rfl) fun _ _ _ _ =>
    keeps_sendAuthenticated.serves

theorem handleBootstrapDevice_serves {id : String} {m : BootstrapDevice}
    (received : c.Received id (.bootstrapDevice m)) (handling : c.handling = some (.bootstrapDevice m))
    (took : ∀ session, c.session = some session → c.Took session.deviceId) :
    Serves env P i (handleBootstrapDevice env P i id m) c s := by
  refine Keeps.then keeps_anySession fun session _ _ current => ?_
  refine Keeps.then keeps_ensure fun _ _ _ ⟨pending, device⟩ => ?_
  refine serves_device fun existing _ => Keeps.then keeps_ensure fun _ _ _ _ => ?_
  have received' : Connection.Received { c with
      log := .readDevice session.account.id session.deviceId existing :: c.log } id
      (.bootstrapDevice m) := received.imp fun f h => ⟨List.mem_cons_of_mem _ h.1, h.2⟩
  have took' : Connection.Took { c with
      log := .readDevice session.account.id session.deviceId existing :: c.log } session.deviceId :=
    (took session current).imp fun challenge h => ⟨List.mem_cons_of_mem _ h.1, h.2⟩
  refine Keeps.then keeps_ensure fun _ _ _ _ => Keeps.then keeps_query fun hasDevices _ _ _ => ?_
  refine Keeps.then keeps_query fun counts _ _ _ => ?_
  split
  · next hfirst =>
    exact Keeps.then keeps_ensure fun _ _ _ _ =>
      bootstrapFirst_serves current pending hfirst.2 received' handling took' device
  · exact bootstrapPending_serves current pending handling took' device

theorem handleChangePassword_serves {id : String} {m : ChangePassword} :
    Serves env P i (handleChangePassword env i id m) c s := by
  refine Keeps.then keeps_activeSession fun session _ _ ⟨current, active⟩ => ?_
  refine Keeps.then keeps_ensure fun _ _ _ _ => Keeps.then keeps_ofExcept fun _ _ _ _ => ?_
  refine Keeps.then keeps_learn fun verified _ _ _ => Keeps.then keeps_ensure fun _ _ _ _ => ?_
  refine Keeps.then keeps_learn fun phc _ _ _ => ?_
  refine Keeps.then (keeps_update fun _ _ => .password _ _ _) fun _ _ _ _ => ?_
  refine serves_modifyConnection (fun _ => .passwordChanged session phc current active) fun _ => ?_
  exact Keeps.then keeps_audit fun _ _ _ _ => keeps_sendAuthenticated.serves

theorem keeps_ownDeviceList {accountId currentDeviceId : String} :
    Keeps env P i (ownDeviceList env accountId currentDeviceId) c s fun _ _ => True :=
  .bind keeps_getState fun _ _ _ _ => .bind keeps_query fun _ _ _ _ => keeps_pure trivial

theorem handleListOwnDevices_serves {id : String} :
    Serves env P i (handleListOwnDevices env i id) c s :=
  Keeps.then keeps_usableSession fun _ _ _ _ => Keeps.then keeps_ensure fun _ _ _ _ =>
    Keeps.then keeps_ownDeviceList fun _ _ _ _ => (keeps_reply rfl).serves

theorem handleRevokeOwnDevice_serves {id : String} {m : RevokeOwnDevice} :
    Serves env P i (handleRevokeOwnDevice env i id m) c s := by
  refine Keeps.then keeps_usableSession fun session _ _ ⟨current, active⟩ => ?_
  refine Keeps.then keeps_ensure fun _ _ _ _ => Keeps.then keeps_ensure fun _ _ _ _ => ?_
  refine Keeps.then keeps_ensure fun _ _ _ other => ?_
  refine Keeps.then (keeps_execute fun _ _ r hr => ?_) fun revoked s₁ _ ⟨db, r, hr, hrevoked, hdb⟩ => ?_
  · cases hr
    exact .revokedOwn session m.deviceId current active other
  refine Keeps.then keeps_ensure fun _ s₂ hs₂ hfound => ?_
  have hrow : ∃ row ∈ s₁.db.devices, row.id = m.deviceId ∧ row.revoked = true := by
    cases hr
    rw [hdb]
    exact Db.mem_of_markRevoked (hrevoked.symm.trans hfound)
  refine Keeps.then (keeps_update fun _ hs =>
    .cleanedDevice _ ⟨s₁.db, AppState.Had.evolves (.inl rfl) (.trans hs₂ hs), hrow⟩) fun _ _ _ _ => ?_
  refine Keeps.then keeps_kickDevice fun _ _ _ _ => Keeps.then keeps_audit fun _ _ _ _ => ?_
  exact Keeps.then keeps_ownDeviceList fun _ _ _ _ => (keeps_reply rfl).serves

/-! ## Directories and prekeys -/

theorem handleLookupUser_serves {id : String} {m : LookupUser} :
    Serves env P i (handleLookupUser env i id m) c s := by
  refine Keeps.then keeps_usableSession fun _ _ _ _ => Keeps.then keeps_ofExcept fun _ _ _ _ => ?_
  refine Keeps.then keeps_query fun found _ _ _ => Keeps.then keeps_orFail fun found _ _ _ => ?_
  exact (keeps_reply rfl).serves

theorem keeps_checkPreKey {row : DeviceRow} {key : OneTimeKey} :
    Keeps env P i (checkPreKey P row key) c s fun _ _ => key.Checked P row.authSigningKey :=
  .bind keeps_ensure fun _ _ _ ⟨named, short, curve, signed⟩ => keeps_ofExcept.mono fun _ _ verified =>
    ⟨named, short, curve, signed, verified⟩

theorem handlePublishPreKeys_serves {id : String} {m : PublishPreKeys}
    (handling : c.handling = some (.publishPreKeys m)) :
    Serves env P i (handlePublishPreKeys env P i id m) c s := by
  refine Keeps.then keeps_usableSession fun session _ _ ⟨current, _⟩ => ?_
  refine Keeps.then keeps_ensure fun _ _ _ _ => serves_device fun found _ => ?_
  refine Keeps.then keeps_orFail fun row _ _ hfound => ?_
  refine Keeps.then (keeps_each_forall fun _ _ _ => keeps_checkPreKey) fun _ _ _ checked => ?_
  refine Keeps.then keeps_nowMs fun now _ _ _ => ?_
  refine Keeps.then (keeps_write fun _ _ _ h => .prekeys session m.keys now current h
    (.published m row handling (by simp [Connection.foundDevice, hfound]) checked)) fun _ _ _ _ => ?_
  exact (keeps_reply rfl).serves

theorem handleClaimPreKey_serves {id : String} {m : ClaimPreKey} :
    Serves env P i (handleClaimPreKey env i id m) c s := by
  refine Keeps.then keeps_usableSession fun _ _ _ _ => Keeps.then keeps_ensure fun _ _ _ _ => ?_
  refine Keeps.then (keeps_execute fun _ _ r hr => ?_) fun _ _ _ _ => ?_
  · cases hr
    exact .prekeyClaimed m.accountId m.deviceId
  exact Keeps.then keeps_orFail fun _ _ _ _ => (keeps_reply rfl).serves

/-! ## Envelopes -/

theorem keeps_checkEnvelope {e : EncryptedEnvelope} :
    Keeps env P i (checkEnvelope env e) c s fun _ _ => True :=
  .bind keeps_nowMs fun _ _ _ _ => keeps_ensure.mono fun _ _ _ => trivial

theorem keeps_pushStored {envelopes : List EncryptedEnvelope} {destination : String × Nat} :
    Keeps env P i (pushStored env envelopes destination) c s fun _ _ => True := by
  unfold pushStored
  split
  · exact keeps_pure trivial
  · next e _ =>
    refine .bind keeps_query fun stored s' hs hstored => ?_
    cases stored with
    | none => exact keeps_pure trivial
    | some stored =>
      obtain ⟨db, had, hfound⟩ := hstored
      exact keeps_pushDevice fun s'' live hs' hlive _ =>
        .pushed live db e.envelopeId stored (had.evolves hs') hfound.symm hlive

theorem mem_addedRows {db db' : Db} {row : EnvelopeRow} (h : row ∈ addedRows db db') :
    row ∈ db'.envelopes := (List.mem_filter.1 h).1

theorem handleSendEnvelopes_serves {id : String} {m : SendEnvelopes}
    (handling : c.handling = some (.sendEnvelopes m)) :
    Serves env P i (handleSendEnvelopes env P i id m) c s := by
  refine Keeps.then keeps_usableSession fun session _ _ ⟨current, active⟩ => ?_
  refine Keeps.then keeps_ensure fun _ _ _ _ => ?_
  refine Keeps.then (keeps_each (p := fun _ => True) (fun _ _ _ h => h)
    (fun _ _ _ _ => keeps_checkEnvelope) trivial) fun _ _ _ _ => ?_
  refine Keeps.then keeps_nowMs fun now s₁ _ _ => ?_
  rw [Serves, Proc.wp_bind]
  refine wp_executeRecording (fun _ _ _ => trivial) fun s₂ _ r hr => ?_
  refine ⟨.wrote _ [] (.stored session m now _ current active hr handling) (fun row hrow => ?_)
    (fun row hrow => ?_) (.inl rfl), ?_⟩
  · obtain ⟨_, hmem, heq⟩ := List.mem_map.1 hrow
    cases heq
    exact mem_addedRows hmem
  · obtain ⟨_, _, heq⟩ := List.mem_map.1 hrow
    cases heq
  · exact Keeps.then (keeps_each (p := fun _ => True) (fun _ _ _ h => h)
      (fun _ _ _ _ => keeps_pushStored) trivial) fun _ _ _ _ => (keeps_reply rfl).serves

theorem handleSyncRequest_serves {id : String} {m : SyncRequest}
    (received : c.Received id (.syncRequest m)) :
    Serves env P i (handleSyncRequest env i id m) c s := by
  refine Keeps.then keeps_usableSession fun session _ _ ⟨current, active⟩ => ?_
  refine Keeps.then keeps_query fun batch s₁ _ ⟨db, had, hbatch⟩ => ?_
  subst hbatch
  exact Keeps.serves (keeps_send fun _ hs => .page session db m (had.evolves hs) current active received)

theorem keeps_confirm {id : String} : Keeps env P i (confirm env i id) c s fun _ _ => True := by
  unfold confirm
  split
  · exact keeps_pure trivial
  · exact keeps_reply rfl

theorem handleAckEnvelope_serves {id : String} {m : AckEnvelope}
    (received : c.Received id (.ackEnvelope m)) :
    Serves env P i (handleAckEnvelope env i id m) c s := by
  refine Keeps.then keeps_usableSession fun session _ _ ⟨current, active⟩ => ?_
  refine Keeps.then keeps_ensure fun _ _ _ _ => Keeps.then keeps_nowMs fun now s₁ _ _ => ?_
  rw [Serves, Proc.wp_bind]
  refine wp_executeRecording (fun _ _ _ => trivial) fun s₂ _ r hr => ?_
  cases hr
  refine ⟨.wrote _ [] (.acked session id m now current active received) (fun row hrow => ?_)
    (fun row hrow => ?_) (.inl rfl), ?_⟩
  · obtain ⟨_, _, heq⟩ := List.mem_map.1 hrow
    cases heq
  · obtain ⟨row', hrow', heq⟩ := List.mem_map.1 hrow
    cases heq
    exact ⟨session, id, m, current, received, Option.mem_toList.1 hrow'⟩
  have hacked : (s₂.db.ack session.deviceId m.envelopeId now).1 =
      (acknowledgedRow s₂.db session.deviceId m.envelopeId).map fun row =>
        (row.senderAccountId, row.envelope.logicalMessageId) := by
    unfold Db.ack acknowledgedRow
    cases (s₂.db.envelopes.find m.envelopeId).filter _ <;> rfl
  rw [hacked]
  cases hrow : acknowledgedRow s₂.db session.deviceId m.envelopeId with
  | none => exact keeps_confirm.serves
  | some row =>
    refine Keeps.then keeps_nowMs fun time s₃ hs₃ _ => ?_
    refine Keeps.then (keeps_pushAccount fun s₄ live hs₄ hlive haccount => ?_) fun _ _ _ _ =>
      keeps_confirm.serves
    refine .delivered live row time ?_ haccount hlive
    refine hs₄.log (hs₃.log ?_)
    simp

/-! ## Pairing -/

theorem handlePairingEvent_serves {id : String} {m : PairingEvent} :
    Serves env P i (handlePairingEvent env i id m) c s := by
  refine Keeps.then keeps_anySession fun session _ _ current => ?_
  refine Keeps.then keeps_ensure fun _ _ _ ⟨_, _, _, size, type⟩ => ?_
  refine Keeps.then keeps_query fun target _ _ _ => Keeps.then keeps_orFail fun target _ _ _ => ?_
  refine Keeps.then keeps_ensure fun _ _ _ _ => serves_device fun pending _ => ?_
  refine Keeps.then keeps_ensure fun _ _ _ _ => Keeps.then keeps_ensure fun _ _ _ _ => ?_
  refine Keeps.then keeps_nowMs fun now _ _ _ => ?_
  refine Keeps.then (keeps_execute fun s' _ r hr => .pairing session m _ current size type hr)
    fun eventId s₁ _ ⟨db, r, hr, heventId, hdb⟩ => ?_
  have hrow : ∃ row ∈ s₁.db.pairingEvents, row.id = eventId ∧ row.pairingId = m.pairingId ∧
      row.senderDeviceId = session.deviceId ∧ row.targetDeviceId = m.targetDeviceId ∧
      row.eventType = m.eventType ∧ row.payload = m.payload := by
    unfold Db.insertPairingEvent at hr
    split at hr
    · cases hr
    · cases hr
      rw [hdb, heventId]
      exact ⟨_, Table.mem_put.2 (.inl rfl), rfl, rfl, rfl, rfl, rfl, rfl⟩
  obtain ⟨row, hmem, hid, hpairing, hsender, htarget, htype, hpayload⟩ := hrow
  refine Keeps.then keeps_query fun devices s₂ hs₂ _ => Keeps.then keeps_orFail fun sender s₃ hs₃ _ => ?_
  refine Keeps.then (keeps_pushDevice fun s₄ live hs₄ hlive hdevice => ?_) fun _ _ _ _ =>
    keeps_confirm.serves
  have hsends := Sends.event (i := i) (s := s₄) (c := { c with
    log := .readDevice session.account.id m.pairingId pending :: c.log }) live s₁.db row
    sender.deviceName (AppState.Had.evolves (.inl rfl) (.trans hs₂ (.trans hs₃ hs₄))) hmem
    (htarget.trans hdevice.symm) hlive
  rw [hid, hpairing, hsender, htarget, htype, hpayload] at hsends
  exact hsends

theorem handleAckPairingEvent_serves {id : String} {m : AckPairingEvent}
    (received : c.Received id (.ackPairingEvent m)) :
    Serves env P i (handleAckPairingEvent env i id m) c s := by
  refine Keeps.then keeps_anySession fun session _ _ current => ?_
  refine Keeps.then keeps_ensure fun _ _ _ _ => ?_
  refine Keeps.then (keeps_execute fun _ _ r hr => ?_) fun _ _ _ _ => ?_
  · cases hr
    exact .pairingAcked session id m current received
  exact Keeps.then keeps_ensure fun _ _ _ _ => keeps_confirm.serves

/-- A bundle with the keys of a device that was found among those of the account. -/
theorem device_of_deviceBundles {db : Db} {accountId : String} {bundle pending : DeviceBundle}
    (h : ((db.deviceBundles accountId true).find? fun d => d.deviceId = bundle.deviceId) = some pending)
    (keys : pending.authSigningKey = bundle.authSigningKey ∧ pending.olmEd25519Key = bundle.olmEd25519Key ∧
      pending.olmCurve25519Key = bundle.olmCurve25519Key) :
    ∃ row, db.device accountId bundle.deviceId = some row ∧ row.authSigningKey = bundle.authSigningKey ∧
      row.olmEd25519Key = bundle.olmEd25519Key ∧ row.olmCurve25519Key = bundle.olmCurve25519Key := by
  obtain ⟨row, hrow, rfl⟩ := List.mem_map.1 (List.mem_of_find?_eq_some h)
  have hmem : row ∈ db.devices := (List.mem_filter.1 (List.mem_filter.1 hrow).1).1
  have haccount : row.accountId = accountId := by
    simpa using (List.mem_filter.1 (List.mem_filter.1 hrow).1).2
  have hfound := List.find?_some h
  have hid : row.id = bundle.deviceId := of_decide_eq_true hfound
  refine ⟨row, ?_, keys⟩
  rw [Db.device, ← hid, Table.find_of_mem hmem]
  simp [haccount]

theorem handleActivateDevice_serves {id : String} {m : ActivateDevice}
    (received : c.Received id (.activateDevice m)) :
    Serves env P i (handleActivateDevice env P i id m) c s := by
  refine Keeps.then keeps_usableSession fun session _ _ ⟨current, active⟩ => ?_
  refine Keeps.then keeps_orFail fun bundle _ _ hbundle => ?_
  refine Keeps.then keeps_ensure fun _ _ _ ⟨_, _, pairing, _⟩ => ?_
  refine Keeps.then keeps_query fun devices s₀ _ ⟨asked, had, hdevices⟩ => ?_
  refine Keeps.then keeps_orFail fun pending s₃ hs₃ hpending => ?_
  refine Keeps.then keeps_ensure fun _ s₄ hs₄ hkeys => ?_
  refine Keeps.then keeps_orFail fun master s₅ hs₅ key => ?_
  refine Keeps.then keeps_ofExcept fun _ s₆ hs₆ certificate => ?_
  refine Keeps.then keeps_ofExcept fun _ s₇ hs₇ _ => ?_
  have hasked : s₇.Had asked := had.evolves (.trans hs₃ (.trans hs₄ (.trans hs₅ (.trans hs₆ hs₇))))
  subst hdevices
  refine Keeps.then (keeps_write fun s' db' hs h => .activated session id m bundle master current active
    received hbundle pairing key certificate
    ⟨asked, hasked.evolves hs, device_of_deviceBundles hpending hkeys⟩ h) fun _ s₁ _ ⟨db, hdb⟩ => ?_
  obtain ⟨row, hrow, hactive, hid⟩ := Db.mem_of_activateDevice hdb
  refine Keeps.then (keeps_pushDevice fun s₂ live hs₂ hlive hdevice => ?_) fun _ _ _ _ =>
    (keeps_reply rfl).serves
  have hsends := Sends.activated (i := i) (s := s₂) (c := c) live s₁.db row m.pairingId session.deviceId
    (AppState.Had.evolves (.inl rfl) hs₂) hrow hactive (hid.trans hdevice.symm) hlive
  rw [hdevice] at hsends
  exact hsends

/-! ## Frames -/

/-- After a frame, other things were recorded. -/
theorem handling_received {f : Frame} {events log : List ConnectionEvent} (h : ∀ f, .received f ∉ events) :
    Connection.handling { c with log := events ++ .received f :: log } = f.body := by
  induction events with
  | nil => rfl
  | cons event events ih =>
    have hlast := ih fun f hf => h f (List.mem_cons_of_mem _ hf)
    cases event with
    | received f => exact absurd List.mem_cons_self (h f)
    | _ => exact hlast

/-- A connection that handles a frame: what its task knows when it begins. -/
structure Connection.Handles (c : Connection) (f : Frame) : Prop where
  received : .received f ∈ c.log
  last : c.handling = f.body
  /-- Without a session, nothing was read since. -/
  first : c.session = none → ∃ rest, c.log = .received f :: rest
  took : ∀ session, c.session = some session → c.Took session.deviceId

theorem handleBody_serves {f : Frame} {body : Body} (hbody : f.body = some body)
    (h : Connection.Handles c f) : Serves env P i (handleBody env P i f.id body) c s := by
  have received : c.Received f.id body := ⟨f, h.received, rfl, hbody⟩
  have handling : c.handling = some body := h.last.trans hbody
  cases body with
  | clientHello m => exact handleClientHello_serves hbody h.first
  | deviceAuth m => exact handleDeviceAuth_serves hbody h.first
  | passwordAuth m => exact handlePasswordAuth_serves hbody h.first
  | bootstrapDevice m => exact handleBootstrapDevice_serves received handling h.took
  | changePassword m => exact handleChangePassword_serves
  | lookupUser m => exact handleLookupUser_serves
  | publishPreKeys m => exact handlePublishPreKeys_serves handling
  | claimPreKey m => exact handleClaimPreKey_serves
  | sendEnvelopes m => exact handleSendEnvelopes_serves handling
  | syncRequest m => exact handleSyncRequest_serves received
  | ackEnvelope m => exact handleAckEnvelope_serves received
  | pairingEvent m => exact handlePairingEvent_serves
  | ackPairingEvent m => exact handleAckPairingEvent_serves received
  | activateDevice m => exact handleActivateDevice_serves received
  | listOwnDevices => exact handleListOwnDevices_serves
  | revokeOwnDevice m => exact handleRevokeOwnDevice_serves
  | ping m => exact (keeps_reply rfl).serves
  | pong m => exact (Proc.wp_pure ()).2 trivial
  | _ => exact (Proc.wp_fail _).2 trivial

theorem handleFrame_serves {f : Frame} (h : Connection.Handles c f) :
    Serves env P i (handleFrame env P i f) c s :=
  Keeps.then keeps_orFail fun _ _ _ hbody => handleBody_serves hbody h

theorem handleReporting_serves {f : Frame} (h : Connection.Handles c f) :
    Serves env P i (handleReporting env P i f) c s := by
  unfold handleReporting
  rw [Serves, Proc.wp_bind, Proc.wp_caught]
  have hreport : ∀ e (w : ServerWorld), Serves env P i (sendError env i f.id (publicError e).code
      (publicError e).message (publicError e).retryable) w.2 w.1 := fun _ _ => keeps_sendError.serves
  exact wp.mono (handleFrame_serves h) (fun _ _ h => h) (fun _ _ _ => (Proc.wp_pure ()).2 trivial)
    fun e w _ => hreport e w

theorem close_serves : Serves env P i (close i) c s := by
  refine serves_modifyConnection (fun _ => .closed) fun s' => ?_
  refine Keeps.then keeps_getConnection fun slot _ _ _ => ?_
  cases slot with
  | none => exact (Proc.wp_pure ()).2 trivial
  | some session => exact keeps_unregister.serves

theorem serves_takeRequest {g : Bool → ServerM α}
    (h : ∀ admitted bucket s', Serves env P i (g admitted) { c with bucket } s') :
    Serves env P i (takeRequest env >>= g) c s := by
  rw [Serves, Proc.wp_bind]
  refine serves_action fun s' _ => ⟨.bucket, fun a ha => ?_, fun _ ha => by cases ha⟩
  exact h _ _ _

theorem wp_caught_accountByUsername {username : String} {Q : Except Error (Option AccountRow) → ServerWorld → Prop}
    {E : Error → ServerWorld → Prop}
    (h : ∀ r reads s', (∀ f, .received f ∉ reads) → Q r (s', { c with log := reads ++ c.log })) :
    wp (Pool.Interferes (Evolves env P)) (ServerStep env P i)
      (Proc.caught (accountByUsername env username)) Q E (s, c) := by
  rw [Proc.wp_caught]
  refine serves_action fun s' _ => ?_
  cases hw : env.works s'.tick with
  | false =>
    simp only [hw]
    exact ⟨.learned, fun _ ha => (by cases ha), fun _ _ => h _ [] _ fun _ => List.not_mem_nil⟩
  | true =>
    simp only [hw]
    exact ⟨.readAccount username, fun _ _ => h _ [_] _ (by simp), fun _ he => by cases he⟩

theorem wp_caught_device {accountId deviceId : String} {Q : Except Error (Option DeviceRow) → ServerWorld → Prop}
    {E : Error → ServerWorld → Prop}
    (h : ∀ r reads s', (∀ f, .received f ∉ reads) → Q r (s', { c with log := reads ++ c.log })) :
    wp (Pool.Interferes (Evolves env P)) (ServerStep env P i)
      (Proc.caught (device env accountId deviceId)) Q E (s, c) := by
  rw [Proc.wp_caught]
  refine serves_action fun s' _ => ?_
  cases hw : env.works s'.tick with
  | false =>
    simp only [hw]
    exact ⟨.learned, fun _ ha => (by cases ha), fun _ _ => h _ [] _ fun _ => List.not_mem_nil⟩
  | true =>
    simp only [hw]
    exact ⟨.readDevice accountId deviceId, fun _ _ => h _ [_] _ (by simp), fun _ he => by cases he⟩

/-- The queries of the recheck: they are recorded, and there are none without a session. -/
theorem serves_recheckAccess {g : Bool → ServerM α}
    (h : ∀ allowed reads s', (c.session = none → reads = []) → (∀ f, .received f ∉ reads) →
      Serves env P i (g allowed) { c with log := reads ++ c.log } s') :
    Serves env P i (recheckAccess env >>= g) c s := by
  rw [Serves, Proc.wp_bind]
  refine Keeps.wp_bind keeps_getConnection (fun _ _ _ => trivial) fun slot s' _ hslot => ?_
  subst hslot
  cases hsession : c.session.filter fun session => !session.pending with
  | none => exact (Proc.wp_pure _).2 (h true [] s' (fun _ => rfl) fun _ => List.not_mem_nil)
  | some active =>
    have hsome : c.session ≠ none := fun hnone => by simp [hnone] at hsession
    rw [Proc.wp_bind]
    refine wp_caught_accountByUsername fun account reads s₁ hreads => ?_
    rw [Proc.wp_bind]
    refine wp_caught_device fun found reads' s₂ hreads' => (Proc.wp_pure _).2 ?_
    have hg := h (account.toOption.join.any (fun row => row.state = .active) &&
      found.toOption.join.any DeviceRow.active) (reads' ++ reads) s₂ (fun hnone => absurd hnone hsome)
      fun f hf => (List.mem_append.1 hf).elim (hreads' f) (hreads f)
    rw [List.append_assoc] at hg
    exact hg

/-! ## The loop -/

theorem serveFrame_serves {f : Frame} (took : ∀ session, c.session = some session → c.Took session.deviceId) :
    Serves env P i (serveFrame env P i f) c s := by
  refine serves_modifyConnection (fun _ => .received f) fun s₁ => ?_
  split
  · exact Keeps.then keeps_sendError fun _ _ _ _ => close_serves
  refine serves_takeRequest fun admitted bucket s₂ => ?_
  split
  · exact Keeps.then keeps_sendError fun _ _ _ _ => close_serves
  refine serves_recheckAccess fun allowed reads s₃ hreads hothers => ?_
  split
  · exact Keeps.then keeps_sendError fun _ _ _ _ => close_serves
  refine handleReporting_serves
    ⟨List.mem_append_right _ List.mem_cons_self, handling_received hothers, fun hnone => ⟨c.log, ?_⟩,
      fun session hsession => ?_⟩
  · dsimp only
    rw [hreads hnone, List.nil_append]
  · exact (took session hsession).imp fun challenge h =>
      ⟨List.mem_append_right _ (List.mem_cons_of_mem _ h.1), h.2⟩

theorem serve_serves (took : ∀ session, c.session = some session → c.Took session.deviceId)
    (m : Incoming) : Serves env P i (serve env P i m) c s := by
  cases m with
  | binary decoded =>
    cases decoded with
    | error e => exact keeps_sendError.serves
    | ok f =>
      rw [serve]
      split
      · exact serveFrame_serves took
      · exact keeps_sendError.serves
  | ping first =>
    rw [serve]
    exact Keeps.serves (keeps_trySend fun _ _ => sends_answer rfl)
  | other => exact (Proc.wp_pure ()).2 trivial
  | closed => exact close_serves
  | disconnect reason => exact Keeps.then keeps_sendError fun _ _ _ _ => close_serves

end Ws

/-! ## Commands -/

namespace Admin

open Ws

variable {env : ServerEnvironment} {P : Primitives} {i : Nat} {s : AppState} {c : Connection}

theorem keeps_kickSession {id : Nat} {reason : String} :
    Keeps env P i (kickSession id reason) c s fun _ _ => True := by
  refine .bind keeps_getState fun found _ _ _ => ?_
  cases found with
  | true => exact .bind keeps_signal fun _ _ _ _ => keeps_pure trivial
  | false => exact keeps_pure trivial

theorem keeps_kickAccount {accountId reason : String} :
    Keeps env P i (kickAccount accountId reason) c s fun _ _ => True :=
  .bind keeps_getState fun _ _ _ _ => keeps_each (p := fun _ => True) (fun _ _ _ h => h)
    (fun _ _ _ _ => keeps_signal) trivial

theorem keeps_control {request : ServerM Unit}
    (h : ∀ s, Keeps env P i request c s fun _ _ => True) :
    Keeps env P i (control env request) c s fun _ _ => True := by
  refine .bind keeps_learn fun there s' _ _ => ?_
  cases there with
  | true => exact h s'
  | false => exact keeps_pure trivial

theorem keeps_disconnectUserIfOnline {username reason : String} :
    Keeps env P i (disconnectUserIfOnline env username reason) c s fun _ _ => True := by
  refine .bind keeps_query fun account s' _ _ => ?_
  cases account with
  | none => exact keeps_pure trivial
  | some account => exact keeps_control fun _ => keeps_kickAccount

theorem keeps_addUser {username password : String} :
    Keeps env P i (addUser env username password) c s fun _ _ => True := by
  refine .bind keeps_ofExcept fun name _ _ _ => .bind keeps_learn fun phc _ _ _ => ?_
  refine .bind keeps_learn fun id _ _ _ => .bind (keeps_write fun _ _ _ h => .added _ _ _ h) fun _ _ _ _ => ?_
  exact keeps_audit

theorem keeps_setUserState {username : String} {state : AccountState} :
    Keeps env P i (setUserState env username state) c s fun _ _ => True := by
  refine .bind keeps_ofExcept fun name _ _ _ => ?_
  refine .bind (keeps_execute fun _ _ r hr => ?_) fun _ _ _ _ => ?_
  · cases hr
    exact .userState name state
  · exact .bind keeps_ensure fun _ _ _ _ => keeps_audit

theorem keeps_resetPassword {username password : String} :
    Keeps env P i (resetPassword env username password) c s fun _ _ => True := by
  refine .bind keeps_ofExcept fun name _ _ _ => .bind keeps_learn fun phc _ _ _ => ?_
  refine .bind (keeps_execute fun _ _ r hr => ?_) fun _ _ _ _ => ?_
  · cases hr
    exact .passwordReset name phc
  · exact .bind keeps_ensure fun _ _ _ _ => keeps_audit

theorem keeps_resetDevices {username : String} :
    Keeps env P i (resetDevices env username) c s fun _ _ => True := by
  refine .bind keeps_ofExcept fun name _ _ _ => ?_
  refine .bind (keeps_execute fun _ _ r hr => .devicesReset name hr)
    fun deviceIds s₁ _ ⟨db, r, hr, hids, hdb⟩ => ?_
  have hrows : ∀ deviceId ∈ deviceIds, ∃ row ∈ s₁.db.devices, row.id = deviceId ∧ row.revoked = true := by
    intro deviceId hmem
    rw [hdb]
    rw [hids] at hmem
    exact Db.mem_of_resetDevices hr hmem
  refine .bind (keeps_each (p := fun s' => s'.Had s₁.db) (fun _ _ hs h => h.evolves hs)
    (fun deviceId hmem _ had => keeps_update fun _ hs => ?_) (.inl rfl)) fun _ _ _ _ => keeps_audit
  exact .cleanedDevice _ ⟨s₁.db, had.evolves hs, hrows deviceId hmem⟩

theorem keeps_revokeDevice {username deviceId : String} :
    Keeps env P i (revokeDevice env username deviceId) c s fun _ _ => True := by
  refine .bind keeps_query fun account _ _ _ => .bind keeps_orFail fun account _ _ _ => ?_
  refine .bind (keeps_execute fun _ _ r hr => ?_) fun found s₁ _ ⟨db, r, hr, hfound, hdb⟩ => ?_
  · cases hr
    exact .revoked account.id deviceId
  refine .bind keeps_ensure fun _ s₂ hs₂ hrevoked => ?_
  have hrow : ∃ row ∈ s₁.db.devices, row.id = deviceId ∧ row.revoked = true := by
    cases hr
    rw [hdb]
    exact Db.mem_of_revokeDevice (hfound.symm.trans hrevoked)
  refine .bind (keeps_update fun _ hs => ?_) fun _ _ _ _ => keeps_audit
  exact .cleanedDevice _ ⟨s₁.db, AppState.Had.evolves (.inl rfl) (.trans hs₂ hs), hrow⟩

theorem keeps_deleteUser {username : String} :
    Keeps env P i (deleteUser env username) c s fun _ _ => True := by
  refine .bind keeps_ofExcept fun name _ _ _ => .bind keeps_query fun account _ _ _ => ?_
  refine .bind keeps_orFail fun account _ _ _ => .bind keeps_disconnectUserIfOnline fun _ _ _ _ => ?_
  exact .bind (keeps_update fun _ _ => .deleted account.id) fun _ _ _ _ => keeps_audit

theorem keeps_cleanupRounds {cutoff : Int} {rounds : Nat} :
    Keeps env P i (cleanupRounds env cutoff rounds) c s fun _ _ => True := by
  induction rounds generalizing s with
  | zero => exact keeps_pure trivial
  | succ rounds ih =>
    refine .bind (keeps_execute fun _ _ r hr => ?_) fun removed _ _ _ => ?_
    · cases hr
      exact .cleanedDelivered cutoff 1000
    · split
      · exact keeps_pure trivial
      · exact ih

theorem keeps_cleanupStorage {retentionDays rounds : Nat} :
    Keeps env P i (cleanupStorage env retentionDays rounds) c s fun _ _ => True :=
  .bind keeps_nowMs fun _ _ _ _ => .bind keeps_cleanupRounds fun _ _ _ _ => keeps_audit

theorem keeps_pruneConversation {conversation : String} {before : Option Int} {deliveredOnly : Bool} :
    Keeps env P i (pruneConversation env conversation before deliveredOnly) c s fun _ _ => True :=
  .bind keeps_ensure fun _ _ _ _ => .bind (keeps_update fun _ _ => .pruned _ _ _) fun _ _ _ _ => keeps_audit

theorem keeps_maintenance {deliveredRetentionDays : Nat} :
    Keeps env P i (maintenance env deliveredRetentionDays) c s fun _ _ => True :=
  .bind keeps_nowMs fun _ _ _ _ => .bind (keeps_update fun _ _ => .cleanedPairing _) fun _ _ _ _ =>
    keeps_update fun _ _ => .cleanedDelivered _ _

theorem keeps_runCommand (command : Command) :
    Keeps env P i (runCommand env command) c s fun _ _ => True := by
  cases command with
  | userAdd username password => exact keeps_addUser
  | userDisable username =>
    exact .bind keeps_setUserState fun _ _ _ _ => keeps_disconnectUserIfOnline
  | userEnable username => exact keeps_setUserState
  | userResetPassword username password => exact keeps_resetPassword
  | userResetDevices username =>
    exact .bind keeps_resetDevices fun _ _ _ _ => keeps_disconnectUserIfOnline
  | userDelete username => exact keeps_deleteUser
  | deviceRevoke username deviceId =>
    exact .bind keeps_revokeDevice fun _ _ _ _ => keeps_control fun _ => keeps_kickDevice
  | storageCleanup retentionDays rounds => exact keeps_cleanupStorage
  | conversationPrune conversation before deliveredOnly => exact keeps_pruneConversation
  | sessionKick id =>
    exact .bind keeps_kickSession fun _ _ _ _ => .bind keeps_ensure fun _ _ _ _ => keeps_audit
  | maintenance deliveredRetentionDays => exact keeps_maintenance

end Admin

end TuiChat
