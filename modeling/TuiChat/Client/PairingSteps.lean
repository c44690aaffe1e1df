import TuiChat.Client.SyncSteps
import TuiChat.Client.Events

/-!
# Pairing, as steps of the view

What an approver certifies is the device of the session both users confirmed, and the frame that has
it activated follows one with the master secret (`finishPairingAsApprover_quiet`); a bootstrap that
is handled to its end leaves the master secret in the stored profile (`handleBootstrap_runs`).
-/

namespace TuiChat

open Lib
open Lib.Prog (Moves wp)
open Relation (ReflTransGen)

variable {P : Primitives} {env : Environment}

/-! ## Sessions -/

/-- The session changes along a step of the view. -/
theorem wp_setPairing {pairing : Option PairingSession} {w : World P}
    (h : QuietStep w.view { w.view with pairing }) :
    wp (setPairing pairing) (fun _ => Quiet w) (fun _ => Quiet w) w :=
  show Quiet w { w with app := { w.app with pairing } } from Quiet.of_step h

theorem requestIndex_mem {requests : List PairingRequest} {device : Option String} {i : Nat}
    {r : PairingRequest}
    (h : ((requestIndex requests device).bind fun i => requests[i]?.map fun r => (i, r)) =
      some (i, r)) : r ∈ requests := by
  obtain ⟨j, -, hj⟩ := Option.bind_eq_some_iff.1 h
  obtain ⟨r', hr', he⟩ := Option.map_eq_some_iff.1 hj
  cases he
  exact List.mem_of_getElem? hr'

theorem startPairing_quiet (requested : Option String) :
    IsQuiet (startPairing env requested : ClientM P Unit) := by
  refine .bind (getApp_quiet _) fun _ => .bind (.ensure _ _) fun _ => .bind (getApp_quiet _) fun _ =>
    .bind (.ensure _ _) fun _ => .of_wp fun w => ?_
  rw [wp_getApp_bind]
  refine wp.orFail .refl fun ⟨index, r⟩ hr => ?_
  have hmem : r ∈ w.app.pairingRequests := requestIndex_mem hr
  rw [Prog.wp_bind]
  have hkept : ∀ r' ∈ World.view { w with app := { w.app with
      pairingRequests := w.app.pairingRequests.eraseIdx index } } |>.known, r' ∈ w.view.known := by
    intro r' hr'
    refine (List.mem_append.1 hr').elim (fun hr' => List.mem_append_left _ ?_) (List.mem_append_right _)
    exact (List.mem_append.1 hr').elim
      (fun hr' => List.mem_append_left _ (List.mem_of_mem_eraseIdx hr')) (List.mem_append_right _)
  have hremoved : Quiet w { w with app := { w.app with
      pairingRequests := w.app.pairingRequests.eraseIdx index } } :=
    Quiet.of_step (.aside _ _ (fun r hr => .inl (hkept r hr)) fun _ hb => hb)
  refine wp.orFail hremoved fun device hdevice => wp.ensure hremoved fun _ => ?_
  refine draw_still.wp_bind (fun _ _ h => hremoved.trans (Quiet.of_view_eq h)) fun n w₁ hw₁ => ?_
  have hw : Quiet w w₁ := hremoved.trans (Quiet.of_view_eq hw₁)
  refine wp.ofExcept (fun _ => hw) fun channel hchannel => ?_
  rw [Prog.wp_bind]
  refine wp_sendFrame ?_ fun _ => hw.trans (ticked_quiet _)
  -- The request is at hand until the session is started, as far as the view goes.
  have hstarted : ∀ session, r.Starts P session → ∀ id body, body.plain = true →
      ReflTransGen QuietStep w.view { w₁.view with
        sent := w₁.sent ++ [frame id body]
        pairing := some session
        log := .started r session :: w₁.log } := by
    intro session hs id body hb
    have hknown : r ∈ w.view.known := List.mem_append_left _ (List.mem_append_left _ hmem)
    have hsend := QuietStep.sent (v := w.view) (frame id body) (.inr (View.allows_plain hb))
    have hstart := QuietStep.started (v := { w.view with sent := w.sent ++ [frame id body] }) r session
      hknown hs
    have hdrop := QuietStep.aside (v := { w.view with
      sent := w.sent ++ [frame id body]
      pairing := some session
      log := .started r session :: w.log })
      _ w.view.queued (fun r hr => .inl (hkept r hr)) fun _ hb => hb
    have hlog : w₁.log = w.log := congrArg View.log (show w₁.view = _ from hw₁)
    have hsent : w₁.sent = w.sent := congrArg View.sent (show w₁.view = _ from hw₁)
    rw [hlog, hsent, show w₁.view = _ from hw₁]
    exact ((ReflTransGen.single hsend).tail hstart).tail hdrop
  have hfinal := hstarted
    { pairingId := r.pairingId
      peerDeviceId := r.pendingDeviceId
      pendingDevice := device
      channel
      approver := true
      ourConfirmed := false
      peerConfirmed := false }
    ⟨rfl, rfl, hdevice, ⟨_, hchannel⟩, rfl, rfl, rfl⟩ ""
    (pairingEvent r.pairingId r.pendingDeviceId "sas_public" (P.x25519Public (P.x25519Secret n))) rfl
  show wp (notificationByRequestId env r.pairingId >>= _) _ _ _
  refine (Moves.wp (R := Quiet) ?_ _).mono (fun _ _ h => hfinal.trans h)
    fun _ _ h => hfinal.trans h
  refine .bind (notificationByRequestId_quiet _) fun notification => ?_
  cases notification with
  | none => exact .pure _
  | some n => exact markNotificationState_quiet _ _ _

/-! ## The transfers -/

theorem sendPairingPayload_quiet (pairing : PairingSession) (eventType : String) (plaintext : Bytes) :
    IsQuiet (sendPairingPayload env pairing eventType plaintext : ClientM P Unit) :=
  .bind draw_quiet fun _ => notify_quiet rfl

/-- The transfers begin with the master secret. -/
theorem sendTransfers_carries (pairing : PairingSession) (master : Bytes) (w : World P) :
    wp (sendTransfers env pairing master)
      (fun _ w' => Quiet w w' ∧ ∃ f ∈ w'.sent, View.CarriesMaster pairing f) (fun _ => Quiet w) w := by
  unfold sendTransfers
  refine (query_quiet _).wp_bind (fun _ _ h => h) fun contacts w₁ hw₁ => ?_
  refine wp.bind (R := fun _ w₂ => Quiet w w₂ ∧ ∃ f ∈ w₂.sent, View.CarriesMaster pairing f) ?_
    fun _ w₂ ⟨hw₂, f, hf, hc⟩ => ?_
  · refine draw_still.wp_bind (fun _ _ h => hw₁.trans (Quiet.of_view_eq h)) fun n w₂ hw₂ => ?_
    have hw : Quiet w w₂ := hw₁.trans (Quiet.of_view_eq hw₂)
    refine wp_sendFrame ⟨hw.trans ?_, _, List.mem_append_right _ List.mem_cons_self, _, rfl⟩
      fun _ => hw.trans (ticked_quiet _)
    exact Quiet.of_step (.sent _ (.inr (View.allows_plain rfl)))
  · refine (Moves.wp (R := Quiet) ?_ w₂).mono
      (fun _ w₃ h => ⟨hw₂.trans h, f, h.sent.subset hf, hc⟩) fun _ _ h => hw₂.trans h
    exact .bind (query_quiet _) fun _ => .bind (.each fun _ _ => sendPairingPayload_quiet _ _ _)
      fun _ => sendPairingPayload_quiet _ _ _

theorem request_allowed {body : Body} {w : World P} (h : w.view.Allows (some body)) :
    wp (request env body) (fun _ => Quiet w) (fun _ => Quiet w) w := by
  refine newUuid_still.wp_bind (fun _ _ h => Quiet.of_view_eq h) fun id w₁ hw₁ => ?_
  have hw : Quiet w w₁ := Quiet.of_view_eq hw₁
  rw [← show w₁.view = w.view from hw₁] at h
  refine ((sendFrame_allowed (.inr h)).mono (fun _ _ h => h.1) fun _ _ h => hw.trans h.1).bind
    fun _ w₂ hw₂ => ?_
  exact ((answer_steady body).wp w₂).mono (fun _ _ h => (hw.trans hw₂).trans h.1)
    fun _ _ h => (hw.trans hw₂).trans h.1

/-- The device is certified in a session that both users confirmed, and its activation is asked for
after the master secret was sent. -/
theorem finishPairingAsApprover_quiet {w : World P}
    (happrover : ∀ s, w.app.pairing = some s → s.approver = true) :
    wp (finishPairingAsApprover env) (fun _ => Quiet w) (fun _ => Quiet w) w := by
  unfold finishPairingAsApprover
  rw [wp_getApp_bind, Prog.wp_bind]
  have hended : Quiet w { w with app := { w.app with pairing := none } } := Quiet.of_step .ended
  show wp _ _ _ { w with app := { w.app with pairing := none } }
  refine wp.orFail hended fun pairing hpairing => ?_
  split
  · -- The session that was taken is put back.
    show Quiet w { w with app := { w.app with pairing := some pairing } }
    rw [← hpairing]
    exact .rfl
  next hconfirmed =>
  rw [wp_getApp_bind]
  refine wp.ofExcept (fun _ => hended) fun device hdevice => ?_
  rw [wp_record_bind]
  have hboth : pairing.ourConfirmed = true ∧ pairing.peerConfirmed = true := by
    simpa using hconfirmed
  have hcertified : Quiet w { w with
      app := { w.app with pairing := none }, log := .certified pairing device :: w.log } :=
    Quiet.of_step (.certified pairing device hpairing (happrover _ hpairing) hboth hdevice)
  refine wp.orFail hcertified fun master _ => ?_
  refine ((sendTransfers_carries pairing master _).mono (fun _ _ h => h)
    fun _ _ h => hcertified.trans h).bind fun _ w₁ ⟨hw₁, f, hf, hcarries⟩ => ?_
  rw [wp_getApp_bind]
  have hw := hcertified.trans hw₁
  refine (lookupBundleFresh_quiet _).wp_bind (fun _ _ h => hw.trans h) fun bundle w₂ hw₂ => ?_
  have hw' := hw.trans hw₂
  refine wp.ofExcept (fun _ => hw') fun signature _ => ?_
  have hallowed : w₂.view.Allows (some (.activateDevice
      { pairingId := pairing.pairingId
        device := some device
        rosterRevision := bundle.rosterRevision + 1
        rosterSignature := signature })) :=
    ⟨pairing, device, (hw₁.trans hw₂).log.subset List.mem_cons_self, rfl, rfl, f,
      hw₂.sent.subset hf, hcarries⟩
  refine ((request_allowed hallowed).mono (fun _ _ h => h) fun _ _ h => hw'.trans h).bind
    fun _ w₃ hw₃ => ?_
  refine (Moves.wp (R := Quiet) ?_ w₃).mono (fun _ _ h => (hw'.trans hw₃).trans h)
    fun _ _ h => (hw'.trans hw₃).trans h
  refine .bind (notificationByRequestId_quiet _) fun notification => ?_
  cases notification with
  | none => exact setStatus_quiet _
  | some n => exact .bind (markNotificationState_quiet _ _ _) fun _ => setStatus_quiet _

/-! ## Both ends -/

/-- Marking the current session, before what is quiet from there. -/
theorem setPairing_then {α : Type} {s s' : PairingSession} {k : Unit → ClientM P α} {w : World P}
    (hs : w.app.pairing = some s) (hm : s' = s.marked s'.ourConfirmed s'.peerConfirmed)
    (hc : s'.ourConfirmed = true → s.ourConfirmed = true ∨ .compared s ∈ w.log)
    (hk : ∀ w', w'.app.pairing = some s' → wp (k ()) (fun _ => Quiet w') (fun _ => Quiet w') w') :
    wp (setPairing (some s') >>= k) (fun _ => Quiet w) (fun _ => Quiet w) w := by
  have hmarked : Quiet w { w with app := { w.app with pairing := some s' } } := by
    have hstep := QuietStep.marked (v := w.view) s s'.ourConfirmed s'.peerConfirmed hs hc
    rw [← hm] at hstep
    exact Quiet.of_step hstep
  rw [Prog.wp_bind]
  exact (hk { w with app := { w.app with pairing := some s' } } rfl).mono
    (fun _ _ h => hmarked.trans h) fun _ _ h => hmarked.trans h

theorem confirmPairing_quiet : IsQuiet (confirmPairing env : ClientM P Unit) := .of_wp fun w => by
  unfold confirmPairing
  rw [wp_getApp_bind]
  refine wp.orFail .refl fun pairing hpairing => ?_
  split
  · exact (setStatus_quiet _).wp w
  rw [wp_record_bind]
  refine Quiet.wp_of (Quiet.of_step (.compared pairing hpairing)) ?_
  refine setPairing_then hpairing rfl (fun _ => .inr List.mem_cons_self) fun w' hw' => ?_
  split
  · next happrover =>
    split
    · exact finishPairingAsApprover_quiet fun s hs => by
        cases hw'.symm.trans hs
        exact happrover
    · exact (setStatus_quiet _).wp w'
  · refine Moves.wp (R := Quiet) ?_ w'
    exact .bind (sendPairingPayload_quiet _ _ _) fun _ => setStatus_quiet _

/-- A session that is entered with the stored secret, before what is quiet. -/
theorem joinPairing_then {α : Type} {s : PairingSession} {k : Unit → ClientM P α} {w : World P}
    (hs : s.Joins P w.app.profile.pairingSecret) (hk : IsQuiet (k ())) :
    wp (setPairing (some s) >>= k) (fun _ => Quiet w) (fun _ => Quiet w) w :=
  ((wp_setPairing (.joined s hs)).mono (fun _ _ h => h) fun _ _ h => h).bind fun _ w' hw' =>
    (hk.wp w').mono (fun _ _ h => hw'.trans h) fun _ _ h => hw'.trans h

theorem handleSasPublic_quiet (event : PairingEvent) :
    IsQuiet (handleSasPublic env event : ClientM P Unit) := .of_wp fun w => by
  unfold handleSasPublic
  rw [wp_getApp_bind]
  refine wp.orFail .refl fun secret hsecret => wp.ensure .refl fun _ => wp.ofExcept (fun _ => .refl)
    fun channel hchannel => ?_
  extract_lets approverDeviceName
  rw [Prog.wp_bind]
  exact joinPairing_then ⟨⟨secret, _, hsecret, hchannel⟩, rfl, rfl, rfl⟩
    (savePendingPairingNotification_quiet _ _ _ _)

theorem handleSasConfirmed_quiet (event : PairingEvent) :
    IsQuiet (handleSasConfirmed env event : ClientM P Unit) := .of_wp fun w => by
  unfold handleSasConfirmed
  rw [wp_getApp_bind]
  cases hpairing : w.app.pairing with
  | none => exact (setStatus_quiet _).wp w
  | some pairing =>
    refine wp.ensure .refl fun _ => wp.ofExcept (fun _ => .refl) fun _ _ => wp.ensure .refl fun _ => ?_
    refine setPairing_then hpairing rfl .inl fun w' hw' => ?_
    split
    · next hready =>
      exact finishPairingAsApprover_quiet fun s hs => by
        cases hw'.symm.trans hs
        exact hready.2
    · exact (setStatus_quiet _).wp w'

/-! ## The profile -/

/-- Storing the current profile. -/
theorem saveProfile_runs {profile : RuntimeProfile P} {w : World P} (h : profile = w.app.profile) :
    wp (execute env fun s => some (s.saveProfile profile))
      (fun _ w' => Runs w w' ∧ w'.store.profile = profile) (fun _ => Runs w) w := by
  have htick : Runs w w.ticked := (ticked_quiet w).runs
  refine wp_executeRecording (fun _ => htick) fun store hs => ?_
  cases hs
  refine ⟨htick.trans (Runs.of_step ?_), rfl⟩
  rw [h]
  exact .saved

/-- A profile that changes in what no session depends on. -/
theorem modifyProfile_runs {w : World P} {app : App P} (p : RuntimeProfile P)
    (happ : App.SameView { w.app with profile := p } app)
    (ha : p.accountId = w.app.profile.accountId)
    (hm : p.accountMasterPublic = w.app.profile.accountMasterPublic)
    (ho : p.machine = w.app.profile.machine) (hp : p.pending = true → w.app.profile.pending = true)
    (hs : w.app.profile.identity.master.isSome = true → p.identity.master.isSome = true)
    (hsas : p.pairingSecret = w.app.profile.pairingSecret ∨ p.pairingSecret = none)
    (hi : p.identity.master = w.app.profile.identity.master ∨ ∃ s secret,
      p.identity.master = some secret ∧ P.verifyingKey secret = p.accountMasterPublic ∧
        .migrated s (.master secret) ∈ w.log) :
    Runs w { w with app } := by
  have h := ViewStep.profile (v := w.view) p ha hm ho hp hs hsas hi
  obtain ⟨h₁, h₂, h₃, h₄, h₅, h₆, h₇⟩ := happ
  refine Runs.of_step ?_
  simpa [World.view, h₁, h₂, h₃, h₄, h₅, h₆, h₇] using h

/-! ## The bootstrap -/

/-- An import of contacts writes one row after the other. -/
theorem importContacts_path {pairing : PairingSession} (hconfirmed : pairing.ourConfirmed = true) :
    ∀ (cs : List TransferContact) (s s' : Store P) (v : View P),
    s.importContacts cs = some s' → v.rows = s.contacts → v.messages = s.messages →
      v.stored = s.profile → v.profile.pending = true → v.pairing = some pairing →
      ReflTransGen QuietStep v
        { v with rows := s'.contacts, log := importEvents pairing s cs ++ v.log }
  | [], s, s', v, h, hr, _, _, _, _ => by
    cases h
    rw [← hr]
    exact .refl
  | c :: cs, s, s', v, h, hr, hm, hs, hp, hcur => by
    obtain ⟨s₁, hs₁, h⟩ := Option.bind_eq_some_iff.1 h
    have hput := Store.putContact_eq hs₁
    have hstep := QuietStep.imported (v := v) c pairing hp hcur hconfirmed
    have hkey : v.keyWritten c.bundle = keyWritten s c.bundle := by
      unfold View.keyWritten View.keyOf
      rw [hr, hm, hs]
      rfl
    rw [hr, hkey] at hstep
    have hrest := importContacts_path hconfirmed cs s₁ s' { v with
      rows := s.contacts.put (Store.importRow c)
      log := keyWritten s c.bundle :: .migrated pairing (.contact c.bundle) :: v.log }
      h (by rw [hput]) (by rw [hput]; exact hm) (by rw [hput]; exact hs) hp hcur
    have hlog : importEvents pairing s (c :: cs) = importEvents pairing s₁ cs ++
        [keyWritten s c.bundle, .migrated pairing (.contact c.bundle)] := by
      simp [importEvents, hs₁]
    rw [hlog, List.append_assoc]
    exact .head hstep hrest

theorem importContacts_eq : ∀ {cs : List TransferContact} {s s' : Store P},
    s.importContacts cs = some s' → s' = { s with contacts := s'.contacts }
  | [], s, s', h => by cases h; rfl
  | c :: cs, s, s', h => by
    obtain ⟨s₁, hs₁, h⟩ := Option.bind_eq_some_iff.1 h
    rw [importContacts_eq h, Store.putContact_eq hs₁]

theorem importContacts_quiet {pairing : PairingSession} {contacts : List TransferContact}
    {w : World P} (hp : w.app.profile.pending = true) (hcur : w.app.pairing = some pairing)
    (hconfirmed : pairing.ourConfirmed = true) :
    wp (importContacts env pairing contacts) (fun _ => Quiet w) (fun _ => Quiet w) w := by
  refine wp_executeRecording (fun _ => ticked_quiet w) fun store hs =>
    (ticked_quiet w).trans ?_
  have hpath := importContacts_path hconfirmed contacts w.store store w.view hs rfl rfl rfl hp hcur
  rw [importContacts_eq hs]
  exact hpath

/-- A bootstrap that is handled leaves the master secret in the stored profile. -/
theorem handleBootstrap_runs (event : PairingEvent) {w : World P}
    (hp : w.app.profile.pending = true) :
    wp (handleBootstrap env event)
      (fun _ w' => Runs w w' ∧ w'.store.profile.identity.master.isSome = true) (fun _ => Runs w) w := by
  unfold handleBootstrap
  rw [wp_getApp_bind]
  refine wp.orFail .refl fun pairing hpairing => wp.ensure .refl fun hconfirmed =>
    wp.ofExcept (fun _ => .refl) fun plaintext _ => wp.orFail .refl fun transfer _ => ?_
  rw [wp_getApp_bind]
  refine wp.ensure .refl fun hmaster => ?_
  rw [wp_record_bind, wp_modifyApp_bind]
  generalize hw₁ : ({ w with
    app := { w.app with profile := { w.app.profile with
      identity := w.app.profile.identity.installMasterSecret transfer.masterSecret } }
    log := .migrated pairing (.master transfer.masterSecret) :: w.log } : World P) = w₁
  have hmod : Runs w w₁ := by
    have hrecorded : Runs w { w with
        log := .migrated pairing (.master transfer.masterSecret) :: w.log } :=
      Runs.of_step (.quiet (.migrated pairing _ hpairing fun _ => hconfirmed))
    rw [← hw₁]
    exact hrecorded.trans (modifyProfile_runs _ ⟨rfl, rfl, rfl, rfl, rfl, rfl, rfl⟩ rfl rfl rfl id
      (fun _ => rfl) (.inl rfl) (.inr ⟨pairing, _, rfl, hmaster, List.mem_cons_self⟩))
  have hp₁ : w₁.app.profile.pending = true := hw₁ ▸ hp
  have hpairing₁ : w₁.app.pairing = some pairing := hw₁ ▸ hpairing
  have hsome₁ : w₁.app.profile.identity.master.isSome = true := hw₁ ▸ rfl
  refine ((importContacts_quiet hp₁ hpairing₁ hconfirmed).mono (fun _ _ h => h)
    fun _ _ h => hmod.trans h.runs).bind fun _ w₂ hw₂ => ?_
  refine loadContacts_quiet.wp_bind (fun _ _ h => hmod.trans (hw₂.trans h).runs) fun _ w₃ hw₃ => ?_
  have hw : Runs w w₃ := hmod.trans (hw₂.trans hw₃).runs
  rw [wp_getApp_bind]
  refine wp.bind (R := fun _ w' => Runs w w' ∧ w'.store.profile = w₃.app.profile)
    ((saveProfile_runs rfl).mono (fun _ _ h => ⟨hw.trans h.1, h.2⟩) fun _ _ h => hw.trans h)
    fun _ w₄ ⟨hw₄, hstored⟩ => ?_
  have hsome : w₄.store.profile.identity.master.isSome = true := by
    rw [hstored, (hw₂.trans hw₃).same.1]
    exact hsome₁
  exact ((setStatus_quiet _).wp _).mono
    (fun _ _ h => ⟨hw₄.trans h.runs, by rw [h.same.2.1]; exact hsome⟩) fun _ _ h => hw₄.trans h.runs

/-- A message is imported on the session it was decrypted on. -/
theorem importMessage_quiet {pairing : PairingSession} (message : ChatMessage) {w : World P}
    (hp : w.app.profile.pending = true) (hcur : w.app.pairing = some pairing) :
    wp (importMessage env pairing message)
      (fun _ w' => Quiet w w' ∧ w'.app = w.app) (fun _ => Quiet w) w := by
  refine wp_executeRecording (fun _ => ticked_quiet w) fun store hs =>
    ⟨(ticked_quiet w).trans ?_, rfl⟩
  obtain ⟨messages, summaries, rfl, h⟩ := Store.insertMessage_eq hs
  have hmigrated := QuietStep.migrated (v := w.view) pairing (.message message.id) hcur
    fun h => absurd rfl (h message.id)
  rcases h with rfl | rfl
  · exact Quiet.of_step hmigrated
  · exact (ReflTransGen.single hmigrated).tail (.message { message with provenance := none }
      (.migrated pairing hp List.mem_cons_self rfl))

theorem handleHistoryChunk_runs (event : PairingEvent) {w : World P}
    (hp : w.app.profile.pending = true) :
    wp (handleHistoryChunk env event) (fun _ => Runs w) (fun _ => Runs w) w := by
  unfold handleHistoryChunk
  rw [wp_getApp_bind]
  refine wp.orFail .refl fun pairing hpairing => wp.ofExcept (fun _ => .refl) fun plaintext _ =>
    wp.orFail .refl fun transfer _ => ?_
  have heach : wp (Prog.each (importMessage env pairing) transfer.messages)
      (fun _ w' => Quiet w w' ∧ w'.app = w.app) (fun _ => Quiet w) w := by
    refine Prog.wp_each (fun message _ w' ⟨hw', happ⟩ => ?_) ⟨.refl, rfl⟩
    exact (importMessage_quiet message (happ ▸ hp) (happ ▸ hpairing)).mono
      (fun _ _ h => ⟨hw'.trans h.1, h.2.trans happ⟩) fun _ _ h => hw'.trans h
  refine (heach.mono (fun _ _ h => h) fun _ _ h => h.runs).bind fun _ w' ⟨hw', _⟩ => ?_
  exact hw'.runs.wp_of ((setStatus_quiet _).runs.wp w')

theorem handleDeviceActivated_runs (event : PairingEvent) :
    IsRun (handleDeviceActivated env event : ClientM P Unit) := by
  refine .bind (getApp_quiet _).runs fun _ => .bind (.ensure _ _) fun _ => .bind (.modify fun w => ?_)
    fun _ => .of_wp fun w => ?_
  · exact modifyProfile_runs { w.app.profile with pending := false, pairingSecret := none }
      ⟨rfl, rfl, rfl, rfl, rfl, rfl, rfl⟩ rfl rfl rfl nofun id (.inr rfl) (.inl rfl)
  rw [wp_getApp_bind]
  refine (saveProfile_runs rfl).bind fun _ w' ⟨hw', _⟩ => ?_
  refine (Moves.wp (R := Runs) ?_ w').mono (fun _ _ h => hw'.trans h) fun _ _ h => hw'.trans h
  refine .bind (notificationByRequestId_quiet _).runs fun notification => ?_
  have hrest : IsRun (modifyApp fun app => { app with
      pairing := none
      connected := false
      backgroundRequests := ∅
      backgroundDeadlines := ∅
      syncInFlight := false
      postActivationSync := true
      status := "正在后台重新连接…" } : ClientM P Unit) := .modify fun w => Runs.of_step (.quiet .ended)
  cases notification with
  | none => exact hrest
  | some n => exact .bind (markNotificationState_quiet _ _ _).runs fun _ => hrest

/-- A bootstrap is ignored by a device that is not pending, and otherwise stores the secret. -/
theorem handlePairingEvent_runs (event : PairingEvent) (w : World P) :
    wp (handlePairingEvent env event)
      (fun _ w' => Runs w w' ∧ (event.eventType = "bootstrap" → w'.app.profile.pending = true →
        w'.store.profile.identity.master.isSome = true)) (fun _ => Runs w) w := by
  have hother : ∀ {m : ClientM P Unit}, event.eventType ≠ "bootstrap" →
      wp m (fun _ => Runs w) (fun _ => Runs w) w → wp m (fun _ w' => Runs w w' ∧
        (event.eventType = "bootstrap" → w'.app.profile.pending = true →
          w'.store.profile.identity.master.isSome = true)) (fun _ => Runs w) w := fun hne h =>
    h.mono (fun _ _ h => ⟨h, fun he => absurd he hne⟩) fun _ _ h => h
  unfold handlePairingEvent
  rw [wp_getApp_bind]
  split
  · next h => exact hother (by rw [h.1]; decide) ((handleSasPublic_quiet event).runs.wp w)
  split
  · next h => exact hother (by rw [h]; decide) ((handleSasConfirmed_quiet event).runs.wp w)
  split
  · next h =>
    exact (handleBootstrap_runs event h.2).mono (fun _ _ h => ⟨h.1, fun _ _ => h.2⟩) fun _ _ h => h
  next hbootstrap =>
  split
  · next h => exact hother (by rw [h.1]; decide) (handleHistoryChunk_runs event h.2)
  split
  · next h => exact hother (by rw [h.1]; decide) ((setStatus_quiet _).runs.wp w)
  split
  · next h => exact hother (by rw [h.1]; decide) ((handleDeviceActivated_runs event).wp w)
  · exact ⟨.refl, fun he hp => absurd ⟨he, hp⟩ hbootstrap⟩

/-! ## Pairing notifications -/

theorem mem_addPairingRequest {requests : List PairingRequest} {r r' : PairingRequest}
    (h : r' ∈ addPairingRequest requests r) : r' ∈ requests ∨ r' = r := by
  unfold addPairingRequest at h
  split at h
  · exact .inl h
  · simpa using h

theorem activatePairingNotification_quiet {n : Notification} {w : World P}
    (hn : ∀ r, n.data.pairingRequest = some r → r ∈ w.view.known) :
    wp (activatePairingNotification env n) (fun _ => Quiet w) (fun _ => Quiet w) w := by
  unfold activatePairingNotification
  split
  · refine Moves.wp (R := Quiet) ?_ w
    exact .bind (getApp_quiet _) fun _ => .ite (fun _ => confirmPairing_quiet) fun _ => .fail _
  · next pairingId device name key bundle hdata =>
    rw [Prog.wp_bind]
    have hadd : Quiet w { w with app := { w.app with
        pairingRequests := addPairingRequest w.app.pairingRequests
          { pairingId
            pendingDeviceId := device
            pendingDeviceName := name
            sasPublicKey := key
            pendingDevice := some bundle } } } := by
      refine modifyApp_requests rfl rfl rfl rfl rfl (fun r hr => .inl ?_) fun r hr => .inl ?_
      · rcases mem_addPairingRequest hr with hr | rfl
        · exact List.mem_append_left _ (List.mem_append_left _ hr)
        · exact hn _ (by rw [hdata]; rfl)
      · exact List.mem_append_left _ (List.mem_append_right _ hr)
    show wp (startPairing env (some pairingId) >>= _) _ _ _
    refine (Moves.wp (R := Quiet) ?_ _).mono (fun _ _ h => hadd.trans h) fun _ _ h => hadd.trans h
    exact .bind (startPairing_quiet _) fun _ => markNotificationState_quiet _ _ _
  · exact .refl

theorem App.selectedNotification_mem {app : App P} {n : Notification}
    (h : app.selectedNotification = some n) : n ∈ app.notifications := by
  obtain ⟨i, -, hi⟩ := Option.bind_eq_some_iff.1 h
  exact List.mem_of_getElem? hi

/-- Marking a notification read leaves the memory alone. -/
theorem markNotificationRead_app (id : String) (w : World P) :
    wp (markNotificationRead env id) (fun _ w' => Quiet w w' ∧ w'.app = w.app) (fun _ => Quiet w) w := by
  have happ : wp (markNotificationRead env id) (fun _ w' => w'.app = w.app) (fun _ _ => True) w := by
    show wp (execute env fun s => some (s.markNotificationRead id (env.nowMs w.tick))) _ _ w.ticked
    exact wp_executeRecording (fun _ => trivial) fun _ _ => rfl
  exact (((markNotificationRead_quiet id).wp w).and happ).mono (fun _ _ h => h) fun _ _ h => h.1

theorem activateSelectedNotification_runs :
    IsRun (activateSelectedNotification env : ClientM P Unit) := .of_wp fun w => by
  unfold activateSelectedNotification
  rw [wp_getApp_bind]
  cases hselected : w.app.selectedNotification with
  | none => exact (setStatus_quiet _).runs.wp w
  | some n =>
    refine ((markNotificationRead_app n.id w).mono (fun _ _ h => h) fun _ _ h => h.runs).bind
      fun _ w' ⟨hw', happ⟩ => ?_
    refine wp.mono (Q := fun _ => Runs w') (E := fun _ => Runs w') ?_
      (fun _ _ h => hw'.runs.trans h) fun _ _ h => hw'.runs.trans h
    split
    · refine (activatePairingNotification_quiet fun r hr => ?_).mono (fun _ _ h => h.runs)
        fun _ _ h => h.runs
      refine List.mem_append_left _ (List.mem_append_right _ ?_)
      rw [happ]
      exact List.mem_filterMap.2 ⟨n, App.selectedNotification_mem hselected, hr⟩
    · exact (acceptChatRequest_runs n).wp w'
    · exact (setStatus_quiet _).runs.wp w'

theorem activateNotificationPrimary_paths :
    Moves Paths (activateNotificationPrimary env : ClientM P Unit) := by
  refine .bind (getApp_quiet _).runs.paths fun selected => ?_
  cases selected with
  | none => exact .pure _
  | some n =>
    refine .bind (getApp_quiet _).runs.paths fun _ => .ite (fun _ => confirmPairing_quiet.runs.paths)
      fun _ => .ite (fun _ => verifyNotificationContact_paths n) fun _ => ?_
    exact activateSelectedNotification_runs.paths

theorem reconcilePairingNotifications_quiet :
    IsQuiet (reconcilePairingNotifications env : ClientM P Unit) :=
  .bind (getApp_quiet _) fun _ => .ite (fun _ => .pure _) fun _ => .bind (getApp_quiet _) fun _ =>
    .bind newUuid_quiet fun _ => dispatchBackground_quiet _ rfl rfl

theorem completeNotification_quiet (n : Notification) :
    IsQuiet (completeNotification env n : ClientM P Unit) :=
  .bind nowMs_quiet fun _ => execute_some_quiet fun _ => .updateNotificationState _ _ _ _

theorem reconcilePairingNotificationsFromBundle_quiet (bundle : UserBundle) :
    IsQuiet (reconcilePairingNotificationsFromBundle env bundle : ClientM P Unit) := by
  refine .bind (.ofExcept _) fun _ => .bind (getApp_quiet _) fun _ => .bind (.ensure _ _) fun _ =>
    .bind (getApp_quiet _) fun _ => .ite (fun _ => .pure _) fun _ =>
    .bind (.each fun n _ => completeNotification_quiet n) fun _ => .bind (.modify fun w => ?_) fun _ =>
    .bind refreshNotifications_quiet fun _ => setStatus_quiet _
  refine modifyApp_requests rfl rfl rfl rfl rfl (fun r hr => .inl ?_) fun r hr => .inl ?_
  · exact List.mem_append_left _ (List.mem_append_left _ (List.mem_of_mem_filter hr))
  · exact List.mem_append_left _ (List.mem_append_right _ hr)

end TuiChat
