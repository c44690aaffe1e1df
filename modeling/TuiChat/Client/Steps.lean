import TuiChat.Client.Effects

/-!
# The methods, as steps of the view

Every method moves the view along its steps. The methods of `Local` do so quietly; encryption does
too, on a machine of its own that stays derived from the current one (`encryptTargets_derived`);
a method that commits a machine or a profile is a run.
-/

namespace TuiChat

open Lib
open Lib.Prog (Moves wp)
open Relation (ReflTransGen)

variable {P : Primitives} {env : Environment}

/-! ## Contacts, notifications, lookups -/

/-- After `upsert_contact` the account of the bundle has the bundle's key. -/
theorem upsertContact_row (bundle : UserBundle) (w : World P) :
    wp (upsertContact env bundle)
      (fun _ w' => Quiet w w' ∧ w'.view.keyOf bundle.accountId = some bundle.accountMasterKey)
      (fun _ => Quiet w) w := by
  unfold upsertContact
  rw [Prog.wp_bind]
  refine wp_query ?_ fun _ => ticked_quiet w
  rw [Prog.wp_bind]
  have hw : Quiet w w.ticked.ticked := (ticked_quiet w).trans (ticked_quiet _)
  refine wp_executeRecording (fun _ => hw) fun store hs => ?_
  have hput := Store.putContact_eq hs
  have hstep : Quiet w { w.ticked.ticked with
      store, log := [keyWritten w.ticked.ticked.store bundle] ++ w.ticked.ticked.log } := by
    refine hw.trans (Quiet.of_step ?_)
    rw [hput]
    exact .upsert _ bundle fun row hr => Store.upsert_found hs hr
  have hkey : (store.contacts.find bundle.accountId).map (fun row => row.bundle.accountMasterKey) =
      some bundle.accountMasterKey := by
    rw [hput]
    exact congrArg _ (Table.find_put_self (a := upsertRow _ bundle))
  refine (query_still _).wp_bind (fun _ _ h => hstep.trans (Quiet.of_view_eq h)) fun found w' hw' => ?_
  have hq : Quiet w w' := hstep.trans (Quiet.of_view_eq hw')
  refine (Prog.wp_orFail _ _).2 ⟨fun _ _ => ⟨hq, ?_⟩, fun _ => hq⟩
  rw [show w'.view = _ from hw']
  exact hkey

theorem upsertContact_quiet (bundle : UserBundle) :
    IsQuiet (upsertContact env bundle : ClientM P Contact) := .of_wp fun w =>
  (upsertContact_row bundle w).mono (fun _ _ h => h.1) fun _ _ h => h

theorem refreshContactsPreserveSelection_quiet :
    IsQuiet (refreshContactsPreserveSelection env : ClientM P Unit) :=
  .bind (getApp_quiet _) fun _ => loadContactsSelecting_quiet _

theorem refreshNotifications_quiet : IsQuiet (refreshNotifications env : ClientM P Unit) :=
  .bind (getApp_quiet _) fun _ => .of_wp fun w => by
    rw [Prog.wp_bind]
    refine wp_query ((ticked_quiet w).trans (modifyApp_requests rfl rfl rfl rfl rfl (fun r hr => ?_)
      fun r hr => ?_)) fun _ => ticked_quiet w
    · exact .inl (List.mem_append_left _ (List.mem_append_left _ hr))
    · exact .inl (List.mem_append_right _ (Store.mem_noticedRequests_list hr))

theorem notificationByRequestId_quiet (id : String) :
    IsQuiet (notificationByRequestId env id : ClientM P (Option Notification)) := query_quiet _

theorem saveNotification_quiet {n : Notification} (h : n.data.pairingRequest = none) :
    IsQuiet (saveNotification env n : ClientM P Unit) :=
  .bind (execute_quiet fun _ _ hs => .saveNotification h hs) fun _ => refreshNotifications_quiet

/-- What a notification of the store was made of is at hand. -/
theorem notificationByRequestId_known (id : String) (w : World P) :
    wp (notificationByRequestId env id)
      (fun found w' => Still w w' ∧ ∀ n ∈ found, ∀ r, n.data.pairingRequest = some r → r ∈ w.view.known)
      (fun _ => Still w) w :=
  wp_query ⟨rfl, fun _ hn r hr => List.mem_append_right _
    (List.mem_filterMap.2 ⟨_, Table.mem_of_find hn, hr⟩)⟩ fun _ => rfl

/-- A notification of a request that the server sent. -/
theorem saveNotification_requested {n : Notification} {w : World P}
    (h : ∀ r, n.data.pairingRequest = some r → .requested r ∈ w.log) :
    wp (saveNotification env n) (fun _ => Quiet w) (fun _ => Quiet w) w := by
  unfold saveNotification
  rw [Prog.wp_bind]
  refine wp_executeRecording (fun _ => ticked_quiet w) fun store hs => ?_
  obtain ⟨n', hd, rfl⟩ := Store.saveNotification_eq hs
  have hstep : Quiet w { w.ticked with
      store := { w.store with notifications := w.store.notifications.put n' } } := by
    refine Quiet.of_step (.aside _ _ (fun r hr => ?_) fun _ hb => hb)
    rcases List.mem_append.1 hr with hr | hr
    · exact .inl (List.mem_append_left _ hr)
    · exact (Store.mem_noticedRequests_put hr).imp (List.mem_append_right _) fun hr => h r (hd ▸ hr)
  exact (refreshNotifications_quiet.wp _).mono (fun _ _ h => hstep.trans h) fun _ _ h => hstep.trans h

theorem savePairingNotification_quiet {r : PairingRequest} {w : World P} (h : .requested r ∈ w.log) :
    wp (savePairingNotification env r) (fun _ => Quiet w) (fun _ => Quiet w) w := by
  unfold savePairingNotification
  refine wp.orFail .refl fun device hd => ?_
  refine (notificationByRequestId_quiet _).wp_bind (fun _ _ h => h) fun _ w₁ hw₁ => ?_
  refine nowMs_quiet.wp_bind (fun _ _ h => hw₁.trans h) fun _ w₂ hw₂ => ?_
  refine newUuid_quiet.wp_bind (fun _ _ h => (hw₁.trans hw₂).trans h) fun _ w₃ hw₃ => ?_
  have hw : Quiet w w₃ := (hw₁.trans hw₂).trans hw₃
  rw [wp_getApp_bind]
  refine (saveNotification_requested fun r' hr' => ?_).mono (fun _ _ h => hw.trans h)
    fun _ _ h => hw.trans h
  have hr : r' = r := by
    cases hr'
    cases r
    cases hd
    rfl
  exact hr ▸ hw.log.subset h

theorem savePendingPairingNotification_quiet (id device name : String) (key : Bytes) :
    IsQuiet (savePendingPairingNotification env id device name key : ClientM P Unit) :=
  .bind (notificationByRequestId_quiet _) fun _ => .bind nowMs_quiet fun _ =>
    .bind newUuid_quiet fun _ => .bind (getApp_quiet _) fun _ => saveNotification_quiet rfl

theorem saveRequestNotification_quiet (outgoing : Bool) (id : String) (peer : UserBundle)
    (device : String) (read : Bool) :
    IsQuiet (saveRequestNotification env outgoing id peer device read : ClientM P Unit) :=
  .bind (notificationByRequestId_quiet _) fun _ => .bind nowMs_quiet fun _ =>
    .bind newUuid_quiet fun _ => saveNotification_quiet rfl

theorem saveChatResponseNotification_quiet (n : Notification) (accepted read : Bool) :
    IsQuiet (saveChatResponseNotification env n accepted read : ClientM P Unit) :=
  .bind nowMs_quiet fun _ => saveNotification_quiet rfl

theorem markNotificationState_quiet (id : String) (state : NotificationState) (read : Bool) :
    IsQuiet (markNotificationState env id state read : ClientM P Unit) :=
  .bind nowMs_quiet fun _ =>
    .bind (execute_some_quiet fun _ => .updateNotificationState _ _ _ _) fun _ =>
      refreshNotifications_quiet

theorem markNotificationRead_quiet (id : String) :
    IsQuiet (markNotificationRead env id : ClientM P Unit) :=
  .bind nowMs_quiet fun _ =>
    execute_some_quiet fun _ => .markNotificationRead _ _

theorem modifyApp_steady {f : App P → App P} (h : ∀ app, App.SameView app (f app)) :
    IsSteady (modifyApp f) := fun w =>
  ⟨modifyApp_quiet h w, (h w.app).contacts, (h w.app).selected⟩

theorem cacheBundle_steady (bundle : UserBundle) :
    IsSteady (cacheBundle env bundle : ClientM P Unit) :=
  .bind instantNow_still.steady fun _ =>
    modifyApp_steady fun _ => ⟨rfl, rfl, rfl, rfl, rfl, rfl, rfl⟩

theorem cacheBundle_quiet (bundle : UserBundle) :
    IsQuiet (cacheBundle env bundle : ClientM P Unit) := (cacheBundle_steady bundle).quiet_of_steady

theorem lookupBundleFresh_steady (username : String) :
    IsSteady (lookupBundleFresh env username : ClientM P UserBundle) :=
  .bind (request_steady rfl) fun _ => .bind (.orFail _ _) fun _ =>
    .bind (cacheBundle_steady _) fun _ => .pure _

theorem lookupBundleFresh_quiet (username : String) :
    IsQuiet (lookupBundleFresh env username : ClientM P UserBundle) :=
  (lookupBundleFresh_steady username).quiet_of_steady

theorem lookupBundle_steady (username : String) :
    IsSteady (lookupBundle env username : ClientM P UserBundle) :=
  .bind (getApp_still _).steady fun cached => by
    cases cached with
    | none => exact lookupBundleFresh_steady username
    | some entry =>
      exact .bind instantNow_still.steady fun _ =>
        .ite (fun _ => .pure _) fun _ => lookupBundleFresh_steady username

theorem lookupBundle_quiet (username : String) :
    IsQuiet (lookupBundle env username : ClientM P UserBundle) :=
  (lookupBundle_steady username).quiet_of_steady

/-! ## Encryption -/

/-- Encryption for a device makes one step of the machine, and keeps machine and session bound where
the device's key is the one of its id. -/
theorem encryptOlm_step (m : OlmMachine P.olm) (d : DeviceBundle) (account : String) (p : Bytes)
    (w : World P) : wp (encryptOlm env m d account p)
      (fun r w' => Steady w w' ∧ MachineStep m (.encrypted d.deviceId p r.1) r.2 ∧
        (P.olm.Bound → ∀ id key, (d.deviceId = id → d.olmCurve25519Key = key) →
          m.BoundTo id key → r.2.BoundTo id key ∧
            (d.deviceId = id → r.2.newestKey d.deviceId = some key)))
      (fun _ w' => Steady w w') w := by
  unfold encryptOlm
  split
  · refine draw_still.steady.wp_bind (fun _ _ h => h) fun n w' hw => ?_
    rw [Prog.wp_ofExcept]
    exact ⟨fun r hr => ⟨hw, .encryptExisting hr, fun hO id key _ hm => hm.encryptExisting hO hr⟩,
      fun _ _ => hw⟩
  · refine (request_steady rfl).wp_bind (fun _ _ h => h) fun response w' hw => ?_
    refine wp.orFail hw fun bundle _ => wp.orFail hw fun claimed _ => wp.orFail hw fun key _ => ?_
    refine wp.ensure hw fun _ => wp.ofExcept (fun _ => hw) fun _ _ => ?_
    refine wp.ensure hw fun _ => wp.ensure hw fun _ => ?_
    refine draw_still.steady.wp_bind (fun _ _ h => hw.trans h) fun n w'' hw' => ?_
    rw [Prog.wp_ofExcept]
    exact ⟨fun r hr => ⟨hw.trans hw', .encrypt hr, fun hO id key hk hm => hm.encrypt hO hk hr⟩,
      fun _ _ => hw.trans hw'⟩

/-- A ciphertext made with a machine derived from the current one. -/
theorem encryptFor_derived (m : OlmMachine P.olm) (d : DeviceBundle) (account : String) (p : Bytes)
    (w : World P) {ops : List MachineOp} (hm : Derived w.log ops w.app.profile.machine m) :
    wp (encryptFor env m d account p)
      (fun r w' => Steady w w' ∧
        Derived w'.log (ops ++ [.encrypted d.deviceId p r.1]) w.app.profile.machine r.2)
      (fun _ w' => Steady w w') w := by
  unfold encryptFor
  refine (encryptOlm_step m d account p w).bind fun r w' ⟨hw, hstep, hr⟩ => ?_
  have hlogged : Steady w' { w' with log := .encrypted d (r.2.newestKey d.deviceId) :: w'.log } := by
    refine ⟨Quiet.of_step (.encrypted d _ fun hO hu hb => ?_), rfl, rfl⟩
    have hb' : w.app.profile.machine.BoundTo d.deviceId d.olmCurve25519Key := hw.1.same.1 ▸ hb
    exact (hr hO _ _ (fun _ => rfl) (hm.bound hO _ _ (hu.of_suffix hw.1.log) hb')).2 rfl
  refine ⟨hw.trans hlogged, .tail hm.line hstep, fun hO id key hu hb => ?_⟩
  have hold : Uses id key w.log := hu.of_suffix (hw.1.log.trans (List.suffix_cons _ _))
  exact (hr hO id key (hu d (.inr ⟨_, List.mem_cons_self⟩)) (hm.bound hO id key hold hb)).1

/-- The ciphertexts of a message: the machine has made them, one after the other, and nothing else. -/
theorem encryptTargets_derived (o : Outgoing) : ∀ (targets : List Target) (m : OlmMachine P.olm)
    (w : World P) (ops : List MachineOp), Derived w.log ops w.app.profile.machine m →
      wp (encryptTargets env o m targets)
        (fun r w' => Steady w w' ∧ ∃ made, List.Forall₂ Seals made r.1 ∧
          Derived w'.log (ops ++ made) w.app.profile.machine r.2)
        (fun _ w' => Steady w w') w
  | [], m, w, ops, hm => ⟨refl_of Steady w, [], .nil, by rwa [List.append_nil]⟩
  | t :: ts, m, w, ops, hm => by
    have hrefl : Steady w w := refl_of Steady w
    unfold encryptTargets
    refine wp.ofExcept (fun _ => hrefl) fun _ _ => ?_
    refine (encryptFor_derived m t.device t.accountId o.payload w hm).bind fun r w₁ ⟨hw₁, hr⟩ => ?_
    refine newUuid_still.steady.wp_bind (fun _ _ h => hw₁.trans h) fun _ w₂ hw₂ => ?_
    have hw : Steady w w₂ := hw₁.trans hw₂
    have hr₂ : Derived w₂.log (ops ++ [.encrypted t.device.deviceId o.payload r.1])
        w₂.app.profile.machine r.2 := by
      rw [hw.1.same.1]
      exact hr.of_suffix hw₂.1.log
    refine (encryptTargets_derived o ts r.2 w₂ _ hr₂).mono (fun r' w₃ ⟨hw₃, made, hmade, hr₃⟩ => ?_)
      (fun _ _ h => hw.trans h) |>.bind fun r' w₃ h => h
    refine ⟨hw.trans hw₃, .encrypted t.device.deviceId o.payload r.1 :: made, ?_, ?_⟩
    · exact .cons ⟨o.payload, rfl⟩ hmade
    · rw [hw.1.same.1, List.append_assoc] at hr₃
      exact hr₃

/-! ## Committing a machine -/

/-- The state after a transaction with a new machine. -/
def World.committedWith (w : World P) (store : Store P) (events : List Event)
    (m : OlmMachine P.olm) : World P :=
  { w with
    store
    log := events ++ w.log
    app := { w.app with profile := { w.app.profile with machine := m } } }

/-- The two ends of `commitMachine`: after a failure the machine is what it was. -/
theorem wp_commitMachine {m : OlmMachine P.olm} {f : RuntimeProfile P → World P → Option (Store P)}
    {events : World P → List Event} {Q : Unit → World P → Prop} {E : Error → World P → Prop}
    {w : World P} (hE : ∀ e, E e w.ticked)
    (hQ : ∀ store, f { w.app.profile with machine := m } (w.withMachine m).ticked = some store →
      Q () (w.ticked.committedWith store (events (w.withMachine m).ticked) m)) :
    wp (commitMachine env m f events) Q E w := by
  unfold commitMachine currentMachine
  rw [wp_getApp_bind, Prog.wp_bind, Prog.wp_modify, wp_getApp_bind, Prog.wp_onError]
  exact wp_executeRecording hE hQ

/-- A commit of envelopes: the machine that made them and their frame are stored, and then the
tables change by quiet steps. -/
theorem committedWith_runs {w : World P} {store : Store P} {m : OlmMachine P.olm}
    {ops : List MachineOp} {message : SendEnvelopes} {queued : List (Option Body)}
    (hm : Derived w.log ops w.app.profile.machine m) (hs : List.Forall₂ Seals ops message.envelopes)
    (outbox : queued ⊆ some (.sendEnvelopes message) :: w.view.queued)
    (present : some (.sendEnvelopes message) ∈ queued)
    (hq : ReflTransGen QuietStep { w.view.withMachine m with queued, log := .queued message :: w.log }
      (w.committedWith store [.queued message] m).view) :
    Runs w (w.committedWith store [.queued message] m) :=
  (ReflTransGen.single (.outgoing m ops message queued hm hs outbox present)).trans
    (ReflTransGen.mono (fun _ _ h => .quiet h) _ _ hq)

/-- The two ends of handing over a frame that waits for an answer. -/
theorem wp_dispatchBackground {f : Frame} {operation : BackgroundRequest} {w : World P} :
    wp (dispatchBackground env f operation)
      (fun _ w' => ∃ f', f'.body = f.body ∧ w'.view = { w.view with sent := w.sent ++ [f'] })
      (fun _ => Still w) w := by
  unfold dispatchBackground
  rw [wp_getApp_bind]
  refine newUuid_still.wp_bind (fun _ _ h => h) fun fresh w₁ hw₁ => ?_
  rw [Prog.wp_bind]
  refine wp_sendFrame ?_ fun _ => hw₁
  generalize (decide (f.id = "") || (w.app.backgroundRequests.find f.id).isSome) = taken
  refine ⟨if taken then { f with id := fresh } else f, by split <;> rfl, ?_⟩
  have hsent : w₁.sent = w.sent := congrArg View.sent (show w₁.view = w.view from hw₁)
  show ({ w₁.view with sent := w₁.sent ++ [_] } : View P) = _
  rw [hsent, show w₁.view = w.view from hw₁]

/-- A frame that the client may send. -/
theorem dispatchBackground_allowed {f : Frame} {operation : BackgroundRequest} {w : World P}
    (h : f.body ∈ w.view.queued ∨ w.view.Allows f.body) :
    wp (dispatchBackground env f operation) (fun _ => Quiet w) (fun _ => Quiet w) w :=
  wp_dispatchBackground.mono (fun _ w' ⟨f', hb, hw'⟩ => by
    unfold Quiet
    rw [hw']
    exact .single (.sent f' (hb ▸ h))) fun _ _ => Quiet.of_view_eq

theorem dispatchBackground_quiet {f : Frame} {body : Body} (operation : BackgroundRequest)
    (hf : f.body = some body) (h : body.plain = true) :
    IsQuiet (dispatchBackground env f operation : ClientM P Unit) := .of_wp fun _ =>
  dispatchBackground_allowed (.inr (hf ▸ View.allows_plain h))

/-- The outbox after a frame was put into it. -/
theorem putOutbox_queued {s : Store P} {id : String} {f : Frame} {now : Int} :
    let queued := (s.putOutbox id f now).outbox.rows.map fun row => row.encodedFrame.body
    queued ⊆ f.body :: s.outbox.rows.map (fun row => row.encodedFrame.body) ∧ f.body ∈ queued := by
  refine ⟨fun body hb => ?_, ?_⟩
  · obtain ⟨row, hrow, rfl⟩ := List.mem_map.1 hb
    rcases Table.mem_put.1 hrow with rfl | ⟨hrow, -⟩
    · exact List.mem_cons_self
    · exact List.mem_cons_of_mem _ (List.mem_map_of_mem hrow)
  · exact List.mem_map.2 ⟨_, Table.mem_put.2 (.inl rfl), rfl⟩

/-- Queueing envelopes made with a machine derived from the current one. -/
theorem queueControl_runs {id : String} {envelopes : List EncryptedEnvelope} {m : OlmMachine P.olm}
    {w : World P} {ops : List MachineOp} (hs : List.Forall₂ Seals ops envelopes)
    (hm : Derived w.log ops w.app.profile.machine m) :
    wp (queueControl env id envelopes m) (fun _ => Runs w) (fun _ => Runs w) w := by
  unfold queueControl
  refine newUuid_quiet.wp_bind (fun _ _ h => h.runs) fun frameId w₁ hw₁ => ?_
  refine nowMs_quiet.wp_bind (fun _ _ h => (hw₁.trans h).runs) fun now w₂ hw₂ => ?_
  have hw : Quiet w w₂.ticked := (hw₁.trans hw₂).trans (ticked_quiet w₂)
  rw [Prog.wp_bind]
  refine wp_commitMachine (fun _ => hw.runs) fun store hstore => ?_
  obtain ⟨hsub, hmem⟩ := @putOutbox_queued _ w₂.store id (frame frameId (.sendEnvelopes { envelopes })) now
  have hc : Runs w₂.ticked (w₂.ticked.committedWith store [.queued { envelopes }] m) := by
    cases hstore
    exact committedWith_runs (hw.derived hm) hs hsub hmem .refl
  replace hc := hw.runs.trans hc
  have hmem : some (.sendEnvelopes { envelopes }) ∈
      (w₂.ticked.committedWith store [.queued { envelopes }] m).view.queued := by
    cases hstore
    exact hmem
  exact (dispatchBackground_allowed (.inl hmem)).mono (fun _ _ h => hc.trans h.runs)
    fun _ _ h => hc.trans h.runs

/-- Encrypting on the current machine, before what is a run on the machine derived from it. -/
theorem wp_encryptThen {o : Outgoing} {targets : List Target} {α : Type}
    {k : List EncryptedEnvelope × OlmMachine P.olm → ClientM P α} {w : World P}
    (hk : ∀ r w' ops, Steady w w' → List.Forall₂ Seals ops r.1 →
      Derived w'.log ops w'.app.profile.machine r.2 →
        wp (k r) (fun _ => Runs w') (fun _ => Runs w') w') :
    wp (currentMachine >>= fun machine => encryptTargets env o machine targets >>= k)
      (fun _ => Runs w) (fun _ => Runs w) w := by
  show wp (encryptTargets env o w.app.profile.machine targets >>= k) _ _ w
  rw [Prog.wp_bind]
  refine (encryptTargets_derived o targets _ w [] (.refl w.log _)).mono
    (fun r w' ⟨hw, ops, hs, hr⟩ => ?_) fun _ _ h => h.1.runs
  have hr' : Derived w'.log ops w'.app.profile.machine r.2 := by
    rw [hw.1.same.1]
    exact hr
  exact (hk r w' ops hw hs hr').mono (fun _ _ h => hw.1.runs.trans h) fun _ _ h => hw.1.runs.trans h

theorem encryptThen_runs {o : Outgoing} {targets : List Target} {α : Type}
    {k : List EncryptedEnvelope × OlmMachine P.olm → ClientM P α}
    (hk : ∀ r w ops, List.Forall₂ Seals ops r.1 → Derived w.log ops w.app.profile.machine r.2 →
      wp (k r) (fun _ => Runs w) (fun _ => Runs w) w) :
    IsRun (currentMachine >>= fun machine => encryptTargets env o machine targets >>= k) :=
  .of_wp fun _ => wp_encryptThen fun r w' ops _ => hk r w' ops

/-- More ciphertexts on a derived machine. -/
theorem encryptMore_derived (o : Outgoing) (targets : List Target) {m : OlmMachine P.olm}
    {w : World P} {ops : List MachineOp} {es : List EncryptedEnvelope}
    (hs : List.Forall₂ Seals ops es) (hm : Derived w.log ops w.app.profile.machine m) :
    wp (encryptTargets env o m targets)
      (fun r w' => Quiet w w' ∧ ∃ ops', List.Forall₂ Seals ops' (es ++ r.1) ∧
        Derived w'.log ops' w'.app.profile.machine r.2)
      (fun _ w' => Quiet w w') w :=
  (encryptTargets_derived o targets m w ops hm).mono
    (fun _ _ ⟨hw, _, hmade, hr⟩ => ⟨hw.1, _, List.rel_append hs hmade, hw.1.same.1 ▸ hr⟩)
    fun _ _ h => h.1

theorem lookupValidBundle_quiet (username : String) :
    IsQuiet (lookupValidBundle env username : ClientM P UserBundle) :=
  .bind (lookupBundleFresh_quiet _) fun _ => .bind (.ofExcept _) fun _ => .pure _

theorem ownBundle_steady {lookup : String → ClientM P UserBundle} (h : ∀ u, IsSteady (lookup u)) :
    IsSteady (ownBundle lookup) :=
  .bind (getApp_still _).steady fun _ => .bind (h _) fun _ => .bind (.ensure _ _) fun _ => .pure _

theorem ownBundle_quiet {lookup : String → ClientM P UserBundle} (h : ∀ u, IsQuiet (lookup u)) :
    IsQuiet (ownBundle lookup) :=
  .bind (getApp_quiet _) fun _ => .bind (h _) fun _ => .bind (.ensure _ _) fun _ => .pure _

theorem sendReadReceipts_runs (recipient : UserBundle) (ids : List String) :
    IsRun (sendReadReceipts env recipient ids : ClientM P Unit) :=
  .bind (.ensure _ _) fun _ => .bind newUuid_quiet.runs fun _ => .bind (getApp_quiet _).runs fun _ =>
    .bind nowMs_quiet.runs fun _ => encryptThen_runs fun _ _ _ hs hr => queueControl_runs hs hr

theorem sendChatRequest_runs (recipient : UserBundle) :
    IsRun (sendChatRequest env recipient : ClientM P Unit) := by
  refine .bind (getApp_quiet _).runs fun pending => .ite (fun _ => (setStatus_quiet _).runs) fun _ => ?_
  refine .bind (.ofExcept _) fun _ => .bind (ownBundle_quiet lookupValidBundle_quiet).runs fun _ => ?_
  refine .bind newUuid_quiet.runs fun _ => .bind nowMs_quiet.runs fun _ => ?_
  refine .bind (getApp_quiet _).runs fun profile => encryptThen_runs fun r w ops hs hr => ?_
  refine wp.ensure .refl fun _ => ?_
  refine ((encryptMore_derived _ _ hs hr).mono (fun _ _ h => h) fun _ _ h => h.runs).bind
    fun r' w₁ ⟨hw₁, ops', hs', hr'⟩ => ?_
  refine (saveRequestNotification_quiet _ _ _ _ _).wp_bind
    (fun _ _ h => (hw₁.trans h).runs) fun _ w₂ hw₂ => ?_
  have hr₂ : Derived w₂.log ops' w₂.app.profile.machine r'.2 := hw₂.derived hr'
  have hw : Runs w w₂ := (hw₁.trans hw₂).runs
  refine ((queueControl_runs hs' hr₂).mono (fun _ _ h => hw.trans h) fun _ _ h => hw.trans h).bind
    fun _ w₃ hw₃ => ?_
  exact ((setStatus_quiet _).wp _).mono (fun _ _ h => hw₃.trans h.runs) fun _ _ h => hw₃.trans h.runs

theorem sendChatDecision_runs (recipient : UserBundle) (requestId : String) (accepted : Bool) :
    IsRun (sendChatDecision env recipient requestId accepted : ClientM P Unit) := by
  refine .bind (.ofExcept _) fun _ => .bind (ownBundle_quiet lookupValidBundle_quiet).runs fun _ => ?_
  refine .bind newUuid_quiet.runs fun _ => .bind nowMs_quiet.runs fun _ => ?_
  refine .bind (getApp_quiet _).runs fun profile => encryptThen_runs fun r w ops hs hr => ?_
  refine wp.ensure .refl fun _ => ?_
  refine ((encryptMore_derived _ _ hs hr).mono (fun _ _ h => h) fun _ _ h => h.runs).bind
    fun r' w₁ ⟨hw₁, ops', hs', hr'⟩ => ?_
  exact (queueControl_runs hs' hr').mono (fun _ _ h => hw₁.runs.trans h) fun _ _ h => hw₁.runs.trans h

theorem sendConversationDeletion_runs (targets : List Target) (t : ConversationTombstone) :
    IsRun (sendConversationDeletion env targets t : ClientM P Unit) := by
  refine .bind (query_quiet _).runs fun queued => .ite (fun _ => .pure _) fun _ => ?_
  refine .ite (fun _ => Moves.runs ?_) fun _ => ?_
  · exact execute_some_quiet fun _ => .others ..
  exact .bind (getApp_quiet _).runs fun _ => .bind (.ensure _ _) fun _ =>
    encryptThen_runs fun _ _ _ hs hr => queueControl_runs hs hr

theorem syncPendingConversationDeletions_runs :
    IsRun (syncPendingConversationDeletions env : ClientM P Unit) := by
  refine .bind (getApp_quiet _).runs fun idle => .ite (fun _ => .pure _) fun _ => ?_
  refine .bind (query_quiet _).runs fun tombstones => .ite (fun _ => .pure _) fun _ => ?_
  refine .bind (getApp_quiet _).runs fun _ => .bind (lookupBundleFresh_quiet _).runs fun _ => ?_
  refine .bind (.ofExcept _) fun _ => .bind (.ensure _ _) fun _ => ?_
  exact .each fun t _ => sendConversationDeletion_runs _ t

theorem sync_quiet : IsQuiet (sync env : ClientM P Unit) := by
  refine .bind (getApp_quiet _) fun _ => .bind (.ensure _ _) fun _ => .bind (getApp_quiet _) fun _ => ?_
  refine .ite (fun _ => setStatus_quiet _) fun _ => .of_wp fun w => ?_
  rw [Prog.wp_bind]
  refine wp_query ?_ fun _ => ticked_quiet w
  refine newUuid_still.wp_bind (fun _ _ h => Quiet.of_view_eq h) fun id w₁ hw₁ => ?_
  have hw : Quiet w w₁ := Quiet.of_view_eq hw₁
  -- The cursor asked for is the stored one.
  have hallowed : w₁.view.Allows (some (.syncRequest
      { afterCursor := w.store.envelopeCursor
        limit := 100
        afterStatusCursor := w.store.statusCursor })) :=
    (congrArg View.cursor hw₁).ge
  refine ((dispatchBackground_allowed (.inr hallowed)).mono (fun _ _ h => h)
    fun _ _ h => hw.trans h).bind fun _ w₂ hw₂ => ?_
  refine (Moves.wp (R := Quiet) ?_ w₂).mono (fun _ _ h => (hw.trans hw₂).trans h)
    fun _ _ h => (hw.trans hw₂).trans h
  exact .bind (modifyApp_quiet fun _ => ⟨rfl, rfl, rfl, rfl, rfl, rfl, rfl⟩) fun _ => setStatus_quiet _

/-- A frame of the outbox is handed over, and the outbox stays. -/
theorem resend_quiet {item : String × Frame} {w : World P} (h : item.2.body ∈ w.view.queued) :
    wp (resend env item) (fun _ w' => Quiet w w' ∧ w'.view.queued = w.view.queued)
      (fun _ => Quiet w) w := by
  unfold resend
  rw [wp_getApp_bind]
  split
  · exact ⟨.refl, rfl⟩
  rw [Prog.wp_bind, Prog.wp_succeeds]
  refine wp.ensure ⟨Quiet.of_view_eq rfl, rfl⟩ fun _ => ?_
  refine wp_dispatchBackground.mono (fun _ w' hsent => ?_) fun _ w' hw' => ?_
  · obtain ⟨f', hb, hw'⟩ := hsent
    constructor
    · unfold Quiet
      rw [hw']
      exact .single (.sent f' (.inl (hb ▸ h)))
    · rw [hw']
  · exact ⟨Quiet.of_view_eq hw', congrArg View.queued (show w'.view = w.view from hw')⟩

theorem resendOutbox_quiet : IsQuiet (resendOutbox env : ClientM P Unit) := by
  refine .bind (.succeeds (attempt_quiet _)) fun _ => .ite (fun _ => .of_wp fun w => ?_) fun _ => .pure _
  rw [Prog.wp_bind, Prog.wp_gets]
  refine instantNow_still.wp_bind (fun _ _ h => Quiet.of_view_eq h) fun now w₁ hw₁ => ?_
  rw [Prog.wp_bind]
  have hview : w₁.view = w.view := hw₁
  refine (Prog.wp_each (I := fun w' => Quiet w w' ∧ w'.view.queued = w.view.queued)
    (fun item hitem w' ⟨hw', hq⟩ => ?_) ⟨?_, ?_⟩).mono (fun _ _ h => h.1) fun _ _ h => h
  · have hmem : item.2.body ∈ w'.view.queued := by
      rw [hq]
      obtain ⟨row, hrow, rfl⟩ := List.mem_map.1 hitem
      exact List.mem_map_of_mem ((List.mem_insertionSort _).1 hrow)
    exact (resend_quiet hmem).mono (fun _ _ h => ⟨hw'.trans h.1, h.2.trans hq⟩)
      fun _ _ h => hw'.trans h
  · exact Quiet.of_view_eq hw₁
  · exact congrArg View.queued hview

/-! ## Contacts and conversations -/

theorem displayCode_quiet {contact : Contact} {f : String → ClientM P Unit} {otherwise : ClientM P Unit}
    {w : World P} (hc : contact ∈ w.app.contacts) (hf : ∀ code, IsQuiet (f code))
    (ho : IsQuiet otherwise) :
    wp (displayCode contact f otherwise) (fun _ => Quiet w) (fun _ => Quiet w) w := by
  unfold displayCode
  rw [wp_getApp_bind]
  cases safetyCodeForContact w.app.profile contact with
  | none => exact ho.wp w
  | some code =>
    rw [wp_record_bind]
    have hd : Quiet w { w with
        log := .displayed contact.bundle.accountId contact.bundle.accountMasterKey :: w.log } :=
      Quiet.of_step (.displayed contact hc)
    exact ((hf code).wp _).mono (fun _ _ h => hd.trans h) fun _ _ h => hd.trans h

theorem App.selectedContact_mem {app : App P} {c : Contact} (h : app.selectedContact = some c) :
    c ∈ app.contacts := by
  obtain ⟨i, -, hi⟩ := Option.bind_eq_some_iff.1 h
  exact List.mem_of_getElem? hi

theorem showSafetyCode_quiet : IsQuiet (showSafetyCode : ClientM P Unit) := .of_wp fun w => by
  unfold showSafetyCode
  rw [wp_getApp_bind]
  cases hc : w.app.selectedContact with
  | none => exact Quiet.rfl
  | some contact =>
    exact displayCode_quiet (App.selectedContact_mem hc) (fun _ => setStatus_quiet _)
      (setStatus_quiet _)

theorem renderNotificationDetail_quiet : IsQuiet (renderNotificationDetail : ClientM P Unit) := by
  refine .bind (getApp_quiet _) fun notification => ?_
  cases notification with
  | none => exact .pure _
  | some n =>
    refine .ite (fun _ => .of_wp fun w => ?_) fun _ => .pure _
    rw [wp_getApp_bind]
    cases hc : w.app.actorContact n with
    | none => exact Quiet.rfl
    | some contact =>
      exact displayCode_quiet (List.mem_of_find?_eq_some hc) (fun _ => .pure _) (.pure _)

/-- Changing a message in memory leaves what the change leaves of every message. -/
theorem map_modifyFirst {β : Type} {g : ChatMessage → β} {p : ChatMessage → Bool} {f : ChatMessage → ChatMessage}
    (hf : ∀ m, g (f m) = g m) : ∀ ms : List ChatMessage, (modifyFirst p f ms).map g = ms.map g
  | [] => rfl
  | m :: ms => by
    unfold modifyFirst
    split
    · simp [hf]
    · simp [map_modifyFirst hf ms]

theorem setLoadedStatus_quiet (p : ChatMessage → Bool) (status : MessageStatus) :
    IsQuiet (setLoadedStatus p status : ClientM P Unit) :=
  modifyApp_quiet fun _ =>
    ⟨rfl, rfl, rfl, rfl, rfl, rfl, map_modifyFirst (by exact fun _ => rfl) _⟩

/-- Other messages come into memory, all of them of the selected conversation. -/
theorem modifyApp_shown {w : World P} {app : App P} (hp : app.profile = w.app.profile)
    (hc : app.contacts = w.app.contacts) (hs : app.pairing = w.app.pairing)
    (hi : app.selected = w.app.selected) (hr : app.pairingRequests = w.app.pairingRequests)
    (hn : app.notifications = w.app.notifications)
    (hm : ∀ m ∈ app.messages, m ∈ w.app.messages ∨ w.view.Selects m.conversationId) :
    Quiet w { w with app } := by
  have hstep := QuietStep.shown (v := w.view) (app.messages.map ChatMessage.conversationId)
    fun c hcm => by
      obtain ⟨m, hmem, rfl⟩ := List.mem_map.1 hcm
      exact (hm m hmem).imp_left List.mem_map_of_mem
  refine Quiet.of_step ?_
  simpa [World.view, hp, hc, hs, hi, hr, hn] using hstep

/-- The conversation is cleared when no contact is selected. -/
theorem clearConversation_quiet {w : World P} (h : w.app.selectedContact = none) :
    wp clearConversation (fun _ => Quiet w) (fun _ => Quiet w) w := by
  have haccount : w.view.selectedAccount = none := congrArg (Option.map _) h
  have hshown := QuietStep.shown (v := w.view) [] fun _ hm => nomatch hm
  have hopened := QuietStep.opened (v := { w.view with shown := [] }) fun _ hm => nomatch hm
  rw [show ({ w.view with shown := [] } : View P).selectedAccount = none from haccount] at hopened
  exact (Relation.ReflTransGen.single hshown).tail hopened

theorem saveCurrentDraft_quiet : IsQuiet (saveCurrentDraft env : ClientM P Unit) := by
  refine .bind (getApp_quiet _) fun selected => .bind (getApp_quiet _) fun editor => ?_
  cases selected with
  | none => exact .pure _
  | some contact =>
    refine .ite (fun _ => .pure _) fun _ => .bind (getApp_quiet _) fun _ => ?_
    exact .bind (execute_some_quiet fun _ => .saveDraft _ _) fun _ =>
      modifyApp_quiet fun _ => ⟨rfl, rfl, rfl, rfl, rfl, rfl, rfl⟩

theorem autosaveDraft_quiet : IsQuiet (autosaveDraft env : ClientM P Unit) :=
  .bind (getApp_quiet _) fun _ => .ite (fun _ => .pure _) fun _ => saveCurrentDraft_quiet

theorem markRead_quiet (id : String) : IsQuiet (markRead env id : ClientM P Unit) :=
  .bind (executeRaise_quiet id .readHere (fun _ => true) nofun) fun _ => setLoadedStatus_quiet _ _

theorem markSelectedRead_runs : IsRun (markSelectedRead env : ClientM P Unit) := by
  refine .bind (getApp_quiet _).runs fun selected => ?_
  cases selected with
  | none => exact .pure _
  | some contact =>
    refine .bind (getApp_quiet _).runs fun idle => .ite (fun _ => .pure _) fun _ => ?_
    refine .bind (getApp_quiet _).runs fun unread => ?_
    refine .bind (.each fun batch _ => ?_) fun _ => refreshContactsPreserveSelection_quiet.runs
    exact .bind (sendReadReceipts_runs _ _) fun _ => .each fun id _ => (markRead_quiet id).runs

/-- The conversation with the selected contact. -/
theorem selects_selectedContact {w : World P} {contact : Contact}
    (h : w.app.selectedContact = some contact) :
    w.view.Selects (w.conversationWith contact.bundle.accountId) :=
  ⟨_, congrArg (Option.map _) h, rfl⟩

theorem Store.mem_messagesOf {s : Store P} {conversation : String} {m : ChatMessage}
    (h : m ∈ s.messagesOf conversation) : m.conversationId = conversation :=
  of_decide_eq_true (List.mem_filter.1 ((List.mem_insertionSort _).1 (List.mem_of_mem_drop h))).2

theorem Store.mem_messagesBefore {s : Store P} {conversation id : String} {sentAtMs : Int}
    {m : ChatMessage} (h : m ∈ s.messagesBefore conversation sentAtMs id) :
    m.conversationId = conversation :=
  of_decide_eq_true (Bool.and_eq_true_iff.1
    (List.mem_filter.1 ((List.mem_insertionSort _).1 (List.mem_of_mem_drop h))).2).1

/-- With the messages of the selected conversation in memory, its draft is loaded. -/
theorem loadDraft_runs {w : World P} {contact : Contact} {conversation : String}
    (hc : w.app.selectedContact = some contact) (hs : ∀ c ∈ w.view.shown, w.view.Selects c) :
    wp (do
        let draft ← query env fun s => s.loadDraft conversation
        modifyApp fun app => { app with persistedDraft := draft, editor := draft }
        record (.opened (some contact.bundle.accountId))
        markSelectedRead env) (fun _ => Runs w) (fun _ => Runs w) w := by
  rw [Prog.wp_bind]
  refine wp_query ?_ fun _ => (ticked_quiet w).runs
  rw [wp_modifyApp_bind, wp_record_bind]
  have hopened : QuietStep w.view
      { w.view with log := .opened (some contact.bundle.accountId) :: w.log } := by
    have h := QuietStep.opened (v := w.view) hs
    rw [show w.view.selectedAccount = _ from congrArg (Option.map _) hc] at h
    exact h
  exact Runs.wp_of (Quiet.runs (.single hopened)) (markSelectedRead_runs.wp _)

theorem loadSelectedMessages_runs : IsRun (loadSelectedMessages env : ClientM P Unit) :=
  .of_wp fun w => by
    unfold loadSelectedMessages
    rw [wp_getApp_bind]
    cases hc : w.app.selectedContact with
    | none => exact (clearConversation_quiet hc).mono (fun _ _ h => h.runs) fun _ _ h => h.runs
    | some contact =>
      have hselects := selects_selectedContact hc
      rw [wp_getApp_bind, Prog.wp_bind]
      refine wp_query ?_ fun _ => (ticked_quiet w).runs
      rw [wp_modifyApp_bind]
      have hmessages : ∀ m ∈ w.store.messagesOf (w.conversationWith contact.bundle.accountId),
          w.view.Selects m.conversationId := fun m hm => by
        rw [Store.mem_messagesOf hm]
        exact hselects
      refine Runs.wp_of (Quiet.runs ?_) (loadDraft_runs hc fun c hcm => ?_)
      · exact (ticked_quiet w).trans
          (modifyApp_shown rfl rfl rfl rfl rfl rfl fun m hm => .inr (hmessages m hm))
      · obtain ⟨m, hm, rfl⟩ := List.mem_map.1 hcm
        exact hmessages m hm

theorem loadOlderMessages_quiet : IsQuiet (loadOlderMessages env : ClientM P Unit) := .of_wp fun w => by
  unfold loadOlderMessages
  rw [wp_getApp_bind, wp_getApp_bind, wp_getApp_bind]
  split
  · next contact oldest hc ho =>
    split
    · exact Quiet.rfl
    rw [wp_getApp_bind, Prog.wp_bind]
    refine wp_query ?_ fun _ => ticked_quiet w
    refine (ticked_quiet w).trans (modifyApp_shown rfl rfl rfl rfl rfl rfl fun m hm => ?_)
    refine (List.mem_append.1 hm).symm.imp_right fun hm => ?_
    rw [Store.mem_messagesBefore hm]
    exact selects_selectedContact hc
  · exact Quiet.rfl

theorem openContact_runs (username : String) : IsRun (openContact env username : ClientM P Unit) := by
  refine .bind saveCurrentDraft_quiet.runs fun _ => .bind (request_quiet rfl).runs fun _ => ?_
  refine .bind (.orFail _ _) fun bundle => .bind (cacheBundle_quiet _).runs fun _ => ?_
  refine .bind (.ofExcept _) fun _ => .bind (upsertContact_quiet _).runs fun contact => ?_
  extract_lets jp
  have hjp : ∀ u, IsRun (jp u) := fun _ =>
    .bind (loadContactsSelecting_quiet _).runs fun _ => .bind loadSelectedMessages_runs fun _ =>
      showSafetyCode_quiet.runs
  exact .ite (fun _ => .bind (sendChatRequest_runs _) hjp) fun _ => hjp ()

theorem verifyAccount_quiet (account : String) :
    IsQuiet (verifyAccount env account : ClientM P Unit) := by
  refine .bind (execute_verifyContact_quiet account) fun _ => ?_
  · refine .modify fun w => Quiet.of_step (.flags _ ?_)
    rw [List.map_map]
    refine List.map_congr_left fun c _ => ?_
    show (if _ then _ else c).bundle = c.bundle
    split <;> rfl

theorem verifySelected_quiet : IsQuiet (verifySelected env : ClientM P Unit) := by
  refine .bind (getApp_quiet _) fun selected => .bind (.orFail _ _) fun contact => ?_
  refine .bind (getApp_quiet _) fun pending => .bind (.ensure _ _) fun _ => ?_
  refine .bind (verifyAccount_quiet _) fun _ => .bind (getApp_quiet _) fun response => ?_
  have hjp : IsQuiet (setStatus "联系人密钥已在本机标记为已核验；请确保你确实通过可信渠道比较过安全码" >>=
      fun _ => sync env : ClientM P Unit) := .bind (setStatus_quiet _) fun _ => sync_quiet
  cases response with
  | none => exact hjp
  | some n => exact .bind (markNotificationState_quiet _ _ _) fun _ => hjp

theorem showCodeIfUnverified_quiet : IsQuiet (showCodeIfUnverified : ClientM P Unit) := by
  refine .bind (getApp_quiet _) fun selected => ?_
  cases selected with
  | none => exact .pure _
  | some contact => exact .ite (fun _ => showSafetyCode_quiet) fun _ => .pure _

theorem Lib.Prog.Moves.paths {α : Type} {m : ClientM P α} (h : IsRun m) : Moves Paths m :=
  h.mono fun _ _ => Runs.paths

theorem select_paths (index : Nat) : Moves Paths (select index : ClientM P Unit) :=
  .modify fun _ => .single (.selected _)

theorem selectIndex_paths (index : Nat) : Moves Paths (selectIndex env index : ClientM P Unit) := by
  refine .bind (getApp_quiet _).runs.paths fun inRange => .ite (fun _ => ?_) fun _ => .pure _
  exact .bind saveCurrentDraft_quiet.runs.paths fun _ => .bind (select_paths _) fun _ =>
    .bind loadSelectedMessages_runs.paths fun _ => showCodeIfUnverified_quiet.runs.paths

theorem selectRelative_paths (direction : Int) :
    Moves Paths (selectRelative env direction : ClientM P Unit) :=
  .bind (getApp_quiet _).runs.paths fun _ => selectIndex_paths _

theorem acceptChatRequest_runs (n : Notification) :
    IsRun (acceptChatRequest env n : ClientM P Unit) := by
  unfold acceptChatRequest
  split
  · refine .ite (fun _ => (setStatus_quiet _).runs) fun _ => .bind (.ensure _ _) fun _ => ?_
    exact .bind (.ofExcept _) fun _ => .bind (upsertContact_quiet _).runs fun _ =>
      .bind (loadContactsSelecting_quiet _).runs fun _ => .bind loadSelectedMessages_runs fun _ =>
      .bind (sendChatDecision_runs _ _ _) fun _ =>
      .bind (saveChatResponseNotification_quiet _ _ _).runs fun _ => (setStatus_quiet _).runs
  · exact .fail _

theorem verifyNotificationContact_paths (n : Notification) :
    Moves Paths (verifyNotificationContact env n : ClientM P Unit) :=
  .bind (getApp_quiet _).runs.paths fun _ => .bind (.orFail _ _) fun _ => .bind (select_paths _)
    fun _ => .bind loadSelectedMessages_runs.paths fun _ => .bind verifySelected_quiet.runs.paths
    fun _ => (setStatus_quiet _).runs.paths

theorem rejectSelectedChatRequest_runs : IsRun (rejectSelectedChatRequest env : ClientM P Unit) := by
  refine .bind (getApp_quiet _).runs fun notification => ?_
  cases notification with
  | none => exact .pure _
  | some n =>
    refine .ite (fun _ => ?_) fun _ => (setStatus_quiet _).runs
    split
    · refine .ite (fun _ => (setStatus_quiet _).runs) fun _ => .bind (.ofExcept _) fun _ => ?_
      exact .bind (sendChatDecision_runs _ _ _) fun _ =>
        .bind (saveChatResponseNotification_quiet _ _ _).runs fun _ => (setStatus_quiet _).runs
    · exact .fail _

theorem dismissSelectedNotification_quiet :
    IsQuiet (dismissSelectedNotification env : ClientM P Unit) := by
  refine .bind (getApp_quiet _) fun notification => ?_
  cases notification with
  | none => exact .pure _
  | some n =>
    exact .ite (fun _ => setStatus_quiet _) fun _ =>
      .bind (markNotificationState_quiet _ _ _) fun _ => setStatus_quiet _

theorem selectNotification_quiet (index : Nat) :
    IsQuiet (selectNotification env index : ClientM P Unit) := by
  refine .bind (modifyApp_quiet fun _ => ⟨rfl, rfl, rfl, rfl, rfl, rfl, rfl⟩) fun _ => .bind (getApp_quiet _)
    fun selected => ?_
  cases selected with
  | none => exact refreshNotifications_quiet
  | some n => exact .bind (markNotificationRead_quiet _) fun _ => refreshNotifications_quiet

/-! ## Texts and deletions -/

/-- The commit of a text of the own account, and the frame in the outbox. -/
theorem commitOutgoing_runs {w : World P} {store : Store P} {m : OlmMachine P.olm}
    {ops : List MachineOp} {message : ChatMessage} {queued : Frame} {now : Int}
    {envelopes : SendEnvelopes} (hm : Derived w.log ops w.app.profile.machine m)
    (hseals : List.Forall₂ Seals ops envelopes.envelopes)
    (hstorable : ∀ queued log, ({ w.view.withMachine m with queued, log } : View P).Storable message)
    (hq : queued.body = some (.sendEnvelopes envelopes))
    (hs : w.store.commitOutgoing { w.app.profile with machine := m } message queued now =
      some store) :
    Runs w (w.committedWith store [.queued envelopes] m) ∧
      queued.body ∈ (w.committedWith store [.queued envelopes] m).view.queued := by
  obtain ⟨s', hs', rfl⟩ := Option.map_eq_some_iff.1 hs
  obtain ⟨messages, summaries, rfl, hmsg⟩ := Store.insertMessage_eq hs'
  obtain ⟨hsub, hmem⟩ := @putOutbox_queued _
    { w.store.saveProfile { w.app.profile with machine := m } with messages, summaries }
    message.id queued now
  rw [hq] at hsub
  refine ⟨committedWith_runs hm hseals hsub (hq ▸ hmem) ?_, hmem⟩
  rcases hmsg with rfl | rfl
  · exact .refl
  · exact .single (.message message (hstorable _ _))

theorem sendText_runs (text : String) : IsRun (sendText env text : ClientM P Unit) := by
  refine .bind (.ensure _ _) fun _ => .of_wp fun w => ?_
  rw [wp_getApp_bind]
  refine wp.orFail .refl fun contact hcontact => ?_
  rw [Prog.wp_ite]
  refine ⟨fun _ => ?_, fun _ => ?_⟩
  · exact Moves.wp (R := Runs) (.bind showSafetyCode_quiet.runs fun _ => .fail _) w
  refine wp.ofExcept (fun _ => .refl) fun _ _ => ?_
  refine (ownBundle_steady lookupBundle_steady).wp_bind (fun _ _ h => h.1.runs) fun selfBundle w₁ hw₁ => ?_
  refine newUuid_still.steady.wp_bind (fun _ _ h => (hw₁.trans h).1.runs) fun logicalId w₂ hw₂ => ?_
  replace hw₂ := hw₁.trans hw₂
  refine nowMs_still.steady.wp_bind (fun _ _ h => (hw₂.trans h).1.runs) fun sentAtMs w₃ hw₃ => ?_
  replace hw₃ := hw₂.trans hw₃
  rw [wp_getApp_bind]
  refine (wp_encryptThen fun r w₄ ops hw₄ hs hr => ?_).mono (fun _ _ h => hw₃.1.runs.trans h)
    fun _ _ h => hw₃.1.runs.trans h
  refine wp.ensure .refl fun _ => ?_
  refine newUuid_still.steady.wp_bind (fun _ _ h => h.1.runs) fun _ w₅ hw₅ => ?_
  refine nowMs_still.steady.wp_bind (fun _ _ h => (hw₅.trans h).1.runs) fun now w₆ hw₆ => ?_
  have hw : Steady w₄ w₆.ticked := (hw₅.trans hw₆).trans (Still.steady rfl)
  rw [Prog.wp_bind]
  refine wp_commitMachine (fun _ => hw.1.runs) fun store hstore => ?_
  -- The contact is still the selected one, of the same account.
  have hall : Steady w w₆.ticked := (hw₃.trans hw₄).trans hw
  have hprofile : w₃.app.profile = w₆.app.profile := by
    rw [← (hw₄.trans hw).1.same.1]
    rfl
  have hselects : w₆.view.Selects (conversationId P.sha256 w₃.app.profile.accountId
      contact.bundle.accountId) := by
    refine ⟨contact.bundle.accountId, ?_, by rw [hprofile]; rfl⟩
    show accountAt w₆.app.contacts w₆.app.selected = _
    rw [show w₆.app.contacts = w.app.contacts from hall.2.contacts,
      show w₆.app.selected = w.app.selected from hall.2.selected]
    exact congrArg (Option.map _) hcontact
  obtain ⟨hc, hqueued⟩ := commitOutgoing_runs (hw.1.derived hr) hs
    (fun _ _ => .own rfl (by rw [hprofile]; rfl) rfl rfl) rfl hstore
  rw [wp_modifyApp_bind]
  refine Runs.wp_of ((hw.1.runs.trans hc).trans (Quiet.runs (modifyApp_shown rfl rfl rfl rfl rfl rfl fun m hm => ?_))) ?_
  · refine (List.mem_append.1 hm).imp_right fun hm => ?_
    rw [List.mem_singleton.1 hm]
    exact hselects
  rw [Prog.wp_bind, Prog.wp_succeeds]
  refine (dispatchBackground_allowed (.inl (by exact hqueued))).mono (fun _ w' h => h.runs.wp_of ?_)
    fun _ w' h => h.runs.wp_of ?_
  all_goals
    extract_lets jp
    have hjp : ∀ u, IsRun (jp u) := fun _ => by
      refine .bind (Moves.runs ?_) fun _ => .bind (Moves.runs ?_) fun _ =>
        refreshContactsPreserveSelection_quiet.runs
      · exact execute_some_quiet fun _ => .saveDraft _ _
      · exact modifyApp_quiet fun _ => ⟨rfl, rfl, rfl, rfl, rfl, rfl, rfl⟩
    refine Moves.wp ?_ w'
    refine .ite (fun _ => .bind (setStatus_quiet _).runs hjp) fun _ => .bind (Moves.runs ?_) hjp
    exact modifyApp_quiet fun _ => ⟨rfl, rfl, rfl, rfl, rfl, rfl, rfl⟩

theorem deleteConversationEverywhere_quiet {t : ConversationTombstone} {w : World P}
    (ht : t.conversationId = w.conversationWith t.peerAccountId) :
    wp (execute env fun s : Store P => s.deleteConversationEverywhere t) (fun _ => Quiet w)
      (fun _ => Quiet w) w := by
  refine wp_executeRecording (fun _ => ticked_quiet w) fun store hs => (ticked_quiet w).trans ?_
  obtain ⟨tombstones, rfl⟩ := Store.putTombstone_eq hs
  exact deletion_path (v := w.view) (s := w.store) rfl rfl rfl rfl ht

theorem confirmDeleteConversation_runs (account username : String) :
    IsRun (confirmDeleteConversation env account username : ClientM P Unit) := by
  refine .bind newUuid_quiet.runs fun _ => .bind nowMs_quiet.runs fun _ =>
    .bind (getApp_quiet _).runs fun _ => .of_wp fun w => ?_
  rw [wp_getApp_bind]
  refine ((deleteConversationEverywhere_quiet (by rfl)).mono (fun _ _ h => h) fun _ _ h => h.runs).bind
    fun _ w' hw' => ?_
  refine (Moves.wp (R := Runs) ?_ w').mono (fun _ _ h => hw'.runs.trans h) fun _ _ h => hw'.runs.trans h
  refine .bind (Moves.runs ?_) fun _ => .bind (loadContactsSelecting_quiet _).runs fun _ =>
    .of_wp fun w₂ => ?_
  · exact modifyApp_quiet fun _ => ⟨rfl, rfl, rfl, rfl, rfl, rfl, rfl⟩
  rw [wp_getApp_bind]
  extract_lets jp
  have hjp : ∀ u, IsRun (jp u) := fun _ => by
    refine .bind refreshNotifications_quiet.runs fun _ => .bind (getApp_quiet _).runs fun _ =>
      .ite (fun _ => ?_) fun _ => (setStatus_quiet _).runs
    exact .bind (.succeeds syncPendingConversationDeletions_runs) fun _ => (setStatus_quiet _).runs
  split
  · next hnone =>
    have hselected : w₂.app.selectedContact = none := by
      unfold App.selectedContact
      rw [Option.isNone_iff_eq_none.1 hnone]
      rfl
    exact ((clearConversation_quiet hselected).mono (fun _ _ h => h.runs) fun _ _ h => h.runs).bind
      fun _ w₃ hw₃ => ((hjp ()).wp w₃).mono (fun _ _ h => hw₃.trans h) fun _ _ h => hw₃.trans h
  · exact (hjp ()).wp w₂

theorem confirmDeleteNotification_quiet (id title requestId : String) :
    IsQuiet (confirmDeleteNotification env id title requestId : ClientM P Unit) := by
  refine .bind (execute_some_quiet fun _ => .delete_notifications _) fun _ =>
    .bind (.modify fun w => ?_) fun _ => .bind refreshNotifications_quiet fun _ => setStatus_quiet _
  beta_reduce
  split
  · exact .rfl
  · refine modifyApp_requests rfl rfl rfl rfl rfl (fun r hr => .inl ?_) fun r hr => .inl ?_
    · exact List.mem_append_left _ (List.mem_append_left _ (List.mem_of_mem_filter hr))
    · exact List.mem_append_left _ (List.mem_append_right _ hr)

theorem confirmRevokeDevice_quiet (device name : String) :
    IsQuiet (confirmRevokeDevice env device name : ClientM P Unit) :=
  .bind newUuid_quiet fun _ => .bind (dispatchBackground_quiet _ rfl rfl) fun _ => setStatus_quiet _

end TuiChat
