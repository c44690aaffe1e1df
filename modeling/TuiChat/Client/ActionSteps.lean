import TuiChat.Client.PairingSteps

/-!
# Every action, as steps of the view

Server events, timers, connections and restarts. Every action moves the view along its steps
(`runAction_paths`), so that what those keep holds in every state of a client
(`reachable_invariant`).
-/

namespace TuiChat

open Lib
open Lib.Prog (Moves wp)
open Relation (ReflTransGen)

variable {P : Primitives} {env : Environment}

/-! ## Server events -/

theorem completeOutbox_quiet (id : String) : IsQuiet (completeOutbox env id : ClientM P Unit) :=
  .bind (execute_some_quiet fun _ => .removeOutbox _) fun _ =>
    .bind (execute_some_quiet fun _ => .others ..) fun _ =>
      .bind (executeRaise_quiet id .accepted (fun _ => true) nofun) fun _ => modifyApp_quiet fun _ =>
        ⟨rfl, rfl, rfl, rfl, rfl, rfl, map_modifyFirst (fun _ => by split <;> rfl) _⟩

theorem handleSendAccepted_quiet (accepted : SendAccepted) :
    IsQuiet (handleSendAccepted env accepted : ClientM P Unit) :=
  .bind (modifyApp_quiet fun _ => ⟨rfl, rfl, rfl, rfl, rfl, rfl, rfl⟩) fun _ =>
    .bind (completeOutbox_quiet _) fun _ => setStatus_quiet _

theorem handleDeliveryUpdate_quiet (update : DeliveryUpdate) :
    IsQuiet (handleDeliveryUpdate env update : ClientM P Unit) :=
  .bind (markDelivered_quiet _) fun _ => modifyApp_quiet fun _ =>
    ⟨rfl, rfl, rfl, rfl, rfl, rfl, map_modifyFirst (fun _ => by split <;> rfl) _⟩

theorem handlePairingRequest_quiet (r : PairingRequest) :
    IsQuiet (handlePairingRequest env r : ClientM P Unit) := by
  refine .bind (getApp_quiet _) fun _ => .ite (fun _ => .pure _) fun _ => .of_wp fun w => ?_
  rw [wp_record_bind]
  have hr : Quiet w { w with log := .requested r :: w.log } := Quiet.of_step (.requested r)
  refine ((savePairingNotification_quiet List.mem_cons_self).mono (fun _ _ h => h)
    fun _ _ h => hr.trans h).bind fun _ w' hw' => (hr.trans hw').trans ?_
  refine modifyApp_requests rfl rfl rfl rfl rfl (fun r' hr' => ?_) fun r' hr' => .inl ?_
  · rcases mem_addPairingRequest hr' with hr' | rfl
    · exact .inl (List.mem_append_left _ (List.mem_append_left _ hr'))
    · exact .inr (hw'.log.subset List.mem_cons_self)
  · exact List.mem_append_left _ (List.mem_append_right _ hr')

theorem Store.markPairingEventProcessed_eq (s : Store P) (id : Nat) :
    ∃ processedPairingEvents, s.markPairingEventProcessed id = { s with processedPairingEvents } ∧
      id ∈ processedPairingEvents ∧
      ∀ id' ∈ processedPairingEvents, id' ∈ s.processedPairingEvents ∨ id' = id := by
  unfold markPairingEventProcessed
  split
  · next h => exact ⟨_, rfl, h, fun _ h => .inl h⟩
  · exact ⟨_, rfl, by simp, fun _ h => by simpa using h⟩

/-- An event is acknowledged once it is marked as processed. -/
theorem ackPairingEvent_runs {id : Nat} {w : World P} (h : id ∈ w.store.processedPairingEvents) :
    wp (notify env (.ackPairingEvent { serverEventId := id }) : ClientM P Unit)
      (fun _ => Runs w) (fun _ => Runs w) w :=
  (sendFrame_allowed (f := frame "" (.ackPairingEvent { serverEventId := id })) (.inr h)).mono
    (fun _ _ h => h.1.runs) fun _ _ h => h.1.runs

theorem handleNumberedPairingEvent_runs (event : PairingEvent) :
    IsRun (handleNumberedPairingEvent env event : ClientM P Unit) := .of_wp fun w => by
  unfold handleNumberedPairingEvent
  split
  · exact (handlePairingEvent_runs event w).mono (fun _ _ h => h.1) fun _ _ h => h
  have htick : Runs w w.ticked := (ticked_quiet w).runs
  rw [Prog.wp_bind]
  refine wp_query ?_ fun _ => htick
  extract_lets jp
  have hjp : ∀ w', Runs w w' → event.serverEventId ∈ w'.store.processedPairingEvents →
      wp (jp ()) (fun _ => Runs w) (fun _ => Runs w) w' := fun w' hw' h =>
    (ackPairingEvent_runs h).mono (fun _ _ h => hw'.trans h) fun _ _ h => hw'.trans h
  split
  · next hprocessed => exact hjp _ htick (of_decide_eq_true hprocessed)
  refine ((handlePairingEvent_runs event _).mono (fun _ _ h => h) fun _ _ h => htick.trans h).bind
    fun _ w₁ ⟨hw₁, hstored⟩ => ?_
  have hw : Runs w w₁.ticked := (htick.trans hw₁).trans (ticked_quiet w₁).runs
  rw [Prog.wp_bind]
  refine wp_executeRecording (fun _ => hw) fun store hs => ?_
  obtain ⟨ids, heq, hmem, hids⟩ := w₁.store.markPairingEventProcessed_eq event.serverEventId
  obtain rfl : { w₁.store with processedPairingEvents := ids } = store := heq ▸ Option.some.inj hs
  exact hjp _ (hw.trans (Runs.of_step (.quiet (.handled event ids hids hstored)))) hmem

theorem handleError_quiet (pending : Option BackgroundRequest) (error : ErrorFrame) :
    IsQuiet (handleError env pending error : ClientM P Unit) := by
  unfold handleError
  extract_lets report closed retried
  have hreport : ∀ u, IsQuiet (report u) := fun _ => setStatus_quiet _
  have hclosed : ∀ u, IsQuiet (closed u) := fun _ =>
    .ite (fun _ => .bind (modifyApp_quiet fun _ => ⟨rfl, rfl, rfl, rfl, rfl, rfl, rfl⟩) hreport) fun _ => hreport ()
  have hretried : ∀ u, IsQuiet (retried u) := fun _ => by
    simp only [retried]
    split
    · refine .ite (fun _ => .bind instantNow_quiet fun _ => ?_) fun _ => ?_
      · exact .bind (modifyApp_quiet fun _ => ⟨rfl, rfl, rfl, rfl, rfl, rfl, rfl⟩) hclosed
      · exact .bind (modifyApp_quiet fun _ => ⟨rfl, rfl, rfl, rfl, rfl, rfl, rfl⟩) hclosed
    · exact hclosed ()
  exact .ite (fun _ => .bind (modifyApp_quiet fun _ => ⟨rfl, rfl, rfl, rfl, rfl, rfl, rfl⟩) hretried)
    fun _ => hretried ()

theorem takePending_quiet (id : String) :
    IsQuiet (takePending id : ClientM P (Option BackgroundRequest)) :=
  .ite (fun _ => .pure _) fun _ => .bind (getApp_quiet _) fun _ =>
    .bind (modifyApp_quiet fun _ => ⟨rfl, rfl, rfl, rfl, rfl, rfl, rfl⟩) fun _ => .pure _

/-- A frame that is not a batch leaves the cursor alone. -/
theorem handleServerEvent_runs (f : Frame) (hf : ∀ batch, f.body ≠ some (.syncBatch batch)) :
    IsRun (handleServerEvent env f : ClientM P Unit) := by
  refine .bind (takePending_quiet _).runs fun pending => ?_
  split
  · next batch h => exact absurd h (hf batch)
  · exact (handleSendAccepted_quiet _).runs
  · exact (setStatus_quiet _).runs
  · refine .ite (fun _ => .bind (cacheBundle_quiet _).runs fun _ => ?_) fun _ => .pure _
    exact (reconcilePairingNotificationsFromBundle_quiet _).runs
  · exact (handleDeliveryUpdate_quiet _).runs
  · exact (handlePairingRequest_quiet _).runs
  · exact handleNumberedPairingEvent_runs _
  · exact (handleError_quiet _ _).runs
  · exact .pure _

/-- A frame with a batch processes a prefix of the envelopes above the stored cursor, all of them if
it is handled to the end. -/
theorem handleServerEvent_walks (f : Frame) {batch : SyncBatch}
    (hf : f.body = some (.syncBatch batch)) (w : World P) :
    wp (handleServerEvent env f)
      (fun _ w' => Walk (acknowledgedAll (advancing batch.envelopes w.store.envelopeCursor)) w.view w'.view)
      (fun _ w' => ∃ es, es.map Prod.fst <+: advancing batch.envelopes w.store.envelopeCursor ∧
        Walk es w.view w'.view) w := by
  unfold handleServerEvent
  refine (takePending_quiet f.id).wp_bind (fun _ w' h => ⟨[], List.nil_prefix, .runs h.runs⟩)
    fun pending w₁ hw₁ => ?_
  simp only [hf]
  unfold handleSyncFrame
  have hrest : ∀ w', Quiet w w' → wp (handleSyncBatch env batch)
      (fun _ w' => Walk (acknowledgedAll (advancing batch.envelopes w.store.envelopeCursor)) w.view w'.view)
      (fun _ w' => ∃ es, es.map Prod.fst <+: advancing batch.envelopes w.store.envelopeCursor ∧
        Walk es w.view w'.view) w' := fun w' hw' => by
    have h := @handleSyncBatch_walks _ env w' batch
    rw [hw'.same.2.2] at h
    exact h.mono (fun _ _ h => Walk.of_runs_trans hw'.runs h) fun _ _ ⟨es, hes, h⟩ =>
      ⟨es, hes, Walk.of_runs_trans hw'.runs h⟩
  rw [wp_getApp_bind]
  split
  · rw [Prog.wp_bind]
    exact hrest _ (hw₁.trans (Quiet.of_view_eq rfl))
  · exact hrest _ hw₁

/-! ## Timers and connections -/

theorem expireRequest_quiet (now : Nat) (request : String × BackgroundRequest) :
    IsQuiet (expireRequest now request : ClientM P Unit) := by
  refine .bind (modifyApp_quiet fun _ => ⟨rfl, rfl, rfl, rfl, rfl, rfl, rfl⟩) fun _ => ?_
  split
  · exact modifyApp_quiet fun _ => ⟨rfl, rfl, rfl, rfl, rfl, rfl, rfl⟩
  · exact modifyApp_quiet fun _ => ⟨rfl, rfl, rfl, rfl, rfl, rfl, rfl⟩
  · exact .pure _

theorem expireBackgroundRequests_quiet : IsQuiet (expireBackgroundRequests env : ClientM P Unit) :=
  .bind instantNow_quiet fun _ => .bind (getApp_quiet _) fun _ =>
    .each fun request _ => expireRequest_quiet _ request

theorem focusGained_runs : IsRun (focusGained env : ClientM P Unit) := by
  refine .bind (getApp_quiet _).runs fun _ => .bind (Moves.runs ?_) fun _ =>
    .ite (fun _ => .pure _) fun _ => markSelectedRead_runs
  exact modifyApp_quiet fun _ => ⟨rfl, rfl, rfl, rfl, rfl, rfl, rfl⟩

theorem openNotificationTab_quiet : IsQuiet (openNotificationTab env : ClientM P Unit) := by
  refine .bind (modifyApp_quiet fun _ => ⟨rfl, rfl, rfl, rfl, rfl, rfl, rfl⟩) fun _ => .bind (getApp_quiet _)
    fun unread => ?_
  extract_lets jp
  have hjp : ∀ u, IsQuiet (jp u) := fun _ =>
    .bind (.succeeds reconcilePairingNotifications_quiet) fun _ =>
      .ite (fun _ => .pure _) fun _ => setStatus_quiet _
  cases unread with
  | none => exact hjp ()
  | some n => exact .bind (markNotificationRead_quiet _) fun _ => .bind refreshNotifications_quiet hjp

theorem retry_quiet : IsQuiet (retry env : ClientM P Unit) :=
  .bind (modifyApp_quiet fun _ => ⟨rfl, rfl, rfl, rfl, rfl, rfl, rfl⟩) fun _ => .bind resendOutbox_quiet fun _ =>
    setStatus_quiet _

theorem catchUp_runs : IsRun (catchUp env : ClientM P Unit) :=
  .bind resendOutbox_quiet.runs fun _ => .bind (.succeeds syncPendingConversationDeletions_runs)
    fun _ => .bind (.succeeds sync_quiet.runs) fun _ => .pure _

/-- What follows a new connection. -/
theorem reconnected_paths (capabilities : List String) :
    Moves Paths (reconnected env capabilities : ClientM P Unit) := by
  refine .bind (.modify fun w => ReflTransGen.single .connected) fun _ => Moves.paths ?_
  refine .bind (.modify fun w => ?_) fun _ => .of_wp fun w => ?_
  · exact modifyProfile_runs { w.app.profile with serverCapabilities := capabilities }
      ⟨rfl, rfl, rfl, rfl, rfl, rfl, rfl⟩ rfl rfl rfl id id (.inl rfl) (.inl rfl)
  rw [wp_getApp_bind, Prog.wp_bind, Prog.wp_succeeds]
  have hrest : IsRun (setStatus "已重新连接，正在后台补拉离线消息" >>= fun _ => catchUp env : ClientM P Unit) :=
    .bind (setStatus_quiet _).runs fun _ => catchUp_runs
  have hnext : ∀ w', Runs w w' → ∀ b : Bool, wp ((fun _ : Bool =>
      (setStatus "已重新连接，正在后台补拉离线消息" >>= fun _ => catchUp env : ClientM P Unit)) b)
      (fun _ => Runs w) (fun _ => Runs w) w' := fun w' h _ =>
    (hrest.wp w').mono (fun _ _ h' => h.trans h') fun _ _ h' => h.trans h'
  exact (saveProfile_runs rfl).mono (fun _ w' h => hnext w' h.1 true) fun _ w' h => hnext w' h false

theorem restorePairingState_quiet : IsQuiet (restorePairingState : ClientM P Unit) := by
  refine .bind (getApp_quiet _) fun _ => .bind (getApp_quiet _) fun saved => ?_
  split
  · exact .pure _
  · refine .ite (fun _ => .of_wp fun w => ?_) fun _ => .pure _
    rw [wp_getApp_bind]
    refine wp.orFail .refl fun secret hsecret => wp.ensure .refl fun _ => wp.ofExcept (fun _ => .refl)
      fun channel hchannel => ?_
    exact wp_setPairing (.joined _ ⟨⟨secret, _, hsecret, hchannel⟩, rfl, rfl, rfl⟩)

theorem mem_restored {notifications : List Notification} {r : PairingRequest} :
    ∀ {requests : List PairingRequest}, r ∈ notifications.foldl (fun requests n =>
      (n.data.pairingRequest.map (addPairingRequest requests)).getD requests) requests →
        r ∈ requests ∨ r ∈ noticedRequests notifications := by
  induction notifications with
  | nil => exact fun h => .inl h
  | cons n ns ih =>
    intro requests h
    rcases ih h with h | h
    · beta_reduce at h
      cases hn : n.data.pairingRequest with
      | none =>
        rw [hn] at h
        exact .inl h
      | some r' =>
        rw [hn] at h
        exact (mem_addPairingRequest h).imp_right fun h =>
          List.mem_filterMap.2 ⟨n, List.mem_cons_self, hn.trans (congrArg some h.symm)⟩
    · obtain ⟨n', hn', hr⟩ := List.mem_filterMap.1 h
      exact .inr (List.mem_filterMap.2 ⟨n', List.mem_cons_of_mem n hn', hr⟩)

theorem restorePairingRequests_quiet : IsQuiet (restorePairingRequests : ClientM P Unit) :=
  .modify fun w => by
    refine modifyApp_requests rfl rfl rfl rfl rfl (fun r hr => .inl (List.mem_append_left _ ?_)) fun r hr =>
      .inl (List.mem_append_left _ (List.mem_append_right _ hr))
    refine (mem_restored hr).elim (List.mem_append_left _) fun hr => List.mem_append_right _ ?_
    obtain ⟨n, hn, hnr⟩ := List.mem_filterMap.1 hr
    exact List.mem_filterMap.2 ⟨n, List.mem_of_mem_filter hn, hnr⟩

theorem restart_paths : Moves Paths (restart env : ClientM P Unit) := by
  refine .bind (.modify fun w => ?_) fun _ => Moves.paths (.bind restorePairingState_quiet.runs fun _ =>
    .bind restorePairingRequests_quiet.runs fun _ => catchUp_runs)
  have hstart := AnyStep.view (.restarted (v := w.view))
  have hconnect := AnyStep.connected
    (v := { w.view with
      profile := w.store.profile
      pairing := none
      selected := none
      shown := []
      log := .opened none :: w.log })
  have hload := QuietStep.loaded
    (v := { w.view with
      profile := w.store.profile
      pairing := none
      selected := none
      shown := []
      sent := []
      log := .opened none :: w.log })
    w.store.contactList none (.selecting none true) (fun _ hc => Store.mem_contactList hc) ⟨rfl, rfl⟩
  refine (((ReflTransGen.single hstart).tail hconnect).tail (.view (.quiet hload))).tail
    (.view (.quiet (.aside _ w.view.queued (fun r hr => .inl ?_) fun _ hb => hb)))
  rcases List.mem_append.1 hr with hr | hr
  · exact List.mem_append_right _ (Store.mem_noticedRequests_list hr)
  · exact List.mem_append_right _ hr

/-! ## Actions -/

/-- An action that is not a batch of envelopes, as steps of the view. -/
theorem runAction_other (action : Action)
    (ha : ∀ f batch, action = .serverEvent f → f.body ≠ some (.syncBatch batch)) :
    Moves Paths (runAction env action : ClientM P Unit) := by
  cases action with
  | serverEvent f => exact (handleServerEvent_runs f fun batch => ha f batch rfl).paths
  | renderNotificationDetail => exact renderNotificationDetail_quiet.runs.paths
  | openContact username => exact (openContact_runs username).paths
  | verifySelected => exact verifySelected_quiet.runs.paths
  | selectIndex index => exact selectIndex_paths index
  | selectRelative direction => exact selectRelative_paths direction
  | edit text | focusLost | reconnectFailed =>
    exact Moves.paths (Moves.runs (modifyApp_quiet fun _ => ⟨rfl, rfl, rfl, rfl, rfl, rfl, rfl⟩))
  | sendText text => exact (sendText_runs text).paths
  | loadOlderMessages => exact loadOlderMessages_quiet.runs.paths
  | focusGained => exact focusGained_runs.paths
  | deleteConversation account username =>
    exact (confirmDeleteConversation_runs account username).paths
  | deleteNotification id title request =>
    exact (confirmDeleteNotification_quiet id title request).runs.paths
  | revokeDevice device name => exact (confirmRevokeDevice_quiet device name).runs.paths
  | selectNotification index => exact (selectNotification_quiet index).runs.paths
  | openNotificationTab => exact openNotificationTab_quiet.runs.paths
  | activateSelectedNotification => exact activateSelectedNotification_runs.paths
  | activateNotificationPrimary => exact activateNotificationPrimary_paths
  | rejectSelectedChatRequest => exact rejectSelectedChatRequest_runs.paths
  | dismissSelectedNotification => exact dismissSelectedNotification_quiet.runs.paths
  | startPairing requested => exact (startPairing_quiet requested).runs.paths
  | confirmPairing => exact confirmPairing_quiet.runs.paths
  | sync => exact sync_quiet.runs.paths
  | retry => exact retry_quiet.runs.paths
  | autosaveDraft => exact autosaveDraft_quiet.runs.paths
  | expireBackgroundRequests => exact expireBackgroundRequests_quiet.runs.paths
  | resendOutbox => exact resendOutbox_quiet.runs.paths
  | syncPendingConversationDeletions => exact syncPendingConversationDeletions_runs.paths
  | reconcilePairingNotifications => exact reconcilePairingNotifications_quiet.runs.paths
  | ping => exact Moves.paths (.bind nowMs_quiet.runs fun _ => (notify_quiet rfl).runs)
  | reconnected capabilities => exact reconnected_paths capabilities
  | restart => exact restart_paths

/-- Every action moves the view along its steps. -/
theorem runAction_paths (action : Action) : Moves Paths (runAction env action : ClientM P Unit) := by
  by_cases ha : ∃ f batch, action = .serverEvent f ∧ f.body = some (.syncBatch batch)
  · obtain ⟨f, batch, rfl, hf⟩ := ha
    exact .of_wp fun w => (handleServerEvent_walks f hf w).mono
      (fun _ _ h => h.paths_of_advancing (acknowledgedAll_initial _)) fun _ _ ⟨_, hes, h⟩ =>
        h.paths_of_advancing hes
  · exact runAction_other action fun f batch hf hb => ha ⟨f, batch, hf, hb⟩

/-- What every step keeps, any steps keep. -/
theorem paths_invariant {I : View P → Prop} (step : ∀ v v', I v → AnyStep v v' → I v')
    {v v' : View P} (h : I v) (hs : ReflTransGen AnyStep v v') : I v' := by
  induction hs with
  | refl => exact h
  | tail _ hs ih => exact step _ _ ih hs

/-- What holds of a client that has stored nothing but its profile, and is kept by the steps of the
view, holds of every state of the client. -/
theorem reachable_invariant {I : View P → Prop} {profile : RuntimeProfile P} {w : World P}
    (hw : (clientSystem env profile).Reachable w) (init : I (World.ofProfile profile).view)
    (step : ∀ v v', I v → AnyStep v v' → I v') : I w.view := by
  refine hw.invariant (I := fun w => I w.view) (fun w h => ?_) fun w action w' hI _ h => ?_
  · rw [show w = .ofProfile profile from h]
    exact init
  · obtain rfl : w.after env action = w' := Option.some.inj h
    exact paths_invariant step hI (runAction_paths action w)

end TuiChat
