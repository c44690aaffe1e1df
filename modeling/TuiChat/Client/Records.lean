import TuiChat.Client.PairingSteps

/-!
# What leaves contacts and messages alone

Most methods write neither the contacts nor the messages, in their tables or as they are loaded (`Leaves`): they
look a bundle up, encrypt, queue a frame, keep a notification or carry a pairing on. What is shown of contacts or of
messages follows from that for all of them at once.
-/

namespace TuiChat

open Lib
open Lib.Prog (Moves wp)

variable {P : Primitives} {env : Environment}

/-- The contacts and the messages are the same, stored and loaded. -/
structure SameRecords (w w' : World P) : Prop where
  contacts : w'.store.contacts = w.store.contacts
  messages : w'.store.messages = w.store.messages
  listed : w'.app.contacts = w.app.contacts
  loaded : w'.app.messages = w.app.messages

instance : Std.Refl (SameRecords (P := P)) := ⟨fun _ => ⟨rfl, rfl, rfl, rfl⟩⟩

instance : IsTrans (World P) SameRecords :=
  ⟨fun _ _ _ h h' => ⟨h'.contacts.trans h.contacts, h'.messages.trans h.messages, h'.listed.trans h.listed,
    h'.loaded.trans h.loaded⟩⟩

/-- Every run of `m` leaves the contacts and the messages as they are. -/
abbrev Leaves {α : Type} (m : ClientM P α) : Prop := Moves SameRecords m

/-- A relation that holds wherever the contacts and the messages are the same. -/
class OfRecords (R : World P → World P → Prop) : Prop where
  of_same : ∀ w w', SameRecords w w' → R w w'

section

variable {α β : Type} {R : World P → World P → Prop} [OfRecords R] {m : ClientM P α} {f : α → ClientM P β}

theorem Lib.Prog.Moves.of_leaves (h : Leaves m) : Moves R m := h.mono OfRecords.of_same

/-- What runs first leaves contacts and messages as they are. -/
theorem Lib.Prog.Moves.past [Std.Refl R] [IsTrans (World P) R] (h : Leaves m) (hf : ∀ a, Moves R (f a)) :
    Moves R (m >>= f) :=
  .bind (.of_leaves h) hf

end

/-! ## Effects -/

theorem modifyApp_leaves {f : App P → App P} (hcontacts : ∀ app, (f app).contacts = app.contacts)
    (hmessages : ∀ app, (f app).messages = app.messages) : Leaves (modifyApp f) :=
  .modify fun w => ⟨rfl, rfl, hcontacts w.app, hmessages w.app⟩

theorem getApp_leaves {α : Type} (f : App P → α) : Leaves (getApp f) := .gets _

theorem setStatus_leaves (status : String) : Leaves (setStatus status : ClientM P Unit) :=
  modifyApp_leaves (fun _ => rfl) fun _ => rfl

theorem record_leaves (e : Event) : Leaves (record e : ClientM P Unit) := .modify fun _ => ⟨rfl, rfl, rfl, rfl⟩

theorem draw_leaves : Leaves (draw : ClientM P Nat) :=
  .bind (.gets _) fun _ => .bind (.modify fun _ => ⟨rfl, rfl, rfl, rfl⟩) fun _ => .pure _

theorem nowMs_leaves : Leaves (nowMs env : ClientM P Int) := .bind draw_leaves fun _ => .pure _

theorem instantNow_leaves : Leaves (instantNow env : ClientM P Nat) := .bind draw_leaves fun _ => .pure _

theorem newUuid_leaves : Leaves (newUuid env : ClientM P String) := .bind draw_leaves fun _ => .pure _

theorem attempt_leaves (e : Error) : Leaves (attempt env e : ClientM P Unit) :=
  .bind draw_leaves fun _ => .ensure _ _

theorem query_leaves {α : Type} (f : Store P → α) : Leaves (query env f) :=
  .bind (attempt_leaves _) fun _ => .gets _

theorem sendFrame_leaves (f : Frame) : Leaves (sendFrame env f : ClientM P Unit) :=
  .bind (attempt_leaves _) fun _ => .modify fun _ => ⟨rfl, rfl, rfl, rfl⟩

theorem notify_leaves (body : Body) : Leaves (notify env body : ClientM P Unit) := sendFrame_leaves _

theorem request_leaves (body : Body) : Leaves (request env body : ClientM P (Option Body)) :=
  .bind newUuid_leaves fun _ => .bind (sendFrame_leaves _) fun _ => .bind draw_leaves fun n => by
    split
    · exact .fail _
    · exact .fail _
    · exact .pure _

theorem executeRecording_leaves {f : World P → Option (Store P)} {events : World P → List Event}
    (h : ∀ w store, f w = some store → store.contacts = w.store.contacts ∧ store.messages = w.store.messages) :
    Leaves (executeRecording env f events) :=
  .of_wp fun w => wp_executeRecording (fun _ => ⟨rfl, rfl, rfl, rfl⟩) fun store hs =>
    have hsame := h w.ticked store hs
    ⟨hsame.1, hsame.2, rfl, rfl⟩

theorem execute_leaves {f : Store P → Store P} (hcontacts : ∀ s : Store P, (f s).contacts = s.contacts)
    (hmessages : ∀ s : Store P, (f s).messages = s.messages) : Leaves (execute env fun s => some (f s)) :=
  executeRecording_leaves fun w store hs => by
    cases hs
    exact ⟨hcontacts w.store, hmessages w.store⟩

theorem commitMachine_leaves {m : OlmMachine P.olm} {f : RuntimeProfile P → World P → Option (Store P)}
    {events : World P → List Event}
    (h : ∀ profile (w : World P) store, f profile w = some store →
      store.contacts = w.store.contacts ∧ store.messages = w.store.messages) : Leaves (commitMachine env m f events) :=
  .of_wp fun w => wp_commitMachine (fun _ => ⟨rfl, rfl, rfl, rfl⟩) fun store hs =>
    have hsame := h _ (w.withMachine m).ticked store hs
    ⟨hsame.1, hsame.2, rfl, rfl⟩

/-! ## Notifications -/

theorem refreshNotifications_leaves : Leaves (refreshNotifications env : ClientM P Unit) :=
  .bind (getApp_leaves _) fun _ => .bind (query_leaves _) fun _ => modifyApp_leaves (fun _ => rfl) fun _ => rfl

theorem saveNotification_leaves (n : Notification) : Leaves (saveNotification env n : ClientM P Unit) := by
  refine .bind (executeRecording_leaves fun w store hs => ?_) fun _ => refreshNotifications_leaves
  obtain ⟨n', -, rfl⟩ := Store.saveNotification_eq hs
  exact ⟨rfl, rfl⟩

theorem savePairingNotification_leaves (r : PairingRequest) :
    Leaves (savePairingNotification env r : ClientM P Unit) :=
  .bind (.orFail _ _) fun _ => .bind (query_leaves _) fun _ => .bind nowMs_leaves fun _ =>
    .bind newUuid_leaves fun _ => .bind (getApp_leaves _) fun _ => saveNotification_leaves _

theorem savePendingPairingNotification_leaves (id device name : String) (key : Bytes) :
    Leaves (savePendingPairingNotification env id device name key : ClientM P Unit) :=
  .bind (query_leaves _) fun _ => .bind nowMs_leaves fun _ => .bind newUuid_leaves fun _ =>
    .bind (getApp_leaves _) fun _ => saveNotification_leaves _

theorem saveRequestNotification_leaves (outgoing : Bool) (id : String) (peer : UserBundle) (device : String)
    (read : Bool) : Leaves (saveRequestNotification env outgoing id peer device read : ClientM P Unit) :=
  .bind (query_leaves _) fun _ => .bind nowMs_leaves fun _ => .bind newUuid_leaves fun _ =>
    saveNotification_leaves _

theorem saveChatResponseNotification_leaves (n : Notification) (accepted read : Bool) :
    Leaves (saveChatResponseNotification env n accepted read : ClientM P Unit) :=
  .bind nowMs_leaves fun _ => saveNotification_leaves _

theorem markNotificationState_leaves (id : String) (state : NotificationState) (read : Bool) :
    Leaves (markNotificationState env id state read : ClientM P Unit) :=
  .bind nowMs_leaves fun _ => .bind (execute_leaves (fun _ => rfl) fun _ => rfl) fun _ => refreshNotifications_leaves

theorem markNotificationRead_leaves (id : String) : Leaves (markNotificationRead env id : ClientM P Unit) :=
  .bind nowMs_leaves fun _ => execute_leaves (fun _ => rfl) fun _ => rfl

/-! ## Lookups and queueing -/

theorem cacheBundle_leaves (bundle : UserBundle) : Leaves (cacheBundle env bundle : ClientM P Unit) :=
  .bind instantNow_leaves fun _ => modifyApp_leaves (fun _ => rfl) fun _ => rfl

theorem lookupBundleFresh_leaves (username : String) :
    Leaves (lookupBundleFresh env username : ClientM P UserBundle) :=
  .bind (request_leaves _) fun _ => .bind (.orFail _ _) fun _ => .bind (cacheBundle_leaves _) fun _ => .pure _

theorem lookupBundle_leaves (username : String) : Leaves (lookupBundle env username : ClientM P UserBundle) :=
  .bind (getApp_leaves _) fun cached => by
    cases cached with
    | none => exact lookupBundleFresh_leaves username
    | some entry =>
      exact .bind instantNow_leaves fun _ => .ite (fun _ => .pure _) fun _ => lookupBundleFresh_leaves username

theorem lookupValidBundle_leaves (username : String) :
    Leaves (lookupValidBundle env username : ClientM P UserBundle) :=
  .bind (lookupBundleFresh_leaves _) fun _ => .bind (.ofExcept _) fun _ => .pure _

theorem ownBundle_leaves {lookup : String → ClientM P UserBundle} (h : ∀ u, Leaves (lookup u)) :
    Leaves (ownBundle lookup) :=
  .bind (getApp_leaves _) fun _ => .bind (h _) fun _ => .bind (.ensure _ _) fun _ => .pure _

theorem encryptFor_leaves (m : OlmMachine P.olm) (d : DeviceBundle) (account : String) (payload : Bytes) :
    Leaves (encryptFor env m d account payload : ClientM P (EncryptedOlm × OlmMachine P.olm)) := by
  have hencrypt : Leaves (encryptOlm env m d account payload : ClientM P (EncryptedOlm × OlmMachine P.olm)) := by
    unfold encryptOlm
    refine .ite (fun _ => .bind draw_leaves fun _ => .ofExcept _) fun _ => ?_
    refine .bind (request_leaves _) fun _ => .bind (.orFail _ _) fun _ => .bind (.orFail _ _) fun _ => ?_
    refine .bind (.orFail _ _) fun _ => .bind (.ensure _ _) fun _ => .bind (.ofExcept _) fun _ => ?_
    exact .bind (.ensure _ _) fun _ => .bind (.ensure _ _) fun _ => .bind draw_leaves fun _ => .ofExcept _
  exact .bind hencrypt fun _ => .bind (record_leaves _) fun _ => .pure _

theorem encryptTargets_leaves (o : Outgoing) : ∀ (targets : List Target) (m : OlmMachine P.olm),
    Leaves (encryptTargets env o m targets : ClientM P (List EncryptedEnvelope × OlmMachine P.olm))
  | [], _ => .pure _
  | t :: ts, m => by
    unfold encryptTargets
    refine .bind (.ofExcept _) fun _ => .bind (encryptFor_leaves m t.device t.accountId o.payload) fun r => ?_
    exact .bind newUuid_leaves fun _ => .bind (encryptTargets_leaves o ts r.2) fun _ => .pure _

theorem dispatchBackground_leaves (f : Frame) (operation : BackgroundRequest) :
    Leaves (dispatchBackground env f operation : ClientM P Unit) :=
  .bind (getApp_leaves _) fun _ => .bind newUuid_leaves fun _ => .bind (sendFrame_leaves _) fun _ =>
    .bind instantNow_leaves fun _ => modifyApp_leaves (fun _ => rfl) fun _ => rfl

theorem queueControl_leaves (id : String) (envelopes : List EncryptedEnvelope) (m : OlmMachine P.olm) :
    Leaves (queueControl env id envelopes m : ClientM P Unit) := by
  refine .bind newUuid_leaves fun _ => .bind nowMs_leaves fun _ => .bind ?_ fun _ =>
    dispatchBackground_leaves _ _
  refine commitMachine_leaves fun profile w store hs => ?_
  cases hs
  exact ⟨rfl, rfl⟩

theorem sendReadReceipts_leaves (recipient : UserBundle) (ids : List String) :
    Leaves (sendReadReceipts env recipient ids : ClientM P Unit) :=
  .bind (.ensure _ _) fun _ => .bind newUuid_leaves fun _ => .bind (getApp_leaves _) fun _ =>
    .bind nowMs_leaves fun _ => .bind (getApp_leaves _) fun _ =>
      .bind (encryptTargets_leaves _ _ _) fun _ => queueControl_leaves _ _ _

theorem sendChatRequest_leaves (recipient : UserBundle) :
    Leaves (sendChatRequest env recipient : ClientM P Unit) := by
  refine .bind (getApp_leaves _) fun pending => .ite (fun _ => setStatus_leaves _) fun _ => ?_
  refine .bind (.ofExcept _) fun _ => .bind (ownBundle_leaves lookupValidBundle_leaves) fun _ => ?_
  refine .bind newUuid_leaves fun _ => .bind nowMs_leaves fun _ => .bind (getApp_leaves _) fun _ => ?_
  refine .bind (getApp_leaves _) fun _ => .bind (encryptTargets_leaves _ _ _) fun _ => ?_
  refine .bind (.ensure _ _) fun _ => .bind (encryptTargets_leaves _ _ _) fun _ => ?_
  exact .bind (saveRequestNotification_leaves _ _ _ _ _) fun _ => .bind (queueControl_leaves _ _ _) fun _ =>
    setStatus_leaves _

theorem sendChatDecision_leaves (recipient : UserBundle) (requestId : String) (accepted : Bool) :
    Leaves (sendChatDecision env recipient requestId accepted : ClientM P Unit) := by
  refine .bind (.ofExcept _) fun _ => .bind (ownBundle_leaves lookupValidBundle_leaves) fun _ => ?_
  refine .bind newUuid_leaves fun _ => .bind nowMs_leaves fun _ => .bind (getApp_leaves _) fun _ => ?_
  refine .bind (getApp_leaves _) fun _ => .bind (encryptTargets_leaves _ _ _) fun _ => ?_
  exact .bind (.ensure _ _) fun _ => .bind (encryptTargets_leaves _ _ _) fun _ => queueControl_leaves _ _ _

theorem sendConversationDeletion_leaves (targets : List Target) (t : ConversationTombstone) :
    Leaves (sendConversationDeletion env targets t : ClientM P Unit) := by
  refine .bind (query_leaves _) fun _ => .ite (fun _ => .pure _) fun _ => .ite (fun _ => ?_) fun _ => ?_
  · exact execute_leaves (fun _ => rfl) fun _ => rfl
  · exact .bind (getApp_leaves _) fun _ => .bind (.ensure _ _) fun _ => .bind (getApp_leaves _) fun _ =>
      .bind (encryptTargets_leaves _ _ _) fun _ => queueControl_leaves _ _ _

theorem syncPendingConversationDeletions_leaves :
    Leaves (syncPendingConversationDeletions env : ClientM P Unit) := by
  refine .bind (getApp_leaves _) fun _ => .ite (fun _ => .pure _) fun _ => .bind (query_leaves _) fun _ => ?_
  refine .ite (fun _ => .pure _) fun _ => .bind (getApp_leaves _) fun _ => ?_
  refine .bind (lookupBundleFresh_leaves _) fun _ => .bind (.ofExcept _) fun _ => .bind (.ensure _ _) fun _ => ?_
  exact .each fun t _ => sendConversationDeletion_leaves _ t

theorem sync_leaves : Leaves (sync env : ClientM P Unit) := by
  refine .bind (getApp_leaves _) fun _ => .bind (.ensure _ _) fun _ => .bind (getApp_leaves _) fun _ => ?_
  refine .ite (fun _ => setStatus_leaves _) fun _ => .bind (query_leaves _) fun _ => ?_
  exact .bind newUuid_leaves fun _ => .bind (dispatchBackground_leaves _ _) fun _ =>
    .bind (modifyApp_leaves (fun _ => rfl) fun _ => rfl) fun _ => setStatus_leaves _

theorem resendOutbox_leaves : Leaves (resendOutbox env : ClientM P Unit) := by
  refine .bind (.succeeds (attempt_leaves _)) fun _ => .ite (fun _ => ?_) fun _ => .pure _
  refine .bind (.gets _) fun items => .bind instantNow_leaves fun _ => ?_
  refine .bind (modifyApp_leaves (fun _ => rfl) fun _ => rfl) fun _ => ?_
  refine .each fun item _ => .bind (getApp_leaves _) fun _ => .ite (fun _ => .pure _) fun _ => ?_
  exact .bind (.succeeds (.bind (.ensure _ _) fun _ => dispatchBackground_leaves _ _)) fun _ =>
    .ite (fun _ => .pure _) fun _ => setStatus_leaves _

/-! ## The conversation -/

theorem displayCode_leaves {contact : Contact} {f : String → ClientM P Unit} {otherwise : ClientM P Unit}
    (hf : ∀ code, Leaves (f code)) (ho : Leaves otherwise) : Leaves (displayCode contact f otherwise) :=
  .bind (getApp_leaves _) fun code => by
    cases code with
    | none => exact ho
    | some code => exact .bind (record_leaves _) fun _ => hf code

theorem showSafetyCode_leaves : Leaves (showSafetyCode : ClientM P Unit) :=
  .bind (getApp_leaves _) fun selected => by
    cases selected with
    | none => exact .pure _
    | some contact => exact displayCode_leaves (fun _ => setStatus_leaves _) (setStatus_leaves _)

theorem renderNotificationDetail_leaves : Leaves (renderNotificationDetail : ClientM P Unit) :=
  .bind (getApp_leaves _) fun notification => by
    cases notification with
    | none => exact .pure _
    | some n =>
      refine .ite (fun _ => .bind (getApp_leaves _) fun contact => ?_) fun _ => .pure _
      cases contact with
      | none => exact .pure _
      | some contact => exact displayCode_leaves (fun _ => .pure _) (.pure _)

theorem saveDraft_leaves (id text : String) : Leaves (execute env fun s : Store P => some (s.saveDraft id text)) := by
  have hsame : ∀ s : Store P, s.SameView (s.saveDraft id text) := fun _ => .saveDraft id text
  exact execute_leaves (fun s => (hsame s).contacts) fun s => (hsame s).messages

theorem saveCurrentDraft_leaves : Leaves (saveCurrentDraft env : ClientM P Unit) := by
  refine .bind (getApp_leaves _) fun selected => .bind (getApp_leaves _) fun editor => ?_
  cases selected with
  | none => exact .pure _
  | some contact =>
    exact .ite (fun _ => .pure _) fun _ => .bind (getApp_leaves _) fun _ => .bind (saveDraft_leaves _ _) fun _ =>
      modifyApp_leaves (fun _ => rfl) fun _ => rfl

theorem showCodeIfUnverified_leaves : Leaves (showCodeIfUnverified : ClientM P Unit) :=
  .bind (getApp_leaves _) fun selected => by
    cases selected with
    | none => exact .pure _
    | some contact => exact .ite (fun _ => showSafetyCode_leaves) fun _ => .pure _

theorem select_leaves (index : Nat) : Leaves (select index : ClientM P Unit) := .modify fun _ => ⟨rfl, rfl, rfl, rfl⟩

theorem rejectSelectedChatRequest_leaves : Leaves (rejectSelectedChatRequest env : ClientM P Unit) := by
  refine .bind (getApp_leaves _) fun notification => ?_
  cases notification with
  | none => exact .pure _
  | some n =>
    refine .ite (fun _ => ?_) fun _ => setStatus_leaves _
    split
    · refine .ite (fun _ => setStatus_leaves _) fun _ => .bind (.ofExcept _) fun _ => ?_
      exact .bind (sendChatDecision_leaves _ _ _) fun _ =>
        .bind (saveChatResponseNotification_leaves _ _ _) fun _ => setStatus_leaves _
    · exact .fail _

theorem dismissSelectedNotification_leaves : Leaves (dismissSelectedNotification env : ClientM P Unit) := by
  refine .bind (getApp_leaves _) fun notification => ?_
  cases notification with
  | none => exact .pure _
  | some n =>
    exact .ite (fun _ => setStatus_leaves _) fun _ => .bind (markNotificationState_leaves _ _ _) fun _ =>
      setStatus_leaves _

theorem selectNotification_leaves (index : Nat) : Leaves (selectNotification env index : ClientM P Unit) := by
  refine .bind (modifyApp_leaves (fun _ => rfl) fun _ => rfl) fun _ => .bind (getApp_leaves _) fun selected => ?_
  cases selected with
  | none => exact refreshNotifications_leaves
  | some n => exact .bind (markNotificationRead_leaves _) fun _ => refreshNotifications_leaves

theorem confirmDeleteNotification_leaves (id title requestId : String) :
    Leaves (confirmDeleteNotification env id title requestId : ClientM P Unit) := by
  refine .bind (execute_leaves (fun _ => rfl) fun _ => rfl) fun _ =>
    .bind (modifyApp_leaves (fun app => ?_) fun app => ?_) fun _ => ?_
  · split <;> rfl
  · split <;> rfl
  · exact .bind refreshNotifications_leaves fun _ => setStatus_leaves _

theorem confirmRevokeDevice_leaves (device name : String) :
    Leaves (confirmRevokeDevice env device name : ClientM P Unit) :=
  .bind newUuid_leaves fun _ => .bind (dispatchBackground_leaves _ _) fun _ => setStatus_leaves _

/-! ## Pairing and errors -/

theorem setPairing_leaves (pairing : Option PairingSession) : Leaves (setPairing pairing : ClientM P Unit) :=
  modifyApp_leaves (fun _ => rfl) fun _ => rfl

theorem sendPairingPayload_leaves (pairing : PairingSession) (eventType : String) (plaintext : Bytes) :
    Leaves (sendPairingPayload env pairing eventType plaintext : ClientM P Unit) :=
  .bind draw_leaves fun _ => sendFrame_leaves _

theorem sendTransfers_leaves (pairing : PairingSession) (master : Bytes) :
    Leaves (sendTransfers env pairing master : ClientM P Unit) :=
  .bind (query_leaves _) fun _ => .bind (sendPairingPayload_leaves _ _ _) fun _ => .bind (query_leaves _) fun _ =>
    .bind (.each fun _ _ => sendPairingPayload_leaves _ _ _) fun _ => sendPairingPayload_leaves _ _ _

theorem finishPairingAsApprover_leaves : Leaves (finishPairingAsApprover env : ClientM P Unit) := by
  refine .bind (getApp_leaves _) fun taken => .bind (setPairing_leaves _) fun _ => .bind (.orFail _ _) fun pairing => ?_
  refine .ite (fun _ => .bind (setPairing_leaves _) fun _ => .fail _) fun _ => ?_
  refine .bind (getApp_leaves _) fun identity => ?_
  refine .bind (.ofExcept _) fun device => .bind (record_leaves _) fun _ => .bind (.orFail _ _) fun master => ?_
  refine .bind (sendTransfers_leaves _ _) fun _ => .bind (getApp_leaves _) fun username => ?_
  refine .bind (lookupBundleFresh_leaves _) fun bundle => .bind (.ofExcept _) fun signature => ?_
  refine .bind (request_leaves _) fun _ => .bind (query_leaves _) fun notification => ?_
  cases notification with
  | none => exact setStatus_leaves _
  | some n => exact .bind (markNotificationState_leaves _ _ _) fun _ => setStatus_leaves _

theorem startPairing_leaves (requestedDevice : Option String) :
    Leaves (startPairing env requestedDevice : ClientM P Unit) := by
  refine .bind (getApp_leaves _) fun _ => .bind (.ensure _ _) fun _ => .bind (getApp_leaves _) fun _ => ?_
  refine .bind (.ensure _ _) fun _ => .bind (getApp_leaves _) fun _ => .bind (.orFail _ _) fun _ => ?_
  refine .bind (modifyApp_leaves (fun _ => rfl) fun _ => rfl) fun _ => .bind (.orFail _ _) fun _ => ?_
  refine .bind (.ensure _ _) fun _ => .bind draw_leaves fun _ => .bind (.ofExcept _) fun _ => ?_
  refine .bind (notify_leaves _) fun _ => .bind (setStatus_leaves _) fun _ => .bind (setPairing_leaves _) fun _ => ?_
  refine .bind (record_leaves _) fun _ => .bind (query_leaves _) fun notification => ?_
  cases notification with
  | none => exact .pure _
  | some n => exact markNotificationState_leaves _ _ _

theorem confirmPairing_leaves : Leaves (confirmPairing env : ClientM P Unit) := by
  refine .bind (getApp_leaves _) fun _ => .bind (.orFail _ _) fun pairing => ?_
  refine .ite (fun _ => setStatus_leaves _) fun _ => ?_
  refine .bind (record_leaves _) fun _ => .bind (setPairing_leaves _) fun _ => .ite (fun _ => ?_) fun _ => ?_
  · exact .ite (fun _ => finishPairingAsApprover_leaves) fun _ => setStatus_leaves _
  · exact .bind (sendPairingPayload_leaves _ _ _) fun _ => setStatus_leaves _

theorem activatePairingNotification_leaves (n : Notification) :
    Leaves (activatePairingNotification env n : ClientM P Unit) := by
  unfold activatePairingNotification
  split
  · exact .bind (getApp_leaves _) fun _ => .ite (fun _ => confirmPairing_leaves) fun _ => .fail _
  · exact .bind (modifyApp_leaves (fun _ => rfl) fun _ => rfl) fun _ => .bind (startPairing_leaves _) fun _ =>
      markNotificationState_leaves _ _ _
  · exact .fail _

theorem reconcilePairingNotifications_leaves : Leaves (reconcilePairingNotifications env : ClientM P Unit) :=
  .bind (getApp_leaves _) fun _ => .ite (fun _ => .pure _) fun _ => .bind (getApp_leaves _) fun _ =>
    .bind newUuid_leaves fun _ => dispatchBackground_leaves _ _

theorem handleSasPublic_leaves (event : PairingEvent) : Leaves (handleSasPublic env event : ClientM P Unit) :=
  .bind (getApp_leaves _) fun _ => .bind (.orFail _ _) fun _ => .bind (.ensure _ _) fun _ =>
    .bind (.ofExcept _) fun _ => .bind (setStatus_leaves _) fun _ => .bind (setPairing_leaves _) fun _ =>
      savePendingPairingNotification_leaves _ _ _ _

theorem handleSasConfirmed_leaves (event : PairingEvent) :
    Leaves (handleSasConfirmed env event : ClientM P Unit) := by
  refine .bind (getApp_leaves _) fun current => ?_
  cases current with
  | none => exact setStatus_leaves _
  | some pairing =>
    refine .bind (.ensure _ _) fun _ => .bind (.ofExcept _) fun _ => .bind (.ensure _ _) fun _ => ?_
    exact .bind (setPairing_leaves _) fun _ =>
      .ite (fun _ => finishPairingAsApprover_leaves) fun _ => setStatus_leaves _

theorem handleDeviceActivated_leaves (event : PairingEvent) :
    Leaves (handleDeviceActivated env event : ClientM P Unit) := by
  refine .bind (getApp_leaves _) fun _ => .bind (.ensure _ _) fun _ => ?_
  refine .bind (modifyApp_leaves (fun _ => rfl) fun _ => rfl) fun _ => ?_
  refine .bind (getApp_leaves _) fun _ => .bind (execute_leaves (fun _ => rfl) fun _ => rfl) fun _ => ?_
  refine .bind (query_leaves _) fun notification => ?_
  cases notification with
  | none => exact modifyApp_leaves (fun _ => rfl) fun _ => rfl
  | some n => exact .bind (markNotificationState_leaves _ _ _) fun _ => modifyApp_leaves (fun _ => rfl) fun _ => rfl

theorem handlePairingRequest_leaves (r : PairingRequest) :
    Leaves (handlePairingRequest env r : ClientM P Unit) :=
  .bind (getApp_leaves _) fun _ => .ite (fun _ => .pure _) fun _ => .bind (record_leaves _) fun _ =>
    .bind (savePairingNotification_leaves r) fun _ => modifyApp_leaves (fun _ => rfl) fun _ => rfl

theorem reconcilePairingNotificationsFromBundle_leaves (bundle : UserBundle) :
    Leaves (reconcilePairingNotificationsFromBundle env bundle : ClientM P Unit) := by
  refine .bind (.ofExcept _) fun _ => .bind (getApp_leaves _) fun _ => .bind (.ensure _ _) fun _ => ?_
  refine .bind (getApp_leaves _) fun completed => .ite (fun _ => .pure _) fun _ => ?_
  refine .bind (.each fun n _ => .bind nowMs_leaves fun _ => execute_leaves (fun _ => rfl) fun _ => rfl) fun _ => ?_
  refine .bind (modifyApp_leaves (fun _ => rfl) fun _ => rfl) fun _ => ?_
  exact .bind refreshNotifications_leaves fun _ => setStatus_leaves _

theorem handleError_leaves (pending : Option BackgroundRequest) (error : ErrorFrame) :
    Leaves (handleError env pending error : ClientM P Unit) := by
  unfold handleError
  extract_lets report closed retried
  have hreport : ∀ u, Leaves (report u) := fun _ => setStatus_leaves _
  have hclosed : ∀ u, Leaves (closed u) := fun _ =>
    .ite (fun _ => .bind (modifyApp_leaves (fun _ => rfl) fun _ => rfl) hreport) fun _ => hreport ()
  have hretried : ∀ u, Leaves (retried u) := fun _ => by
    simp only [retried]
    split
    · refine .ite (fun _ => .bind instantNow_leaves fun _ => ?_) fun _ => ?_
      · exact .bind (modifyApp_leaves (fun _ => rfl) fun _ => rfl) hclosed
      · exact .bind (modifyApp_leaves (fun _ => rfl) fun _ => rfl) hclosed
    · exact hclosed ()
  exact .ite (fun _ => .bind (modifyApp_leaves (fun _ => rfl) fun _ => rfl) hretried) fun _ => hretried ()

theorem takePending_leaves (id : String) : Leaves (takePending id : ClientM P (Option BackgroundRequest)) :=
  .ite (fun _ => .pure _) fun _ => .bind (getApp_leaves _) fun _ =>
    .bind (modifyApp_leaves (fun _ => rfl) fun _ => rfl) fun _ => .pure _

/-! ## Timers and restarts -/

theorem autosaveDraft_leaves : Leaves (autosaveDraft env : ClientM P Unit) :=
  .bind (getApp_leaves _) fun _ => .ite (fun _ => .pure _) fun _ => saveCurrentDraft_leaves

theorem expireBackgroundRequests_leaves : Leaves (expireBackgroundRequests env : ClientM P Unit) := by
  refine .bind instantNow_leaves fun now => .bind (getApp_leaves _) fun _ => .each fun request _ => ?_
  refine .bind (modifyApp_leaves (fun _ => rfl) fun _ => rfl) fun _ => ?_
  cases request.2 with
  | sync => exact modifyApp_leaves (fun _ => rfl) fun _ => rfl
  | outbox id => exact modifyApp_leaves (fun _ => rfl) fun _ => rfl
  | _ => exact .pure _

theorem openNotificationTab_leaves : Leaves (openNotificationTab env : ClientM P Unit) := by
  have hreconcile : Leaves (do
      let reconciled ← Prog.succeeds (reconcilePairingNotifications env)
      if reconciled then pure () else setStatus "通知状态同步失败" : ClientM P Unit) :=
    .bind (.succeeds reconcilePairingNotifications_leaves) fun _ => .ite (fun _ => .pure _) fun _ => setStatus_leaves _
  refine .bind (modifyApp_leaves (fun _ => rfl) fun _ => rfl) fun _ => .bind (getApp_leaves _) fun unread => ?_
  cases unread with
  | none => exact hreconcile
  | some n =>
    exact .bind (markNotificationRead_leaves _) fun _ => .bind refreshNotifications_leaves fun _ => hreconcile

theorem retry_leaves : Leaves (retry env : ClientM P Unit) :=
  .bind (modifyApp_leaves (fun _ => rfl) fun _ => rfl) fun _ => .bind resendOutbox_leaves fun _ => setStatus_leaves _

theorem catchUp_leaves : Leaves (catchUp env : ClientM P Unit) :=
  .bind resendOutbox_leaves fun _ => .bind (.succeeds syncPendingConversationDeletions_leaves) fun _ =>
    .bind (.succeeds sync_leaves) fun _ => .pure _

theorem reconnected_leaves (capabilities : List String) : Leaves (reconnected env capabilities : ClientM P Unit) := by
  refine .bind (.modify fun _ => ⟨rfl, rfl, rfl, rfl⟩) fun _ => ?_
  refine .bind (modifyApp_leaves (fun _ => rfl) fun _ => rfl) fun _ => .bind (getApp_leaves _) fun _ => ?_
  refine .bind (.succeeds (execute_leaves (fun _ => rfl) fun _ => rfl)) fun _ => ?_
  exact .bind (setStatus_leaves _) fun _ => catchUp_leaves

/-- What a restart does once it has read its state. -/
theorem restore_leaves : Leaves (do restorePairingState; restorePairingRequests; catchUp env : ClientM P Unit) := by
  have hstate : Leaves (restorePairingState : ClientM P Unit) := by
    refine .bind (getApp_leaves _) fun pending => .bind (getApp_leaves _) fun saved => ?_
    cases saved with
    | none => exact .pure _
    | some saved =>
      refine .ite (fun _ => .bind (getApp_leaves _) fun _ => .bind (.orFail _ _) fun _ => ?_) fun _ => .pure _
      exact .bind (.ensure _ _) fun _ => .bind (.ofExcept _) fun _ => setPairing_leaves _
  exact .bind hstate fun _ => .bind (modifyApp_leaves (fun _ => rfl) fun _ => rfl) fun _ => catchUp_leaves

end TuiChat
