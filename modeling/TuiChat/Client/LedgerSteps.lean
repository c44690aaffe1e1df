import TuiChat.Client.ActionSteps
import TuiChat.Client.Ledger

/-!
# The methods, change by change

Every method takes the ledger along changes. What only some actions may do is a premise of the methods that
do it; `runAction_alters` discharges it for each action, and the ledger of a client is one that its changes
reach (`ledger_reachable`).
-/

namespace TuiChat

open Lib
open Lib.Prog (Moves wp)
open Relation (ReflTransGen)

variable {P : Primitives} {env : Environment} {C : Ledger P → Change P → Prop}

/-! ## Contacts and notifications -/

theorem upsertContact_alters (bundle : UserBundle) : Alters C (upsertContact env bundle : ClientM P Contact) :=
  .bind (query_alters _) fun old =>
    .bind (executeRecording_aside (fun _ => ⟨rfl, rfl⟩) fun w store hs => by
      rw [Store.putContact_eq hs]
      exact ⟨⟨rfl, rfl, rfl⟩, rfl, rfl⟩) fun _ => .bind (query_alters _) fun _ => .orFail _ _

theorem loadContacts_alters : Alters C (loadContacts env : ClientM P Unit) :=
  .bind (attempt_alters _) fun _ => .modify fun _ => .of_eq fun _ => rfl

theorem loadContactsSelecting_alters (account : Option String) :
    Alters C (loadContactsSelecting env account : ClientM P Unit) :=
  .bind (attempt_alters _) fun _ => .modify fun _ => .of_eq fun _ => rfl

theorem refreshContactsPreserveSelection_alters :
    Alters C (refreshContactsPreserveSelection env : ClientM P Unit) :=
  .bind (getApp_alters _) fun _ => loadContactsSelecting_alters _

theorem refreshNotifications_alters : Alters C (refreshNotifications env : ClientM P Unit) :=
  .bind (getApp_alters _) fun _ => .bind (query_alters _) fun _ => modifyApp_alters fun _ => rfl

theorem saveNotification_note {s s' : Store P} {n : Notification} (h : s.saveNotification n = some s') :
    ∃ createdAtMs, s' = { s with notifications := s.notifications.put { n with createdAtMs } } := by
  unfold Store.saveNotification at h
  split at h
  · next old _ => exact ⟨old.createdAtMs, Store.putNotification_eq h⟩
  · exact ⟨n.createdAtMs, Store.putNotification_eq h⟩

/-- A notification is written under a change that does that. -/
theorem wp_saveNotification {n : Notification} {c : Notification → Change P} {w : World P}
    (heffect : ∀ n s, (c n).effect s = some (s.note n))
    (hC : ∀ createdAtMs past, C (w.ledger past) (c { n with createdAtMs })) :
    wp (saveNotification env n) (fun _ => Changes C w) (fun _ => Changes C w) w := by
  unfold saveNotification
  rw [Prog.wp_bind]
  refine wp_executeRecording (fun _ => .of_eq fun _ => rfl) fun store hs => ?_
  obtain ⟨createdAtMs, rfl⟩ := saveNotification_note hs
  have hsaved : Changes C w { w.ticked with
      store := { w.store with notifications := w.store.notifications.put { n with createdAtMs } } } :=
    .single (c { n with createdAtMs }) (hC createdAtMs) fun past => heffect _ _
  exact hsaved.wp_of (refreshNotifications_alters.wp _)

theorem saveNotification_alters {n : Notification} {c : Notification → Change P}
    (heffect : ∀ n s, (c n).effect s = some (s.note n))
    (hC : ∀ createdAtMs s, C s (c { n with createdAtMs })) : Alters C (saveNotification env n) :=
  .of_wp fun _ => wp_saveNotification heffect fun createdAtMs _ => hC createdAtMs _

/-- Where no change is made the ledger stays. -/
theorem Changes.unmoved {w w' : World P} (h : Changes (fun _ _ => False) w w') (past : List (Change P)) :
    w'.ledger past = w.ledger past := by
  obtain ⟨past', h'⟩ := h past
  cases h'.cases_tail with
  | inl he => exact congrArg (fun s : Ledger P => { s with past }) he
  | inr h => exact h.elim fun _ ⟨_, _, hc, _⟩ => hc.elim

/-- What leaves the ledger alone, before what changes it. -/
theorem wp_unmoved {α β : Type} {m : ClientM P α} {k : α → ClientM P β} {w : World P}
    (hm : Alters (fun _ _ => False) m)
    (hk : ∀ a w', (∀ past, w'.ledger past = w.ledger past) →
      wp (k a) (fun _ => Changes C w') (fun _ => Changes C w') w') :
    wp (m >>= k) (fun _ => Changes C w) (fun _ => Changes C w) w := by
  refine hm.wp_bind (fun _ w' h => .of_eq h.unmoved) fun a w' h => ?_
  have hmoved : Changes C w w' := .of_eq h.unmoved
  exact hmoved.wp_of (hk a w' h.unmoved)

/-- A notification in the state of the older one of its request. -/
theorem wp_saveKeeping [Admits env C] {n : Notification} {w : World P}
    (hstate : n.state = ((w.store.notifications.find n.requestId).map Notification.state).getD .pending) :
    wp (saveNotification env n) (fun _ => Changes C w) (fun _ => Changes C w) w := by
  refine wp_saveNotification (c := .noted) (fun _ _ => rfl) fun _ past => admitted env fun hanswered => ?_
  cases hold : w.store.notifications.find n.requestId with
  | none =>
    rw [hold] at hstate
    rw [show n.state = .pending from hstate] at hanswered
    cases hanswered
  | some old =>
    rw [hold] at hstate
    rw [show n.state = old.state from hstate] at hanswered
    exact ⟨old, Table.mem_of_find hold, Table.key_of_find hold, hanswered⟩

theorem store_notifications_eq {w w' : World P} (h : ∀ past, w'.ledger past = w.ledger past) :
    w'.store.notifications = w.store.notifications := congrArg Ledger.notifications (h [])

theorem savePairingNotification_alters [Admits env C] (r : PairingRequest) :
    Alters C (savePairingNotification env r : ClientM P Unit) := .of_wp fun w => by
  refine wp.orFail (refl_of _ w) fun _ _ => ?_
  rw [Prog.wp_bind]
  refine wp_query ?_ fun _ => .of_eq fun _ => rfl
  have hticked : Changes C w w.ticked := .of_eq fun _ => rfl
  refine hticked.wp_of (wp_unmoved nowMs_alters fun _ _ h₁ => wp_unmoved newUuid_alters fun _ _ h₂ =>
    wp_unmoved (getApp_alters _) fun _ _ h₃ => wp_saveKeeping ?_)
  rw [store_notifications_eq h₃, store_notifications_eq h₂, store_notifications_eq h₁]
  rfl

theorem savePendingPairingNotification_alters [Admits env C] (id device name : String) (key : Bytes) :
    Alters C (savePendingPairingNotification env id device name key : ClientM P Unit) :=
  .bind (query_alters _) fun _ => .bind nowMs_alters fun _ => .bind newUuid_alters fun _ =>
    .bind (getApp_alters _) fun _ => saveNotification_alters (c := .noted) (fun _ _ => rfl)
      fun _ _ => admitted env nofun

theorem saveRequestNotification_alters [Admits env C] (outgoing : Bool) (id : String) (peer : UserBundle)
    (device : String) (read : Bool) :
    Alters C (saveRequestNotification env outgoing id peer device read : ClientM P Unit) := .of_wp fun w => by
  unfold saveRequestNotification notificationByRequestId
  rw [Prog.wp_bind]
  refine wp_query ?_ fun _ => .of_eq fun _ => rfl
  have hticked : Changes C w w.ticked := .of_eq fun _ => rfl
  refine hticked.wp_of (wp_unmoved nowMs_alters fun _ _ h₁ => wp_unmoved newUuid_alters fun _ _ h₂ =>
    wp_saveKeeping ?_)
  rw [store_notifications_eq h₂, store_notifications_eq h₁]
  rfl

/-- An answer is stored under the id and the actor of its request. -/
theorem wp_saveChatResponseNotification {n : Notification} {accepted read : Bool}
    {c : Notification → Change P} {w : World P} (heffect : ∀ n s, (c n).effect s = some (s.note n))
    (hC : ∀ n', n'.requestId = n.requestId → n'.actorAccountId = n.actorAccountId → ∀ past, C (w.ledger past) (c n')) :
    wp (saveChatResponseNotification env n accepted read) (fun _ => Changes C w) (fun _ => Changes C w) w := by
  refine wp_unmoved nowMs_alters fun now w₁ h₁ => wp_saveNotification heffect fun createdAtMs past => ?_
  rw [h₁]
  exact hC _ (by rfl) (by rfl) past

theorem saveChatResponseNotification_alters {n : Notification} {accepted read : Bool}
    {c : Notification → Change P} (heffect : ∀ n s, (c n).effect s = some (s.note n))
    (hC : ∀ n', n'.requestId = n.requestId → ∀ s, C s (c n')) :
    Alters C (saveChatResponseNotification env n accepted read : ClientM P Unit) :=
  .of_wp fun _ => wp_saveChatResponseNotification heffect fun n' hn' _ _ => hC n' hn' _

theorem markNotificationState_alters [Admits env C] (id : String) {state : NotificationState}
    (hstate : state.answered = false) (read : Bool) :
    Alters C (markNotificationState env id state read : ClientM P Unit) :=
  .bind nowMs_alters fun now => .bind (executeRecording_change (fun _ => ⟨rfl, rfl⟩) fun w store hs =>
    ⟨.marked id state read now, fun _ => admitted env hstate, fun past => by
      cases hs
      rfl⟩) fun _ => refreshNotifications_alters

theorem markNotificationRead_alters [Admits env C] (id : String) :
    Alters C (markNotificationRead env id : ClientM P Unit) :=
  .bind nowMs_alters fun now => executeRecording_change (fun _ => ⟨rfl, rfl⟩) fun w store hs =>
    ⟨.seen id now, fun _ => admitted env True.intro, fun past => by
      cases hs
      rfl⟩

/-! ## Lookups -/

theorem cacheBundle_alters (bundle : UserBundle) : Alters C (cacheBundle env bundle : ClientM P Unit) :=
  .bind instantNow_alters fun _ => modifyApp_alters fun _ => rfl

theorem lookupBundleFresh_alters (username : String) :
    Alters C (lookupBundleFresh env username : ClientM P UserBundle) :=
  .bind (request_alters _) fun _ => .bind (.orFail _ _) fun _ => .bind (cacheBundle_alters _) fun _ => .pure _

theorem lookupBundle_alters (username : String) :
    Alters C (lookupBundle env username : ClientM P UserBundle) :=
  .bind (getApp_alters _) fun cached => by
    cases cached with
    | none => exact lookupBundleFresh_alters username
    | some entry =>
      exact .bind instantNow_alters fun _ => .ite (fun _ => .pure _) fun _ => lookupBundleFresh_alters username

theorem lookupValidBundle_alters (username : String) :
    Alters C (lookupValidBundle env username : ClientM P UserBundle) :=
  .bind (lookupBundleFresh_alters _) fun _ => .bind (.ofExcept _) fun _ => .pure _

theorem ownBundle_alters {lookup : String → ClientM P UserBundle} (h : ∀ u, Alters C (lookup u)) :
    Alters C (ownBundle lookup) :=
  .bind (getApp_alters _) fun _ => .bind (h _) fun _ => .bind (.ensure _ _) fun _ => .pure _

/-! ## Encryption and queueing -/

theorem encryptFor_alters (m : OlmMachine P.olm) (d : DeviceBundle) (account : String) (payload : Bytes) :
    Alters C (encryptFor env m d account payload : ClientM P (EncryptedOlm × OlmMachine P.olm)) := by
  have hencrypt : Alters C (encryptOlm env m d account payload : ClientM P (EncryptedOlm × OlmMachine P.olm)) := by
    unfold encryptOlm
    refine .ite (fun _ => .bind draw_alters fun _ => .ofExcept _) fun _ => ?_
    refine .bind (request_alters _) fun _ => .bind (.orFail _ _) fun _ => .bind (.orFail _ _) fun _ => ?_
    refine .bind (.orFail _ _) fun _ => .bind (.ensure _ _) fun _ => .bind (.ofExcept _) fun _ => ?_
    exact .bind (.ensure _ _) fun _ => .bind (.ensure _ _) fun _ => .bind draw_alters fun _ => .ofExcept _
  exact .bind hencrypt fun _ => .bind (record_alters rfl rfl) fun _ => .pure _

/-- The envelopes of a message are for its targets. -/
theorem wp_encryptTargets (o : Outgoing) : ∀ (targets : List Target) (m : OlmMachine P.olm) (w : World P),
    wp (encryptTargets env o m targets) (fun r w' => Changes C w w' ∧ Addressed o targets r.1)
      (fun _ => Changes C w) w
  | [], _, w => ⟨refl_of _ w, .nil⟩
  | t :: ts, m, w => by
    have hrefl : Changes C w w := refl_of _ w
    unfold encryptTargets
    refine wp.ofExcept (fun _ => hrefl) fun _ _ => ?_
    refine (encryptFor_alters m t.device t.accountId o.payload).wp_bind (fun _ _ h => h) fun r w₁ hw₁ => ?_
    refine newUuid_alters.wp_bind (fun _ _ h => IsTrans.trans _ _ _ hw₁ h) fun id w₂ hw₂ => ?_
    have hw : Changes C w w₂ := IsTrans.trans _ _ _ hw₁ hw₂
    rw [Prog.wp_bind]
    refine (wp_encryptTargets o ts r.2 w₂).mono (fun r' w₃ h₃ => ?_) fun _ _ h => IsTrans.trans _ _ _ hw h
    obtain ⟨hw₃, haddressed⟩ := h₃
    exact ⟨IsTrans.trans _ _ _ hw hw₃, .cons ⟨rfl, rfl, rfl, rfl, rfl⟩ haddressed⟩

theorem Addressed.ids {o : Outgoing} {targets : List Target} {envelopes : List EncryptedEnvelope}
    (h : Addressed o targets envelopes) : ∀ e ∈ envelopes, e.logicalMessageId = o.logicalId := by
  intro e he
  induction h with
  | nil => cases he
  | cons h _ ih =>
    rcases List.mem_cons.1 he with rfl | he
    · exact h.1
    · exact ih he

/-- The envelopes of a message, before what goes on with them. -/
theorem wp_encryptBefore {α : Type} {o : Outgoing} {targets : List Target} {m : OlmMachine P.olm} {w : World P}
    {k : List EncryptedEnvelope × OlmMachine P.olm → ClientM P α}
    (hk : ∀ r w', (∀ past, w'.ledger past = w.ledger past) → Encrypts P env o targets r.1 →
      Addressed o targets r.1 → wp (k r) (fun _ => Changes C w') (fun _ => Changes C w') w') :
    wp (encryptTargets env o m targets >>= k) (fun _ => Changes C w) (fun _ => Changes C w) w := by
  rw [Prog.wp_bind]
  refine (wp_encryptTargets (C := fun _ _ => False) o targets m w).exec.mono
    (fun r w' ⟨⟨hw, haddressed⟩, hexec⟩ => ?_) fun _ _ h => .of_eq h.1.unmoved
  have hmoved : Changes C w w' := .of_eq hw.unmoved
  exact hmoved.wp_of (hk r w' hw.unmoved ⟨m, r.2, w, w', hexec⟩ haddressed)

theorem encryptThen_alters {α : Type} {o : Outgoing} {targets : List Target} {m : OlmMachine P.olm}
    {k : List EncryptedEnvelope × OlmMachine P.olm → ClientM P α}
    (hk : ∀ r, (∀ e ∈ r.1, e.logicalMessageId = o.logicalId) → Alters C (k r)) :
    Alters C (encryptTargets env o m targets >>= k) :=
  .of_wp fun _ => wp_encryptBefore fun r w' _ _ haddressed => (hk r haddressed.ids).wp w'

theorem wp_commitMachine_changes {m : OlmMachine P.olm} {f : RuntimeProfile P → World P → Option (Store P)}
    {events : World P → List Event} {w : World P}
    (h : ∀ w' store, (∀ past, w'.ledger past = w.ledger past) → f w'.app.profile w' = some store →
      Changes C w' { w' with store, log := events w' ++ w'.log }) :
    wp (commitMachine env m f events) (fun _ => Changes C w) (fun _ => Changes C w) w := by
  refine wp_commitMachine (fun _ => .of_eq fun _ => rfl) fun store hs => ?_
  exact h (w.withMachine m).ticked store (fun _ => rfl) hs

theorem commitMachine_alters {m : OlmMachine P.olm} {f : RuntimeProfile P → World P → Option (Store P)}
    {events : World P → List Event}
    (h : ∀ w store, f w.app.profile w = some store → Changes C w { w with store, log := events w ++ w.log }) :
    Alters C (commitMachine env m f events) :=
  .of_wp fun _ => wp_commitMachine_changes fun w' store _ => h w' store

/-- The profile is stored before the rest of a transaction. -/
theorem Changes.saved (hC : ∀ s, C s .saved) {w w' : World P}
    (h : Changes C { w with store := { w.store with profile := w.app.profile } } w') : Changes C w w' := by
  have hsaved : Changes C w { w with store := { w.store with profile := w.app.profile } } :=
    .single .saved (fun _ => hC _) fun _ => rfl
  exact IsTrans.trans _ _ _ hsaved h

theorem dispatchBackground_alters (f : Frame) (operation : BackgroundRequest) :
    Alters C (dispatchBackground env f operation : ClientM P Unit) :=
  .bind (getApp_alters _) fun _ => .bind newUuid_alters fun _ => .bind (sendFrame_alters _) fun _ =>
    .bind instantNow_alters fun _ => modifyApp_alters fun _ => rfl

/-- Envelopes of one message are stored under a change that queues their row. -/
theorem wp_queueControl {id : String} {envelopes : List EncryptedEnvelope} {m : OlmMachine P.olm}
    {c : OutboxRow → Change P} {w : World P} (hsaved : ∀ s, C s .saved)
    (hids : ∀ e ∈ envelopes, e.logicalMessageId = id)
    (heffect : ∀ row s, (c row).effect s = s.statement (.queued row))
    (hC : ∀ row, row.logicalMessageId = id → row.envelopes = envelopes →
      ∀ s : Ledger P, s.owner = w.app.profile.owner → s.tables = w.persisted → C s (c row)) :
    wp (queueControl env id envelopes m) (fun _ => Changes C w) (fun _ => Changes C w) w := by
  refine wp_unmoved newUuid_alters fun uuid w₁ h₁ => wp_unmoved nowMs_alters fun now w₂ h₂ => ?_
  rw [Prog.wp_bind]
  refine (wp_commitMachine_changes fun w₃ store h₃ hs => ?_).mono
    (fun _ w' h => h.wp_of ((dispatchBackground_alters _ _).wp w')) fun _ _ h => h
  cases hs
  let row : OutboxRow :=
    { logicalMessageId := id, encodedFrame := frame uuid (.sendEnvelopes { envelopes }), createdAtMs := now }
  have hledger : ∀ past, w₃.ledger past = w.ledger past := fun past =>
    (h₃ past).trans ((h₂ past).trans (h₁ past))
  refine .saved hsaved (.single (c row) (fun past => hC row rfl rfl _ ?_ ?_) fun past => ?_)
  · exact congrArg Ledger.owner (hledger past)
  · exact congrArg Ledger.tables (hledger past)
  · rw [heffect]
    unfold Ledger.statement
    rw [show Statement.run _ (.queued row) = some _ from if_pos hids]
    rfl

theorem queueControl_alters [Admits env C] {id : String} {envelopes : List EncryptedEnvelope}
    {m : OlmMachine P.olm} (hids : ∀ e ∈ envelopes, e.logicalMessageId = id) :
    Alters C (queueControl env id envelopes m : ClientM P Unit) := .of_wp fun _ =>
  wp_queueControl (c := fun row => .stated (.queued row)) (fun _ => admitted env True.intro) hids (fun _ _ => rfl)
    fun _ _ _ _ _ _ => admitted env True.intro

theorem sendReadReceipts_alters [Admits env C] (recipient : UserBundle) (ids : List String) :
    Alters C (sendReadReceipts env recipient ids : ClientM P Unit) :=
  .bind (.ensure _ _) fun _ => .bind newUuid_alters fun _ => .bind (getApp_alters _) fun _ =>
    .bind nowMs_alters fun _ => .bind (getApp_alters _) fun _ =>
      encryptThen_alters fun _ hids => queueControl_alters hids

theorem sendChatRequest_alters [Admits env C] (recipient : UserBundle) :
    Alters C (sendChatRequest env recipient : ClientM P Unit) := by
  refine .bind (getApp_alters _) fun pending => .ite (fun _ => setStatus_alters _) fun _ => ?_
  refine .bind (.ofExcept _) fun _ => .bind (ownBundle_alters lookupValidBundle_alters) fun _ => ?_
  refine .bind newUuid_alters fun _ => .bind nowMs_alters fun _ => .bind (getApp_alters _) fun _ => ?_
  refine .bind (getApp_alters _) fun _ => encryptThen_alters fun r hids => .bind (.ensure _ _) fun _ => ?_
  refine encryptThen_alters fun r' hids' => .bind (saveRequestNotification_alters _ _ _ _ _) fun _ => ?_
  refine .bind (queueControl_alters fun e he => ?_) fun _ => setStatus_alters _
  exact (List.mem_append.1 he).elim (hids e) (hids' e)

theorem sendChatDecision_alters [Admits env C] (recipient : UserBundle) (requestId : String) (accepted : Bool) :
    Alters C (sendChatDecision env recipient requestId accepted : ClientM P Unit) := by
  refine .bind (.ofExcept _) fun _ => .bind (ownBundle_alters lookupValidBundle_alters) fun _ => ?_
  refine .bind newUuid_alters fun _ => .bind nowMs_alters fun _ => .bind (getApp_alters _) fun _ => ?_
  refine .bind (getApp_alters _) fun _ => encryptThen_alters fun r hids => .bind (.ensure _ _) fun _ => ?_
  refine encryptThen_alters fun r' hids' => queueControl_alters fun e he => ?_
  exact (List.mem_append.1 he).elim (hids e) (hids' e)

/-! ## Deletions, told to other devices -/

/-- The event of a listed deletion, or its end if there is nobody to tell. -/
theorem wp_sendConversationDeletion {bundle : UserBundle} {t : ConversationTombstone} {w : World P}
    (hbundle : OwnBundle env w.app.profile.owner bundle) (ht : w.persisted.Lists t) :
    wp (sendConversationDeletion env (targetsBut w.app.profile.owner.deviceId bundle) t)
      (fun _ => Changes (Change.Syncs env) w) (fun _ => Changes (Change.Syncs env) w) w := by
  have howner : ∀ {w₁ w₂ : World P}, (∀ past, w₂.ledger past = w₁.ledger past) →
      w₂.app.profile.owner = w₁.app.profile.owner := fun h => congrArg Ledger.owner (h [])
  refine wp_unmoved (query_alters _) fun queued w₁ h₁ => ?_
  rw [Prog.wp_ite, Prog.wp_ite]
  refine ⟨fun _ => (Prog.wp_pure ()).2 (refl_of _ w₁), fun _ => ⟨fun hnone => ?_, fun hsome => ?_⟩⟩
  · refine wp_executeChange (fun _ => ⟨rfl, rfl⟩) fun w' store h' hs =>
      ⟨.unaddressed t.syncEventId, fun past => ⟨⟨bundle, ?_⟩, True.intro⟩, fun past => by
        cases hs
        rfl⟩
    have heq : (w'.ledger past).owner = w.app.profile.owner := (howner h').trans (howner h₁)
    rw [heq]
    exact ⟨hbundle, hnone⟩
  · rw [wp_getApp_bind]
    refine wp.ensure (refl_of _ w₁) fun _ => wp_unmoved (getApp_alters _) fun machine w₂ h₂ => ?_
    refine wp_encryptBefore fun r w₃ h₃ hencrypts haddressed => ?_
    refine wp_queueControl (c := .announced t) (fun _ => ⟨True.intro, True.intro⟩) haddressed.ids
      (fun _ _ => rfl) fun row hid henvelopes s hs htables => ⟨⟨?_, bundle, ?_⟩, True.intro⟩
    · have heq : s.tables = w.persisted := htables.trans
        (congrArg Ledger.tables ((h₃ []).trans ((h₂ []).trans (h₁ []))))
      rw [heq]
      exact ht
    · have heq : s.owner = w.app.profile.owner := hs.trans ((howner h₃).trans ((howner h₂).trans (howner h₁)))
      have hevent : deletionEvent w₁.app.profile.owner t = deletionEvent w.app.profile.owner t := by
        rw [howner h₁]
      rw [heq, henvelopes, ← hevent]
      exact ⟨hbundle, hsome, hid, hencrypts⟩

/-- A fresh bundle is one that the server has given. -/
theorem wp_lookupBundleFresh {username : String} {w : World P} :
    wp (lookupBundleFresh env username)
      (fun bundle w' => (∀ past, w'.ledger past = w.ledger past) ∧
        ∃ n, env.answer n (.lookupUser { exactUsername := username }) = .ok (some (.userBundle bundle)))
      (fun _ w' => ∀ past, w'.ledger past = w.ledger past) w := by
  let body : Body := .lookupUser { exactUsername := username }
  have hrequest : wp (request env body) (fun r _ => ∃ n, env.answer n body = .ok r) (fun _ _ => True) w := by
    refine newUuid_alters.wp_bind (R := Changes fun _ _ => False) (fun _ _ _ => True.intro) fun id w₁ _ => ?_
    refine (sendFrame_alters _).wp_bind (R := Changes fun _ _ => False) (fun _ _ _ => True.intro) fun _ w₂ _ => ?_
    refine draw_alters.wp_bind (R := Changes fun _ _ => False) (fun _ _ _ => True.intro) fun n w₃ _ => ?_
    split
    · exact True.intro
    · exact True.intro
    · next _ h => exact ⟨n, h⟩
  have halters : Alters (fun _ _ => False) (lookupBundleFresh env username : ClientM P UserBundle) :=
    lookupBundleFresh_alters username
  suffices hanswer : wp (lookupBundleFresh env username : ClientM P UserBundle)
      (fun bundle _ => ∃ n, env.answer n body = .ok (some (.userBundle bundle))) (fun _ _ => True) w from
    ((halters.wp w).and hanswer).mono (fun _ _ h => ⟨h.1.unmoved, h.2⟩) fun _ _ h => h.1.unmoved
  refine hrequest.bind fun r w₁ ⟨n, hn⟩ => wp.orFail True.intro fun bundle hbundle => ?_
  refine (cacheBundle_alters (C := fun _ _ => False) bundle).wp_bind (fun _ _ _ => True.intro) fun _ _ _ => ⟨n, ?_⟩
  obtain ⟨body', rfl, hbody'⟩ := Option.bind_eq_some_iff.1 hbundle
  cases body' with
  | userBundle m =>
    cases hbody'
    exact hn
  | _ => cases hbody'

theorem Change.run_eq {s s' : Ledger P} {c : Change P} (h : c.run s = some s') :
    ∃ s₁, c.effect s = some s₁ ∧ s' = { s₁ with past := c :: s.past } := by
  obtain ⟨s₁, hs₁, rfl⟩ := Option.map_eq_some_iff.1 h
  exact ⟨s₁, hs₁, rfl⟩

theorem Persisted.Lists.markSynced {s : Persisted} {t : ConversationTombstone} (h : s.Lists t) (id : String) :
    (s.markSynced id).Lists t := by
  obtain ⟨pendingSync, ht⟩ := h
  have hmem := Table.mem_update_of_mem (p := fun t => t.syncEventId = id)
    (f := fun t => { t with pendingSync := false }) (fun _ => rfl) ht
  split at hmem
  · exact ⟨false, hmem⟩
  · exact ⟨pendingSync, hmem⟩

/-- What the synchronisation of deletions keeps. -/
theorem Change.Syncs.keeps {s s' : Ledger P} {c : Change P} (hc : c.Syncs env s) (hs : c.run s = some s') :
    s'.owner = s.owner ∧ ∀ t, s.tables.Lists t → s'.tables.Lists t := by
  obtain ⟨s₁, hs₁, rfl⟩ := Change.run_eq hs
  obtain ⟨-, hkind⟩ := hc
  cases c with
  | saved =>
    cases hs₁
    exact ⟨rfl, fun _ h => h⟩
  | announced t row =>
    obtain ⟨tables, htables, rfl⟩ := Option.map_eq_some_iff.1 hs₁
    obtain ⟨-, rfl⟩ := Option.ite_none_right_eq_some.1 htables |>.imp_right Option.some.inj
    exact ⟨rfl, fun _ h => h⟩
  | unaddressed id =>
    cases hs₁
    exact ⟨rfl, fun _ h => h.markSynced id⟩
  | _ => exact hkind.elim

theorem syncPendingConversationDeletions_alters [Admits env C] :
    Alters C (syncPendingConversationDeletions env : ClientM P Unit) := .of_wp fun w => by
  refine wp_unmoved (getApp_alters _) fun idle w₁ h₁ => ?_
  rw [Prog.wp_ite]
  refine ⟨fun _ => (Prog.wp_pure ()).2 (refl_of _ w₁), fun _ => ?_⟩
  rw [Prog.wp_bind]
  refine wp_query ?_ fun _ => .of_eq fun _ => rfl
  rw [Prog.wp_ite]
  refine ⟨fun _ => (Prog.wp_pure ()).2 (.of_eq fun _ => rfl), fun _ => ?_⟩
  rw [wp_getApp_bind]
  refine wp.bind (wp_lookupBundleFresh.mono (fun _ _ h => h) fun _ _ h => .of_eq h)
    fun bundle w₂ ⟨hledger, n, hn⟩ => ?_
  have hmoved : Changes C w₁ w₂ := .of_eq hledger
  refine hmoved.wp_of ?_
  refine wp.ofExcept (fun _ => refl_of _ w₂) fun _ _ => wp.ensure (refl_of _ w₂) fun hown => ?_
  -- While the deletions are told one by one, the rest of them stays in the table.
  have howner : w₂.app.profile.owner = w₁.app.profile.owner := congrArg Ledger.owner (hledger [])
  let I : World P → Prop := fun w => Changes C w₂ w ∧ w.app.profile.owner = w₁.app.profile.owner ∧
    ∀ t ∈ w₁.store.pendingConversationDeletions, w.persisted.Lists t
  refine wp.mono (Q := fun _ => I) (E := fun _ => Changes C w₂)
    (Prog.wp_each (f := sendConversationDeletion env (targetsBut w₁.app.profile.identity.deviceId bundle)) ?_
      ⟨refl_of _ w₂, howner, ?_⟩) (fun _ _ h => h.1) fun _ _ h => h
  · intro t ht w ⟨hw, hsame, hlists⟩
    have hbundle : OwnBundle env w.app.profile.owner bundle := by
      rw [hsame]
      exact ⟨⟨n, hn⟩, hown.1, hown.2⟩
    have htold := wp_sendConversationDeletion hbundle (hlists t ht)
    rw [hsame] at htold
    have hall : ∀ {w'}, Changes (Change.Syncs env) w w' → Changes C w₂ w' := fun h =>
      IsTrans.trans _ _ _ hw (h.mono fun s c hc => admitted env hc.1)
    refine htold.mono (fun _ w' h => ⟨hall h, ?_⟩) fun _ w' h => hall h
    obtain ⟨past, hpast⟩ := h.invariant [] (I := fun s => s.owner = w₁.app.profile.owner ∧
      ∀ t ∈ w₁.store.pendingConversationDeletions, s.tables.Lists t) ⟨hsame, hlists⟩
      fun s c s' ⟨ho, hl⟩ hc hs => ⟨(hc.keeps hs).1.trans ho, fun t ht => (hc.keeps hs).2 t (hl t ht)⟩
    exact hpast
  · intro t ht
    have hmem : t ∈ w₁.store.tombstones := by
      have hfiltered := (List.mem_insertionSort _).1 ht
      exact (List.mem_filter.1 hfiltered).1
    have htables : w₂.persisted = w₁.persisted := congrArg Ledger.tables (hledger [])
    rw [htables]
    exact ⟨t.pendingSync, hmem⟩

theorem sync_alters : Alters C (sync env : ClientM P Unit) := by
  refine .bind (getApp_alters _) fun _ => .bind (.ensure _ _) fun _ => .bind (getApp_alters _) fun _ => ?_
  refine .ite (fun _ => setStatus_alters _) fun _ => .bind (query_alters _) fun _ => ?_
  exact .bind newUuid_alters fun _ => .bind (dispatchBackground_alters _ _) fun _ =>
    .bind (modifyApp_alters fun _ => rfl) fun _ => setStatus_alters _

theorem resendOutbox_alters : Alters C (resendOutbox env : ClientM P Unit) := by
  refine .bind (.succeeds (attempt_alters _)) fun _ => .ite (fun _ => ?_) fun _ => .pure _
  refine .bind (.gets _) fun items => .bind instantNow_alters fun _ => .bind (modifyApp_alters fun _ => rfl) fun _ => ?_
  refine .each fun item _ => .bind (getApp_alters _) fun _ => .ite (fun _ => .pure _) fun _ => ?_
  exact .bind (.succeeds (.bind (.ensure _ _) fun _ => dispatchBackground_alters _ _)) fun _ =>
    .ite (fun _ => .pure _) fun _ => setStatus_alters _

/-! ## Contacts and conversations -/

set_option linter.unusedSectionVars false

variable [Admits env C]

theorem displayCode_alters {contact : Contact} {f : String → ClientM P Unit} {otherwise : ClientM P Unit}
    (hf : ∀ code, Alters C (f code)) (ho : Alters C otherwise) :
    Alters C (displayCode contact f otherwise) :=
  .bind (getApp_alters _) fun code => by
    cases code with
    | none => exact ho
    | some code => exact .bind (record_alters rfl rfl) fun _ => hf code

theorem showSafetyCode_alters : Alters C (showSafetyCode : ClientM P Unit) :=
  .bind (getApp_alters _) fun selected => by
    cases selected with
    | none => exact .pure _
    | some contact => exact displayCode_alters (fun _ => setStatus_alters _) (setStatus_alters _)

theorem renderNotificationDetail_alters : Alters C (renderNotificationDetail : ClientM P Unit) :=
  .bind (getApp_alters _) fun notification => by
    cases notification with
    | none => exact .pure _
    | some n =>
      refine .ite (fun _ => .bind (getApp_alters _) fun contact => ?_) fun _ => .pure _
      cases contact with
      | none => exact .pure _
      | some contact => exact displayCode_alters (fun _ => .pure _) (.pure _)

theorem clearConversation_alters : Alters C (clearConversation : ClientM P Unit) :=
  .bind (modifyApp_alters fun _ => rfl) fun _ => record_alters rfl rfl

theorem saveDraft_ledger (s : Store P) (conversation text : String) :
    s.SameLedger (s.saveDraft conversation text) := by
  unfold Store.saveDraft
  split <;> exact ⟨⟨rfl, rfl, rfl⟩, rfl, rfl⟩

theorem saveCurrentDraft_alters : Alters C (saveCurrentDraft env : ClientM P Unit) := by
  refine .bind (getApp_alters _) fun selected => .bind (getApp_alters _) fun editor => ?_
  cases selected with
  | none => exact .pure _
  | some contact =>
    exact .ite (fun _ => .pure _) fun _ => .bind (getApp_alters _) fun _ =>
      .bind (execute_some_aside fun s => saveDraft_ledger s _ _) fun _ => modifyApp_alters fun _ => rfl

theorem raiseStatus_ledger (w : World P) (id : String) (status : MessageStatus) (p : ChatMessage → Bool)
    (past : List (Change P)) :
    World.ledger { w with store := w.store.raiseStatus id status p } past =
      { w.ledger past with tables := w.persisted.raise id status p } := by
  have haside : (w.store.raiseStatus id status p).notifications = w.store.notifications ∧
      (w.store.raiseStatus id status p).profile = w.store.profile := by
    unfold Store.raiseStatus
    split
    · exact ⟨rfl, rfl⟩
    · split <;> exact ⟨rfl, rfl⟩
  unfold World.ledger
  rw [Store.raiseStatus_tables, haside.1, haside.2]

theorem raise_alters (id : String) (status : MessageStatus) (p : ChatMessage → Bool) (cause : Raise) :
    Alters C (executeRecording env (fun w => some (w.store.raiseStatus id status p))
      fun _ => [.raised id cause] : ClientM P Unit) :=
  executeRecording_change (fun _ => ⟨rfl, rfl⟩) fun w store hs =>
    ⟨.stated (.raised id status p), fun _ => admitted env True.intro, fun past => by
      cases hs
      exact congrArg some (raiseStatus_ledger w id status p past).symm⟩

theorem markRead_alters (id : String) : Alters C (markRead env id : ClientM P Unit) :=
  .bind (raise_alters id .read (fun _ => true) .readHere) fun _ => modifyApp_alters fun _ => rfl

theorem markSelectedRead_alters : Alters C (markSelectedRead env : ClientM P Unit) := by
  refine .bind (getApp_alters _) fun selected => ?_
  cases selected with
  | none => exact .pure _
  | some contact =>
    refine .bind (getApp_alters _) fun idle => .ite (fun _ => .pure _) fun _ => .bind (getApp_alters _) fun _ => ?_
    refine .bind (.each fun batch _ => .bind (sendReadReceipts_alters _ _) fun _ => ?_) fun _ =>
      refreshContactsPreserveSelection_alters
    exact .each fun id _ => markRead_alters id

theorem loadSelectedMessages_alters : Alters C (loadSelectedMessages env : ClientM P Unit) :=
  .bind (getApp_alters _) fun selected => by
    cases selected with
    | none => exact clearConversation_alters
    | some contact =>
      exact .bind (getApp_alters _) fun _ => .bind (query_alters _) fun _ => .bind (modifyApp_alters fun _ => rfl)
        fun _ => .bind (query_alters _) fun _ => .bind (modifyApp_alters fun _ => rfl) fun _ =>
        .bind (record_alters rfl rfl) fun _ => markSelectedRead_alters

theorem loadOlderMessages_alters : Alters C (loadOlderMessages env : ClientM P Unit) := by
  refine .bind (getApp_alters _) fun _ => .bind (getApp_alters _) fun _ => .bind (getApp_alters _) fun _ => ?_
  split
  · exact .ite (fun _ => .pure _) fun _ => .bind (getApp_alters _) fun _ => .bind (query_alters _) fun _ =>
      modifyApp_alters fun _ => rfl
  · exact .pure _

theorem openContact_alters (username : String) : Alters C (openContact env username : ClientM P Unit) := by
  refine .bind saveCurrentDraft_alters fun _ => .bind (request_alters _) fun _ => .bind (.orFail _ _) fun _ => ?_
  refine .bind (cacheBundle_alters _) fun _ => .bind (.ofExcept _) fun _ => ?_
  refine .bind (upsertContact_alters _) fun contact => ?_
  extract_lets jp
  have hjp : ∀ u, Alters C (jp u) := fun _ =>
    .bind (loadContactsSelecting_alters _) fun _ => .bind loadSelectedMessages_alters fun _ =>
      showSafetyCode_alters
  exact .ite (fun _ => .bind (sendChatRequest_alters _) hjp) fun _ => hjp ()

theorem verifyAccount_alters (account : String) (hC : ∀ s account, C s (.verified account)) :
    Alters C (verifyAccount env account : ClientM P Unit) :=
  .bind (executeRecording_change (fun _ => ⟨rfl, rfl⟩) fun w store hs =>
    ⟨.verified account, fun _ => hC _ _, fun past => by
      cases hs
      rfl⟩) fun _ => modifyApp_alters fun _ => rfl

theorem verifySelected_alters (hC : ∀ s account, C s (.verified account)) :
    Alters C (verifySelected env : ClientM P Unit) := by
  refine .bind (getApp_alters _) fun _ => .bind (.orFail _ _) fun contact => .bind (getApp_alters _) fun _ => ?_
  refine .bind (.ensure _ _) fun _ => .bind (verifyAccount_alters _ hC) fun _ => .bind (getApp_alters _)
    fun response => ?_
  have hjp : Alters C (setStatus "联系人密钥已在本机标记为已核验；请确保你确实通过可信渠道比较过安全码" >>=
      fun _ => sync env : ClientM P Unit) := .bind (setStatus_alters _) fun _ => sync_alters
  cases response with
  | none => exact hjp
  | some n => exact .bind (markNotificationState_alters _ rfl _) fun _ => hjp

theorem showCodeIfUnverified_alters : Alters C (showCodeIfUnverified : ClientM P Unit) :=
  .bind (getApp_alters _) fun selected => by
    cases selected with
    | none => exact .pure _
    | some contact => exact .ite (fun _ => showSafetyCode_alters) fun _ => .pure _

theorem select_alters (index : Nat) : Alters C (select index : ClientM P Unit) := .modify fun _ => .of_eq fun _ => rfl

theorem selectIndex_alters (index : Nat) : Alters C (selectIndex env index : ClientM P Unit) :=
  .bind (getApp_alters _) fun _ => .ite (fun _ => .bind saveCurrentDraft_alters fun _ =>
    .bind (select_alters _) fun _ => .bind loadSelectedMessages_alters fun _ =>
      showCodeIfUnverified_alters) fun _ => .pure _

theorem acceptChatRequest_alters (n : Notification) (hC : ∀ s n, C s (.answered n)) :
    Alters C (acceptChatRequest env n : ClientM P Unit) := by
  unfold acceptChatRequest
  split
  · refine .ite (fun _ => setStatus_alters _) fun _ => .bind (.ensure _ _) fun _ => .bind (.ofExcept _) fun _ => ?_
    refine .bind (upsertContact_alters _) fun _ => .bind (loadContactsSelecting_alters _) fun _ => ?_
    exact .bind loadSelectedMessages_alters fun _ => .bind (sendChatDecision_alters _ _ _) fun _ =>
      .bind (saveChatResponseNotification_alters (fun _ _ => rfl) fun _ _ _ => hC _ _) fun _ => setStatus_alters _
  · exact .fail _

theorem verifyNotificationContact_alters (n : Notification) (hC : ∀ s account, C s (.verified account)) :
    Alters C (verifyNotificationContact env n : ClientM P Unit) :=
  .bind (getApp_alters _) fun _ => .bind (.orFail _ _) fun _ => .bind (select_alters _) fun _ =>
    .bind loadSelectedMessages_alters fun _ => .bind (verifySelected_alters hC) fun _ => setStatus_alters _

theorem rejectSelectedChatRequest_alters (hC : ∀ s n, C s (.answered n)) :
    Alters C (rejectSelectedChatRequest env : ClientM P Unit) := by
  refine .bind (getApp_alters _) fun notification => ?_
  cases notification with
  | none => exact .pure _
  | some n =>
    refine .ite (fun _ => ?_) fun _ => setStatus_alters _
    split
    · refine .ite (fun _ => setStatus_alters _) fun _ => .bind (.ofExcept _) fun _ => ?_
      exact .bind (sendChatDecision_alters _ _ _) fun _ =>
        .bind (saveChatResponseNotification_alters (fun _ _ => rfl) fun _ _ _ => hC _ _) fun _ => setStatus_alters _
    · exact .fail _

/-- The notification that is dismissed is the one that is selected. -/
theorem wp_dismissSelectedNotification {w : World P}
    (hC : ∀ n, w.app.selectedNotification = some n → ∀ now past, C (w.ledger past) (.dismissed n now)) :
    wp (dismissSelectedNotification env) (fun _ => Changes C w) (fun _ => Changes C w) w := by
  have hrefl : Changes C w w := refl_of _ w
  unfold dismissSelectedNotification
  rw [wp_getApp_bind]
  cases hselected : w.app.selectedNotification with
  | none => exact hrefl
  | some n =>
    refine (Prog.wp_ite _ _ _).2 ⟨fun _ => (setStatus_alters _).wp w, fun _ => ?_⟩
    unfold markNotificationState
    rw [Prog.bind_assoc]
    refine wp_unmoved nowMs_alters fun now w₁ h₁ => ?_
    rw [Prog.bind_assoc]
    refine (wp_executeChange (fun _ => ⟨rfl, rfl⟩) fun w₂ store h₂ hs => ?_).bind fun _ w₃ h₃ => h₃.wp_of (Moves.wp ?_ w₃)
    · refine ⟨.dismissed n now, fun past => ?_, fun past => ?_⟩
      · rw [h₂, h₁]
        exact hC n hselected now past
      · cases hs
        rfl
    · exact .bind refreshNotifications_alters fun _ => setStatus_alters _

theorem dismissSelectedNotification_alters (hC : ∀ s n now, C s (.dismissed n now)) :
    Alters C (dismissSelectedNotification env : ClientM P Unit) :=
  .of_wp fun _ => wp_dismissSelectedNotification fun n _ now _ => hC _ n now

theorem selectNotification_alters (index : Nat) :
    Alters C (selectNotification env index : ClientM P Unit) := by
  refine .bind (modifyApp_alters fun _ => rfl) fun _ => .bind (getApp_alters _) fun selected => ?_
  cases selected with
  | none => exact refreshNotifications_alters
  | some n => exact .bind (markNotificationRead_alters _) fun _ => refreshNotifications_alters

/-! ## Texts and deletions -/

theorem insertMessage_ledger {w : World P} {m : ChatMessage} {store : Store P}
    (h : w.store.insertMessage m = some store) (past : List (Change P)) :
    World.ledger { w with store } past = { w.ledger past with tables := w.persisted.insert m } := by
  obtain ⟨hmessages, houtbox, htombstones⟩ := Store.insertMessage_tables h
  have haside : store.notifications = w.store.notifications ∧ store.profile = w.store.profile := by
    unfold Store.insertMessage at h
    split at h
    · cases h
      exact ⟨rfl, rfl⟩
    · obtain ⟨summaries, -, rfl⟩ := Option.map_eq_some_iff.1 h
      exact ⟨rfl, rfl⟩
  simp [World.ledger, World.persisted, Persisted.insert, hmessages, houtbox, htombstones, haside.1, haside.2]

/-- A message of the own account is stored with its frame. -/
theorem commitOutgoing_changes {w : World P} {store : Store P} {m : ChatMessage}
    {envelopes : List EncryptedEnvelope} {queued : Frame} {now : Int} (hsaved : ∀ s, C s .saved)
    (hwritten : ∀ s row, C s (.stated (.written m row)))
    (hbody : queued.body = some (.sendEnvelopes { envelopes })) (hids : ∀ e ∈ envelopes, e.logicalMessageId = m.id)
    (hs : w.store.commitOutgoing w.app.profile m queued now = some store) :
    Changes C w { w with store, log := [.queued { envelopes }] ++ w.log } := by
  obtain ⟨s', hs', rfl⟩ := Option.map_eq_some_iff.1 hs
  let row : OutboxRow := { logicalMessageId := m.id, encodedFrame := queued, createdAtMs := now }
  have henvelopes : row.envelopes = envelopes := by
    unfold OutboxRow.envelopes
    rw [show row.encodedFrame.body = _ from hbody]
  have huniform : row.Uniform := by
    unfold OutboxRow.Uniform
    rw [henvelopes]
    exact hids
  refine .saved hsaved (.single (.stated (.written m row)) (fun _ => hwritten _ _) fun past => ?_)
  have hinserted := insertMessage_ledger (w := { w with store := w.store.saveProfile w.app.profile }) hs' past
  have hrun : Statement.run w.persisted (.written m row) = some ((w.persisted.insert m).offer row) :=
    if_pos ⟨rfl, huniform⟩
  have heffect : Change.effect (World.ledger { w with store := w.store.saveProfile w.app.profile } past)
      (.stated (.written m row)) = some { World.ledger { w with store := s' } past with
        tables := (World.persisted { w with store := s' }).offer row } := by
    have htables : World.persisted { w with store := s' } = w.persisted.insert m := congrArg Ledger.tables hinserted
    rw [hinserted, htables]
    exact congrArg (Option.map _) hrun
  refine heffect.trans (congrArg some ?_)
  unfold Persisted.offer
  rw [henvelopes]
  rfl

theorem sendText_alters (text : String) : Alters C (sendText env text : ClientM P Unit) := by
  refine .bind (.ensure _ _) fun _ => .bind (getApp_alters _) fun _ => .bind (.orFail _ _) fun contact => ?_
  refine .ite (fun _ => .bind showSafetyCode_alters fun _ => .fail _) fun _ => .bind (.ofExcept _) fun _ => ?_
  refine .bind (ownBundle_alters lookupBundle_alters) fun _ => .bind newUuid_alters fun logicalId => ?_
  refine .bind nowMs_alters fun _ => .bind (getApp_alters _) fun _ => .bind (getApp_alters _) fun _ => ?_
  refine encryptThen_alters fun r hids => .bind (.ensure _ _) fun _ => .bind newUuid_alters fun _ => ?_
  refine .bind nowMs_alters fun now => .bind ?_ fun _ => .bind (modifyApp_alters fun _ => rfl) fun _ => ?_
  · exact commitMachine_alters fun w store hs => 
      commitOutgoing_changes (fun _ => admitted env True.intro) (fun _ _ => admitted env True.intro) rfl hids hs
  · refine .bind (.succeeds (dispatchBackground_alters _ _)) fun _ => ?_
    extract_lets jp
    have hjp : ∀ u, Alters C (jp u) := fun _ =>
      .bind (execute_some_aside fun s => saveDraft_ledger s _ _) fun _ => .bind (modifyApp_alters fun _ => rfl) fun _ =>
        refreshContactsPreserveSelection_alters
    exact .ite (fun _ => .bind (setStatus_alters _) hjp) fun _ => .bind (modifyApp_alters fun _ => rfl) hjp

theorem deletion_ledger {w : World P} {store : Store P} {t : ConversationTombstone} (past : List (Change P))
    (h : (w.store.deleteConversationState t.peerAccountId t.conversationId).putTombstone t = some store) :
    (w.ledger past).delete t = some (World.ledger { w with store } past) := by
  obtain ⟨hnone, rfl⟩ := Store.putTombstone_tables h
  unfold Ledger.delete Persisted.delete
  rw [if_neg (by exact Bool.eq_false_iff.1 hnone)]
  rfl

theorem confirmDeleteConversation_alters (account username : String)
    (hC : ∀ s t, t.pendingSync = true → t.peerAccountId = account → C s (.deletedHere t)) :
    Alters C (confirmDeleteConversation env account username : ClientM P Unit) := by
  refine .bind newUuid_alters fun _ => .bind nowMs_alters fun _ => .bind (getApp_alters _) fun _ => ?_
  refine .bind (getApp_alters _) fun _ => .bind ?_ fun _ => .bind (modifyApp_alters fun _ => rfl) fun _ => ?_
  · exact executeRecording_change (fun _ => ⟨rfl, rfl⟩) fun w store hs =>
      ⟨.deletedHere _, fun _ => hC _ _ rfl rfl, fun past => deletion_ledger past hs⟩
  refine .bind (loadContactsSelecting_alters _) fun _ => .bind (getApp_alters _) fun _ => ?_
  extract_lets jp
  have hjp : ∀ u, Alters C (jp u) := fun _ => by
    refine .bind refreshNotifications_alters fun _ => .bind (getApp_alters _) fun _ =>
      .ite (fun _ => ?_) fun _ => setStatus_alters _
    exact .bind (.succeeds syncPendingConversationDeletions_alters) fun _ => setStatus_alters _
  exact .ite (fun _ => .bind clearConversation_alters hjp) fun _ => hjp ()

theorem confirmDeleteNotification_alters (id title requestId : String) :
    Alters C (confirmDeleteNotification env id title requestId : ClientM P Unit) := by
  refine .bind (executeRecording_change (fun _ => ⟨rfl, rfl⟩) fun w store hs =>
    ⟨.unnoted id, fun _ => admitted env True.intro, fun past => by
      cases hs
      rfl⟩) fun _ => .bind (modifyApp_alters fun app => ?_) fun _ => ?_
  · split <;> rfl
  · exact .bind refreshNotifications_alters fun _ => setStatus_alters _

theorem confirmRevokeDevice_alters (device name : String) :
    Alters C (confirmRevokeDevice env device name : ClientM P Unit) :=
  .bind newUuid_alters fun _ => .bind (dispatchBackground_alters _ _) fun _ => setStatus_alters _

/-! ## Batches -/

omit [Admits env C] in
theorem openEnvelope_alters (stored : StoredEnvelope) :
    Alters C (openEnvelope env stored : ClientM P (Opened P)) := by
  refine .bind (.orFail _ _) fun _ => .bind (lookupBundle_alters _) fun _ => .bind (getApp_alters _) fun _ => ?_
  refine .bind ?_ fun _ => .bind (.ofExcept _) fun _ => .bind (.orFail _ _) fun _ => .bind (.ofExcept _) fun _ => ?_
  · unfold senderVerified
    exact .ite (fun _ => .pure _) fun _ => .bind (upsertContact_alters _) fun _ => .pure _
  · exact .bind (getApp_alters _) fun _ => .bind (.ensure _ _) fun _ => .bind (.ofExcept _) fun _ =>
      .bind (record_alters rfl rfl) fun _ => .bind (.orFail _ _) fun _ => .bind (.ensure _ _) fun _ => .pure _

/-- The state with the profile stored. -/
def World.saved (w : World P) : World P := { w with store := { w.store with profile := w.app.profile } }

/-- The transaction of an envelope, under a change that processes it. -/
theorem wp_commitEnvelope {o : Opened P} {f : RuntimeProfile P → Store P → Option (Store P)}
    {events : World P → List Event} (branch : Branch) {w : World P} (hevents : ∀ w, AreAside (events w))
    (hC : ∀ s, s.tables = w.persisted → s.notifications = w.store.notifications → C s (.processed o branch))
    (h : ∀ (w' : World P) (store : Store P) (past : List (Change P)), f w'.app.profile w'.store = some store →
      branch.effect o (w'.saved.ledger past) = some (World.ledger { w' with store } past)) :
    wp (commitEnvelope env o f events) (fun _ => Changes C w) (fun _ => Changes C w) w := by
  unfold commitEnvelope
  rw [Prog.wp_bind]
  refine (wp_commitMachine_changes fun w' store h' hs => ?_).mono
    (fun _ w' h => h.wp_of ((notify_alters _).wp w')) fun _ _ h => h
  refine .saved (fun _ => admitted env True.intro) (.single (.processed o branch)
    (fun past => hC _ (congrArg Ledger.tables (h' past)) (congrArg Ledger.notifications (h' past))) fun past => ?_)
  have heffect := h w' store past hs
  refine (congrArg (Option.map _) heffect).trans (congrArg some ?_)
  simp [World.ledger, World.persisted, (hevents w').1, (hevents w').2, Event.offered, Event.handledEnvelope]

theorem commitEnvelope_alters {o : Opened P} {f : RuntimeProfile P → Store P → Option (Store P)}
    {events : World P → List Event} (branch : Branch) (hevents : ∀ w, AreAside (events w))
    (hC : ∀ s, C s (.processed o branch))
    (h : ∀ (w : World P) (store : Store P) (past : List (Change P)), f w.app.profile w.store = some store →
      branch.effect o (w.saved.ledger past) = some (World.ledger { w with store } past)) :
    Alters C (commitEnvelope env o f events) :=
  .of_wp fun _ => wp_commitEnvelope branch hevents (fun s _ _ => hC s) h

theorem commitControl_alters {o : Opened P} (hC : ∀ s, C s (.processed o .control)) :
    Alters C (commitControl env o : ClientM P Unit) :=
  commitEnvelope_alters .control (fun _ => ⟨rfl, rfl⟩) hC fun w store past hs => by
    cases hs
    rfl

theorem ignoreTombstonedText_alters {o : Opened P} {w : World P}
    (hC : ∀ s, s.tables = w.persisted → C s (.processed o .suppressed)) :
    wp (ignoreTombstonedText env o) (fun _ => Changes C w) (fun _ => Changes C w) w := by
  unfold ignoreTombstonedText
  rw [Prog.wp_bind]
  refine (wp_commitEnvelope .suppressed (fun _ => ⟨rfl, rfl⟩) (fun s hs _ => hC s hs)
    fun w store past hs => ?_).mono (fun _ w' h => h.wp_of ((setStatus_alters _).wp w')) fun _ _ h => h
  cases hs
  rfl

theorem handleConversationDeleted_alters (o : Opened P)
    (hC : o.senderIsSelf = true → ∀ s, C s (.processed o .deleted)) :
    Alters C (handleConversationDeleted env o : ClientM P Unit) := .of_wp fun w => by
  refine wp_unmoved (getApp_alters _) fun ownId w₁ h₁ => wp.ensure (refl_of _ w₁) fun hchecked => ?_
  refine wp_unmoved (getApp_alters _) fun selected w₂ h₂ => Moves.wp (.bind ?_ fun _ => ?_) w₂
  · refine commitEnvelope_alters .deleted (fun _ => ⟨rfl, rfl⟩) (hC hchecked.1) fun w store past hs => ?_
    obtain ⟨s', hs', rfl⟩ := Option.map_eq_some_iff.1 hs
    obtain ⟨hnone, rfl⟩ := Store.putTombstone_tables hs'
    unfold Branch.effect Ledger.delete Persisted.delete
    dsimp only
    rw [if_neg (by exact Bool.eq_false_iff.1 hnone)]
    rfl
  · refine .bind (modifyApp_alters fun _ => rfl) fun _ => .bind (loadContactsSelecting_alters _) fun _ => ?_
    extract_lets jp
    have hjp : ∀ u, Alters C (jp u) := fun _ => .bind refreshNotifications_alters fun _ => setStatus_alters _
    exact .ite (fun _ => .bind clearConversation_alters hjp) fun _ => hjp ()

/-- A message that came in an envelope. -/
theorem received_ledger {w : World P} {store : Store P} {m : ChatMessage} (hm : m.status = .delivered)
    (h : (w.store.saveProfile w.app.profile).insertMessage m = some store) (past : List (Change P)) :
    (w.saved.ledger past).statement (.received m) = some (World.ledger { w with store } past) := by
  have hinserted := insertMessage_ledger (w := w.saved) h past
  have hrun : Statement.run w.persisted (.received m) = some (w.persisted.insert m) := if_pos hm
  exact (congrArg (Option.map _) hrun).trans (congrArg some hinserted.symm)

/-- The request to authenticate a sender keeps the answer it has had. -/
theorem quarantineNotification_keeps {o : Opened P} {s : Ledger P} {now : Int} {fresh : String} :
    s.Keeps (quarantineNotification o (s.notifications.find ("reauth-" ++ o.envelope.conversationId)) now fresh) := by
  intro hanswered
  unfold quarantineNotification at hanswered ⊢
  dsimp only at hanswered ⊢
  split at hanswered
  · next n hn =>
    obtain ⟨hfound, -⟩ := Option.filter_eq_some_iff.1 hn
    exact ⟨n, Table.mem_of_find hfound, rfl, hanswered⟩
  · cases hanswered

/-- A text of a sender that is not verified. -/
theorem quarantineText_alters (o : Opened P)
    (hC : ∀ s n, o.payload.kind = "text" → s.Keeps n → C s (.processed o (.quarantined n))) :
    Alters C (quarantineText env o : ClientM P Unit) := .of_wp fun w => by
  refine wp_unmoved (getApp_alters _) fun ownId w₁ h₁ => wp.ensure (refl_of _ w₁) fun hchecked => ?_
  refine wp_unmoved nowMs_alters fun now w₂ h₂ => ?_
  unfold notificationByRequestId
  rw [Prog.wp_bind]
  refine wp_query ?_ fun _ => .of_eq fun _ => rfl
  have hticked : Changes C w₂ w₂.ticked := .of_eq fun _ => rfl
  refine hticked.wp_of (wp_unmoved newUuid_alters fun fresh w₃ h₃ => ?_)
  have hnotifications : w₃.store.notifications = w₂.store.notifications := store_notifications_eq h₃
  let n := quarantineNotification o
    (w₂.store.notifications.find ("reauth-" ++ o.envelope.conversationId)) now fresh
  rw [Prog.wp_bind]
  refine (wp_commitEnvelope (.quarantined n) (fun _ => ⟨rfl, rfl⟩)
    (fun s _ hs => hC s n hchecked.1 ?_) fun w store past hs => ?_).mono (fun _ w' h => h.wp_of (Moves.wp (.bind
      loadContacts_alters fun _ => .bind refreshNotifications_alters fun _ => setStatus_alters _) w')) fun _ _ h => h
  · have hn : n = quarantineNotification o
        (s.notifications.find ("reauth-" ++ o.envelope.conversationId)) now fresh := by rw [hs, hnotifications]
    rw [hn]
    exact quarantineNotification_keeps
  · obtain ⟨s₂, hs₂, rfl⟩ := Option.map_eq_some_iff.1 hs
    obtain ⟨s₁, hs₁, hs₂⟩ := Option.bind_eq_some_iff.1 hs₂
    obtain rfl := Store.putNotification_eq hs₂
    unfold Branch.effect
    rw [received_ledger (by rfl) hs₁]
    rfl

theorem handleRead_alters (o : Opened P) (hC : ∀ s, C s (.processed o .control)) :
    Alters C (handleRead env o : ClientM P Unit) := by
  unfold handleRead
  have hread : ∀ related, Alters C (readByPeer env o.stored.senderAccountId related : ClientM P Unit) :=
    fun related => .bind (raise_alters related .read _ (.readBy _)) fun _ => modifyApp_alters fun _ => rfl
  have hjp : ∀ relatedIds, Alters C (do
      Prog.ensure (relatedIds ≠ [] ∧ relatedIds.length ≤ 100) "已读回执批量大小无效"
      Prog.each (readByPeer env o.stored.senderAccountId) relatedIds
      commitControl env o : ClientM P Unit) := fun _ =>
    .bind (.ensure _ _) fun _ => .bind (.each fun related _ => hread related) fun _ => commitControl_alters hC
  exact .ite (fun _ => .bind (.orFail _ _) fun _ => .bind (.pure _) hjp) fun _ => .bind (.pure _) hjp

theorem handleChatRequest_alters (o : Opened P) (hC : ∀ s, C s (.processed o .control)) :
    Alters C (handleChatRequest env o : ClientM P Unit) := by
  have hown : Alters C (syncOwnChatRequest env o : ClientM P Unit) := by
    refine .bind (getApp_alters _) fun _ => .bind (.ensure _ _) fun _ => .bind (lookupBundle_alters _) fun _ => ?_
    exact .bind (.ensure _ _) fun _ => .bind (.ofExcept _) fun _ => .bind (upsertContact_alters _) fun _ =>
      saveRequestNotification_alters _ _ _ _ _
  refine .bind (getApp_alters _) fun _ => ?_
  extract_lets jp
  have hjp : ∀ u, Alters C (jp u) := fun _ =>
    .bind loadContacts_alters fun _ => .bind (commitControl_alters hC) fun _ => setStatus_alters _
  exact .ite (fun _ => .bind hown hjp) fun _ => .bind (.ensure _ _) fun _ =>
    .bind (saveRequestNotification_alters _ _ _ _ _) hjp

omit [Admits env C] in
theorem answeredRequest_alters (o : Opened P) (requestId : String) :
    Alters C (answeredRequest env o requestId : ClientM P (Option Notification)) := by
  have hpeer : Alters C (responsePeer env o : ClientM P (Option UserBundle)) := by
    unfold responsePeer
    refine .ite (fun _ => .ite (fun _ => .pure _) fun _ => .bind (lookupBundle_alters _) fun _ => ?_) fun _ => .pure _
    exact .bind (.ensure _ _) fun _ => .bind (.ofExcept _) fun _ => .pure _
  refine .bind (query_alters _) fun found => ?_
  cases found with
  | some n => exact .pure _
  | none =>
    refine .bind hpeer fun peer => ?_
    cases peer with
    | none => exact .pure _
    | some peer =>
      exact .bind (upsertContact_alters _) fun _ => .bind newUuid_alters fun _ => .bind nowMs_alters fun _ =>
        .pure _

/-- The request that is answered is of the id the response names, and of the actor of the row with that id. -/
theorem answeredRequest_row (o : Opened P) (requestId : String) (w : World P) :
    wp (answeredRequest env o requestId)
      (fun r _ => ∀ n, r = some n → n.requestId = requestId ∧
        ∀ old ∈ w.store.notifications, old.requestId = n.requestId → old.actorAccountId = n.actorAccountId)
      (fun _ _ => True) w := by
  unfold answeredRequest notificationByRequestId
  rw [Prog.wp_bind]
  refine wp_query ?_ fun _ => True.intro
  cases hfound : w.store.notifications.find requestId with
  | some n =>
    refine (Prog.wp_pure _).2 fun n' hn' => ?_
    cases hn'
    refine ⟨Table.key_of_find hfound, fun old hold hid => ?_⟩
    rw [Table.eq_of_mem hold (Table.mem_of_find hfound) hid]
  | none =>
    refine wp.bind wp.trivial fun peer w₂ _ => ?_
    cases peer with
    | none =>
      rw [Prog.wp_pure]
      intro n hn
      cases hn
    | some peer =>
      refine wp.bind wp.trivial fun _ w₃ _ => wp.bind wp.trivial fun id w₄ _ => ?_
      refine wp.bind wp.trivial fun now w₅ _ => (Prog.wp_pure _).2 fun n hn => ?_
      cases hn
      exact ⟨rfl, fun old hold hid => absurd hid (Table.find_eq_none.1 hfound old hold)⟩

/-- A response that passes the checks of its branch, for the request that it answers. -/
structure Opened.Answering (o : Opened P) (s : Ledger P) (n : Notification) : Prop where
  kind : o.payload.kind = "chat_response"
  decision : o.payload.text = "accepted" ∨ o.payload.text = "rejected"
  related : o.payload.relatedMessageId = some n.requestId
  actor : chatResponseActorMatches o.senderIsSelf n.actorAccountId o.payload.peerAccountId o.stored.senderAccountId = true
  row : ∀ old ∈ s.notifications, old.requestId = n.requestId → old.actorAccountId = n.actorAccountId

theorem wp_applyChatResponse {o : Opened P} {n : Notification} {w : World P}
    (hC : chatResponseActorMatches o.senderIsSelf n.actorAccountId o.payload.peerAccountId o.stored.senderAccountId = true →
      ∀ n', n'.requestId = n.requestId → n'.actorAccountId = n.actorAccountId →
        ∀ past, C (w.ledger past) (.answeredBy o n')) :
    wp (applyChatResponse env o n) (fun _ => Changes C w) (fun _ => Changes C w) w := by
  have hrefl : Changes C w w := refl_of _ w
  unfold applyChatResponse
  refine wp.ensure hrefl fun hactor => wp.ofExcept (fun _ => hrefl) fun state _ => ?_
  rw [Prog.wp_bind]
  refine (wp_saveChatResponseNotification (fun _ _ => rfl) fun n' hid hactor' => hC hactor n' hid hactor').mono
    (fun _ w₁ h₁ => h₁.wp_of (Moves.wp (.ite (fun _ => ?_) fun _ => ?_) w₁)) fun _ _ h => h
  · exact .bind (loadContactsSelecting_alters _) fun _ => setStatus_alters _
  · exact .bind loadContacts_alters fun _ => setStatus_alters _

/-- A response is applied to the notifications that it finds. -/
theorem wp_handleChatResponse {o : Opened P} {w : World P} (hkind : o.payload.kind = "chat_response")
    (hC : ∀ s, C s (.processed o .control))
    (hanswered : ∀ past n, o.Answering (w.ledger past) n → C (w.ledger past) (.answeredBy o n)) :
    wp (handleChatResponse env o) (fun _ => Changes C w) (fun _ => Changes C w) w := by
  refine wp.orFail (refl_of _ w) fun requestId hrequest => wp_unmoved (getApp_alters _) fun _ w₁ h₁ => ?_
  refine wp.ensure (refl_of _ w₁) fun hmetadata => ?_
  have hfound : Alters (fun _ _ => False) (answeredRequest env o requestId : ClientM P (Option Notification)) :=
    answeredRequest_alters o requestId
  refine wp.bind (((hfound.wp w₁).and (answeredRequest_row o requestId w₁)).mono (fun _ _ h => h)
    fun _ _ h => .of_eq h.1.unmoved) fun r w₂ h₂ => ?_
  obtain ⟨hmoved, hrow⟩ := h₂
  have hsame : Changes C w₁ w₂ := .of_eq hmoved.unmoved
  refine hsame.wp_of ?_
  cases r with
  | none => exact (commitControl_alters hC).wp w₂
  | some n =>
    obtain ⟨hid, hactor⟩ := hrow n rfl
    refine wp.bind (wp_applyChatResponse fun hmatches n' hid' hactor' past => ?_) fun _ w₃ h₃ =>
      h₃.wp_of ((commitControl_alters hC).wp w₃)
    rw [hmoved.unmoved, h₁]
    refine hanswered past n' ⟨hkind, hmetadata.2, by rw [hrequest, hid', hid], hactor' ▸ hmatches, fun old hold hsame => ?_⟩
    rw [hactor']
    exact hactor old (store_notifications_eq h₁ ▸ hold) (hsame.trans hid')

theorem handleText_alters (o : Opened P) (hC : ∀ s, C s (.processed o .received)) :
    Alters C (handleText env o : ClientM P Unit) := by
  have hshow : ∀ message, Alters C (showMessage env o message : ClientM P Unit) := fun message => by
    refine .bind (modifyApp_alters fun app => ?_) fun _ => .bind (getApp_alters _) fun _ =>
      .ite (fun _ => ?_) fun _ => .pure _
    · split <;> rfl
    · exact .bind (.succeeds (sendReadReceipts_alters _ _)) fun _ =>
        .ite (fun _ => markRead_alters _) fun _ => .pure _
  refine .bind (getApp_alters _) fun _ => .bind (.ensure _ _) fun _ => .bind ?_ fun _ => ?_
  · refine commitEnvelope_alters .received (fun _ => ⟨rfl, rfl⟩) hC fun w store past hs => ?_
    obtain ⟨s', hs', rfl⟩ := Option.map_eq_some_iff.1 hs
    exact received_ledger (by rfl) hs' past
  · exact .bind (getApp_alters _) fun _ => .ite (fun _ => hshow _) fun _ => .pure _

/-- What a kind of changes has for the envelopes of a batch. -/
structure Handles (env : Environment) (C : Ledger P → Change P → Prop) (stored : StoredEnvelope) : Prop where
  processed : ∀ (o : Opened P) (s : Ledger P) branch, o.Result env → o.stored = stored → branch.Of s o →
    C s (.processed o branch)
  answered : ∀ (o : Opened P) (s : Ledger P) n, o.Result env → o.stored = stored →
    o.payload.kind = "chat_response" → o.payload.relatedMessageId = some n.requestId → C s (.answeredBy o n)

/-- What a kind of changes has for an envelope that is opened. -/
structure Takes (C : Ledger P → Change P → Prop) (w : World P) (o : Opened P) : Prop where
  processed : ∀ (s : Ledger P) branch, branch.Of s o → C s (.processed o branch)
  answered : ∀ past n, o.Answering (w.ledger past) n → C (w.ledger past) (.answeredBy o n)

/-- An envelope takes the ledger along the changes that its opened form has. -/
theorem wp_handleEnvelope {stored : StoredEnvelope} {w : World P}
    (h : wp (openEnvelope env stored) (fun o _ => Takes C w o) (fun _ _ => True) w) :
    wp (handleEnvelope env stored) (fun _ => Changes C w) (fun _ => Changes C w) w := by
  have hopen : Alters (fun _ _ => False) (openEnvelope env stored : ClientM P (Opened P)) := openEnvelope_alters stored
  refine wp.bind (((hopen.wp w).and h).mono (fun _ _ h => h) fun _ _ h => .of_eq h.1.unmoved) fun o w₁ hopened => ?_
  obtain ⟨hmoved, htakes⟩ := hopened
  have hsame : Changes C w w₁ := .of_eq hmoved.unmoved
  refine hsame.wp_of ?_
  rw [Prog.wp_ite]
  refine ⟨fun hkind => (handleConversationDeleted_alters o fun hself s => htakes.processed s _ ⟨hkind, hself⟩).wp w₁,
    fun hkind => ?_⟩
  have hticked : Changes C w₁ w₁.ticked := .of_eq fun _ => rfl
  rw [Prog.wp_bind]
  refine wp_query ?_ fun _ => hticked
  refine hticked.wp_of ?_
  have hcontrol : o.payload.kind ≠ "text" → ∀ s, C s (.processed o .control) := fun htext s =>
    htakes.processed s _ ⟨htext, hkind⟩
  unfold dispatchEnvelope
  simp only [Prog.wp_ite]
  refine ⟨fun hold => ?_, fun _ => ⟨fun _ => ?_, fun _ => ⟨fun hread => ?_, fun _ => ⟨fun hrequest => ?_, fun _ =>
    ⟨fun hresponse => ?_, fun _ => ⟨fun htext => ?_, fun _ => ?_⟩⟩⟩⟩⟩⟩
  · refine ignoreTombstonedText_alters fun s hs => htakes.processed s _ ⟨hold.2.2, hold.1, ?_⟩
    obtain ⟨t, ht⟩ := Option.isSome_iff_exists.1 hold.2.1
    rw [hs]
    exact ⟨t, Table.mem_of_find ht, Table.key_of_find ht⟩
  · exact (quarantineText_alters o fun s n htext hn => htakes.processed s _ ⟨htext, hn⟩).wp _
  · refine (handleRead_alters o (hcontrol fun htext => ?_)).wp _
    rw [htext] at hread
    exact absurd hread (by decide)
  · refine (handleChatRequest_alters o (hcontrol ?_)).wp _
    rw [hrequest]
    decide
  · refine wp_handleChatResponse hresponse (hcontrol ?_) fun past n hn => ?_
    · rw [hresponse]
      decide
    · have hmoved' : w₁.ticked.ledger past = w.ledger past := hmoved.unmoved past
      rw [hmoved'] at hn ⊢
      exact htakes.answered past n hn
  · exact (handleText_alters o fun s => htakes.processed s _ htext).wp _
  · exact (Moves.fail (R := Changes C) _).wp _

theorem handleEnvelope_alters {stored : StoredEnvelope} (hC : Handles env C stored) :
    Alters C (handleEnvelope env stored : ClientM P Unit) := .of_wp fun w => by
  refine wp_handleEnvelope ((openEnvelope_holds stored).exec.mono (fun o w₁ hopened => ?_) fun _ _ _ => True.intro)
  obtain ⟨⟨-, hstored, -⟩, hexec⟩ := hopened
  have hresult : o.Result env := ⟨w, w₁, by rw [hstored]; exact hexec⟩
  exact ⟨fun s branch h => hC.processed o s branch hresult hstored h,
    fun _ n hn => hC.answered o _ n hresult hstored hn.kind hn.related⟩

theorem handleEnvelopes_alters : ∀ {envelopes : List StoredEnvelope} (cursor : Nat),
    (∀ stored ∈ envelopes, Handles env C stored) → Alters C (handleEnvelopes env envelopes cursor : ClientM P Nat)
  | [], _, _ => .pure _
  | stored :: rest, cursor, hC => by
    have hrest : ∀ stored ∈ rest, Handles env C stored := fun s hs => hC s (List.mem_cons_of_mem _ hs)
    unfold handleEnvelopes
    exact .ite (fun _ => handleEnvelopes_alters cursor hrest) fun _ =>
      .bind (handleEnvelope_alters (hC stored List.mem_cons_self)) fun _ => handleEnvelopes_alters _ hrest

theorem applyDeliveryUpdates_alters : ∀ (updates : List StoredDeliveryUpdate) (cursor : Nat),
    Alters C (applyDeliveryUpdates env updates cursor : ClientM P Nat)
  | [], _ => .pure _
  | status :: rest, cursor => by
    unfold applyDeliveryUpdates
    cases status.update with
    | none => exact applyDeliveryUpdates_alters rest _
    | some update =>
      exact .bind (raise_alters _ .delivered (fun _ => true) .delivered) fun _ => applyDeliveryUpdates_alters rest _

theorem handleSyncBatch_alters {batch : SyncBatch} (hC : ∀ stored ∈ batch.envelopes, Handles env C stored) :
    Alters C (handleSyncBatch env batch : ClientM P Unit) := by
  refine .bind (query_alters _) fun _ => .bind (applyDeliveryUpdates_alters _ _) fun _ => ?_
  refine .bind (handleEnvelopes_alters _ hC) fun _ => ?_
  refine .bind (execute_some_aside fun _ => ⟨⟨rfl, rfl, rfl⟩, rfl, rfl⟩) fun _ => ?_
  exact .bind refreshContactsPreserveSelection_alters fun _ => .ite (fun _ => setStatus_alters _) fun _ => .pure _

/-! ## Pairing -/

theorem setPairing_alters (pairing : Option PairingSession) :
    Alters C (setPairing pairing : ClientM P Unit) := modifyApp_alters fun _ => rfl

theorem startPairing_alters (requested : Option String) :
    Alters C (startPairing env requested : ClientM P Unit) := by
  refine .bind (getApp_alters _) fun _ => .bind (.ensure _ _) fun _ => .bind (getApp_alters _) fun _ => ?_
  refine .bind (.ensure _ _) fun _ => .bind (getApp_alters _) fun _ => .bind (.orFail _ _) fun chosen => ?_
  refine .bind (modifyApp_alters fun _ => rfl) fun _ => .bind (.orFail _ _) fun _ => .bind (.ensure _ _) fun _ => ?_
  refine .bind draw_alters fun _ => .bind (.ofExcept _) fun _ => .bind (notify_alters _) fun _ => ?_
  refine .bind (setStatus_alters _) fun _ => .bind (setPairing_alters _) fun _ =>
    .bind (record_alters rfl rfl) fun _ => .bind (query_alters _) fun found => ?_
  cases found with
  | none => exact .pure _
  | some n => exact markNotificationState_alters _ rfl _

theorem sendPairingPayload_alters (pairing : PairingSession) (eventType : String) (plaintext : Bytes) :
    Alters C (sendPairingPayload env pairing eventType plaintext : ClientM P Unit) :=
  .bind draw_alters fun _ => notify_alters _

theorem finishPairingAsApprover_alters : Alters C (finishPairingAsApprover env : ClientM P Unit) := by
  have htransfers : ∀ pairing master, Alters C (sendTransfers env pairing master : ClientM P Unit) :=
    fun pairing master => .bind (query_alters _) fun _ => .bind (sendPairingPayload_alters _ _ _) fun _ =>
      .bind (query_alters _) fun _ => .bind (.each fun _ _ => sendPairingPayload_alters _ _ _) fun _ =>
        sendPairingPayload_alters _ _ _
  refine .bind (getApp_alters _) fun _ => .bind (setPairing_alters _) fun _ => .bind (.orFail _ _) fun pairing => ?_
  refine .ite (fun _ => .bind (setPairing_alters _) fun _ => .fail _) fun _ => .bind (getApp_alters _) fun _ => ?_
  refine .bind (.ofExcept _) fun _ => .bind (record_alters rfl rfl) fun _ => .bind (.orFail _ _) fun _ => ?_
  refine .bind (htransfers _ _) fun _ => .bind (getApp_alters _) fun _ => .bind (lookupBundleFresh_alters _) fun _ => ?_
  refine .bind (.ofExcept _) fun _ => .bind (request_alters _) fun _ => .bind (query_alters _) fun found => ?_
  cases found with
  | none => exact setStatus_alters _
  | some n => exact .bind (markNotificationState_alters _ rfl _) fun _ => setStatus_alters _

theorem confirmPairing_alters : Alters C (confirmPairing env : ClientM P Unit) := by
  refine .bind (getApp_alters _) fun _ => .bind (.orFail _ _) fun pairing => .ite (fun _ => setStatus_alters _)
    fun _ => .bind (record_alters rfl rfl) fun _ => .bind (setPairing_alters _) fun _ => .ite (fun _ => ?_) fun _ => ?_
  · exact .ite (fun _ => finishPairingAsApprover_alters) fun _ => setStatus_alters _
  · exact .bind (sendPairingPayload_alters _ _ _) fun _ => setStatus_alters _

theorem handleSasPublic_alters (event : PairingEvent) :
    Alters C (handleSasPublic env event : ClientM P Unit) :=
  .bind (getApp_alters _) fun _ => .bind (.orFail _ _) fun _ => .bind (.ensure _ _) fun _ =>
    .bind (.ofExcept _) fun _ => .bind (setStatus_alters _) fun _ => .bind (setPairing_alters _) fun _ =>
      savePendingPairingNotification_alters _ _ _ _

theorem handleSasConfirmed_alters (event : PairingEvent) :
    Alters C (handleSasConfirmed env event : ClientM P Unit) := by
  refine .bind (getApp_alters _) fun current => ?_
  cases current with
  | none => exact setStatus_alters _
  | some pairing =>
    refine .bind (.ensure _ _) fun _ => .bind (.ofExcept _) fun _ => .bind (.ensure _ _) fun _ => ?_
    exact .bind (setPairing_alters _) fun _ =>
      .ite (fun _ => finishPairingAsApprover_alters) fun _ => setStatus_alters _

theorem importContacts_ledger : ∀ {contacts : List TransferContact} {s s' : Store P},
    s.importContacts contacts = some s' → s.SameLedger s'
  | [], s, s', h => by
    cases h
    exact ⟨.rfl, rfl, rfl⟩
  | c :: cs, s, s', h => by
    obtain ⟨s₁, hs₁, hs'⟩ := Option.bind_eq_some_iff.1 h
    obtain ⟨⟨hmessages, houtbox, htombstones⟩, hnotifications, howner⟩ := importContacts_ledger hs'
    rw [Store.putContact_eq hs₁] at hmessages houtbox htombstones hnotifications howner
    exact ⟨⟨hmessages, houtbox, htombstones⟩, hnotifications, howner⟩

theorem importEvents_aside (pairing : PairingSession) : ∀ (contacts : List TransferContact) (s : Store P),
    AreAside (importEvents pairing s contacts)
  | [], _ => ⟨rfl, rfl⟩
  | c :: cs, s => by
    unfold importEvents AreAside
    rw [List.flatMap_append, List.filterMap_append]
    cases hs : s.putContact (Store.importRow c) with
    | none => exact ⟨rfl, rfl⟩
    | some s' =>
      obtain ⟨hoffered, hhandled⟩ := importEvents_aside pairing cs s'
      simp [hoffered, hhandled, Event.offered, Event.handledEnvelope, keyWritten]

/-- The profile in memory is stored. -/
theorem wp_saveProfile {profile : RuntimeProfile P} {w : World P} (hprofile : profile.owner = w.app.profile.owner) :
    wp (execute env fun s => some (s.saveProfile profile)) (fun _ => Changes C w) (fun _ => Changes C w) w :=
  wp_executeChange (fun _ => ⟨rfl, rfl⟩) fun w' store h' hs =>
    ⟨.saved, fun _ => admitted env True.intro, fun past => by
      cases hs
      have howner : w'.app.profile.owner = w.app.profile.owner := congrArg Ledger.owner (h' [])
      have hsame : w'.app.profile.owner = profile.owner := howner.trans hprofile.symm
      exact congrArg (fun stored => some ({ w'.ledger past with stored } : Ledger P)) hsame⟩

theorem saveProfile_then {k : Unit → ClientM P Unit} (hk : ∀ u, Alters C (k u)) :
    Alters C (getApp App.profile >>= fun profile =>
      execute env (fun s => some (s.saveProfile profile)) >>= k) := .of_wp fun w => by
  rw [wp_getApp_bind, Prog.wp_bind]
  exact (wp_saveProfile rfl).mono (fun u w' h => h.wp_of ((hk u).wp w')) fun _ _ h => h

theorem handleBootstrap_alters (event : PairingEvent) :
    Alters C (handleBootstrap env event : ClientM P Unit) := by
  refine .bind (getApp_alters _) fun _ => .bind (.orFail _ _) fun pairing => .bind (.ensure _ _) fun _ => ?_
  refine .bind (.ofExcept _) fun _ => .bind (.orFail _ _) fun transfer => .bind (getApp_alters _) fun _ => ?_
  refine .bind (.ensure _ _) fun _ => .bind (record_alters rfl rfl) fun _ => ?_
  refine .bind (modifyApp_alters fun _ => rfl) fun _ => ?_
  refine .bind ?_ fun _ => .bind loadContacts_alters fun _ => saveProfile_then fun _ => setStatus_alters _
  exact executeRecording_aside (fun w => importEvents_aside _ _ _) fun _ _ hs => importContacts_ledger hs

theorem handleHistoryChunk_alters (event : PairingEvent) :
    Alters C (handleHistoryChunk env event : ClientM P Unit) := by
  refine .bind (getApp_alters _) fun _ => .bind (.orFail _ _) fun pairing => .bind (.ofExcept _) fun _ => ?_
  refine .bind (.orFail _ _) fun transfer => .bind (.each fun message _ => ?_) fun _ => setStatus_alters _
  exact executeRecording_change (fun _ => ⟨rfl, rfl⟩) fun w store hs =>
    ⟨.stated (.imported { message with provenance := none }), fun _ => admitted env True.intro, fun past =>
      congrArg some (insertMessage_ledger hs past).symm⟩

theorem handleDeviceActivated_alters (event : PairingEvent) :
    Alters C (handleDeviceActivated env event : ClientM P Unit) := by
  refine .bind (getApp_alters _) fun _ => .bind (.ensure _ _) fun _ => .bind (modifyApp_alters fun _ => rfl) fun _ => ?_
  refine saveProfile_then fun _ => .bind (query_alters _) fun found => ?_
  cases found with
  | none => exact modifyApp_alters fun _ => rfl
  | some n => exact .bind (markNotificationState_alters _ rfl _) fun _ => modifyApp_alters fun _ => rfl

theorem handlePairingEvent_alters (event : PairingEvent) :
    Alters C (handlePairingEvent env event : ClientM P Unit) := by
  refine .bind (getApp_alters _) fun _ => .ite (fun _ => handleSasPublic_alters _) fun _ => ?_
  refine .ite (fun _ => handleSasConfirmed_alters _) fun _ => .ite (fun _ => handleBootstrap_alters _) fun _ => ?_
  refine .ite (fun _ => handleHistoryChunk_alters _) fun _ => .ite (fun _ => setStatus_alters _) fun _ => ?_
  exact .ite (fun _ => handleDeviceActivated_alters _) fun _ => .pure _

theorem activateSelectedNotification_alters (hC : ∀ s n, C s (.answered n)) :
    Alters C (activateSelectedNotification env : ClientM P Unit) := by
  refine .bind (getApp_alters _) fun selected => ?_
  cases selected with
  | none => exact setStatus_alters _
  | some n =>
    refine .bind (markNotificationRead_alters _) fun _ => ?_
    split
    · unfold activatePairingNotification
      split
      · exact .bind (getApp_alters _) fun _ => .ite (fun _ => confirmPairing_alters) fun _ => .fail _
      · exact .bind (modifyApp_alters fun _ => rfl) fun _ => .bind (startPairing_alters _) fun _ =>
          markNotificationState_alters _ rfl _
      · exact .fail _
    · exact acceptChatRequest_alters _ hC
    · exact setStatus_alters _

theorem activateNotificationPrimary_alters (hC : ∀ s n, C s (.answered n))
    (hverified : ∀ s account, C s (.verified account)) :
    Alters C (activateNotificationPrimary env : ClientM P Unit) := by
  refine .bind (getApp_alters _) fun selected => ?_
  cases selected with
  | none => exact .pure _
  | some n =>
    exact .bind (getApp_alters _) fun _ => .ite (fun _ => confirmPairing_alters) fun _ =>
      .ite (fun _ => verifyNotificationContact_alters _ hverified) fun _ => activateSelectedNotification_alters hC

theorem reconcilePairingNotifications_alters :
    Alters C (reconcilePairingNotifications env : ClientM P Unit) :=
  .bind (getApp_alters _) fun _ => .ite (fun _ => .pure _) fun _ => .bind (getApp_alters _) fun _ =>
    .bind newUuid_alters fun _ => dispatchBackground_alters _ _

theorem reconcilePairingNotificationsFromBundle_alters (bundle : UserBundle) :
    Alters C (reconcilePairingNotificationsFromBundle env bundle : ClientM P Unit) := by
  refine .bind (.ofExcept _) fun _ => .bind (getApp_alters _) fun _ => .bind (.ensure _ _) fun _ => ?_
  refine .bind (getApp_alters _) fun completed => .ite (fun _ => .pure _) fun _ => ?_
  refine .bind (.each fun n _ => ?_) fun _ => ?_
  · exact .bind nowMs_alters fun now => executeRecording_change (fun _ => ⟨rfl, rfl⟩) fun w store hs =>
      ⟨.marked n.id .completed true now, fun _ => admitted env rfl, fun past => by
        cases hs
        rfl⟩
  · exact .bind (modifyApp_alters fun _ => rfl) fun _ => .bind refreshNotifications_alters fun _ => setStatus_alters _

/-! ## Server events -/

/-- The two ends of a statement that no constraint stops. -/
theorem wp_executeSome {f : World P → Store P} {events : World P → List Event} {Q : Unit → World P → Prop}
    {E : Error → World P → Prop} {w : World P} (hE : ∀ e, env.works w.tick = false → E e w.ticked)
    (hQ : Q () { w.ticked with store := f w.ticked, log := events w.ticked ++ w.ticked.log }) :
    wp (executeRecording env (fun w => some (f w)) events) Q E w := by
  unfold executeRecording attempt
  rw [Prog.wp_bind]
  show wp (Prog.ensure (env.works w.tick = true) _) _ _ w.ticked
  rw [Prog.wp_ensure]
  exact ⟨fun _ => hQ, fun hfails => hE _ (Bool.eq_false_iff.2 hfails)⟩

/-- A completion is cut only where a statement fails. -/
theorem completeOutbox_alters {id : String}
    (hC : ∀ s n, (n = 3 ∨ ∃ k, env.works k = false) → C s (.completed id n)) :
    Alters C (completeOutbox env id : ClientM P Unit) := .of_wp fun w => by
  unfold completeOutbox execute
  have cut : ∀ {w' : World P} (n : Nat), (n = 3 ∨ ∃ k, env.works k = false) →
      (∀ past, w'.ledger past = { w.ledger past with tables := w.persisted.complete id n }) → Changes C w w' :=
    fun n hn h => .single (.completed id n) (fun _ => hC _ n hn) fun past => congrArg some (h past).symm
  rw [Prog.wp_bind]
  refine wp_executeSome (fun _ hk => cut 0 (.inr ⟨_, hk⟩) fun _ => rfl) ?_
  rw [Prog.wp_bind]
  refine wp_executeSome (fun _ hk => cut 1 (.inr ⟨_, hk⟩) fun _ => rfl) ?_
  rw [Prog.wp_bind]
  refine wp_executeSome (fun _ hk => cut 2 (.inr ⟨_, hk⟩) fun _ => rfl) ?_
  -- The last statement is read off the state before it.
  refine cut 3 (.inl rfl) fun past => ?_
  exact raiseStatus_ledger { w.ticked with
    store := (w.store.removeOutbox id).markConversationDeletionSynced id } id .sent (fun _ => true) past

theorem handleSendAccepted_alters {accepted : SendAccepted}
    (hC : ∀ s n, (n = 3 ∨ ∃ k, env.works k = false) → C s (.completed accepted.logicalMessageId n)) :
    Alters C (handleSendAccepted env accepted : ClientM P Unit) :=
  .bind (modifyApp_alters fun _ => rfl) fun _ => .bind (completeOutbox_alters hC) fun _ => setStatus_alters _

theorem handlePairingRequest_alters (r : PairingRequest) :
    Alters C (handlePairingRequest env r : ClientM P Unit) :=
  .bind (getApp_alters _) fun _ => .ite (fun _ => .pure _) fun _ => .bind (record_alters rfl rfl) fun _ =>
    .bind (savePairingNotification_alters _) fun _ => modifyApp_alters fun _ => rfl

theorem handleNumberedPairingEvent_alters (event : PairingEvent) :
    Alters C (handleNumberedPairingEvent env event : ClientM P Unit) := by
  refine .ite (fun _ => handlePairingEvent_alters _) fun _ => .bind (query_alters _) fun _ => ?_
  extract_lets jp
  have hjp : ∀ u, Alters C (jp u) := fun _ => notify_alters _
  refine .ite (fun _ => hjp ()) fun _ => .bind (handlePairingEvent_alters _) fun _ => .bind ?_ hjp
  refine executeRecording_aside (fun _ => ⟨rfl, rfl⟩) fun w store hs => ?_
  cases hs
  obtain ⟨ids, heq, -⟩ := w.store.markPairingEventProcessed_eq event.serverEventId
  rw [heq]
  exact ⟨⟨rfl, rfl, rfl⟩, rfl, rfl⟩

theorem handleError_alters (pending : Option BackgroundRequest) (error : ErrorFrame) :
    Alters C (handleError env pending error : ClientM P Unit) := by
  unfold handleError
  extract_lets report closed retried
  have hreport : ∀ u, Alters C (report u) := fun _ => setStatus_alters _
  have hclosed : ∀ u, Alters C (closed u) := fun _ =>
    .ite (fun _ => .bind (modifyApp_alters fun _ => rfl) hreport) fun _ => hreport ()
  have hretried : ∀ u, Alters C (retried u) := fun _ => by
    simp only [retried]
    split
    · exact .ite (fun _ => .bind instantNow_alters fun _ => .bind (modifyApp_alters fun _ => rfl) hclosed) fun _ =>
        .bind (modifyApp_alters fun _ => rfl) hclosed
    · exact hclosed ()
  exact .ite (fun _ => .bind (modifyApp_alters fun _ => rfl) hretried) fun _ => hretried ()

theorem takePending_alters (id : String) :
    Alters C (takePending id : ClientM P (Option BackgroundRequest)) :=
  .ite (fun _ => .pure _) fun _ => .bind (getApp_alters _) fun _ =>
    .bind (modifyApp_alters fun _ => rfl) fun _ => .pure _

theorem handleSyncFrame_alters (pending : Option BackgroundRequest) {batch : SyncBatch}
    (hC : ∀ stored ∈ batch.envelopes, Handles env C stored) :
    Alters C (handleSyncFrame env pending batch : ClientM P Unit) := by
  refine .bind (getApp_alters _) fun _ => ?_
  extract_lets jp
  have hjp : ∀ u, Alters C (jp u) := fun _ => handleSyncBatch_alters hC
  exact .ite (fun _ => .bind (modifyApp_alters fun _ => rfl) hjp) fun _ => hjp ()

theorem handleServerEvent_alters {f : Frame}
    (hC : ∀ batch, f.body = some (.syncBatch batch) → ∀ stored ∈ batch.envelopes, Handles env C stored)
    (hcompleted : ∀ accepted, f.body = some (.sendAccepted accepted) →
      ∀ s n, (n = 3 ∨ ∃ k, env.works k = false) → C s (.completed accepted.logicalMessageId n)) :
    Alters C (handleServerEvent env f : ClientM P Unit) := by
  refine .bind (takePending_alters _) fun pending => ?_
  split
  · next batch h => exact handleSyncFrame_alters _ (hC batch h)
  · next accepted h => exact handleSendAccepted_alters (hcompleted accepted h)
  · exact setStatus_alters _
  · exact .ite (fun _ => .bind (cacheBundle_alters _) fun _ =>
      reconcilePairingNotificationsFromBundle_alters _) fun _ => .pure _
  · exact .bind (raise_alters _ .delivered (fun _ => true) .delivered) fun _ => modifyApp_alters fun _ => rfl
  · exact handlePairingRequest_alters _
  · exact handleNumberedPairingEvent_alters _
  · exact handleError_alters _ _
  · exact .pure _

/-! ## Actions -/

theorem expireBackgroundRequests_alters : Alters C (expireBackgroundRequests env : ClientM P Unit) := by
  refine .bind instantNow_alters fun _ => .bind (getApp_alters _) fun _ => .each fun request _ => ?_
  refine .bind (modifyApp_alters fun _ => rfl) fun _ => ?_
  split
  · exact modifyApp_alters fun _ => rfl
  · exact modifyApp_alters fun _ => rfl
  · exact .pure _

theorem openNotificationTab_alters : Alters C (openNotificationTab env : ClientM P Unit) := by
  refine .bind (modifyApp_alters fun _ => rfl) fun _ => .bind (getApp_alters _) fun unread => ?_
  extract_lets jp
  have hjp : ∀ u, Alters C (jp u) := fun _ =>
    .bind (.succeeds reconcilePairingNotifications_alters) fun _ => .ite (fun _ => .pure _) fun _ => setStatus_alters _
  cases unread with
  | none => exact hjp ()
  | some n => exact .bind (markNotificationRead_alters _) fun _ => .bind refreshNotifications_alters hjp

theorem catchUp_alters : Alters C (catchUp env : ClientM P Unit) :=
  .bind resendOutbox_alters fun _ => .bind (.succeeds syncPendingConversationDeletions_alters) fun _ =>
    .bind (.succeeds sync_alters) fun _ => .pure _

theorem restart_alters : Alters C (restart env : ClientM P Unit) := by
  refine .bind ?_ fun _ => .bind ?_ fun _ => .bind (modifyApp_alters fun _ => rfl) fun _ => catchUp_alters
  · exact .modify fun w => .single .restarted (fun _ => admitted env True.intro) fun _ => rfl
  · refine .bind (getApp_alters _) fun _ => .bind (getApp_alters _) fun saved => ?_
    split
    · exact .pure _
    · exact .ite (fun _ => .bind (getApp_alters _) fun _ => .bind (.orFail _ _) fun _ => .bind (.ensure _ _) fun _ =>
        .bind (.ofExcept _) fun _ => setPairing_alters _) fun _ => .pure _

theorem reconnected_alters (capabilities : List String) :
    Alters C (reconnected env capabilities : ClientM P Unit) := by
  refine .bind (.modify fun _ => .of_eq fun _ => rfl) fun _ => ?_
  refine .bind (modifyApp_alters fun _ => rfl) fun _ => .of_wp fun w => ?_
  rw [wp_getApp_bind, Prog.wp_bind, Prog.wp_succeeds]
  have hrest : ∀ b w', Changes C w w' → wp ((fun _ : Bool => setStatus "已重新连接，正在后台补拉离线消息" >>= fun _ =>
      catchUp env) b) (fun _ => Changes C w) (fun _ => Changes C w) w' := fun b w' h =>
    h.wp_of (Moves.wp (.bind (setStatus_alters _) fun _ => catchUp_alters) w')
  exact (wp_saveProfile rfl).mono (fun _ w' h => hrest true w' h) fun _ w' h => hrest false w' h

theorem handles_batch {f : Frame} {batch : SyncBatch} (hf : f.body = some (.syncBatch batch)) :
    ∀ stored ∈ batch.envelopes, Handles env (Change.Of (P := P) env (.serverEvent f)) stored := by
  intro stored hstored
  have hreceived : ∀ o : Opened P, o.Result env → o.stored = stored → o.Received env (.serverEvent f) :=
    fun o hresult ho => ⟨hresult, f, batch, rfl, hf, by rw [ho]; exact hstored⟩
  exact ⟨fun o s branch hresult ho hbranch => .inr ⟨hreceived o hresult ho, hbranch⟩,
    fun o s n hresult ho hkind hn => .inr ⟨hreceived o hresult ho, hkind, hn⟩⟩

/-- An action takes the ledger along its changes. -/
theorem runAction_alters (action : Action) :
    Alters (Change.Of env action) (runAction env action : ClientM P Unit) := by
  cases action with
  | serverEvent f =>
    exact handleServerEvent_alters (fun batch hf => handles_batch hf)
      fun accepted hf s n hn => .inr ⟨⟨f, accepted, rfl, hf, rfl⟩, hn⟩
  | renderNotificationDetail => exact renderNotificationDetail_alters
  | openContact username => exact openContact_alters username
  | verifySelected => exact verifySelected_alters fun _ _ => .inr (.inl rfl)
  | selectIndex index => exact selectIndex_alters index
  | selectRelative direction => exact .bind (getApp_alters _) fun _ => selectIndex_alters _
  | edit text | focusLost | reconnectFailed => exact modifyApp_alters fun _ => rfl
  | sendText text => exact sendText_alters text
  | loadOlderMessages => exact loadOlderMessages_alters
  | focusGained =>
    exact .bind (getApp_alters _) fun _ => .bind (modifyApp_alters fun _ => rfl) fun _ =>
      .ite (fun _ => .pure _) fun _ => markSelectedRead_alters
  | deleteConversation account username =>
    exact confirmDeleteConversation_alters account username fun s t hpending hpeer =>
      .inr ⟨hpending, username, by rw [hpeer]⟩
  | deleteNotification id title request => exact confirmDeleteNotification_alters id title request
  | revokeDevice device name => exact confirmRevokeDevice_alters device name
  | selectNotification index => exact selectNotification_alters index
  | openNotificationTab => exact openNotificationTab_alters
  | activateSelectedNotification => exact activateSelectedNotification_alters fun _ _ => .inr (.inl rfl)
  | activateNotificationPrimary =>
    exact activateNotificationPrimary_alters (fun _ _ => .inr (.inr (.inl rfl))) fun _ _ => .inr (.inr rfl)
  | rejectSelectedChatRequest => exact rejectSelectedChatRequest_alters fun _ _ => .inr (.inr (.inr rfl))
  | dismissSelectedNotification => exact dismissSelectedNotification_alters fun _ _ _ => .inr rfl
  | startPairing requested => exact startPairing_alters requested
  | confirmPairing => exact confirmPairing_alters
  | sync => exact sync_alters
  | retry =>
    exact .bind (modifyApp_alters fun _ => rfl) fun _ => .bind resendOutbox_alters fun _ => setStatus_alters _
  | autosaveDraft => exact .bind (getApp_alters _) fun _ => .ite (fun _ => .pure _) fun _ => saveCurrentDraft_alters
  | expireBackgroundRequests => exact expireBackgroundRequests_alters
  | resendOutbox => exact resendOutbox_alters
  | syncPendingConversationDeletions => exact syncPendingConversationDeletions_alters
  | reconcilePairingNotifications => exact reconcilePairingNotifications_alters
  | ping => exact .bind nowMs_alters fun _ => notify_alters _
  | reconnected capabilities => exact reconnected_alters capabilities
  | restart => exact restart_alters

/-- The ledger of a client is reached by its changes. -/
theorem ledger_reachable {profile : RuntimeProfile P} {w : World P} (hw : (clientSystem env profile).Reachable w) :
    ∃ past, (ledgerSystem env profile.owner).Reachable (w.ledger past) := by
  refine hw.invariant (I := fun w => ∃ past, (ledgerSystem env profile.owner).Reachable (w.ledger past))
    (fun w hinit => ?_) fun w action w' ⟨past, hpast⟩ _ hstep => ?_
  · rw [show w = .ofProfile profile from hinit]
    exact ⟨[], .init rfl⟩
  · obtain rfl : w.after env action = w' := Option.some.inj hstep
    exact Changes.reachable (runAction_alters action w) hpast

/-! ## The statements among the changes -/

/-- The statements of a client: ordinary ones, and completions, which are cut where something fails. -/
def Statement.Possible (env : Environment) : Statement → Prop
  | .completed _ n => n = 3 ∨ ∃ k, env.works k = false
  | _ => True

theorem Ledger.statement_eq {s s' : Ledger P} {st : Statement} (h : s.statement st = some s') :
    ∃ tables, st.run s.tables = some tables ∧ s' = { s with tables } := by
  obtain ⟨tables, htables, rfl⟩ := Option.map_eq_some_iff.1 h
  exact ⟨tables, htables, rfl⟩

theorem Ledger.delete_eq {s s' : Ledger P} {t : ConversationTombstone} (h : s.delete t = some s') :
    s.tables.delete t = some s'.tables ∧ s'.owner = s.owner ∧ s'.stored = s.stored ∧ s'.past = s.past := by
  obtain ⟨tables, htables, rfl⟩ := Option.map_eq_some_iff.1 h
  exact ⟨htables, rfl, rfl, rfl⟩

/-- A change of an action is a statement on the tables, or none. -/
theorem Change.Of.tables {a : Action} {s s' : Ledger P} {c : Change P} (hc : c.Of env a s) (hs : c.run s = some s') :
    s'.tables = s.tables ∨ ∃ st, Statement.Possible env st ∧ st.run s.tables = some s'.tables := by
  obtain ⟨s₁, hs₁, rfl⟩ := Change.run_eq hs
  have stated : ∀ (st : Statement), st.Possible env → s.statement st = some s₁ →
      s₁.tables = s.tables ∨ ∃ st, Statement.Possible env st ∧ st.run s.tables = some s₁.tables := by
    intro st hst h
    obtain ⟨tables, htables, rfl⟩ := Ledger.statement_eq h
    exact .inr ⟨st, hst, htables⟩
  cases c with
  | saved | restarted | noted n | answered n | answeredBy o n | marked id state read now | dismissed n now
  | seen id now | unnoted id =>
    cases hs₁
    exact .inl rfl
  | stated st =>
    refine stated _ ?_ hs₁
    cases st with
    | completed id n => exact hc.elim False.elim False.elim
    | _ => exact True.intro
  | announced t row => exact stated (.queued row) True.intro hs₁
  | unaddressed id => exact stated (.synced id) True.intro hs₁
  | completed id n => exact stated (.completed id n) (hc.elim False.elim fun h => h.2) hs₁
  | verified account => exact stated (.verified account) True.intro hs₁
  | deletedHere t => exact .inr ⟨.deleted t, True.intro, (Ledger.delete_eq hs₁).1⟩
  | processed o branch =>
    obtain ⟨s₂, hs₂, rfl⟩ := Option.map_eq_some_iff.1 hs₁
    cases branch with
    | control | suppressed =>
      cases hs₂
      exact .inl rfl
    | received =>
      obtain ⟨tables, htables, rfl⟩ := Ledger.statement_eq hs₂
      exact .inr ⟨.received (o.message o.peer !o.senderIsSelf), True.intro, htables⟩
    | quarantined n =>
      have hs₂ : (s.statement (.received (o.message o.stored.senderAccountId true))).map (fun s' => s'.note n) =
        some s₂ := hs₂
      obtain ⟨s₃, hs₃, rfl⟩ := Option.map_eq_some_iff.1 hs₂
      obtain ⟨tables, htables, rfl⟩ := Ledger.statement_eq hs₃
      exact .inr ⟨.received (o.message o.stored.senderAccountId true), True.intro, htables⟩
    | deleted => exact .inr ⟨.deleted o.tombstone, True.intro, (Ledger.delete_eq hs₂).1⟩

theorem runAction_persists (action : Action) :
    Moves (Persists (Statement.Possible env)) (runAction env action : ClientM P Unit) := fun w => by
  obtain ⟨past, h⟩ := runAction_alters action w []
  unfold Persists
  have hlast : ∀ s', ReflTransGen (fun s s' => ∃ c, Change.Of env action s c ∧ c.run s = some s') (w.ledger []) s' →
      ReflTransGen (fun s s' => ∃ st, Statement.Possible env st ∧ st.run s = some s') w.persisted s'.tables := by
    intro s' h
    induction h with
    | refl => exact .refl
    | tail _ hstep ih =>
      obtain ⟨c, hc, hrun⟩ := hstep
      rcases hc.tables hrun with heq | hst
      · rw [heq]
        exact ih
      · exact ih.tail hst
  exact hlast _ h

/-- The tables of a client are reached by its statements. -/
theorem persisted_reachable {profile : RuntimeProfile P} {w : World P}
    (hw : (clientSystem env profile).Reachable w) :
    storeSystem.ReachableUnder (fun _ st => st.Possible env) w.persisted := by
  refine hw.invariant (I := fun w => storeSystem.ReachableUnder (fun _ st => st.Possible env) w.persisted)
    (fun w hinit => ?_) fun w action w' hI _ hstep => ?_
  · rw [show w = .ofProfile profile from hinit]
    exact .init rfl
  · obtain rfl : w.after env action = w' := Option.some.inj hstep
    exact (runAction_persists action w).reachableUnder hI

end TuiChat
