import TuiChat.Client.Batches

/-!
# What the methods write to the contacts

`ContactsValid` is what the checks of `validate_bundle` are for: every bundle of a contact, in its row or in
the list that is shown, passes them. Every method keeps it (`Preserves`); the two writers that do not
validate first, `openEnvelope` and `importContacts`, keep it where what they are given passes.
-/

namespace TuiChat

open Lib
open Lib.Prog (Moves wp)

variable {P : Primitives} {env : Environment}

/-- The bundle passes `validate_bundle`. -/
def UserBundle.Valid (P : Primitives) (bundle : UserBundle) : Prop := validateBundle P bundle = .ok ()

instance (bundle : UserBundle) : Decidable (bundle.Valid P) :=
  decidable_of_iff (validateBundle P bundle matches .ok _) <| by
    unfold UserBundle.Valid
    rcases validateBundle P bundle with _ | ⟨⟩ <;> simp

structure World.ContactsValid (w : World P) : Prop where
  stored : ∀ row ∈ w.store.contacts, row.bundle.Valid P
  listed : ∀ c ∈ w.app.contacts, c.bundle.Valid P

/-- Contacts that are valid stay so. -/
def KeepsContacts (w w' : World P) : Prop := w.ContactsValid → w'.ContactsValid

instance : Std.Refl (KeepsContacts (P := P)) := ⟨fun _ => id⟩

instance : IsTrans (World P) KeepsContacts := ⟨fun _ _ _ h h' hw => h' (h hw)⟩

/-- Every run of `m` keeps the contacts valid. -/
abbrev Preserves {α : Type} (m : ClientM P α) : Prop := Moves KeepsContacts m

theorem KeepsContacts.of_eq {w w' : World P} (hstore : w'.store.contacts = w.store.contacts)
    (happ : w'.app.contacts = w.app.contacts) : KeepsContacts w w' := fun hw =>
  ⟨hstore ▸ hw.stored, happ ▸ hw.listed⟩

instance : OfRecords (KeepsContacts (P := P)) := ⟨fun _ _ h => .of_eq h.contacts h.listed⟩

/-- What runs on from where the contacts were kept. -/
theorem KeepsContacts.wp_of {α : Type} {m : ClientM P α} {w w' : World P} (h : KeepsContacts w w')
    (hm : wp m (fun _ => KeepsContacts w') (fun _ => KeepsContacts w') w') :
    wp m (fun _ => KeepsContacts w) (fun _ => KeepsContacts w) w' :=
  hm.mono (fun _ _ h' => IsTrans.trans _ _ _ h h') fun _ _ h' => IsTrans.trans _ _ _ h h'

/-! ## Effects -/

theorem modifyApp_preserves {f : App P → App P} (h : ∀ app, (f app).contacts = app.contacts) :
    Preserves (modifyApp f) :=
  .modify fun w => .of_eq rfl (h w.app)

/-- A transaction whose rows are valid where those before it were. -/
theorem executeRecording_writes {f : World P → Option (Store P)} {events : World P → List Event}
    (h : ∀ w store, f w = some store → (∀ row ∈ w.store.contacts, row.bundle.Valid P) →
      ∀ row ∈ store.contacts, row.bundle.Valid P) : Preserves (executeRecording env f events) :=
  .of_wp fun w => wp_executeRecording (fun _ => .of_eq rfl rfl) fun store hs hw =>
    ⟨h w.ticked store hs hw.stored, hw.listed⟩

theorem executeRecording_preserves {f : World P → Option (Store P)} {events : World P → List Event}
    (h : ∀ w store, f w = some store → store.contacts = w.store.contacts) :
    Preserves (executeRecording env f events) :=
  executeRecording_writes fun w store hs hw => h w store hs ▸ hw

theorem commitMachine_writes {m : OlmMachine P.olm} {f : RuntimeProfile P → World P → Option (Store P)}
    {events : World P → List Event}
    (h : ∀ profile (w : World P) store, f profile w = some store → (∀ row ∈ w.store.contacts, row.bundle.Valid P) →
      ∀ row ∈ store.contacts, row.bundle.Valid P) : Preserves (commitMachine env m f events) :=
  .of_wp fun _ => wp_commitMachine (fun _ => .of_eq rfl rfl) fun store hs hw =>
    ⟨h _ _ store hs hw.stored, hw.listed⟩

/-! ## Contacts -/

/-- A bundle that passes may be written. -/
theorem upsertContact_preserves {bundle : UserBundle} (h : bundle.Valid P) :
    Preserves (upsertContact env bundle : ClientM P Contact) :=
  .past (query_leaves _) fun old => .bind (executeRecording_writes fun w store hs hw row hrow => by
    rw [Store.putContact_eq hs] at hrow
    rcases Table.mem_put.1 hrow with rfl | ⟨hold, -⟩
    · exact h
    · exact hw row hold) fun _ => .past (query_leaves _) fun _ => .orFail _ _

/-- The list is made of the rows. -/
theorem reads_preserves {f : World P → World P} (hstore : ∀ w, (f w).store.contacts = w.store.contacts)
    (happ : ∀ w, (f w).app.contacts = w.store.contactList) : Preserves (Prog.modify f : ClientM P Unit) :=
  .modify fun w hw => by
    refine ⟨hstore w ▸ hw.stored, fun c hc => ?_⟩
    rw [happ] at hc
    obtain ⟨row, hrow, heq, -⟩ := Store.mem_contactList hc
    rw [heq]
    exact hw.stored row hrow

theorem loadContacts_preserves : Preserves (loadContacts env : ClientM P Unit) :=
  .past (attempt_leaves _) fun _ => reads_preserves (fun _ => rfl) fun _ => rfl

theorem loadContactsSelecting_preserves (account : Option String) :
    Preserves (loadContactsSelecting env account : ClientM P Unit) :=
  .past (attempt_leaves _) fun _ => reads_preserves (fun _ => rfl) fun _ => rfl

theorem refreshContactsPreserveSelection_preserves :
    Preserves (refreshContactsPreserveSelection env : ClientM P Unit) :=
  .past (getApp_leaves _) fun _ => loadContactsSelecting_preserves _

/-! ## Conversations -/

theorem clearConversation_preserves : Preserves (clearConversation : ClientM P Unit) :=
  .bind (modifyApp_preserves fun _ => rfl) fun _ => .of_leaves (record_leaves _)

theorem raise_preserves (id : String) (status : MessageStatus) (p : ChatMessage → Bool) (cause : Raise) :
    Preserves (executeRecording env (fun w => some (w.store.raiseStatus id status p))
      fun _ => [.raised id cause] : ClientM P Unit) :=
  executeRecording_preserves fun w store hs => by
    cases hs
    obtain ⟨messages, summaries, heq, -⟩ := w.store.raiseStatus_eq id status p
    rw [heq]

theorem markRead_preserves (id : String) : Preserves (markRead env id : ClientM P Unit) :=
  .bind (raise_preserves id .read (fun _ => true) .readHere) fun _ => modifyApp_preserves fun _ => rfl

theorem markSelectedRead_preserves : Preserves (markSelectedRead env : ClientM P Unit) := by
  refine .past (getApp_leaves _) fun selected => ?_
  cases selected with
  | none => exact .pure _
  | some contact =>
    refine .past (getApp_leaves _) fun _ => .ite (fun _ => .pure _) fun _ => .past (getApp_leaves _) fun _ => ?_
    refine .bind (.each fun batch _ => .past (sendReadReceipts_leaves _ _) fun _ => ?_) fun _ =>
      refreshContactsPreserveSelection_preserves
    exact .each fun id _ => markRead_preserves id

theorem loadSelectedMessages_preserves : Preserves (loadSelectedMessages env : ClientM P Unit) :=
  .past (getApp_leaves _) fun selected => by
    cases selected with
    | none => exact clearConversation_preserves
    | some contact =>
      refine .past (getApp_leaves _) fun _ => .past (query_leaves _) fun _ => ?_
      refine .bind (modifyApp_preserves fun _ => rfl) fun _ => .past (query_leaves _) fun _ => ?_
      exact .bind (modifyApp_preserves fun _ => rfl) fun _ => .past (record_leaves _) fun _ =>
        markSelectedRead_preserves

theorem loadOlderMessages_preserves : Preserves (loadOlderMessages env : ClientM P Unit) := by
  refine .past (getApp_leaves _) fun _ => .past (getApp_leaves _) fun _ => .past (getApp_leaves _) fun _ => ?_
  split
  · exact .ite (fun _ => .pure _) fun _ => .past (getApp_leaves _) fun _ => .past (query_leaves _) fun _ =>
      modifyApp_preserves fun _ => rfl
  · exact .pure _

theorem openContact_preserves (username : String) : Preserves (openContact env username : ClientM P Unit) := by
  refine .past saveCurrentDraft_leaves fun _ => .past (request_leaves _) fun _ => .bind (.orFail _ _)
    fun bundle => .past (cacheBundle_leaves _) fun _ => .of_wp fun w => ?_
  refine wp.ofExcept (fun _ => refl_of _ w) fun _ hvalid => Moves.wp ?_ w
  refine .bind (upsertContact_preserves hvalid) fun contact => ?_
  extract_lets jp
  have hjp : ∀ u, Preserves (jp u) := fun _ =>
    .bind (loadContactsSelecting_preserves _) fun _ => .bind loadSelectedMessages_preserves fun _ =>
      .of_leaves showSafetyCode_leaves
  exact .ite (fun _ => .past (sendChatRequest_leaves _) hjp) fun _ => hjp ()

/-- The flags of rows and contacts change, their bundles do not. -/
theorem verifyAccount_preserves (account : String) : Preserves (verifyAccount env account : ClientM P Unit) := by
  refine .bind (executeRecording_writes fun w store hs hw row hrow => ?_) fun _ => .modify fun w hw =>
    ⟨hw.stored, fun c hc => ?_⟩
  · cases hs
    obtain ⟨old, hold, rfl⟩ := (Table.mem_update (by intro; rfl)).1 hrow
    have hvalid := hw old hold
    split
    · exact hvalid
    · exact hvalid
  · obtain ⟨old, hold, rfl⟩ := List.mem_map.1 hc
    have hvalid := hw.listed old hold
    split
    · exact hvalid
    · exact hvalid

theorem verifySelected_preserves : Preserves (verifySelected env : ClientM P Unit) := by
  refine .past (getApp_leaves _) fun _ => .bind (.orFail _ _) fun contact => .past (getApp_leaves _) fun _ => ?_
  refine .bind (.ensure _ _) fun _ => .bind (verifyAccount_preserves _) fun _ => .past (getApp_leaves _)
    fun response => ?_
  have hjp : Preserves (setStatus "联系人密钥已在本机标记为已核验；请确保你确实通过可信渠道比较过安全码" >>=
      fun _ => sync env : ClientM P Unit) := .past (setStatus_leaves _) fun _ => .of_leaves sync_leaves
  cases response with
  | none => exact hjp
  | some n => exact .past (markNotificationState_leaves _ _ _) fun _ => hjp

theorem selectIndex_preserves (index : Nat) : Preserves (selectIndex env index : ClientM P Unit) :=
  .past (getApp_leaves _) fun _ => .ite (fun _ => .past saveCurrentDraft_leaves fun _ =>
    .past (select_leaves _) fun _ => .bind loadSelectedMessages_preserves fun _ =>
      .of_leaves showCodeIfUnverified_leaves) fun _ => .pure _

theorem acceptChatRequest_preserves (n : Notification) : Preserves (acceptChatRequest env n : ClientM P Unit) := by
  unfold acceptChatRequest
  split
  · refine .ite (fun _ => .of_leaves (setStatus_leaves _)) fun _ => .bind (.ensure _ _) fun _ => .of_wp fun w => ?_
    refine wp.ofExcept (fun _ => refl_of _ w) fun _ hvalid => Moves.wp ?_ w
    refine .bind (upsertContact_preserves hvalid) fun _ => .bind (loadContactsSelecting_preserves _) fun _ => ?_
    exact .bind loadSelectedMessages_preserves fun _ => .past (sendChatDecision_leaves _ _ _) fun _ =>
      .past (saveChatResponseNotification_leaves _ _ _) fun _ => .of_leaves (setStatus_leaves _)
  · exact .fail _

theorem verifyNotificationContact_preserves (n : Notification) :
    Preserves (verifyNotificationContact env n : ClientM P Unit) :=
  .past (getApp_leaves _) fun _ => .bind (.orFail _ _) fun _ => .past (select_leaves _) fun _ =>
    .bind loadSelectedMessages_preserves fun _ => .bind verifySelected_preserves fun _ =>
      .of_leaves (setStatus_leaves _)

theorem insertMessage_contacts {s s' : Store P} {profile : RuntimeProfile P} {m : ChatMessage}
    (h : (s.saveProfile profile).insertMessage m = some s') : s'.contacts = s.contacts := by
  obtain ⟨messages, summaries, rfl, -⟩ := Store.insertMessage_eq h
  rfl

theorem sendText_preserves (text : String) : Preserves (sendText env text : ClientM P Unit) := by
  refine .bind (.ensure _ _) fun _ => .past (getApp_leaves _) fun _ => .bind (.orFail _ _) fun contact => ?_
  refine .ite (fun _ => .past showSafetyCode_leaves fun _ => .fail _) fun _ => .bind (.ofExcept _) fun _ => ?_
  refine .past (ownBundle_leaves lookupBundle_leaves) fun _ => .past newUuid_leaves fun _ => ?_
  refine .past nowMs_leaves fun _ => .past (getApp_leaves _) fun _ => .past (getApp_leaves _) fun _ => ?_
  refine .past (encryptTargets_leaves _ _ _) fun _ => .bind (.ensure _ _) fun _ => .past newUuid_leaves
    fun _ => .past nowMs_leaves fun _ => .bind ?_ fun _ => .bind (modifyApp_preserves fun _ => rfl) fun _ => ?_
  · refine commitMachine_writes fun profile w store hs hw row hrow => hw row ?_
    obtain ⟨s', hs', rfl⟩ := Option.map_eq_some_iff.1 hs
    have hsame : s'.contacts = w.store.contacts := insertMessage_contacts hs'
    rw [← hsame]
    exact hrow
  · refine .past (.succeeds (dispatchBackground_leaves _ _)) fun _ => ?_
    extract_lets jp
    have hjp : ∀ u, Preserves (jp u) := fun _ =>
      .past (saveDraft_leaves _ _) fun _ => .bind (modifyApp_preserves fun _ => rfl) fun _ =>
        refreshContactsPreserveSelection_preserves
    exact .ite (fun _ => .past (setStatus_leaves _) hjp) fun _ => .bind (modifyApp_preserves fun _ => rfl) hjp

/-- A deletion takes a row away. -/
theorem deletion_contacts {s s' : Store P} {t : ConversationTombstone} {peer conversation : String}
    (h : (s.deleteConversationState peer conversation).putTombstone t = some s') :
    ∀ row ∈ s'.contacts, row ∈ s.contacts := by
  obtain ⟨tombstones, rfl⟩ := Store.putTombstone_eq h
  exact fun row hrow => (Table.mem_delete.1 hrow).1

theorem confirmDeleteConversation_preserves (account username : String) :
    Preserves (confirmDeleteConversation env account username : ClientM P Unit) := by
  refine .past newUuid_leaves fun _ => .past nowMs_leaves fun _ => .past (getApp_leaves _) fun _ => ?_
  refine .past (getApp_leaves _) fun _ => .bind ?_ fun _ => .bind (modifyApp_preserves fun _ => rfl) fun _ => ?_
  · exact executeRecording_writes fun w store hs hw row hrow => hw row (deletion_contacts hs row hrow)
  refine .bind (loadContactsSelecting_preserves _) fun _ => .past (getApp_leaves _) fun _ => ?_
  extract_lets jp
  have hjp : ∀ u, Preserves (jp u) := fun _ => by
    refine .past refreshNotifications_leaves fun _ => .past (getApp_leaves _) fun _ =>
      .ite (fun _ => ?_) fun _ => .of_leaves (setStatus_leaves _)
    exact .past (.succeeds syncPendingConversationDeletions_leaves) fun _ => .of_leaves (setStatus_leaves _)
  exact .ite (fun _ => .bind clearConversation_preserves hjp) fun _ => hjp ()

/-! ## Batches -/

theorem lookupBundle_preserves (username : String) :
    Preserves (lookupBundle env username : ClientM P UserBundle) := .of_leaves (lookupBundle_leaves username)

/-- The bundle that the directory gives for the sender of an envelope of another account passes. -/
def SenderValid (env : Environment) (stored : StoredEnvelope) (w : World P) : Prop :=
  stored.envelope.isSome = true → stored.senderAccountId ≠ w.app.profile.accountId →
    wp (lookupBundle env stored.senderUsername) (fun bundle _ => bundle.Valid P) (fun _ _ => True) w

instance (stored : StoredEnvelope) (w : World P) : Decidable (SenderValid env stored w) :=
  inferInstanceAs (Decidable (_ → _ → wp _ _ _ w))

/-- The sender of an opened envelope has a bundle that passes. -/
theorem wp_openEnvelope {stored : StoredEnvelope} {w : World P} (h : SenderValid env stored w) :
    wp (openEnvelope env stored) (fun o w' => KeepsContacts w w' ∧ o.bundle.Valid P) (fun _ => KeepsContacts w) w := by
  have hrefl : KeepsContacts w w := refl_of _ w
  unfold openEnvelope
  refine wp.orFail hrefl fun envelope henvelope => ?_
  have hsome : stored.envelope.isSome = true := by rw [henvelope]; rfl
  have hlookup : wp (lookupBundle env stored.senderUsername)
      (fun bundle w' => KeepsContacts w w' ∧ w'.app.profile = w.app.profile ∧
        (stored.senderAccountId ≠ w.app.profile.accountId → bundle.Valid P)) (fun _ => KeepsContacts w) w := by
    have hmoves := ((lookupBundle_preserves stored.senderUsername).wp w).and
      ((@lookupBundle_quiet P env stored.senderUsername).wp w)
    by_cases hself : stored.senderAccountId = w.app.profile.accountId
    · exact hmoves.mono (fun _ _ ⟨hk, hq⟩ => ⟨hk, hq.same.1, fun hne => absurd hself hne⟩) fun _ _ h => h.1
    · exact (hmoves.and (h hsome hself)).mono (fun _ _ ⟨⟨hk, hq⟩, hvalid⟩ => ⟨hk, hq.same.1, fun _ => hvalid⟩)
        fun _ _ h => h.1.1
  refine hlookup.bind fun bundle w₁ ⟨hw₁, hprofile, hvalid⟩ => ?_
  rw [wp_getApp_bind, hprofile]
  have hverified : Preserves (senderVerified env (decide (stored.senderAccountId = w.app.profile.accountId)) bundle :
      ClientM P Bool) := by
    unfold senderVerified
    refine .ite (fun _ => .pure _) fun hself => .bind (upsertContact_preserves (hvalid fun he => ?_)) fun _ => .pure _
    exact hself (decide_eq_true he)
  refine hverified.wp_bind (fun _ _ h => IsTrans.trans _ _ _ hw₁ h) fun verified w₂ hw₂ => ?_
  have hw : KeepsContacts w w₂ := IsTrans.trans _ _ _ hw₁ hw₂
  refine wp.ofExcept (fun _ => hw) fun _ hpasses => wp.orFail hw fun device _ => wp.ofExcept (fun _ => hw) fun _ _ => ?_
  unfold currentMachine
  rw [wp_getApp_bind]
  refine wp.ensure hw fun _ => wp.ofExcept (fun _ => hw) fun decrypted _ => ?_
  rw [wp_record_bind]
  have hrecorded : KeepsContacts w { w₂ with log := .decrypted device :: w₂.log } :=
    IsTrans.trans _ _ _ hw (.of_eq rfl rfl)
  exact wp.orFail hrecorded fun payload _ => wp.ensure hrecorded fun _ => ⟨hrecorded, hpasses⟩

theorem commitEnvelope_preserves {o : Opened P} {f : RuntimeProfile P → Store P → Option (Store P)}
    {events : World P → List Event}
    (h : ∀ profile (s s' : Store P), f profile s = some s' → ∀ row ∈ s'.contacts, row ∈ s.contacts) :
    Preserves (commitEnvelope env o f events) :=
  .bind (commitMachine_writes fun profile w store hs hw row hrow => hw row (h profile w.store store hs row hrow))
    fun _ => .of_leaves (notify_leaves _)

theorem commitControl_preserves (o : Opened P) : Preserves (commitControl env o : ClientM P Unit) :=
  commitEnvelope_preserves fun profile s s' hs row hrow => by
    cases hs
    exact hrow

theorem handleConversationDeleted_preserves (o : Opened P) :
    Preserves (handleConversationDeleted env o : ClientM P Unit) := by
  refine .past (getApp_leaves _) fun _ => .bind (.ensure _ _) fun _ => .past (getApp_leaves _) fun _ => ?_
  refine .bind ?_ fun _ => .bind (modifyApp_preserves fun _ => rfl) fun _ =>
    .bind (loadContactsSelecting_preserves _) fun _ => ?_
  · refine commitEnvelope_preserves fun profile s s' hs row hrow => ?_
    obtain ⟨s₁, hs₁, rfl⟩ := Option.map_eq_some_iff.1 hs
    exact deletion_contacts hs₁ row hrow
  · extract_lets jp
    have hjp : ∀ u, Preserves (jp u) := fun _ =>
      .past refreshNotifications_leaves fun _ => .of_leaves (setStatus_leaves _)
    exact .ite (fun _ => .bind clearConversation_preserves hjp) fun _ => hjp ()

theorem quarantineText_preserves (o : Opened P) : Preserves (quarantineText env o : ClientM P Unit) := by
  refine .past (getApp_leaves _) fun _ => .bind (.ensure _ _) fun _ => .past nowMs_leaves fun _ => ?_
  refine .past (query_leaves _) fun _ => .past newUuid_leaves fun _ => .bind ?_ fun _ =>
    .bind loadContacts_preserves fun _ => .past refreshNotifications_leaves fun _ => .of_leaves (setStatus_leaves _)
  refine commitEnvelope_preserves fun profile s s' hs row hrow => ?_
  obtain ⟨s₂, hs₂, rfl⟩ := Option.map_eq_some_iff.1 hs
  obtain ⟨s₁, hs₁, hs₂⟩ := Option.bind_eq_some_iff.1 hs₂
  obtain rfl := Store.putNotification_eq hs₂
  have hold : row ∈ s₁.contacts := hrow
  rw [insertMessage_contacts hs₁] at hold
  exact hold

theorem handleRead_preserves (o : Opened P) : Preserves (handleRead env o : ClientM P Unit) := by
  unfold handleRead
  have hread : ∀ related, Preserves (readByPeer env o.stored.senderAccountId related : ClientM P Unit) :=
    fun related => .bind (raise_preserves related .read _ (.readBy _)) fun _ => modifyApp_preserves fun _ => rfl
  have hjp : ∀ relatedIds, Preserves (do
      Prog.ensure (relatedIds ≠ [] ∧ relatedIds.length ≤ 100) "已读回执批量大小无效"
      Prog.each (readByPeer env o.stored.senderAccountId) relatedIds
      commitControl env o : ClientM P Unit) := fun _ =>
    .bind (.ensure _ _) fun _ => .bind (.each fun related _ => hread related) fun _ => commitControl_preserves o
  exact .ite (fun _ => .bind (.orFail _ _) fun _ => .bind (.pure _) hjp) fun _ => .bind (.pure _) hjp

theorem handleChatRequest_preserves (o : Opened P) : Preserves (handleChatRequest env o : ClientM P Unit) := by
  have hown : Preserves (syncOwnChatRequest env o : ClientM P Unit) := by
    refine .past (getApp_leaves _) fun _ => .bind (.ensure _ _) fun _ => .past (lookupBundle_leaves _) fun peer =>
      .bind (.ensure _ _) fun _ => .of_wp fun w => ?_
    refine wp.ofExcept (fun _ => refl_of _ w) fun _ hvalid => Moves.wp ?_ w
    exact .bind (upsertContact_preserves hvalid) fun _ => .of_leaves (saveRequestNotification_leaves _ _ _ _ _)
  refine .past (getApp_leaves _) fun _ => ?_
  extract_lets jp
  have hjp : ∀ u, Preserves (jp u) := fun _ =>
    .bind loadContacts_preserves fun _ => .bind (commitControl_preserves o) fun _ => .of_leaves (setStatus_leaves _)
  exact .ite (fun _ => .bind hown hjp) fun _ => .bind (.ensure _ _) fun _ =>
    .past (saveRequestNotification_leaves _ _ _ _ _) hjp

/-- The peer of a response has a bundle that passes. -/
theorem wp_responsePeer {o : Opened P} (ho : o.bundle.Valid P) (w : World P) :
    wp (responsePeer env o) (fun peer w' => KeepsContacts w w' ∧ ∀ bundle, peer = some bundle → bundle.Valid P)
      (fun _ => KeepsContacts w) w := by
  have hrefl : KeepsContacts w w := refl_of _ w
  unfold responsePeer
  simp only [Prog.wp_ite]
  refine ⟨fun _ => ⟨fun _ => ⟨hrefl, nofun⟩, fun _ => ?_⟩, fun _ => ⟨hrefl, ?_⟩⟩
  · refine (lookupBundle_preserves _).wp_bind (fun _ _ h => h) fun peer w₁ hw₁ => wp.ensure hw₁ fun _ => ?_
    refine wp.ofExcept (fun _ => hw₁) fun _ hvalid => ⟨hw₁, fun bundle hb => ?_⟩
    cases hb
    exact hvalid
  · intro bundle hb
    cases hb
    exact ho

theorem answeredRequest_preserves {o : Opened P} (ho : o.bundle.Valid P) (requestId : String) :
    Preserves (answeredRequest env o requestId : ClientM P (Option Notification)) := by
  refine .past (query_leaves _) fun found => ?_
  cases found with
  | some n => exact .pure _
  | none =>
    refine .of_wp fun w => (wp_responsePeer ho w).bind fun peer w₁ ⟨hw₁, hpeer⟩ => hw₁.wp_of (Moves.wp ?_ w₁)
    cases peer with
    | none => exact .pure _
    | some peer =>
      exact .bind (upsertContact_preserves (hpeer peer rfl)) fun _ => .past newUuid_leaves fun _ =>
        .past nowMs_leaves fun _ => .pure _

theorem applyChatResponse_preserves (o : Opened P) (n : Notification) :
    Preserves (applyChatResponse env o n : ClientM P Unit) := by
  refine .bind (.ensure _ _) fun _ => .bind (.ofExcept _) fun _ =>
    .past (saveChatResponseNotification_leaves _ _ _) fun _ => .ite (fun _ => ?_) fun _ => ?_
  · exact .bind (loadContactsSelecting_preserves _) fun _ => .of_leaves (setStatus_leaves _)
  · exact .bind loadContacts_preserves fun _ => .of_leaves (setStatus_leaves _)

theorem handleChatResponse_preserves {o : Opened P} (ho : o.bundle.Valid P) :
    Preserves (handleChatResponse env o : ClientM P Unit) := by
  refine .bind (.orFail _ _) fun requestId => .past (getApp_leaves _) fun _ => .bind (.ensure _ _) fun _ =>
    .bind (answeredRequest_preserves ho requestId) fun found => ?_
  cases found with
  | none => exact commitControl_preserves o
  | some n => exact .bind (applyChatResponse_preserves o n) fun _ => commitControl_preserves o

theorem handleText_preserves (o : Opened P) : Preserves (handleText env o : ClientM P Unit) := by
  have hshow : ∀ message, Preserves (showMessage env o message : ClientM P Unit) := fun message => by
    refine .bind (modifyApp_preserves fun app => ?_) fun _ => .past (getApp_leaves _) fun _ =>
      .ite (fun _ => ?_) fun _ => .pure _
    · split <;> rfl
    · exact .past (.succeeds (sendReadReceipts_leaves _ _)) fun _ =>
        .ite (fun _ => markRead_preserves _) fun _ => .pure _
  refine .past (getApp_leaves _) fun _ => .bind (.ensure _ _) fun _ => .bind ?_ fun _ => ?_
  · refine commitEnvelope_preserves fun profile s s' hs row hrow => ?_
    obtain ⟨s₁, hs₁, rfl⟩ := Option.map_eq_some_iff.1 hs
    have hold : row ∈ s₁.contacts := hrow
    rw [insertMessage_contacts hs₁] at hold
    exact hold
  · exact .past (getApp_leaves _) fun _ => .ite (fun _ => hshow _) fun _ => .pure _

theorem handleEnvelope_keeps {stored : StoredEnvelope} {w : World P} (h : SenderValid env stored w) :
    wp (handleEnvelope env stored) (fun _ => KeepsContacts w) (fun _ => KeepsContacts w) w := by
  refine (wp_openEnvelope h).bind fun o w₁ ⟨hw₁, ho⟩ => hw₁.wp_of (Moves.wp ?_ w₁)
  refine .ite (fun _ => handleConversationDeleted_preserves o) fun _ => .past (query_leaves _) fun tombstoned => ?_
  refine .ite (fun _ => ?_) fun _ => .ite (fun _ => quarantineText_preserves o) fun _ => ?_
  · exact .bind (commitControl_preserves o) fun _ => .of_leaves (setStatus_leaves _)
  refine .ite (fun _ => handleRead_preserves o) fun _ => .ite (fun _ => handleChatRequest_preserves o) fun _ => ?_
  refine .ite (fun _ => handleChatResponse_preserves ho) fun _ => .ite (fun _ => handleText_preserves o) fun _ => ?_
  exact .fail _

theorem applyDeliveryUpdates_preserves : ∀ (updates : List StoredDeliveryUpdate) (cursor : Nat),
    Preserves (applyDeliveryUpdates env updates cursor : ClientM P Nat)
  | [], _ => .pure _
  | status :: rest, cursor => by
    unfold applyDeliveryUpdates
    cases status.update with
    | none => exact applyDeliveryUpdates_preserves rest _
    | some update =>
      exact .bind (raise_preserves _ .delivered (fun _ => true) .delivered) fun _ =>
        applyDeliveryUpdates_preserves rest _

theorem finishBatch_preserves (batch : SyncBatch) (statusCursor cursor : Nat) :
    Preserves (finishBatch env batch statusCursor cursor : ClientM P Unit) :=
  .past (execute_leaves (fun _ => rfl) fun _ => rfl) fun _ => .bind refreshContactsPreserveSelection_preserves fun _ =>
    .ite (fun _ => .of_leaves (setStatus_leaves _)) fun _ => .pure _

/-- A batch keeps the contacts valid if the senders of the envelopes that it comes to are. -/
theorem handleSyncFrame_keeps {f : Frame} {batch : SyncBatch} {w : World P}
    (h : AtBatch env (SenderValid env) f batch w) : wp (do
        let pending ← takePending f.id
        handleSyncFrame env pending batch) (fun _ => KeepsContacts w) (fun _ => KeepsContacts w) w := by
  refine wp_syncFrame (J := KeepsContacts w) ((receiveSync_leaves f).of_leaves.wp w) (fun e w' hw' => ?_)
    (fun w' hw' => ?_) (fun stored w' hw' hs => ?_) (fun statusCursor cursor w' hw' => ?_) h
  · exact IsTrans.trans _ _ _ hw' (.of_eq rfl rfl)
  · have hticked : KeepsContacts w w'.ticked := IsTrans.trans _ _ _ hw' (.of_eq rfl rfl)
    exact hticked.wp_of ((applyDeliveryUpdates_preserves _ _).wp _)
  · exact hw'.wp_of (handleEnvelope_keeps hs)
  · exact hw'.wp_of ((finishBatch_preserves batch statusCursor cursor).wp w')

/-! ## Frames -/

theorem handleSendAccepted_preserves (accepted : SendAccepted) :
    Preserves (handleSendAccepted env accepted : ClientM P Unit) := by
  refine .bind (modifyApp_preserves fun _ => rfl) fun _ => .bind ?_ fun _ => .of_leaves (setStatus_leaves _)
  refine .past (execute_leaves (fun _ => rfl) fun _ => rfl) fun _ => ?_
  refine .past (execute_leaves (fun _ => rfl) fun _ => rfl) fun _ => ?_
  exact .bind (raise_preserves _ .sent (fun _ => true) .accepted) fun _ => modifyApp_preserves fun _ => rfl

theorem handleDeliveryUpdate_preserves (update : DeliveryUpdate) :
    Preserves (handleDeliveryUpdate env update : ClientM P Unit) :=
  .bind (raise_preserves _ .delivered (fun _ => true) .delivered) fun _ => modifyApp_preserves fun _ => rfl

/-- Every contact that a bootstrap event brings over the confirmed channel has a bundle that passes. -/
def ImportsValid (env : Environment) (event : PairingEvent) (w : World P) : Prop :=
  ∀ pairing plaintext transfer, w.app.pairing = some pairing → pairing.ourConfirmed = true →
    pairing.channel.decrypt P pairing.pairingId event.payload = .ok plaintext →
    env.bootstrapFromSlice plaintext = some transfer →
    P.verifyingKey transfer.masterSecret = w.app.profile.accountMasterPublic →
    ∀ c ∈ transfer.contacts, c.bundle.Valid P

/-- The rows of an import are the old ones and those of its contacts. -/
theorem mem_importContacts {contacts : List TransferContact} {s s' : Store P}
    (h : s.importContacts contacts = some s') :
    ∀ row ∈ s'.contacts, row ∈ s.contacts ∨ ∃ c ∈ contacts, row.bundle = c.bundle := by
  induction contacts generalizing s with
  | nil =>
    cases h
    exact fun row hrow => .inl hrow
  | cons c cs ih =>
    obtain ⟨s₁, hs₁, hrest⟩ := Option.bind_eq_some_iff.1 h
    intro row hrow
    rcases ih hrest row hrow with hrow | ⟨c', hc', heq⟩
    · rw [Store.putContact_eq hs₁] at hrow
      rcases Table.mem_put.1 hrow with rfl | ⟨hold, -⟩
      · exact .inr ⟨c, List.mem_cons_self, rfl⟩
      · exact .inl hold
    · exact .inr ⟨c', List.mem_cons_of_mem c hc', heq⟩

theorem handleBootstrap_keeps {event : PairingEvent} {w : World P} (h : ImportsValid env event w) :
    wp (handleBootstrap env event) (fun _ => KeepsContacts w) (fun _ => KeepsContacts w) w := by
  have hrefl : KeepsContacts w w := refl_of _ w
  unfold handleBootstrap
  rw [wp_getApp_bind]
  refine wp.orFail hrefl fun pairing hpairing => wp.ensure hrefl fun hconfirmed => ?_
  refine wp.ofExcept (fun _ => hrefl) fun plaintext hplain => wp.orFail hrefl fun transfer htransfer => ?_
  rw [wp_getApp_bind]
  refine wp.ensure hrefl fun hmaster => Moves.wp ?_ w
  have hcontacts := h pairing plaintext transfer hpairing hconfirmed hplain htransfer hmaster
  refine .past (record_leaves _) fun _ => .bind (modifyApp_preserves fun _ => rfl) fun _ => .bind ?_ fun _ => ?_
  · refine executeRecording_writes fun w store hs hw row hrow => ?_
    rcases mem_importContacts hs row hrow with hold | ⟨c, hc, heq⟩
    · exact hw row hold
    · rw [heq]
      exact hcontacts c hc
  · exact .bind loadContacts_preserves fun _ => .past (getApp_leaves _) fun _ =>
      .past (execute_leaves (fun _ => rfl) fun _ => rfl) fun _ => .of_leaves (setStatus_leaves _)

theorem handleHistoryChunk_preserves (event : PairingEvent) :
    Preserves (handleHistoryChunk env event : ClientM P Unit) := by
  refine .past (getApp_leaves _) fun _ => .bind (.orFail _ _) fun pairing => .bind (.ofExcept _) fun _ => ?_
  refine .bind (.orFail _ _) fun transfer => .bind (.each fun message _ => ?_) fun _ => .of_leaves (setStatus_leaves _)
  refine executeRecording_preserves fun w store hs => ?_
  obtain ⟨messages, summaries, rfl, -⟩ := Store.insertMessage_eq hs
  rfl

theorem handlePairingEvent_keeps {event : PairingEvent} {w : World P}
    (h : event.eventType = "bootstrap" → ImportsValid env event w) :
    wp (handlePairingEvent env event) (fun _ => KeepsContacts w) (fun _ => KeepsContacts w) w := by
  unfold handlePairingEvent
  rw [wp_getApp_bind]
  refine (Prog.wp_ite _ _ _).2 ⟨fun _ => (Moves.of_leaves (handleSasPublic_leaves event)).wp w, fun _ => ?_⟩
  refine (Prog.wp_ite _ _ _).2 ⟨fun _ => (Moves.of_leaves (handleSasConfirmed_leaves event)).wp w, fun _ => ?_⟩
  refine (Prog.wp_ite _ _ _).2 ⟨fun hbootstrap => handleBootstrap_keeps (h hbootstrap.1), fun _ => Moves.wp ?_ w⟩
  refine .ite (fun _ => handleHistoryChunk_preserves event) fun _ => .of_leaves ?_
  refine .ite (fun _ => setStatus_leaves _) fun _ => .ite (fun _ => handleDeviceActivated_leaves event) fun _ => .pure _

theorem handleNumberedPairingEvent_keeps {event : PairingEvent} {w : World P}
    (h : event.eventType = "bootstrap" → ImportsValid env event w) :
    wp (handleNumberedPairingEvent env event) (fun _ => KeepsContacts w) (fun _ => KeepsContacts w) w := by
  unfold handleNumberedPairingEvent
  refine (Prog.wp_ite _ _ _).2 ⟨fun _ => handlePairingEvent_keeps h, fun _ => ?_⟩
  have hticked : KeepsContacts w w.ticked := .of_eq rfl rfl
  rw [Prog.wp_bind]
  refine wp_query ?_ fun _ => hticked
  extract_lets jp
  have hjp : ∀ u, Preserves (jp u) := fun _ => .of_leaves (sendFrame_leaves _)
  refine (Prog.wp_ite _ _ _).2 ⟨fun _ => hticked.wp_of ((hjp ()).wp _), fun _ => ?_⟩
  refine (hticked.wp_of (handlePairingEvent_keeps h)).bind fun _ w₁ hw₁ => hw₁.wp_of (Moves.wp ?_ w₁)
  refine .bind (executeRecording_preserves fun w store hs => ?_) hjp
  cases hs
  unfold Store.markPairingEventProcessed
  split <;> rfl

/-- What is asked of a frame: the bundles that are written before they are checked would pass. -/
def BundlesValid (env : Environment) (w : World P) (f : Frame) : Prop :=
  match f.body with
  | some (.syncBatch batch) => AtBatch env (SenderValid env) f batch w
  | some (.pairingEvent event) => event.eventType = "bootstrap" → ImportsValid env event w
  | _ => True

theorem handleServerEvent_keeps {f : Frame} {w : World P} (h : BundlesValid env w f) :
    wp (handleServerEvent env f) (fun _ => KeepsContacts w) (fun _ => KeepsContacts w) w := by
  unfold BundlesValid at h
  unfold handleServerEvent
  have hpending : Preserves (takePending f.id : ClientM P (Option BackgroundRequest)) :=
    .of_leaves (takePending_leaves f.id)
  cases hbody : f.body with
  | none => exact (Moves.bind hpending fun _ => .pure _).wp w
  | some body =>
    rw [hbody] at h
    cases body with
    | syncBatch batch => exact handleSyncFrame_keeps h
    | sendAccepted accepted => exact (Moves.bind hpending fun _ => handleSendAccepted_preserves accepted).wp w
    | deliveryUpdate update => exact (Moves.bind hpending fun _ => handleDeliveryUpdate_preserves update).wp w
    | userBundle bundle =>
      refine (Moves.bind hpending fun _ => .of_leaves (.ite (fun _ => ?_) fun _ => .pure _)).wp w
      exact .bind (cacheBundle_leaves _) fun _ => reconcilePairingNotificationsFromBundle_leaves _
    | pairingRequest r => exact (Moves.bind hpending fun _ => .of_leaves (handlePairingRequest_leaves r)).wp w
    | pairingEvent event =>
      have hevent : ∀ app : App P, app.contacts = w.app.contacts → app.pairing = w.app.pairing →
          app.profile = w.app.profile →
          wp (handleNumberedPairingEvent env event) (fun _ => KeepsContacts w) (fun _ => KeepsContacts w)
            { w with app } := by
        intro app hcontacts hpairing hprofile
        have hsame : KeepsContacts w { w with app } := .of_eq rfl hcontacts
        refine hsame.wp_of (handleNumberedPairingEvent_keeps fun hbootstrap => ?_)
        intro pairing plaintext transfer hcurrent
        dsimp only
        rw [hprofile]
        exact h hbootstrap pairing plaintext transfer (hpairing ▸ hcurrent)
      unfold takePending
      rw [Prog.wp_bind]
      refine (Prog.wp_ite _ _ _).2 ⟨fun _ => hevent w.app rfl rfl rfl, fun _ => ?_⟩
      rw [wp_getApp_bind, wp_modifyApp_bind]
      exact hevent _ rfl rfl rfl
    | error error => exact (Moves.bind hpending fun pending => .of_leaves (handleError_leaves pending error)).wp w
    | ownDeviceList list => exact (Moves.bind hpending fun _ => .of_leaves (setStatus_leaves _)).wp w
    | _ => exact (Moves.bind hpending fun _ => .pure _).wp w

/-! ## Actions -/

theorem activateSelectedNotification_preserves : Preserves (activateSelectedNotification env : ClientM P Unit) := by
  refine .past (getApp_leaves _) fun selected => ?_
  cases selected with
  | none => exact .of_leaves (setStatus_leaves _)
  | some n =>
    refine .past (markNotificationRead_leaves _) fun _ => ?_
    cases n.kind with
    | pairing => exact .of_leaves (activatePairingNotification_leaves n)
    | chatRequest => exact acceptChatRequest_preserves n
    | chatResponse => exact .of_leaves (setStatus_leaves _)

theorem activateNotificationPrimary_preserves : Preserves (activateNotificationPrimary env : ClientM P Unit) := by
  refine .past (getApp_leaves _) fun selected => ?_
  cases selected with
  | none => exact .pure _
  | some n =>
    refine .past (getApp_leaves _) fun _ => .ite (fun _ => .of_leaves confirmPairing_leaves) fun _ => ?_
    exact .ite (fun _ => verifyNotificationContact_preserves n) fun _ => activateSelectedNotification_preserves

/-- A restart reads the list from the rows. -/
theorem restart_preserves : Preserves (restart env : ClientM P Unit) := by
  refine .bind (.modify fun w hw => ?_) fun _ => .of_leaves restore_leaves
  refine ⟨hw.stored, fun c hc => ?_⟩
  obtain ⟨row, hrow, heq, -⟩ := Store.mem_contactList hc
  rw [heq]
  exact hw.stored row hrow

/-- What is asked of an action: of a frame, `BundlesValid`. -/
def ActionValid (env : Environment) (w : World P) : Action → Prop
  | .serverEvent f => BundlesValid env w f
  | _ => True

theorem runAction_keeps {action : Action} {w : World P} (h : ActionValid env w action) :
    wp (runAction env action) (fun _ => KeepsContacts w) (fun _ => KeepsContacts w) w := by
  cases action with
  | serverEvent f => exact handleServerEvent_keeps h
  | edit text =>
    have hedit : Preserves (runAction env (.edit text) : ClientM P Unit) := modifyApp_preserves fun _ => rfl
    exact hedit.wp w
  | focusLost =>
    have hlost : Preserves (runAction env .focusLost : ClientM P Unit) := modifyApp_preserves fun _ => rfl
    exact hlost.wp w
  | reconnectFailed =>
    have hfailed : Preserves (runAction env .reconnectFailed : ClientM P Unit) := modifyApp_preserves fun _ => rfl
    exact hfailed.wp w
  | renderNotificationDetail => exact (Moves.of_leaves renderNotificationDetail_leaves).wp w
  | openContact username => exact (openContact_preserves username).wp w
  | verifySelected => exact verifySelected_preserves.wp w
  | selectIndex index => exact (selectIndex_preserves index).wp w
  | selectRelative direction =>
    exact (Moves.past (getApp_leaves _) fun _ => selectIndex_preserves _).wp w
  | sendText text => exact (sendText_preserves text).wp w
  | loadOlderMessages => exact loadOlderMessages_preserves.wp w
  | focusGained =>
    have hfocused : Preserves (focusGained env : ClientM P Unit) :=
      .past (getApp_leaves _) fun _ => .bind (modifyApp_preserves fun _ => rfl) fun _ =>
        .ite (fun _ => .pure _) fun _ => markSelectedRead_preserves
    exact hfocused.wp w
  | deleteConversation accountId username => exact (confirmDeleteConversation_preserves accountId username).wp w
  | deleteNotification id title requestId => exact (Moves.of_leaves (confirmDeleteNotification_leaves _ _ _)).wp w
  | revokeDevice deviceId deviceName => exact (Moves.of_leaves (confirmRevokeDevice_leaves _ _)).wp w
  | selectNotification index => exact (Moves.of_leaves (selectNotification_leaves index)).wp w
  | openNotificationTab => exact (Moves.of_leaves openNotificationTab_leaves).wp w
  | activateSelectedNotification => exact activateSelectedNotification_preserves.wp w
  | activateNotificationPrimary => exact activateNotificationPrimary_preserves.wp w
  | rejectSelectedChatRequest => exact (Moves.of_leaves rejectSelectedChatRequest_leaves).wp w
  | dismissSelectedNotification => exact (Moves.of_leaves dismissSelectedNotification_leaves).wp w
  | startPairing requestedDevice => exact (Moves.of_leaves (startPairing_leaves _)).wp w
  | confirmPairing => exact (Moves.of_leaves confirmPairing_leaves).wp w
  | sync => exact (Moves.of_leaves sync_leaves).wp w
  | retry => exact (Moves.of_leaves retry_leaves).wp w
  | autosaveDraft => exact (Moves.of_leaves autosaveDraft_leaves).wp w
  | expireBackgroundRequests => exact (Moves.of_leaves expireBackgroundRequests_leaves).wp w
  | resendOutbox => exact (Moves.of_leaves resendOutbox_leaves).wp w
  | syncPendingConversationDeletions => exact (Moves.of_leaves syncPendingConversationDeletions_leaves).wp w
  | reconcilePairingNotifications => exact (Moves.of_leaves reconcilePairingNotifications_leaves).wp w
  | ping =>
    have hping : Leaves (runAction env .ping : ClientM P Unit) := .bind nowMs_leaves fun _ => notify_leaves _
    exact (Moves.of_leaves hping).wp w
  | reconnected capabilities => exact (Moves.of_leaves (reconnected_leaves _)).wp w
  | restart => exact restart_preserves.wp w

end TuiChat
