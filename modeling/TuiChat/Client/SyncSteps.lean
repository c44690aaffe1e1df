import TuiChat.Client.Steps

/-!
# Handling a batch, as steps of the view

What passes `openEnvelope` is certified and, unless it is the own account's, vouched for by a contact
row (`Opened.Holds`). A branch that returns has moved the view to where the envelope's cursor is
stored, and one that fails has either done so too or not moved the cursor (`Commits`); a batch
processes a prefix of the envelopes above the cursor, in order (`handleSyncBatch_walks`).
-/

namespace TuiChat

open Lib
open Lib.Prog (Moves wp)
open Relation (ReflTransGen)

variable {P : Primitives} {env : Environment}

/-! ## Processing one envelope -/

/-- The view moves to where the envelope is processed, and on from there. -/
def Processed (e : StoredEnvelope) (acknowledged : Bool) (w w' : World P) : Prop :=
  Walk [(e, acknowledged)] w.view w'.view

/-- The envelope is processed, or the cursor has not moved. -/
def Tried (e : StoredEnvelope) (w w' : World P) : Prop :=
  Runs w w' ∨ ∃ acknowledged, Processed e acknowledged w w'

/-- `m` processes the envelope if it returns, and has acknowledged it. -/
abbrev Commits (m : ClientM P Unit) (e : StoredEnvelope) (w : World P) : Prop :=
  wp m (fun _ => Processed e true w) (fun _ => Tried e w) w

variable {e : StoredEnvelope} {acknowledged : Bool} {w w₁ w' : World P} {α : Type}

theorem Runs.processed (h : Runs w w₁) (hp : Processed e acknowledged w₁ w') :
    Processed e acknowledged w w' := Walk.of_runs_trans h hp

theorem Runs.tried (h : Runs w w₁) (ht : Tried e w₁ w') : Tried e w w' :=
  ht.imp h.trans fun ht => ht.imp fun _ => h.processed

theorem Processed.runs (hp : Processed e acknowledged w w₁) (h : Runs w₁ w') :
    Processed e acknowledged w w' :=
  Walk.trans_runs hp h

theorem runs_commits {m : ClientM P α} {f : α → ClientM P Unit} (hm : IsRun m)
    (hf : ∀ a w', Runs w w' → Commits (f a) e w') : Commits (m >>= f) e w :=
  hm.wp_bind (fun _ _ h => .inl h) fun a w' h =>
    (hf a w' h).mono (fun _ _ hp => h.processed hp) fun _ _ ht => h.tried ht

theorem quiet_commits {m : ClientM P α} {f : α → ClientM P Unit} (hm : IsQuiet m)
    (hf : ∀ a w', Quiet w w' → Commits (f a) e w') : Commits (m >>= f) e w :=
  hm.wp_bind (fun _ _ h => .inl h.runs) fun a w' h =>
    (hf a w' h).mono (fun _ _ hp => h.runs.processed hp) fun _ _ ht => h.runs.tried ht

theorem known_commits {m : ClientM P α} {f : α → ClientM P Unit} {p : α → Prop}
    (hm : wp m (fun a w' => Still w w' ∧ p a) (fun _ => Still w) w)
    (hf : ∀ a w', Still w w' → p a → Commits (f a) e w') : Commits (m >>= f) e w :=
  (hm.mono (fun _ _ h => h) fun _ _ h => .inl (Quiet.of_view_eq h).runs).bind fun a w' ⟨h, ha⟩ =>
    (hf a w' h ha).mono (fun _ _ hp => (Quiet.of_view_eq h).runs.processed hp)
      fun _ _ ht => (Quiet.of_view_eq h).runs.tried ht

theorem still_commits {m : ClientM P α} {f : α → ClientM P Unit} (hm : IsStill m)
    (hf : ∀ a w', Still w w' → Commits (f a) e w') : Commits (m >>= f) e w :=
  known_commits (p := fun _ => True) ((hm.wp w).mono (fun _ _ h => ⟨h, trivial⟩) fun _ _ h => h)
    fun a w' h _ => hf a w' h

theorem ensure_commits {c : Prop} [Decidable c] {err : Error} {f : Unit → ClientM P Unit}
    (hf : c → Commits (f ()) e w) : Commits (Prog.ensure c err >>= f) e w :=
  wp.ensure (.inl .refl) hf

theorem orFail_commits {o : Option α} {err : Error} {f : α → ClientM P Unit}
    (hf : ∀ a, o = some a → Commits (f a) e w) : Commits (Prog.orFail o err >>= f) e w :=
  wp.orFail (.inl .refl) hf

theorem Commits.then {m : ClientM P Unit} {f : Unit → ClientM P Unit} (h : Commits m e w)
    (hf : IsRun (f ())) : Commits (m >>= f) e w :=
  h.bind fun _ _ hp => (hf.wp _).mono (fun _ _ h => hp.runs h) fun _ _ h => .inr ⟨_, hp.runs h⟩

/-! ## What an opened envelope is known to be -/

structure Opened.Holds (o : Opened P) (v : View P) : Prop where
  envelope : o.stored.envelope = some o.envelope
  self : o.senderIsSelf = decide (o.stored.senderAccountId = v.profile.accountId)
  verified : o.senderIsSelf = true → o.verified = true
  certified : Certified P o.bundle.accountMasterKey o.bundle.accountId o.device
  row : o.senderIsSelf = false → v.keyOf o.bundle.accountId = some o.bundle.accountMasterKey
  received : Received v.log v.profile.machine o.machine

theorem senderVerified_row (senderIsSelf : Bool) (bundle : UserBundle) :
    wp (senderVerified env senderIsSelf bundle)
      (fun verified w' => Quiet w w' ∧ (senderIsSelf = true → verified = true) ∧
        (senderIsSelf = false → w'.view.keyOf bundle.accountId = some bundle.accountMasterKey))
      (fun _ => Quiet w) w := by
  unfold senderVerified
  cases senderIsSelf with
  | true => exact ⟨.refl, fun _ => rfl, fun h => nomatch h⟩
  | false =>
    exact (upsertContact_row bundle w).bind fun contact w' ⟨hw, hr⟩ =>
      ⟨hw, fun h => (nomatch h), fun _ => hr⟩

theorem activeDevice_deviceId {bundle : UserBundle} {id : String} {d : DeviceBundle}
    (h : activeDevice bundle id = some d) : d.deviceId = id := by
  have := List.find?_some h
  simp only [Bool.and_eq_true, decide_eq_true_eq] at this
  exact this.1

/-- An envelope that passes the tests. -/
theorem openEnvelope_holds (stored : StoredEnvelope) :
    wp (openEnvelope env stored)
      (fun o w' => Quiet w w' ∧ o.stored = stored ∧ o.Holds w'.view) (fun _ => Quiet w) w := by
  unfold openEnvelope
  refine wp.orFail .refl fun envelope henvelope => ?_
  refine (lookupBundle_quiet _).wp_bind (fun _ _ h => h) fun bundle w₁ hw₁ => ?_
  rw [wp_getApp_bind]
  refine ((senderVerified_row _ bundle).mono (fun _ _ h => h) fun _ _ h => hw₁.trans h).bind
    fun verified w₂ ⟨hw₂, hv, hr⟩ => ?_
  have hw := hw₁.trans hw₂
  refine wp.ofExcept (fun _ => hw) fun _ _ => wp.orFail hw fun device hd => ?_
  refine wp.ofExcept (fun _ => hw) fun _ hc => ?_
  unfold currentMachine
  rw [wp_getApp_bind]
  refine wp.ensure hw fun _ => wp.ofExcept (fun _ => hw) fun ⟨plaintext, machine⟩ hm => ?_
  rw [wp_record_bind]
  have hdec : Quiet w₂ { w₂ with log := .decrypted device :: w₂.log } :=
    Quiet.of_step (.decrypted device)
  refine wp.orFail (hw.trans hdec) fun payload _ => wp.ensure (hw.trans hdec) fun _ => ?_
  refine ⟨hw.trans hdec, rfl, henvelope, ?_, hv, hc, hr, [_], ⟨.tail .refl (.decrypt hm), fun hO id key hu hb => ?_⟩,
    rfl⟩
  · rw [show w₁.app.profile.accountId = w₂.app.profile.accountId from by rw [hw₂.same.1]]
    rfl
  · have hkey : stored.senderDeviceId = id → device.olmCurve25519Key = key := fun h =>
      hu device (.inl List.mem_cons_self) ((activeDevice_deviceId hd).trans h)
    exact OlmMachine.BoundTo.decrypt hO hb hkey hm

/-! ## The transaction of an envelope -/

theorem commitEnvelope_commits {o : Opened P} {f : RuntimeProfile P → Store P → Option (Store P)}
    {events : World P → List Event} (he : o.stored.envelope = some o.envelope)
    (hm : Received w.log w.app.profile.machine o.machine)
    (hf : ∀ store, f { w.app.profile with machine := o.machine } w.store = some store →
      ∃ v, ReflTransGen QuietStep (w.view.withMachine o.machine) v ∧
        (w.committedWith store (events (w.withMachine o.machine).ticked) o.machine).view =
          { v with cursor := o.stored.cursor }) :
    Commits (commitEnvelope env o f events) o.stored w := by
  unfold commitEnvelope Commits
  rw [Prog.wp_bind]
  refine wp_commitMachine (fun _ => .inl (ticked_quiet w).runs) fun store hs => ?_
  obtain ⟨v, hq, hv⟩ := hf store hs
  have hstart : ReflTransGen ViewStep w.view v :=
    (ReflTransGen.single (.machine _ hm)).trans (ReflTransGen.mono (fun _ _ h => .quiet h) _ _ hq)
  have hview : (w.ticked.committedWith store (.processed o.stored.cursor o.envelope.envelopeId ::
      events (w.withMachine o.machine).ticked) o.machine).view = { v with
        cursor := o.stored.cursor
        log := .processed o.stored.cursor o.envelope.envelopeId :: v.log } := by
    show ({ (w.committedWith store (events (w.withMachine o.machine).ticked) o.machine).view with
      log := _ :: _ } : View P) = _
    rw [hv]
    exact congrArg (fun log => ({ v with cursor := o.stored.cursor, log := _ :: log } : View P))
      (congrArg View.log hv)
  -- The frame of the acknowledgement is taken, or it is not.
  refine wp_sendFrame ?_ fun _ => .inr ⟨false, ?_⟩
  · have hstep : CursorStep o.stored true v _ := .processed _ he
    refine .processed hstart hstep (.runs ?_)
    have hsent : (w.ticked.committedWith store (.processed o.stored.cursor o.envelope.envelopeId ::
        events (w.withMachine o.machine).ticked) o.machine).sent = v.sent := congrArg View.sent hview
    show ReflTransGen ViewStep _ { World.view (w.ticked.committedWith store _ o.machine) with
      sent := World.sent _ ++ _ }
    rw [hview, hsent]
    exact .refl
  · have hstep : CursorStep o.stored false v _ := .processed _ he
    refine .processed hstart hstep (.runs ?_)
    rw [ticked_view, hview, if_neg nofun, List.append_nil]

theorem commitControl_commits {o : Opened P} (he : o.stored.envelope = some o.envelope)
    (hm : Received w.log w.app.profile.machine o.machine) : Commits (commitControl env o) o.stored w :=
  commitEnvelope_commits he hm fun store hs => by
    cases hs
    exact ⟨_, .refl, rfl⟩

/-- The commit that an opened envelope stands for is sourced. -/
theorem Opened.Holds.sourced {o : Opened P} (h : o.Holds w.view) :
    (w.view.withMachine o.machine).Sourced
      { sender := o.stored.senderAccountId
        conversationId := o.envelope.conversationId
        messageId := o.payload.messageId
        peer := o.peer
        source := o.source
        heldKey := w.heldKey o.stored.senderAccountId } where
  held := rfl
  certified := h.certified
  row hne := h.row (by rw [h.self]; exact decide_eq_false hne)

/-- The message of an opened envelope may be stored once the commit is recorded. -/
theorem Opened.Holds.storable {o : Opened P} (h : o.Holds w.view) {inbound : Bool}
    (hi : inbound = true → o.senderIsSelf = false) {log : List Event}
    (hlog : o.committed w ∈ log) :
    ({ w.view.withMachine o.machine with log } : View P).Storable (o.message o.peer inbound) := by
  refine .received _ hlog (h.sourced.logged _) rfl rfl rfl rfl rfl fun hin => ?_
  have hself : o.senderIsSelf = false := hi hin
  exact ⟨by simp [Opened.message, Opened.peer, hself], of_decide_eq_false (h.self ▸ hself)⟩

/-- The transaction of a message: the commit is recorded, and the message is inserted unless it was
there before; the notifications stay what they were made of. -/
theorem insertMessage_commits {o : Opened P} (inbound : Bool) (h : o.Holds w.view)
    (hi : inbound = true → o.senderIsSelf = false)
    {f : RuntimeProfile P → Store P → Option (Store P)}
    (hf : ∀ p s', f p w.store = some s' → ∃ s₁ notifications,
      (w.store.saveProfile p).insertMessage (o.message o.peer inbound) = some s₁ ∧
      s' = { s₁ with notifications, envelopeCursor := o.stored.cursor } ∧
      ∀ r ∈ noticedRequests notifications.rows, r ∈ w.view.known) :
    Commits (commitEnvelope env o f fun w => [o.committed w]) o.stored w := by
  refine commitEnvelope_commits h.envelope h.received fun store hstore => ?_
  obtain ⟨s₁, notifications, hs₁, rfl, hn⟩ := hf _ _ hstore
  obtain ⟨messages, summaries, rfl, hmsg⟩ := Store.insertMessage_eq hs₁
  have hcommit := QuietStep.committed _ h.sourced
  have hmessage : ReflTransGen QuietStep (w.view.withMachine o.machine)
      { w.view.withMachine o.machine with messages, log := o.committed w :: w.log } := by
    rcases hmsg with rfl | rfl
    · exact .single hcommit
    · exact (ReflTransGen.single hcommit).tail (.message _ (h.storable hi List.mem_cons_self))
  refine ⟨_, hmessage.tail (.aside (w.app.pairingRequests ++ noticedRequests w.app.notifications ++
    noticedRequests notifications.rows) w.view.queued (fun r hr => .inl ?_) fun _ hb => hb), rfl⟩
  exact (List.mem_append.1 hr).elim (List.mem_append_left _) (hn r)

/-! ## The branches -/

theorem Opened.Holds.still {o : Opened P} (h : o.Holds w.view) (hw : Still w w') :
    o.Holds w'.view := by
  rwa [show w'.view = w.view from hw]

/-- A stored conversation deletion. -/
theorem deletion_commits {o : Opened P} {t : ConversationTombstone} (h : o.Holds w.view)
    (ht : t.conversationId = w.conversationWith t.peerAccountId) :
    Commits (commitEnvelope env o (fun profile s => s.commitConversationDeletion profile t
      o.stored.cursor) fun w => [o.committed w]) o.stored w := by
  refine commitEnvelope_commits h.envelope h.received fun store hstore => ?_
  obtain ⟨s', hs', rfl⟩ := Option.map_eq_some_iff.1 hstore
  obtain ⟨tombstones, rfl⟩ := Store.putTombstone_eq hs'
  have hpath := deletion_path (s := w.store)
    (v := { w.view.withMachine o.machine with log := o.committed w :: w.log }) rfl rfl rfl rfl ht
  exact ⟨_, .head (.committed _ h.sourced) hpath, rfl⟩

theorem handleConversationDeleted_commits {o : Opened P} (h : o.Holds w.view) :
    Commits (handleConversationDeleted env o) o.stored w := by
  unfold handleConversationDeleted Commits
  rw [wp_getApp_bind]
  refine ensure_commits fun hm => ?_
  refine still_commits (getApp_still _) fun selected w₁ hw₁ => ?_
  extract_lets tombstone jp
  have ht : tombstone.conversationId = w₁.conversationWith tombstone.peerAccountId := by
    unfold World.conversationWith
    rw [show w₁.app.profile = w.app.profile from congrArg View.profile hw₁]
    exact hm.2.2.2.2
  refine (deletion_commits (h.still hw₁) ht).then (.bind (Moves.runs ?_) fun _ => .of_wp fun w₂ => ?_)
  · exact modifyApp_quiet fun _ => ⟨rfl, rfl, rfl, rfl, rfl, rfl, rfl⟩
  have hjp : ∀ u, IsRun (jp u) := fun _ =>
    .bind refreshNotifications_quiet.runs fun _ => (setStatus_quiet _).runs
  refine ((loadContactsSelecting_selected _ w₂).mono (fun _ _ h => h) fun _ _ h => h.runs).bind
    fun _ w₃ ⟨hw₃, hselected⟩ => hw₃.runs.wp_of ?_
  split
  · next hdeleted =>
    -- The deleted conversation was the selected one: nothing is selected now.
    have hnone : w₃.app.selectedContact = none := by
      unfold App.selectedContact
      rw [hselected, hdeleted]
      simp [Option.filter]
    exact ((clearConversation_quiet hnone).mono (fun _ _ h => h.runs) fun _ _ h => h.runs).bind
      fun _ w₄ hw₄ => hw₄.wp_of ((hjp ()).wp w₄)
  · exact (hjp ()).wp w₃

theorem ignoreTombstonedText_commits {o : Opened P} (h : o.Holds w.view) :
    Commits (ignoreTombstonedText env o) o.stored w :=
  (commitControl_commits h.envelope h.received).then (setStatus_quiet _).runs

/-- The request to re-authenticate is made of no other pairing request than the previous one. -/
theorem quarantineNotification_known {o : Opened P} {previous : Option Notification} {now : Int}
    {fresh : String} {known : List PairingRequest} {r : PairingRequest}
    (h : ∀ n ∈ previous, ∀ r, n.data.pairingRequest = some r → r ∈ known)
    (hr : (quarantineNotification o previous now fresh).data.pairingRequest = some r) : r ∈ known := by
  unfold quarantineNotification at hr
  cases hp : previous.filter fun n => n.state = .accepted || n.state = .inProgress with
  | none => simp [hp, NotificationData.pairingRequest] at hr
  | some n =>
    simp only [hp] at hr
    exact h n (Option.filter_eq_some_iff.1 hp).1 r hr

theorem quarantineText_commits {o : Opened P} (h : o.Holds w.view)
    (hself : o.payload.kind = "text" → o.senderIsSelf = false) :
    Commits (quarantineText env o) o.stored w := by
  refine still_commits (getApp_still _) fun _ w₁ hw₁ => ensure_commits fun hk => ?_
  refine still_commits nowMs_still fun now w₂ hw₂ => ?_
  refine known_commits (notificationByRequestId_known _ w₂) fun previous w₃ hw₃ hprevious => ?_
  refine still_commits newUuid_still fun fresh w₄ hw₄ => ?_
  have h₄ : o.Holds w₄.view := (((h.still hw₁).still hw₂).still hw₃).still hw₄
  have hpeer : o.stored.senderAccountId = o.peer := by
    unfold Opened.peer
    rw [if_neg (by simp [hself hk.1])]
  rw [hpeer]
  refine (insertMessage_commits true h₄ (fun _ => hself hk.1) fun p s' hs => ?_).then ?_
  · obtain ⟨s₂, hs₂, rfl⟩ := Option.map_eq_some_iff.1 hs
    obtain ⟨s₁, hs₁, hput⟩ := Option.bind_eq_some_iff.1 hs₂
    obtain ⟨messages, summaries, rfl, -⟩ := Store.insertMessage_eq hs₁
    rw [Store.putNotification_eq hput]
    refine ⟨_, _, hs₁, rfl, fun r hr => ?_⟩
    refine (Store.mem_noticedRequests_put hr).elim (List.mem_append_right _) fun hr => ?_
    rw [show w₄.view = w₂.view from (show w₄.view = w₃.view from hw₄).trans hw₃]
    exact quarantineNotification_known hprevious hr
  · exact .bind loadContacts_quiet.runs fun _ => .bind refreshNotifications_quiet.runs fun _ =>
      (setStatus_quiet _).runs

theorem readByPeer_quiet (peer related : String) :
    IsQuiet (readByPeer env peer related : ClientM P Unit) :=
  .bind (executeRaise_quiet related (.readBy peer) _ fun _ hc m hm => by
    cases hc
    simpa using (Bool.and_eq_true_iff.1 hm).1) fun _ => setLoadedStatus_quiet _ _

theorem handleRead_commits {o : Opened P} (h : o.Holds w.view) :
    Commits (handleRead env o) o.stored w := by
  unfold handleRead
  extract_lets jp
  have hjp : ∀ ids, Commits (jp ids) o.stored w := fun ids => by
    refine ensure_commits fun _ => ?_
    exact quiet_commits (.each fun id _ => readByPeer_quiet _ _) fun _ _ hw =>
      commitControl_commits h.envelope (hw.received h.received)
  split
  · exact orFail_commits fun related _ => hjp [related]
  · exact hjp _

theorem saveOutgoingChatRequestNotification_quiet (id : String) (peer : UserBundle)
    (device : String) (read : Bool) :
    IsQuiet (saveOutgoingChatRequestNotification env id peer device read : ClientM P Unit) :=
  saveRequestNotification_quiet _ _ _ _ _

theorem syncOwnChatRequest_quiet (o : Opened P) :
    IsQuiet (syncOwnChatRequest env o : ClientM P Unit) :=
  .bind (getApp_quiet _) fun _ => .bind (.ensure _ _) fun _ => .bind (lookupBundle_quiet _) fun _ =>
    .bind (.ensure _ _) fun _ => .bind (.ofExcept _) fun _ => .bind (upsertContact_quiet _) fun _ =>
      saveRequestNotification_quiet _ _ _ _ _

theorem handleChatRequest_commits {o : Opened P} (h : o.Holds w.view) :
    Commits (handleChatRequest env o) o.stored w := by
  refine quiet_commits (getApp_quiet _) fun ownId w₁ hw₁ => ?_
  extract_lets jp
  have hjp : ∀ w', Quiet w w' → Commits (jp ()) o.stored w' := fun w' hw' =>
    quiet_commits loadContacts_quiet fun _ w'' hw'' =>
      (commitControl_commits h.envelope ((hw'.trans hw'').received h.received)).then (setStatus_quiet _).runs
  split
  · exact quiet_commits (syncOwnChatRequest_quiet o) fun _ w' hw' => hjp w' (hw₁.trans hw')
  · refine ensure_commits fun _ => ?_
    exact quiet_commits (saveRequestNotification_quiet _ _ _ _ _) fun _ w' hw' =>
      hjp w' (hw₁.trans hw')

theorem responsePeer_quiet (o : Opened P) :
    IsQuiet (responsePeer env o : ClientM P (Option UserBundle)) := by
  refine .ite (fun _ => .ite (fun _ => .pure _) fun _ => ?_) fun _ => .pure _
  exact .bind (lookupBundle_quiet _) fun _ => .bind (.ensure _ _) fun _ => .bind (.ofExcept _)
    fun _ => .pure _

theorem answeredRequest_quiet (o : Opened P) (requestId : String) :
    IsQuiet (answeredRequest env o requestId : ClientM P (Option Notification)) := by
  refine .bind (notificationByRequestId_quiet _) fun found => ?_
  cases found with
  | some n => exact .pure _
  | none =>
    refine .bind (responsePeer_quiet o) fun peer => ?_
    cases peer with
    | none => exact .pure _
    | some peer =>
      exact .bind (upsertContact_quiet _) fun _ => .bind newUuid_quiet fun _ =>
        .bind nowMs_quiet fun _ => .pure _

theorem applyChatResponse_quiet (o : Opened P) (n : Notification) :
    IsQuiet (applyChatResponse env o n : ClientM P Unit) := by
  refine .bind (.ensure _ _) fun _ => .bind (.ofExcept _) fun _ =>
    .bind (saveChatResponseNotification_quiet _ _ _) fun _ => ?_
  exact .ite (fun _ => .bind (loadContactsSelecting_quiet _) fun _ => setStatus_quiet _) fun _ =>
    .bind loadContacts_quiet fun _ => setStatus_quiet _

theorem handleChatResponse_commits {o : Opened P} (h : o.Holds w.view) :
    Commits (handleChatResponse env o) o.stored w := by
  refine orFail_commits fun requestId _ => quiet_commits (getApp_quiet _) fun ownId w₁ hw₁ => ?_
  refine ensure_commits fun _ => quiet_commits (answeredRequest_quiet o requestId) fun found w₂ hw₂ => ?_
  have hw := hw₁.trans hw₂
  cases found with
  | none => exact commitControl_commits h.envelope (hw.received h.received)
  | some n =>
    exact quiet_commits (applyChatResponse_quiet o n) fun _ w₃ hw₃ =>
      commitControl_commits h.envelope ((hw.trans hw₃).received h.received)

theorem showMessage_runs (o : Opened P) {message : ChatMessage}
    (hs : w.view.Selects message.conversationId) :
    wp (showMessage env o message) (fun _ => Runs w) (fun _ => Runs w) w := by
  unfold showMessage
  rw [wp_modifyApp_bind]
  refine Runs.wp_of (Quiet.runs ?_) ?_
  · split
    · exact Quiet.rfl
    · refine modifyApp_shown rfl rfl rfl rfl rfl rfl fun m hm => ?_
      refine (List.mem_append.1 hm).imp_right fun hm => ?_
      rw [List.mem_singleton.1 hm]
      exact hs
  · refine Moves.wp (.bind (getApp_quiet _).runs fun _ => .ite (fun _ => ?_) fun _ => .pure _) _
    refine .bind (.succeeds (sendReadReceipts_runs _ _)) fun sent => ?_
    exact .ite (fun _ => (markRead_quiet _).runs) fun _ => .pure _

theorem handleText_commits {o : Opened P} (h : o.Holds w.view) :
    Commits (handleText env o) o.stored w := by
  refine still_commits (getApp_still _) fun ownId w₁ hw₁ => ensure_commits fun _ => ?_
  have h₁ : o.Holds w₁.view := h.still hw₁
  extract_lets message
  refine (insertMessage_commits (!o.senderIsSelf) h₁ (by simp) fun p s' hs => ?_).then ?_
  · obtain ⟨s₁, hs₁, rfl⟩ := Option.map_eq_some_iff.1 hs
    obtain ⟨messages, summaries, rfl, -⟩ := Store.insertMessage_eq hs₁
    exact ⟨_, _, hs₁, rfl, fun r hr => List.mem_append_right _ hr⟩
  · refine .of_wp fun w₂ => ?_
    rw [wp_getApp_bind]
    split
    · next hselected =>
      obtain ⟨contact, hc, hconv⟩ := (Option.any_eq_true _ _).1 hselected
      refine showMessage_runs o ?_
      rw [← of_decide_eq_true hconv]
      exact selects_selectedContact hc
    · exact Runs.wp_of .refl (Moves.wp (.pure _) w₂)

/-! ## The loop -/

theorem dispatchEnvelope_commits {o : Opened P} (h : o.Holds w.view) (tombstoned : Bool) :
    Commits (dispatchEnvelope env o tombstoned) o.stored w := by
  unfold dispatchEnvelope
  split
  · exact ignoreTombstonedText_commits h
  · next hignored =>
    split
    · next hq =>
      refine quarantineText_commits h fun hk => ?_
      -- The own account counts as verified: only a tombstone keeps its text back.
      by_contra hself
      have hself : o.senderIsSelf = true := by simpa using hself
      refine hq.1 ⟨h.verified hself, ?_⟩
      by_contra htomb
      exact hignored ⟨hself, by simpa using htomb, hk⟩
    · split
      · exact handleRead_commits h
      · split
        · exact handleChatRequest_commits h
        · split
          · exact handleChatResponse_commits h
          · split
            · exact handleText_commits h
            · exact .inl .refl

theorem handleEnvelope_commits (stored : StoredEnvelope) :
    Commits (handleEnvelope env stored) stored w := by
  refine ((openEnvelope_holds stored).mono (fun _ _ h => h) fun _ _ h => .inl h.runs).bind
    fun o w₁ ⟨hw₁, hstored, h⟩ => ?_
  subst hstored
  refine wp.mono (Q := fun _ => Processed o.stored true w₁) (E := fun _ => Tried o.stored w₁)
    ?_ (fun _ _ hp => hw₁.runs.processed hp) fun _ _ ht => hw₁.runs.tried ht
  split
  · exact handleConversationDeleted_commits h
  · exact still_commits (query_still _) fun tombstoned w₂ hw₂ =>
      dispatchEnvelope_commits (h.still hw₂) tombstoned

/-- The envelopes that a batch handles, starting above a cursor. -/
def advancing : List StoredEnvelope → Nat → List StoredEnvelope
  | [], _ => []
  | stored :: rest, cursor =>
    if stored.cursor ≤ cursor then advancing rest cursor
    else stored :: advancing rest stored.cursor

theorem advancing_above : ∀ (envelopes : List StoredEnvelope) (cursor : Nat),
    ∀ e ∈ advancing envelopes cursor, cursor < e.cursor
  | [], _, e, h => nomatch h
  | stored :: rest, cursor, e, h => by
    unfold advancing at h
    split at h
    · exact advancing_above rest cursor e h
    · next hlt =>
      have hlt : cursor < stored.cursor := Nat.lt_of_not_le hlt
      rcases List.mem_cons.1 h with rfl | h
      · exact hlt
      · exact hlt.trans (advancing_above rest stored.cursor e h)

/-- A batch only goes up. -/
theorem advancing_ascending : ∀ (envelopes : List StoredEnvelope) (cursor : Nat),
    (cursor :: (advancing envelopes cursor).map StoredEnvelope.cursor).Pairwise (· < ·)
  | [], _ => List.pairwise_singleton _ _
  | stored :: rest, cursor => by
    refine List.pairwise_cons.2 ⟨fun n hn => ?_, ?_⟩
    · obtain ⟨e, he, rfl⟩ := List.mem_map.1 hn
      exact advancing_above _ _ e he
    · unfold advancing
      split
      · exact (List.pairwise_cons.1 (advancing_ascending rest cursor)).2
      · exact advancing_ascending rest stored.cursor

/-- The envelopes, all of them acknowledged. -/
def acknowledgedAll (envelopes : List StoredEnvelope) : List (StoredEnvelope × Bool) :=
  envelopes.map fun e => (e, true)

theorem acknowledgedAll_initial (envelopes : List StoredEnvelope) :
    (acknowledgedAll envelopes).map Prod.fst <+: envelopes := by
  rw [acknowledgedAll, List.map_map]
  simp [Function.comp_def]

theorem acknowledgedAll_cursors (envelopes : List StoredEnvelope) :
    (acknowledgedAll envelopes).map (fun e => e.1.cursor) = envelopes.map StoredEnvelope.cursor := by
  simp [acknowledgedAll]

/-- A batch processes the envelopes above the cursor in order, and stops where one fails. -/
theorem handleEnvelopes_walks : ∀ (envelopes : List StoredEnvelope) (cursor : Nat) (w : World P),
    wp (handleEnvelopes env envelopes cursor)
      (fun last w' => Walk (acknowledgedAll (advancing envelopes cursor)) w.view w'.view ∧
        last = ((advancing envelopes cursor).map StoredEnvelope.cursor).getLastD cursor)
      (fun _ w' => ∃ es, es.map Prod.fst <+: advancing envelopes cursor ∧ Walk es w.view w'.view) w
  | [], cursor, w => ⟨.runs .refl, rfl⟩
  | stored :: rest, cursor, w => by
    unfold handleEnvelopes advancing
    split
    · exact handleEnvelopes_walks rest cursor w
    · refine (handleEnvelope_commits stored).mono (fun _ _ h => h) (fun _ w' ht => ?_) |>.bind
        fun _ w₁ hp => ?_
      · rcases ht with hr | ⟨acknowledged, hp⟩
        · exact ⟨[], List.nil_prefix, .runs hr⟩
        · exact ⟨[(stored, acknowledged)], ⟨_, rfl⟩, hp⟩
      · refine (handleEnvelopes_walks rest stored.cursor w₁).mono (fun last w' ⟨hw, hl⟩ => ?_)
          fun _ w' ⟨es, hes, hw⟩ => ?_
        · exact ⟨Walk.append hp hw, hl.trans (List.getLastD_cons ..).symm⟩
        · exact ⟨(stored, true) :: es, (List.prefix_cons_inj _).2 hes, Walk.append hp hw⟩

theorem markDelivered_quiet (id : String) : IsQuiet (markDelivered env id : ClientM P Unit) :=
  executeRaise_quiet id .delivered (fun _ => true) nofun

theorem applyDeliveryUpdates_quiet : ∀ (updates : List StoredDeliveryUpdate) (cursor : Nat),
    IsQuiet (applyDeliveryUpdates env updates cursor : ClientM P Nat)
  | [], _ => .pure _
  | status :: rest, _ => by
    unfold applyDeliveryUpdates
    split
    · exact .bind (.pure _) fun _ => applyDeliveryUpdates_quiet rest _
    · exact .bind (markDelivered_quiet _) fun _ => applyDeliveryUpdates_quiet rest _

/-- A batch processes envelopes above the stored cursor, in order and without leaving one out; all
of them if it returns. -/
theorem handleSyncBatch_walks (batch : SyncBatch) :
    wp (handleSyncBatch env batch)
      (fun _ w' => Walk (acknowledgedAll (advancing batch.envelopes w.store.envelopeCursor)) w.view w'.view)
      (fun _ w' => ∃ es, es.map Prod.fst <+: advancing batch.envelopes w.store.envelopeCursor ∧
        Walk es w.view w'.view) w := by
  unfold handleSyncBatch
  rw [Prog.wp_bind]
  refine wp_query ?_ fun _ => ⟨[], List.nil_prefix, .runs .refl⟩
  refine (applyDeliveryUpdates_quiet _ _).wp_bind
    (fun _ w' h => ⟨[], List.nil_prefix, .runs h.runs⟩) fun statusCursor w₁ hw₁ => ?_
  refine ((handleEnvelopes_walks _ _ w₁).mono (fun _ _ h => h) fun _ _ ⟨es, hes, hw⟩ =>
    ⟨es, hes, Walk.of_runs_trans hw₁.runs hw⟩).bind fun last w₂ ⟨hw₂, hl⟩ => ?_
  have hwalk : Walk (acknowledgedAll (advancing batch.envelopes w.store.envelopeCursor)) w.view w₂.view :=
    Walk.of_runs_trans hw₁.runs hw₂
  -- The cursor stored at the end is the one the last transaction stored.
  have hlast : w₂.store.envelopeCursor = last :=
    hw₂.cursor.trans (by rw [hl, acknowledgedAll_cursors, show w₁.view.cursor = w.store.envelopeCursor from hw₁.same.2.2])
  rw [Prog.wp_bind]
  refine wp_executeRecording (fun _ => ⟨_, acknowledgedAll_initial _, hwalk⟩) fun store hs => ?_
  cases hs
  refine (Moves.wp (R := Runs) ?_ _).mono (fun _ w' h => Walk.trans_runs ?_ h)
    fun _ w' h => ⟨_, acknowledgedAll_initial _, Walk.trans_runs ?_ h⟩
  · exact .bind refreshContactsPreserveSelection_quiet.runs fun _ =>
      .ite (fun _ => (setStatus_quiet _).runs) fun _ => .pure _
  all_goals
    rw [← hlast]
    exact hwalk

/-- A batch goes up, whether it is handled to its end or not. -/
theorem Walk.paths_of_advancing {es : List (StoredEnvelope × Bool)} {envelopes : List StoredEnvelope}
    {v v' : View P} (h : Walk es v v') (hes : es.map Prod.fst <+: advancing envelopes v.cursor) :
    ReflTransGen AnyStep v v' := by
  refine h.paths ((advancing_ascending envelopes v.cursor).sublist (.cons_cons _ ?_))
  have hmap := hes.sublist.map StoredEnvelope.cursor
  rwa [List.map_map] at hmap

theorem handleSyncBatch_paths (batch : SyncBatch) :
    Moves Paths (handleSyncBatch env batch : ClientM P Unit) := .of_wp fun _ =>
  (handleSyncBatch_walks batch).mono (fun _ _ h => h.paths_of_advancing (acknowledgedAll_initial _))
    fun _ _ ⟨_, hes, h⟩ => h.paths_of_advancing hes

end TuiChat
