import TuiChat.Client.Batches
import TuiChat.Client.Messages
import TuiChat.Client.Statements
import TuiChat.Verify.Statuses

/-!
# The statuses on the screen

The status of a message is kept twice, in its row and in the copy that is loaded, and every event of the server
that raises one has to raise the other. After every event that is handled, where `World.Clean` held when it came,
every loaded message has the status of its row again (`displayed_statuses`). The delivery updates of a batch raise
the rows only (`Scenario.Displayed.batch_update_hidden`).
-/

namespace TuiChat

open Lib
open Lib.Prog (Moves wp)

variable {P : Primitives} {env : Environment}

/-- Every loaded message has the status that is stored for it. -/
def World.Displayed (w : World P) : Prop :=
  ∀ m ∈ w.app.messages, (w.store.messages.find m.id).map ChatMessage.status = some m.status

theorem KeepsMessages.displayed {w w' : World P} (h : KeepsMessages w w') (hw : w.Displayed) : w'.Displayed := by
  intro m hm
  rw [h.loaded] at hm
  obtain ⟨row, hrow, hstatus⟩ := Option.map_eq_some_iff.1 (hw m hm)
  rw [h.stored m.id row hrow, Option.map_some, hstatus]

/-! ## Raising a status in both places -/

/-- The loaded messages of an id. -/
def App.copies (app : App P) (id : String) : List ChatMessage := app.messages.filter fun m => m.id = id

/-- A statement that raises the row of the id where `p`, and an assignment to the first loaded message where `q`, do
the same: if the row is below `status`, they agree on every loaded message of the id, and there is one at most if
they raise it. -/
def World.Raises (w : World P) (id : String) (status : MessageStatus) (p q : ChatMessage → Bool) : Prop :=
  ∀ row, w.store.messages.find id = some row → row.status < status →
    (p row = true → (w.app.copies id).length ≤ 1) ∧ ∀ m ∈ w.app.copies id, q m = p row

theorem KeepsMessages.raises {w w' : World P} {id : String} {status : MessageStatus} {p q : ChatMessage → Bool}
    (h : KeepsMessages w w') (hw : w.Displayed) (hr : w.Raises id status p q) : w'.Raises id status p q := by
  intro row hrow hlt
  have hcopies : w'.app.copies id = w.app.copies id := by
    unfold App.copies
    rw [h.loaded]
  rw [hcopies]
  cases hnone : w.app.copies id with
  | nil => exact ⟨fun _ => Nat.zero_le 1, nofun⟩
  | cons m ms =>
    have hm : m ∈ w.app.copies id := by rw [hnone]; exact List.mem_cons_self
    obtain ⟨hloaded, hid⟩ := List.mem_filter.1 hm
    obtain ⟨row', hrow', -⟩ := Option.map_eq_some_iff.1 (hw m hloaded)
    rw [of_decide_eq_true hid] at hrow'
    have hsame : row' = row := Option.some.inj ((h.stored id row' hrow').symm.trans hrow)
    have hold : w.store.messages.find id = some row := hsame ▸ hrow'
    have := hr row hold hlt
    rwa [hnone] at this

section

variable {q : ChatMessage → Bool} {f : ChatMessage → ChatMessage} {ms : List ChatMessage}

theorem modifyFirst_of_none (h : ∀ m ∈ ms, q m = true → f m = m) : modifyFirst q f ms = ms := by
  induction ms with
  | nil => rfl
  | cons m ms ih =>
    have hrest := ih fun m' hm' => h m' (List.mem_cons_of_mem m hm')
    unfold modifyFirst
    split
    · next hq => rw [h m List.mem_cons_self hq]
    · rw [hrest]

/-- Where `q` holds of at most one message, changing the first one changes every one. -/
theorem modifyFirst_eq_map (h : (ms.filter q).length ≤ 1) :
    modifyFirst q f ms = ms.map fun m => if q m then f m else m := by
  induction ms with
  | nil => rfl
  | cons m ms ih =>
    unfold modifyFirst
    rw [List.map_cons]
    cases hq : q m with
    | true =>
      rw [List.filter_cons_of_pos hq, List.length_cons] at h
      have hnone : ms.filter q = [] := List.length_eq_zero_iff.1 (by omega)
      have hrest : ms.map (fun m => if q m then f m else m) = ms.map id := by
        apply List.map_congr_left
        intro m' hm'
        exact if_neg (List.filter_eq_nil_iff.1 hnone m' hm')
      rw [hrest, List.map_id]
      rfl
    | false =>
      rw [List.filter_cons_of_neg (by rw [hq]; exact Bool.false_ne_true)] at h
      rw [ih h]
      rfl

end

/-- A status that is raised in the store and in memory, as far as `World.Raises` has it. -/
theorem World.Displayed.raise {w : World P} (hw : w.Displayed) {id : String} {status : MessageStatus}
    {p q : ChatMessage → Bool} (hq : ∀ m, q m = true → m.id = id) (hr : w.Raises id status p q) {w' : World P}
    (hstore : w'.store.messages = (w.store.raiseStatus id status p).messages)
    (happ : w'.app.messages =
      modifyFirst q (fun m => { m with status := max m.status status }) w.app.messages) : w'.Displayed := by
  -- The row of a loaded message, before and after.
  have hrow : ∀ m ∈ w.app.messages, ∃ row, w.store.messages.find m.id = some row ∧ row.id = m.id ∧
      row.status = m.status ∧ (w'.store.messages.find m.id).map ChatMessage.status =
        some (if m.id = id ∧ p row = true then max m.status status else m.status) := by
    intro m hm
    obtain ⟨row, hrow, hstatus⟩ := Option.map_eq_some_iff.1 (hw m hm)
    have hid : row.id = m.id := Table.key_of_find hrow
    refine ⟨row, hrow, hid, hstatus, ?_⟩
    rw [hstore, Store.find_raiseStatus, hrow, Option.map_some, Option.map_some, hid]
    split
    · rw [hstatus]
    · rw [hstatus]
  by_cases hlow : ∃ row, w.store.messages.find id = some row ∧ row.status < status ∧ p row = true
  · obtain ⟨low, hlow, hlt, hp⟩ := hlow
    obtain ⟨hlength, hagree⟩ := hr low hlow hlt
    have hone : (w.app.messages.filter q).length ≤ 1 := by
      refine le_trans (List.Sublist.length_le ?_) (hlength hp)
      exact List.monotone_filter_right _ fun m hm => decide_eq_true (hq m hm)
    rw [modifyFirst_eq_map hone] at happ
    intro m' hm'
    rw [happ] at hm'
    obtain ⟨m, hm, rfl⟩ := List.mem_map.1 hm'
    obtain ⟨row, hfind, hid, hstatus, hafter⟩ := hrow m hm
    by_cases hmid : m.id = id
    · have hsame : row = low := Option.some.inj (hfind.symm.trans (hmid ▸ hlow))
      have hqm : q m = true := (hagree m (List.mem_filter.2 ⟨hm, decide_eq_true hmid⟩)).trans hp
      rw [if_pos hqm]
      rw [if_pos ⟨hmid, hsame ▸ hp⟩] at hafter
      exact hafter
    · have hqm : ¬ q m = true := fun hqm => hmid (hq m hqm)
      rw [if_neg hqm]
      rw [if_neg fun hand => hmid hand.1] at hafter
      exact hafter
  · -- No row is raised, and no loaded message may be.
    have hhigh : ∀ m ∈ w.app.messages, m.id = id → ∀ row, w.store.messages.find m.id = some row →
        (p row = true ∨ q m = true) → max m.status status = m.status := by
      intro m hm hmid row hfind hpq
      obtain ⟨row', hfind', -, hstatus, -⟩ := hrow m hm
      obtain rfl : row = row' := Option.some.inj (hfind.symm.trans hfind')
      rw [hmid] at hfind
      apply max_eq_left
      apply le_of_not_gt
      intro hlt
      rw [← hstatus] at hlt
      have hagree : q m = p row := (hr row hfind hlt).2 m (List.mem_filter.2 ⟨hm, decide_eq_true hmid⟩)
      have hp : p row = true := hpq.elim (fun hp => hp) fun hqm => hagree ▸ hqm
      exact hlow ⟨row, hfind, hlt, hp⟩
    have hsame : w'.app.messages = w.app.messages := by
      rw [happ]
      apply modifyFirst_of_none
      intro m hm hqm
      obtain ⟨row, hfind, -⟩ := hrow m hm
      rw [hhigh m hm (hq m hqm) row hfind (.inr hqm)]
    intro m hm
    rw [hsame] at hm
    obtain ⟨row, hfind, -, -, hafter⟩ := hrow m hm
    rw [hafter]
    split
    · next hand => rw [hhigh m hm hand.1 row hfind (.inl hand.2)]
    · rfl

theorem mem_modifyFirst {q : ChatMessage → Bool} {f : ChatMessage → ChatMessage} {m' : ChatMessage} :
    ∀ {ms : List ChatMessage}, m' ∈ modifyFirst q f ms → ∃ m ∈ ms, m' = m ∨ m' = f m
  | m :: ms, h => by
    unfold modifyFirst at h
    split at h
    · rcases List.mem_cons.1 h with rfl | h
      · exact ⟨m, List.mem_cons_self, .inr rfl⟩
      · exact ⟨m', List.mem_cons_of_mem m h, .inl rfl⟩
    · rcases List.mem_cons.1 h with rfl | h
      · exact ⟨m', List.mem_cons_self, .inl rfl⟩
      · obtain ⟨m₀, hm₀, heq⟩ := mem_modifyFirst h
        exact ⟨m₀, List.mem_cons_of_mem m hm₀, heq⟩

/-- Raising one status leaves what is asked for raising another. -/
theorem World.Raises.raise {w w' : World P} {id id' : String} {status status' : MessageStatus}
    {p p' q q' : ChatMessage → Bool} (hr : w.Raises id' status' p' q')
    (hp : ∀ m status, p' { m with status } = p' m) (hq : ∀ m status, q' { m with status } = q' m)
    (hstore : w'.store.messages = (w.store.raiseStatus id status p).messages)
    (happ : w'.app.messages =
      modifyFirst q (fun m => { m with status := max m.status status }) w.app.messages) :
    w'.Raises id' status' p' q' := by
  intro row' hrow' hlt'
  have hrow : ∃ row, w.store.messages.find id' = some row ∧ row.status ≤ row'.status ∧ p' row = p' row' := by
    rw [hstore, Store.find_raiseStatus] at hrow'
    obtain ⟨row, hrow, heq⟩ := Option.map_eq_some_iff.1 hrow'
    refine ⟨row, hrow, ?_⟩
    rw [← heq]
    split
    · exact ⟨le_max_left _ _, (hp row _).symm⟩
    · exact ⟨le_rfl, rfl⟩
  obtain ⟨row, hrow, hle, hprow⟩ := hrow
  obtain ⟨hlength, hagree⟩ := hr row hrow (lt_of_le_of_lt hle hlt')
  have hcount : ∀ ms : List ChatMessage,
      (ms.filter fun m => decide (m.id = id')).length = (ms.map ChatMessage.id).countP fun id => decide (id = id') := by
    intro ms
    rw [List.countP_map, List.countP_eq_length_filter]
    rfl
  constructor
  · intro hraised
    have hlength := hlength (hprow ▸ hraised)
    unfold App.copies at hlength ⊢
    rw [hcount] at hlength ⊢
    rw [happ, map_modifyFirst (by exact fun _ => rfl)]
    exact hlength
  · intro m' hm'
    obtain ⟨hmem, hid'⟩ := List.mem_filter.1 hm'
    rw [happ] at hmem
    obtain ⟨m, hm, heq⟩ := mem_modifyFirst hmem
    rw [← hprow]
    rcases heq with rfl | rfl
    · exact hagree m' (List.mem_filter.2 ⟨hm, hid'⟩)
    · rw [hq]
      exact hagree m (List.mem_filter.2 ⟨hm, hid'⟩)

/-! ## The handlers of a status -/

/-- A program that ends well leaves every loaded message with the status of its row. -/
abbrev Redisplays {α : Type} (m : ClientM P α) (w : World P) : Prop :=
  wp m (fun _ w' => w'.Displayed) (fun _ _ => True) w

theorem Lib.Prog.Moves.redisplays {α : Type} {m : ClientM P α} {w : World P} (h : Retains m) (hw : w.Displayed) :
    Redisplays m w :=
  (h.wp w).mono (fun _ _ h => h.displayed hw) fun _ _ _ => trivial

/-- Before what shows the statuses again, what leaves the messages alone. -/
theorem Lib.Prog.Moves.redisplays_bind {α β : Type} {m : ClientM P α} {f : α → ClientM P β} {w : World P}
    (h : Retains m) (hf : ∀ a w', KeepsMessages w w' → Redisplays (f a) w') : Redisplays (m >>= f) w :=
  h.wp_bind (fun _ _ _ => trivial) hf

theorem MessageStatus.max_eq_ite (a b : MessageStatus) : max a b = if a.rank < b.rank then b else a := by
  split
  · next hlt => exact max_eq_right (le_of_lt hlt)
  · next hge => exact max_eq_left (le_of_not_gt hge)

theorem MessageStatus.max_read (a : MessageStatus) : max a .read = .read := by
  cases a <;> decide

/-- The two ends of a statement that raises a status and the assignment that follows it. -/
theorem wp_raise {id : String} {status : MessageStatus} {p q : ChatMessage → Bool} {events : World P → List Event}
    {f : ChatMessage → ChatMessage} (hf : ∀ m, f m = { m with status := max m.status status })
    (hq : ∀ m, q m = true → m.id = id) {w : World P} (hw : w.Displayed) (hr : w.Raises id status p q) :
    wp (do
        executeRecording env (fun w => some (w.store.raiseStatus id status p)) events
        modifyApp fun app => { app with messages := modifyFirst q f app.messages })
      (fun _ w' => w'.Displayed ∧ w'.store.messages = (w.store.raiseStatus id status p).messages ∧
        w'.app.messages = modifyFirst q (fun m => { m with status := max m.status status }) w.app.messages)
      (fun _ _ => True) w := by
  rw [Prog.wp_bind]
  refine wp_executeRecording (fun _ => trivial) fun store hs => ?_
  cases hs
  have hf' : f = fun m => { m with status := max m.status status } := funext hf
  subst hf'
  exact ⟨hw.raise hq hr rfl rfl, rfl, rfl⟩

theorem completeOutbox_redisplays {id : String} {w : World P} (hw : w.Displayed)
    (hr : w.Raises id .sent (fun _ => true) fun m => m.id = id) : Redisplays (completeOutbox env id) w := by
  have hremoved : Retains (execute env fun s : Store P => some (s.removeOutbox id)) := execute_retains fun _ => rfl
  have hsynced : Retains (execute env fun s : Store P => some (s.markConversationDeletionSynced id)) :=
    execute_retains fun _ => rfl
  unfold completeOutbox
  refine hremoved.redisplays_bind fun _ w₁ hw₁ => hsynced.redisplays_bind fun _ w₂ hw₂ => ?_
  have hkeeps := hw₁.trans hw₂
  refine (wp_raise (fun m => ?_) (fun m hm => of_decide_eq_true hm) (hkeeps.displayed hw) (hkeeps.raises hw hr)).mono
    (fun _ _ h => h.1) fun _ _ _ => trivial
  rw [MessageStatus.max_eq_ite]
  split
  · rfl
  · rfl

theorem handleSendAccepted_redisplays {accepted : SendAccepted} {w : World P} (hw : w.Displayed)
    (hr : w.Raises accepted.logicalMessageId .sent (fun _ => true) fun m => m.id = accepted.logicalMessageId) :
    Redisplays (handleSendAccepted env accepted) w := by
  unfold handleSendAccepted Redisplays
  extract_lets id
  rw [wp_modifyApp_bind]
  have hrest : ∀ app : App P, app.messages = w.app.messages → Redisplays (do
      completeOutbox env id
      setStatus "消息已由服务端持久化") { w with app } := by
    intro app happ
    have hkeeps : KeepsMessages w { w with app } := .of_eq happ rfl
    refine (completeOutbox_redisplays (hkeeps.displayed hw) (hkeeps.raises hw hr)).bind fun _ w₂ hw₂ => ?_
    exact (setStatus_leaves _).of_leaves.redisplays hw₂
  exact hrest _ rfl

theorem handleDeliveryUpdate_redisplays {update : DeliveryUpdate} {w : World P} (hw : w.Displayed)
    (hr : w.Raises update.logicalMessageId .delivered (fun _ => true) fun m => m.id = update.logicalMessageId) :
    Redisplays (handleDeliveryUpdate env update) w := by
  unfold handleDeliveryUpdate
  refine (wp_raise (fun m => ?_) (fun m hm => of_decide_eq_true hm) hw hr).mono (fun _ _ h => h.1)
    fun _ _ _ => trivial
  rw [MessageStatus.max_eq_ite]
  split
  · rfl
  · rfl

theorem markRead_redisplays {id : String} {w : World P} (hw : w.Displayed)
    (hr : w.Raises id .read (fun _ => true) fun m => m.id = id) : Redisplays (markRead env id) w := by
  unfold markRead setLoadedStatus
  refine (wp_raise (fun m => ?_) (fun m hm => of_decide_eq_true hm) hw hr).mono (fun _ _ h => h.1)
    fun _ _ _ => trivial
  rw [MessageStatus.max_read]

/-! ## The envelopes of a batch -/

namespace Opened

/-- The messages that a read receipt is about. -/
def related (o : Opened P) : List String :=
  if o.payload.kind = "read" then o.payload.relatedMessageId.toList else o.payload.relatedMessageIds

/-- The text is one that is shown when it comes: it is of the selected conversation, of a verified sender. -/
def IsShown (o : Opened P) (w : World P) : Prop :=
  o.payload.kind = "text" ∧ o.verified = true ∧ w.store.tombstoned o.peer = false ∧
    (w.app.selectedContact.any fun contact =>
      conversationId P.sha256 w.app.profile.accountId contact.bundle.accountId = o.envelope.conversationId) = true

/-- What has to hold when an envelope is handled. -/
structure Clean (o : Opened P) (w : World P) : Prop where
  /-- No row of a loaded message is deleted, unless the selected conversation is. -/
  deletion : o.payload.kind = "conversation_deleted" →
    w.app.selectedContact.map (fun c => c.bundle.accountId) = some o.payload.peerAccountId ∨
      ∀ m ∈ w.app.messages, ∀ row, w.store.messages.find m.id = some row →
        row.conversationId ≠ o.envelope.conversationId
  /-- A receipt names a message of the sender's conversation in the row just if it does in memory. -/
  receipt : o.payload.kind ∈ readKinds → ∀ id ∈ o.related, w.Raises id .read
    (fun row => row.peerAccountId = o.stored.senderAccountId && !row.inbound)
    fun m => m.id = id && !m.inbound && m.peerAccountId = o.stored.senderAccountId
  /-- A text that is shown has no row of another status, unless it is loaded already. -/
  fresh : o.IsShown w → w.app.copies o.payload.messageId = [] →
    ∀ row, w.store.messages.find o.payload.messageId = some row → row.status = .delivered
  /-- A text that is loaded already and is read now is loaded once. -/
  once : o.IsShown w → shouldSendReadReceipt w.app.terminalFocused (!o.senderIsSelf) true = true →
    w.Raises o.payload.messageId .read (fun _ => true) fun m => m.id = o.payload.messageId

end Opened

theorem World.displayed_of_nil {w : World P} (h : w.app.messages = []) : w.Displayed := by
  intro m hm
  rw [h] at hm
  cases hm

theorem openEnvelope_retains (stored : StoredEnvelope) : Retains (openEnvelope env stored : ClientM P (Opened P)) := by
  have hverified : ∀ senderIsSelf bundle, Retains (senderVerified env senderIsSelf bundle : ClientM P Bool) := by
    intro senderIsSelf bundle
    exact .ite (fun _ => .pure _) fun _ => .bind (upsertContact_retains _) fun _ => .pure _
  refine .bind (.orFail _ _) fun envelope => .past (lookupBundle_leaves _) fun bundle => ?_
  refine .past (getApp_leaves _) fun ownId => .bind (hverified _ _) fun verified => ?_
  refine .bind (.ofExcept _) fun _ => .bind (.orFail _ _) fun device => .bind (.ofExcept _) fun _ => ?_
  refine .past (getApp_leaves _) fun machine => .bind (.ensure _ _) fun _ => ?_
  refine .bind (.ofExcept _) fun decrypted => .past (record_leaves _) fun _ => ?_
  exact .bind (.orFail _ _) fun payload => .bind (.ensure _ _) fun _ => .pure _

/-- The state after the transaction of an envelope and its acknowledgement. -/
theorem commitEnvelope_ends {o : Opened P} {f : RuntimeProfile P → Store P → Option (Store P)}
    {events : World P → List Event} {Q : Unit → World P → Prop} {w : World P}
    (hQ : ∀ w' : World P, (∃ profile, f profile w.store = some w'.store) →
      w'.app = { w.app with profile := { w.app.profile with machine := o.machine } } → Q () w') :
    wp (commitEnvelope env o f events) Q (fun _ _ => True) w := by
  unfold commitEnvelope
  rw [Prog.wp_bind]
  refine wp_commitMachine (fun _ => trivial) fun store hs => ?_
  exact wp_sendFrame (hQ _ ⟨_, hs⟩ rfl) fun _ => trivial

theorem commitEnvelope_redisplays {o : Opened P} {f : RuntimeProfile P → Store P → Option (Store P)}
    {events : World P → List Event} {w : World P} (hw : w.Displayed)
    (h : ∀ profile (s s' : Store P), f profile s = some s' → ∀ id m, s.messages.find id = some m →
      s'.messages.find id = some m) : Redisplays (commitEnvelope env o f events) w := by
  refine commitEnvelope_ends fun w' ⟨profile, hs⟩ happ => ?_
  have hkeeps : KeepsMessages w w' := ⟨by rw [happ], h profile w.store w'.store hs⟩
  exact hkeeps.displayed hw

theorem commitControl_redisplays {o : Opened P} {w : World P} (hw : w.Displayed) :
    Redisplays (commitControl env o) w :=
  commitEnvelope_redisplays hw fun profile s s' hs id m hm => by
    cases hs
    exact hm

theorem handleConversationDeleted_redisplays {o : Opened P} {w : World P} (hw : w.Displayed) (ho : o.Clean w)
    (hkind : o.payload.kind = "conversation_deleted") : Redisplays (handleConversationDeleted env o) w := by
  unfold handleConversationDeleted Redisplays
  rw [wp_getApp_bind]
  refine wp.ensure trivial fun _ => ?_
  rw [wp_getApp_bind]
  extract_lets tombstone rest
  have hrest : ∀ u, Retains (rest u) := fun _ =>
    Moves.of_leaves (.bind refreshNotifications_leaves fun _ => setStatus_leaves _)
  rw [Prog.wp_bind]
  refine commitEnvelope_ends fun w₁ ⟨profile, hs⟩ happ => ?_
  have hloaded : w₁.app.messages = w.app.messages := by rw [happ]
  have hmessages : w₁.store.messages =
      w.store.messages.delete fun m => m.conversationId = o.envelope.conversationId := by
    obtain ⟨s₁, hs₁, hs₂⟩ := Option.map_eq_some_iff.1 hs
    obtain ⟨tombstones, rfl⟩ := Store.putTombstone_eq hs₁
    rw [← hs₂]
    rfl
  rw [wp_modifyApp_bind]
  refine (loadContactsSelecting_retains _).wp_bind (fun _ _ _ => trivial) fun _ w₂ hw₂ => ?_
  refine (Prog.wp_ite _ _ _).2 ⟨fun _ => ?_, fun hother => ?_⟩
  · refine (Prog.wp_bind _ _).2 ((hrest ()).redisplays (World.displayed_of_nil rfl))
  · have hkept := (ho.deletion hkind).resolve_left hother
    refine (hrest ()).redisplays (hw₂.displayed fun m hm => ?_)
    have hold : m ∈ w.app.messages := hloaded ▸ hm
    obtain ⟨row, hrow, hstatus⟩ := Option.map_eq_some_iff.1 (hw m hold)
    show (w₁.store.messages.find m.id).map ChatMessage.status = some m.status
    have hne : row.conversationId ≠ o.envelope.conversationId := hkept m hold row hrow
    rw [hmessages, Table.find_delete, hrow]
    simp [Option.filter, hne, hstatus]

theorem ignoreTombstonedText_redisplays {o : Opened P} {w : World P} (hw : w.Displayed) :
    Redisplays (ignoreTombstonedText env o) w :=
  (commitControl_redisplays hw).bind fun _ _ hw' => (setStatus_leaves _).of_leaves.redisplays hw'

theorem quarantineText_redisplays {o : Opened P} {w : World P} (hw : w.Displayed) :
    Redisplays (quarantineText env o) w := by
  refine (getApp_leaves _).of_leaves.redisplays_bind fun ownId w₁ hw₁ => wp.ensure trivial fun _ => ?_
  refine nowMs_leaves.of_leaves.redisplays_bind fun now w₂ hw₂ => ?_
  refine (query_leaves _).of_leaves.redisplays_bind fun previous w₃ hw₃ => ?_
  refine newUuid_leaves.of_leaves.redisplays_bind fun fresh w₄ hw₄ => ?_
  have hstart : w₄.Displayed := (((hw₁.trans hw₂).trans hw₃).trans hw₄).displayed hw
  refine (commitEnvelope_redisplays hstart fun profile s s' hs id m hm => ?_).bind fun _ w₅ hw₅ => ?_
  · obtain ⟨s₂, hs₂, rfl⟩ := Option.map_eq_some_iff.1 hs
    obtain ⟨s₁, hs₁, hs₂⟩ := Option.bind_eq_some_iff.1 hs₂
    obtain rfl := Store.putNotification_eq hs₂
    have hkept : s₁.messages.find id = some m := Store.find_insertMessage hs₁ hm
    exact hkept
  · refine Moves.redisplays (.bind loadContacts_retains fun _ => ?_) hw₅
    exact Moves.of_leaves (.bind refreshNotifications_leaves fun _ => setStatus_leaves _)

/-- One message of a receipt; what the others ask for stays. -/
theorem readByPeer_redisplays {peer id : String} {ids : List String} {w : World P} (hw : w.Displayed)
    (hr : ∀ id ∈ ids, w.Raises id .read (fun row => row.peerAccountId = peer && !row.inbound)
      fun m => m.id = id && !m.inbound && m.peerAccountId = peer) (hid : id ∈ ids) :
    wp (readByPeer env peer id)
      (fun _ w' => w'.Displayed ∧ ∀ id ∈ ids, w'.Raises id .read
        (fun row => row.peerAccountId = peer && !row.inbound)
        fun m => m.id = id && !m.inbound && m.peerAccountId = peer) (fun _ _ => True) w := by
  unfold readByPeer setLoadedStatus
  refine (wp_raise (fun m => ?_) (fun m hm => ?_) hw (hr id hid)).mono (fun _ w' ⟨hw', hstore, happ⟩ => ?_)
    fun _ _ _ => trivial
  · rw [MessageStatus.max_read]
  · simp only [Bool.and_eq_true, decide_eq_true_eq] at hm
    exact hm.1.1
  · exact ⟨hw', fun id' hid' => (hr id' hid').raise (fun _ _ => rfl) (fun _ _ => rfl) hstore happ⟩

theorem handleRead_redisplays {o : Opened P} {w : World P} (hw : w.Displayed) (ho : o.Clean w)
    (hkind : o.payload.kind ∈ readKinds) : Redisplays (handleRead env o) w := by
  have hr := ho.receipt hkind
  have hrest : ∀ ids, (∀ id ∈ ids, id ∈ o.related) → Redisplays (do
      Prog.ensure (ids ≠ [] ∧ ids.length ≤ 100) "已读回执批量大小无效"
      Prog.each (readByPeer env o.stored.senderAccountId) ids
      commitControl env o) w := by
    intro ids hids
    refine wp.ensure trivial fun _ => ?_
    refine (Prog.wp_each (I := fun w' => w'.Displayed ∧ ∀ id ∈ o.related, w'.Raises id .read
        (fun row => row.peerAccountId = o.stored.senderAccountId && !row.inbound)
        fun m => m.id = id && !m.inbound && m.peerAccountId = o.stored.senderAccountId)
      (fun id hid w' ⟨hw', hr'⟩ => readByPeer_redisplays hw' hr' (hids id hid)) ⟨hw, hr⟩).bind fun _ w' h => ?_
    exact commitControl_redisplays h.1
  unfold handleRead
  by_cases hone : o.payload.kind = "read"
  · rw [if_pos hone]
    refine wp.orFail trivial fun related hrelated => hrest [related] fun id hid => ?_
    unfold Opened.related
    rw [if_pos hone, hrelated]
    exact hid
  · rw [if_neg hone]
    refine hrest o.payload.relatedMessageIds fun id hid => ?_
    unfold Opened.related
    rw [if_neg hone]
    exact hid

theorem handleChatRequest_redisplays {o : Opened P} {w : World P} (hw : w.Displayed) :
    Redisplays (handleChatRequest env o) w := by
  have hown : Retains (syncOwnChatRequest env o : ClientM P Unit) := by
    refine .past (getApp_leaves _) fun _ => .bind (.ensure _ _) fun _ => ?_
    refine .past (lookupBundle_leaves _) fun peer => ?_
    refine .bind (.ensure _ _) fun _ => .bind (.ofExcept _) fun _ => .bind (upsertContact_retains _) fun _ => ?_
    exact .of_leaves (saveRequestNotification_leaves _ _ _ _ _)
  unfold handleChatRequest
  refine (getApp_leaves _).of_leaves.redisplays_bind fun ownId w₁ hw₁ => ?_
  unfold Redisplays
  extract_lets rest
  have hrest : ∀ u w', KeepsMessages w₁ w' → Redisplays (rest u) w' := by
    intro u w' hw'
    refine loadContacts_retains.redisplays_bind fun _ w₂ hw₂ => ?_
    refine (commitControl_redisplays (((hw₁.trans hw').trans hw₂).displayed hw)).bind fun _ w₃ hw₃ => ?_
    exact (setStatus_leaves _).of_leaves.redisplays hw₃
  refine (Prog.wp_ite _ _ _).2 ⟨fun _ => hown.redisplays_bind fun u w' hw' => hrest u w' hw', fun _ => ?_⟩
  refine wp.ensure trivial fun _ => ?_
  exact (saveRequestNotification_leaves _ _ _ _ _).of_leaves.redisplays_bind fun u w' hw' => hrest u w' hw'

theorem answeredRequest_retains (o : Opened P) (requestId : String) :
    Retains (answeredRequest env o requestId : ClientM P (Option Notification)) := by
  have hpeer : Retains (responsePeer env o : ClientM P (Option UserBundle)) := by
    refine Moves.of_leaves (.ite (fun _ => .ite (fun _ => .pure _) fun _ => ?_) fun _ => .pure _)
    refine .bind (lookupBundle_leaves _) fun peer => ?_
    exact .bind (.ensure _ _) fun _ => .bind (.ofExcept _) fun _ => .pure _
  refine .past (query_leaves _) fun found => ?_
  cases found with
  | some n => exact .pure _
  | none =>
    refine .bind hpeer fun peer => ?_
    cases peer with
    | none => exact .pure _
    | some peer =>
      refine .bind (upsertContact_retains _) fun _ => Moves.of_leaves ?_
      exact .bind newUuid_leaves fun _ => .bind nowMs_leaves fun _ => .pure _

theorem applyChatResponse_retains (o : Opened P) (n : Notification) :
    Retains (applyChatResponse env o n : ClientM P Unit) := by
  refine .bind (.ensure _ _) fun _ => .bind (.ofExcept _) fun _ =>
    .past (saveChatResponseNotification_leaves _ _ _) fun _ => .ite (fun _ => ?_) fun _ => ?_
  · exact .bind (loadContactsSelecting_retains _) fun _ => .of_leaves (setStatus_leaves _)
  · exact .bind loadContacts_retains fun _ => .of_leaves (setStatus_leaves _)

theorem handleChatResponse_redisplays {o : Opened P} {w : World P} (hw : w.Displayed) :
    Redisplays (handleChatResponse env o) w := by
  unfold handleChatResponse
  refine wp.orFail trivial fun requestId _ => (getApp_leaves _).of_leaves.redisplays_bind fun ownId w₁ hw₁ => ?_
  refine wp.ensure trivial fun _ => (answeredRequest_retains o requestId).redisplays_bind fun found w₂ hw₂ => ?_
  have hstart : w₂.Displayed := (hw₁.trans hw₂).displayed hw
  cases found with
  | none => exact commitControl_redisplays hstart
  | some n =>
    exact (applyChatResponse_retains o n).redisplays_bind fun _ w₃ hw₃ =>
      commitControl_redisplays (hw₃.displayed hstart)

/-- The row of a message that was inserted: the old one, or the message. -/
theorem Store.find_insertMessage_self {s s' : Store P} {m : ChatMessage} (h : s.insertMessage m = some s') :
    s'.messages.find m.id = some ((s.messages.find m.id).getD m) := by
  obtain ⟨hmessages, -, -⟩ := insertMessage_tables h
  rw [hmessages]
  cases hold : s.messages.find m.id with
  | none => exact Table.find_insertOrIgnore_of_none hold
  | some old =>
    rw [Table.insertOrIgnore_of_find hold]
    exact hold

theorem App.copies_eq_nil {app : App P} {id : String} :
    app.copies id = [] ↔ (app.messages.any fun m => m.id = id) = false := by
  simp [App.copies, List.filter_eq_nil_iff]

/-- A message that is shown has the status of its row, and is read in both places. -/
theorem showMessage_redisplays {o : Opened P} {m : ChatMessage} {w : World P} (hw : w.Displayed)
    (hrow : w.app.copies m.id = [] → (w.store.messages.find m.id).map ChatMessage.status = some m.status)
    (honce : shouldSendReadReceipt w.app.terminalFocused (!o.senderIsSelf) true = true →
      w.Raises m.id .read (fun _ => true) fun m' => m'.id = m.id) : Redisplays (showMessage env o m) w := by
  have hstart : ∀ app : App P, app.terminalFocused = w.app.terminalFocused → ({ w with app } : World P).Displayed →
      (shouldSendReadReceipt w.app.terminalFocused (!o.senderIsSelf) true = true →
        ({ w with app } : World P).Raises m.id .read (fun _ => true) fun m' => m'.id = m.id) →
      Redisplays (do
        let focused ← getApp App.terminalFocused
        if shouldSendReadReceipt focused (!o.senderIsSelf) true then
          let sent ← Prog.succeeds (sendReadReceipts env o.bundle [m.id])
          if sent then markRead env m.id else pure ()
        else pure ()) { w with app } := by
    intro app hfocused hshown hraises
    unfold Redisplays
    rw [wp_getApp_bind, hfocused]
    refine (Prog.wp_ite _ _ _).2 ⟨fun hsend => ?_, fun _ => hshown⟩
    refine (Moves.succeeds (.of_leaves (sendReadReceipts_leaves o.bundle [m.id]))).redisplays_bind fun sent w' hw' => ?_
    refine (Prog.wp_ite _ _ _).2 ⟨fun _ => ?_, fun _ => hw'.displayed hshown⟩
    exact markRead_redisplays (hw'.displayed hshown) (hw'.raises hshown (hraises hsend))
  unfold showMessage Redisplays
  rw [wp_modifyApp_bind]
  cases hany : w.app.messages.any fun m' => m'.id = m.id with
  | true => exact hstart w.app rfl hw honce
  | false =>
    have hnone : w.app.copies m.id = [] := App.copies_eq_nil.2 hany
    refine hstart { w.app with messages := w.app.messages ++ [m] } rfl ?_ fun _ row _ _ => ?_
    · intro m' hm'
      rcases List.mem_append.1 hm' with hm' | hm'
      · exact hw m' hm'
      · rw [List.mem_singleton.1 hm']
        exact hrow hnone
    · have hcopies : ({ w.app with messages := w.app.messages ++ [m] } : App P).copies m.id = [m] := by
        have hold : w.app.messages.filter (fun m' => m'.id = m.id) = [] := hnone
        simp [App.copies, hold]
      refine ⟨fun _ => ?_, fun m' hm' => decide_eq_true (of_decide_eq_true (List.mem_filter.1 hm').2)⟩
      exact le_of_eq (congrArg List.length hcopies)

theorem handleText_redisplays {o : Opened P} {w : World P} (hw : w.Displayed) (ho : o.Clean w)
    (hkind : o.payload.kind = "text") (hverified : o.verified = true) (hlive : w.store.tombstoned o.peer = false) :
    Redisplays (handleText env o) w := by
  unfold handleText Redisplays
  rw [wp_getApp_bind]
  refine wp.ensure trivial fun _ => ?_
  extract_lets message
  rw [Prog.wp_bind]
  refine commitEnvelope_ends fun w₁ ⟨profile, hs⟩ happ => ?_
  obtain ⟨s₁, hs₁, hs₂⟩ := Option.map_eq_some_iff.1 hs
  have hstored : w₁.store.messages = s₁.messages := by rw [← hs₂]; rfl
  have hkeeps : KeepsMessages w w₁ := by
    refine ⟨by rw [happ], fun id m hm => ?_⟩
    rw [hstored]
    exact Store.find_insertMessage hs₁ hm
  have hcopies : w₁.app.copies message.id = w.app.copies message.id := by rw [happ]; rfl
  rw [wp_getApp_bind]
  refine (Prog.wp_ite _ _ _).2 ⟨fun hselected => ?_, fun _ => hkeeps.displayed hw⟩
  have hshown : o.IsShown w := ⟨hkind, hverified, hlive, by rw [happ] at hselected; exact hselected⟩
  refine showMessage_redisplays (hkeeps.displayed hw) (fun hnone => ?_) fun hsend => ?_
  · rw [hcopies] at hnone
    rw [hstored, Store.find_insertMessage_self hs₁]
    have hstatus : ((w.store.messages.find message.id).getD message).status = .delivered := by
      cases hrow : w.store.messages.find message.id with
      | none => rfl
      | some row => exact ho.fresh hshown hnone row hrow
    exact congrArg some hstatus
  · rw [happ] at hsend
    exact hkeeps.raises hw (ho.once hshown hsend)

/-- An envelope that was opened, where it is handled. -/
theorem dispatchEnvelope_redisplays {o : Opened P} {w : World P} (hw : w.Displayed) (ho : o.Clean w) :
    Redisplays (dispatchEnvelope env o (w.store.tombstoned o.peer)) w := by
  unfold dispatchEnvelope
  refine (Prog.wp_ite _ _ _).2 ⟨fun _ => ignoreTombstonedText_redisplays hw, fun _ => ?_⟩
  refine (Prog.wp_ite _ _ _).2 ⟨fun _ => quarantineText_redisplays hw, fun hopen => ?_⟩
  refine (Prog.wp_ite _ _ _).2 ⟨fun hread => handleRead_redisplays hw ho hread, fun hread => ?_⟩
  refine (Prog.wp_ite _ _ _).2 ⟨fun _ => handleChatRequest_redisplays hw, fun _ => ?_⟩
  refine (Prog.wp_ite _ _ _).2 ⟨fun _ => handleChatResponse_redisplays hw, fun _ => ?_⟩
  refine (Prog.wp_ite _ _ _).2 ⟨fun htext => ?_, fun _ => trivial⟩
  have hcontrol : o.payload.kind ∉ controlKinds := by
    rw [htext]
    decide
  have hlive : o.verified = true ∧ w.store.tombstoned o.peer = false := by
    by_contra hclosed
    exact hopen ⟨hclosed, hcontrol⟩
  exact handleText_redisplays hw ho htext hlive.1 hlive.2

theorem handleOpened_redisplays {o : Opened P} {w : World P} (hw : w.Displayed) (ho : o.Clean w) : Redisplays (do
    if o.payload.kind = "conversation_deleted" then handleConversationDeleted env o
    else
      let tombstoned ← query env fun s => s.tombstoned o.peer
      dispatchEnvelope env o tombstoned) w := by
  refine (Prog.wp_ite _ _ _).2 ⟨fun hkind => handleConversationDeleted_redisplays hw ho hkind, fun _ => ?_⟩
  rw [Prog.wp_bind]
  refine wp_query ?_ fun _ => trivial
  have hticked : o.Clean w.ticked := ⟨ho.deletion, ho.receipt, ho.fresh, ho.once⟩
  exact dispatchEnvelope_redisplays (w := w.ticked) hw hticked

/-- The envelope may be handled; nothing is asked of one that does not open. -/
def CleanEnvelope (env : Environment) (stored : StoredEnvelope) (w : World P) : Prop :=
  wp (openEnvelope env stored) (fun o w' => o.Clean w') (fun _ _ => True) w

/-- Every envelope that a batch comes to may be handled when it is. -/
def CleanEnvelopes (env : Environment) : List StoredEnvelope → Nat → World P → Prop
  | [], _, _ => True
  | stored :: rest, cursor, w =>
    if stored.cursor ≤ cursor then CleanEnvelopes env rest cursor w
    else CleanEnvelope env stored w ∧
      wp (handleEnvelope env stored) (fun _ => CleanEnvelopes env rest stored.cursor) (fun _ _ => True) w

theorem CleanEnvelopes.atEnvelopes : ∀ {envelopes : List StoredEnvelope} {cursor : Nat} {w : World P},
    CleanEnvelopes env envelopes cursor w → AtEnvelopes env (CleanEnvelope env) envelopes cursor w
  | [], _, _, _ => trivial
  | stored :: rest, cursor, w, h => by
    unfold CleanEnvelopes at h
    unfold AtEnvelopes
    split at h
    · next hold =>
      rw [if_pos hold]
      exact atEnvelopes h
    · next hnew =>
      rw [if_neg hnew]
      exact ⟨h.1, h.2.mono (fun _ _ hrest => atEnvelopes hrest) fun _ _ h => h⟩

theorem handleEnvelope_redisplays (stored : StoredEnvelope) (w : World P) (hw : w.Displayed)
    (h : CleanEnvelope env stored w) : Redisplays (handleEnvelope env stored) w := by
  refine (((openEnvelope_retains stored).wp w).and h).mono (fun o w' ⟨hw', ho⟩ => ?_) (fun _ _ _ => trivial)
    |>.bind fun o w' ho => ho
  exact handleOpened_redisplays (hw'.displayed hw) ho

/-! ## The batch -/

/-- A delivery update of a batch raises the row only. -/
def CleanUpdates (updates : List StoredDeliveryUpdate) (w : World P) : Prop :=
  ∀ status ∈ updates, ∀ update, status.update = some update →
    w.Raises update.logicalMessageId .delivered (fun _ => true) fun _ => false

theorem applyDeliveryUpdates_redisplays : ∀ {updates : List StoredDeliveryUpdate} {cursor : Nat} {w : World P},
    w.Displayed → CleanUpdates updates w → Redisplays (applyDeliveryUpdates env updates cursor) w
  | [], _, _, hw, _ => hw
  | status :: rest, cursor, w, hw, h => by
    have hrest : CleanUpdates rest w := fun s hs => h s (List.mem_cons_of_mem status hs)
    unfold applyDeliveryUpdates
    cases hupdate : status.update with
    | none => exact applyDeliveryUpdates_redisplays hw hrest
    | some update =>
      have hr := h status List.mem_cons_self update hupdate
      unfold markDelivered Redisplays
      rw [Prog.wp_bind]
      refine wp_executeRecording (fun _ => trivial) fun store hs => ?_
      cases hs
      have hsame : ∀ f, modifyFirst (fun _ => false) f w.app.messages = w.app.messages := fun f =>
        modifyFirst_of_none fun _ _ h => absurd h Bool.false_ne_true
      have hnone : ∀ m : ChatMessage, (fun _ : ChatMessage => false) m = true → m.id = update.logicalMessageId :=
        fun _ h => absurd h Bool.false_ne_true
      refine applyDeliveryUpdates_redisplays (hw.raise hnone hr rfl (hsame _).symm) fun s hs u hu => ?_
      exact (hrest s hs u hu).raise (fun _ _ => rfl) (fun _ _ => rfl) rfl (hsame _).symm

theorem finishBatch_retains (batch : SyncBatch) (statusCursor cursor : Nat) :
    Retains (finishBatch env batch statusCursor cursor : ClientM P Unit) := by
  refine .bind (execute_retains fun _ => rfl) fun _ => .bind refreshContactsPreserveSelection_retains fun _ => ?_
  exact .ite (fun _ => .of_leaves (setStatus_leaves _)) fun _ => .pure _

/-- What has to hold when a batch comes. -/
def CleanBatch (env : Environment) (batch : SyncBatch) (w : World P) : Prop :=
  CleanUpdates batch.deliveryUpdates w ∧
    wp (applyDeliveryUpdates env batch.deliveryUpdates w.store.statusCursor)
      (fun _ => CleanEnvelopes env batch.envelopes w.store.envelopeCursor) (fun _ _ => True) w.ticked

/-! ## The events -/

/-- What has to hold when a frame comes. -/
def World.Clean (env : Environment) (w : World P) (f : Frame) : Prop :=
  match f.body with
  | some (.sendAccepted accepted) =>
    w.Raises accepted.logicalMessageId .sent (fun _ => true) fun m => m.id = accepted.logicalMessageId
  | some (.deliveryUpdate update) =>
    w.Raises update.logicalMessageId .delivered (fun _ => true) fun m => m.id = update.logicalMessageId
  | some (.syncBatch batch) => wp (receiveSync f) (fun _ => CleanBatch env batch) (fun _ _ => True) w
  | _ => True

theorem handleSyncFrame_redisplays {f : Frame} {batch : SyncBatch} {w : World P} (hw : w.Displayed)
    (hc : wp (receiveSync f) (fun _ => CleanBatch env batch) (fun _ _ => True) w) : Redisplays (do
      let pending ← takePending f.id
      handleSyncFrame env pending batch) w := by
  have hstart : wp (receiveSync f) (fun _ w' => w'.Displayed ∧ CleanUpdates batch.deliveryUpdates w')
      (fun _ _ => True) w :=
    (((receiveSync_leaves f).of_leaves.wp w).and hc).mono
      (fun _ _ ⟨hw', hupdates, _⟩ => ⟨KeepsMessages.displayed hw' hw, hupdates⟩)
      fun _ _ _ => trivial
  have hat : AtBatch env (CleanEnvelope env) f batch w :=
    hc.mono (fun _ _ h => h.2.mono (fun _ _ h => CleanEnvelopes.atEnvelopes h) fun _ _ h => h) fun _ _ h => h
  refine wp_syncFrame hstart (fun _ _ _ => trivial) (fun w' ⟨hw', hu⟩ => ?_) handleEnvelope_redisplays
    (fun statusCursor cursor w' hw' => ?_) hat
  · have hticked : w'.ticked.Displayed := hw'
    exact applyDeliveryUpdates_redisplays hticked hu
  · exact (finishBatch_retains batch statusCursor cursor).redisplays hw'

theorem handleServerEvent_redisplays {f : Frame} {w : World P} (hw : w.Displayed) (hc : w.Clean env f) :
    Redisplays (handleServerEvent env f) w := by
  unfold World.Clean at hc
  unfold handleServerEvent
  cases hbody : f.body with
  | none => exact (takePending_leaves f.id).of_leaves.redisplays_bind fun _ w₁ hw₁ => hw₁.displayed hw
  | some body =>
    rw [hbody] at hc
    cases body with
    | sendAccepted accepted =>
      refine (takePending_leaves f.id).of_leaves.redisplays_bind fun _ w₁ hw₁ => ?_
      exact handleSendAccepted_redisplays (hw₁.displayed hw) (hw₁.raises hw hc)
    | deliveryUpdate update =>
      refine (takePending_leaves f.id).of_leaves.redisplays_bind fun _ w₁ hw₁ => ?_
      exact handleDeliveryUpdate_redisplays (hw₁.displayed hw) (hw₁.raises hw hc)
    | syncBatch batch => exact handleSyncFrame_redisplays hw hc
    | userBundle bundle =>
      refine (takePending_leaves f.id).of_leaves.redisplays_bind fun pending w₁ hw₁ => ?_
      refine Moves.redisplays (.ite (fun _ => ?_) fun _ => .pure _) (hw₁.displayed hw)
      exact Moves.of_leaves (.bind (cacheBundle_leaves _) fun _ => reconcilePairingNotificationsFromBundle_leaves _)
    | pairingRequest r =>
      exact Moves.redisplays (.past (takePending_leaves f.id) fun _ => .of_leaves (handlePairingRequest_leaves r)) hw
    | pairingEvent event =>
      exact Moves.redisplays (.past (takePending_leaves f.id) fun _ => handleNumberedPairingEvent_retains event) hw
    | error error =>
      exact Moves.redisplays
        (.past (takePending_leaves f.id) fun pending => .of_leaves (handleError_leaves pending error)) hw
    | ownDeviceList list =>
      exact Moves.redisplays (.past (takePending_leaves f.id) fun _ => .of_leaves (setStatus_leaves _)) hw
    | _ => exact (takePending_leaves f.id).of_leaves.redisplays_bind fun _ w₁ hw₁ => hw₁.displayed hw

/-- The frames of the server that are handled without an error, from a state on. -/
def eventSystem (env : Environment) (w₀ : World P) : System (World P) Frame where
  init w := w = w₀
  step w f w' := (handleServerEvent env f).exec w = (.ok (), w')

theorem eventSystem_step {w₀ w : World P} {f : Frame}
    (h : ((handleServerEvent env f).exec w).1.toOption = some ()) :
    (eventSystem env w₀).step w f ((handleServerEvent env f).exec w).2 := by
  show (handleServerEvent env f).exec w = (.ok (), _)
  cases hexec : (handleServerEvent env f).exec w with
  | mk result w' =>
    rw [hexec] at h
    cases result with
    | ok => rfl
    | error => cases h

/-- From a state in which every loaded message has the status that is stored for it, it has it after every event
that is handled, as long as every frame comes where `World.Clean` holds. -/
theorem displayed_statuses {w₀ w : World P} (h₀ : w₀.Displayed)
    (h : (eventSystem env w₀).ReachableUnder (World.Clean env) w) : w.Displayed := by
  refine h.invariant (fun w hinit => ?_) fun w f w' hw hclean hstep => ?_
  · rw [show w = w₀ from hinit]
    exact h₀
  · exact (handleServerEvent_redisplays hw hclean).ok hstep

instance (w : World P) : Decidable w.Displayed := by unfold World.Displayed; infer_instance

theorem World.raises_of_once {w : World P} {id : String} {status : MessageStatus}
    (h : (w.app.copies id).length ≤ 1) : w.Raises id status (fun _ => true) fun m => m.id = id :=
  fun _ _ _ => ⟨fun _ => h, fun _ hm => (List.mem_filter.1 hm).2⟩

namespace Scenario.Displayed

def receipt : WirePayload := payload "read_batch" "bob" "bob" "alice" "" ["0"]

def outside : Environment :=
  environment (fun _ => [bundle "alice" 1 [("a1", 2)], bundle "bob" 5 [("b1", 6)]]) [receipt]

/-- Alice has written to Bob, whose conversation is open; the connection is lost before the server answers. -/
def written : World primitives :=
  (World.ofProfile (firstDevice "alice" "a1" 1 2)).afterAll outside
    [ .serverEvent (batch [envelope 1 "b1" "c" 6 "a1" receipt])
    , .selectIndex 0
    , .verifySelected
    , .sendText "hello"
    , .reconnected clientCapabilities ]

/-- The first batch of the new connection says that Bob has the message. -/
def catchingUp : Frame :=
  frame "" (.syncBatch
    { envelopes := []
      nextCursor := 1
      hasMore := false
      deliveryUpdates := [{ cursor := 1, update := some { logicalMessageId := "26", deliveredAtMs := 0 } }]
      nextStatusCursor := 1 })

/-- The row is `delivered`, and the message is shown as `sending`. -/
theorem batch_update_hidden :
    (clientSystem outside (firstDevice "alice" "a1" 1 2)).Reachable written ∧ written.Displayed ∧
      ∃ w, (eventSystem outside written).Reachable w ∧ ¬ w.Displayed := by
  have hshown : written.Displayed := by decide +kernel
  have hok : ((handleServerEvent outside catchingUp).exec written).1.toOption = some () := by decide +kernel
  have hhidden : ¬ ((handleServerEvent outside catchingUp).exec written).2.Displayed := by decide +kernel
  exact ⟨reachable_ofProfile _ _ _, hshown, _, .step (.init rfl) trivial (eventSystem_step hok), hhidden⟩

/-- The server accepts the message, and says in a frame of its own that it was delivered. -/
def accepted : Frame := frame "" (.sendAccepted { logicalMessageId := "26", acceptedAtMs := 0 })

def delivered : Frame := frame "" (.deliveryUpdate { logicalMessageId := "26", deliveredAtMs := 0 })

def afterAcceptance : World primitives := ((handleServerEvent outside accepted).exec written).2

def afterDelivery : World primitives := ((handleServerEvent outside delivered).exec afterAcceptance).2

theorem displayed_statuses_delivery :
    (afterDelivery.app.messages.map fun m => m.status) = [.delivered] ∧ afterDelivery.Displayed := by
  have hshown : written.Displayed := by decide +kernel
  have haccepted : ((handleServerEvent outside accepted).exec written).1.toOption = some () := by decide +kernel
  have hdelivered : ((handleServerEvent outside delivered).exec afterAcceptance).1.toOption = some () := by
    decide +kernel
  have hfirst : written.Clean outside accepted := World.raises_of_once (by decide +kernel)
  have hsecond : afterAcceptance.Clean outside delivered := World.raises_of_once (by decide +kernel)
  have hrun : (eventSystem outside written).ReachableUnder (World.Clean outside) afterDelivery :=
    .step (.step (.init rfl) hfirst (eventSystem_step haccepted)) hsecond (eventSystem_step hdelivered)
  exact ⟨by decide +kernel, displayed_statuses hshown hrun⟩

end Scenario.Displayed

end TuiChat
