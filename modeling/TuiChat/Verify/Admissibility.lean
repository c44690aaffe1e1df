import TuiChat.Client.Queued
import TuiChat.Verify.Pushes
import TuiChat.Verify.ServerScenario
import Mathlib.Data.List.Dedup

/-!
# Whether the server takes what was queued

A batch is taken if it names one peer, and its conversation is the one with that peer. The server goes by the
recipients of the envelopes, and the five senders by the contact. The two agree for a text if the contact has an
active device, and for a deletion, which goes to own devices alone, never (`queued_admissible_iff`).
-/

namespace TuiChat

open Lib
open Lib.Prog (Moves wp)
open Ws (validUuid)

variable {P : Primitives} {env : Environment} {own p : String} {accounts : List String}

/-! ## The checks of the server -/

/-- The accounts among the recipients that are not the sender's. -/
def peersOf (own : String) (accounts : List String) : List String := (accounts.filter fun a => a ≠ own).dedup

def EncryptedEnvelope.Identified (e : EncryptedEnvelope) : Prop :=
  validUuid e.envelopeId = true ∧ validUuid e.logicalMessageId = true ∧ validUuid e.recipientAccountId = true ∧
    validUuid e.recipientDeviceId = true

instance (e : EncryptedEnvelope) : Decidable e.Identified := by
  unfold EncryptedEnvelope.Identified
  infer_instance

/-- The static checks of the handler and of `store_envelopes`. -/
structure Admissible (P : Primitives) (own : String) (envelopes : List EncryptedEnvelope) : Prop where
  count : 1 ≤ envelopes.length ∧ envelopes.length ≤ 16
  logical : ∃ id, id ≠ "" ∧ ∀ e ∈ envelopes, e.logicalMessageId = id
  identified : ∀ e ∈ envelopes, e.Identified
  peers : (peersOf own (envelopes.map EncryptedEnvelope.recipientAccountId)).length ≤ 1
  conversation : ∀ e ∈ envelopes, e.conversationId = conversationId P.sha256 own
    ((peersOf own (envelopes.map EncryptedEnvelope.recipientAccountId)).headD own)
  ciphertexts : ∀ e ∈ envelopes, e.ciphertext ≠ []

/-- Envelopes of which none is too long are admissible if the store's checks let them through. -/
theorem admissible_iff_checkBatch {envelopes : List EncryptedEnvelope}
    (hlength : ∀ e ∈ envelopes, e.ciphertext.length ≤ maxFrameBytes) : Admissible P own envelopes ↔
      (∃ h, Db.checkBatch P.sha256 own envelopes = .ok h) ∧ ∀ e ∈ envelopes, e.Identified := by
  cases envelopes with
  | nil => exact ⟨fun h => absurd h.count.1 (by decide), fun ⟨⟨_, h⟩, _⟩ => (nomatch h)⟩
  | cons first rest =>
    have hhead : ∀ {id : String}, (∀ e ∈ first :: rest, e.logicalMessageId = id) ↔
        first.logicalMessageId = id ∧
          (first :: rest).any (fun e => e.logicalMessageId ≠ first.logicalMessageId) = false := by
      intro id
      rw [List.any_eq_false]
      constructor
      · intro h
        have hfirst := h first List.mem_cons_self
        exact ⟨hfirst, fun e he => by simpa using (h e he).trans hfirst.symm⟩
      · rintro ⟨rfl, h⟩ e he
        simpa using h e he
    let envelopes := first :: rest
    let peers := peersOf own (envelopes.map EncryptedEnvelope.recipientAccountId)
    show _ ↔ (∃ h, (if 16 < envelopes.length then .error "envelope batch must contain 1..=16 entries"
      else if first.logicalMessageId = "" ∨
          envelopes.any (fun e => e.logicalMessageId ≠ first.logicalMessageId) = true then
        .error "batch mixes logical messages"
      else if 1 < peers.length then .error "v1 supports one peer per message"
      else if envelopes.any (fun e => e.conversationId ≠ conversationId P.sha256 own (peers.headD own) ||
          e.ciphertext.length = 0 || maxFrameBytes < e.ciphertext.length) = true then
        .error "invalid conversation or ciphertext"
      else .ok _ : Except Error Db.BatchHeader) = .ok h) ∧ ∀ e ∈ envelopes, e.Identified
    constructor
    · intro h
      rw [if_neg, if_neg, if_neg, if_neg]
      · exact ⟨⟨_, rfl⟩, h.identified⟩
      · simp only [Bool.not_eq_true, List.any_eq_false, Bool.or_eq_true, decide_eq_true_eq, not_or]
        intro e he
        refine ⟨⟨fun hne => hne (h.conversation e he), ?_⟩, ?_⟩
        · rw [List.length_eq_zero_iff]
          exact h.ciphertexts e he
        · have := hlength e he
          omega
      · exact not_lt.2 h.peers
      · obtain ⟨id, hid, hall⟩ := h.logical
        obtain ⟨rfl, hmixed⟩ := hhead.1 hall
        rintro (h | h)
        · exact hid h
        · cases hmixed.symm.trans h
      · exact not_lt.2 h.count.2
    · rintro ⟨⟨header, h⟩, hidentified⟩
      by_cases hcount : 16 < envelopes.length
      · rw [if_pos hcount] at h
        cases h
      rw [if_neg hcount] at h
      by_cases hlogical : first.logicalMessageId = "" ∨
          envelopes.any (fun e => e.logicalMessageId ≠ first.logicalMessageId) = true
      · rw [if_pos hlogical] at h
        cases h
      rw [if_neg hlogical] at h
      by_cases hpeers : 1 < peers.length
      · rw [if_pos hpeers] at h
        cases h
      rw [if_neg hpeers] at h
      by_cases hrest : envelopes.any (fun e => e.conversationId ≠ conversationId P.sha256 own (peers.headD own) ||
          e.ciphertext.length = 0 || maxFrameBytes < e.ciphertext.length) = true
      · rw [if_pos hrest] at h
        cases h
      simp only [Bool.not_eq_true, List.any_eq_false, Bool.or_eq_true, decide_eq_true_eq, not_or, not_not] at hrest
      obtain ⟨hid, hsame⟩ := not_or.1 hlogical
      have hids := hhead.2 ⟨rfl, Bool.eq_false_iff.2 hsame⟩
      refine ⟨⟨Nat.succ_pos _, not_lt.1 hcount⟩, ⟨_, hid, hids⟩, hidentified, not_lt.1 hpeers,
        fun e he => (hrest e he).1.1, fun e he => ?_⟩
      exact List.length_eq_zero_iff.not.1 (hrest e he).1.2

/-! ## The recipients -/

theorem peersOf_nil (h : ∀ a ∈ accounts, a = own) : peersOf own accounts = [] := by
  unfold peersOf
  rw [List.filter_eq_nil_iff.2 fun a ha => by simpa using h a ha]
  rfl

theorem peersOf_singleton (h : ∀ a ∈ accounts, a = own ∨ a = p) (hp : p ∈ accounts) (hown : p ≠ own) :
    peersOf own accounts = [p] := by
  have hall : ∀ a ∈ peersOf own accounts, a = p := by
    intro a ha
    obtain ⟨hmem, hne⟩ := List.mem_filter.1 (List.mem_dedup.1 ha)
    exact (h a hmem).resolve_left (by simpa using hne)
  have hmem : p ∈ peersOf own accounts := List.mem_dedup.2 (List.mem_filter.2 ⟨hp, by simpa using hown⟩)
  have hnodup : (peersOf own accounts).Nodup := List.nodup_dedup _
  have hlength : (peersOf own accounts).length ≤ 1 := by
    have hsub : (peersOf own accounts).Subperm [p] :=
      List.subperm_of_subset hnodup fun a ha => List.mem_singleton.2 (hall a ha)
    exact hsub.length_le
  obtain ⟨a, ha⟩ := List.length_eq_one_iff.1 (le_antisymm hlength (List.length_pos_of_mem hmem))
  rw [ha, List.cons.injEq]
  exact ⟨hall a (ha ▸ List.mem_singleton_self a), rfl⟩

theorem peersOf_two {a b : String} (ha : a ∈ accounts) (hb : b ∈ accounts) (hab : a ≠ b) (ha' : a ≠ own)
    (hb' : b ≠ own) : 1 < (peersOf own accounts).length := by
  have hmem : ∀ {c}, c ∈ accounts → c ≠ own → c ∈ peersOf own accounts := fun hc hne =>
    List.mem_dedup.2 (List.mem_filter.2 ⟨hc, by simpa using hne⟩)
  have hpair : [a, b].Nodup := by simpa using hab
  have hsub : [a, b].Subperm (peersOf own accounts) := List.subperm_of_subset hpair fun c hc => by
    rcases List.mem_pair.1 hc with rfl | rfl
    · exact hmem ha ha'
    · exact hmem hb hb'
  exact hsub.length_le

/-- Recipients of one account and the own one are the peers of that account. -/
theorem peersOf_one (h : ∀ a ∈ accounts, a = own ∨ a = p) (hp : p ∈ accounts) :
    (peersOf own accounts).length ≤ 1 ∧ (peersOf own accounts).headD own = p := by
  by_cases hown : p = own
  · rw [peersOf_nil fun a ha => (h a ha).elim id fun h => h.trans hown]
    exact ⟨Nat.zero_le 1, hown.symm⟩
  · rw [peersOf_singleton h hp hown]
    exact ⟨le_refl 1, rfl⟩

/-- What was made for a list of targets is admissible by what the targets and the message are. -/
theorem Made.admissible_iff {o : Outgoing} {targets : List Target} {envelopes : List EncryptedEnvelope}
    (h : Made env o targets envelopes) (huuid : ∀ n, validUuid (env.uuid n) = true)
    (hcount : targets.length ≤ 16) : Admissible P own envelopes ↔
      targets ≠ [] ∧ validUuid o.logicalId = true ∧
      (∀ t ∈ targets, validUuid t.accountId = true ∧ validUuid t.device.deviceId = true) ∧
      (peersOf own (targets.map Target.accountId)).length ≤ 1 ∧
      o.conversationId = conversationId P.sha256 own ((peersOf own (targets.map Target.accountId)).headD own) := by
  have haccounts := h.accounts
  have hlength : targets.length = envelopes.length := h.length_eq
  have hof : ∀ e ∈ envelopes, ∃ t ∈ targets, MadeFor env o t e := exists_of_forall₂ h.flip
  have hto : ∀ t ∈ targets, ∃ e ∈ envelopes, MadeFor env o t e := exists_of_forall₂ h
  constructor
  · intro ha
    have hsome : targets ≠ [] := by
      rintro rfl
      have := ha.count.1
      simp at hlength
      omega
    obtain ⟨t, ht⟩ := List.exists_mem_of_ne_nil _ hsome
    obtain ⟨e, he, hmade⟩ := hto t ht
    refine ⟨hsome, ?_, fun t' ht' => ?_, ?_, ?_⟩
    · exact hmade.logicalMessageId ▸ (ha.identified e he).2.1
    · obtain ⟨e', he', hmade'⟩ := hto t' ht'
      obtain ⟨-, -, haccount, hdevice⟩ := ha.identified e' he'
      exact ⟨hmade'.recipientAccountId ▸ haccount, hmade'.recipientDeviceId ▸ hdevice⟩
    · exact haccounts ▸ ha.peers
    · rw [← haccounts, ← hmade.conversationId]
      exact ha.conversation e he
  · rintro ⟨hsome, hlogical, hids, hpeers, hconversation⟩
    refine ⟨⟨?_, hlength ▸ hcount⟩, ⟨o.logicalId, ?_, fun e he => ?_⟩, fun e he => ?_, haccounts ▸ hpeers,
      fun e he => ?_, fun e he => ?_⟩
    · rw [← hlength]
      exact List.length_pos_iff.2 hsome
    · rintro hempty
      rw [hempty] at hlogical
      cases hlogical
    · obtain ⟨t, -, hmade⟩ := hof e he
      exact hmade.logicalMessageId
    · obtain ⟨t, ht, hmade⟩ := hof e he
      obtain ⟨n, hn⟩ := hmade.drawn
      exact ⟨hn ▸ huuid n, hmade.logicalMessageId ▸ hlogical, hmade.recipientAccountId ▸ (hids t ht).1,
        hmade.recipientDeviceId ▸ (hids t ht).2⟩
    · obtain ⟨t, -, hmade⟩ := hof e he
      rw [hmade.conversationId, haccounts]
      exact hconversation
    · obtain ⟨t, -, hmade⟩ := hof e he
      exact hmade.ciphertext

/-- Where the recipients are of one account and the own one, that account is the peer. -/
theorem Made.admissible_iff_of_one {o : Outgoing} {targets : List Target} {envelopes : List EncryptedEnvelope}
    (h : Made env o targets envelopes) (huuid : ∀ n, validUuid (env.uuid n) = true)
    (hcount : targets.length ≤ 16) (hall : ∀ t ∈ targets, t.accountId = own ∨ t.accountId = p)
    (hp : ∃ t ∈ targets, t.accountId = p) : Admissible P own envelopes ↔
      validUuid o.logicalId = true ∧
      (∀ t ∈ targets, validUuid t.accountId = true ∧ validUuid t.device.deviceId = true) ∧
      o.conversationId = conversationId P.sha256 own p := by
  obtain ⟨t, ht, hpt⟩ := hp
  have hmem : p ∈ targets.map Target.accountId := List.mem_map.2 ⟨t, ht, hpt⟩
  have haccounts : ∀ a ∈ targets.map Target.accountId, a = own ∨ a = p := by
    intro a ha
    obtain ⟨t, ht, rfl⟩ := List.mem_map.1 ha
    exact hall t ht
  obtain ⟨hone, hpeer⟩ := peersOf_one haccounts hmem
  rw [h.admissible_iff huuid hcount, hpeer]
  constructor
  · rintro ⟨-, hlogical, hids, -, hconversation⟩
    exact ⟨hlogical, hids, hconversation⟩
  · rintro ⟨hlogical, hids, hconversation⟩
    exact ⟨List.ne_nil_of_mem ht, hlogical, hids, hone, hconversation⟩

/-! ## The five senders -/

/-- A call of one of the five. -/
inductive Sending
  | text (body : String)
  | receipts (recipient : UserBundle) (ids : List String)
  | request (recipient : UserBundle)
  | decision (recipient : UserBundle) (requestId : String) (accepted : Bool)
  | deletions

def Sending.run (env : Environment) : Sending → ClientM P Unit
  | .text body => sendText env body
  | .receipts recipient ids => sendReadReceipts env recipient ids
  | .request recipient => sendChatRequest env recipient
  | .decision recipient requestId accepted => sendChatDecision env recipient requestId accepted
  | .deletions => syncPendingConversationDeletions env

/-- Whom one frame is for, with the own bundle it was made with. -/
inductive Fanout
  | text (peer self : UserBundle)
  | receipts (peer : UserBundle)
  /-- A request, or a decision about one. -/
  | control (peer self : UserBundle)
  | deletion (t : ConversationTombstone) (self : UserBundle)

namespace Fanout

/-- The account whose conversation the frame is of. -/
def peer : Fanout → String
  | .text peer _ | .receipts peer | .control peer _ => peer.accountId
  | .deletion t _ => t.peerAccountId

def targets (profile : RuntimeProfile P) : Fanout → List Target
  | .text peer self => textTargets profile peer self
  | .receipts peer => targetsOf peer
  | .control peer self => targetsOf peer ++ targetsBut profile.identity.deviceId self
  | .deletion _ self => targetsBut profile.identity.deviceId self

/-- No account has more than eight active devices. -/
def Capped : Fanout → Prop
  | .text peer self | .control peer self => peer.active.length ≤ 8 ∧ self.active.length ≤ 8
  | .receipts peer => peer.active.length ≤ 8
  | .deletion _ self => self.active.length ≤ 8

/-- What the sender has checked when it queues the frame. -/
def Checked (profile : RuntimeProfile P) : Fanout → Prop
  | .text peer self => textTargets profile peer self ≠ []
  | .receipts _ => True
  | .control peer _ => peer.active ≠ []
  | .deletion _ self => self.accountId = profile.accountId ∧ targetsBut profile.identity.deviceId self ≠ []

/-- The ids that the server has named, or the deletion has, are UUIDs. -/
def Identified (profile : RuntimeProfile P) (d : Fanout) : Prop :=
  (∀ t ∈ d.targets profile, validUuid t.accountId = true ∧ validUuid t.device.deviceId = true) ∧
    match d with
    | .deletion t _ => validUuid t.syncEventId = true
    | _ => True

/-- The conversation of the frame is the one that the server derives. -/
def Fits (profile : RuntimeProfile P) : Fanout → Prop
  | .text peer _ => peer.active ≠ [] ∨
      conversationId P.sha256 profile.accountId peer.accountId =
        conversationId P.sha256 profile.accountId profile.accountId
  | .receipts peer => peer.active ≠ []
  | .control peer self => targetsBut profile.identity.deviceId self = [] ∨ self.accountId = profile.accountId ∨
      self.accountId = peer.accountId ∨ peer.accountId = profile.accountId ∧
        conversationId P.sha256 profile.accountId self.accountId =
          conversationId P.sha256 profile.accountId profile.accountId
  | .deletion t _ => conversationId P.sha256 profile.accountId t.peerAccountId =
      conversationId P.sha256 profile.accountId profile.accountId

end Fanout

/-- The frames of a call: the own bundle is the one that the call looks up. -/
def Sending.Frames (env : Environment) (w : World P) : Sending → Fanout → Prop
  | .text _, d => ∃ contact self w₁, w.app.selectedContact = some contact ∧
      (ownBundle (lookupBundle env)).exec w = (.ok self, w₁) ∧ d = .text contact.bundle self
  | .receipts recipient _, d => d = .receipts recipient
  | .request recipient, d | .decision recipient _ _, d => ∃ self w₁,
      (ownBundle (lookupValidBundle env)).exec w = (.ok self, w₁) ∧ d = .control recipient self
  | .deletions, d => ∃ self w₁, (lookupBundleFresh env w.app.profile.username).exec w.ticked = (.ok self, w₁) ∧
      ∃ t ∈ w.store.pendingConversationDeletions, d = .deletion t self

/-- The message was made for the draft. -/
def Fanout.Makes (P : Primitives) (env : Environment) (profile : RuntimeProfile P) (d : Fanout)
    (message : SendEnvelopes) : Prop :=
  d.Checked profile ∧ ∃ o : Outgoing, Made env o (d.targets profile) message.envelopes ∧
    o.conversationId = conversationId P.sha256 profile.accountId d.peer ∧
    match d with
    | .deletion t _ => o.logicalId = t.syncEventId
    | _ => ∃ n, o.logicalId = env.uuid n

/-- A message that was made for one of the frames of a call. -/
def Sending.Wants (env : Environment) (c : Sending) (w : World P) (message : SendEnvelopes) : Prop :=
  ∃ d, c.Frames env w d ∧ d.Makes P env w.app.profile message

section

variable {k : Nat} (holm : P.olm.Overhead k) {w : World P}

include holm

/-- Envelopes are made for the targets, before what goes on with them. -/
theorem wp_encryptMade {α : Type} {K : SendEnvelopes → Prop} {o : Outgoing} {targets : List Target}
    {m : OlmMachine P.olm} {w : World P} {f : List EncryptedEnvelope × OlmMachine P.olm → ClientM P α}
    (ho : o.payload ≠ []) (hf : ∀ r w', Made env o targets r.1 →
      wp (f r) (fun _ => Queues K w') (fun _ => Queues K w') w') :
    wp (encryptTargets env o m targets >>= f) (fun _ => Queues K w) (fun _ => Queues K w) w := by
  rw [Prog.wp_bind]
  refine (wp_encryptTargets_made holm ho _ _ _).mono (fun r w' ⟨hw', hmade⟩ => ?_) fun _ _ h => h.queues
  exact hw'.queues.wp_of (hf r w' hmade)

omit holm in
/-- The own bundle is looked up first. -/
theorem wp_ownBundleFirst {α : Type} {K : SendEnvelopes → Prop} {lookup : String → ClientM P UserBundle}
    (hlookup : ∀ username, IsQuiet (lookup username)) {f : UserBundle → ClientM P α} {w : World P}
    (hf : ∀ self w₁, w₁.app.profile = w.app.profile → (ownBundle lookup).exec w = (.ok self, w₁) →
      wp (f self) (fun _ => Queues K w₁) (fun _ => Queues K w₁) w₁) :
    wp (ownBundle lookup >>= f) (fun _ => Queues K w) (fun _ => Queues K w) w := by
  rw [Prog.wp_bind]
  refine ((ownBundle_quiet hlookup).unqueued.wp w).exec.mono (fun self w₁ ⟨hw₁, hexec⟩ => ?_)
    fun _ _ h => h.1.queues
  exact hw₁.queues.wp_of (hf self w₁ hw₁.profile hexec)

theorem sendReadReceipts_queues (recipient : UserBundle) (ids : List String) :
    wp (sendReadReceipts env recipient ids) (fun _ => Queues ((Sending.receipts recipient ids).Wants env w) w)
      (fun _ => Queues ((Sending.receipts recipient ids).Wants env w) w) w := by
  unfold sendReadReceipts currentMachine
  refine wp.ensure (refl_of _ w) fun _ => ?_
  rw [Prog.wp_bind, wp_newUuid_iff, wp_getApp_bind, Prog.wp_bind, wp_nowMs_iff, wp_getApp_bind]
  refine (Queues.of_log rfl rfl : Queues _ w w.ticked.ticked).wp_of ?_
  refine wp_encryptMade holm (WirePayload.toVec_ne_nil _) fun r w₁ hmade => ?_
  exact (queueControl_queues ⟨_, rfl, True.intro, _, hmade, rfl, ⟨_, rfl⟩⟩).wp w₁

omit holm in
/-- A frame of two parts is one of its kind. -/
theorem control_makes {recipient self : UserBundle} {profile : RuntimeProfile P} {o : Outgoing} {payload : Bytes}
    {envelopes envelopes' : List EncryptedEnvelope} (hmade : Made env o (targetsOf recipient) envelopes)
    (hmade' : Made env { o with payload } (targetsBut profile.identity.deviceId self) envelopes')
    (hsome : envelopes ≠ []) (hid : ∃ n, o.logicalId = env.uuid n)
    (hconversation : o.conversationId = conversationId P.sha256 profile.accountId recipient.accountId) :
    (Fanout.control recipient self).Makes P env profile { envelopes := envelopes ++ envelopes' } := by
  refine ⟨fun hnone => ?_, o, hmade.append hmade', hconversation, hid⟩
  unfold targetsOf at hmade
  rw [hnone] at hmade
  exact hsome (List.forall₂_nil_left_iff.1 hmade)

theorem sendChatRequest_queues (recipient : UserBundle) :
    wp (sendChatRequest env recipient) (fun _ => Queues ((Sending.request recipient).Wants env w) w)
      (fun _ => Queues ((Sending.request recipient).Wants env w) w) w := by
  unfold sendChatRequest currentMachine
  rw [wp_getApp_bind]
  split
  · exact (setStatus_quiet _).queues.wp w
  refine wp.ofExcept (fun _ => refl_of _ w) fun _ _ => ?_
  refine wp_ownBundleFirst lookupValidBundle_quiet fun self w₁ hprofile hexec => ?_
  rw [Prog.wp_bind, wp_newUuid_iff, Prog.wp_bind, wp_nowMs_iff, wp_getApp_bind, wp_getApp_bind]
  refine (Queues.of_log rfl rfl : Queues _ w₁ w₁.ticked.ticked).wp_of ?_
  refine wp_encryptMade holm (WirePayload.toVec_ne_nil _) fun r w₂ hmade => ?_
  refine wp.ensure (refl_of _ w₂) fun hsome => ?_
  refine wp_encryptMade holm (WirePayload.toVec_ne_nil _) fun r' w₃ hmade' => ?_
  refine (Moves.bind (saveRequestNotification_quiet _ _ _ _ _).queues fun _ =>
    .bind (queueControl_queues ?_) fun _ => (setStatus_quiet _).queues).wp w₃
  exact ⟨_, ⟨self, w₁, hexec, rfl⟩, hprofile ▸ control_makes hmade hmade' hsome ⟨_, rfl⟩ rfl⟩

theorem sendChatDecision_queues (recipient : UserBundle) (requestId : String) (accepted : Bool) :
    wp (sendChatDecision env recipient requestId accepted)
      (fun _ => Queues ((Sending.decision recipient requestId accepted).Wants env w) w)
      (fun _ => Queues ((Sending.decision recipient requestId accepted).Wants env w) w) w := by
  unfold sendChatDecision currentMachine
  refine wp.ofExcept (fun _ => refl_of _ w) fun _ _ => ?_
  refine wp_ownBundleFirst lookupValidBundle_quiet fun self w₁ hprofile hexec => ?_
  rw [Prog.wp_bind, wp_newUuid_iff, Prog.wp_bind, wp_nowMs_iff, wp_getApp_bind, wp_getApp_bind]
  refine (Queues.of_log rfl rfl : Queues _ w₁ w₁.ticked.ticked).wp_of ?_
  refine wp_encryptMade holm (WirePayload.toVec_ne_nil _) fun r w₂ hmade => ?_
  refine wp.ensure (refl_of _ w₂) fun hsome => ?_
  refine wp_encryptMade holm (WirePayload.toVec_ne_nil _) fun r' w₃ hmade' => ?_
  refine (queueControl_queues ?_).wp w₃
  exact ⟨_, ⟨self, w₁, hexec, rfl⟩, hprofile ▸ control_makes hmade hmade' hsome ⟨_, rfl⟩ rfl⟩

theorem sendText_queues (text : String) :
    wp (sendText env text) (fun _ => Queues ((Sending.text text).Wants env w) w)
      (fun _ => Queues ((Sending.text text).Wants env w) w) w := by
  unfold sendText currentMachine
  refine wp.ensure (refl_of _ w) fun _ => ?_
  rw [wp_getApp_bind]
  refine wp.orFail (refl_of _ w) fun contact hcontact => ?_
  split
  · exact Moves.wp (.bind showSafetyCode_quiet.queues fun _ => .fail _) w
  refine wp.ofExcept (fun _ => refl_of _ w) fun _ _ => ?_
  refine wp_ownBundleFirst lookupBundle_quiet fun self w₁ hprofile hexec => ?_
  rw [Prog.wp_bind, wp_newUuid_iff, Prog.wp_bind, wp_nowMs_iff, wp_getApp_bind, wp_getApp_bind]
  refine (Queues.of_log rfl rfl : Queues _ w₁ w₁.ticked.ticked).wp_of ?_
  refine wp_encryptMade holm (WirePayload.toVec_ne_nil _) fun r w₂ hmade => ?_
  refine wp.ensure (refl_of _ w₂) fun hsome => ?_
  have hwanted : (Sending.text text).Wants env w { envelopes := r.1 } := by
    refine ⟨_, ⟨contact, self, w₁, hcontact, hexec, rfl⟩, ?_⟩
    rw [← hprofile]
    refine ⟨fun hnone => ?_, _, hmade, rfl, ⟨_, rfl⟩⟩
    have hmade : Made env _ (textTargets w₁.app.profile contact.bundle self) r.1 := hmade
    rw [hnone] at hmade
    exact hsome (List.forall₂_nil_left_iff.1 hmade)
  refine Moves.wp ?_ w₂
  refine .bind newUuid_quiet.queues fun _ => .bind nowMs_quiet.queues fun _ => .bind (commitMachine_queues hwanted)
    fun _ => .bind (modifyApp_queues fun _ => rfl) fun _ => .bind (.succeeds (dispatchBackground_queues _ _))
    fun _ => ?_
  have hdraft : ∀ conversation, Moves (Queues (P := P) ((Sending.text text).Wants env w))
      (execute env fun s => some (s.saveDraft conversation "")) := fun conversation =>
    (execute_some_quiet fun _ => .saveDraft conversation _).queues
  refine .ite (fun _ => .bind (setStatus_quiet _).queues fun _ => .bind (hdraft _) fun _ => ?_)
    fun _ => .bind (modifyApp_queues fun _ => rfl) fun _ => .bind (hdraft _) fun _ => ?_
  all_goals exact .bind (modifyApp_queues fun _ => rfl) fun _ => refreshContactsPreserveSelection_quiet.queues

/-- The event of one deletion. -/
theorem sendConversationDeletion_queues {self : UserBundle} {t : ConversationTombstone} {profile : RuntimeProfile P}
    (hself : self.accountId = profile.accountId) {w : World P}
    (hprofile : w.app.profile.accountId = profile.accountId) :
    wp (sendConversationDeletion env (targetsBut profile.identity.deviceId self) t)
      (fun _ => Queues ((Fanout.deletion t self).Makes P env profile) w)
      (fun _ => Queues ((Fanout.deletion t self).Makes P env profile) w) w := by
  unfold sendConversationDeletion currentMachine
  rw [Prog.wp_bind]
  refine wp_query ?_ fun _ => (ticked_quiet w).queues
  refine (ticked_quiet w).queues.wp_of ?_
  split
  · exact refl_of _ w.ticked
  split
  · exact (execute_some_quiet fun _ => .others ..).queues.wp _
  next hsome =>
  rw [wp_getApp_bind]
  refine wp.ensure (refl_of _ w.ticked) fun hconversation => ?_
  rw [wp_getApp_bind]
  refine wp_encryptMade holm (WirePayload.toVec_ne_nil _) fun r w₂ hmade => ?_
  refine (queueControl_queues ⟨⟨hself, hsome⟩, _, hmade, ?_, rfl⟩).wp w₂
  rw [← hprofile]
  exact hconversation.symm

theorem syncPendingConversationDeletions_queues :
    wp (syncPendingConversationDeletions env) (fun _ => Queues (Sending.deletions.Wants env w) w)
      (fun _ => Queues (Sending.deletions.Wants env w) w) w := by
  unfold syncPendingConversationDeletions
  rw [wp_getApp_bind]
  split
  · exact refl_of _ w
  rw [Prog.wp_bind]
  refine wp_query ?_ fun _ => (ticked_quiet w).queues
  refine (ticked_quiet w).queues.wp_of ?_
  split
  · exact refl_of _ w.ticked
  rw [wp_getApp_bind, Prog.wp_bind]
  refine ((lookupBundleFresh_quiet _).unqueued.wp w.ticked).exec.mono (fun self w₁ h₁ => ?_)
    fun _ _ h => h.1.queues
  obtain ⟨hw₁, hexec⟩ := h₁
  refine hw₁.queues.wp_of ?_
  refine wp.ofExcept (fun _ => refl_of _ w₁) fun _ _ => wp.ensure (refl_of _ w₁) fun hown => ?_
  refine Prog.wp_each (fun t ht w₂ hw₂ => ?_) (refl_of _ w₁)
  have hprofile : w₂.app.profile.accountId = w.app.profile.accountId :=
    hw₂.account.trans (congrArg RuntimeProfile.accountId hw₁.profile)
  have hwanted : ∀ message, (Fanout.deletion t self).Makes P env w.app.profile message →
      Sending.deletions.Wants env w message := fun message h => ⟨_, ⟨self, w₁, hexec, t, ht, rfl⟩, h⟩
  exact (sendConversationDeletion_queues holm hown.1 hprofile).mono
    (fun _ _ h => hw₂.trans (h.mono hwanted)) fun _ _ h => hw₂.trans (h.mono hwanted)

theorem Sending.queues (c : Sending) :
    Queues (c.Wants env w) w ((c.run env).exec w).2 := by
  refine Prog.wp_state.1 ?_
  cases c with
  | text body => exact sendText_queues holm body
  | receipts recipient ids => exact sendReadReceipts_queues holm recipient ids
  | request recipient => exact sendChatRequest_queues holm recipient
  | decision recipient requestId accepted => exact sendChatDecision_queues holm recipient requestId accepted
  | deletions => exact syncPendingConversationDeletions_queues holm

end

/-! ## Which frames are admissible -/

section

variable {profile : RuntimeProfile P} {message : SendEnvelopes} {d : Fanout}

theorem Fanout.Capped.count (h : d.Capped) (profile : RuntimeProfile P) : (d.targets profile).length ≤ 16 := by
  cases d with
  | text peer self =>
    obtain ⟨hpeer, hself⟩ := h
    have := textTargets_length profile peer self
    simp only [Fanout.targets]
    omega
  | receipts peer =>
    have hpeer : peer.active.length ≤ 8 := h
    simp only [Fanout.targets, targetsOf_length]
    omega
  | control peer self =>
    obtain ⟨hpeer, hself⟩ := h
    have := targetsBut_length profile.identity.deviceId self
    simp only [Fanout.targets, List.length_append, targetsOf_length]
    omega
  | deletion t self =>
    have hself : self.active.length ≤ 8 := h
    have := targetsBut_length profile.identity.deviceId self
    simp only [Fanout.targets]
    omega

/-- A request or decision names a second peer if the own bundle is of another account. -/
theorem control_admissible_iff {peer self : UserBundle} (h : (Fanout.control peer self).Makes P env profile message)
    (huuid : ∀ n, validUuid (env.uuid n) = true) (hcapped : (Fanout.control peer self).Capped) :
    Admissible P profile.accountId message.envelopes ↔
      (Fanout.control peer self).Identified profile ∧ (Fanout.control peer self).Fits profile := by
  obtain ⟨hchecked, o, hmade, hconversation, hid⟩ := h
  have hcount := hcapped.count profile
  obtain ⟨n, hn⟩ := hid
  have hlogical : validUuid o.logicalId = true := hn ▸ huuid n
  obtain ⟨t, ht⟩ := List.exists_mem_of_ne_nil _ (mt targetsOf_eq_nil.1 hchecked)
  have htarget : t ∈ (Fanout.control peer self).targets profile := List.mem_append_left _ ht
  have haccounts : ∀ t ∈ (Fanout.control peer self).targets profile, t.accountId = peer.accountId ∨
      t ∈ targetsBut profile.identity.deviceId self :=
    fun t ht => (List.mem_append.1 ht).imp_left targetsOf_account
  -- The frame is of the peer's conversation, and the peer is the only account beside the own one.
  have hfits : (∀ t ∈ targetsBut profile.identity.deviceId self, t.accountId = profile.accountId ∨
      t.accountId = peer.accountId) → (Fanout.control peer self).Fits profile →
      (Admissible P profile.accountId message.envelopes ↔
        (Fanout.control peer self).Identified profile ∧ (Fanout.control peer self).Fits profile) := by
    intro hall hfits
    rw [hmade.admissible_iff_of_one huuid hcount (fun t ht => (haccounts t ht).elim .inr (hall t))
      ⟨t, htarget, targetsOf_account ht⟩]
    exact ⟨fun ⟨_, hids, _⟩ => ⟨⟨hids, True.intro⟩, hfits⟩, fun ⟨⟨hids, _⟩, _⟩ =>
      ⟨hlogical, hids, hconversation⟩⟩
  by_cases hnone : targetsBut profile.identity.deviceId self = []
  · exact hfits (by rw [hnone]; exact nofun) (.inl hnone)
  by_cases hown : self.accountId = profile.accountId
  · exact hfits (fun t ht => .inl ((targetsBut_account ht).trans hown)) (.inr (.inl hown))
  by_cases hpeer : self.accountId = peer.accountId
  · exact hfits (fun t ht => .inr ((targetsBut_account ht).trans hpeer)) (.inr (.inr (.inl hpeer)))
  obtain ⟨t', ht'⟩ := List.exists_mem_of_ne_nil _ hnone
  have htarget' : t' ∈ (Fanout.control peer self).targets profile := List.mem_append_right _ ht'
  by_cases honeself : peer.accountId = profile.accountId
  · have hall : ∀ t ∈ (Fanout.control peer self).targets profile, t.accountId = profile.accountId ∨
        t.accountId = self.accountId :=
      fun t ht => (haccounts t ht).imp (fun h => h.trans honeself) targetsBut_account
    have hown' : o.conversationId = conversationId P.sha256 profile.accountId profile.accountId :=
      hconversation.trans (congrArg _ honeself)
    rw [hmade.admissible_iff_of_one huuid hcount hall ⟨t', htarget', targetsBut_account ht'⟩, hown']
    constructor
    · rintro ⟨-, hids, hc⟩
      exact ⟨⟨hids, True.intro⟩, .inr (.inr (.inr ⟨honeself, hc.symm⟩))⟩
    · rintro ⟨⟨hids, -⟩, h | h | h | h⟩
      · exact absurd h hnone
      · exact absurd h hown
      · exact absurd h hpeer
      · exact ⟨hlogical, hids, h.2.symm⟩
  · have hmem : ∀ {t}, t ∈ (Fanout.control peer self).targets profile →
        t.accountId ∈ ((Fanout.control peer self).targets profile).map Target.accountId := List.mem_map_of_mem
    have htwo : 1 < (peersOf profile.accountId (((Fanout.control peer self).targets profile).map
        Target.accountId)).length :=
      peersOf_two (hmem htarget') (hmem htarget) (by rwa [targetsBut_account ht', targetsOf_account ht])
        (by rwa [targetsBut_account ht']) (by rwa [targetsOf_account ht])
    rw [hmade.admissible_iff huuid hcount]
    refine iff_of_false (fun h => not_le.2 htwo h.2.2.2.1) fun h => ?_
    rcases h.2 with h | h | h | h
    · exact hnone h
    · exact hown h
    · exact hpeer h
    · exact honeself h.1

/-- A frame that was made for devices within the cap is admissible if and only if the ids it was given are
UUIDs and its conversation is the one that the server derives. -/
theorem Fanout.Makes.admissible_iff (h : d.Makes P env profile message)
    (huuid : ∀ n, validUuid (env.uuid n) = true) (hcapped : d.Capped) :
    Admissible P profile.accountId message.envelopes ↔ d.Identified profile ∧ d.Fits profile := by
  obtain ⟨hchecked, o, hmade, hconversation, hid⟩ := id h
  have hcount := hcapped.count profile
  cases d with
  | text peer self =>
    obtain ⟨n, hn⟩ := hid
    have hlogical : validUuid o.logicalId = true := hn ▸ huuid n
    have hall : ∀ t ∈ textTargets profile peer self,
        t.accountId = profile.accountId ∨ t.accountId = peer.accountId :=
      fun t ht => (textTargets_account ht).elim (fun h => .inr (targetsOf_account h)) .inl
    by_cases hactive : peer.active = []
    · have hown : ∀ t ∈ textTargets profile peer self, t.accountId = profile.accountId := by
        intro t ht
        refine (textTargets_account ht).resolve_left fun h => ?_
        rw [targetsOf_eq_nil.2 hactive] at h
        cases h
      obtain ⟨t, ht⟩ := List.exists_mem_of_ne_nil _ hchecked
      rw [hmade.admissible_iff_of_one huuid hcount (fun t ht => .inl (hown t ht)) ⟨t, ht, hown t ht⟩, hconversation]
      exact ⟨fun ⟨_, hids, hc⟩ => ⟨⟨hids, True.intro⟩, .inr hc⟩,
        fun ⟨⟨hids, _⟩, hc⟩ => ⟨hlogical, hids, hc.resolve_left fun h => h hactive⟩⟩
    · obtain ⟨t, ht⟩ := List.exists_mem_of_ne_nil _ (mt targetsOf_eq_nil.1 hactive)
      rw [hmade.admissible_iff_of_one huuid hcount hall ⟨t, List.mem_append_left _ ht, targetsOf_account ht⟩]
      exact ⟨fun ⟨_, hids, _⟩ => ⟨⟨hids, True.intro⟩, .inl hactive⟩, fun ⟨⟨hids, _⟩, _⟩ =>
        ⟨hlogical, hids, hconversation⟩⟩
  | receipts peer =>
    obtain ⟨n, hn⟩ := hid
    have hlogical : validUuid o.logicalId = true := hn ▸ huuid n
    by_cases hactive : peer.active = []
    · rw [hmade.admissible_iff huuid hcount]
      exact iff_of_false (fun h => h.1 (targetsOf_eq_nil.2 hactive)) fun h => h.2 hactive
    · obtain ⟨t, ht⟩ := List.exists_mem_of_ne_nil _ (mt targetsOf_eq_nil.1 hactive)
      rw [hmade.admissible_iff_of_one huuid hcount (fun t ht => .inr (targetsOf_account ht))
        ⟨t, ht, targetsOf_account ht⟩]
      exact ⟨fun ⟨_, hids, _⟩ => ⟨⟨hids, True.intro⟩, hactive⟩, fun ⟨⟨hids, _⟩, _⟩ =>
        ⟨hlogical, hids, hconversation⟩⟩
  | control peer self => exact control_admissible_iff h huuid hcapped
  | deletion t self =>
    obtain ⟨hself, hsome⟩ := hchecked
    obtain ⟨t', ht'⟩ := List.exists_mem_of_ne_nil _ hsome
    have hall : ∀ t ∈ targetsBut profile.identity.deviceId self, t.accountId = profile.accountId :=
      fun t ht => (targetsBut_account ht).trans hself
    rw [hmade.admissible_iff_of_one huuid hcount (fun t ht => .inl (hall t ht)) ⟨t', ht', hall t' ht'⟩, hid,
      hconversation]
    exact ⟨fun ⟨h, hids, hc⟩ => ⟨⟨hids, h⟩, hc⟩, fun ⟨⟨hids, h⟩, hc⟩ => ⟨h, hids, hc⟩⟩

end

/-- Every frame that a call of one of the five senders queues was made for devices and a conversation. Within the
cap it is admissible if and only if the ids it was given are UUIDs and its conversation is the one that the
server derives. -/
theorem queued_admissible_iff {k : Nat} (holm : P.olm.Overhead k) (huuid : ∀ n, validUuid (env.uuid n) = true)
    (c : Sending) (w : World P) :
    Queues (fun message => ∃ d, c.Frames env w d ∧ d.Makes P env w.app.profile message ∧ (d.Capped →
      (Admissible P w.app.profile.accountId message.envelopes ↔
        d.Identified w.app.profile ∧ d.Fits w.app.profile))) w ((c.run env).exec w).2 :=
  (c.queues holm).mono fun _ ⟨d, hframe, hmakes⟩ => ⟨d, hframe, hmakes, hmakes.admissible_iff huuid⟩

namespace Scenario.Admissibility

/-- Alice's account has two devices. -/
def devices : UserBundle := bundle (uuid '1') 1 [(uuid 'a', 2), (uuid 'b', 3)]

def lookups : Environment :=
  { environment (fun _ => [devices]) [] with uuid := fun n => uuid (Nat.digitChar (n % 16)) }

def tombstone : ConversationTombstone :=
  { peerAccountId := uuid '2'
    peerUsername := uuid '2'
    conversationId := conversationId primitives.sha256 (uuid '1') (uuid '2')
    syncEventId := uuid 'd'
    deletedAtMs := 5
    pendingSync := true }

/-- The conversation with Bob was deleted on the first device. -/
def alice : World primitives :=
  let w := World.ofProfile (firstDevice (uuid '1') (uuid 'a') 1 2)
  { w with
    app := { w.app with connected := true }
    store := { w.store with tombstones := w.store.tombstones.put tombstone } }

theorem olm_overhead : olm.Overhead 32 where
  le {s p n m s'} h := by
    cases h
    simp [olm]
  ge {s p n m s'} h := by
    cases h
    simp [olm]
    omega

theorem uuids_valid (n : Nat) : validUuid (lookups.uuid n) = true := by
  have hall : ∀ i < 16, validUuid (uuid (Nat.digitChar i)) = true := by decide +kernel
  exact hall _ (Nat.mod_lt n (by decide))

/-- The server refuses the batch for its conversation. -/
def refused (message : SendEnvelopes) : Bool :=
  message.envelopes.length = 1 &&
    message.envelopes.all (fun e => e.Identified ∧ e.ciphertext.length ≤ maxFrameBytes) &&
    match Db.checkBatch primitives.sha256 (uuid '1') message.envelopes with
    | .error e => e = "invalid conversation or ciphertext"
    | .ok _ => false

def refusedEvent : Event → Bool
  | .queued message => refused message
  | _ => false

/-- The deletion goes to the other own device, under the conversation with Bob. -/
theorem deletion_refused : devices.active.length = 2 ∧
    ∃ message, .queued message ∈ ((Sending.deletions.run lookups).exec alice).2.log ∧
      message.envelopes.length = 1 ∧ (∀ e ∈ message.envelopes, e.Identified) ∧
      ¬Admissible primitives (uuid '1') message.envelopes := by
  have hlog : ((Sending.deletions.run lookups).exec alice).2.log.any refusedEvent = true := by decide +kernel
  obtain ⟨event, hevent, hrefused⟩ := List.any_eq_true.1 hlog
  cases event with
  | queued message =>
    simp only [refusedEvent, refused, Bool.and_eq_true, List.all_eq_true, decide_eq_true_eq] at hrefused
    obtain ⟨⟨hlength, hall⟩, hcheck⟩ := hrefused
    refine ⟨by decide +kernel, message, hevent, hlength, fun e he => (hall e he).1, fun h => ?_⟩
    obtain ⟨header, hheader⟩ := ((admissible_iff_checkBatch fun e he => (hall e he).2).1 h).1
    rw [hheader] at hcheck
    cases hcheck
  | _ => cases hrefused

/-- What the theorem says of the deletion. -/
theorem deletion_decided : Queues (fun message => ∃ d, Sending.deletions.Frames lookups alice d ∧
    d.Makes primitives lookups alice.app.profile message ∧ (d.Capped →
      (Admissible primitives alice.app.profile.accountId message.envelopes ↔
        d.Identified alice.app.profile ∧ d.Fits alice.app.profile)))
    alice ((Sending.deletions.run lookups).exec alice).2 :=
  queued_admissible_iff olm_overhead uuids_valid .deletions alice

end Scenario.Admissibility

end TuiChat
