import TuiChat.Verify.Scenario
import Mathlib.Order.Bounds.Basic

/-!
# Summaries and messages

The row of `conversation_summaries` for a conversation is kept by two triggers, which add to it, and by the
deletion of the conversation, which removes it. The row agrees with the messages of the conversation after
any statements (`summaries_agree`), and no insertion fails, as long as the peer of a message determines its
conversation.
-/

namespace TuiChat

open Lib

variable {P : Primitives}

/-! ## What a summary says -/

def unreadMessage (conversation : String) (m : ChatMessage) : Bool :=
  m.conversationId = conversation && (m.inbound && m.status ≠ .read)

namespace Store

/-- The number of messages of a conversation that are inbound and not read. -/
def unread (s : Store P) (conversation : String) : Nat := s.messages.count (unreadMessage conversation)

/-- The times of the messages of a conversation. -/
def times (s : Store P) (conversation : String) : Set Int :=
  { t | ∃ m ∈ s.messages, m.conversationId = conversation ∧ m.sentAtMs = t }

/-- What the row of a conversation says is so; without a row the conversation has no message. -/
def Summarised (s : Store P) (conversation : String) : Option ConversationSummary → Prop
  | none => s.times conversation = ∅
  | some summary => summary.unreadCount = s.unread conversation ∧
    IsGreatest (s.times conversation) summary.lastActivityMs

def SummariesAgree (s : Store P) : Prop := ∀ conversation, s.Summarised conversation (s.summaries.find conversation)

/-- The conversation of every row is that of its peer. -/
structure Determined (f : String → String) (s : Store P) : Prop where
  messages : ∀ m ∈ s.messages, m.conversationId = f m.peerAccountId
  summaries : ∀ summary ∈ s.summaries, summary.conversationId = f summary.peerAccountId

variable {s s' : Store P} {conversation : String}

/-- A summary stays right where the messages count and come to the same. -/
theorem Summarised.of_eq {summary : Option ConversationSummary} (h : s.Summarised conversation summary)
    (hunread : s'.unread conversation = s.unread conversation) (htimes : s'.times conversation = s.times conversation) :
    s'.Summarised conversation summary := by
  cases summary with
  | none => exact htimes.trans h
  | some summary => exact ⟨h.1.trans hunread.symm, htimes.symm ▸ h.2⟩

/-! ## The insertion -/

variable {m : ChatMessage}

theorem unread_put (h : s.messages.find m.id = none) (hs : s'.messages = s.messages.put m) (conversation : String) :
    s'.unread conversation = s.unread conversation + (unreadMessage conversation m).toNat := by
  unfold unread
  rw [hs]
  exact Table.count_put_of_none h _

theorem times_put (h : s.messages.find m.id = none) (hs : s'.messages = s.messages.put m) (conversation : String) :
    s'.times conversation = s.times conversation ∪ { t | m.conversationId = conversation ∧ m.sentAtMs = t } := by
  have hfresh : ∀ m' ∈ s.messages, m'.id ≠ m.id := Table.find_eq_none.1 h
  ext t
  simp only [times, hs, Set.mem_ofPred_eq, Set.mem_union, Table.mem_put]
  constructor
  · rintro ⟨m', rfl | ⟨hm', -⟩, hc, ht⟩
    · exact .inr ⟨hc, ht⟩
    · exact .inl ⟨m', hm', hc, ht⟩
  · rintro (⟨m', hm', hc, ht⟩ | ⟨hc, ht⟩)
    · exact ⟨m', .inr ⟨hm', hfresh m' hm'⟩, hc, ht⟩
    · exact ⟨m, .inl rfl, hc, ht⟩

/-- The row that the trigger writes for an inserted message. -/
def summaryWith (summary : Option ConversationSummary) (m : ChatMessage) : ConversationSummary where
  conversationId := m.conversationId
  peerAccountId := m.peerAccountId
  lastActivityMs := (summary.map fun summary => max summary.lastActivityMs m.sentAtMs).getD m.sentAtMs
  unreadCount := (summary.map ConversationSummary.unreadCount).getD 0 + (unreadMessage m.conversationId m).toNat

theorem summaryInsert_eq {f : String → String} (h : s.Determined f) (hm : m.conversationId = f m.peerAccountId) :
    summaryInsert s.summaries m =
      some (s.summaries.put (summaryWith (s.summaries.find m.conversationId) m)) := by
  have htaken : (s.summaries.rows.any fun summary =>
      summary.peerAccountId = m.peerAccountId && summary.conversationId ≠ m.conversationId) = false := by
    rw [List.any_eq_false]
    intro summary hsummary
    have hf := h.summaries summary hsummary
    by_cases hpeer : summary.peerAccountId = m.peerAccountId
    · have hconversation : summary.conversationId = m.conversationId := by rw [hf, hm, hpeer]
      simp [hconversation]
    · simp [hpeer]
  have hunread : (if m.inbound && m.status ≠ .read then 1 else 0) = (unreadMessage m.conversationId m).toNat := by
    unfold unreadMessage
    cases m.inbound && decide (m.status ≠ .read) <;> simp
  unfold summaryInsert
  simp only [htaken, hunread, Bool.false_eq_true, if_false]
  cases hfind : s.summaries.find m.conversationId with
  | none => simp [summaryWith]
  | some summary =>
    have hkey : summary.conversationId = m.conversationId := Table.key_of_find hfind
    simp [summaryWith, hkey]

theorem insertMessage_agrees {f : String → String} (h : s.SummariesAgree) (hd : s.Determined f)
    (hm : m.conversationId = f m.peerAccountId) :
    ∃ s', s.insertMessage m = some s' ∧ s'.SummariesAgree ∧ s'.Determined f := by
  cases hfind : s.messages.find m.id with
  | some m' => exact ⟨s, by rw [insertMessage, hfind], h, hd⟩
  | none =>
    let s' : Store P :=
      { s with
        messages := s.messages.put m
        summaries := s.summaries.put (summaryWith (s.summaries.find m.conversationId) m) }
    have hinsert : s.insertMessage m = some s' := by
      rw [insertMessage, hfind]
      simp only [summaryInsert_eq hd hm, Option.map_some, Table.insertOrIgnore_eq_put hfind]
      rfl
    refine ⟨s', hinsert, fun conversation => ?_, ⟨fun m' hm' => ?_, fun summary hsummary => ?_⟩⟩
    · have hunread := @unread_put _ s s' m hfind rfl conversation
      have htimes := @times_put _ s s' m hfind rfl conversation
      have hold := h conversation
      by_cases hc : conversation = m.conversationId
      · subst hc
        have hrow : s'.summaries.find m.conversationId =
            some (summaryWith (s.summaries.find m.conversationId) m) := Table.find_put_self
        rw [hrow]
        cases hsummary : s.summaries.find m.conversationId with
        | none =>
          rw [hsummary] at hold
          have hnone : s.times m.conversationId = ∅ := hold
          have hzero : s.unread m.conversationId = 0 := by
            refine Table.count_eq_zero fun m' hm' => ?_
            have hne : m'.conversationId ≠ m.conversationId := by
              intro heq
              have hin : m'.sentAtMs ∈ s.times m.conversationId := ⟨m', hm', heq, rfl⟩
              rw [hnone] at hin
              exact hin
            simp [unreadMessage, hne]
          refine ⟨?_, ?_⟩
          · rw [hunread, hzero]
            rfl
          · rw [htimes, hnone]
            exact ⟨.inr ⟨rfl, rfl⟩, fun t ht => (ht.resolve_left (Set.notMem_empty t)).2.ge⟩
        | some summary =>
          rw [hsummary] at hold
          obtain ⟨hcount, hgreatest⟩ := hold
          refine ⟨?_, ?_⟩
          · rw [hunread, ← hcount]
            rfl
          · rw [htimes]
            show IsGreatest _ (max summary.lastActivityMs m.sentAtMs)
            refine ⟨?_, ?_⟩
            · rcases max_choice summary.lastActivityMs m.sentAtMs with hmax | hmax
              · rw [hmax]
                exact .inl hgreatest.1
              · rw [hmax]
                exact .inr ⟨rfl, rfl⟩
            · rintro t (ht | ⟨-, rfl⟩)
              · exact (hgreatest.2 ht).trans (le_max_left _ _)
              · exact le_max_right _ _
      · have hrow : s'.summaries.find conversation = s.summaries.find conversation :=
          Table.find_put_ne (t := s.summaries) hc
        rw [hrow]
        refine hold.of_eq ?_ ?_
        · rw [hunread]
          simp [unreadMessage, Ne.symm hc]
        · rw [htimes]
          simp [Ne.symm hc]
    · rcases Table.mem_put.1 hm' with rfl | ⟨hm', -⟩
      · exact hm
      · exact hd.messages m' hm'
    · rcases Table.mem_put.1 hsummary with rfl | ⟨hsummary, -⟩
      · exact hm
      · exact hd.summaries summary hsummary

/-! ## The status -/

/-- A message that becomes read is one unread message less; any other rise of a status leaves their number. -/
theorem raiseStatus_agrees {f : String → String} (h : s.SummariesAgree) (hd : s.Determined f) (id : String)
    (status : MessageStatus) (p : ChatMessage → Bool) :
    (s.raiseStatus id status p).SummariesAgree ∧ (s.raiseStatus id status p).Determined f := by
  unfold raiseStatus
  cases hfind : s.messages.find id with
  | none => exact ⟨h, hd⟩
  | some m =>
    dsimp only
    split
    · next hraised =>
      simp only [Bool.and_eq_true, decide_eq_true_eq] at hraised
      obtain ⟨hmem, rfl⟩ := Table.find_eq_some.1 hfind
      let becomesRead : Bool := m.inbound && m.status ≠ .read && status = .read
      let s' : Store P :=
        { s with
          messages := s.messages.update (fun m' => m'.id = m.id) (fun m' => { m' with status }) fun _ => rfl
          summaries := if becomesRead then summaryRead s.summaries m else s.summaries }
      have hput : s'.messages = s.messages.put { m with status } :=
        Table.update_eq_put (f := fun m' => { m' with status }) (fun _ => rfl) hfind
      have hunread : ∀ conversation, s'.unread conversation + (unreadMessage conversation m).toNat =
          s.unread conversation + (unreadMessage conversation { m with status }).toNat := fun conversation => by
        unfold unread
        rw [hput]
        exact Table.count_put_of_find (a := { m with status }) hfind _
      have htimes : ∀ conversation, s'.times conversation = s.times conversation := by
        intro conversation
        ext t
        simp only [times, hput, Set.mem_ofPred_eq, Table.mem_put]
        constructor
        · rintro ⟨m', rfl | ⟨hm', -⟩, hc, ht⟩
          · exact ⟨m, hmem, hc, ht⟩
          · exact ⟨m', hm', hc, ht⟩
        · rintro ⟨m', hm', hc, ht⟩
          by_cases hid : m'.id = m.id
          · have heq : m' = m := Table.eq_of_mem hm' hmem hid
            subst heq
            exact ⟨{ m' with status }, .inl rfl, hc, ht⟩
          · exact ⟨m', .inr ⟨hm', hid⟩, hc, ht⟩
      have hother : ∀ conversation, conversation ≠ m.conversationId →
          s'.unread conversation = s.unread conversation := by
        intro conversation hc
        have hsum := hunread conversation
        simpa [unreadMessage, Ne.symm hc] using hsum
      have hnotRead : m.status ≠ .read := by
        intro hread
        rw [hread] at hraised
        cases status <;> simp [MessageStatus.rank] at hraised
      show s'.SummariesAgree ∧ s'.Determined f
      refine ⟨fun conversation => ?_, ⟨fun m' hm' => ?_, fun summary hsummary => ?_⟩⟩
      · have hold := h conversation
        by_cases hread : becomesRead = true
        · have hsummaries : s'.summaries = summaryRead s.summaries m := if_pos hread
          have hrow : s'.summaries.find conversation = (s.summaries.find conversation).map fun summary =>
              if summary.conversationId = m.conversationId then
                { summary with unreadCount := summary.unreadCount - 1 } else summary := by
            rw [hsummaries, summaryRead, Table.find_update]
            simp
          rw [hrow]
          cases hsummary : s.summaries.find conversation with
          | none =>
            rw [hsummary] at hold
            exact (htimes conversation).trans hold
          | some summary =>
            have hkey : summary.conversationId = conversation := Table.key_of_find hsummary
            rw [hsummary] at hold
            by_cases hc : conversation = m.conversationId
            · subst hc
              have hcount := hunread m.conversationId
              simp only [becomesRead, Bool.and_eq_true, decide_eq_true_eq] at hread
              have hbefore : unreadMessage m.conversationId m = true := by
                simp [unreadMessage, hread.1.1, hnotRead]
              have hafter : unreadMessage m.conversationId { m with status } = false := by
                simp [unreadMessage, hread.2]
              rw [hbefore, hafter] at hcount
              rw [Option.map_some, if_pos hkey]
              refine ⟨?_, (htimes m.conversationId).symm ▸ hold.2⟩
              have hnumber := hold.1
              simp only [Bool.toNat_true, Bool.toNat_false] at hcount
              show summary.unreadCount - 1 = _
              omega
            · rw [Option.map_some, if_neg (fun heq => hc (hkey.symm.trans heq))]
              exact hold.of_eq (hother conversation hc) (htimes conversation)
        · have hsummaries : s'.summaries = s.summaries := if_neg hread
          rw [hsummaries]
          refine hold.of_eq ?_ (htimes conversation)
          have hsame : unreadMessage conversation m = unreadMessage conversation { m with status } := by
            simp only [becomesRead, Bool.and_eq_true, decide_eq_true_eq, not_and] at hread
            unfold unreadMessage
            cases hinbound : m.inbound with
            | false => simp
            | true =>
              have hstatus : status ≠ .read := hread ⟨hinbound, hnotRead⟩
              simp [hnotRead, hstatus]
          have hcount := hunread conversation
          rw [hsame] at hcount
          omega
      · rw [hput] at hm'
        rcases Table.mem_put.1 hm' with rfl | ⟨hm', -⟩
        · exact hd.messages m hmem
        · exact hd.messages m' hm'
      · by_cases hread : becomesRead = true
        · have hsummaries : s'.summaries = summaryRead s.summaries m := if_pos hread
          rw [hsummaries, summaryRead, Table.mem_update] at hsummary
          obtain ⟨old, hold, rfl⟩ := hsummary
          have hf := hd.summaries old hold
          split <;> exact hf
        · have hsummaries : s'.summaries = s.summaries := if_neg hread
          rw [hsummaries] at hsummary
          exact hd.summaries summary hsummary
    · exact ⟨h, hd⟩

/-! ## The deletion -/

theorem deleteConversationState_agrees {f : String → String} (h : s.SummariesAgree) (hd : s.Determined f)
    (peerAccountId deleted : String) :
    (s.deleteConversationState peerAccountId deleted).SummariesAgree ∧
      (s.deleteConversationState peerAccountId deleted).Determined f := by
  have hmem : ∀ m, m ∈ (s.deleteConversationState peerAccountId deleted).messages ↔
      m ∈ s.messages ∧ m.conversationId ≠ deleted := fun m => by
    simp [deleteConversationState]
  refine ⟨fun conversation => ?_, ⟨fun m hm => hd.messages m ((hmem m).1 hm).1, fun summary hsummary => ?_⟩⟩
  · have hrow : (s.deleteConversationState peerAccountId deleted).summaries.find conversation =
        (s.summaries.find conversation).filter fun summary => !decide (summary.conversationId = deleted) :=
      Table.find_delete
    by_cases hc : conversation = deleted
    · subst hc
      have hnone : (s.deleteConversationState peerAccountId conversation).summaries.find conversation = none := by
        rw [hrow, Option.filter_eq_none_iff]
        intro summary hsummary
        have hkey : summary.conversationId = conversation := Table.key_of_find hsummary
        simp [hkey]
      rw [hnone]
      refine Set.eq_empty_iff_forall_notMem.2 ?_
      rintro t ⟨m, hm, hconversation, -⟩
      exact ((hmem m).1 hm).2 hconversation
    · have hsame : (s.deleteConversationState peerAccountId deleted).summaries.find conversation =
          s.summaries.find conversation := by
        rw [hrow]
        cases hsummary : s.summaries.find conversation with
        | none => rfl
        | some summary =>
          have hkey : summary.conversationId = conversation := Table.key_of_find hsummary
          simp [Option.filter, hkey, hc]
      rw [hsame]
      refine (h conversation).of_eq ?_ ?_
      · show (s.messages.delete _).count _ = _
        rw [Table.count_delete]
        refine Table.count_congr fun m _ => ?_
        unfold unreadMessage
        by_cases hm : m.conversationId = conversation
        · simp [hm, hc]
        · simp [hm]
      · ext t
        simp only [times, Set.mem_ofPred_eq, hmem]
        constructor
        · rintro ⟨m, ⟨hm, -⟩, hconversation, ht⟩
          exact ⟨m, hm, hconversation, ht⟩
        · rintro ⟨m, hm, hconversation, ht⟩
          exact ⟨m, ⟨hm, hconversation.trans_ne hc⟩, hconversation, ht⟩
  · exact hd.summaries summary (Table.mem_delete.1 hsummary).1

end Store

/-! ## Sequences of statements -/

/-- What the client does to its messages. -/
inductive MessageStatement
  | insertMessage (m : ChatMessage)
  | updateStatus (id : String) (status : MessageStatus)
  | updateOutboundStatusForPeer (id peerAccountId : String) (status : MessageStatus)
  | deleteConversationState (peerAccountId conversationId : String)

namespace MessageStatement

/-- The peer of an inserted message determines its conversation. -/
def Determined (f : String → String) : MessageStatement → Prop
  | insertMessage m => m.conversationId = f m.peerAccountId
  | _ => True

def run (s : Store P) : MessageStatement → Option (Store P)
  | insertMessage m => s.insertMessage m
  | updateStatus id status => some (s.updateStatus id status)
  | updateOutboundStatusForPeer id peerAccountId status => some (s.updateOutboundStatusForPeer id peerAccountId status)
  | deleteConversationState peerAccountId conversationId =>
    some (s.deleteConversationState peerAccountId conversationId)

theorem run_agrees {f : String → String} {s : Store P} (h : s.SummariesAgree) (hd : s.Determined f)
    {statement : MessageStatement} (hs : statement.Determined f) :
    ∃ s', statement.run s = some s' ∧ s'.SummariesAgree ∧ s'.Determined f := by
  cases statement with
  | insertMessage m => exact Store.insertMessage_agrees h hd hs
  | updateStatus id status => exact ⟨_, rfl, Store.raiseStatus_agrees h hd id status _⟩
  | updateOutboundStatusForPeer id peerAccountId status =>
    exact ⟨_, rfl, Store.raiseStatus_agrees h hd id status _⟩
  | deleteConversationState peerAccountId conversationId =>
    exact ⟨_, rfl, Store.deleteConversationState_agrees h hd peerAccountId conversationId⟩

end MessageStatement

theorem runs_agree {f : String → String} : ∀ {statements : List MessageStatement} {s : Store P},
    s.SummariesAgree → s.Determined f → (∀ statement ∈ statements, statement.Determined f) →
      ∃ s', statements.foldlM MessageStatement.run s = some s' ∧ s'.SummariesAgree
  | [], s, h, _, _ => ⟨s, rfl, h⟩
  | statement :: statements, s, h, hd, hs => by
    obtain ⟨s₁, hrun, h₁, hd₁⟩ := MessageStatement.run_agrees h hd (hs statement List.mem_cons_self)
    obtain ⟨s', hruns, h'⟩ := runs_agree h₁ hd₁ fun later hlater => hs later (List.mem_cons_of_mem _ hlater)
    refine ⟨s', ?_, h'⟩
    rw [List.foldlM_cons, hrun]
    exact hruns

/-- No statement fails, and afterwards the row of every conversation has the number of its inbound messages that
are not read and the greatest of their times, and there is a row if and only if there are messages. -/
theorem summaries_agree {f : String → String} {s : Store P} (hmessages : s.messages = ∅) (hsummaries : s.summaries = ∅)
    {statements : List MessageStatement} (hs : ∀ statement ∈ statements, statement.Determined f) :
    ∃ s', statements.foldlM MessageStatement.run s = some s' ∧
      (∀ summary ∈ s'.summaries,
        summary.unreadCount = s'.messages.count (fun m =>
          m.conversationId = summary.conversationId && (m.inbound && m.status ≠ .read)) ∧
        IsGreatest { t | ∃ m ∈ s'.messages, m.conversationId = summary.conversationId ∧ m.sentAtMs = t }
          summary.lastActivityMs) ∧
      ∀ conversation, (s'.summaries.find conversation).isSome ↔ ∃ m ∈ s'.messages, m.conversationId = conversation := by
  have hnone : s.SummariesAgree := by
    intro conversation
    rw [hsummaries, Table.find_empty]
    refine Set.eq_empty_iff_forall_notMem.2 ?_
    rintro t ⟨m, hm, -⟩
    rw [hmessages] at hm
    exact Table.not_mem_empty m hm
  have hd : s.Determined f := by
    refine ⟨fun m hm => ?_, fun summary hsummary => ?_⟩
    · rw [hmessages] at hm
      exact absurd hm (Table.not_mem_empty m)
    · rw [hsummaries] at hsummary
      exact absurd hsummary (Table.not_mem_empty summary)
  obtain ⟨s', hrun, h⟩ := runs_agree hnone hd hs
  refine ⟨s', hrun, fun summary hsummary => ?_, fun conversation => ?_⟩
  · have hagrees := h summary.conversationId
    rw [Table.find_of_mem hsummary] at hagrees
    exact hagrees
  · have hagrees := h conversation
    cases hrow : s'.summaries.find conversation with
    | none =>
      rw [hrow] at hagrees
      constructor
      · intro hsome
        cases hsome
      · rintro ⟨m, hm, hc⟩
        have hin : m.sentAtMs ∈ s'.times conversation := ⟨m, hm, hc, rfl⟩
        have hempty : s'.times conversation = ∅ := hagrees
        rw [hempty] at hin
        exact absurd hin (Set.notMem_empty _)
    | some summary =>
      rw [hrow] at hagrees
      obtain ⟨m, hm, hc, -⟩ := hagrees.2.1
      exact ⟨fun _ => ⟨m, hm, hc⟩, fun _ => rfl⟩

namespace Scenario

/-- A message of a conversation named after its peer. -/
def messageWith (peer id : String) (sentAtMs : Int) (inbound : Bool) : ChatMessage :=
  { id
    conversationId := peer
    peerAccountId := peer
    senderAccountId := if inbound then peer else "alice"
    body := "hello"
    sentAtMs
    status := if inbound then .delivered else .sending
    inbound
    provenance := none }

/-- Two messages arrive from bob, the later one first and once more, and one is read; carol's conversation
goes. -/
def arrivals : List MessageStatement :=
  [.insertMessage (messageWith "bob" "m2" 20 true),
    .insertMessage (messageWith "bob" "m1" 10 true),
    .insertMessage (messageWith "bob" "m2" 20 true),
    .insertMessage (messageWith "carol" "m3" 30 false),
    .updateStatus "m2" .read,
    .updateStatus "m2" .read,
    .deleteConversationState "carol" "carol"]

theorem summaries_agree_arrivals :
    ∃ s', arrivals.foldlM MessageStatement.run (Store.ofProfile (firstDevice "alice" "a1" 1 2)) = some s' ∧
      (∀ summary ∈ s'.summaries,
        summary.unreadCount = s'.messages.count (fun m =>
          m.conversationId = summary.conversationId && (m.inbound && m.status ≠ .read)) ∧
        IsGreatest { t | ∃ m ∈ s'.messages, m.conversationId = summary.conversationId ∧ m.sentAtMs = t }
          summary.lastActivityMs) ∧
      ∀ conversation, (s'.summaries.find conversation).isSome ↔ ∃ m ∈ s'.messages, m.conversationId = conversation :=
  summaries_agree (f := id) rfl rfl (by simp [arrivals, MessageStatement.Determined, messageWith])

end Scenario

end TuiChat
