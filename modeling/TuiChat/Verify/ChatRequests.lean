import TuiChat.Client.Exec
import TuiChat.Client.LedgerSteps
import TuiChat.Verify.Scenario

/-!
# The notification of a request that was not sent

`send_chat_request` stores the notification of the request in a statement of its own and queues the frame in a
transaction after it. What fails in between leaves a pending request that no frame was made for, and the guard
at the start of the next call reads only the notification. The two agree after a call if and only if nothing
fails between them (`request_queued_iff`).
-/

namespace TuiChat

open Lib
open Lib.Prog (Moves wp)

variable {P : Primitives} {env : Environment} {recipient : UserBundle} {w : World P}

/-! ## The call, at its first statement -/

structure PreparedRequest (P : Primitives) where
  requestId : String
  deviceId : String
  envelopes : List EncryptedEnvelope
  machine : OlmMachine P.olm

/-- `send_chat_request` up to the first thing it stores; nothing if a request is pending. -/
def prepareChatRequest (env : Environment) (recipient : UserBundle) : ClientM P (Option (PreparedRequest P)) := do
  let pending ← getApp fun app => app.hasPendingChatRequest recipient.accountId
  if pending then pure none
  else
    Prog.ofExcept (validateBundle P recipient)
    let selfBundle ← ownBundle (lookupValidBundle env)
    let requestId ← newUuid env
    let sentAtMs ← nowMs env
    let profile ← getApp App.profile
    let payload : WirePayload :=
      { version := 3
        kind := "chat_request"
        messageId := requestId
        senderUsername := profile.username
        senderAccountId := profile.accountId
        peerAccountId := recipient.accountId
        peerUsername := recipient.username
        sentAtMs
        text := ""
        relatedMessageId := none
        relatedMessageIds := [] }
    let m : Outgoing :=
      { logicalId := requestId
        conversationId := conversationId P.sha256 profile.accountId recipient.accountId
        sentAtMs
        payload := payload.toVec }
    let machine ← currentMachine
    let (envelopes, machine) ← encryptTargets env m machine (targetsOf recipient)
    Prog.ensure (envelopes ≠ []) "联系人没有可用设备"
    let selfPayload := { payload with text := recipient.username }
    let (selfEnvelopes, machine) ← encryptTargets env { m with payload := selfPayload.toVec } machine
      (targetsBut profile.identity.deviceId selfBundle)
    pure (some
      { requestId
        deviceId := profile.identity.deviceId
        envelopes := envelopes ++ selfEnvelopes
        machine })

/-- The rest of the call. -/
def finishChatRequest (env : Environment) (recipient : UserBundle) : Option (PreparedRequest P) → ClientM P Unit
  | none => setStatus ("已向 " ++ recipient.username ++ " 发出会话请求，等待对方确认")
  | some r => do
    saveOutgoingChatRequestNotification env r.requestId recipient r.deviceId true
    queueControl env r.requestId r.envelopes r.machine
    setStatus ("已向 " ++ recipient.username ++ " 发出会话请求，等待对方确认")

theorem sendChatRequest_eq (env : Environment) (recipient : UserBundle) :
    (sendChatRequest env recipient : ClientM P Unit) =
      prepareChatRequest env recipient >>= finishChatRequest env recipient := by
  unfold sendChatRequest prepareChatRequest
  rw [Prog.bind_assoc]
  congr
  funext pending
  split
  · rfl
  · simp only [Prog.bind_assoc]
    rfl

/-- Nothing of the ledger moves. -/
def Unmoved (w w' : World P) : Prop := ∀ past, w'.ledger past = w.ledger past

theorem Unmoved.trans {w' w'' : World P} (h : Unmoved w w') (h' : Unmoved w' w'') : Unmoved w w'' :=
  fun past => (h' past).trans (h past)

theorem Unmoved.notifications {w' : World P} (h : Unmoved w w') : w'.store.notifications = w.store.notifications :=
  congrArg Ledger.notifications (h [])

theorem Unmoved.outbox {w' : World P} (h : Unmoved w w') : w'.store.outbox = w.store.outbox :=
  congrArg (fun s : Ledger P => s.tables.outbox) (h [])

/-- The request has an id that was drawn, and envelopes that carry it. -/
structure PreparedRequest.Sound (env : Environment) (r : PreparedRequest P) : Prop where
  drawn : ∃ n, r.requestId = env.uuid n
  envelopes : r.envelopes ≠ []
  carries : ∀ e ∈ r.envelopes, e.logicalMessageId = r.requestId

/-- Nothing is stored before the notification. -/
theorem prepareChatRequest_unmoved (env : Environment) (recipient : UserBundle) (w : World P) :
    wp (prepareChatRequest env recipient) (fun r w' => Unmoved w w' ∧ ∀ r' ∈ r, r'.Sound env)
      (fun _ => Unmoved w) w := by
  unfold prepareChatRequest
  rw [wp_getApp_bind]
  split
  · exact ⟨fun _ => rfl, fun _ hnone => by cases hnone⟩
  refine wp.ofExcept (fun _ _ => rfl) fun _ _ => ?_
  refine (ownBundle_alters (C := fun _ _ => False) lookupValidBundle_alters).wp_bind (fun _ _ h => h.unmoved)
    fun selfBundle w₁ h₁ => ?_
  have hw₁ : Unmoved w w₁ := h₁.unmoved
  rw [Prog.wp_bind, wp_newUuid_iff, Prog.wp_bind, wp_nowMs_iff, wp_getApp_bind]
  unfold currentMachine
  rw [wp_getApp_bind, Prog.wp_bind]
  refine (wp_encryptTargets (C := fun _ _ => False) _ _ _ _).mono (fun r w₂ hencrypted => ?_)
    fun _ w₂ h₂ => hw₁.trans fun past => h₂.unmoved past
  obtain ⟨h₂, haddressed⟩ := hencrypted
  have hw₂ : Unmoved w w₂ := hw₁.trans fun past => h₂.unmoved past
  refine wp.ensure hw₂ fun hsome => ?_
  rw [Prog.wp_bind]
  refine (wp_encryptTargets (C := fun _ _ => False) _ _ _ _).mono (fun r' w₃ hencrypted => ?_)
    fun _ w₃ h₃ => hw₂.trans h₃.unmoved
  obtain ⟨h₃, haddressed'⟩ := hencrypted
  refine ⟨hw₂.trans h₃.unmoved, fun prepared hprepared => ?_⟩
  cases hprepared
  refine ⟨⟨w₁.tick, rfl⟩, fun hnil => hsome (List.append_eq_nil_iff.1 hnil).1, fun e he => ?_⟩
  exact (List.mem_append.1 he).elim (haddressed.ids e) (haddressed'.ids e)

/-! ## What is stored -/

def Notification.isOutgoingRequest (n : Notification) : Bool :=
  match n.data with
  | .chatRequest outgoing .. => outgoing
  | _ => false

/-- Every pending outgoing request that the second store has, and the first has not, has its frame in the outbox. -/
def Store.RequestsQueued (s s' : Store P) : Prop :=
  ∀ n ∈ s'.notifications, s.notifications.find n.requestId = none → n.isOutgoingRequest = true → n.state = .pending →
    ∃ row, s'.outbox.find n.requestId = some row ∧ row.envelopes ≠ [] ∧
      ∀ e ∈ row.envelopes, e.logicalMessageId = n.requestId

/-- No id that is drawn is one that is stored. -/
structure World.FreshIds (env : Environment) (w : World P) : Prop where
  notifications : ∀ n, ∀ old ∈ w.store.notifications, old.id ≠ env.uuid n ∧ old.requestId ≠ env.uuid n
  outbox : ∀ n, ∀ row ∈ w.store.outbox, row.logicalMessageId ≠ env.uuid n

/-- Nothing fails between the statement of the notification, if it works, and the transaction that queues the
frame. The number is that of the first thing learned for the notification. -/
def NothingBetween (env : Environment) (n : Nat) : Prop :=
  env.works n = true → env.works (n + 3) = true → env.works (n + 4) = true ∧ env.works (n + 7) = true

theorem Store.RequestsQueued.of_notifications {s s' : Store P} (h : s'.notifications = s.notifications) :
    s.RequestsQueued s' := by
  intro n hmem hnew
  rw [h] at hmem
  rw [Table.find_of_mem hmem] at hnew
  cases hnew

/-- The store after the statement of the notification. -/
structure World.Notified (w : World P) (requestId : String) (w' : World P) : Prop where
  stored : ∃ n : Notification, n.requestId = requestId ∧ n.isOutgoingRequest = true ∧ n.state = .pending ∧
    w'.store.notifications = w.store.notifications.put n
  outbox : w'.store.outbox = w.store.outbox

/-- A notification of a new request is a new row. -/
theorem saveNotification_new {s : Store P} {n : Notification} (hnew : s.notifications.find n.requestId = none)
    (hid : ∀ old ∈ s.notifications, old.id ≠ n.id) :
    s.saveNotification n = some { s with notifications := s.notifications.put n } := by
  unfold Store.saveNotification
  rw [hnew]
  unfold Store.putNotification
  rw [if_neg]
  simpa [Table.mem_rows] using fun old hold _ => hid old hold

theorem saveOutgoing_ends {requestId device : String} (hnew : w.store.notifications.find requestId = none)
    (hid : ∀ n ∈ w.store.notifications, n.id ≠ env.uuid (w.tick + 2)) :
    wp (saveOutgoingChatRequestNotification env requestId recipient device true)
      (fun _ w' => env.works w.tick = true ∧ env.works (w.tick + 3) = true ∧ env.works (w.tick + 4) = true ∧
        w.Notified requestId w' ∧ w'.tick = w.tick + 5)
      (fun _ w' => ¬(env.works w.tick = true ∧ env.works (w.tick + 3) = true) ∧
          w'.store.notifications = w.store.notifications ∨
        env.works w.tick = true ∧ env.works (w.tick + 3) = true ∧ ¬env.works (w.tick + 4) = true ∧
          w.Notified requestId w') w := by
  unfold saveOutgoingChatRequestNotification saveRequestNotification notificationByRequestId
  rw [Prog.wp_bind, wp_query_iff]
  refine ⟨fun hread => ?_, fun hread => .inl ⟨fun h => hread h.1, rfl⟩⟩
  rw [Prog.wp_bind, wp_nowMs_iff, Prog.wp_bind, wp_newUuid_iff, hnew]
  unfold saveNotification execute
  rw [Prog.wp_bind, wp_executeRecording_iff]
  -- The row is new, so no constraint stops the statement.
  have hsave : ∀ n : Notification, n.requestId = requestId → n.id = env.uuid (w.tick + 2) →
      w.store.saveNotification n = some { w.store with notifications := w.store.notifications.put n } := by
    rintro n rfl hn
    exact saveNotification_new hnew (hn ▸ hid)
  refine ⟨fun hsaved => ⟨fun store hs => ?_, fun hs => ?_⟩, fun hsaved => .inl ⟨fun h => hsaved h.2, rfl⟩⟩
  · cases (hsave _ rfl rfl).symm.trans hs
    unfold refreshNotifications
    rw [wp_getApp_bind, Prog.wp_bind, wp_query_iff]
    exact ⟨fun hlisted => ⟨hread, hsaved, hlisted, ⟨⟨_, rfl, by rfl, by rfl, rfl⟩, rfl⟩, rfl⟩,
      fun hlisted => .inr ⟨hread, hsaved, hlisted, ⟨_, rfl, by rfl, by rfl, rfl⟩, rfl⟩⟩
  · cases (hsave _ rfl rfl).symm.trans hs

theorem queueControl_ends {id : String} {envelopes : List EncryptedEnvelope} {m : OlmMachine P.olm} :
    wp (queueControl env id envelopes m)
      (fun _ w' => w'.store.notifications = w.store.notifications ∧ env.works (w.tick + 2) = true ∧
        ∃ row, w'.store.outbox.find id = some row ∧ row.envelopes = envelopes)
      (fun _ w' => w'.store.notifications = w.store.notifications ∧
        ((env.works (w.tick + 2) = true ∧ ∃ row, w'.store.outbox.find id = some row ∧ row.envelopes = envelopes) ∨
          ¬env.works (w.tick + 2) = true ∧ w'.store.outbox = w.store.outbox)) w := by
  unfold queueControl
  rw [Prog.wp_bind, wp_newUuid_iff, Prog.wp_bind, wp_nowMs_iff, Prog.wp_bind, wp_commitMachine_iff]
  refine ⟨fun hworks => ⟨fun store hs => ?_, nofun⟩, fun hworks => ⟨rfl, .inr ⟨hworks, rfl⟩⟩⟩
  cases hs
  let row : OutboxRow :=
    { logicalMessageId := id
      encodedFrame := frame (env.uuid w.tick) (.sendEnvelopes { envelopes })
      createdAtMs := env.nowMs w.ticked.tick }
  have hqueued : ∀ {w₁ w' : World P}, Unmoved w₁ w' → w₁.store.notifications = w.store.notifications →
      w₁.store.outbox = w.store.outbox.put row →
      w'.store.notifications = w.store.notifications ∧ env.works (w.tick + 2) = true ∧
        ∃ row, w'.store.outbox.find id = some row ∧ row.envelopes = envelopes := by
    intro w₁ w' h hnotifications houtbox
    refine ⟨h.notifications.trans hnotifications, hworks, row, ?_, rfl⟩
    rw [h.outbox, houtbox]
    exact Table.find_put_self
  refine ((dispatchBackground_alters (C := fun _ _ => False) _ _).wp _).mono
    (fun _ w' h => hqueued h.unmoved rfl rfl) fun _ w' h => ?_
  obtain ⟨hnotifications, hrow⟩ := hqueued h.unmoved rfl rfl
  exact ⟨hnotifications, .inl hrow⟩

section

variable {r : PreparedRequest P} {w' : World P}

theorem World.FreshIds.unknown (hfresh : w.FreshIds env) (hr : r.Sound env) :
    w.store.notifications.find r.requestId = none := by
  obtain ⟨n, hdrawn⟩ := hr.drawn
  rw [Table.find_eq_none, hdrawn]
  exact fun old hold => (hfresh.notifications n old hold).2

/-- A notification whose frame is not in the outbox. -/
theorem World.Notified.lost (h : w.Notified r.requestId w') (hr : r.Sound env) (hfresh : w.FreshIds env) :
    ¬w.store.RequestsQueued w'.store := by
  intro hqueued
  obtain ⟨n', hid, houtgoing, hpending, hnotifications⟩ := h.stored
  have hmem : n' ∈ w'.store.notifications := by
    rw [hnotifications]
    exact Table.mem_put.2 (.inl rfl)
  obtain ⟨row, hrow, -⟩ := hqueued n' hmem (hid ▸ hfresh.unknown hr) houtgoing hpending
  obtain ⟨n, hdrawn⟩ := hr.drawn
  rw [h.outbox, hid, hdrawn] at hrow
  exact hfresh.outbox n row (Table.mem_of_find hrow) (Table.key_of_find hrow)

theorem World.Notified.kept {w₁ : World P} (h : w.Notified r.requestId w₁) (hr : r.Sound env)
    (hnotifications : w'.store.notifications = w₁.store.notifications)
    (hrow : ∃ row, w'.store.outbox.find r.requestId = some row ∧ row.envelopes = r.envelopes) :
    w.store.RequestsQueued w'.store := by
  intro n hmem hnone _ _
  obtain ⟨stored, hid, -, -, hstored⟩ := h.stored
  obtain ⟨row, hfind, henvelopes⟩ := hrow
  rw [hnotifications, hstored] at hmem
  rcases Table.mem_put.1 hmem with rfl | ⟨hold, -⟩
  · rw [hid]
    refine ⟨row, hfind, ?_⟩
    rw [henvelopes]
    exact ⟨hr.envelopes, hr.carries⟩
  · rw [Table.find_of_mem hold] at hnone
    cases hnone

end

/-- After the rest of the call, the two agree if nothing failed in between. -/
theorem finishChatRequest_ends {r : PreparedRequest P} (hr : r.Sound env) (hfresh : w.FreshIds env) :
    wp (finishChatRequest env recipient (some r))
      (fun _ w' => w.store.RequestsQueued w'.store ↔ NothingBetween env w.tick)
      (fun _ w' => w.store.RequestsQueued w'.store ↔ NothingBetween env w.tick) w := by
  unfold finishChatRequest
  rw [Prog.wp_bind]
  refine (saveOutgoing_ends (hfresh.unknown hr) fun old hold => (hfresh.notifications _ old hold).1).mono
    (fun _ w₁ ⟨hread, hsaved, hlisted, hnotified, htick⟩ => ?_) fun _ w' hstopped => ?_
  · have hqueue : w₁.tick + 2 = w.tick + 7 := by omega
    rw [Prog.wp_bind]
    refine queueControl_ends.mono (fun _ w₂ ⟨hnotifications, hworks, hrow⟩ => ?_)
      fun _ w₂ ⟨hnotifications, hends⟩ => ?_
    · exact iff_of_true (hnotified.kept hr hnotifications hrow) fun _ _ => ⟨hlisted, hqueue ▸ hworks⟩
    · rcases hends with ⟨hworks, hrow⟩ | ⟨hworks, houtbox⟩
      · exact iff_of_true (hnotified.kept hr hnotifications hrow) fun _ _ => ⟨hlisted, hqueue ▸ hworks⟩
      · have hlost : w.Notified r.requestId w₂ := by
          obtain ⟨n, hid, houtgoing, hpending, hstored⟩ := hnotified.stored
          exact ⟨⟨n, hid, houtgoing, hpending, hnotifications.trans hstored⟩, houtbox.trans hnotified.outbox⟩
        refine iff_of_false (hlost.lost hr hfresh) fun h => hworks ?_
        rw [hqueue]
        exact (h hread hsaved).2
  · rcases hstopped with ⟨hstopped, hnotifications⟩ | ⟨hread, hsaved, hlisted, hnotified⟩
    · exact iff_of_true (.of_notifications hnotifications) fun hread hsaved => absurd ⟨hread, hsaved⟩ hstopped
    · exact iff_of_false (hnotified.lost hr hfresh) fun h => hlisted (h hread hsaved).1

/-- After a call, whatever failed in it, every pending request that it created has its frame in the outbox, if
and only if nothing fails between the statement of its notification and the transaction of its frame. -/
theorem request_queued_iff (hfresh : w.FreshIds env) :
    w.store.RequestsQueued ((sendChatRequest env recipient).exec w).2.store ↔
      ∀ r w₁, (prepareChatRequest env recipient).exec w = (.ok (some r), w₁) → NothingBetween env w₁.tick := by
  have hends : wp (sendChatRequest env recipient)
      (fun _ w' => w.store.RequestsQueued w'.store ↔
        ∀ r w₁, (prepareChatRequest env recipient).exec w = (.ok (some r), w₁) → NothingBetween env w₁.tick)
      (fun _ w' => w.store.RequestsQueued w'.store ↔
        ∀ r w₁, (prepareChatRequest env recipient).exec w = (.ok (some r), w₁) → NothingBetween env w₁.tick) w := by
    rw [sendChatRequest_eq, Prog.wp_bind]
    refine (prepareChatRequest_unmoved env recipient w).exec.mono (fun r w₁ ⟨⟨hmoved, hsound⟩, hexec⟩ => ?_)
      fun e w₁ ⟨hmoved, hexec⟩ => ?_
    · cases r with
      | none =>
        refine iff_of_true (.of_notifications hmoved.notifications) fun r w₂ hexec' => ?_
        cases hexec.symm.trans hexec'
      | some r =>
        have hfresh₁ : w₁.FreshIds env := by
          constructor
          · rw [hmoved.notifications]
            exact hfresh.notifications
          · rw [hmoved.outbox]
            exact hfresh.outbox
        have hsame : ∀ w', w.store.RequestsQueued w' ↔ w₁.store.RequestsQueued w' := by
          intro s'
          unfold Store.RequestsQueued
          rw [hmoved.notifications]
        have honly : (∀ r' w₂, (prepareChatRequest env recipient).exec w = (.ok (some r'), w₂) →
            NothingBetween env w₂.tick) ↔ NothingBetween env w₁.tick := by
          constructor
          · exact fun h => h r w₁ hexec
          · intro h r' w₂ hexec'
            cases hexec.symm.trans hexec'
            exact h
        refine (finishChatRequest_ends (hsound r rfl) hfresh₁).mono (fun _ w' h => ?_) fun _ w' h => ?_ <;>
          rw [hsame, honly, h]
    · refine iff_of_true (.of_notifications hmoved.notifications) fun r w₂ hexec' => ?_
      cases hexec.symm.trans hexec'
  exact Prog.wp_state.1 hends

namespace Scenario.ChatRequests

def bob : UserBundle := bundle "bob" 5 [("b1", 6)]

def lookups : Environment := environment (fun _ => [bundle "alice" 1 [("a1", 2)], bob]) []

/-- Nothing works once the notification is stored. -/
def crashing : Environment := { lookups with works := fun n => n ≤ 14 }

def alice : World primitives := World.ofProfile (firstDevice "alice" "a1" 1 2)

theorem alice_fresh (env : Environment) : alice.FreshIds env where
  notifications _ old hold := absurd hold (Table.not_mem_empty old)
  outbox _ row hrow := absurd hrow (Table.not_mem_empty row)

/-- The request is pending, and there is no frame of it. -/
theorem request_lost : alice.FreshIds crashing ∧
    ¬alice.store.RequestsQueued ((sendChatRequest crashing bob).exec alice).2.store := by
  refine ⟨alice_fresh crashing, fun h => ?_⟩
  have hstored : (((sendChatRequest crashing bob).exec alice).2.store.notifications.find "4").any (fun n =>
      n.state = .pending && n.isOutgoingRequest) = true := by
    decide +kernel
  have hoffered : ((sendChatRequest crashing bob).exec alice).2.store.outbox.find "4" = none := by decide +kernel
  obtain ⟨n, hfind, hn⟩ := (Option.any_eq_true _ _).1 hstored
  obtain ⟨hpending, houtgoing⟩ := Bool.and_eq_true_iff.1 hn
  have hid : n.requestId = "4" := Table.key_of_find hfind
  obtain ⟨row, hrow, -⟩ := h n (Table.mem_of_find hfind) rfl houtgoing (of_decide_eq_true hpending)
  rw [hid, hoffered] at hrow
  cases hrow

theorem request_queued_works :
    alice.store.RequestsQueued ((sendChatRequest lookups bob).exec alice).2.store ↔
      ∀ r w₁, (prepareChatRequest lookups bob).exec alice = (.ok (some r), w₁) → NothingBetween lookups w₁.tick :=
  request_queued_iff (alice_fresh lookups)

end Scenario.ChatRequests

end TuiChat
