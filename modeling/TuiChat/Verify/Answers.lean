import TuiChat.Client.Stages
import TuiChat.Verify.Scenario

/-!
# Who answers a chat request

The notification of an incoming request leaves `pending` by the user's accept or reject, by the response that
another device of the account has sent, and by a response of the peer: the `chat_response` branch compares the
accounts of the two, and does not ask in which direction the request went. Where no peer responds to a request of its
own, the answer is the recipient's (`requests_answered_by_recipient`).
-/

namespace TuiChat

open Lib
open Lib.Prog (Moves wp)
open Relation (ReflTransGen)

variable {P : Primitives} {env : Environment}

/-- The request of a peer that has not been answered. -/
def Notification.awaits (n : Notification) : Bool :=
  match n.data with
  | .chatRequest outgoing .. => !outgoing && n.state = .pending
  | _ => false

theorem Notification.awaits_answered {n : Notification} (h : n.awaits = true) : n.state.answered = false := by
  unfold Notification.awaits at h
  split at h
  · obtain ⟨-, hpending⟩ := Bool.and_eq_true_iff.1 h
    rw [of_decide_eq_true hpending]
    rfl
  · cases h

/-- No notification of the request has an answer. -/
def Ledger.Unanswered (s : Ledger P) (requestId : String) : Prop :=
  ∀ n ∈ s.notifications, n.requestId = requestId → n.state.answered = false

/-- The changes that do not answer a request. -/
def Change.Spares (env : Environment) (requestId : String) (s : Ledger P) (c : Change P) : Prop :=
  c.Basic env s ∨ match c with
  | .completed .. | .deletedHere _ | .verified _ => True
  | .processed o branch => branch.Of s o
  | .answered n => n.requestId ≠ requestId
  | .answeredBy _ n => n.requestId ≠ requestId
  | .dismissed n _ => ∀ row ∈ s.notifications, row.id = n.id → row.requestId = requestId → n.state.answered = false
  | _ => False

instance (requestId : String) : Admits env (Change.Spares (P := P) env requestId) := ⟨fun _ _ => .inl⟩

namespace Ledger.Unanswered

variable {s s' : Ledger P} {requestId : String}

theorem of_subset (h : s.Unanswered requestId) (hsub : ∀ n ∈ s'.notifications, n ∈ s.notifications) :
    s'.Unanswered requestId := fun n hn => h n (hsub n hn)

theorem statement {st : Statement} (h : s.Unanswered requestId) (hs : s.statement st = some s') :
    s'.Unanswered requestId := by
  obtain ⟨tables, -, rfl⟩ := Ledger.statement_eq hs
  exact h

theorem delete {t : ConversationTombstone} (h : s.Unanswered requestId) (hs : s.delete t = some s') :
    s'.Unanswered requestId := by
  obtain ⟨tables, -, rfl⟩ := Option.map_eq_some_iff.1 hs
  exact h.of_subset fun n hn => (Table.mem_delete.1 hn).1

theorem note {n : Notification} (h : s.Unanswered requestId) (hn : n.requestId = requestId → n.state.answered = false) :
    (s.note n).Unanswered requestId := by
  intro row hrow hid
  rcases Table.mem_put.1 hrow with rfl | ⟨hold, -⟩
  · exact hn hid
  · exact h row hold hid

theorem keeps {n : Notification} (h : s.Unanswered requestId) (hn : s.Keeps n) : (s.note n).Unanswered requestId :=
  h.note fun hid => by
    by_contra hanswered
    obtain ⟨old, hold, hold', hstate⟩ := hn (by simpa using hanswered)
    rw [h old hold (hold'.trans hid)] at hstate
    cases hstate

/-- The rows of the request that are changed are left without an answer. -/
theorem update {p : Notification → Bool} {f : Notification → Notification} (hf : ∀ n, (f n).requestId = n.requestId)
    (h : s.Unanswered requestId)
    (hstate : ∀ row ∈ s.notifications, p row = true → row.requestId = requestId → (f row).state.answered = false) :
    Unanswered { s with notifications := s.notifications.update p f hf } requestId := by
  intro row hrow hid
  obtain ⟨old, hold, rfl⟩ := (Table.mem_update hf).1 hrow
  by_cases hp : p old = true
  · rw [if_pos hp] at hid ⊢
    exact hstate old hold hp ((hf old).symm.trans hid)
  · rw [if_neg hp] at hid ⊢
    exact h old hold hid

theorem run {c : Change P} (h : s.Unanswered requestId) (hc : c.Spares env requestId s) (hs : c.run s = some s') :
    s'.Unanswered requestId := by
  obtain ⟨s₁, hs₁, rfl⟩ := Change.run_eq hs
  show s₁.Unanswered requestId
  cases c with
  | saved | restarted =>
    cases hs₁
    exact h
  | stated st => exact h.statement hs₁
  | announced t row => exact h.statement hs₁
  | unaddressed id => exact h.statement hs₁
  | completed id n => exact h.statement hs₁
  | verified account => exact h.statement hs₁
  | deletedHere t => exact h.delete hs₁
  | processed o branch =>
    obtain ⟨s₂, hs₂, rfl⟩ := Option.map_eq_some_iff.1 hs₁
    show s₂.Unanswered requestId
    cases branch with
    | control | suppressed =>
      cases hs₂
      exact h
    | received => exact h.statement hs₂
    | quarantined n =>
      have hs₂ : (s.statement (.received (o.message o.stored.senderAccountId true))).map (fun s' => s'.note n) =
        some s₂ := hs₂
      obtain ⟨s₃, hs₃, rfl⟩ := Option.map_eq_some_iff.1 hs₂
      obtain ⟨tables, -, rfl⟩ := Ledger.statement_eq hs₃
      exact h.keeps (hc.elim False.elim fun hof => hof.2)
    | deleted => exact h.delete hs₂
  | noted n =>
    cases hs₁
    exact h.keeps (hc.elim id False.elim)
  | answered n | answeredBy o n =>
    cases hs₁
    have hother : n.requestId ≠ requestId := hc.elim False.elim id
    exact h.note fun hid => absurd hid hother
  | marked id state read now =>
    cases hs₁
    have hstate : state.answered = false := hc.elim (fun h => h) False.elim
    exact h.update (Store.state_requestId state read now) fun _ _ _ _ => hstate
  | dismissed n now =>
    cases hs₁
    have hstate : ∀ row ∈ s.notifications, row.id = n.id → row.requestId = requestId → n.state.answered = false :=
      hc.elim False.elim fun h => h
    exact h.update (Store.state_requestId n.state true now) fun row hrow hmatch =>
      hstate row hrow (of_decide_eq_true hmatch)
  | seen id now =>
    cases hs₁
    exact h.update (Store.read_requestId now) fun row hrow _ => h row hrow
  | unnoted id =>
    cases hs₁
    exact h.of_subset fun n hn => (Table.mem_delete.1 hn).1

end Ledger.Unanswered

/-! ## The stages of an action -/

/-- The user accepts or rejects a request. -/
def Action.Answers (action : Action) : Prop :=
  action = .activateSelectedNotification ∨ action = .activateNotificationPrimary ∨ action = .rejectSelectedChatRequest

/-- The response decides on a request of its own sender. -/
def Opened.AnswersOwn (o : Opened P) (r : Notification) : Prop :=
  o.senderIsSelf = false ∧ o.payload.kind = "chat_response" ∧
    (o.payload.text = "accepted" ∨ o.payload.text = "rejected") ∧
    o.payload.relatedMessageId = some r.requestId ∧ r.actorAccountId = o.stored.senderAccountId

/-- No peer decides on a request of its own, and no notification that is shown as answered is dismissed while its row
still waits. -/
structure Stage.Sincere (env : Environment) (stage : Stage P) : Prop where
  responses : ∀ o, stage.opened env = some o → ∀ r ∈ stage.before.store.notifications, r.awaits = true →
    ¬o.AnswersOwn r
  dismissed : ∀ n, stage.cause = .action .dismissSelectedNotification →
    stage.before.app.selectedNotification = some n →
      ∀ r ∈ stage.before.store.notifications, r.awaits = true → r.id = n.id → n.state.answered = false

section

variable {action : Action} {stage : Stage P}

/-- A stage that is no answer to a request does not answer it. -/
theorem Stage.Of.spares (hof : stage.Of env action) (requestId : String)
    (hresponse : ∀ o, stage.opened env = some o → ∀ past n, o.Answering (stage.before.ledger past) n →
      n.requestId ≠ requestId)
    (haction : ∀ a, stage.cause = .action a → ¬a.Answers)
    (hdismissed : ∀ n, stage.cause = .action .dismissSelectedNotification →
      stage.before.app.selectedNotification = some n →
        ∀ r ∈ stage.before.store.notifications, r.id = n.id → r.requestId = requestId → n.state.answered = false) :
    Changes (Change.Spares env requestId) stage.before stage.after := by
  cases hof with
  | opening _ w => exact openBatch_alters _ _ w
  | closing _ statusCursor cursor w => exact finishBatch_alters _ _ _ w
  | envelope _ _ w =>
    refine Prog.wp_state.1 (wp_handleEnvelope (wp.trivial.exec.mono (fun o w' h => ?_) fun _ _ _ => trivial))
    obtain ⟨-, hexec⟩ := h
    refine ⟨fun s branch hbranch => .inr hbranch, fun past n hn => .inr (hresponse o ?_ past n hn)⟩
    show ((openEnvelope env _).exec w).1.toOption = some o
    rw [hexec]
    rfl
  | whole hsync w =>
    have hnot : ¬action.Answers := haction action rfl
    by_cases hdismiss : action = .dismissSelectedNotification
    · subst hdismiss
      exact Prog.wp_state.1 (wp_dismissSelectedNotification fun n hn now past => .inr (hdismissed n rfl hn))
    · refine Changes.mono (fun s c hc => ?_) (runAction_alters action w)
      rcases hc with hbasic | hc
      · exact .inl hbasic
      · refine .inr ?_
        cases c with
        | completed | deletedHere | verified => trivial
        | processed o branch => exact hc.2
        | answered n => exact absurd hc hnot
        | answeredBy o n =>
          obtain ⟨⟨-, f, batch, rfl, hbody, -⟩, -⟩ := hc
          rw [Action.syncFrame_of hbody] at hsync
          cases hsync
        | dismissed n now => exact absurd hc hdismiss
        | _ => exact hc

end

/-! ## The runs of a client -/

/-- In every run, at every stage of what is done: where no peer responds to its own request, one that waits is
answered by the response of an own device, or by the user. -/
theorem requests_answered_by_recipient {profile : RuntimeProfile P} {w : World P} {action : Action} {stage : Stage P}
    {request answer : Notification} (hw : (clientSystem env profile).Reachable w) (hstage : stage ∈ stages env action w)
    (hsincere : stage.Sincere env) (hrequest : request ∈ stage.before.store.notifications)
    (hawaits : request.awaits = true) (hanswer : answer ∈ stage.after.store.notifications)
    (hid : answer.requestId = request.requestId) (hanswered : answer.state.answered = true) :
    (∃ stored o, stage.cause = .envelope stored ∧ stored.senderAccountId = profile.accountId ∧
        stage.opened env = some o ∧ o.payload.kind = "chat_response" ∧
        o.payload.relatedMessageId = some request.requestId) ∨
      ∃ a : Action, stage.cause = .action a ∧ a.Answers := by
  obtain ⟨past, hpast⟩ := ledger_reachable hw
  have hkeeps : ∀ stage : Stage P, stage.Of env action →
      (∃ past, (ledgerSystem env profile.owner).Reachable (stage.before.ledger past)) →
        ∃ past, (ledgerSystem env profile.owner).Reachable (stage.after.ledger past) := by
    intro stage hof h
    obtain ⟨past, h⟩ := h
    exact hof.changes.reachable h
  obtain ⟨hof, past, hledger⟩ := stages_invariant
    (I := fun w => ∃ past, (ledgerSystem env profile.owner).Reachable (w.ledger past)) ⟨past, hpast⟩ hkeeps stage hstage
  have hself : stage.before.app.profile.accountId = profile.accountId :=
    congrArg Owner.accountId (ledger_owner hledger).1
  by_contra hneither
  rw [not_or] at hneither
  obtain ⟨hnoResponse, hnoAction⟩ := hneither
  have hspares := hof.spares request.requestId (fun o ho past n hn hid => ?_)
    (fun a ha hanswers => hnoAction ⟨a, ha, hanswers⟩) fun n hcause hn r hr hrow hr' => ?_
  · have hone : (stage.before.ledger []).Unanswered request.requestId := by
      intro n hn hsame
      obtain rfl : n = request := Table.eq_of_mem hn hrequest hsame
      exact Notification.awaits_answered hawaits
    obtain ⟨past', hafter⟩ := hspares.invariant (I := fun s => s.Unanswered request.requestId) []
      hone fun s c s' hs hc hrun => hs.run hc hrun
    rw [hafter answer hanswer hid] at hanswered
    cases hanswered
  · cases hcause : stage.cause with
    | action a =>
      unfold Stage.opened at ho
      rw [hcause] at ho
      cases ho
    | envelope stored =>
      have hsender : o.senderIsSelf = decide (stored.senderAccountId = stage.before.app.profile.accountId) := by
        unfold Stage.opened at ho
        rw [hcause] at ho
        exact opened_self ho
      have hrelated : o.payload.relatedMessageId = some request.requestId := hid ▸ hn.related
      cases hown : o.senderIsSelf with
      | false =>
        have hactor : n.actorAccountId = o.stored.senderAccountId := by
          have hmatches := hn.actor
          rw [hown] at hmatches
          exact of_decide_eq_true hmatches
        have hrow : request.actorAccountId = n.actorAccountId := hn.row request hrequest hid.symm
        exact hsincere.responses o ho request hrequest hawaits
          ⟨hown, hn.kind, hn.decision, hrelated, hrow.trans hactor⟩
      | true =>
        rw [hown, hself] at hsender
        exact hnoResponse ⟨stored, o, hcause, of_decide_eq_true hsender.symm, ho, hn.kind, hrelated⟩
  · obtain rfl : r = request := Table.eq_of_mem hr hrequest hr'
    exact hsincere.dismissed n hcause hn r hr hawaits hrow

namespace Scenario.Answers

def alice : RuntimeProfile primitives := firstDevice "alice" "a1" 1 2

def asked : WirePayload := payload "chat_request" "r" "bob" "alice" "" []

/-- The answer to the request, in the words of an account. -/
def accepted (sender peer : String) : WirePayload :=
  { payload "chat_response" "s" sender peer "accepted" [] with relatedMessageId := some "r" }

/-- Alice has two devices. -/
def outside : Environment :=
  environment (fun _ => [bundle "alice" 1 [("a1", 2), ("a2", 3)], bundle "bob" 5 [("b1", 6)]])
    [asked, accepted "bob" "alice", accepted "alice" "bob"]

/-- Bob asks for a conversation. -/
def waiting : World primitives :=
  (World.ofProfile alice).after outside (.serverEvent (batch [envelope 1 "b1" "c" 6 "a1" asked]))

/-- Bob answers. -/
def byBob : Action := .serverEvent (batch [envelope 2 "b1" "c" 6 "a1" (accepted "bob" "alice")])

/-- Alice answers on her other device. -/
def byAlice : Action := .serverEvent (batch [envelope 2 "a2" "c" 3 "a1" (accepted "alice" "bob")])

/-- The stage of the envelope. -/
def responding (action : Action) : Option (Stage primitives) := ((stages outside action waiting).drop 1).head?

theorem responding_mem {action : Action} {stage : Stage primitives} (h : responding action = some stage) :
    stage ∈ stages outside action waiting := List.mem_of_mem_drop (List.mem_of_head? h)

/-- The request of Bob waits before the stage, and has an answer after it. -/
def answersRequest (stage : Stage primitives) : Bool :=
  (stage.before.store.notifications.find "r").any Notification.awaits &&
    (stage.after.store.notifications.find "r").any fun n => n.state.answered

/-- Bob's response to his own request is taken for Alice's. -/
theorem request_answered_by_peer :
    (clientSystem outside alice).Reachable waiting ∧ ∃ stage ∈ stages outside byBob waiting,
      stage.sender = some "bob" ∧ answersRequest stage = true := by
  refine ⟨reachable_ofProfile _ _ [_], ?_⟩
  have h : (responding byBob).any (fun stage => stage.sender = some "bob" && answersRequest stage) = true := by
    decide +kernel
  obtain ⟨stage, hstage, hboth⟩ := (Option.any_eq_true _ _).1 h
  obtain ⟨hsender, hanswers⟩ := Bool.and_eq_true_iff.1 hboth
  exact ⟨stage, responding_mem hstage, of_decide_eq_true hsender, hanswers⟩

/-- The response of Alice's other device. -/
theorem request_answered_by_alice : ∃ stage ∈ stages outside byAlice waiting, answersRequest stage = true ∧
    ((∃ stored o, stage.cause = .envelope stored ∧ stored.senderAccountId = "alice" ∧
        stage.opened outside = some o ∧ o.payload.kind = "chat_response" ∧ o.payload.relatedMessageId = some "r") ∨
      ∃ a : Action, stage.cause = .action a ∧ a.Answers) := by
  have h : (responding byAlice).any (fun stage => (stage.sender = some "alice" && answersRequest stage) &&
      (stage.opened outside).all Opened.senderIsSelf) = true := by
    decide +kernel
  obtain ⟨stage, hstage, hboth⟩ := (Option.any_eq_true _ _).1 h
  obtain ⟨hboth, hself⟩ := Bool.and_eq_true_iff.1 hboth
  obtain ⟨hsender, hanswers⟩ := Bool.and_eq_true_iff.1 hboth
  obtain ⟨hbefore, hafter⟩ := Bool.and_eq_true_iff.1 hanswers
  obtain ⟨request, hrequest, hawaits⟩ := (Option.any_eq_true _ _).1 hbefore
  obtain ⟨answer, hanswer, hanswered⟩ := (Option.any_eq_true _ _).1 hafter
  have hsincere : stage.Sincere outside := by
    constructor
    · intro o ho r _ _ hanswers
      rw [ho] at hself
      have hown : o.senderIsSelf = true := hself
      rw [hanswers.1] at hown
      cases hown
    · intro n hcause
      have hnone : stage.sender = none := by
        unfold Stage.sender
        rw [hcause]
      rw [hnone] at hsender
      cases of_decide_eq_true hsender
  have hreachable : (clientSystem outside alice).Reachable waiting := reachable_ofProfile _ _ [_]
  have hid : request.requestId = "r" := Table.key_of_find hrequest
  refine ⟨stage, responding_mem hstage, hanswers, ?_⟩
  have hanswer' : answer.requestId = request.requestId := (Table.key_of_find hanswer).trans hid.symm
  rw [← hid]
  exact requests_answered_by_recipient hreachable (responding_mem hstage) hsincere (Table.mem_of_find hrequest) hawaits
    (Table.mem_of_find hanswer) hanswer' hanswered

end Scenario.Answers

end TuiChat
