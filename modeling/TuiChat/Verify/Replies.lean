import TuiChat.Server.Replies
import TuiChat.Verify.Revocation
import Mathlib.Data.List.Forall2

/-!
# Requests and their answers

A client tells answers apart by their ids. In every run of the server, the answers that a connection was handed reply to
a part of the frames that it sent, in their order: none is answered twice, none before an earlier one that is answered
at all, and none of the requests of another connection. What else it was handed are pushes, and errors to frames that
it sent (`requests_answered_in_order`).
-/

namespace TuiChat

open Lib
open Lib.Proc (All Once)

/-! ## Frames -/

def Frame.isError (f : Frame) : Bool :=
  match f.body with
  | some (.error _) => true
  | _ => false

/-- The frame has the id of a request, and is no error. -/
def Frame.isAnswer (f : Frame) : Bool := f.id ≠ "" && !f.isError

/-- The answers that connection `i` was handed, newest first. -/
def AppState.answersTo (s : AppState) (i : Nat) : List Frame :=
  (s.out.reverse.filter fun e => e.1 = i && e.2.isAnswer).map Prod.snd

/-- Why a connection that received the frames is handed one. -/
inductive Frame.Accounted (received : List Frame) (f : Frame) : Prop
  | push (id : f.id = "") (push : f.body.any Body.isPush = true)
  | notice (id : f.id = "") (refuses : f.Refuses)
  | refusal {g : Frame} (mem : g ∈ received) (id : f.id = g.id) (error : f.isError = true)
  | answer {g : Frame} (mem : g ∈ received) (replies : f.Replies g)

theorem Frame.Accounted.mono {received received' : List Frame} {f : Frame} (h : f.Accounted received)
    (hsub : received ⊆ received') : f.Accounted received' := by
  cases h with
  | push id push => exact .push id push
  | notice id refuses => exact .notice id refuses
  | refusal mem id error => exact .refusal (hsub mem) id error
  | answer mem replies => exact .answer (hsub mem) replies

variable {env : ServerEnvironment} {P : Primitives} {i j : Nat} {s s' : AppState} {e : Nat × Frame} {id : String}

theorem AppState.answersTo_of_out (h : s'.out = s.out) : s'.answersTo i = s.answersTo i := by
  unfold AppState.answersTo
  rw [h]

theorem AppState.answersTo_append (h : s'.out = s.out ++ [e]) : s'.answersTo i =
    if e.1 = i ∧ e.2.isAnswer = true then e.2 :: s.answersTo i else s.answersTo i := by
  unfold AppState.answersTo
  rw [h, List.reverse_append, List.reverse_singleton, List.singleton_append, List.filter_cons]
  split
  · next hc => simp_all
  · next hc => simp_all

theorem Unasked.not_isAnswer (h : Unasked i id e) : e.2.isAnswer = false := by
  cases h <;> simp [Frame.isAnswer, Frame.isError, frame]

/-- What a program hands to connections other than its own are pushes. -/
theorem Unasked.push_of_ne (h : Unasked j id e) (hne : e.1 ≠ j) : ∃ body : Body, body.isPush = true ∧ e.2 = frame "" body := by
  cases h with
  | push push => exact ⟨_, push, rfl⟩
  | pong | notice | refusal => exact absurd rfl hne

theorem Unasked.accounted {received : List Frame} (h : Unasked j id e)
    (mine : id = "" ∨ ∃ g ∈ received, g.id = id) : e.2.Accounted received := by
  cases h with
  | push push => exact .push rfl push
  | pong => exact .notice rfl ⟨_, rfl, .inr ⟨_, rfl⟩⟩
  | notice => exact .notice rfl ⟨_, rfl, .inl ⟨_, rfl⟩⟩
  | refusal =>
    rcases mine with rfl | ⟨g, hg, rfl⟩
    · exact .notice rfl ⟨_, rfl, .inl ⟨_, rfl⟩⟩
    · exact .refusal hg rfl rfl

/-! ## Stages -/

/-- The answers handed to connection `i` reply to a part of the frames, in order. -/
def AppState.Answered (s : AppState) (i : Nat) (received : List Frame) : Prop :=
  List.SublistForall₂ Frame.Replies (s.answersTo i) received

/-- How far the task of connection `i` is with the frame that it received last. -/
inductive ReplyStage (i : Nat) (s : AppState) (c : Connection) (m : ServerM Unit) : Prop
  /-- The frame is to be received. -/
  | starting {incoming : Frame} {rest : ServerM Unit} (task : m = (Ws.record (.received incoming) >>= fun _ => rest))
    (replying : Ws.Replying i incoming rest) (answered : s.Answered i c.requests)
  /-- It may be answered. -/
  | asked {incoming : Frame} {earlier : List Frame} (received : c.requests = incoming :: earlier)
    (replying : Ws.Replying i incoming m) (answered : s.Answered i earlier)
  /-- It will not be answered, or was. -/
  | quiet {id : String} (mine : id = "" ∨ ∃ g ∈ c.requests, g.id = id) (quiet : All (Ws.Hands (Unasked i id)) m)
    (answered : s.Answered i c.requests)

theorem ReplyStage.answered {c : Connection} {m : ServerM Unit} (h : ReplyStage i s c m) : s.Answered i c.requests := by
  cases h with
  | starting task replying answered => exact answered
  | asked received replying answered =>
    rw [received]
    exact .cons_right answered
  | quiet mine quiet answered => exact answered

structure RepliesStand (i : Nat) (s : AppState) (c : Connection) (task : Option (ServerM Unit)) : Prop where
  accounted : ∀ f, (i, f) ∈ s.out → f.Accounted c.requests
  answered : task = none → s.Answered i c.requests
  stage : ∀ m, task = some m → ReplyStage i s c m

/-- What an action of program `j` leaves to the others: a push at most. -/
def Pushes (j : Nat) (s s' : AppState) : Prop :=
  s'.out = s.out ∨ ∃ e, (e.1 = j ∨ ∃ body : Body, body.isPush = true ∧ e.2 = frame "" body) ∧ s'.out = s.out ++ [e]

theorem Ws.Hands.pushes {w w' : ServerWorld} {K : Nat × Frame → Prop} (h : Ws.Hands K w w')
    (hK : ∀ e, K e → e.1 ≠ j → ∃ body : Body, body.isPush = true ∧ e.2 = frame "" body) : Pushes j w.1 w'.1 := by
  refine h.out.imp_right ?_
  rintro ⟨e, he, hout⟩
  exact ⟨e, or_iff_not_imp_left.2 (hK e he), hout⟩

theorem Pushes.stands {c : Connection} {task : Option (ServerM Unit)} (h : Pushes j s s') (hj : i ≠ j)
    (hs : RepliesStand i s c task) : RepliesStand i s' c task := by
  have hanswers : s'.answersTo i = s.answersTo i := by
    rcases h with hout | ⟨e, he, hout⟩
    · exact AppState.answersTo_of_out hout
    · rw [AppState.answersTo_append hout, if_neg]
      rintro ⟨rfl, hanswer⟩
      rcases he with rfl | ⟨body, -, he⟩
      · exact hj rfl
      · simp [he, Frame.isAnswer, frame] at hanswer
  have hanswered : ∀ {received}, s.Answered i received → s'.Answered i received := by
    intro received h
    unfold AppState.Answered
    rwa [hanswers]
  refine ⟨fun f hf => ?_, fun htask => hanswered (hs.answered htask), fun m hm => ?_⟩
  · rcases h with hout | ⟨e, he, hout⟩
    · exact hs.accounted f (hout ▸ hf)
    · rw [hout, List.mem_append, List.mem_singleton] at hf
      rcases hf with hf | rfl
      · exact hs.accounted f hf
      · rcases he with rfl | ⟨body, hpush, rfl⟩
        · exact absurd rfl hj
        · exact .push rfl hpush
  · cases hs.stage m hm with
    | starting task replying answered => exact .starting task replying (hanswered answered)
    | asked received replying answered => exact .asked received replying (hanswered answered)
    | quiet mine quiet answered => exact .quiet mine quiet (hanswered answered)

/-- A quiet action of the connection's own. -/
theorem Ws.Hands.replies_quiet {w w' : ServerWorld} (h : Ws.Hands (Unasked i id) w w')
    (mine : id = "" ∨ ∃ g ∈ w.2.requests, g.id = id)
    (accounted : ∀ f, (i, f) ∈ w.1.out → f.Accounted w.2.requests) :
    w'.1.answersTo i = w.1.answersTo i ∧ ∀ f, (i, f) ∈ w'.1.out → f.Accounted w'.2.requests := by
  rw [h.requests]
  rcases h.out with hout | ⟨e, he, hout⟩
  · exact ⟨AppState.answersTo_of_out hout, fun f hf => accounted f (hout ▸ hf)⟩
  · refine ⟨?_, fun f hf => ?_⟩
    · rw [AppState.answersTo_append hout, if_neg]
      rw [he.not_isAnswer]
      simp
    · rw [hout, List.mem_append, List.mem_singleton] at hf
      rcases hf with hf | rfl
      · exact accounted f hf
      · exact he.accounted mine

/-- The answer to the frame that the connection received last. -/
theorem Ws.Hands.replies_answer {w w' : ServerWorld} {incoming : Frame} {earlier : List Frame}
    (h : Ws.Hands (fun e => e.1 = i ∧ e.2.Replies incoming) w w') (received : w.2.requests = incoming :: earlier)
    (answered : w.1.Answered i earlier) (accounted : ∀ f, (i, f) ∈ w.1.out → f.Accounted w.2.requests) :
    w'.1.Answered i w'.2.requests ∧ ∀ f, (i, f) ∈ w'.1.out → f.Accounted w'.2.requests := by
  rw [h.requests, received] at *
  rcases h.out with hout | ⟨e, ⟨-, hreplies⟩, hout⟩
  · refine ⟨?_, fun f hf => accounted f (hout ▸ hf)⟩
    unfold AppState.Answered
    rw [AppState.answersTo_of_out hout]
    exact .cons_right answered
  · refine ⟨?_, fun f hf => ?_⟩
    · unfold AppState.Answered
      rw [AppState.answersTo_append hout]
      split
      · exact .cons hreplies answered
      · exact .cons_right answered
    · rw [hout, List.mem_append, List.mem_singleton] at hf
      rcases hf with hf | rfl
      · exact accounted f hf
      · exact .answer List.mem_cons_self hreplies

/-- The next action of the connection's own program. -/
theorem ReplyStage.act {w : ServerWorld} {f : ServerWorld → ServerWorld} {k : ServerWorld → ServerM Unit}
    (h : ReplyStage i w.1 w.2 (.act f k)) (accounted : ∀ f, (i, f) ∈ w.1.out → f.Accounted w.2.requests) :
    ReplyStage i (f w).1 (f w).2 (k w) ∧ (∀ g, (i, g) ∈ (f w).1.out → g.Accounted (f w).2.requests) ∧
      Pushes i w.1 (f w).1 := by
  cases h with
  | @starting incoming rest task replying answered =>
    obtain ⟨rfl, rfl⟩ := Proc.act.inj task
    exact ⟨.asked rfl replying answered, fun g hg => (accounted g hg).mono (List.subset_cons_self _ _), .inl rfl⟩
  | @asked incoming earlier received replying answered =>
    rcases replying.act w with ⟨hact, hrest⟩ | ⟨hact, hrest⟩
    · obtain ⟨hanswers, haccounted⟩ :=
        hact.replies_quiet (.inr ⟨incoming, by rw [received]; exact List.mem_cons_self, rfl⟩) accounted
      refine ⟨.asked (hact.requests.trans received) hrest ?_, haccounted, hact.pushes fun _ => Unasked.push_of_ne⟩
      unfold AppState.Answered
      rwa [hanswers]
    · obtain ⟨hanswered, haccounted⟩ := hact.replies_answer received answered accounted
      have hmine : incoming ∈ (f w).2.requests := by
        rw [hact.requests, received]
        exact List.mem_cons_self
      exact ⟨.quiet (.inr ⟨incoming, hmine, rfl⟩) hrest hanswered, haccounted,
        hact.pushes fun _ he hne => absurd he.1 hne⟩
  | quiet mine quiet answered =>
    obtain ⟨hact, hrest⟩ := (Proc.all_act f k).1 quiet w
    obtain ⟨hanswers, haccounted⟩ := hact.replies_quiet mine accounted
    refine ⟨.quiet (hact.requests ▸ mine) hrest ?_, haccounted, hact.pushes fun _ => Unasked.push_of_ne⟩
    unfold AppState.Answered
    rw [hanswers, hact.requests]
    exact answered

/-- A program that starts. -/
theorem ReplyStage.serve {c : Connection} (h : s.Answered i c.requests) (m : Ws.Incoming) :
    ReplyStage i s c (Ws.serve env P i m) := by
  rcases @Ws.hands_serve env P i m with ⟨incoming, -, heq⟩ | hquiet
  · obtain ⟨rest, hrest, replying⟩ := @Ws.serveFrame_eq env P i incoming
    exact .starting (heq.trans hrest) replying h
  · exact .quiet (.inl rfl) hquiet h

/-! ## Runs -/

namespace Cluster

variable {p p' : Cluster}

/-- Every connection's requests are answered in order. -/
def InOrder (p : Cluster) : Prop := ∀ i, RepliesStand i p.shared (p.locals i) (p.tasks i)

theorem replies_start {task : Option (ServerM Unit)} {c : Connection} {m : ServerM Unit} (h : RepliesStand i s c task)
    (hm : ReplyStage i s c m) : RepliesStand i s c (some m) :=
  ⟨h.accounted, fun hnone => (nomatch hnone), fun m' hm' => by
    cases hm'
    exact hm⟩

/-- A connection's own next action. -/
theorem InOrder.advance_self (h : p.InOrder) (i : Nat) :
    RepliesStand i (p.advance i).shared ((p.advance i).locals i) ((p.advance i).tasks i) ∧
      Pushes i p.shared (p.advance i).shared := by
  have hi := h i
  cases htask : p.tasks i with
  | none =>
    rw [Pool.advance_of_none htask]
    exact ⟨hi, .inl rfl⟩
  | some m =>
    have hstage := hi.stage m htask
    cases m with
    | done r =>
      rw [Pool.advance_of_done htask]
      refine ⟨⟨hi.accounted, fun _ => hstage.answered, fun m hm => ?_⟩, .inl rfl⟩
      dsimp only at hm
      rw [Function.update_self] at hm
      cases hm
    | act f k =>
      obtain ⟨hworld, hrest⟩ := Pool.advance_of_act htask
      obtain ⟨hnext, haccounted, hpushes⟩ := ReplyStage.act (w := p.world i) hstage hi.accounted
      obtain ⟨hshared, hlocal⟩ : (p.advance i).shared = (f (p.world i)).1 ∧
          (p.advance i).locals i = (f (p.world i)).2 := Prod.mk.inj hworld
      rw [hshared, hlocal, hrest]
      exact ⟨⟨haccounted, fun hnone => (nomatch hnone), fun m hm => by cases hm; exact hnext⟩, hpushes⟩

theorem InOrder.step (h : p.InOrder) {l : Label} (hs : Cluster.step env P p l = some p') : p'.InOrder := by
  have hstart : ∀ {j : Nat} {m : ServerM Unit}, ReplyStage j p.shared (p.locals j) m → InOrder (p.start j m) := by
    intro j m hm i
    by_cases hi : i = j
    · subst hi
      rw [show (p.start i m).tasks i = some m from Function.update_self ..]
      exact replies_start (h i) hm
    · rw [show (p.start j m).tasks i = p.tasks i from Function.update_of_ne hi ..]
      exact h i
  cases l with
  | incoming j m =>
    obtain ⟨hwaits, hp'⟩ := Option.ite_none_right_eq_some.1 hs
    cases hp'
    have hidle : (p.tasks j).isNone = true := by cases m <;> exact hwaits.1
    exact hstart (.serve ((h j).answered (Option.isNone_iff_eq_none.1 hidle)) m)
  | command j c =>
    obtain ⟨hidle, hp'⟩ := Option.ite_none_right_eq_some.1 hs
    cases hp'
    exact hstart (.quiet (.inl rfl) (Admin.hands_runCommand c) ((h j).answered (Option.isNone_iff_eq_none.1 hidle)))
  | advance j =>
    obtain ⟨-, hp'⟩ := Option.ite_none_right_eq_some.1 hs
    cases hp'
    intro i
    by_cases hi : i = j
    · subst hi
      exact (h.advance_self i).1
    · obtain ⟨htask, hlocal⟩ := Pool.advance_of_ne (p := p) hi
      rw [htask, hlocal]
      exact (h.advance_self j).2.stands hi (h i)
  | crash =>
    cases hs
    intro i
    refine ⟨(h i).accounted, fun _ => ?_, fun _ hm => (nomatch hm)⟩
    show p.shared.Answered i (p.locals i).requests
    cases htask : p.tasks i with
    | none => exact (h i).answered htask
    | some m => exact ((h i).stage m htask).answered

end Cluster

/-- In every run, the answers that a connection was handed reply to a part of the frames that it received, in their
order, and each frame that it was handed is accounted for. -/
theorem requests_answered_in_order {p : Cluster} (h : (serverSystem env P).Reachable p) (i : Nat) :
    List.SublistForall₂ Frame.Replies (p.shared.answersTo i) (p.locals i).requests ∧
      ∀ f, (i, f) ∈ p.shared.out → f.Accounted (p.locals i).requests := by
  have hall : p.InOrder := h.invariant
    (fun _ hp i => by
      subst hp
      exact ⟨fun _ hf => (nomatch hf), fun _ => .nil, fun _ hm => (nomatch hm)⟩)
    fun _ _ _ hp _ hs => hp.step hs
  refine ⟨?_, (hall i).accounted⟩
  cases htask : p.tasks i with
  | none => exact (hall i).answered htask
  | some m => exact ((hall i).stage m htask).answered

namespace Scenario

/-- The hello, the password and the submission of Alice's first device were answered. -/
theorem first_device_answered :
    ((clusterAfter (firstDeviceOf 0 "alice" (uuid '1') 'a' 1 2)).shared.answersTo 0).length = 3 ∧
      List.SublistForall₂ Frame.Replies
        ((clusterAfter (firstDeviceOf 0 "alice" (uuid '1') 'a' 1 2)).shared.answersTo 0)
        ((clusterAfter (firstDeviceOf 0 "alice" (uuid '1') 'a' 1 2)).locals 0).requests ∧
      ∀ f, (0, f) ∈ (clusterAfter (firstDeviceOf 0 "alice" (uuid '1') 'a' 1 2)).shared.out →
        f.Accounted ((clusterAfter (firstDeviceOf 0 "alice" (uuid '1') 'a' 1 2)).locals 0).requests :=
  ⟨by decide +kernel, requests_answered_in_order (clusterAfter_reachable _) 0⟩

end Scenario

end TuiChat
