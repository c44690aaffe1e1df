import TuiChat.System.Handshake
import TuiChat.Verify.PreKeys
import TuiChat.Verify.Registration
import Mathlib.Logic.Relation

/-!
# Events that are pushed during the handshake

What the server pushes after `Authenticated` reaches the event loop, in its order, if no request that the
client makes before `start` has to read past it (`pushes_delivered`). A request for new one-time keys or for
another password does: what was pushed in between is gone (`Scenario.Replenished.pairing_request_lost`).
-/

namespace TuiChat

open Lib

variable {env : ServerEnvironment} {P : Primitives} {token : Nat}

/-! ## What the server sends stays sent -/

theorem ServerStep.out {i : Nat} {w w' : ServerWorld} (h : ServerStep env P i w w') : w.1.out <+: w'.1.out := by
  cases h with
  | sent t f => exact List.prefix_append _ _
  | _ => exact List.prefix_rfl

theorem Cluster.step_out {p p' : Cluster} {l : Cluster.Label} (hp : p.Serving env P)
    (hs : Cluster.step env P p l = some p') : p.shared.out <+: p'.shared.out := by
  rcases (hp.step hs).2 with ⟨hshared, -⟩ | ⟨i, hstep, -⟩ | hcrashed
  · exact hshared ▸ List.prefix_rfl
  · exact hstep.out
  · rw [hcrashed]
    exact List.prefix_rfl

theorem pushesAfter_append_of_push {fs : List Frame} {f : Frame} (h : ∃ g ∈ fs, g.isAuthenticated = true)
    (hf : f.isPush = true) : pushesAfter (fs ++ [f]) = pushesAfter fs ++ [f] := by
  induction fs with
  | nil => simp at h
  | cons g fs ih =>
    simp only [List.cons_append, pushesAfter]
    split
    · rw [List.filter_append, List.filter_cons_of_pos hf, List.filter_nil]
    · next hg =>
      obtain ⟨g', hg', hauth⟩ := h
      rcases List.mem_cons.1 hg' with rfl | hg'
      · exact absurd hauth hg
      · exact ih ⟨g', hg', hauth⟩

theorem pushesAfter_append_of_not {fs : List Frame} {f : Frame}
    (h : f.isPush = true → ¬ ∃ g ∈ fs, g.isAuthenticated = true) : pushesAfter (fs ++ [f]) = pushesAfter fs := by
  induction fs with
  | nil =>
    simp only [List.nil_append, pushesAfter]
    split <;> rfl
  | cons g fs ih =>
    simp only [List.cons_append, pushesAfter]
    split
    · next hg =>
      have hf : ¬ f.isPush = true := fun hf => h hf ⟨g, List.mem_cons_self, hg⟩
      rw [List.filter_append, List.filter_cons_of_neg hf, List.filter_nil, List.append_nil]
    · exact ih fun hf ⟨g', hg', hauth⟩ => h hf ⟨g', List.mem_cons_of_mem _ hg', hauth⟩

theorem pushesAfter_of_none {fs : List Frame} (h : ¬ ∃ g ∈ fs, g.isAuthenticated = true) : pushesAfter fs = [] := by
  induction fs with
  | nil => rfl
  | cons g fs ih =>
    unfold pushesAfter
    rw [if_neg fun hg => h ⟨g, List.mem_cons_self, hg⟩]
    exact ih fun ⟨g', hg', hauth⟩ => h ⟨g', List.mem_cons_of_mem _ hg', hauth⟩

namespace Handshake

variable {h h' : Handshake}

/-- The loop of `request` takes no push after `Authenticated`. -/
def Unhurried (token : Nat) (h : Handshake) : Label → Prop
  | .read => ∀ f, (h.frames token)[h.read]? = some f → f.isPush = true →
      ¬ ∃ g ∈ h.taken token, g.isAuthenticated = true
  | _ => True

/-- Every push after `Authenticated` that the client has taken is in the event channel or handled, in its
order. -/
def Delivers (token : Nat) (h : Handshake) : Prop :=
  pushesAfter (h.taken token) = (h.handled ++ h.events).filter Frame.isPush

instance : Decidable (h.Delivers token) := by unfold Delivers; infer_instance

structure Accounted (env : ServerEnvironment) (P : Primitives) (token : Nat) (h : Handshake) : Prop where
  serving : h.server.Serving env P
  within : h.read ≤ (h.frames token).length
  delivers : h.phase ≠ .failed → h.Delivers token
  authenticated : h.phase = .started → ∃ g ∈ h.taken token, g.isAuthenticated = true

theorem taken_succ {f : Frame} (hf : (h.frames token)[h.read]? = some f) :
    (h.frames token).take (h.read + 1) = h.taken token ++ [f] := by
  unfold taken
  rw [List.take_add_one, hf]
  rfl

/-- The server goes on. -/
theorem Accounted.served (hh : h.Accounted env P token) {server : Cluster} {requests : List Frame}
    {l : Cluster.Label} (hs : Cluster.step env P h.server l = some server) :
    Accounted env P token { h with server, requests } := by
  obtain ⟨rest, hrest⟩ : h.frames token <+: ({ h with server, requests } : Handshake).frames token :=
    (Cluster.step_out hh.serving hs).filterMap _
  have htaken : ({ h with server, requests } : Handshake).taken token = h.taken token := by
    unfold taken
    rw [← hrest]
    exact List.take_append_of_le_length hh.within
  refine ⟨(hh.serving.step hs).1, ?_, fun hphase => ?_, fun hphase => ?_⟩
  · rw [← hrest, List.length_append]
    exact Nat.le_trans hh.within (Nat.le_add_right _ _)
  · unfold Delivers
    rw [htaken]
    exact hh.delivers hphase
  · rw [htaken]
    exact hh.authenticated hphase

theorem awaited_ne_started (id : String) (f : Frame) : awaited id f ≠ .started := by
  unfold awaited
  split
  · nofun
  · split
    · split <;> nofun
    · nofun

/-- The loop of `request` takes a frame that is no push, or one before `Authenticated`. -/
theorem Accounted.read (hh : h.Accounted env P token) {id : String} {f : Frame} (hphase : h.phase = .awaiting id)
    (hf : (h.frames token)[h.read]? = some f)
    (hpush : f.isPush = true → ¬ ∃ g ∈ h.taken token, g.isAuthenticated = true) :
    Accounted env P token { h with read := h.read + 1, phase := awaited id f } := by
  have hlive : h.phase ≠ .failed := by
    rw [hphase]
    nofun
  refine ⟨hh.serving, (List.getElem?_eq_some_iff.1 hf).1, fun _ => ?_, fun hs => absurd hs (awaited_ne_started id f)⟩
  show pushesAfter ((h.frames token).take (h.read + 1)) = _
  rw [taken_succ hf, pushesAfter_append_of_not hpush]
  exact hh.delivers hlive

/-- The reader takes a frame. -/
theorem Accounted.received (hh : h.Accounted env P token) {f : Frame} (hphase : h.phase = .started)
    (hf : (h.frames token)[h.read]? = some f) (hs : h.received f = some h') : h'.Accounted env P token := by
  have hdelivers : h.Delivers token := hh.delivers (by rw [hphase]; nofun)
  have hauth := hh.authenticated hphase
  have hauth' : ∃ g ∈ (h.frames token).take (h.read + 1), g.isAuthenticated = true := by
    obtain ⟨g, hg, hauth⟩ := hauth
    rw [taken_succ hf]
    exact ⟨g, List.mem_append_left _ hg, hauth⟩
  unfold Handshake.received at hs
  split at hs
  · next hwaiter =>
    cases hs
    refine ⟨hh.serving, (List.getElem?_eq_some_iff.1 hf).1, fun _ => ?_, fun _ => hauth'⟩
    have hpush : f.isPush = true → ¬ ∃ g ∈ h.taken token, g.isAuthenticated = true :=
      fun hpush => absurd (of_decide_eq_true hpush) hwaiter.1
    show pushesAfter ((h.frames token).take (h.read + 1)) = _
    rw [taken_succ hf, pushesAfter_append_of_not hpush]
    exact hdelivers
  · obtain ⟨-, hs⟩ := Option.ite_none_right_eq_some.1 hs
    cases hs
    refine ⟨hh.serving, (List.getElem?_eq_some_iff.1 hf).1, fun _ => ?_, fun _ => hauth'⟩
    show pushesAfter ((h.frames token).take (h.read + 1)) = (h.handled ++ (h.events ++ [f])).filter Frame.isPush
    rw [taken_succ hf, ← List.append_assoc, List.filter_append]
    by_cases hpush : f.isPush = true
    · rw [pushesAfter_append_of_push hauth hpush, List.filter_cons_of_pos hpush, List.filter_nil, hdelivers]
    · rw [pushesAfter_append_of_not (absurd · hpush), List.filter_cons_of_neg hpush, List.filter_nil,
        List.append_nil]
      exact hdelivers

theorem Accounted.step {l : Label} (hh : h.Accounted env P token) (guard : Unhurried token h l)
    (hs : step env P token h l = some h') : h'.Accounted env P token := by
  cases l with
  | server l =>
    have hserved : (Cluster.step env P h.server l).map (fun server => { h with server }) = some h' →
        h'.Accounted env P token := by
      intro hs
      obtain ⟨server, hserver, rfl⟩ := Option.map_eq_some_iff.1 hs
      exact hh.served hserver
    simp only [Handshake.step] at hs
    split at hs
    · split at hs
      · cases hs
      · exact hserved hs
    · exact hserved hs
  | arrives =>
    simp only [Handshake.step] at hs
    split at hs
    · cases hs
    · obtain ⟨server, hserver, rfl⟩ := Option.map_eq_some_iff.1 hs
      exact hh.served hserver
  | request id body =>
    obtain ⟨hphase, hs⟩ := Option.ite_none_right_eq_some.1 hs
    cases hs
    exact ⟨hh.serving, hh.within, fun _ => hh.delivers (by rw [hphase]; nofun), nofun⟩
  | read =>
    simp only [Handshake.step] at hs
    split at hs
    · next id f hphase hf =>
      cases hs
      exact hh.read hphase hf (guard f hf)
    · cases hs
  | start =>
    obtain ⟨⟨hphase, hauth⟩, hs⟩ := Option.ite_none_right_eq_some.1 hs
    cases hs
    exact ⟨hh.serving, hh.within, fun _ => hh.delivers (by rw [hphase]; nofun), fun _ => hauth⟩
  | rpc id body | send f =>
    obtain ⟨hphase, hs⟩ := Option.ite_none_right_eq_some.1 hs
    cases hs
    exact ⟨hh.serving, hh.within, hh.delivers, hh.authenticated⟩
  | expire id =>
    cases hs
    exact ⟨hh.serving, hh.within, hh.delivers, hh.authenticated⟩
  | receive =>
    simp only [Handshake.step] at hs
    split at hs
    · next f hphase hf => exact hh.received hphase hf hs
    · cases hs
  | handle =>
    simp only [Handshake.step] at hs
    split at hs
    · next f events hevents =>
      cases hs
      refine ⟨hh.serving, hh.within, fun hphase => ?_, hh.authenticated⟩
      have hdelivers := hh.delivers hphase
      unfold Delivers at hdelivers ⊢
      rw [hevents] at hdelivers
      rw [List.append_assoc]
      exact hdelivers
    · cases hs
  | fail =>
    cases hs
    exact ⟨hh.serving, hh.within, fun hphase => absurd rfl hphase, nofun⟩

theorem accounted (hr : (handshakeSystem env P token).ReachableUnder (Unhurried token) h) :
    h.Accounted env P token :=
  hr.invariant
    (fun _ hinit => by
      subst hinit
      exact ⟨Cluster.serving (.init rfl), Nat.zero_le _, fun _ => rfl, nofun⟩)
    fun _ _ _ hh guard hs => hh.step guard hs

/-! ## What is on the way is handled -/

/-- The reader and the event loop lead from one state to another. -/
def Drains (env : ServerEnvironment) (P : Primitives) (token : Nat) : Handshake → Handshake → Prop :=
  Relation.ReflTransGen fun h h' => step env P token h .receive = some h' ∨ step env P token h .handle = some h'

theorem Drains.accounted (hd : Drains env P token h h') (hh : h.Accounted env P token) :
    h'.Accounted env P token := by
  induction hd with
  | refl => exact hh
  | tail _ hs ih => exact hs.elim (ih.step trivial) (ih.step trivial)

/-- The event loop empties the channel. -/
theorem drains_events (h : Handshake) :
    Drains env P token h { h with events := [], handled := h.handled ++ h.events } := by
  generalize hevents : h.events = events
  induction events generalizing h with
  | nil =>
    rw [List.append_nil, ← hevents]
    exact .refl
  | cons f events ih =>
    let h₁ : Handshake := { h with events, handled := h.handled ++ [f] }
    have hstep : step env P token h .handle = some h₁ := by
      unfold step
      rw [hevents]
    have hrest := ih h₁ rfl
    rw [show h₁.handled ++ events = h.handled ++ f :: events by simp [h₁]] at hrest
    exact .head (.inr hstep) hrest

/-- The reader takes what the server has sent. -/
theorem drains_all (token : Nat) (n : Nat) (hphase : h.phase = .started) (hn : (h.frames token).length = h.read + n) :
    ∃ h', Drains env P token h h' ∧ h'.server = h.server ∧ h'.phase = .started ∧
      h'.read = (h.frames token).length ∧ h'.events = [] := by
  induction n generalizing h with
  | zero => exact ⟨_, drains_events h, rfl, hphase, hn.symm, rfl⟩
  | succ n ih =>
    let h₁ : Handshake := { h with events := [], handled := h.handled ++ h.events }
    obtain ⟨f, hf⟩ : ∃ f, (h.frames token)[h.read]? = some f :=
      ⟨_, List.getElem?_eq_getElem (by omega)⟩
    -- The channel is empty, so the frame is taken.
    obtain ⟨h₂, hreceived, hserver, hphase₂, hread⟩ : ∃ h₂, h₁.received f = some h₂ ∧
        h₂.server = h.server ∧ h₂.phase = .started ∧ h₂.read = h.read + 1 := by
      unfold Handshake.received
      split
      · exact ⟨_, rfl, rfl, hphase, rfl⟩
      · rw [if_pos (by simp [h₁, eventCapacity])]
        exact ⟨_, rfl, rfl, hphase, rfl⟩
    have hstep : step env P token h₁ .receive = some h₂ := by
      unfold step
      rw [show h₁.phase = .started from hphase, show (h₁.frames token)[h₁.read]? = some f from hf]
      exact hreceived
    have hframes : h₂.frames token = h.frames token := by
      unfold frames
      rw [hserver]
    obtain ⟨h₃, hdrains, hserver₃, hphase₃, hread₃, hevents₃⟩ := ih hphase₂ (by rw [hframes, hread]; omega)
    refine ⟨h₃, ?_, hserver₃.trans hserver, hphase₃, by rw [hread₃, hframes], hevents₃⟩
    exact (drains_events h).trans (.head (.inl hstep) hdrains)

/-- In every run in which no request that is made before `start` takes a push after `Authenticated`: all the
pushes after it that were taken are handled or in the channel, in their order, and once the connection is
started the reader and the event loop by themselves lead to a state in which all that were sent are handled. -/
theorem pushes_delivered (hr : (handshakeSystem env P token).ReachableUnder (Unhurried token) h)
    (hlive : h.phase ≠ .failed) :
    h.Delivers token ∧ (h.phase = .started →
      ∃ h', Drains env P token h h' ∧ h'.handled.filter Frame.isPush = pushesAfter (h.frames token)) := by
  have hh := accounted hr
  refine ⟨hh.delivers hlive, fun hphase => ?_⟩
  obtain ⟨h', hdrains, hserver, hphase', hread, hevents⟩ := drains_all token ((h.frames token).length - h.read) hphase (by have := hh.within; omega)
  refine ⟨h', hdrains, ?_⟩
  have hdelivers := (hdrains.accounted hh).delivers (by rw [hphase']; nofun)
  have htaken : h'.taken token = h.frames token := by
    have hframes : h'.frames token = h.frames token := by
      unfold frames
      rw [hserver]
    unfold taken
    rw [hframes, hread, List.take_length]
  unfold Delivers at hdelivers
  rw [htaken, hevents, List.append_nil] at hdelivers
  exact hdelivers.symm

end Handshake

/-! ## Runs in which nothing interferes -/

namespace Handshake

variable {G : Handshake → Label → Prop} {h : Handshake}

/-- A program of the server runs to its end. -/
theorem finish_reachable (hG : ∀ h l, G h (.server l)) {i : Nat} {m : Proc ServerWorld Error Unit}
    (hr : (handshakeSystem env P token).ReachableUnder G { h with server := h.server.start i m }) :
    (handshakeSystem env P token).ReachableUnder G { h with server := h.server.finish i m } := by
  obtain ⟨n, hn⟩ := Pool.exists_advance_start m h.server i
  rw [← hn]
  clear hn
  induction n with
  | zero => exact hr
  | succ n ih =>
    rw [Function.iterate_succ_apply']
    generalize (fun q => q.advance i)^[n] (h.server.start i m) = q at ih ⊢
    cases hi : q.tasks i with
    | none => rwa [Pool.advance_of_none hi]
    | some m =>
      refine ih.step (hG _ (.advance i)) ?_
      show step env P token _ _ = _
      simp [step, Cluster.step, hi]

/-- Another connection is served. -/
theorem served_reachable (hG : ∀ h l, G h (.server l)) (hr : (handshakeSystem env P token).ReachableUnder G h)
    {t : Nat} (ht : t ≠ token) (f : Frame) :
    (handshakeSystem env P token).ReachableUnder G
      { h with server := h.server.served env P t (.binary (.ok f)) } := by
  unfold Cluster.served
  split
  · next hw =>
    refine finish_reachable hG (hr.step (hG h (.incoming t (.binary (.ok f)))) ?_)
    show step env P token _ _ = _
    simp [step, Cluster.step, hw, ht]
  · exact hr

theorem commanded_reachable (hG : ∀ h l, G h (.server l)) (hr : (handshakeSystem env P token).ReachableUnder G h)
    (t : Nat) (c : Admin.Command) :
    (handshakeSystem env P token).ReachableUnder G { h with server := h.server.commanded env t c } := by
  unfold Cluster.commanded
  split
  · next hw =>
    refine finish_reachable hG (hr.step (hG h (.command t c)) ?_)
    show step env P token _ _ = _
    simp [step, Cluster.step, hw]
  · exact hr

/-- The client asks, and the server handles what it asks for to its end. -/
theorem asked_reachable (hG : ∀ h l, G h (.server l)) (hrequest : ∀ h id body, G h (.request id body))
    (harrives : ∀ h, G h .arrives) (hr : (handshakeSystem env P token).ReachableUnder G h)
    (hphase : h.phase = .between) (hnone : h.requests = []) {id : String} {body : Body}
    (hw : Cluster.Waits h.server token (.binary (.ok (frame id body)))) :
    (handshakeSystem env P token).ReachableUnder G { h with
      phase := .awaiting id
      server := h.server.finish token (Ws.serve env P token (.binary (.ok (frame id body)))) } := by
  have hasked := hr.step (hrequest h id body) (if_pos hphase)
  rw [hnone] at hasked
  refine finish_reachable (h := { h with phase := .awaiting id }) hG (hasked.step (harrives _) ?_)
  show step env P token _ _ = _
  simp [step, Cluster.step, hw, hnone]

end Handshake

namespace Scenario.Replenished

open Handshake

/-- Alice has a first device, and another one waits for its certificate. -/
def start : Handshake :=
  { Handshake.initial server with
    server := clusterAfter (firstDeviceOf 0 "alice" (uuid '1') 'a' 1 2 ++
      [.frame 1 (helloOf "alice" (uuid 'b')),
        .frame 1 (passwordOf "alice" (uuid 'b')),
        .frame 1 (joiningOf (uuid 'b') 1 3)]) }

def asked (h : Handshake) (body : Body) : Handshake :=
  { h with
    phase := .awaiting "r"
    server := h.server.finish 2 (Ws.serve server primitives 2 (.binary (.ok (frame "r" body)))) }

/-- A step that is taken where it can be. -/
def took (l : Label) (h : Handshake) : Handshake := (step server primitives 2 h l).getD h

def challenged : Handshake := took .read (asked start (helloOf "alice" (uuid 'a')))

/-- The first device connects, and proves its key. -/
def authenticated : Handshake :=
  took .read (asked challenged (FailedPush.proofOf (challenged.server.locals 2) "alice" 2))

/-- One-time keys are published before the connection is started. -/
def replenished : Handshake :=
  took .start (took .read (took .read (asked authenticated (.publishPreKeys { keys := [RestoredKeys.oneTimeKey "AAAAAQ" 7] }))))

/-- The connection is started at once. -/
def reconnected : Handshake := took .receive (took .start authenticated)

theorem took_reachable {G : Handshake → Label → Prop} {h : Handshake} {l : Label}
    (hr : (handshakeSystem server primitives 2).ReachableUnder G h) (hl : G h l) :
    (handshakeSystem server primitives 2).ReachableUnder G (took l h) := by
  unfold took
  cases hs : step server primitives 2 h l with
  | none => exact hr
  | some h' => exact hr.step hl hs

section

variable {G : Handshake → Label → Prop} (hG : ∀ h l, l ≠ .read → G h l)

include hG

/-- Moves of other connections. -/
theorem moved_reachable (moves : List Move) : ∀ {h : Handshake},
    (handshakeSystem server primitives 2).ReachableUnder G h →
    (∀ move ∈ moves, ∀ body, move ≠ .frame 2 body) →
    (handshakeSystem server primitives 2).ReachableUnder G
      { h with server := moves.foldl Move.run h.server } := by
  have hserver : ∀ h l, G h (.server l) := fun h _ => hG h _ nofun
  induction moves with
  | nil => exact fun hr _ => hr
  | cons move moves ih =>
    intro h hr helse
    have hrest := fun m hm => helse m (List.mem_cons_of_mem _ hm)
    cases move with
    | frame t body =>
      have ht : t ≠ 2 := by
        rintro rfl
        exact helse _ List.mem_cons_self body rfl
      exact ih (served_reachable hserver hr ht (frame "r" body)) hrest
    | command t c => exact ih (commanded_reachable hserver hr t c) hrest

theorem start_reachable : (handshakeSystem server primitives 2).ReachableUnder G start :=
  moved_reachable hG _ (.init rfl) (by simp [firstDeviceOf])

theorem asked_by {h : Handshake} (hr : (handshakeSystem server primitives 2).ReachableUnder G h) (body : Body)
    (hready : h.phase = .between ∧ h.requests = [] ∧
      Cluster.Waits h.server 2 (.binary (.ok (frame "r" body)))) :
    (handshakeSystem server primitives 2).ReachableUnder G (asked h body) :=
  asked_reachable (fun h _ => hG h _ nofun) (fun h _ _ => hG h _ nofun) (fun h => hG h _ nofun) hr hready.1
    hready.2.1 hready.2.2

/-- The two reads of the authentication. -/
theorem authenticated_reachable
    (hread : ∀ h, ((h.frames 2)[h.read]?).all (fun f => !f.isPush) = true → G h .read) :
    (handshakeSystem server primitives 2).ReachableUnder G authenticated := by
  have hasked := asked_by hG (start_reachable hG) (helloOf "alice" (uuid 'a')) (by decide +kernel)
  have hchallenged := took_reachable hasked (hread _ (by decide +kernel))
  have hproved := asked_by hG hchallenged (FailedPush.proofOf (challenged.server.locals 2) "alice" 2)
    (by decide +kernel)
  exact took_reachable hproved (hread _ (by decide +kernel))

end

theorem pushes_delivered_reconnected :
    reconnected.Delivers 2 ∧ (reconnected.phase = .started →
      ∃ h', Drains server primitives 2 reconnected h' ∧
        h'.handled.filter Frame.isPush = pushesAfter (reconnected.frames 2)) := by
  have hall : ∀ h l, l ≠ .read → Unhurried 2 h l := fun h l hl => by
    cases l with
    | read => exact absurd rfl hl
    | _ => trivial
  have hread : ∀ h : Handshake, ((h.frames 2)[h.read]?).all (fun f => !f.isPush) = true → Unhurried 2 h .read := by
    intro h hnone f hf hpush
    rw [hf, Option.all_some, hpush] at hnone
    cases hnone
  have hr : (handshakeSystem server primitives 2).ReachableUnder (Unhurried 2) reconnected :=
    took_reachable (took_reachable (authenticated_reachable hall hread) trivial) trivial
  exact pushes_delivered hr (by decide +kernel)

/-- The other device's request is pushed before the keys are published, and lost. -/
theorem pairing_request_lost :
    (handshakeSystem server primitives 2).Reachable replenished ∧ replenished.phase = .started ∧
      ¬ replenished.Delivers 2 := by
  have hr := authenticated_reachable (G := fun _ _ => True) (fun _ _ _ => trivial) fun _ _ => trivial
  have hasked := asked_by (fun _ _ _ => trivial) hr
    (.publishPreKeys { keys := [RestoredKeys.oneTimeKey "AAAAAQ" 7] }) (by decide +kernel)
  exact ⟨took_reachable (took_reachable (took_reachable hasked trivial) trivial) trivial, by decide +kernel⟩

end Scenario.Replenished

end TuiChat
