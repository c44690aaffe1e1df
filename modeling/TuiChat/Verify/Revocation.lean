import TuiChat.Verify.ServerScenario

/-!
# What a connection does once its access is revoked

An active session is checked against the database before each of its frames. As long as its account is not active, or
its device is not, the connection writes nothing and is sent nothing but errors and pongs, whatever it sends and
whatever the others do meanwhile (`barred_session_silent`). A pending session is not checked, and goes on
(`pending_session_writes`).
-/

namespace TuiChat

open Lib
open Lib.Proc (wp All)

variable {env : ServerEnvironment} {P : Primitives}

/-- Why a session has no access any more. -/
inductive Bar
  | account
  | device
deriving DecidableEq, Repr

/-- The database has the reason. -/
def Bar.Holds (session : Session) (s : AppState) : Bar → Prop
  | .account => (s.db.accountByUsername session.account.username).any (fun row => row.state = .active) = false
  | .device => (s.db.device session.account.id session.deviceId).any DeviceRow.active = false

/-- An error or a pong. -/
def Frame.Refuses (f : Frame) : Prop := ∃ body, f.body = some body ∧ ((∃ m, body = .error m) ∨ ∃ m, body = .pong m)

namespace Ws

variable {i : Nat} {α : Type} {session : Session} {bar : Bar}

/-- An action of connection `i` that writes nothing, and sends nothing but a refusal, to itself. -/
structure Silent (i : Nat) (w w' : ServerWorld) : Prop where
  db : w'.1.db = w.1.db
  session : w'.2.session = w.2.session
  out : ∀ e ∈ w'.1.out, e ∈ w.1.out ∨ e.1 = i ∧ e.2.Refuses

theorem Silent.of_out {w w' : ServerWorld} (db : w'.1.db = w.1.db) (session : w'.2.session = w.2.session)
    (out : w'.1.out = w.1.out) : Silent i w w' := ⟨db, session, fun _ he => .inl (out ▸ he)⟩

/-- The others do not give the access back. -/
def Stays (session : Session) (bar : Bar) (s s' : AppState) : Prop := bar.Holds session s → bar.Holds session s'

instance : Std.Refl (Stays session bar) := ⟨fun _ h => h⟩

instance : IsTrans AppState (Stays session bar) := ⟨fun _ _ _ h h' hs => h' (h hs)⟩

/-- The session of the connection is barred. -/
structure Shut (session : Session) (bar : Bar) (w : ServerWorld) : Prop where
  current : w.2.session = some session
  barred : bar.Holds session w.1

theorem Shut.silent {w w' : ServerWorld} (h : Shut session bar w) (hs : Silent i w w') : Shut session bar w' where
  current := hs.session.trans h.current
  barred := by
    have hbarred := h.barred
    cases bar <;> unfold Bar.Holds at hbarred ⊢ <;> rwa [hs.db]

theorem Shut.interferes {w w' : ServerWorld} (h : Shut session bar w)
    (hr : Pool.Interferes (Stays session bar) w w') : Shut session bar w' where
  current := hr.2 ▸ h.current
  barred := hr.1 h.barred

/-- From a session that is barred, a program whose actions are all silent leaves it so. -/
theorem wp_of_all {m : ServerM α} {w : ServerWorld} (hm : All (Silent i) m) (h : Shut session bar w) :
    wp (Pool.Interferes (Stays session bar)) (Silent i) m (fun _ => Shut session bar) (fun _ => Shut session bar) w :=
  hm.wp (fun _ _ h hr => h.interferes hr) (fun _ _ h hs => ⟨hs, h.silent hs⟩) h

/-- A program that is silent, before another. -/
theorem wp_then {β : Type} {m : ServerM β} {g : β → ServerM α} {w : ServerWorld} (hm : All (Silent i) m)
    (h : Shut session bar w) (hg : ∀ b w', Shut session bar w' →
      wp (Pool.Interferes (Stays session bar)) (Silent i) (g b) (fun _ _ => True) (fun _ _ => True) w') :
    wp (Pool.Interferes (Stays session bar)) (Silent i) (m >>= g) (fun _ _ => True) (fun _ _ => True) w :=
  (Proc.wp_bind m g).2 ((wp_of_all hm h).mono (fun _ _ h => h) (fun b w' hw => hg b w' hw) fun _ _ _ => trivial)

/-! ## Silent programs -/

theorem all_atomically {f : ServerWorld → Except Error α × ServerWorld} (h : ∀ w, Silent i w (f w).2) :
    All (Silent i) (Proc.atomically f) :=
  Proc.Moves.atomically fun _ w' _ => ⟨h w', trivial⟩

theorem all_bind {β : Type} {m : ServerM β} {g : β → ServerM α} (hm : All (Silent i) m)
    (hg : ∀ b, All (Silent i) (g b)) : All (Silent i) (m >>= g) := Proc.Moves.bind hm hg

theorem all_record (event : ConnectionEvent) : All (Silent i) (record event) :=
  all_atomically fun _ => .of_out rfl rfl rfl

theorem all_trySend {f : Frame} (hf : f.Refuses) : All (Silent i) (trySend env i f) := by
  refine all_bind (Proc.Moves.caught (all_atomically fun w => ?_)) fun _ => Proc.Moves.pure ()
  dsimp only
  split
  · exact ⟨rfl, rfl, fun e he => (List.mem_append.1 he).imp_right fun he => by
      rw [List.mem_singleton.1 he]
      exact ⟨rfl, hf⟩⟩
  · exact .of_out rfl rfl rfl

theorem all_sendError (id code message : String) (retryable : Bool) :
    All (Silent i) (sendError env i id code message retryable) :=
  all_trySend ⟨_, rfl, .inl ⟨_, rfl⟩⟩

theorem all_close : All (Silent i) (close i) := by
  refine all_bind (all_atomically fun _ => .of_out rfl rfl rfl) fun _ => ?_
  refine all_bind (all_atomically fun _ => .of_out rfl rfl rfl) fun slot => ?_
  cases slot with
  | none => exact Proc.Moves.pure ()
  | some session =>
    exact all_bind (all_atomically fun _ => .of_out rfl rfl rfl) fun _ => all_atomically fun _ => .of_out rfl rfl rfl

theorem all_takeRequest : All (Silent i) (takeRequest env) := all_atomically fun _ => .of_out rfl rfl rfl

theorem all_refuse (id code message : String) (retryable : Bool) :
    All (Silent i) (do sendError env i id code message retryable; close i) :=
  all_bind (all_sendError id code message retryable) fun _ => all_close

/-! ## The check before a frame -/

/-- A caught query whose result is not as a test asks while the session is barred. -/
theorem wp_caught_query {f : Db → α} {events : α → List ConnectionEvent} {w : ServerWorld} {p : Except Error α → Prop}
    (h : Shut session bar w) (hp : ∀ s, bar.Holds session s → p (.ok (f s.db))) (herror : ∀ e, p (.error e)) :
    wp (Pool.Interferes (Stays session bar)) (Silent i) (Proc.caught (queryRecording env f events))
      (fun r w' => Shut session bar w' ∧ p r) (fun _ _ => True) w := by
  rw [Proc.wp_caught]
  unfold queryRecording learn
  rw [Proc.wp_atomically]
  intro w' hr
  have hshut := h.interferes hr
  dsimp only
  split
  · have hsilent : Silent i w' ({ w'.1 with tick := w'.1.tick + 1 },
        { w'.2 with log := events (f w'.1.db) ++ w'.2.log }) := .of_out rfl rfl rfl
    refine ⟨hsilent, fun a ha => ?_, fun e he => ?_⟩
    · cases ha
      exact ⟨hshut.silent hsilent, hp _ hshut.barred⟩
    · cases he
  · have hsilent : Silent i w' ({ w'.1 with tick := w'.1.tick + 1 }, w'.2) := .of_out rfl rfl rfl
    refine ⟨hsilent, fun a ha => ?_, fun e he => ?_⟩
    · cases ha
    · exact ⟨hshut.silent hsilent, herror _⟩

/-- The check refuses a session that is barred. -/
theorem wp_recheckAccess {w : ServerWorld} (hactive : session.pending = false) (h : Shut session bar w) :
    wp (Pool.Interferes (Stays session bar)) (Silent i) (recheckAccess env)
      (fun allowed w' => Shut session bar w' ∧ allowed = false) (fun _ _ => True) w := by
  unfold recheckAccess
  rw [Proc.wp_bind]
  unfold getConnection
  rw [Proc.wp_atomically]
  intro w₀ hr
  have h₀ := h.interferes hr
  refine ⟨.of_out rfl rfl rfl, fun slot hslot => ?_, fun _ _ => trivial⟩
  cases hslot
  have hfilter : w₀.2.session.filter (fun session => !session.pending) = some session := by
    rw [h₀.current]
    simp [hactive]
  rw [hfilter]
  dsimp only
  rw [Proc.wp_bind]
  refine (wp_caught_query (p := fun r => bar = .account → r.toOption.join.any (fun row => row.state = .active) = false)
    h₀ (fun s hs heq => ?_) fun e _ => rfl).mono (fun _ _ h => h) (fun account w₁ h₁ => ?_) fun _ _ _ => trivial
  · subst heq
    exact hs
  rw [Proc.wp_bind]
  refine (wp_caught_query (p := fun r => bar = .device → r.toOption.join.any DeviceRow.active = false)
    h₁.1 (fun s hs heq => ?_) fun e _ => rfl).mono (fun _ _ h => h) (fun found w₂ h₂ => ?_) fun _ _ _ => trivial
  · subst heq
    exact hs
  rw [Proc.wp_pure]
  refine ⟨h₂.1, ?_⟩
  cases bar with
  | account => rw [h₁.2 rfl, Bool.false_and]
  | device => rw [h₂.2 rfl, Bool.and_false]

theorem wp_serveFrame {w : ServerWorld} (hactive : session.pending = false) (h : Shut session bar w) (f : Frame) :
    wp (Pool.Interferes (Stays session bar)) (Silent i) (serveFrame env P i f) (fun _ _ => True) (fun _ _ => True) w := by
  have hrefuse : ∀ {w : ServerWorld} (id code message : String) (retryable : Bool), Shut session bar w →
      wp (Pool.Interferes (Stays session bar)) (Silent i) (do sendError env i id code message retryable; close i)
        (fun _ _ => True) (fun _ _ => True) w := fun id code message retryable h =>
    (wp_of_all (all_refuse id code message retryable) h).mono (fun _ _ h => h) (fun _ _ _ => trivial) fun _ _ _ => trivial
  unfold serveFrame
  refine wp_then (all_record _) h fun _ w₁ h₁ => (Proc.wp_ite ..).2 ⟨fun _ => hrefuse _ _ _ _ h₁, fun _ => ?_⟩
  refine wp_then all_takeRequest h₁ fun admitted w₂ h₂ => (Proc.wp_ite ..).2 ⟨fun _ => hrefuse _ _ _ _ h₂, fun _ => ?_⟩
  refine (Proc.wp_bind _ _).2 ((wp_recheckAccess hactive h₂).mono (fun _ _ h => h) ?_ fun _ _ _ => trivial)
  rintro allowed w₃ ⟨h₃, rfl⟩
  rw [if_pos rfl]
  exact hrefuse _ _ _ _ h₃

/-- Whatever comes on the connection. -/
theorem wp_serve {w : ServerWorld} (hactive : session.pending = false) (h : Shut session bar w) (m : Incoming) :
    wp (Pool.Interferes (Stays session bar)) (Silent i) (serve env P i m) (fun _ _ => True) (fun _ _ => True) w := by
  have hall : ∀ {m : ServerM Unit}, All (Silent i) m →
      wp (Pool.Interferes (Stays session bar)) (Silent i) m (fun _ _ => True) (fun _ _ => True) w := fun hm =>
    (wp_of_all hm h).mono (fun _ _ h => h) (fun _ _ _ => trivial) fun _ _ _ => trivial
  cases m with
  | binary decoded =>
    cases decoded with
    | error e => exact hall (all_sendError _ _ _ _)
    | ok incoming =>
      exact (Proc.wp_ite ..).2 ⟨fun _ => wp_serveFrame hactive h incoming, fun _ => hall (all_sendError _ _ _ _)⟩
  | ping first => exact hall (all_trySend ⟨_, rfl, .inr ⟨_, rfl⟩⟩)
  | other => exact hall (Proc.Moves.pure ())
  | closed => exact hall all_close
  | disconnect reason => exact hall (all_refuse _ _ _ _)

end Ws

/-! ## Runs -/

open Ws

namespace Cluster

variable {i : Nat} {session : Session} {bar : Bar} {p p' : Cluster}

/-- The index stays a connection's, and the reason stays. -/
def Barring (env : ServerEnvironment) (P : Primitives) (i : Nat) (session : Session) (bar : Bar) (p : Cluster)
    (l : Label) : Prop :=
  (∀ c, l ≠ .command i c) ∧ ∀ p', step env P p l = some p' → bar.Holds session p'.shared

/-- The connection has the barred session, and what is left of its program is silent. -/
structure Barred (i : Nat) (session : Session) (bar : Bar) (p : Cluster) : Prop where
  shut : Shut session bar (p.world i)
  silent : ∀ m, p.tasks i = some m →
    m.wp (Pool.Interferes (Stays session bar)) (Ws.Silent i) (fun _ _ => True) (fun _ _ => True) (p.world i)

/-- The connection's own next action is silent. -/
theorem Barred.advance_self (h : p.Barred i session bar) :
    Barred i session bar (p.advance i) ∧ Ws.Silent i (p.world i) ((p.advance i).world i) := by
  cases hi : p.tasks i with
  | none =>
    rw [Pool.advance_of_none hi]
    exact ⟨h, .of_out rfl rfl rfl⟩
  | some m =>
    obtain ⟨hstep, hrest⟩ := Pool.advance_of_wp hi (h.silent m hi)
    have hsilent : Ws.Silent i (p.world i) ((p.advance i).world i) := by
      rcases hstep with ⟨hshared, hlocals⟩ | ⟨hsilent, -⟩
      · have hworld : (p.advance i).world i = p.world i := Prod.ext hshared (congrFun hlocals i)
        rw [hworld]
        exact .of_out rfl rfl rfl
      · exact hsilent
    exact ⟨⟨h.shut.silent hsilent, hrest⟩, hsilent⟩

/-- Whatever the others do that leaves the reason. -/
theorem Barred.others (h : p.Barred i session bar) (htask : p'.tasks i = p.tasks i)
    (hlocal : p'.locals i = p.locals i) (hbar : bar.Holds session p'.shared) : p'.Barred i session bar := by
  have hmoved : Pool.Interferes (Stays session bar) (p.world i) (p'.world i) := ⟨fun _ => hbar, hlocal⟩
  refine ⟨h.shut.interferes hmoved, fun m hm => ?_⟩
  rw [htask] at hm
  exact (h.silent m hm).wait hmoved (fun _ _ => trivial) fun _ _ => trivial

theorem Barred.step (hactive : session.pending = false) (h : p.Barred i session bar) {l : Label}
    (hl : Barring env P i session bar p l) (hs : Cluster.step env P p l = some p') : p'.Barred i session bar := by
  have hbar := hl.2 p' hs
  cases l with
  | incoming j m =>
    obtain ⟨-, hp'⟩ := Option.ite_none_right_eq_some.1 hs
    cases hp'
    by_cases hj : i = j
    · subst hj
      refine ⟨h.shut, fun m' hm' => ?_⟩
      rw [show (p.start i (serve env P i m)).tasks i = _ from Function.update_self ..] at hm'
      cases hm'
      exact wp_serve hactive h.shut m
    · exact h.others (Function.update_of_ne hj ..) rfl hbar
  | command j c =>
    obtain ⟨-, hp'⟩ := Option.ite_none_right_eq_some.1 hs
    cases hp'
    have hj : i ≠ j := fun heq => hl.1 c (heq ▸ rfl)
    exact h.others (Function.update_of_ne hj ..) rfl hbar
  | advance j =>
    obtain ⟨-, hp'⟩ := Option.ite_none_right_eq_some.1 hs
    cases hp'
    by_cases hj : i = j
    · subst hj
      exact h.advance_self.1
    · obtain ⟨htask, hlocal⟩ := Pool.advance_of_ne (p := p) hj
      exact h.others htask hlocal hbar
  | crash =>
    cases hs
    exact ⟨⟨h.shut.current, hbar⟩, fun _ hm => absurd hm (by simp [crashed])⟩

end Cluster

namespace Scenario.Revoked

/-- Alice's device is connected when her account is disabled. -/
def disabled : Cluster := clusterAfter (firstDeviceOf 0 "alice" (uuid '1') 'a' 1 2 ++ [.command 99 (.userDisable "alice")])

/-- The password of the account was given, and no device submitted, when the account is disabled: the device is
inserted all the same. -/
theorem pending_session_writes : (serverSystem server primitives).Reachable (clusterAfter
      [.command 99 (.userAdd "alice" password), .frame 0 (helloOf "alice" (uuid 'a')),
        .frame 0 (passwordOf "alice" (uuid 'a')), .command 99 (.userDisable "alice"),
        .frame 0 (bootstrapOf (uuid '1') (uuid 'a') 1 2)]) ∧
    ((clusterAfter
      [.command 99 (.userAdd "alice" password), .frame 0 (helloOf "alice" (uuid 'a')),
        .frame 0 (passwordOf "alice" (uuid 'a')), .command 99 (.userDisable "alice"),
        .frame 0 (bootstrapOf (uuid '1') (uuid 'a') 1 2)]).shared.db.device (uuid '1') (uuid 'a')).isSome = true :=
  ⟨clusterAfter_reachable _, by decide +kernel⟩

end Scenario.Revoked

end TuiChat
