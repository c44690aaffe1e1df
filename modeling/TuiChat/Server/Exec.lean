import TuiChat.Server.FrameSteps

/-!
# Runs of the actions

What an action of the server does in a run that nothing interferes with, and how it ends.
-/

namespace TuiChat

open Lib (Bytes Proc Table)

namespace Ws

variable {env : ServerEnvironment} {i : Nat} {α : Type} {s : AppState} {c : Connection}

theorem exec_queryRecording {f : Db → α} {events : α → List ConnectionEvent} (h : env.works s.tick = true) :
    (queryRecording env f events).exec (s, c) =
      (.ok (f s.db), ({ s with tick := s.tick + 1 }, { c with log := events (f s.db) ++ c.log })) := by
  simp [queryRecording, learn, Proc.atomically, Proc.exec, h]

theorem exec_queryRecording_eq_ok {f : Db → α} {events : α → List ConnectionEvent} {a : α}
    {w w' : ServerWorld} : (queryRecording env f events).exec w = (.ok a, w') ↔
      env.works w.1.tick = true ∧ a = f w.1.db ∧
        w' = ({ w.1 with tick := w.1.tick + 1 }, { w.2 with log := events (f w.1.db) ++ w.2.log }) := by
  cases h : env.works w.1.tick with
  | false => simp [queryRecording, learn, Proc.atomically, Proc.exec, h]
  | true =>
    rw [exec_queryRecording h]
    constructor
    · intro hr
      cases hr
      exact ⟨rfl, rfl, rfl⟩
    · rintro ⟨-, rfl, rfl⟩
      rfl

theorem exec_getConnection_eq_ok {f : Connection → α} {a : α} {w w' : ServerWorld} :
    (getConnection f).exec w = (.ok a, w') ↔ a = f w.2 ∧ w' = w := by
  constructor
  · intro h
    cases h
    exact ⟨rfl, rfl⟩
  · rintro ⟨rfl, rfl⟩
    rfl

theorem exec_queryRecording_error {f : Db → α} {events : α → List ConnectionEvent}
    (h : env.works s.tick = false) :
    (queryRecording env f events).exec (s, c) =
      (.error "database error", ({ s with tick := s.tick + 1 }, c)) := by
  simp [queryRecording, learn, Proc.atomically, Proc.exec, h]

theorem exec_executeRecording {f : Nat → Db → Except Error (α × Db)}
    {serverEvents : Db → α × Db → List ServerEvent} {events : Db → List ConnectionEvent} {r : α × Db}
    (h : env.works s.tick = true) (hf : f s.tick s.db = .ok r) :
    (executeRecording env f serverEvents events).exec (s, c) = (.ok r.1, ({ s with
      db := r.2
      past := s.db :: s.past
      tick := s.tick + 1
      log := serverEvents s.db r ++ s.log }, { c with log := events s.db ++ c.log })) := by
  simp [executeRecording, learn, Proc.atomically, Proc.exec, h, hf]

/-- A write that does not work or is refused. -/
theorem exec_executeRecording_error {f : Nat → Db → Except Error (α × Db)}
    {serverEvents : Db → α × Db → List ServerEvent} {events : Db → List ConnectionEvent}
    (h : ∀ r, ¬(env.works s.tick = true ∧ f s.tick s.db = .ok r)) :
    ∃ e, (executeRecording env f serverEvents events).exec (s, c) =
      (.error e, ({ s with tick := s.tick + 1 }, c)) := by
  cases hw : env.works s.tick with
  | false => exact ⟨"database error", by simp [executeRecording, learn, Proc.atomically, Proc.exec, hw]⟩
  | true =>
    cases hf : f s.tick s.db with
    | error e => exact ⟨e, by simp [executeRecording, learn, Proc.atomically, Proc.exec, hw, hf]⟩
    | ok r => exact absurd ⟨hw, hf⟩ (h r)

theorem exec_write {f : Db → Except Error Db} {db : Db} (h : env.works s.tick = true) (hf : f s.db = .ok db) :
    (write env f).exec (s, c) = (.ok (), ({ s with
      db
      past := s.db :: s.past
      tick := s.tick + 1 }, c)) := by
  unfold write execute
  rw [exec_executeRecording h (Except.map_eq_ok.2 ⟨db, hf, rfl⟩)]
  rfl

theorem exec_write_error {f : Db → Except Error Db}
    (h : ∀ db, ¬(env.works s.tick = true ∧ f s.db = .ok db)) :
    ∃ e, (write env f).exec (s, c) = (.error e, ({ s with tick := s.tick + 1 }, c)) := by
  unfold write execute
  apply exec_executeRecording_error
  rintro r ⟨hw, hr⟩
  obtain ⟨db, hf, -⟩ := Except.map_eq_ok.1 hr
  exact h db ⟨hw, hf⟩

theorem exec_register (session : Session) : ∃ s', (register session i).exec (s, c) = (.ok (), (s', c)) ∧
    s'.db = s.db ∧ s'.out = s.out ∧ s'.tick = s.tick ∧ s'.connections = s.connections.put
      { deviceId := session.deviceId, token := i, accountId := session.account.id } := by
  have hinsert : ∃ s₁, (insertConnection
      { deviceId := session.deviceId, token := i, accountId := session.account.id }).exec (s, c) =
        (.ok (s.connections.find session.deviceId), (s₁, c)) ∧
      s₁.db = s.db ∧ s₁.out = s.out ∧ s₁.tick = s.tick ∧ s₁.connections = s.connections.put
        { deviceId := session.deviceId, token := i, accountId := session.account.id } :=
    ⟨_, rfl, rfl, rfl, rfl, rfl⟩
  obtain ⟨s₁, h₁, hs₁⟩ := hinsert
  unfold register
  rw [Proc.exec_bind, h₁]
  cases s.connections.find session.deviceId with
  | none => exact ⟨_, rfl, hs₁⟩
  | some previous => exact ⟨_, rfl, hs₁⟩

/-- A frame for a connection that may be gone. -/
theorem exec_trySend {t : Nat} {f : Frame} : ∃ s', (trySend env t f).exec (s, c) = (.ok (), (s', c)) ∧
    s'.db = s.db ∧ s'.tick = s.tick + 1 ∧ s'.connections = s.connections ∧
      s'.out = s.out ++ if env.works s.tick then [(t, f)] else [] := by
  cases hw : env.works s.tick with
  | false =>
    refine ⟨{ s with tick := s.tick + 1 }, ?_, rfl, rfl, rfl, by simp⟩
    simp [trySend, send, learn, Proc.caught, Proc.atomically, Proc.exec_bind, Proc.exec, hw]
    rfl
  | true =>
    refine ⟨{ s with tick := s.tick + 1, out := s.out ++ [(t, f)] }, ?_, rfl, rfl, rfl, rfl⟩
    simp [trySend, send, learn, Proc.caught, Proc.atomically, Proc.exec_bind, Proc.exec, hw]
    rfl

theorem exec_pushAccount {accountId : String} {f : Frame} :
    ∃ s', (pushAccount env accountId f).exec (s, c) = (.ok (), (s', c)) ∧ s'.db = s.db ∧
      s'.tick = s.tick + (s.connections.rows.filter fun live => live.accountId = accountId).length := by
  have heach : ∀ (senders : List LiveConnection) (s : AppState), ∃ s',
      (Proc.each (fun live => trySend env live.token f) senders).exec (s, c) = (.ok (), (s', c)) ∧
        s'.db = s.db ∧ s'.tick = s.tick + senders.length := by
    intro senders
    induction senders with
    | nil => exact fun s => ⟨s, rfl, rfl, rfl⟩
    | cons live senders ih =>
      intro s
      obtain ⟨s₁, h₁, hdb₁, ht₁, -, -⟩ := exec_trySend (s := s)
      obtain ⟨s₂, h₂, hdb₂, ht₂⟩ := ih s₁
      refine ⟨s₂, ?_, hdb₂.trans hdb₁, ?_⟩
      · show (trySend env live.token f >>= fun _ =>
          Proc.each (fun live => trySend env live.token f) senders).exec (s, c) = _
        rw [Proc.exec_bind, h₁]
        exact h₂
      · rw [ht₂, ht₁, List.length_cons]
        omega
  exact heach _ s

end Ws

end TuiChat
