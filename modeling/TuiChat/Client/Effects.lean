import TuiChat.Client.View

/-!
# The effects, as steps of the view

Most of what a method does leaves the view alone; a transaction moves it as its store function moves
the tables. `Quiet` facts carry over to `Runs` and `Paths`.
-/

namespace TuiChat

open Lib
open Lib.Prog (Moves wp)
open Relation (ReflTransGen)

variable {P : Primitives} {env : Environment}

/-- Every run of `m` leaves the view alone. -/
abbrev IsStill {α : Type} (m : ClientM P α) : Prop := Moves Still m

/-- Every run of `m` moves the view along quiet steps. -/
abbrev IsQuiet {α : Type} (m : ClientM P α) : Prop := Moves Quiet m

/-- Every run of `m` moves the view without moving the cursor. -/
abbrev IsRun {α : Type} (m : ClientM P α) : Prop := Moves Runs m

/-- The contact list in memory and the selected index are the same. -/
structure Fixed (w w' : World P) : Prop where
  contacts : w'.app.contacts = w.app.contacts
  selected : w'.app.selected = w.app.selected

/-- Quiet steps that leave the selection alone. -/
def Steady (w w' : World P) : Prop := Quiet w w' ∧ Fixed w w'

theorem Fixed.trans {w w' w'' : World P} (h : Fixed w w') (h' : Fixed w' w'') : Fixed w w'' :=
  ⟨h'.contacts.trans h.contacts, h'.selected.trans h.selected⟩

theorem Steady.trans {w w' w'' : World P} (h : Steady w w') (h' : Steady w' w'') : Steady w w'' :=
  ⟨h.1.trans h'.1, h.2.trans h'.2⟩

instance : Std.Refl (Steady (P := P)) := ⟨fun _ => ⟨.refl, rfl, rfl⟩⟩

instance : IsTrans (World P) Steady := ⟨fun _ _ _ h h' => h.trans h'⟩

theorem Still.steady {w w' : World P} (h : Still w w') : Steady w w' :=
  ⟨Quiet.of_view_eq h, congrArg View.memory h, congrArg View.selected h⟩

/-- Every run of `m` moves the view along quiet steps that leave the selection alone. -/
abbrev IsSteady {α : Type} (m : ClientM P α) : Prop := Moves Steady m

theorem Lib.Prog.Moves.steady {α : Type} {m : ClientM P α} (h : IsStill m) : IsSteady m :=
  h.mono fun _ _ => Still.steady

theorem Lib.Prog.Moves.quiet_of_steady {α : Type} {m : ClientM P α} (h : IsSteady m) : IsQuiet m :=
  h.mono fun _ _ h => h.1

theorem Lib.Prog.Moves.quiet {α : Type} {m : ClientM P α} (h : IsStill m) : IsQuiet m :=
  h.mono fun _ _ => Quiet.of_view_eq

theorem Lib.Prog.Moves.runs {α : Type} {m : ClientM P α} (h : IsQuiet m) : IsRun m :=
  h.mono fun _ _ => Quiet.runs

/-- What runs on from where a run has led. -/
theorem Runs.wp_of {α : Type} {m : ClientM P α} {w w' : World P} (h : Runs w w')
    (hm : wp m (fun _ => Runs w') (fun _ => Runs w') w') :
    wp m (fun _ => Runs w) (fun _ => Runs w) w' :=
  hm.mono (fun _ _ h' => h.trans h') fun _ _ h' => h.trans h'

theorem Quiet.wp_of {α : Type} {m : ClientM P α} {w w' : World P} (h : Quiet w w')
    (hm : wp m (fun _ => Quiet w') (fun _ => Quiet w') w') :
    wp m (fun _ => Quiet w) (fun _ => Quiet w) w' :=
  hm.mono (fun _ _ h' => h.trans h') fun _ _ h' => h.trans h'

/-! ## Effects outside the view -/

/-- What the view has of the memory is the same. -/
structure App.SameView (app app' : App P) : Prop where
  profile : app'.profile = app.profile
  contacts : app'.contacts = app.contacts
  pairing : app'.pairing = app.pairing
  requests : app'.pairingRequests = app.pairingRequests
  notifications : app'.notifications = app.notifications
  selected : app'.selected = app.selected
  conversations : app'.messages.map ChatMessage.conversationId =
    app.messages.map ChatMessage.conversationId

theorem modifyApp_quiet {f : App P → App P} (h : ∀ app, App.SameView app (f app)) :
    IsQuiet (modifyApp f) := fun w => Quiet.of_view_eq (by
  obtain ⟨h₁, h₂, h₃, h₄, h₅, h₆, h₇⟩ := h w.app
  show World.view { w with app := f w.app } = w.view
  simp [World.view, h₁, h₂, h₃, h₄, h₅, h₆, h₇])

/-- Requests at hand change to some that were at hand or that the server sent. -/
theorem modifyApp_requests {w : World P} {app : App P} (hp : app.profile = w.app.profile)
    (hc : app.contacts = w.app.contacts) (hs : app.pairing = w.app.pairing)
    (hi : app.selected = w.app.selected) (hm : app.messages = w.app.messages)
    (hr : ∀ r ∈ app.pairingRequests, r ∈ w.view.known ∨ .requested r ∈ w.log)
    (hn : ∀ r ∈ noticedRequests app.notifications, r ∈ w.view.known ∨ .requested r ∈ w.log) :
    Quiet w { w with app } := by
  have hstep := QuietStep.aside (v := w.view) (World.view { w with app }).known
    w.view.queued (fun r hmem => ?_) fun _ h => h
  · refine Quiet.of_step ?_
    simpa [World.view, hp, hc, hs, hi, hm] using hstep
  · rcases List.mem_append.1 hmem with hmem | hmem
    · exact (List.mem_append.1 hmem).elim (hr r) (hn r)
    · exact .inl (List.mem_append_right _ hmem)

theorem setStatus_quiet (s : String) : IsQuiet (setStatus s : ClientM P Unit) :=
  modifyApp_quiet fun _ => ⟨rfl, rfl, rfl, rfl, rfl, rfl, rfl⟩

theorem getApp_still {α : Type} (f : App P → α) : IsStill (getApp f) := Moves.gets _

theorem getApp_quiet {α : Type} (f : App P → α) : IsQuiet (getApp f) := Moves.gets _

theorem draw_still : IsStill (draw : ClientM P Nat) :=
  .bind (.gets _) fun _ => .bind (.modify fun _ => rfl) fun _ => .pure _

theorem nowMs_still : IsStill (nowMs env : ClientM P Int) := .bind draw_still fun _ => .pure _

theorem instantNow_still : IsStill (instantNow env : ClientM P Nat) :=
  .bind draw_still fun _ => .pure _

theorem newUuid_still : IsStill (newUuid env : ClientM P String) := .bind draw_still fun _ => .pure _

theorem attempt_still (e : Error) : IsStill (attempt env e : ClientM P Unit) :=
  .bind draw_still fun _ => .ensure _ _

theorem query_still {α : Type} (f : Store P → α) : IsStill (query env f) :=
  .bind (attempt_still _) fun _ => .gets _

theorem draw_quiet : IsQuiet (draw : ClientM P Nat) := draw_still.quiet

theorem nowMs_quiet : IsQuiet (nowMs env : ClientM P Int) := nowMs_still.quiet

theorem instantNow_quiet : IsQuiet (instantNow env : ClientM P Nat) := instantNow_still.quiet

theorem newUuid_quiet : IsQuiet (newUuid env : ClientM P String) := newUuid_still.quiet

theorem attempt_quiet (e : Error) : IsQuiet (attempt env e : ClientM P Unit) :=
  (attempt_still e).quiet

theorem query_quiet {α : Type} (f : Store P → α) : IsQuiet (query env f) := (query_still f).quiet

@[simp] theorem wp_getApp_bind {α β : Type} (f : App P → α) (k : α → ClientM P β)
    {Q : β → World P → Prop} {E : Error → World P → Prop} {w : World P} :
    wp (getApp f >>= k) Q E w ↔ wp (k (f w.app)) Q E w := Prog.wp_bind _ _

@[simp] theorem wp_modifyApp_bind {β : Type} (f : App P → App P) (k : Unit → ClientM P β)
    {Q : β → World P → Prop} {E : Error → World P → Prop} {w : World P} :
    wp (modifyApp f >>= k) Q E w ↔ wp (k ()) Q E { w with app := f w.app } := Prog.wp_bind _ _

@[simp] theorem wp_record_bind {β : Type} (e : Event) (k : Unit → ClientM P β)
    {Q : β → World P → Prop} {E : Error → World P → Prop} {w : World P} :
    wp (record e >>= k) Q E w ↔ wp (k ()) Q E { w with log := e :: w.log } := Prog.wp_bind _ _

/-! ## Transactions -/

@[simp] theorem ticked_view (w : World P) : w.ticked.view = w.view := rfl

theorem ticked_quiet (w : World P) : Quiet w w.ticked := Quiet.of_view_eq rfl

/-- The two ends of an operation that may fail. -/
theorem wp_attempt {e : Error} {Q : Unit → World P → Prop} {E : Error → World P → Prop} {w : World P}
    (hQ : Q () w.ticked) (hE : E e w.ticked) : wp (attempt env e) Q E w := by
  show wp (Prog.ensure (env.works w.tick = true) e) Q E w.ticked
  rw [Prog.wp_ensure]
  exact ⟨fun _ => hQ, fun _ => hE⟩

/-- The two ends of handing over a frame. -/
theorem wp_sendFrame {f : Frame} {Q : Unit → World P → Prop} {E : Error → World P → Prop}
    {w : World P} (hQ : Q () { w.ticked with sent := w.sent ++ [f] }) (hE : ∀ e, E e w.ticked) :
    wp (sendFrame env f) Q E w := by
  unfold sendFrame
  rw [Prog.wp_bind]
  exact wp_attempt hQ (hE _)

/-- A frame that the client may send. -/
theorem sendFrame_allowed {f : Frame} {w : World P}
    (h : f.body ∈ w.view.queued ∨ w.view.Allows f.body) :
    wp (sendFrame env f) (fun _ => Steady w) (fun _ => Steady w) w :=
  wp_sendFrame ⟨(ticked_quiet w).trans (Quiet.of_step (.sent f h)), rfl, rfl⟩
    fun _ => Still.steady rfl

theorem sendFrame_steady {f : Frame} {body : Body} (hf : f.body = some body)
    (h : body.plain = true) : IsSteady (sendFrame env f : ClientM P Unit) := .of_wp fun w =>
  sendFrame_allowed (.inr (hf ▸ View.allows_plain h))

theorem notify_quiet {body : Body} (h : body.plain = true) :
    IsQuiet (notify env body : ClientM P Unit) := (sendFrame_steady rfl h).quiet_of_steady

/-- What follows the frame of a request. -/
theorem answer_steady (body : Body) : IsSteady (do
    let n ← draw
    match env.answer n body with
    | .error e => Prog.fail e
    | .ok (some (.error m)) => Prog.fail (m.code ++ ": " ++ m.message)
    | .ok response => pure response : ClientM P (Option Body)) :=
  .bind draw_still.steady fun n => by
    split
    · exact .fail _
    · exact .fail _
    · exact .pure _

theorem request_steady {body : Body} (h : body.plain = true) :
    IsSteady (request env body : ClientM P (Option Body)) :=
  .bind newUuid_still.steady fun _ => .bind (sendFrame_steady rfl h) fun _ => answer_steady body

theorem request_quiet {body : Body} (h : body.plain = true) :
    IsQuiet (request env body : ClientM P (Option Body)) := (request_steady h).quiet_of_steady

/-- The two ends of a query. -/
theorem wp_query {α : Type} {f : Store P → α} {Q : α → World P → Prop} {E : Error → World P → Prop}
    {w : World P} (hQ : Q (f w.store) w.ticked) (hE : ∀ e, E e w.ticked) :
    wp (query env f) Q E w := by
  unfold query
  rw [Prog.wp_bind]
  exact wp_attempt hQ (hE _)

/-- The two ends of a transaction. -/
theorem wp_executeRecording {f : World P → Option (Store P)} {events : World P → List Event}
    {Q : Unit → World P → Prop} {E : Error → World P → Prop} {w : World P}
    (hE : ∀ e, E e w.ticked)
    (hQ : ∀ store, f w.ticked = some store →
      Q () { w.ticked with store, log := events w.ticked ++ w.ticked.log }) :
    wp (executeRecording env f events) Q E w := by
  unfold executeRecording
  rw [Prog.wp_bind]
  refine wp_attempt ?_ (hE _)
  rw [Prog.wp_bind, Prog.wp_gets]
  cases hf : f w.ticked with
  | none =>
    simp only [id, hf]
    exact hE _
  | some store =>
    simp only [id, hf]
    exact hQ store hf

/-- A recorded transaction moves along `R` where its success does and the time does. -/
theorem executeRecording_moves {R : World P → World P → Prop} [Std.Refl R] [IsTrans (World P) R]
    {f : World P → Option (Store P)} {events : World P → List Event}
    (hq : ∀ w w', Quiet w w' → R w w')
    (h : ∀ w store, f w = some store → R w { w with store, log := events w ++ w.log }) :
    Moves R (executeRecording env f events) := .of_wp fun w =>
  have htick : R w w.ticked := hq _ _ (ticked_quiet w)
  wp_executeRecording (fun _ => htick) fun store hs => IsTrans.trans _ _ _ htick (h _ store hs)

theorem execute_moves {R : World P → World P → Prop} [Std.Refl R] [IsTrans (World P) R]
    {f : Store P → Option (Store P)} (hq : ∀ w w', Quiet w w' → R w w')
    (h : ∀ w store, f w.store = some store → R w { w with store }) : Moves R (execute env f) :=
  executeRecording_moves hq h

/-- The tables of the view are the same, but for what leaves the outbox and the notifications. -/
structure Store.SameView (s s' : Store P) : Prop where
  profile : s'.profile = s.profile
  contacts : s'.contacts = s.contacts
  messages : s'.messages = s.messages
  cursor : s'.envelopeCursor = s.envelopeCursor
  handled : s'.processedPairingEvents = s.processedPairingEvents
  /-- Rows leave the outbox. -/
  outbox : ∀ row ∈ s'.outbox, row ∈ s.outbox
  /-- Notifications of other pairing requests do not come. -/
  notices : ∀ r ∈ noticedRequests s'.notifications.rows, r ∈ noticedRequests s.notifications.rows

/-- The outbox and the notifications change as `SameView` has it. -/
theorem Store.SameView.aside {w : World P} {store : Store P} (h : w.store.SameView store) :
    QuietStep w.view { w.view with
      known := (World.view { w with store }).known
      queued := (World.view { w with store }).queued } := by
  refine .aside _ _ (fun r hr => .inl ?_) fun body hb => ?_
  · rcases List.mem_append.1 hr with hr | hr
    · exact List.mem_append_left _ hr
    · exact List.mem_append_right _ (h.notices r hr)
  · obtain ⟨row, hrow, rfl⟩ := List.mem_map.1 hb
    exact List.mem_map_of_mem (h.outbox row hrow)

/-- A transaction on tables outside the view, or on its outbox and notifications. -/
theorem execute_quiet {f : Store P → Option (Store P)}
    (h : ∀ s s', f s = some s' → s.SameView s') : IsQuiet (execute env f) :=
  execute_moves (fun _ _ h => h) fun w store hs => Quiet.of_step (by
    have hstep := (h _ _ hs).aside
    obtain ⟨h₁, h₂, h₃, h₄, h₅, -, -⟩ := h _ _ hs
    simpa [World.view, h₁, h₂, h₃, h₄, h₅] using hstep)

/-- A statement that cannot fail, on tables outside the view. -/
theorem execute_some_quiet {f : Store P → Store P} (h : ∀ s : Store P, s.SameView (f s)) :
    IsQuiet (execute env fun s => some (f s)) :=
  execute_quiet fun s s' hs => by
    cases hs
    exact h s

theorem record_quiet {e : Event} (h : ∀ v : View P, QuietStep v { v with log := e :: v.log }) :
    IsQuiet (record e : ClientM P Unit) := fun w => Quiet.of_step (h w.view)

/-! ## Store functions -/

namespace Store

variable {s s' : Store P}

theorem SameView.refl (s : Store P) : s.SameView s :=
  ⟨rfl, rfl, rfl, rfl, rfl, fun _ h => h, fun _ h => h⟩

/-- Tables that the view does not have. -/
theorem SameView.others (s : Store P) (drafts : Table Draft.conversationId)
    (summaries : Table ConversationSummary.conversationId)
    (tombstones : Table ConversationTombstone.peerAccountId) (statusCursor : Nat) :
    s.SameView { s with drafts, summaries, tombstones, statusCursor } :=
  ⟨rfl, rfl, rfl, rfl, rfl, fun _ h => h, fun _ h => h⟩

theorem SameView.saveDraft (conversation text : String) : s.SameView (s.saveDraft conversation text) := by
  unfold Store.saveDraft
  split <;> exact .others ..

theorem SameView.removeOutbox (id : String) : s.SameView (s.removeOutbox id) :=
  ⟨rfl, rfl, rfl, rfl, rfl, fun _ h => (Table.mem_delete.1 h).1, fun _ h => h⟩

/-- Notifications change in what does not say what they were made of. -/
theorem SameView.update_notifications {p : Notification → Bool} {f : Notification → Notification}
    (hf : ∀ n, (f n).requestId = n.requestId) (hd : ∀ n, (f n).data = n.data) :
    s.SameView { s with notifications := s.notifications.update p f hf } := by
  refine ⟨rfl, rfl, rfl, rfl, rfl, fun _ h => h, fun r hr => ?_⟩
  obtain ⟨n, hn, hnr⟩ := List.mem_filterMap.1 hr
  obtain ⟨n', hn', rfl⟩ := (Table.mem_update hf).1 hn
  refine List.mem_filterMap.2 ⟨n', hn', ?_⟩
  split at hnr
  · rwa [hd] at hnr
  · exact hnr

theorem SameView.updateNotificationState (id : String) (state : NotificationState) (read : Bool)
    (now : Int) : s.SameView (s.updateNotificationState id state read now) := by
  unfold Store.updateNotificationState
  exact .update_notifications _ fun _ => rfl

theorem SameView.markNotificationRead (id : String) (now : Int) :
    s.SameView (s.markNotificationRead id now) := by
  unfold Store.markNotificationRead
  exact .update_notifications _ fun _ => rfl

theorem SameView.delete_notifications (p : Notification → Bool) :
    s.SameView { s with notifications := s.notifications.delete p } := by
  refine ⟨rfl, rfl, rfl, rfl, rfl, fun _ h => h, fun r hr => ?_⟩
  obtain ⟨n, hn, hnr⟩ := List.mem_filterMap.1 hr
  exact List.mem_filterMap.2 ⟨n, (Table.mem_delete.1 hn).1, hnr⟩

theorem mem_noticedRequests_put {t : Table Notification.requestId} {n : Notification}
    {r : PairingRequest} (h : r ∈ noticedRequests (t.put n).rows) :
    r ∈ noticedRequests t.rows ∨ n.data.pairingRequest = some r := by
  obtain ⟨n', hn', hr⟩ := List.mem_filterMap.1 h
  rcases Table.mem_put.1 hn' with rfl | ⟨hn', -⟩
  · exact .inr hr
  · exact .inl (List.mem_filterMap.2 ⟨n', hn', hr⟩)

theorem mem_noticedRequests_list {r : PairingRequest}
    (h : r ∈ noticedRequests s.notificationList) : r ∈ noticedRequests s.notifications.rows := by
  obtain ⟨n, hn, hr⟩ := List.mem_filterMap.1 h
  exact List.mem_filterMap.2 ⟨n, (List.mem_insertionSort _).1 (List.mem_of_mem_take hn), hr⟩

theorem putNotification_eq {n : Notification} (h : s.putNotification n = some s') :
    s' = { s with notifications := s.notifications.put n } := by
  unfold putNotification at h
  split at h
  · cases h
  · cases h; rfl

theorem saveNotification_eq {n : Notification} (h : s.saveNotification n = some s') :
    ∃ n' : Notification, n'.data = n.data ∧
      s' = { s with notifications := s.notifications.put n' } := by
  unfold saveNotification at h
  split at h
  · next old _ => exact ⟨{ n with createdAtMs := old.createdAtMs }, rfl, putNotification_eq h⟩
  · exact ⟨n, rfl, putNotification_eq h⟩

/-- A notification that no pairing request is made of. -/
theorem SameView.saveNotification {n : Notification} (hn : n.data.pairingRequest = none)
    (h : s.saveNotification n = some s') : s.SameView s' := by
  obtain ⟨n', hd, rfl⟩ := saveNotification_eq h
  refine ⟨rfl, rfl, rfl, rfl, rfl, fun _ h => h, fun r hr => ?_⟩
  refine (mem_noticedRequests_put hr).resolve_right fun hr => ?_
  rw [hd, hn] at hr
  cases hr

theorem putTombstone_eq {t : ConversationTombstone} (h : s.putTombstone t = some s') :
    ∃ tombstones, s' = { s with tombstones } := by
  unfold putTombstone at h
  split at h
  · cases h
  · exact ⟨_, (Option.some.inj h).symm⟩

/-- Raising a status changes the status of one message only. -/
theorem raiseStatus_eq (s : Store P) (id : String) (status : MessageStatus) (p : ChatMessage → Bool) :
    ∃ messages summaries, s.raiseStatus id status p = { s with messages, summaries } ∧
      ∀ m ∈ messages, ∃ m' ∈ s.messages, m = { m' with status := m.status } ∧
        (m.status = m'.status ∨ m.id = id ∧ m.status = status ∧ p m' = true) := by
  have same : ∀ m ∈ s.messages, ∃ m' ∈ s.messages, m = { m' with status := m.status } ∧
      (m.status = m'.status ∨ m.id = id ∧ m.status = status ∧ p m' = true) :=
    fun m hm => ⟨m, hm, rfl, .inl rfl⟩
  unfold raiseStatus
  split
  · exact ⟨_, _, rfl, same⟩
  · next found hfound =>
    split
    · next hp =>
      refine ⟨_, _, rfl, fun m hm => ?_⟩
      simp only [Table.mem_update] at hm
      obtain ⟨m', hm', h⟩ := hm
      refine ⟨m', hm', ?_⟩
      split at h
      · next hid =>
        have hfound : m' = found := Table.eq_of_mem hm' (Table.mem_of_find hfound)
          ((of_decide_eq_true hid).trans (Table.key_of_find hfound).symm)
        subst h
        exact ⟨rfl, .inr ⟨of_decide_eq_true hid, rfl, hfound ▸ (Bool.and_eq_true_iff.1 hp).1⟩⟩
      · subst h
        exact ⟨rfl, .inl rfl⟩
    · exact ⟨_, _, rfl, same⟩

/-- A message is inserted, or was there before. -/
theorem insertMessage_eq {m : ChatMessage} (h : s.insertMessage m = some s') :
    ∃ messages summaries, s' = { s with messages, summaries } ∧
      (messages = s.messages ∨ messages = s.messages.insertOrIgnore m) := by
  unfold insertMessage at h
  split at h
  · exact ⟨_, _, (Option.some.inj h).symm, .inl rfl⟩
  · obtain ⟨summaries, -, rfl⟩ := Option.map_eq_some_iff.1 h
    exact ⟨_, _, rfl, .inr rfl⟩

/-- A row stays when a message is inserted. -/
theorem find_insertMessage {m row : ChatMessage} {id : String} (h : s.insertMessage m = some s')
    (hrow : s.messages.find id = some row) : s'.messages.find id = some row := by
  obtain ⟨messages, summaries, rfl, hmessages⟩ := insertMessage_eq h
  rcases hmessages with rfl | rfl
  · exact hrow
  · have hmem : row ∈ s.messages.insertOrIgnore m := Table.mem_insertOrIgnore_of_mem (Table.mem_of_find hrow)
    rw [← Table.key_of_find hrow]
    exact Table.find_of_mem hmem

theorem putContact_eq {row : ContactRow} (h : s.putContact row = some s') :
    s' = { s with contacts := s.contacts.put row } := by
  unfold putContact at h
  split at h
  · cases h
  · cases h; rfl

/-- The row `upsert_contact` finds under the user name is the account's, if it can write one. -/
theorem upsert_found {bundle : UserBundle}
    (h : s.putContact (upsertRow (s.rowByUsername bundle.username) bundle) = some s') {row : ContactRow}
    (hr : s.rowByUsername bundle.username = some row) :
    row ∈ s.contacts ∧ row.accountId = bundle.accountId := by
  have hmem : row ∈ s.contacts := List.mem_of_find?_eq_some hr
  have hname : nocase row.bundle.username = nocase bundle.username := by
    simpa using List.find?_some hr
  refine ⟨hmem, ?_⟩
  by_contra hne
  unfold putContact at h
  rw [if_pos] at h
  · cases h
  · exact List.any_eq_true.2 ⟨row, hmem, by simp [ContactRow.accountId, upsertRow, hname] at hne ⊢; exact hne⟩

/-- Every contact of the list is made of a row. -/
theorem mem_contactList {c : Contact} (h : c ∈ s.contactList) :
    ∃ row ∈ s.contacts, c.bundle = row.bundle ∧ c.verified = row.verified ∧
      c.identityChanged = row.identityChanged := by
  have h' : c ∈ s.contacts.rows.map s.joined := (List.mem_insertionSort _).1 h
  obtain ⟨row, hrow, rfl⟩ := List.mem_map.1 h'
  exact ⟨row, hrow, rfl, rfl, rfl⟩

end Store

/-- A status is raised for a cause. -/
theorem executeRaise_quiet (id : String) (cause : Raise) (p : ChatMessage → Bool)
    (hp : ∀ peer, cause = .readBy peer → ∀ m, p m = true → m.peerAccountId = peer) :
    IsQuiet (executeRecording env (fun w : World P => some (w.store.raiseStatus id cause.status p))
      fun _ => [.raised id cause]) :=
  executeRecording_moves (fun _ _ h => h) fun w store hs => by
    cases hs
    obtain ⟨messages, summaries, heq, h⟩ := w.store.raiseStatus_eq id cause.status p
    rw [heq]
    refine Quiet.of_step (.raised id cause messages fun m hm => ?_)
    obtain ⟨m', hm', he, hstatus⟩ := h m hm
    refine ⟨m', hm', he, hstatus.imp_right fun ⟨hid, hs, hpm⟩ => ⟨hid, hs, fun peer hc => ?_⟩⟩
    rw [he]
    exact hp peer hc m' hpm

/-- The flag of an account's row is set; frames leave the outbox. -/
theorem execute_verifyContact_quiet (account : String) :
    IsQuiet (executeRecording env (fun w : World P => some (w.store.verifyContact account))
      fun w => [.verified account (w.store.keyOf account)]) :=
  executeRecording_moves (fun _ _ h => h) fun w store hs => by
    cases hs
    refine (ReflTransGen.single (QuietStep.verified (v := w.view) account)).tail
      (.aside w.view.known _ (fun _ h => .inl h) fun body hb => ?_)
    obtain ⟨row, hrow, rfl⟩ := List.mem_map.1 hb
    exact List.mem_map_of_mem (Table.mem_delete.1 hrow).1

/-- A conversation goes with what the outbox and the notifications have of it. -/
theorem deletion_path {v : View P} {s : Store P} {requests : List PairingRequest}
    {peer conversation : String} (hr : v.rows = s.contacts) (hm : v.messages = s.messages)
    (hk : v.known = requests ++ noticedRequests s.notifications.rows)
    (hq : v.queued = s.outbox.rows.map fun row => row.encodedFrame.body)
    (own : conversation = conversationId P.sha256 v.profile.accountId peer) :
    ReflTransGen QuietStep v { v with
      rows := (s.deleteConversationState peer conversation).contacts
      messages := (s.deleteConversationState peer conversation).messages
      known := requests ++ noticedRequests (s.deleteConversationState peer conversation).notifications.rows
      queued := (s.deleteConversationState peer conversation).outbox.rows.map
        fun row => row.encodedFrame.body } := by
  have hstep := QuietStep.deleted (v := v) peer conversation own
  rw [hr, hm] at hstep
  refine (ReflTransGen.single hstep).tail (.aside _ _ (fun r hmem => .inl ?_) fun body hb => ?_)
  · show r ∈ v.known
    rw [hk]
    refine (List.mem_append.1 hmem).elim (List.mem_append_left _) fun hmem => ?_
    obtain ⟨n, hn, hnr⟩ := List.mem_filterMap.1 hmem
    exact List.mem_append_right _ (List.mem_filterMap.2 ⟨n, (Table.mem_delete.1 hn).1, hnr⟩)
  · show body ∈ v.queued
    obtain ⟨row, hrow, rfl⟩ := List.mem_map.1 hb
    rw [hq]
    exact List.mem_map_of_mem (Table.mem_delete.1 hrow).1

/-- The account at the position of an account is that account. -/
theorem accountAt_positionOf {contacts : List Contact} {account : Option String}
    (h : (account.all fun a => (positionOf contacts a).isSome) = true) :
    accountAt contacts (account.bind (positionOf contacts)) = account := by
  cases account with
  | none => rfl
  | some a =>
    obtain ⟨i, hi⟩ := Option.isSome_iff_exists.1 (show (positionOf contacts a).isSome = true from h)
    obtain ⟨hlt, heq, -⟩ := List.findIdx?_eq_some_iff_getElem.1 hi
    have hc : contacts[i].bundle.accountId = a := of_decide_eq_true heq
    simp [accountAt, hi, hlt, hc]

theorem loadContacts_quiet : IsQuiet (loadContacts env : ClientM P Unit) :=
  .bind (attempt_quiet _) fun _ => .modify fun w => Quiet.of_step
    (.loaded w.store.contactList _ _ (fun _ hc => Store.mem_contactList hc) ⟨rfl, rfl⟩)

/-- Afterwards the account is selected, if it is in the list. -/
theorem loadContactsSelecting_selected (account : Option String) (w : World P) :
    wp (loadContactsSelecting env account)
      (fun _ w' => Quiet w w' ∧ w'.app.selected = account.bind (positionOf w'.app.contacts))
      (fun _ => Quiet w) w := by
  unfold loadContactsSelecting
  rw [Prog.wp_bind]
  exact wp_attempt ⟨(ticked_quiet w).trans (Quiet.of_step
    (.loaded w.store.contactList _ _ (fun _ hc => Store.mem_contactList hc) ⟨rfl, rfl⟩)), rfl⟩
    (ticked_quiet w)

theorem loadContactsSelecting_quiet (account : Option String) :
    IsQuiet (loadContactsSelecting env account : ClientM P Unit) := .of_wp fun w =>
  (loadContactsSelecting_selected account w).mono (fun _ _ h => h.1) fun _ _ h => h

end TuiChat
