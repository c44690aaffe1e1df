import TuiChat.Client.Exec
import TuiChat.Client.Frames
import TuiChat.Verify.Scenario

/-!
# A new connection asks for what was missed

`sync` sends nothing while an earlier request is marked as in flight. The mark belongs to no connection:
the answer, the timeout and a `connection_closed` frame take it away, a send that fails ends the connection
and leaves it. A reconnection in that state clears nothing, so it asks for no synchronisation
(`reconnected_asks`, `Scenario.FailedSend.stale_request`).
-/

namespace TuiChat

open Lib
open Lib.Prog (Moves wp)

variable {P : Primitives} {env : Environment} {profile : RuntimeProfile P} {w : World P}

def Frame.isSync (f : Frame) : Bool :=
  match f.body with
  | some (.syncRequest _) => true
  | _ => false

/-- A synchronisation was asked for on the current connection. -/
def World.AskedSync (w : World P) : Prop := ∃ f ∈ w.sent, f.isSync = true

instance : Decidable w.AskedSync := inferInstanceAs (Decidable (∃ f ∈ w.sent, f.isSync = true))

/-- No synchronisation was asked for on the current connection, and no stored frame asks for one. -/
structure World.SyncFree (w : World P) : Prop where
  outbox : ∀ row ∈ w.store.outbox, row.encodedFrame.isSync = false
  sent : ∀ f ∈ w.sent, f.isSync = false

theorem World.SyncFree.not_asked (h : w.SyncFree) : ¬ w.AskedSync := fun ⟨f, hf, hs⟩ => by
  rw [h.sent f hf] at hs
  cases hs

/-- The connection and the mark stay as they are, and no synchronisation is asked for. -/
structure Calm (w w' : World P) : Prop where
  connected : w'.app.connected = w.app.connected
  inFlight : w'.app.syncInFlight = w.app.syncInFlight
  free : w.SyncFree → w'.SyncFree

theorem Calm.trans {w w' w'' : World P} (h : Calm w w') (h' : Calm w' w'') : Calm w w'' :=
  ⟨h'.connected.trans h.connected, h'.inFlight.trans h.inFlight, fun hw => h'.free (h.free hw)⟩

instance : Std.Refl (Calm (P := P)) := ⟨fun _ => ⟨rfl, rfl, id⟩⟩

instance : IsTrans (World P) Calm := ⟨fun _ _ _ h h' => h.trans h'⟩

/-- Every run of `m` keeps the connection, and asks for no synchronisation. -/
abbrev IsCalm {α : Type} (m : ClientM P α) : Prop := Moves Calm m

/-! ## Effects -/

theorem modifyApp_calm {f : App P → App P} (hc : ∀ app, (f app).connected = app.connected)
    (hi : ∀ app, (f app).syncInFlight = app.syncInFlight) : IsCalm (modifyApp f) := fun w =>
  ⟨hc w.app, hi w.app, fun h => ⟨h.outbox, h.sent⟩⟩

theorem setStatus_calm (s : String) : IsCalm (setStatus s : ClientM P Unit) :=
  modifyApp_calm (fun _ => rfl) fun _ => rfl

theorem getApp_calm {α : Type} (f : App P → α) : IsCalm (getApp f) := .gets _

theorem record_calm (e : Event) : IsCalm (record e : ClientM P Unit) :=
  .modify fun _ => ⟨rfl, rfl, fun h => ⟨h.outbox, h.sent⟩⟩

theorem draw_calm : IsCalm (draw : ClientM P Nat) :=
  .bind (.gets _) fun _ => .bind (.modify fun _ => ⟨rfl, rfl, fun h => ⟨h.outbox, h.sent⟩⟩) fun _ => .pure _

theorem nowMs_calm : IsCalm (nowMs env : ClientM P Int) := .bind draw_calm fun _ => .pure _

theorem instantNow_calm : IsCalm (instantNow env : ClientM P Nat) := .bind draw_calm fun _ => .pure _

theorem newUuid_calm : IsCalm (newUuid env : ClientM P String) := .bind draw_calm fun _ => .pure _

theorem attempt_calm (e : Error) : IsCalm (attempt env e : ClientM P Unit) :=
  .bind draw_calm fun _ => .ensure _ _

theorem query_calm {α : Type} (f : Store P → α) : IsCalm (query env f) :=
  .bind (attempt_calm _) fun _ => .gets _

theorem sendFrame_calm {f : Frame} (h : f.isSync = false) : IsCalm (sendFrame env f : ClientM P Unit) := by
  refine .bind (attempt_calm _) fun _ => .modify fun w => ⟨rfl, rfl, fun hw => ⟨hw.outbox, fun f' hf' => ?_⟩⟩
  rcases List.mem_append.1 hf' with hf' | hf'
  · exact hw.sent f' hf'
  · rwa [List.mem_singleton.1 hf']

theorem request_calm {body : Body} (h : ∀ id, (frame id body).isSync = false) :
    IsCalm (request env body : ClientM P (Option Body)) :=
  .bind newUuid_calm fun id => .bind (sendFrame_calm (h id)) fun _ => .bind draw_calm fun n => by
    split
    · exact .fail _
    · exact .fail _
    · exact .pure _

/-- A transaction that puts no synchronisation into the outbox. -/
theorem wp_executeRecording_calm {f : World P → Option (Store P)} {events : World P → List Event}
    (h : ∀ store, f w.ticked = some store → (∀ row ∈ w.store.outbox, row.encodedFrame.isSync = false) →
      ∀ row ∈ store.outbox, row.encodedFrame.isSync = false) :
    wp (executeRecording env f events) (fun _ => Calm w) (fun _ => Calm w) w := by
  have htick : Calm w w.ticked := ⟨rfl, rfl, fun h => ⟨h.outbox, h.sent⟩⟩
  exact wp_executeRecording (fun _ => htick) fun store hs =>
    ⟨rfl, rfl, fun hw => ⟨h store hs hw.outbox, hw.sent⟩⟩

/-- A transaction that leaves the outbox alone. -/
theorem execute_calm {f : Store P → Store P} (h : ∀ s, (f s).outbox = s.outbox) :
    IsCalm (execute env fun s => some (f s)) := .of_wp fun w => wp_executeRecording_calm fun store hs hw => by
  cases hs
  rw [h]
  exact hw

theorem lookupBundleFresh_calm (username : String) :
    IsCalm (lookupBundleFresh env username : ClientM P UserBundle) := by
  have hcache : ∀ bundle, IsCalm (cacheBundle env bundle : ClientM P Unit) := fun bundle =>
    .bind instantNow_calm fun _ => modifyApp_calm (fun _ => rfl) fun _ => rfl
  exact .bind (request_calm fun _ => rfl) fun _ => .bind (.orFail _ _) fun bundle =>
    .bind (hcache bundle) fun _ => .pure _

/-! ## Encryption and the outbox -/

theorem encryptFor_calm (m : OlmMachine P.olm) (d : DeviceBundle) (account : String) (payload : Bytes) :
    IsCalm (encryptFor env m d account payload : ClientM P (EncryptedOlm × OlmMachine P.olm)) := by
  have hencrypt : IsCalm (encryptOlm env m d account payload : ClientM P (EncryptedOlm × OlmMachine P.olm)) := by
    unfold encryptOlm
    refine .ite (fun _ => .bind draw_calm fun _ => .ofExcept _) fun _ => ?_
    refine .bind (request_calm fun _ => rfl) fun _ => .bind (.orFail _ _) fun _ => .bind (.orFail _ _) fun _ => ?_
    refine .bind (.orFail _ _) fun _ => .bind (.ensure _ _) fun _ => .bind (.ofExcept _) fun _ => ?_
    exact .bind (.ensure _ _) fun _ => .bind (.ensure _ _) fun _ => .bind draw_calm fun _ => .ofExcept _
  exact .bind hencrypt fun _ => .bind (record_calm _) fun _ => .pure _

theorem encryptTargets_calm (o : Outgoing) : ∀ (targets : List Target) (m : OlmMachine P.olm),
    IsCalm (encryptTargets env o m targets : ClientM P (List EncryptedEnvelope × OlmMachine P.olm))
  | [], _ => .pure _
  | t :: ts, m => .bind (.ofExcept _) fun _ => .bind (encryptFor_calm m t.device t.accountId o.payload) fun r =>
    .bind newUuid_calm fun _ => .bind (encryptTargets_calm o ts r.2) fun _ => .pure _

theorem dispatchBackground_calm {f : Frame} (operation : BackgroundRequest) (h : f.isSync = false) :
    IsCalm (dispatchBackground env f operation : ClientM P Unit) := by
  refine .bind (getApp_calm _) fun taken => .bind newUuid_calm fun fresh => .bind (sendFrame_calm ?_) fun _ => ?_
  · split <;> exact h
  · exact .bind instantNow_calm fun _ => modifyApp_calm (fun _ => rfl) fun _ => rfl

/-- Only messages are put into the outbox. -/
theorem queueControl_calm (id : String) (envelopes : List EncryptedEnvelope) (m : OlmMachine P.olm) :
    IsCalm (queueControl env id envelopes m : ClientM P Unit) := by
  refine .bind newUuid_calm fun uuid => .bind nowMs_calm fun now => .bind ?_ fun _ =>
    dispatchBackground_calm _ rfl
  refine .of_wp fun w => wp_commitMachine (fun _ => ⟨rfl, rfl, fun h => ⟨h.outbox, h.sent⟩⟩) fun store hs => ?_
  cases hs
  refine ⟨rfl, rfl, fun hw => ⟨fun row hrow => ?_, hw.sent⟩⟩
  rcases Table.mem_put.1 hrow with rfl | ⟨hold, -⟩
  · rfl
  · exact hw.outbox row hold

theorem syncPendingConversationDeletions_calm :
    IsCalm (syncPendingConversationDeletions env : ClientM P Unit) := by
  refine .bind (getApp_calm _) fun idle => .ite (fun _ => .pure _) fun _ => ?_
  refine .bind (query_calm _) fun tombstones => .ite (fun _ => .pure _) fun _ => ?_
  refine .bind (getApp_calm _) fun _ => .bind (lookupBundleFresh_calm _) fun _ => ?_
  refine .bind (.ofExcept _) fun _ => .bind (.ensure _ _) fun _ => .each fun t _ => ?_
  refine .bind (query_calm _) fun queued => .ite (fun _ => .pure _) fun _ => ?_
  refine .ite (fun _ => execute_calm fun _ => rfl) fun _ => ?_
  exact .bind (getApp_calm _) fun _ => .bind (.ensure _ _) fun _ => .bind (getApp_calm _) fun _ =>
    .bind (encryptTargets_calm _ _ _) fun _ => queueControl_calm _ _ _

theorem resend_calm {item : String × Frame} (h : item.2.isSync = false) :
    IsCalm (resend env item : ClientM P Unit) :=
  .bind (getApp_calm _) fun _ => .ite (fun _ => .pure _) fun _ =>
    .bind (.succeeds (.bind (.ensure _ _) fun _ => dispatchBackground_calm _ h)) fun _ =>
      .ite (fun _ => .pure _) fun _ => setStatus_calm _

/-- The frames of the outbox are handed over as they are stored. -/
theorem wp_resendOutbox (h : w.SyncFree) :
    wp (resendOutbox env) (fun _ => Calm w) (fun _ => Calm w) w := by
  refine (Moves.succeeds (attempt_calm _)).wp_bind (fun _ _ hw => hw) fun readable w₁ hw₁ => ?_
  rw [Prog.wp_ite]
  refine ⟨fun _ => ?_, fun _ => hw₁⟩
  rw [Prog.wp_bind, Prog.wp_gets]
  have hitems : ∀ item ∈ w₁.store.outboxList, item.2.isSync = false := by
    intro item hitem
    obtain ⟨row, hrow, rfl⟩ := List.mem_map.1 hitem
    exact (hw₁.free h).outbox row ((List.perm_insertionSort _ _).mem_iff.1 hrow)
  have hrest : IsCalm (do
      let now ← instantNow env
      modifyApp fun app => { app with
        outboxRetryAfter := app.outboxRetryAfter.delete fun entry => entry.2 ≤ now }
      Prog.each (resend env) w₁.store.outboxList : ClientM P Unit) :=
    .bind instantNow_calm fun _ => .bind (modifyApp_calm (fun _ => rfl) fun _ => rfl) fun _ =>
      .each fun item hitem => resend_calm (hitems item hitem)
  exact (hrest.wp w₁).mono (fun _ _ h => hw₁.trans h) fun _ _ h => hw₁.trans h

theorem instantNow_total : (instantNow env : ClientM P Nat).Total :=
  .bind (.bind (.gets _) fun _ => .bind (.modify _) fun _ => .pure _) fun _ => .pure _

theorem resendOutbox_total : (resendOutbox env : ClientM P Unit).Total := by
  refine .bind (.succeeds _) fun _ => .ite ?_ (.pure _)
  refine .bind (.gets _) fun _ => .bind instantNow_total fun _ => .bind (.modify _) fun _ => .each (fun item => ?_) _
  exact .bind (.gets _) fun _ => .ite (.pure _) <| .bind (.succeeds _) fun _ => .ite (.pure _) (.modify _)

/-! ## The synchronisation -/

/-- What a reconnection does before it synchronises. -/
def connecting (env : Environment) (capabilities : List String) : ClientM P Unit := do
  Prog.modify fun w => { w with sent := [] }
  modifyApp fun app => { app with
    profile := { app.profile with serverCapabilities := capabilities }
    connected := true
    postActivationSync := false }
  let profile ← getApp App.profile
  let _ ← Prog.succeeds (execute env fun s => some (s.saveProfile profile))
  setStatus "已重新连接，正在后台补拉离线消息"
  resendOutbox env
  let _ ← Prog.succeeds (syncPendingConversationDeletions env)

/-- The state in which a reconnection comes to its synchronisation. -/
def World.connecting (w : World P) (env : Environment) (capabilities : List String) : World P :=
  ((TuiChat.connecting env capabilities).exec w).2

theorem connecting_total (capabilities : List String) : (connecting env capabilities : ClientM P Unit).Total := by
  refine .bind (.modify _) fun _ => .bind (.modify _) fun _ => .bind (.gets _) fun _ => .bind (.succeeds _) fun _ => ?_
  exact .bind (.modify _) fun _ => .bind resendOutbox_total fun _ => .bind (.succeeds _) fun _ => .pure _

/-- The connection is up, nothing was asked for on it, and the mark is the old one. -/
theorem wp_connecting (capabilities : List String) (h : ∀ row ∈ w.store.outbox, row.encodedFrame.isSync = false) :
    wp (connecting env capabilities) (fun _ w' =>
      w'.app.connected = true ∧ w'.app.syncInFlight = w.app.syncInFlight ∧ w'.SyncFree)
      (fun _ _ => False) w := by
  refine (connecting_total capabilities).wp (I := fun w' : World P =>
    w'.app.connected = true ∧ w'.app.syncInFlight = w.app.syncInFlight ∧ w'.SyncFree) ?_
  -- The new connection: nothing was handed to it.
  let w₀ : World P := { w with
    sent := []
    app := { w.app with
      profile := { w.app.profile with serverCapabilities := capabilities }
      connected := true
      postActivationSync := false } }
  have hfree : w₀.SyncFree := ⟨h, nofun⟩
  have hcalm : ∀ w' : World P, Calm w₀ w' →
      w'.app.connected = true ∧ w'.app.syncInFlight = w.app.syncInFlight ∧ w'.SyncFree :=
    fun w' h => ⟨h.connected, h.inFlight, h.free hfree⟩
  unfold connecting
  rw [Prog.wp_bind, Prog.wp_modify, wp_modifyApp_bind, wp_getApp_bind]
  refine (Moves.succeeds (execute_calm (f := fun s => s.saveProfile w₀.app.profile) fun _ => rfl)).wp_bind (fun _ _ h => hcalm _ h) fun _ w₁ hw₁ => ?_
  refine (setStatus_calm _).wp_bind (fun _ _ h => hcalm _ (hw₁.trans h)) fun _ w₂ hw₂ => ?_
  replace hw₂ := hw₁.trans hw₂
  rw [Prog.wp_bind]
  refine (wp_resendOutbox (hw₂.free hfree)).mono (fun _ w₃ hw₃ => ?_) fun _ _ h => hcalm _ (hw₂.trans h)
  replace hw₃ := hw₂.trans hw₃
  refine (Moves.succeeds syncPendingConversationDeletions_calm).wp_bind (fun _ _ h => hcalm _ (hw₃.trans h))
    fun _ w₄ hw₄ => ?_
  exact hcalm _ (hw₃.trans hw₄)

/-- The request goes to the connection, under some id, if the queue has room for it. -/
theorem dispatchBackground_sends {f : Frame} {operation : BackgroundRequest}
    (hroom : env.works w.ticked.tick = true) :
    wp (dispatchBackground env f operation) (fun _ w' => ∃ id, w'.sent = w.sent ++ [{ f with id }])
      (fun _ _ => False) w := by
  unfold dispatchBackground sendFrame
  rw [wp_getApp_bind, Prog.wp_bind, wp_newUuid_iff, Prog.wp_bind, Prog.wp_bind, wp_attempt_iff]
  refine ⟨fun _ => ?_, (absurd hroom ·)⟩
  rw [Prog.wp_modify, Prog.wp_bind]
  split
  · exact ⟨env.uuid w.tick, rfl⟩
  · exact ⟨f.id, rfl⟩

/-- A synchronisation is asked for if none is marked as in flight and the store has the cursors. The queue
is offered the request three steps after the store was asked. -/
theorem sync_asked (hc : w.app.connected = true) (hf : w.SyncFree) (hroom : env.works (w.tick + 3) = true) :
    ((sync env).exec w).2.AskedSync ↔ w.app.syncInFlight = false ∧ env.works w.tick = true := by
  rw [← Prog.wp_state (P := World.AskedSync)]
  unfold sync query
  rw [wp_getApp_bind, Prog.wp_bind, Prog.wp_ensure, wp_getApp_bind, Prog.wp_ite]
  have hnone : ¬ w.ticked.AskedSync := fun ⟨f, hmem, hs⟩ => hf.not_asked ⟨f, hmem, hs⟩
  cases hi : w.app.syncInFlight with
  | true =>
    have hstatus : ¬ wp (setStatus "同步请求正在后台执行" : ClientM P Unit) (fun _ => World.AskedSync)
        (fun _ => World.AskedSync) w := hnone
    simp [hc, hstatus]
  | false =>
    rw [Prog.wp_bind, Prog.wp_bind, wp_attempt_iff]
    by_cases hstore : env.works w.tick = true
    · have hasks : ∀ cursors : Nat × Nat, wp (do
          let id ← newUuid env
          dispatchBackground env (frame id (.syncRequest
            { afterCursor := cursors.1, limit := 100, afterStatusCursor := cursors.2 })) .sync
          modifyApp fun app => { app with syncInFlight := true }
          setStatus "已在后台请求同步" : ClientM P Unit)
          (fun _ => World.AskedSync) (fun _ => World.AskedSync) w.ticked := by
        intro cursors
        rw [Prog.wp_bind, wp_newUuid_iff, Prog.wp_bind]
        refine (dispatchBackground_sends hroom).mono (fun _ w' ⟨id, hw'⟩ => ?_) fun _ _ h => h.elim
        refine ⟨frame id (.syncRequest
          { afterCursor := cursors.1, limit := 100, afterStatusCursor := cursors.2 }), ?_, rfl⟩
        show _ ∈ w'.sent
        rw [hw']
        exact List.mem_append_right _ List.mem_cons_self
      have h := hasks (w.store.envelopeCursor, w.store.statusCursor)
      exact ⟨fun _ => ⟨rfl, hstore⟩, fun _ => ⟨fun _ => ⟨nofun, fun _ => ⟨fun _ => h, absurd hstore⟩⟩, (absurd hc ·)⟩⟩
    · simp [hc, hstore, hnone]

theorem after_reconnected (capabilities : List String) :
    w.after env (.reconnected capabilities) = ((sync env).exec (w.connecting env capabilities)).2 := by
  generalize hw' : ((sync env).exec (w.connecting env capabilities)).2 = w'
  have hbefore : wp (connecting env capabilities) (fun _ w₁ => w₁ = w.connecting env capabilities)
      (fun _ _ => False) w := (connecting_total capabilities).wp (I := fun w₁ => w₁ = w.connecting env capabilities) (Prog.wp_state.2 rfl)
  have hall : wp (reconnected env capabilities) (fun _ => (· = w')) (fun _ => (· = w')) w := by
    have h : wp (connecting env capabilities)
        (fun _ => wp (Prog.succeeds (sync env)) (fun _ => (· = w')) fun _ => (· = w')) (fun _ => (· = w')) w := by
      refine hbefore.mono (fun _ w₁ hw₁ => ?_) fun _ _ h => h.elim
      subst hw₁
      rw [Prog.wp_succeeds]
      exact Prog.wp_state.2 hw'
    · simp only [connecting, wp_bind_eq] at h
      simp only [reconnected, catchUp, wp_bind_eq]
      exact h
  exact Prog.wp_state.1 hall

/-- In every run, a reconnection asks for a synchronisation if and only if no request of an earlier connection
is marked as in flight and the store has the cursors, where the queue of the new connection has room for it. -/
theorem reconnected_asks (hw : (clientSystem env profile).Reachable w) (capabilities : List String)
    (hroom : env.works ((w.connecting env capabilities).tick + 3) = true) :
    (w.after env (.reconnected capabilities)).AskedSync ↔
      w.app.syncInFlight = false ∧ env.works (w.connecting env capabilities).tick = true := by
  have houtbox : ∀ row ∈ w.store.outbox, row.encodedFrame.isSync = false := by
    intro row hrow
    obtain ⟨m, hm⟩ := queues hw _ (List.mem_map_of_mem hrow)
    unfold Frame.isSync
    rw [hm]
  have hconnecting := @wp_connecting _ env _ capabilities houtbox
  obtain ⟨hc, hi, hf⟩ := Prog.wp_state.1 (hconnecting.mono (fun _ _ h => h) fun _ _ h => h.elim)
  rw [after_reconnected capabilities, ← hi]
  exact sync_asked hc hf hroom

namespace Scenario.FailedSend

def receipt : WirePayload := payload "read_batch" "bob" "bob" "alice" "" ["0"]

/-- The queue of the first connection is full when a text is sent. -/
def full : Environment :=
  { environment (fun _ => [bundle "alice" 1 [("a1", 2)], bundle "bob" 5 [("b1", 6)]]) [receipt] with
    works := fun n => n ≠ 34 }

def alice : RuntimeProfile primitives := firstDevice "alice" "a1" 1 2

/-- Alice verifies Bob, which asks for a synchronisation, and the text she writes to him cannot be sent. -/
def cutOff : List Action :=
  [ .serverEvent (batch [envelope 1 "b1" "c" 6 "a1" receipt])
  , .selectIndex 0
  , .verifySelected
  , .sendText "hello" ]

/-- The end of the connection is read before the new one comes. -/
def closed : List Action :=
  cutOff ++ [.serverEvent (frame "" (.error { code := "connection_closed", message := "", retryable := true }))]

def before (actions : List Action) : World primitives := (World.ofProfile alice).afterAll full actions

theorem reconnected_asks_closed :
    ((before closed).after full (.reconnected [])).AskedSync ↔
      (before closed).app.syncInFlight = false ∧
        full.works ((before closed).connecting full []).tick = true := by
  have hw : (clientSystem full alice).Reachable (before closed) := reachable_ofProfile _ _ _
  exact reconnected_asks hw [] (by decide +kernel)

/-- The reconnection after the failed send has room in its queue and an answer of the store; the text is sent
again, and no synchronisation is asked for. -/
theorem stale_request :
    (clientSystem full alice).Reachable (before cutOff) ∧
      (before cutOff).app.connected = false ∧
      full.works ((before cutOff).connecting full []).tick = true ∧
      full.works (((before cutOff).connecting full []).tick + 3) = true ∧
      ((before cutOff).after full (.reconnected [])).sent ≠ [] ∧
      ¬ ((before cutOff).after full (.reconnected [])).AskedSync :=
  ⟨reachable_ofProfile _ _ _, by decide +kernel⟩

/-- Without the mark the reconnection asks. -/
example : ((before closed).after full (.reconnected [])).AskedSync := by decide +kernel

end Scenario.FailedSend

end TuiChat
