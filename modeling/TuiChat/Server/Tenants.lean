import TuiChat.Server.FrameSteps

/-!
# The frames of a session

What a frame of an active session does to the database, handler by handler: every write takes its rows from
the session, from what the frame names, and from databases that the handler has read (`serve_confined`). What it
has read may be known to be the current database, while nobody else writes, or only one that there was; the proofs
are the same (`Memory`).
-/

namespace TuiChat

open Lib
open Lib.Proc (wp Moves)

/-- What is known of the databases that a program has read. -/
structure Memory where
  seen : AppState → Db → Prop
  now : ∀ s, seen s s.db
  same : ∀ {s s' : AppState} {db : Db}, s'.db = s.db → s'.past = s.past → seen s db → seen s' db

namespace Memory

/-- They were there. -/
def all : Memory where
  seen := AppState.Had
  now _ := .inl rfl
  same hdb hpast h := by
    unfold AppState.Had at h ⊢
    rwa [hdb, hpast]

/-- They are as the database is now, as long as nobody else writes. -/
def current : Memory where
  seen s db := db = s.db
  now _ := rfl
  same hdb _ h := h.trans hdb.symm

/-- What was known is still known. -/
def Kept (M : Memory) (s s' : AppState) : Prop := ∀ db, M.seen s db → M.seen s' db

variable {M : Memory}

instance : Std.Refl M.Kept := ⟨fun _ _ h => h⟩

instance : IsTrans AppState M.Kept := ⟨fun _ _ _ h h' db hdb => h' db (h db hdb)⟩

theorem Kept.of_same {s s' : AppState} (hdb : s'.db = s.db) (hpast : s'.past = s.past) : M.Kept s s' :=
  fun _ h => M.same hdb hpast h

end Memory

/-- What the database becomes by a write for a frame of the session. -/
inductive Session.Touches (M : Memory) (session : Session) (s : AppState) : Body → Db → Prop
  | acked (m : AckEnvelope) (now : Int) :
    Touches M session s (.ackEnvelope m) (s.db.ack session.deviceId m.envelopeId now).2
  | pairingAcked (m : AckPairingEvent) :
    Touches M session s (.ackPairingEvent m) (s.db.ackPairingEvent session.deviceId m.serverEventId).2
  | pairing (m : PairingEvent) (expiresAtMs : Int) {r : Nat × Db}
      (sender : ∃ db, M.seen s db ∧ (db.device session.account.id session.deviceId).isSome)
      (target : ∃ db, M.seen s db ∧ db.deviceAccountAny m.targetDeviceId = some session.account.id)
      (write : s.db.insertPairingEvent m.pairingId session.deviceId m.targetDeviceId m.eventType m.payload
        expiresAtMs = .ok r) : Touches M session s (.pairingEvent m) r.2
  | activated (m : ActivateDevice) (bundle : DeviceBundle) {db : Db} (device : m.device = some bundle)
      (write : s.db.activateDevice session.account.id bundle.deviceId m.rosterRevision
        bundle.certificateSignature = .ok db) : Touches M session s (.activateDevice m) db
  | revoked (m : RevokeOwnDevice) :
    Touches M session s (.revokeOwnDevice m) (s.db.markRevoked session.account.id m.deviceId).2
  | cleaned (m : RevokeOwnDevice)
      (device : ∃ db row, M.seen s db ∧ db.device session.account.id m.deviceId = some row ∧ row.revoked = true) :
    Touches M session s (.revokeOwnDevice m) (s.db.cleanupRevokedDevice m.deviceId)
  | audited (m : RevokeOwnDevice) :
    Touches M session s (.revokeOwnDevice m)
      (s.db.recordAudit "device" session.account.username "self_service_revoke" m.deviceId "success")

/-- One action for a frame: what it writes, and what it sends a page of. -/
structure InScope (M : Memory) (session : Session) (body : Body) (w w' : ServerWorld) : Prop where
  db : w'.1.db = w.1.db ∨ session.Touches M w.1 body w'.1.db
  page : w'.1.out = w.1.out ∨ ∃ t f, w'.1.out = w.1.out ++ [(t, f)] ∧ ∀ batch, f.body = some (.syncBatch batch) →
    ∃ m db, body = .syncRequest m ∧ M.seen w.1 db ∧
      batch = Ws.syncPage db session.account.id session.deviceId m

/-- An action that writes nothing and sends no page. -/
structure Silent (w w' : ServerWorld) : Prop where
  db : w'.1.db = w.1.db
  past : w'.1.past = w.1.past
  session : w'.2.session = w.2.session
  out : w'.1.out = w.1.out ∨ ∃ t f, w'.1.out = w.1.out ++ [(t, f)] ∧ ∀ batch, f.body ≠ some (.syncBatch batch)

abbrev IsSilent {α : Type} (m : ServerM α) : Prop := Proc.All Silent m

/-- What was known is known, and the session is the same. -/
def Follows (M : Memory) (w w' : ServerWorld) : Prop := M.Kept w.1 w'.1 ∧ w'.2.session = w.2.session

instance {M : Memory} : Std.Refl (Follows M) := ⟨fun w => ⟨refl_of M.Kept w.1, rfl⟩⟩

instance {M : Memory} : IsTrans ServerWorld (Follows M) :=
  ⟨fun _ _ _ h h' => ⟨IsTrans.trans _ _ _ h.1 h'.1, h'.2.trans h.2⟩⟩

/-- Every action of `m` is in the scope of the frame, from here on. -/
abbrev Confined {α : Type} (M : Memory) (session : Session) (body : Body) (m : ServerM α) (w : ServerWorld) : Prop :=
  wp (Pool.Interferes M.Kept) (InScope M session body) m (fun _ _ => True) (fun _ _ => True) w

section

variable {M : Memory} {session : Session} {body : Body} {α β : Type} {w : ServerWorld}

theorem Silent.inScope {w' : ServerWorld} (h : Silent w w') : InScope M session body w w' where
  db := .inl h.db
  page := h.out.imp_right fun ⟨t, f, hout, hf⟩ => ⟨t, f, hout, fun batch hbatch => absurd hbatch (hf batch)⟩

theorem Silent.follows {w' : ServerWorld} (h : Silent w w') : Follows M w w' := ⟨.of_same h.db h.past, h.session⟩

/-! ## Rules -/

theorem IsSilent.moves {m : ServerM α} (h : IsSilent m) :
    Moves (Pool.Interferes M.Kept) (InScope M session body) (Follows M) m :=
  Proc.All.moves h fun w w' w'' hr hq =>
    have hrest : Follows M w' w'' := hq.follows
    ⟨hq.inScope, IsTrans.trans w w' w'' ⟨hr.1, congrArg Connection.session hr.2⟩ hrest⟩

theorem IsSilent.confined {m : ServerM α} (h : IsSilent m) (w : ServerWorld) : Confined M session body m w :=
  wp.mono (h.moves w) (fun _ _ h => h) (fun _ _ _ => trivial) fun _ _ _ => trivial

theorem Confined.then {m : ServerM β} {g : β → ServerM α} (h : IsSilent m)
    (hg : ∀ b w', Follows M w w' → Confined M session body (g b) w') : Confined M session body (m >>= g) w :=
  h.moves.wp_bind (fun _ _ _ => trivial) hg

theorem Confined.ensure {p : Prop} [Decidable p] {e : Error} {g : Unit → ServerM α}
    (hg : p → Confined M session body (g ()) w) : Confined M session body (Proc.ensure p e >>= g) w :=
  wp.ensure trivial hg

theorem Confined.orFail {o : Option β} {e : Error} {g : β → ServerM α}
    (hg : ∀ b, o = some b → Confined M session body (g b) w) : Confined M session body (Proc.orFail o e >>= g) w :=
  wp.orFail trivial hg

theorem Confined.ofExcept {r : Except Error β} {g : β → ServerM α}
    (hg : ∀ b, r = .ok b → Confined M session body (g b) w) : Confined M session body (Proc.ofExcept r >>= g) w :=
  wp.ofExcept (fun _ => trivial) hg

end

/-- The row of the device that was marked. -/
theorem Db.device_of_markRevoked {db : Db} {accountId deviceId : String}
    (h : (db.markRevoked accountId deviceId).1 = true) :
    ∃ row, (db.markRevoked accountId deviceId).2.device accountId deviceId = some row ∧ row.revoked = true := by
  unfold markRevoked at h ⊢
  split at h
  · next hfound =>
    rw [if_pos hfound]
    obtain ⟨row, hrow, -⟩ := (Option.any_eq_true _ _).1 hfound
    obtain ⟨hfind, haccount⟩ := Option.filter_eq_some_iff.1 hrow
    rw [decide_eq_true_eq] at haccount
    have hid : row.id = deviceId := Table.key_of_find hfind
    refine ⟨{ row with revoked := true }, ?_, rfl⟩
    have hkey : ∀ row : DeviceRow, ({ row with revoked := true } : DeviceRow).id = row.id := fun _ => rfl
    show ((db.devices.update _ _ hkey).find deviceId).filter _ = _
    rw [Table.find_update hkey, hfind]
    simp [haccount, hid]
  · cases h

namespace Ws

variable {env : ServerEnvironment} {P : Primitives} {i : Nat} {M : Memory} {session : Session} {body : Body}
  {α β : Type} {w : ServerWorld}

/-! ## Effects -/

theorem action_silent {f : ServerWorld → Except Error α × ServerWorld} (h : ∀ w, Silent w (f w).2) :
    IsSilent (Proc.atomically f) :=
  .atomically fun _ w _ => ⟨h w, trivial⟩

theorem learn_silent {r : Nat → Except Error α} : IsSilent (learn fun n w => (r n, w)) :=
  action_silent fun _ => ⟨rfl, rfl, rfl, .inl rfl⟩

theorem nowMs_silent : IsSilent (nowMs env) := learn_silent

theorem getState_silent {f : AppState → α} : IsSilent (getState f) := action_silent fun _ => ⟨rfl, rfl, rfl, .inl rfl⟩

theorem getConnection_silent {f : Connection → α} : IsSilent (getConnection f) :=
  action_silent fun _ => ⟨rfl, rfl, rfl, .inl rfl⟩

theorem modifyConnection_silent {f : Connection → Connection} (h : ∀ c, (f c).session = c.session) :
    IsSilent (modifyConnection f) := action_silent fun w => ⟨rfl, rfl, h w.2, .inl rfl⟩

theorem modifyState_silent {f : AppState → AppState}
    (h : ∀ s, (f s).db = s.db ∧ (f s).past = s.past ∧ (f s).out = s.out) : IsSilent (modifyState f) :=
  action_silent fun w => ⟨(h w.1).1, (h w.1).2.1, rfl, .inl (h w.1).2.2⟩

theorem queryRecording_silent {f : Db → α} {events : α → List ConnectionEvent} :
    IsSilent (queryRecording env f events) := action_silent fun w => by
  dsimp only
  split
  · exact ⟨rfl, rfl, rfl, .inl rfl⟩
  · exact ⟨rfl, rfl, rfl, .inl rfl⟩

theorem query_silent {f : Db → α} : IsSilent (query env f) := queryRecording_silent

theorem send_silent {t : Nat} {f : Frame} (hf : ∀ batch, f.body ≠ some (.syncBatch batch)) : IsSilent (send env t f) :=
  action_silent fun w => by
    dsimp only
    split
    · exact ⟨rfl, rfl, rfl, .inr ⟨t, f, rfl, hf⟩⟩
    · exact ⟨rfl, rfl, rfl, .inl rfl⟩

theorem trySend_silent {t : Nat} {f : Frame} (hf : ∀ batch, f.body ≠ some (.syncBatch batch)) :
    IsSilent (trySend env t f) :=
  .bind (.caught (send_silent hf)) fun _ => .pure _

theorem reply_silent {id : String} (hbody : ∀ batch, body ≠ .syncBatch batch) : IsSilent (reply env i id body) :=
  send_silent fun batch h => hbody batch (Option.some.inj h)

theorem sendError_silent {t : Nat} {id code message : String} {retryable : Bool} :
    IsSilent (sendError env t id code message retryable) := trySend_silent fun _ => nofun

theorem pushDevice_silent {deviceId : String} {f : Frame} (hf : ∀ batch, f.body ≠ some (.syncBatch batch)) :
    IsSilent (pushDevice env deviceId f) :=
  .bind getState_silent fun live => by
    cases live with
    | none => exact .pure _
    | some live => exact trySend_silent hf

theorem pushAccount_silent {accountId : String} {f : Frame} (hf : ∀ batch, f.body ≠ some (.syncBatch batch)) :
    IsSilent (pushAccount env accountId f) :=
  .bind getState_silent fun _ => .each fun _ _ => trySend_silent hf

theorem kickDevice_silent {deviceId reason : String} : IsSilent (kickDevice deviceId reason) :=
  .bind getState_silent fun live => by
    cases live with
    | none => exact .pure _
    | some live => exact modifyState_silent fun _ => ⟨rfl, rfl, rfl⟩

theorem confirm_silent {id : String} : IsSilent (confirm env i id) :=
  .ite (fun _ => .pure _) fun _ => reply_silent fun _ => nofun

theorem ownDeviceList_silent {accountId deviceId : String} : IsSilent (ownDeviceList env accountId deviceId) :=
  .bind getState_silent fun _ => .bind query_silent fun _ => .pure _

theorem close_silent : IsSilent (close i) :=
  .bind (modifyConnection_silent fun _ => rfl) fun _ => .bind getConnection_silent fun slot => by
    cases slot with
    | none => exact .pure _
    | some session =>
      exact .bind (modifyState_silent fun _ => ⟨rfl, rfl, rfl⟩) fun _ => modifyState_silent fun _ => ⟨rfl, rfl, rfl⟩

/-- An action whose result is known. -/
theorem Confined.atomically {f : ServerWorld → Except Error β × ServerWorld} {g : β → ServerM α}
    (h : ∀ s, M.Kept w.1 s → InScope M session body (s, w.2) (f (s, w.2)).2 ∧
      ∀ b, (f (s, w.2)).1 = .ok b → Confined M session body (g b) (f (s, w.2)).2) :
    Confined M session body (Proc.atomically f >>= g) w := by
  rw [Confined, Proc.wp_bind, Proc.wp_atomically]
  rintro ⟨s, c⟩ ⟨hs, hc⟩
  obtain rfl : c = w.2 := hc
  exact ⟨(h s hs).1, (h s hs).2, fun _ _ => trivial⟩

/-- What a query gives is that of a database which is known. -/
theorem confined_query {f : Db → β} {events : β → List ConnectionEvent} {g : β → ServerM α}
    (hg : ∀ db w', Follows M w w' → M.seen w'.1 db → Confined M session body (g (f db)) w') :
    Confined M session body (queryRecording env f events >>= g) w := by
  refine Confined.atomically fun s hs => ?_
  dsimp only
  split
  · refine ⟨Silent.inScope ⟨rfl, rfl, rfl, .inl rfl⟩, fun b hb => ?_⟩
    cases hb
    exact hg s.db _ ⟨IsTrans.trans _ _ _ hs (.of_same rfl rfl), rfl⟩ (M.now _)
  · exact ⟨Silent.inScope ⟨rfl, rfl, rfl, .inl rfl⟩, fun _ hb => by cases hb⟩

theorem confined_executeRecording {f : Nat → Db → Except Error (β × Db)}
    {serverEvents : Db → β × Db → List ServerEvent} {events : Db → List ConnectionEvent} {g : β → ServerM α}
    (h : ∀ s, M.Kept w.1 s → ∀ r, f s.tick s.db = .ok r → session.Touches M s body r.2 ∧
      ∀ w', w'.1.db = r.2 → Confined M session body (g r.1) w') :
    Confined M session body (executeRecording env f serverEvents events >>= g) w := by
  refine Confined.atomically fun s hs => ?_
  dsimp only
  split
  · split
    · exact ⟨Silent.inScope ⟨rfl, rfl, rfl, .inl rfl⟩, fun _ hb => by cases hb⟩
    · next r hr =>
      obtain ⟨htouches, hrest⟩ := h s hs r hr
      refine ⟨⟨.inr htouches, .inl rfl⟩, fun b hb => ?_⟩
      cases hb
      exact hrest _ rfl
  · exact ⟨Silent.inScope ⟨rfl, rfl, rfl, .inl rfl⟩, fun _ hb => by cases hb⟩

theorem confined_execute {f : Db → Except Error (β × Db)} {g : β → ServerM α}
    (h : ∀ s, M.Kept w.1 s → ∀ r, f s.db = .ok r → session.Touches M s body r.2 ∧
      ∀ w', w'.1.db = r.2 → Confined M session body (g r.1) w') :
    Confined M session body (execute env f >>= g) w := confined_executeRecording fun s hs r hr => h s hs r hr

theorem confined_anySession {e : Error} {g : Session → ServerM α} (hsession : w.2.session = some session)
    (hg : ∀ w', Follows M w w' → Confined M session body (g session) w') :
    Confined M session body (anySession e >>= g) w := by
  unfold anySession
  rw [Proc.bind_assoc]
  refine Confined.atomically fun s hs => ⟨Silent.inScope ⟨rfl, rfl, rfl, .inl rfl⟩, fun slot hslot => ?_⟩
  cases hslot
  refine Confined.orFail fun found hfound => ?_
  cases hsession.symm.trans hfound
  exact hg _ ⟨hs, rfl⟩

theorem confined_usableSession {g : Session → ServerM α} (hsession : w.2.session = some session)
    (hg : ∀ w', Follows M w w' → Confined M session body (g session) w') :
    Confined M session body (usableSession >>= g) w := by
  unfold usableSession activeSession
  rw [Proc.bind_assoc]
  refine Confined.atomically fun s hs => ⟨Silent.inScope ⟨rfl, rfl, rfl, .inl rfl⟩, fun slot hslot => ?_⟩
  cases hslot
  rw [Proc.bind_assoc]
  refine Confined.orFail fun found hfound => ?_
  cases hsession.symm.trans hfound
  rw [Proc.bind_assoc]
  exact Confined.ensure fun _ => hg _ ⟨hs, rfl⟩

/-! ## Handlers -/

theorem handleSyncRequest_confined {id : String} {m : SyncRequest} (hsession : w.2.session = some session) :
    Confined M session (.syncRequest m) (handleSyncRequest env i id m) w := by
  refine confined_usableSession hsession fun w₁ _ => confined_query fun db w₂ _ hdb => ?_
  rw [reply, send, learn, Confined, Proc.wp_atomically]
  rintro ⟨s, c⟩ ⟨hs, -⟩
  refine ⟨?_, fun _ _ => trivial, fun _ _ => trivial⟩
  dsimp only
  split
  · refine ⟨.inl rfl, .inr ⟨i, _, rfl, fun batch hbatch => ?_⟩⟩
    cases hbatch
    exact ⟨m, db, rfl, hs db hdb, rfl⟩
  · exact Silent.inScope ⟨rfl, rfl, rfl, .inl rfl⟩

theorem handleAckEnvelope_confined {id : String} {m : AckEnvelope} (hsession : w.2.session = some session) :
    Confined M session (.ackEnvelope m) (handleAckEnvelope env i id m) w := by
  refine confined_usableSession hsession fun w₁ _ => Confined.ensure fun _ => ?_
  refine Confined.then nowMs_silent fun now w₂ _ => confined_executeRecording fun s _ r hr => ?_
  cases hr
  refine ⟨.acked m now, fun w₃ _ => ?_⟩
  have hrest : IsSilent (confirm env i id) := confirm_silent
  split
  · exact hrest.confined w₃
  · exact Confined.then nowMs_silent fun _ _ _ =>
      Confined.then (pushAccount_silent fun _ => nofun) fun _ w _ => hrest.confined w

theorem handlePairingEvent_confined {id : String} {m : PairingEvent} (hsession : w.2.session = some session)
    (hown : ∃ db, M.seen w.1 db ∧ (db.device session.account.id session.deviceId).isSome) :
    Confined M session (.pairingEvent m) (handlePairingEvent env i id m) w := by
  refine confined_anySession hsession fun w₁ hw₁ => Confined.ensure fun _ => ?_
  refine confined_query fun db w₂ hw₂ hdb => Confined.orFail fun account haccount => ?_
  refine Confined.ensure fun hsame => Confined.then queryRecording_silent fun pending w₃ hw₃ => ?_
  refine Confined.ensure fun _ => Confined.ensure fun _ => Confined.then nowMs_silent fun now w₄ hw₄ => ?_
  refine confined_execute fun s hs r hr => ⟨?_, fun w₅ _ => ?_⟩
  · obtain ⟨own, hseen, hdevice⟩ := hown
    have hknown : ∀ db, M.seen w₂.1 db → M.seen s db := fun db h => hs db (hw₄.1 db (hw₃.1 db h))
    exact .pairing m _ ⟨own, hknown own (hw₂.1 own (hw₁.1 own hseen)), hdevice⟩
      ⟨db, hknown db hdb, hsame ▸ haccount⟩ hr
  · refine Confined.then query_silent fun devices w₆ _ => Confined.orFail fun sender _ => ?_
    refine Confined.then (pushDevice_silent fun _ => nofun) fun _ w₇ _ => ?_
    exact confirm_silent.confined w₇

theorem handleAckPairingEvent_confined {id : String} {m : AckPairingEvent} (hsession : w.2.session = some session) :
    Confined M session (.ackPairingEvent m) (handleAckPairingEvent env i id m) w := by
  refine confined_anySession hsession fun w₁ _ => Confined.ensure fun _ => ?_
  refine confined_execute fun s _ r hr => ?_
  cases hr
  exact ⟨.pairingAcked m, fun w₂ _ => Confined.ensure fun _ => confirm_silent.confined w₂⟩

theorem handleActivateDevice_confined {id : String} {m : ActivateDevice} (hsession : w.2.session = some session) :
    Confined M session (.activateDevice m) (handleActivateDevice env P i id m) w := by
  refine confined_usableSession hsession fun w₁ _ => Confined.orFail fun bundle hbundle => ?_
  refine Confined.ensure fun _ => Confined.then query_silent fun devices w₂ _ => Confined.orFail fun pending _ => ?_
  refine Confined.ensure fun _ => Confined.orFail fun master _ => Confined.ofExcept fun _ _ => ?_
  refine Confined.ofExcept fun _ _ => confined_execute fun s _ r hr => ?_
  obtain ⟨db, hdb, rfl⟩ := Except.map_eq_ok.1 hr
  refine ⟨.activated m bundle hbundle hdb, fun w₃ _ => ?_⟩
  refine Confined.then (pushDevice_silent fun _ => nofun) fun _ w₄ _ => ?_
  have hreply : IsSilent (reply env i id .operationOk) := reply_silent fun _ => nofun
  exact hreply.confined w₄

theorem handleRevokeOwnDevice_confined {id : String} {m : RevokeOwnDevice} (hsession : w.2.session = some session) :
    Confined M session (.revokeOwnDevice m) (handleRevokeOwnDevice env i id m) w := by
  refine confined_usableSession hsession fun w₁ _ => Confined.ensure fun _ => Confined.ensure fun _ => ?_
  refine Confined.ensure fun _ => confined_execute fun s _ r hr => ?_
  cases hr
  refine ⟨.revoked m, fun w₂ hw₂ => Confined.ensure fun hrevoked => ?_⟩
  -- The row of the device is revoked in the database that this write has left.
  obtain ⟨row, hrow, hflag⟩ := Db.device_of_markRevoked hrevoked
  rw [← hw₂] at hrow
  refine confined_execute fun s₃ hs₃ r hr => ?_
  cases hr
  refine ⟨.cleaned m ⟨w₂.1.db, row, hs₃ _ (M.now w₂.1), hrow, hflag⟩, fun w₄ _ => ?_⟩
  refine Confined.then kickDevice_silent fun _ w₅ _ => ?_
  unfold audit update
  refine confined_execute fun s₆ _ r hr => ?_
  cases hr
  refine ⟨.audited m, fun w₇ _ => Confined.then ownDeviceList_silent fun devices w₈ _ => ?_⟩
  have hreply : IsSilent (reply env i id (.ownDeviceList devices)) := reply_silent fun _ => nofun
  exact hreply.confined w₈

/-! ## The loop -/

/-- The frames whose scope is stated. -/
def HasScope : Body → Prop
  | .syncRequest _ | .ackEnvelope _ | .pairingEvent _ | .ackPairingEvent _ | .activateDevice _ | .revokeOwnDevice _ =>
    True
  | _ => False

theorem handleBody_confined {id : String} (h : HasScope body) (hsession : w.2.session = some session)
    (hown : ∃ db, M.seen w.1 db ∧ (db.device session.account.id session.deviceId).isSome) :
    Confined M session body (handleBody env P i id body) w := by
  cases body with
  | syncRequest m => exact handleSyncRequest_confined hsession
  | ackEnvelope m => exact handleAckEnvelope_confined hsession
  | pairingEvent m => exact handlePairingEvent_confined hsession hown
  | ackPairingEvent m => exact handleAckPairingEvent_confined hsession
  | activateDevice m => exact handleActivateDevice_confined hsession
  | revokeOwnDevice m => exact handleRevokeOwnDevice_confined hsession
  | _ => exact h.elim

theorem handleReporting_confined {f : Frame} (hbody : f.body = some body) (h : HasScope body)
    (hsession : w.2.session = some session)
    (hown : ∃ db, M.seen w.1 db ∧ (db.device session.account.id session.deviceId).isSome) :
    Confined M session body (handleReporting env P i f) w := by
  unfold handleReporting handleFrame
  rw [Confined, Proc.wp_bind, Proc.wp_caught]
  have hframe : Confined M session body (Proc.orFail f.body "empty frame" >>= handleBody env P i f.id) w :=
    Confined.orFail fun found hfound => by
      cases hbody.symm.trans hfound
      exact handleBody_confined h hsession hown
  refine wp.mono hframe (fun _ _ h => h) (fun _ _ _ => (Proc.wp_pure ()).2 trivial) fun e w' _ => ?_
  exact sendError_silent.confined w'

/-- The recheck of an active session: only if it finds the device of the account, the rest is allowed. -/
theorem confined_recheckAccess {g : Bool → ServerM α} (hsession : w.2.session = some session)
    (active : session.pending = false)
    (hrefused : ∀ w', Follows M w w' → Confined M session body (g false) w')
    (hg : ∀ db w', Follows M w w' → M.seen w'.1 db → (db.device session.account.id session.deviceId).isSome →
      Confined M session body (g true) w') : Confined M session body (recheckAccess env >>= g) w := by
  have hboth : ∀ allowed w', Follows M w w' →
      (allowed = true → ∃ db, M.seen w'.1 db ∧ (db.device session.account.id session.deviceId).isSome) →
      Confined M session body (g allowed) w' := by
    intro allowed w' hw' hallowed
    cases allowed with
    | false => exact hrefused w' hw'
    | true =>
      obtain ⟨db, hdb, hdevice⟩ := hallowed rfl
      exact hg db w' hw' hdb hdevice
  unfold recheckAccess
  rw [Proc.bind_assoc]
  refine Confined.atomically fun s hs => ⟨Silent.inScope ⟨rfl, rfl, rfl, .inl rfl⟩, fun slot hslot => ?_⟩
  cases hslot
  have hfound : w.2.session.filter (fun session => !session.pending) = some session := by
    rw [hsession, Option.filter_some, active]
    rfl
  dsimp only
  rw [hfound]
  dsimp only
  rw [Proc.bind_assoc]
  refine Confined.then (.caught queryRecording_silent) fun account w₁ hw₁ => ?_
  rw [Proc.bind_assoc, Confined, Proc.wp_bind, Proc.wp_caught, device, queryRecording, learn, Proc.wp_atomically]
  rintro ⟨s₂, c₂⟩ ⟨hs₂, hc₂⟩
  obtain rfl : c₂ = w₁.2 := hc₂
  have hfollows : ∀ c : Connection, c.session = w₁.2.session → Follows M w ({ s₂ with tick := s₂.tick + 1 }, c) := by
    intro c hc
    have hsame : M.Kept s₂ { s₂ with tick := s₂.tick + 1 } := .of_same rfl rfl
    exact ⟨fun db hdb => hsame db (hs₂ db (hw₁.1 db (hs db hdb))), hc.trans hw₁.2⟩
  refine ⟨?_, fun row hrow => ?_, fun e he => ?_⟩
  · dsimp only
    split
    · exact Silent.inScope ⟨rfl, rfl, rfl, .inl rfl⟩
    · exact Silent.inScope ⟨rfl, rfl, rfl, .inl rfl⟩
  · dsimp only at hrow ⊢
    split at hrow
    · cases hrow
      rw [if_pos (by assumption)]
      refine hboth _ _ (hfollows _ rfl) fun hallowed => ⟨s₂.db, M.now _, ?_⟩
      rw [Bool.and_eq_true] at hallowed
      obtain ⟨row, hrow, -⟩ := (Option.any_eq_true _ _).1 hallowed.2
      exact Option.isSome_iff_exists.2 ⟨row, hrow⟩
    · cases hrow
  · dsimp only at he ⊢
    split at he
    · cases he
    · rw [if_neg (by assumption)]
      refine hboth _ _ (hfollows _ rfl) fun hallowed => ?_
      rw [Bool.and_eq_true] at hallowed
      cases hallowed.2

theorem serveFrame_confined {f : Frame} (hbody : f.body = some body) (h : HasScope body)
    (hsession : w.2.session = some session) (active : session.pending = false) :
    Confined M session body (serveFrame env P i f) w := by
  have hrefuse : ∀ {id code message : String} {retryable : Bool} (w : ServerWorld), Confined M session body
      (sendError env i id code message retryable >>= fun _ => close i) w := by
    intro id code message retryable w
    exact Confined.then sendError_silent fun _ w' _ => close_silent.confined w'
  refine Confined.then (modifyConnection_silent fun _ => rfl) fun _ w₁ hw₁ => ?_
  split
  · exact hrefuse w₁
  refine Confined.then (action_silent fun _ => ⟨rfl, rfl, rfl, .inl rfl⟩) fun admitted w₂ hw₂ => ?_
  split
  · exact hrefuse w₂
  have hsession₂ : w₂.2.session = some session := hw₂.2.trans (hw₁.2.trans hsession)
  refine confined_recheckAccess hsession₂ active (fun w₃ _ => hrefuse w₃) fun db w₃ hw₃ hdb hdevice => ?_
  exact handleReporting_confined hbody h (hw₃.2.trans hsession₂) ⟨db, hdb, hdevice⟩

/-- The task of a connection with an active session, for a frame that has a scope. -/
theorem serve_confined {f : Frame} (hbody : f.body = some body) (h : HasScope body)
    (hsession : w.2.session = some session) (active : session.pending = false) :
    Confined M session body (serve env P i (.binary (.ok f))) w := by
  rw [serve]
  split
  · exact serveFrame_confined hbody h hsession active
  · exact sendError_silent.confined w

end Ws

end TuiChat
