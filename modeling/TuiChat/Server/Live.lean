import TuiChat.Server.Cluster
import TuiChat.Server.FrameSteps
import TuiChat.Server.Envelopes

/-!
# The live entries of a connection

What the programs of the server do to `connections` and `sessions`, the maps of live connections. A
program adds entries of its own token only (`Touches`), and most handlers leave them and the session
alone, and the hashes of passwords with them (`IsAside`). Between `register` and the session slot a handler is steady as long as nothing fails
(`Steady`); so a task that is done has no entries, or a session that they belong to (`Rests`).
-/

namespace TuiChat

open Lib
open Lib.Proc (wp)

/-- An entry of the maps carries the token. -/
def AppState.Carries (s : AppState) (t : Nat) : Prop :=
  (∃ live ∈ s.connections, live.token = t) ∨ ∃ x ∈ s.sessions, x.id = t

/-- No entry of the token is added. -/
structure Loses (t : Nat) (s s' : AppState) : Prop where
  connections : ∀ live ∈ s'.connections, live.token = t → live ∈ s.connections
  sessions : ∀ x ∈ s'.sessions, x.id = t → x ∈ s.sessions

theorem Loses.rfl {t : Nat} {s : AppState} : Loses t s s := ⟨fun _ h _ => h, fun _ h _ => h⟩

theorem Loses.trans {t : Nat} {s s' s'' : AppState} (h : Loses t s s') (h' : Loses t s' s'') : Loses t s s'' where
  connections live hlive ht := h.connections live (h'.connections live hlive ht) ht
  sessions x hx ht := h.sessions x (h'.sessions x hx ht) ht

theorem Loses.carries {t : Nat} {s s' : AppState} (h : Loses t s s') (hs : s'.Carries t) : s.Carries t :=
  hs.imp (fun ⟨live, hlive, ht⟩ => ⟨live, h.connections live hlive ht, ht⟩)
    fun ⟨x, hx, ht⟩ => ⟨x, h.sessions x hx ht, ht⟩

/-- What an action of program `i` does to the entries of others: it adds none, and it takes one away only
by putting one of its own in its place. -/
structure Touches (i : Nat) (w w' : ServerWorld) : Prop where
  loses : ∀ t, t ≠ i → Loses t w.1 w'.1
  replaced : ∀ live ∈ w.1.connections, live.token ≠ i →
    live ∈ w'.1.connections ∨ ∃ newer ∈ w'.1.connections, newer.token = i ∧ newer.deviceId = live.deviceId
  sessions : ∀ x ∈ w.1.sessions, x.id ≠ i → x ∈ w'.1.sessions

theorem Touches.of_eq {i : Nat} {w w' : ServerWorld} (hconnections : w'.1.connections = w.1.connections)
    (hsessions : w'.1.sessions = w.1.sessions) : Touches i w w' where
  loses _ _ := ⟨fun _ h _ => hconnections ▸ h, fun _ h _ => hsessions ▸ h⟩
  replaced _ h _ := .inl (hconnections.symm ▸ h)
  sessions _ h _ := hsessions.symm ▸ h

/-- The entries of program `i` are of a device. -/
def Owned (i : Nat) (deviceId : String) (s : AppState) : Prop :=
  ∀ live ∈ s.connections, live.token = i → live.deviceId = deviceId

theorem Owned.loses {i : Nat} {d : String} {s s' : AppState} (h : Owned i d s) (hs : Loses i s s') : Owned i d s' :=
  fun live hlive ht => h live (hs.connections live hlive ht) ht

/-- The connection has no entries, or it is open and they are of its session's device. -/
def Rests (i : Nat) (w : ServerWorld) : Prop :=
  w.1.Carries i → w.2.closed = false ∧ ∃ session, w.2.session = some session ∧ Owned i session.deviceId w.1

/-- What happens before an action of program `i`: others move, and where its connection has entries but no
session the action does not fail. -/
structure Rely (env : ServerEnvironment) (i : Nat) (w w' : ServerWorld) : Prop where
  loses : Loses i w.1 w'.1
  alone : w'.2 = w.2
  works : w'.1.Carries i → w'.2.session = none → env.works w'.1.tick = true

/-- The entries, the session and whether the connection is open stay. -/
structure Aside (i : Nat) (w w' : ServerWorld) : Prop where
  loses : Loses i w.1 w'.1
  session : w'.2.session = w.2.session
  closed : w'.2.closed = w.2.closed

instance {i : Nat} : Std.Refl (Aside i) := ⟨fun _ => ⟨.rfl, rfl, rfl⟩⟩

instance {i : Nat} : IsTrans ServerWorld (Aside i) :=
  ⟨fun _ _ _ h h' => ⟨h.loses.trans h'.loses, h'.session.trans h.session, h'.closed.trans h.closed⟩⟩

/-- The connection is open, and has no entries or those of its session's device. -/
structure Open (i : Nat) (w : ServerWorld) : Prop where
  closed : w.2.closed = false
  owned : w.1.Carries i → ∃ session, w.2.session = some session ∧ Owned i session.deviceId w.1

theorem Open.settled {i : Nat} {w : ServerWorld} (h : Open i w) : Rests i w := fun hc => ⟨h.closed, h.owned hc⟩

theorem Open.owned_of_none {i : Nat} {d : String} {w : ServerWorld} (h : Open i w) (hnone : w.2.session = none) :
    Owned i d w.1 := by
  intro live hlive ht
  obtain ⟨session, hsession, -⟩ := h.owned (.inl ⟨live, hlive, ht⟩)
  rw [hnone] at hsession
  cases hsession

theorem Rests.opened {i : Nat} {w : ServerWorld} (h : Rests i w) (hclosed : w.2.closed = false) : Open i w :=
  ⟨hclosed, fun hc => (h hc).2⟩

theorem Rests.loses {i : Nat} {w w' : ServerWorld} (h : Rests i w) (hs : Loses i w.1 w'.1)
    (hsession : w'.2.session = w.2.session) (hclosed : w'.2.closed = w.2.closed) : Rests i w' := by
  intro hcarries
  obtain ⟨hopen, session, hfound, howned⟩ := h (hs.carries hcarries)
  exact ⟨hclosed.trans hopen, session, hsession.trans hfound, howned.loses hs⟩

theorem Aside.settled {i : Nat} {w w' : ServerWorld} (h : Aside i w w') (hw : Rests i w) : Rests i w' :=
  hw.loses h.loses h.session h.closed

theorem Aside.opened {i : Nat} {w w' : ServerWorld} (h : Aside i w w') (hw : Open i w) : Open i w' :=
  (h.settled hw.settled).opened (h.closed.trans hw.closed)

variable {env : ServerEnvironment} {P : Primitives} {i : Nat} {α β : Type}

/-- What most actions do: the maps, the session, the frame that is handled and whether the connection is open
stay, and the database changes along `W`, if at all. -/
structure Beside (W : Db → Db → Prop) (w w' : ServerWorld) : Prop where
  connections : w'.1.connections = w.1.connections
  sessions : w'.1.sessions = w.1.sessions
  session : w'.2.session = w.2.session
  closed : w'.2.closed = w.2.closed
  handling : w'.2.handling = w.2.handling
  db : w'.1.db = w.1.db ∨ W w.1.db w'.1.db

/-- A program that leaves the entries alone. -/
abbrev IsAside (W : Db → Db → Prop) (m : ServerM α) : Prop := Proc.All (Beside W) m

variable {W : Db → Db → Prop}

theorem IsAside.moves {m : ServerM α} (h : IsAside W m) : Proc.Moves (Rely env i) (Touches i) (Aside i) m := by
  refine Proc.All.moves h fun w w' w'' hr hb => ⟨.of_eq hb.connections hb.sessions, ⟨⟨?_, ?_⟩, ?_, ?_⟩⟩
  · exact fun live hlive ht => hr.loses.connections live (hb.connections ▸ hlive) ht
  · exact fun x hx ht => hr.loses.sessions x (hb.sessions ▸ hx) ht
  · rw [hb.session, hr.alone]
  · rw [hb.closed, hr.alone]

theorem aside_action {f : ServerWorld → Except Error α × ServerWorld} (h : ∀ w, Beside W w (f w).2) :
    IsAside W (Proc.atomically f) :=
  .atomically fun _ w _ => ⟨h w, trivial⟩

/-- The accounts that stay keep their password hash, and whether the password has to be changed. -/
def Db.KeepsPasswords (db db' : Db) : Prop :=
  ∀ a row row', db.accounts.find a = some row → db'.accounts.find a = some row' →
    row'.passwordPhc = row.passwordPhc ∧ row'.requirePasswordChange = row.requirePasswordChange

namespace Db

variable {db db' : Db}

theorem KeepsPasswords.of_accounts (h : db'.accounts = db.accounts) : db.KeepsPasswords db' := by
  intro a row row' hrow hrow'
  rw [h, hrow] at hrow'
  cases hrow'
  exact ⟨rfl, rfl⟩

theorem KeepsPasswords.of_update {p : AccountRow → Bool} {f : AccountRow → AccountRow}
    (hf : ∀ row, (f row).id = row.id) (h : db'.accounts = db.accounts.update p f hf)
    (kept : ∀ row, (f row).passwordPhc = row.passwordPhc ∧
      (f row).requirePasswordChange = row.requirePasswordChange) : db.KeepsPasswords db' := by
  intro a row row' hrow hrow'
  rw [h, Table.find_update hf, hrow] at hrow'
  have heq : (if p row = true then f row else row) = row' := Option.some.inj hrow'
  rw [← heq]
  split
  · exact kept row
  · exact ⟨rfl, rfl⟩

end Db

namespace Ws

/-! ## Effects -/

theorem learn_aside {r : Nat → Except Error α} : IsAside W (learn fun n w => (r n, w)) :=
  aside_action fun _ => ⟨rfl, rfl, rfl, rfl, rfl, .inl rfl⟩

theorem nowMs_aside : IsAside W (nowMs env) := learn_aside

theorem getState_aside {f : AppState → α} : IsAside W (getState f) := aside_action fun _ => ⟨rfl, rfl, rfl, rfl, rfl, .inl rfl⟩

theorem getConnection_aside {f : Connection → α} : IsAside W (getConnection f) :=
  aside_action fun _ => ⟨rfl, rfl, rfl, rfl, rfl, .inl rfl⟩

theorem modifyConnection_aside {f : Connection → Connection}
    (h : ∀ c, (f c).session = c.session ∧ (f c).closed = c.closed ∧ (f c).handling = c.handling) :
    IsAside W (modifyConnection f) :=
  aside_action fun w => ⟨rfl, rfl, (h w.2).1, (h w.2).2.1, (h w.2).2.2, .inl rfl⟩

theorem queryRecording_aside {f : Db → α} {events : α → List ConnectionEvent}
    (hevents : ∀ a (c : Connection), Connection.handling { c with log := events a ++ c.log } = c.handling) :
    IsAside W (queryRecording env f events) := aside_action fun w => by
  dsimp only
  split
  · exact ⟨rfl, rfl, rfl, rfl, hevents _ _, .inl rfl⟩
  · exact ⟨rfl, rfl, rfl, rfl, rfl, .inl rfl⟩

theorem query_aside {f : Db → α} : IsAside W (query env f) := queryRecording_aside fun _ _ => rfl

theorem accountByUsername_aside {username : String} : IsAside W (accountByUsername env username) :=
  queryRecording_aside fun _ _ => rfl

theorem device_aside {accountId deviceId : String} : IsAside W (device env accountId deviceId) :=
  queryRecording_aside fun _ _ => rfl

theorem executeRecording_aside {f : Nat → Db → Except Error (α × Db)}
    {serverEvents : Db → α × Db → List ServerEvent} {events : Db → List ConnectionEvent}
    (h : ∀ n db r, f n db = .ok r → W db r.2)
    (hevents : ∀ db (c : Connection), Connection.handling { c with log := events db ++ c.log } = c.handling) :
    IsAside W (executeRecording env f serverEvents events) := aside_action fun w => by
  dsimp only
  split
  · split
    · exact ⟨rfl, rfl, rfl, rfl, rfl, .inl rfl⟩
    · next r hr => exact ⟨rfl, rfl, rfl, rfl, hevents _ _, .inr (h _ _ r hr)⟩
  · exact ⟨rfl, rfl, rfl, rfl, rfl, .inl rfl⟩

theorem execute_aside {f : Db → Except Error (α × Db)} (h : ∀ db r, f db = .ok r → W db r.2) :
    IsAside W (execute env f) := executeRecording_aside (fun _ => h) fun _ _ => rfl

theorem update_aside {f : Db → Db} (h : ∀ db, W db (f db)) : IsAside W (update env f) :=
  execute_aside fun db r hr => by
    cases hr
    exact h db

theorem write_aside {f : Db → Except Error Db} (h : ∀ db db', f db = .ok db' → W db db') :
    IsAside W (write env f) :=
  execute_aside fun db r hr => by
    obtain ⟨db', hdb', rfl⟩ := Except.map_eq_ok.1 hr
    exact h db db' hdb'

theorem audit_aside {category actor action target result : String}
    (h : ∀ db : Db, W db (db.recordAudit category actor action target result)) :
    IsAside W (audit env category actor action target result) := update_aside h

theorem send_aside {t : Nat} {f : Frame} : IsAside W (send env t f) := aside_action fun w => by
  dsimp only
  split
  · exact ⟨rfl, rfl, rfl, rfl, rfl, .inl rfl⟩
  · exact ⟨rfl, rfl, rfl, rfl, rfl, .inl rfl⟩

theorem trySend_aside {t : Nat} {f : Frame} : IsAside W (trySend env t f) :=
  .bind (.caught send_aside) fun _ => .pure _

theorem reply_aside {id : String} {body : Body} : IsAside W (reply env i id body) := send_aside

theorem sendError_aside {id code message : String} {retryable : Bool} :
    IsAside W (sendError env i id code message retryable) := trySend_aside

theorem pushDevice_aside {deviceId : String} {f : Frame} : IsAside W (pushDevice env deviceId f) :=
  .bind getState_aside fun live => by
    cases live with
    | none => exact .pure _
    | some live => exact trySend_aside

theorem pushAccount_aside {accountId : String} {f : Frame} : IsAside W (pushAccount env accountId f) :=
  .bind getState_aside fun _ => .each fun _ _ => trySend_aside

theorem signal_aside {t : Nat} {reason : String} : IsAside W (signal t reason) :=
  aside_action fun _ => ⟨rfl, rfl, rfl, rfl, rfl, .inl rfl⟩

theorem kickDevice_aside {deviceId reason : String} : IsAside W (kickDevice deviceId reason) :=
  .bind getState_aside fun live => by
    cases live with
    | none => exact .pure _
    | some live => exact signal_aside

theorem activeSession_aside : IsAside W activeSession :=
  .bind getConnection_aside fun _ => .bind (.orFail _ _) fun _ => .bind (.ensure _ _) fun _ => .pure _

theorem anySession_aside {e : Error} : IsAside W (anySession e) := .bind getConnection_aside fun _ => .orFail _ _

theorem takeValidChallenge_aside {username deviceId : String} :
    IsAside W (takeValidChallenge env username deviceId) := by
  refine .bind (aside_action fun _ => ⟨rfl, rfl, rfl, rfl, rfl, .inl rfl⟩) fun _ => .bind (.orFail _ _) fun _ => ?_
  refine .bind (.ofExcept _) fun _ => .bind (aside_action fun _ => ⟨rfl, rfl, rfl, rfl, rfl, .inl rfl⟩) fun _ => ?_
  exact .bind (.ensure _ _) fun _ => .pure _

theorem confirm_aside {id : String} : IsAside W (confirm env i id) := .ite (fun _ => .pure _) fun _ => reply_aside

theorem ownDeviceList_aside {accountId deviceId : String} : IsAside W (ownDeviceList env accountId deviceId) :=
  .bind getState_aside fun _ => .bind query_aside fun _ => .pure _

/-! ## Requests that leave the entries alone -/

section

variable (hW : ∀ db db' : Db, db.KeepsPasswords db' → W db db')
include hW

omit hW in
theorem handleClientHello_aside {id : String} {m : ClientHello} : IsAside W (handleClientHello env i id m) := by
  refine .bind (.bind getConnection_aside fun _ => .ensure _ _) fun _ => .bind (.ofExcept _) fun _ => ?_
  refine .bind (.ensure _ _) fun _ => .bind (.ensure _ _) fun _ => .bind learn_aside fun _ => ?_
  refine .bind nowMs_aside fun _ => .bind (modifyConnection_aside fun _ => ⟨rfl, rfl, rfl⟩) fun _ => reply_aside

omit hW in
theorem handleLookupUser_aside {id : String} {m : LookupUser} : IsAside W (handleLookupUser env i id m) :=
  .bind activeSession_aside fun _ => .bind (.ofExcept _) fun _ => .bind query_aside fun _ =>
    .bind (.orFail _ _) fun _ => reply_aside

theorem handlePublishPreKeys_aside {id : String} {m : PublishPreKeys} :
    IsAside W (handlePublishPreKeys env P i id m) := by
  refine .bind activeSession_aside fun _ => .bind (.ensure _ _) fun _ => .bind device_aside fun _ => ?_
  refine .bind (.orFail _ _) fun found => .bind (.each fun key _ => ?_) fun _ => ?_
  · exact .bind (.ensure _ _) fun _ => .ofExcept _
  · refine .bind nowMs_aside fun _ => .bind (write_aside fun db db' h => hW _ _ ?_) fun _ => reply_aside
    obtain ⟨-, rfl⟩ := Db.publishPreKeys_eq_ok.1 h
    exact .of_accounts rfl

theorem handleClaimPreKey_aside {id : String} {m : ClaimPreKey} : IsAside W (handleClaimPreKey env i id m) := by
  refine .bind activeSession_aside fun _ => .bind (.ensure _ _) fun _ => ?_
  refine .bind (execute_aside fun db r hr => hW _ _ ?_) fun _ => .bind (.orFail _ _) fun _ => reply_aside
  cases hr
  obtain ⟨_, hdb⟩ := Db.claimPreKey_snd db m.accountId m.deviceId
  rw [hdb]
  exact .of_accounts rfl

omit hW in
theorem pushStored_aside {envelopes : List EncryptedEnvelope} {destination : String × Nat} :
    IsAside W (pushStored env envelopes destination) := by
  unfold pushStored
  split
  · exact .pure _
  · refine .bind query_aside fun stored => ?_
    cases stored with
    | none => exact .pure _
    | some stored => exact pushDevice_aside

theorem handleSendEnvelopes_aside {id : String} {m : SendEnvelopes} :
    IsAside W (handleSendEnvelopes env P i id m) := by
  refine .bind activeSession_aside fun _ => .bind (.ensure _ _) fun _ => .bind (.each fun e _ => ?_) fun _ => ?_
  · exact .bind nowMs_aside fun _ => .ensure _ _
  · refine .bind nowMs_aside fun _ => .bind (executeRecording_aside (fun n db r hr => hW _ _ ?_) fun _ _ => rfl) fun _ =>
      .bind (.each fun _ _ => pushStored_aside) fun _ => reply_aside
    obtain ⟨_, _, _, _, hdb⟩ := Db.storeEnvelopes_aside hr
    rw [hdb]
    exact .of_accounts rfl

omit hW in
theorem handleSyncRequest_aside {id : String} {m : SyncRequest} : IsAside W (handleSyncRequest env i id m) :=
  .bind activeSession_aside fun _ => .bind query_aside fun _ => reply_aside

theorem handleAckEnvelope_aside {id : String} {m : AckEnvelope} : IsAside W (handleAckEnvelope env i id m) := by
  refine .bind activeSession_aside fun _ => .bind (.ensure _ _) fun _ => .bind nowMs_aside fun _ => ?_
  refine .bind (executeRecording_aside (fun n db r hr => hW _ _ ?_) fun _ _ => rfl) fun acked => ?_
  · cases hr
    unfold Db.ack
    split
    · exact .of_accounts rfl
    · exact .of_accounts rfl
  cases acked with
  | none => exact confirm_aside
  | some row => exact .bind nowMs_aside fun _ => .bind pushAccount_aside fun _ => confirm_aside

theorem handlePairingEvent_aside {id : String} {m : PairingEvent} : IsAside W (handlePairingEvent env i id m) := by
  refine .bind anySession_aside fun _ => .bind (.ensure _ _) fun _ => .bind query_aside fun _ => ?_
  refine .bind (.orFail _ _) fun _ => .bind (.ensure _ _) fun _ => .bind device_aside fun _ => ?_
  refine .bind (.ensure _ _) fun _ => .bind (.ensure _ _) fun _ => .bind nowMs_aside fun _ => ?_
  refine .bind (execute_aside fun db r hr => hW _ _ ?_) fun _ => .bind query_aside fun _ => ?_
  · obtain ⟨-, -, rfl⟩ := Db.insertPairingEvent_eq_ok.1 hr
    exact .of_accounts rfl
  · exact .bind (.orFail _ _) fun _ => .bind pushDevice_aside fun _ => confirm_aside

theorem handleAckPairingEvent_aside {id : String} {m : AckPairingEvent} :
    IsAside W (handleAckPairingEvent env i id m) := by
  refine .bind anySession_aside fun _ => .bind (.ensure _ _) fun _ => ?_
  refine .bind (execute_aside fun db r hr => hW _ _ ?_) fun _ => .bind (.ensure _ _) fun _ => confirm_aside
  cases hr
  exact .of_accounts rfl

theorem handleActivateDevice_aside {id : String} {m : ActivateDevice} :
    IsAside W (handleActivateDevice env P i id m) := by
  refine .bind activeSession_aside fun _ => .bind (.orFail _ _) fun _ => .bind (.ensure _ _) fun _ => ?_
  refine .bind query_aside fun _ => .bind (.orFail _ _) fun _ => .bind (.ensure _ _) fun _ => ?_
  refine .bind (.orFail _ _) fun _ => .bind (.ofExcept _) fun _ => .bind (.ofExcept _) fun _ => ?_
  refine .bind (write_aside fun db db' h => hW _ _ ?_) fun _ => .bind pushDevice_aside fun _ => reply_aside
  obtain ⟨-, -, rfl⟩ := Db.activateDevice_eq_ok.1 h
  exact Db.KeepsPasswords.of_update (p := fun row => row.id = _)
    (f := fun row => { row with rosterRevision := m.rosterRevision }) (fun _ => rfl) rfl fun _ => ⟨rfl, rfl⟩

omit hW in
theorem handleListOwnDevices_aside {id : String} : IsAside W (handleListOwnDevices env i id) :=
  .bind activeSession_aside fun _ => .bind (.ensure _ _) fun _ => .bind ownDeviceList_aside fun _ => reply_aside

theorem handleRevokeOwnDevice_aside {id : String} {m : RevokeOwnDevice} :
    IsAside W (handleRevokeOwnDevice env i id m) := by
  refine .bind activeSession_aside fun _ => .bind (.ensure _ _) fun _ => .bind (.ensure _ _) fun _ => ?_
  refine .bind (.ensure _ _) fun _ => .bind (execute_aside fun db r hr => hW _ _ ?_) fun _ => ?_
  · cases hr
    rw [Db.markRevoked_snd]
    exact .of_accounts rfl
  refine .bind (.ensure _ _) fun _ => .bind (update_aside fun db => hW _ _ (.of_accounts rfl)) fun _ => ?_
  refine .bind kickDevice_aside fun _ => .bind (audit_aside fun db => hW _ _ (.of_accounts rfl)) fun _ => ?_
  exact .bind ownDeviceList_aside fun _ => reply_aside

end

theorem takeRequest_aside : IsAside W (takeRequest env) := aside_action fun _ => ⟨rfl, rfl, rfl, rfl, rfl, .inl rfl⟩

theorem recheckAccess_aside : IsAside W (recheckAccess env) := by
  refine .bind getConnection_aside fun slot => ?_
  split
  · exact .pure _
  · exact .bind (.caught accountByUsername_aside) fun _ => .bind (.caught device_aside) fun _ => .pure _

/-! ## Between the registration and the session slot -/

/-- The connection has no session yet, and its entries are of a device. -/
structure Between (i : Nat) (deviceId : String) (w : ServerWorld) : Prop where
  closed : w.2.closed = false
  session : w.2.session = none
  owned : Owned i deviceId w.1

/-- A program that fails only where nothing carries the token. -/
abbrev Steady (env : ServerEnvironment) (i : Nat) (deviceId : String) (m : ServerM α) : Prop :=
  ∀ w, Between i deviceId w →
    wp (Rely env i) (Touches i) m (fun _ => Between i deviceId) (fun _ => Open i) w

variable {d : String}

theorem Between.aside {w w' : ServerWorld} (h : Between i d w) (hs : Aside i w w') : Between i d w' :=
  ⟨hs.closed.trans h.closed, hs.session.trans h.session, h.owned.loses hs.loses⟩

theorem Steady.bind {m : ServerM β} {f : β → ServerM α} (hm : Steady env i d m) (hf : ∀ b, Steady env i d (f b)) :
    Steady env i d (m >>= f) := fun w h => (hm w h).bind hf

theorem Steady.pure (a : α) : Steady env i d (pure a) := fun _ h => (Proc.wp_pure a).2 h

theorem Steady.each {f : α → ServerM Unit} : ∀ {as : List α}, (∀ a, Steady env i d (f a)) →
    Steady env i d (Proc.each f as)
  | [], _ => .pure ()
  | a :: _, hf => .bind (hf a) fun _ => .each hf

theorem Steady.caught {m : ServerM α} (hm : IsAside W m) : Steady env i d (Proc.caught m) := fun w h => by
  rw [Proc.wp_caught]
  exact (hm.moves w).mono (fun _ _ h => h) (fun _ _ hs => h.aside hs) fun _ _ hs => h.aside hs

/-- An action that fails only where the outside does. -/
theorem Steady.action {f : ServerWorld → Except Error α × ServerWorld}
    (h : ∀ w, (f w).2.1.connections = w.1.connections ∧ (f w).2.1.sessions = w.1.sessions ∧
      (f w).2.2.session = w.2.session ∧ (f w).2.2.closed = w.2.closed)
    (herror : ∀ w e, (f w).1 = .error e → env.works w.1.tick = false) : Steady env i d (Proc.atomically f) := by
  intro w hw
  rw [Proc.wp_atomically]
  intro w' hr
  obtain ⟨hconnections, hsessions, hsession, hclosed⟩ := h w'
  have hw' : Between i d w' := ⟨hr.alone ▸ hw.closed, hr.alone ▸ hw.session, hw.owned.loses hr.loses⟩
  have hafter : Between i d (f w').2 := by
    refine ⟨hclosed.trans hw'.closed, hsession.trans hw'.session, fun live hlive => ?_⟩
    rw [hconnections] at hlive
    exact hw'.owned live hlive
  refine ⟨.of_eq hconnections hsessions, fun _ _ => hafter, fun e he => ⟨hafter.closed, fun hc => ?_⟩⟩
  -- Where the connection had entries, the action did not fail.
  have hcarries : w'.1.Carries i := by
    unfold AppState.Carries at hc ⊢
    rwa [hconnections, hsessions] at hc
  have hworks := hr.works hcarries hw'.session
  rw [herror w' e he] at hworks
  cases hworks

theorem steady_nowMs : Steady env i d (nowMs env) :=
  .action (fun _ => ⟨rfl, rfl, rfl, rfl⟩) fun _ _ he => by cases he

theorem steady_query {f : Db → α} : Steady env i d (query env f) := by
  refine .action (fun w => ?_) fun w e he => ?_
  · dsimp only
    split
    · exact ⟨rfl, rfl, rfl, rfl⟩
    · exact ⟨rfl, rfl, rfl, rfl⟩
  · dsimp only at he
    split at he
    · cases he
    · next hworks => exact Bool.eq_false_iff.2 hworks

theorem steady_send {t : Nat} {f : Frame} : Steady env i d (send env t f) := by
  refine .action (fun w => ?_) fun w e he => ?_
  · dsimp only
    split
    · exact ⟨rfl, rfl, rfl, rfl⟩
    · exact ⟨rfl, rfl, rfl, rfl⟩
  · dsimp only at he
    split at he
    · cases he
    · next hworks => exact Bool.eq_false_iff.2 hworks

theorem steady_pushPostAuth {session : Session} : Steady env i d (pushPostAuth env i session) := by
  refine .bind steady_query fun _ => .bind steady_nowMs fun _ => .bind steady_query fun _ => ?_
  refine .bind (.each fun _ => steady_send) fun _ => .bind steady_query fun _ => .each fun pending => ?_
  unfold pushPendingDevice
  split
  · exact .pure _
  · exact steady_send

theorem wp_modifyState {f : AppState → AppState} {Q : Unit → ServerWorld → Prop} {E : Error → ServerWorld → Prop}
    {w : ServerWorld} (h : ∀ w', Rely env i w w' → Touches i w' (f w'.1, w'.2) ∧ Q () (f w'.1, w'.2)) :
    wp (Rely env i) (Touches i) (modifyState f) Q E w := by
  unfold modifyState
  rw [Proc.wp_atomically]
  exact fun w' hr => ⟨(h w' hr).1, fun _ _ => (h w' hr).2, nofun⟩

/-- The entries that `register` makes are of the session's device. -/
theorem wp_register {session : Session} {E : Error → ServerWorld → Prop} {w : ServerWorld}
    (h : Owned i session.deviceId w.1) :
    wp (Rely env i) (Touches i) (register session i)
      (fun _ w' => w'.2 = w.2 ∧ Owned i session.deviceId w'.1) E w := by
  unfold register insertConnection
  rw [Proc.wp_bind, Proc.wp_atomically]
  intro w₁ hr₁
  have howned := h.loses hr₁.loses
  refine ⟨⟨fun t ht => ⟨fun live hlive htoken => ?_, fun _ hx _ => hx⟩, fun live hlive ht => ?_, fun _ hx _ => hx⟩,
    fun previous _ => ?_, nofun⟩
  · rcases Table.mem_put.1 hlive with rfl | ⟨hold, -⟩
    · exact absurd htoken.symm ht
    · exact hold
  · by_cases hdevice : live.deviceId = session.deviceId
    · exact .inr ⟨_, Table.mem_put.2 (.inl rfl), rfl, hdevice.symm⟩
    · exact .inl (Table.mem_put.2 (.inr ⟨hlive, hdevice⟩))
  -- What is left adds the entry of `sessions`.
  set w₂ : ServerWorld := ({ w₁.1 with
    connections := w₁.1.connections.put
      { deviceId := session.deviceId, token := i, accountId := session.account.id }
    registered := { deviceId := session.deviceId, token := i, accountId := session.account.id } :: w₁.1.registered
    connected := fun _ h => List.mem_cons.2
      ((Table.mem_put.1 h).imp_right fun h => w₁.1.connected _ h.1) }, w₁.2) with hw₂
  have hregistered : w₂.2 = w.2 ∧ Owned i session.deviceId w₂.1 := by
    refine ⟨hr₁.alone, fun live hlive ht => ?_⟩
    rcases Table.mem_put.1 hlive with rfl | ⟨hold, -⟩
    · rfl
    · exact howned live hold ht
  have hrest : ∀ w₃ : ServerWorld, w₃.2 = w.2 ∧ Owned i session.deviceId w₃.1 →
      wp (Rely env i) (Touches i) (modifyState fun state => { state with
        sessions := state.sessions.put
          { id := i
            accountId := session.account.id
            username := session.account.username
            deviceId := session.deviceId
            pending := session.pending } }) (fun _ w' => w'.2 = w.2 ∧ Owned i session.deviceId w'.1) E w₃ := by
    intro w₃ ⟨halone, hw₃⟩
    refine wp_modifyState fun w₄ hr₄ => ?_
    have hw₄ : Owned i session.deviceId w₄.1 := hw₃.loses hr₄.loses
    refine ⟨⟨fun t ht => ⟨fun _ hlive _ => hlive, fun x hx hid => ?_⟩, fun _ hlive _ => .inl hlive,
      fun x hx hne => Table.mem_put.2 (.inr ⟨hx, hne⟩)⟩, hr₄.alone.trans halone, hw₄⟩
    rcases Table.mem_put.1 hx with rfl | ⟨hold, -⟩
    · exact absurd hid.symm ht
    · exact hold
  cases previous with
  | none => exact hrest w₂ hregistered
  | some previous =>
    show wp (Rely env i) (Touches i) (signal previous.token "session_replaced" >>= fun _ => _) _ _ w₂
    rw [Proc.wp_bind]
    refine wp_modifyState fun w₃ hr₃ => ⟨.of_eq rfl rfl, hrest _ ?_⟩
    have hw₃ : Owned i session.deviceId w₃.1 := hregistered.2.loses hr₃.loses
    exact ⟨hr₃.alone.trans hregistered.1, hw₃⟩

/-! ## Handlers that register -/

/-- A program that leaves an open connection open, with entries of its session's device only. -/
abbrev Opens (env : ServerEnvironment) (i : Nat) (m : ServerM α) (w : ServerWorld) : Prop :=
  wp (Rely env i) (Touches i) m (fun _ => Open i) (fun _ => Open i) w

/-- The connection is open, and its session is the one that the handler has read. -/
structure Slotted (i : Nat) (slot : Option Session) (w : ServerWorld) : Prop where
  opened : Open i w
  session : w.2.session = slot

variable {slot : Option Session} {w : ServerWorld}

theorem Slotted.aside {w' : ServerWorld} (h : Slotted i slot w) (hs : Aside i w w') : Slotted i slot w' :=
  ⟨hs.opened h.opened, hs.session.trans h.session⟩

theorem Slotted.owned {session : Session} (h : Slotted i (some session) w) : Owned i session.deviceId w.1 := by
  intro live hlive ht
  obtain ⟨current, hcurrent, howned⟩ := h.opened.owned (.inl ⟨live, hlive, ht⟩)
  rw [h.session] at hcurrent
  cases hcurrent
  exact howned live hlive ht

theorem opens_of_aside {m : ServerM α} (hm : IsAside (fun _ _ => True) m) (h : Open i w) : Opens env i m w :=
  (hm.moves w).mono (fun _ _ h => h) (fun _ _ hs => hs.opened h) fun _ _ hs => hs.opened h

/-- After a program that leaves the entries alone. -/
theorem Slotted.after {m : ServerM β} {f : β → ServerM α} (h : Slotted i slot w) (hm : IsAside (fun _ _ => True) m)
    (hf : ∀ b w', Slotted i slot w' → Opens env i (f b) w') : Opens env i (m >>= f) w :=
  hm.moves.wp_bind (fun _ _ hs => hs.opened h.opened) fun b w' hs => hf b w' (h.aside hs)

theorem wp_getConnection {γ : Type} {f : Connection → γ} {Q : γ → ServerWorld → Prop}
    {E : Error → ServerWorld → Prop} (h : ∀ w', Aside i w w' → Q (f w.2) w') :
    wp (Rely env i) (Touches i) (getConnection f) Q E w := by
  unfold getConnection
  rw [Proc.wp_atomically]
  refine fun w' hr => ⟨.of_eq rfl rfl, fun a ha => ?_, nofun⟩
  cases ha
  rw [hr.alone]
  exact h w' ⟨hr.loses, by rw [hr.alone], by rw [hr.alone]⟩

theorem opens_ensureUnauthenticated {f : Unit → ServerM α} (h : Open i w)
    (hf : ∀ w', Slotted i none w' → Opens env i (f ()) w') : Opens env i (ensureUnauthenticated >>= f) w := by
  unfold ensureUnauthenticated
  rw [Opens, Proc.wp_bind, Proc.wp_bind]
  refine wp_getConnection fun w' hs => ?_
  rw [Proc.wp_ensure]
  exact ⟨fun hnone => hf w' ⟨hs.opened h, hs.session.trans (Option.isNone_iff_eq_none.1 hnone)⟩,
    fun _ => hs.opened h⟩

theorem opens_anySession {e : Error} {f : Session → ServerM α} (h : Open i w)
    (hf : ∀ session w', Slotted i (some session) w' → Opens env i (f session) w') :
    Opens env i (anySession e >>= f) w := by
  unfold anySession
  rw [Opens, Proc.wp_bind, Proc.wp_bind]
  refine wp_getConnection fun w' hs => ?_
  rw [Proc.wp_orFail]
  exact ⟨fun session hsome => hf session w' ⟨hs.opened h, hs.session.trans hsome⟩, fun _ => hs.opened h⟩

theorem opens_activeSession {f : Session → ServerM α} (h : Open i w)
    (hf : ∀ session w', Slotted i (some session) w' → Opens env i (f session) w') :
    Opens env i (activeSession >>= f) w := by
  unfold activeSession
  rw [Opens, Proc.wp_bind, Proc.wp_bind]
  refine wp_getConnection fun w' hs => ?_
  rw [Proc.wp_bind, Proc.wp_orFail]
  refine ⟨fun session hsome => ?_, fun _ => hs.opened h⟩
  rw [Proc.wp_bind, Proc.wp_ensure]
  exact ⟨fun _ => (Proc.wp_pure _).2 (hf session w' ⟨hs.opened h, hs.session.trans hsome⟩), fun _ => hs.opened h⟩

/-- The session slot is written. -/
theorem opens_modifyConnection {f : Connection → Connection} {g : Unit → ServerM α} (session : Session)
    (hclosed : w.2.closed = false) (howned : Owned i session.deviceId w.1)
    (hf : ∀ c, (f c).session = some session ∧ (f c).closed = c.closed)
    (hg : ∀ w', Slotted i (some session) w' → Opens env i (g ()) w') : Opens env i (modifyConnection f >>= g) w := by
  unfold modifyConnection
  rw [Opens, Proc.wp_bind, Proc.wp_atomically]
  refine fun w' hr => ⟨.of_eq rfl rfl, fun _ _ => ?_, nofun⟩
  have hw' : Owned i session.deviceId w'.1 := howned.loses hr.loses
  have hopen : Open i (w'.1, f w'.2) :=
    ⟨(hf _).2.trans (hr.alone ▸ hclosed), fun _ => ⟨session, (hf _).1, hw'⟩⟩
  exact hg _ ⟨hopen, (hf _).1⟩

theorem opens_setConnection {f : Connection → Connection} {session : Session}
    (hclosed : w.2.closed = false) (howned : Owned i session.deviceId w.1)
    (hf : ∀ c, (f c).session = some session ∧ (f c).closed = c.closed) : Opens env i (modifyConnection f) w := by
  unfold modifyConnection
  rw [Opens, Proc.wp_atomically]
  refine fun w' hr => ⟨.of_eq rfl rfl, fun _ _ => ?_, nofun⟩
  have hw' : Owned i session.deviceId w'.1 := howned.loses hr.loses
  exact ⟨(hf _).2.trans (hr.alone ▸ hclosed), fun _ => ⟨session, (hf _).1, hw'⟩⟩

/-- A registration without a session, and what follows it. -/
theorem opens_register {session : Session} {f : Unit → ServerM α} (h : Slotted i none w)
    (hf : ∀ w', Between i session.deviceId w' → Opens env i (f ()) w') :
    Opens env i (register session i >>= f) w := by
  rw [Opens, Proc.wp_bind]
  refine wp.mono (wp_register (h.opened.owned_of_none h.session)) (fun _ _ h => h) (fun _ w' hw' => ?_)
    fun _ _ h => h
  exact hf w' ⟨hw'.1 ▸ h.opened.closed, hw'.1 ▸ h.session, hw'.2⟩

/-- A registration with a session of the device. -/
theorem opens_registerSession {session current : Session} {f : Unit → ServerM α} (h : Slotted i (some current) w)
    (hdevice : session.deviceId = current.deviceId)
    (hf : ∀ w', Slotted i (some current) w' → Opens env i (f ()) w') : Opens env i (register session i >>= f) w := by
  have howned : Owned i session.deviceId w.1 := hdevice ▸ h.owned
  rw [Opens, Proc.wp_bind]
  refine wp.mono (wp_register howned) (fun _ _ h => h) (fun _ w' hw' => ?_) fun _ _ h => h
  have hsession : w'.2.session = some current := hw'.1 ▸ h.session
  exact hf w' ⟨⟨hw'.1 ▸ h.opened.closed, fun _ => ⟨current, hsession, hdevice ▸ hw'.2⟩⟩, hsession⟩

theorem handleDeviceAuth_opens {id : String} {m : DeviceAuth} (h : Open i w) :
    Opens env i (handleDeviceAuth env P i id m) w := by
  refine opens_ensureUnauthenticated h fun _ h => h.after takeValidChallenge_aside fun challenge _ h => ?_
  refine h.after accountByUsername_aside fun _ _ h => h.after (.orFail _ _) fun account _ h => ?_
  refine h.after (.ensure _ _) fun _ _ h => h.after device_aside fun _ _ h => h.after (.orFail _ _) fun _ _ h => ?_
  refine h.after (.ensure _ _) fun _ _ h => h.after (.ofExcept _) fun _ _ h => h.after nowMs_aside fun _ _ h => ?_
  refine h.after (update_aside fun _ => trivial) fun _ _ h => opens_register h fun w hw => ?_
  refine (steady_send w hw).bind fun _ w hw => (steady_pushPostAuth w hw).bind fun _ w hw => ?_
  refine (Steady.caught (W := fun _ _ => True) (audit_aside fun _ => trivial) w hw).bind fun _ w hw => ?_
  exact opens_setConnection hw.closed hw.owned fun _ => ⟨rfl, rfl⟩

theorem rehashPassword_aside {account : AccountRow} {replacement : Option String} :
    IsAside (fun _ _ => True) (rehashPassword env account replacement) := by
  cases replacement with
  | none => exact .pure _
  | some phc => exact .bind (update_aside fun _ => trivial) fun _ => .pure _

theorem openPendingSession_opens {id : String} {challenge : Challenge} {row : AccountRow}
    {replacement : Option String} (h : Slotted i none w) :
    Opens env i (openPendingSession env i id challenge row replacement) w := by
  refine h.after rehashPassword_aside fun _ _ h => h.after device_aside fun existing _ h => ?_
  refine h.after (.ensure _ _) fun _ _ h => h.after reply_aside fun _ _ h => ?_
  split
  · refine opens_register h fun w hw => (steady_pushPostAuth w hw).bind fun _ w hw => ?_
    refine (Steady.caught (W := fun _ _ => True) (audit_aside fun _ => trivial) w hw).bind fun _ w hw => ?_
    exact opens_setConnection hw.closed hw.owned fun _ => ⟨rfl, rfl⟩
  · refine h.after (.caught (audit_aside fun _ => trivial)) fun _ _ h => ?_
    exact opens_setConnection h.opened.closed (h.opened.owned_of_none h.session) fun _ => ⟨rfl, rfl⟩

theorem handlePasswordAuth_opens {id : String} {m : PasswordAuth} (h : Open i w) :
    Opens env i (handlePasswordAuth env i id m) w := by
  refine opens_ensureUnauthenticated h fun _ h => h.after takeValidChallenge_aside fun challenge _ h => ?_
  refine h.after (.ensure _ _) fun _ _ h => h.after learn_aside fun _ _ h => h.after (.ensure _ _) fun _ _ h => ?_
  refine h.after accountByUsername_aside fun account _ h => h.after learn_aside fun verified _ h => ?_
  obtain ⟨valid, replacement⟩ := verified
  dsimp only
  split
  · exact h.after (.caught (audit_aside fun _ => trivial)) fun _ _ h => opens_of_aside (.fail _) h.opened
  · exact openPendingSession_opens h

theorem bootstrapFirst_opens {id : String} {session : Session} {m : BootstrapDevice} (h : Slotted i (some session) w) :
    Opens env i (bootstrapFirst env P i id session m) w := by
  refine h.after (.ofExcept _) fun _ _ h => h.after (executeRecording_aside (fun _ _ _ _ => trivial) fun _ _ => rfl) fun _ _ h => ?_
  refine h.after nowMs_aside fun _ _ h => h.after (write_aside fun _ _ _ => trivial) fun _ _ h => h.after nowMs_aside fun _ _ h => ?_
  refine h.after (write_aside fun _ _ _ => trivial) fun _ w h => ?_
  refine opens_modifyConnection { session with
    account := { session.account with
      masterPublicKey := some m.accountMasterKey
      rosterRevision := 1 }
    pending := false
    passwordChangeRequired := session.account.requirePasswordChange } h.opened.closed h.owned
    (fun _ => ⟨rfl, rfl⟩) fun _ h => ?_
  exact opens_registerSession h rfl fun _ h => opens_of_aside reply_aside h.opened

theorem bootstrapPending_opens {id : String} {session : Session} {m : BootstrapDevice} {counts : Nat × Nat}
    (h : Slotted i (some session) w) : Opens env i (bootstrapPending env i id session m counts) w := by
  refine h.after (.ensure _ _) fun _ _ h => h.after (.ensure _ _) fun _ _ h => h.after (.ensure _ _) fun _ _ h => ?_
  refine h.after nowMs_aside fun _ _ h => h.after (write_aside fun _ _ _ => trivial) fun _ _ h => h.after nowMs_aside fun _ _ h => ?_
  refine h.after (write_aside fun _ _ _ => trivial) fun _ _ h => opens_registerSession h rfl fun _ h => ?_
  exact h.after pushAccount_aside fun _ _ h => opens_of_aside reply_aside h.opened

theorem handleBootstrapDevice_opens {id : String} {m : BootstrapDevice} (h : Open i w) :
    Opens env i (handleBootstrapDevice env P i id m) w := by
  refine opens_anySession h fun session _ h => h.after (.ensure _ _) fun _ _ h => h.after device_aside fun _ _ h => ?_
  refine h.after (.ensure _ _) fun _ _ h => h.after (.ensure _ _) fun _ _ h => h.after query_aside fun _ _ h => ?_
  refine h.after query_aside fun counts _ h => ?_
  split
  · exact h.after (.ensure _ _) fun _ _ h => bootstrapFirst_opens h
  · exact bootstrapPending_opens h

theorem handleChangePassword_opens {id : String} {m : ChangePassword} (h : Open i w) :
    Opens env i (handleChangePassword env i id m) w := by
  refine opens_activeSession h fun session _ h => h.after (.ensure _ _) fun _ _ h => ?_
  refine h.after (.ofExcept _) fun _ _ h => h.after learn_aside fun _ _ h => h.after (.ensure _ _) fun _ _ h => ?_
  refine h.after learn_aside fun phc _ h => h.after (update_aside fun _ => trivial) fun _ w h => ?_
  refine opens_modifyConnection { session with
    account := { session.account with passwordPhc := phc, requirePasswordChange := false }
    passwordChangeRequired := false } h.opened.closed h.owned (fun _ => ⟨rfl, rfl⟩) fun _ h => ?_
  exact h.after (audit_aside fun _ => trivial) fun _ _ h => opens_of_aside reply_aside h.opened

/-! ## The loop -/

theorem handleBody_opens {id : String} (body : Body) (h : Open i w) : Opens env i (handleBody env P i id body) w := by
  cases body with
  | clientHello m => exact opens_of_aside handleClientHello_aside h
  | deviceAuth m => exact handleDeviceAuth_opens h
  | passwordAuth m => exact handlePasswordAuth_opens h
  | bootstrapDevice m => exact handleBootstrapDevice_opens h
  | changePassword m => exact handleChangePassword_opens h
  | lookupUser m => exact opens_of_aside handleLookupUser_aside h
  | publishPreKeys m => exact opens_of_aside (handlePublishPreKeys_aside fun _ _ _ => trivial) h
  | claimPreKey m => exact opens_of_aside (handleClaimPreKey_aside fun _ _ _ => trivial) h
  | sendEnvelopes m => exact opens_of_aside (handleSendEnvelopes_aside fun _ _ _ => trivial) h
  | syncRequest m => exact opens_of_aside handleSyncRequest_aside h
  | ackEnvelope m => exact opens_of_aside (handleAckEnvelope_aside fun _ _ _ => trivial) h
  | pairingEvent m => exact opens_of_aside (handlePairingEvent_aside fun _ _ _ => trivial) h
  | ackPairingEvent m => exact opens_of_aside (handleAckPairingEvent_aside fun _ _ _ => trivial) h
  | activateDevice m => exact opens_of_aside (handleActivateDevice_aside fun _ _ _ => trivial) h
  | listOwnDevices => exact opens_of_aside handleListOwnDevices_aside h
  | revokeOwnDevice m => exact opens_of_aside (handleRevokeOwnDevice_aside fun _ _ _ => trivial) h
  | ping m => exact opens_of_aside reply_aside h
  | pong m => exact opens_of_aside (.pure ()) h
  | _ => exact opens_of_aside (.fail _) h

theorem handleReporting_opens {f : Frame} (h : Open i w) : Opens env i (handleReporting env P i f) w := by
  unfold handleReporting handleFrame
  rw [Opens, Proc.wp_bind, Proc.wp_caught, Proc.wp_bind, Proc.wp_orFail]
  have hreport : ∀ e (w : ServerWorld), Open i w → Opens env i (sendError env i f.id (publicError e).code
      (publicError e).message (publicError e).retryable) w := fun _ _ h => opens_of_aside sendError_aside h
  refine ⟨fun body _ => ?_, fun _ => hreport _ w h⟩
  exact wp.mono (handleBody_opens body h) (fun _ _ h => h) (fun _ _ h => (Proc.wp_pure ()).2 h) fun e w h => hreport e w h

/-- A closed connection leaves no entry, if it was open before. -/
theorem wp_close (h : Open i w) :
    wp (Rely env i) (Touches i) (close i) (fun _ w => ¬ w.1.Carries i) (fun _ w => ¬ w.1.Carries i) w := by
  unfold close modifyConnection
  rw [Proc.wp_bind, Proc.wp_atomically]
  refine fun w₁ hr₁ => ⟨.of_eq rfl rfl, fun _ _ => ?_, nofun⟩
  have hsession₁ : w₁.2.session = w.2.session := by rw [hr₁.alone]
  rw [Proc.wp_bind]
  refine wp_getConnection fun w₂ hs₂ => ?_
  have hloses : Loses i w.1 w₂.1 := hr₁.loses.trans hs₂.loses
  dsimp only
  cases hslot : w₁.2.session with
  | none =>
    refine (Proc.wp_pure ()).2 fun hcarries => ?_
    obtain ⟨session, hsession, -⟩ := h.owned (hloses.carries hcarries)
    rw [← hsession₁, hslot] at hsession
    cases hsession
  | some session =>
    have howned : Owned i session.deviceId w₂.1 := by
      intro live hlive ht
      obtain ⟨session', hsession', howned⟩ := h.owned (hloses.carries (.inl ⟨live, hlive, ht⟩))
      rw [← hsession₁, hslot] at hsession'
      cases hsession'
      exact howned.loses hloses live hlive ht
    unfold unregister
    rw [Proc.wp_bind]
    refine wp_modifyState fun w₃ hr₃ => ⟨⟨fun t ht => ⟨fun _ hlive _ => (Table.mem_delete.1 hlive).1, fun _ hx _ => hx⟩,
      fun live hlive hne => .inl (Table.mem_delete.2 ⟨hlive, by simp [hne]⟩), fun _ hx _ => hx⟩, ?_⟩
    have howned₃ : Owned i session.deviceId w₃.1 := howned.loses hr₃.loses
    refine wp_modifyState fun w₄ hr₄ => ⟨⟨fun t ht => ⟨fun _ hlive _ => hlive, fun _ hx _ => (Table.mem_delete.1 hx).1⟩,
      fun _ hlive _ => .inl hlive, fun x hx hne => Table.mem_delete.2 ⟨hx, by simp [hne]⟩⟩, ?_⟩
    rintro (⟨live, hlive, ht⟩ | ⟨x, hx, hid⟩)
    · obtain ⟨hold, hkept⟩ := Table.mem_delete.1 (hr₄.loses.connections live hlive ht)
      simp [howned₃ live hold ht, ht] at hkept
    · have hkept := (Table.mem_delete.1 hx).2
      simp [hid] at hkept

/-- A task of an open connection ends with its entries in order. -/
abbrev Settles (env : ServerEnvironment) (i : Nat) (m : ServerM α) (w : ServerWorld) : Prop :=
  wp (Rely env i) (Touches i) m (fun _ => Rests i) (fun _ => Rests i) w

theorem close_settles (h : Open i w) : Settles env i (close i) w :=
  (wp_close h).mono (fun _ _ h => h) (fun _ _ h hc => absurd hc h) fun _ _ h hc => absurd hc h

theorem settles_of_aside {m : ServerM α} (hm : IsAside (fun _ _ => True) m) (h : Rests i w) : Settles env i m w :=
  (hm.moves w).mono (fun _ _ h => h) (fun _ _ hs => hs.settled h) fun _ _ hs => hs.settled h

theorem settles_after {m : ServerM β} {f : β → ServerM α} (hm : IsAside (fun _ _ => True) m) (h : Open i w)
    (hf : ∀ b w', Open i w' → Settles env i (f b) w') : Settles env i (m >>= f) w :=
  hm.moves.wp_bind (fun _ _ hs => (hs.opened h).settled) fun b w' hs => hf b w' (hs.opened h)

theorem serveFrame_settles {f : Frame} (h : Open i w) : Settles env i (serveFrame env P i f) w := by
  rw [serveFrame, record, modifyConnection, Settles, Proc.wp_bind, Proc.wp_atomically]
  refine fun w' hr => ⟨.of_eq rfl rfl, fun _ _ => ?_, nofun⟩
  have hreceived : Aside i w (w'.1, { w'.2 with log := .received f :: w'.2.log }) := by
    refine ⟨hr.loses, ?_, ?_⟩
    · show w'.2.session = w.2.session
      rw [hr.alone]
    · show w'.2.closed = w.2.closed
      rw [hr.alone]
  have h := hreceived.opened h
  split
  · exact settles_after sendError_aside h fun _ _ h => close_settles h
  refine settles_after takeRequest_aside h fun admitted w h => ?_
  split
  · exact settles_after sendError_aside h fun _ _ h => close_settles h
  refine settles_after recheckAccess_aside h fun allowed w h => ?_
  split
  · exact settles_after sendError_aside h fun _ _ h => close_settles h
  · exact wp.mono (handleReporting_opens h) (fun _ _ h => h) (fun _ _ h => h.settled) fun _ _ h => h.settled

theorem serve_settles (m : Incoming) (h : Open i w) : Settles env i (serve env P i m) w := by
  cases m with
  | binary decoded =>
    cases decoded with
    | error e => exact settles_of_aside sendError_aside h.settled
    | ok f =>
      rw [serve]
      split
      · exact serveFrame_settles h
      · exact settles_of_aside sendError_aside h.settled
  | ping first => exact settles_of_aside trySend_aside h.settled
  | other => exact settles_of_aside (.pure ()) h.settled
  | closed => exact close_settles h
  | disconnect reason => exact settles_after sendError_aside h fun _ _ h => close_settles h

end Ws

/-! ## Commands -/

namespace Admin

open Ws

theorem kickAccount_aside {accountId reason : String} : IsAside W (kickAccount accountId reason) :=
  .bind getState_aside fun _ => .each fun _ _ => signal_aside

theorem control_aside {request : ServerM Unit} (h : IsAside W request) : IsAside W (control env request) :=
  .bind learn_aside fun _ => .ite (fun _ => h) fun _ => .pure _

theorem disconnectUserIfOnline_aside {username reason : String} :
    IsAside W (disconnectUserIfOnline env username reason) :=
  .bind query_aside fun account => by
    cases account with
    | none => exact .pure _
    | some account => exact control_aside kickAccount_aside

theorem setUserState_aside {username : String} {state : AccountState} :
    IsAside (fun _ _ => True) (setUserState env username state) :=
  .bind (.ofExcept _) fun _ => .bind (Ws.execute_aside fun _ _ _ => trivial) fun _ => .bind (.ensure _ _) fun _ =>
    audit_aside fun _ => trivial

theorem cleanupRounds_aside {cutoff : Int} :
    ∀ {rounds : Nat}, IsAside (fun _ _ => True) (cleanupRounds env cutoff rounds)
  | 0 => .pure _
  | _ + 1 =>
    .bind (Ws.execute_aside fun _ _ _ => trivial) fun _ => .ite (fun _ => .pure _) fun _ => cleanupRounds_aside

theorem runCommand_aside (command : Command) : IsAside (fun _ _ => True) (runCommand env command) := by
  cases command with
  | userAdd username password =>
    exact .bind (.ofExcept _) fun _ => .bind learn_aside fun _ => .bind learn_aside fun _ =>
      .bind (write_aside fun _ _ _ => trivial) fun _ => (audit_aside fun _ => trivial)
  | userDisable username => exact .bind setUserState_aside fun _ => disconnectUserIfOnline_aside
  | userEnable username => exact setUserState_aside
  | userResetPassword username password =>
    exact .bind (.ofExcept _) fun _ => .bind learn_aside fun _ =>
      .bind (Ws.execute_aside fun _ _ _ => trivial) fun _ => .bind (.ensure _ _) fun _ => audit_aside fun _ => trivial
  | userResetDevices username =>
    refine .bind (.bind (.ofExcept _) fun _ => .bind (Ws.execute_aside fun _ _ _ => trivial) fun _ => ?_) fun _ =>
      disconnectUserIfOnline_aside
    exact .bind (.each fun _ _ => (update_aside fun _ => trivial)) fun _ => (audit_aside fun _ => trivial)
  | userDelete username =>
    refine .bind (.ofExcept _) fun _ => .bind query_aside fun _ => .bind (.orFail _ _) fun _ => ?_
    exact .bind disconnectUserIfOnline_aside fun _ => .bind (update_aside fun _ => trivial) fun _ =>
      audit_aside fun _ => trivial
  | deviceRevoke username deviceId =>
    refine .bind (.bind query_aside fun _ => .bind (.orFail _ _) fun _ => ?_) fun _ => control_aside kickDevice_aside
    exact .bind (Ws.execute_aside fun _ _ _ => trivial) fun _ => .bind (.ensure _ _) fun _ =>
      .bind (update_aside fun _ => trivial) fun _ => audit_aside fun _ => trivial
  | storageCleanup retentionDays rounds =>
    exact .bind nowMs_aside fun _ => .bind cleanupRounds_aside fun _ => (audit_aside fun _ => trivial)
  | conversationPrune conversation before deliveredOnly =>
    exact .bind (.ensure _ _) fun _ => .bind (update_aside fun _ => trivial) fun _ => (audit_aside fun _ => trivial)
  | sessionKick id =>
    refine .bind (.bind getState_aside fun found => ?_) fun _ => .bind (.ensure _ _) fun _ =>
      audit_aside fun _ => trivial
    cases found with
    | true => exact .bind signal_aside fun _ => .pure _
    | false => exact .pure _
  | maintenance deliveredRetentionDays =>
    exact .bind nowMs_aside fun _ => .bind (update_aside fun _ => trivial) fun _ => (update_aside fun _ => trivial)

end Admin

end TuiChat
