import TuiChat.Lib.Extent
import TuiChat.Server.Tenants
import TuiChat.Verify.DeviceCap
import TuiChat.Verify.Pagination

/-!
# One account at a time

Each frame of an active session has a scope: for every table, which rows may come, go or change
(`Session.scope`). Whatever else goes on, every action for the frame is within it, and a page that is sent has
envelopes for the device and updates of the account only (`tenants_isolated`). The ids in a frame are chosen by
the client; what binds them to the session is the condition of each write.
-/

namespace TuiChat

open Lib

variable {env : ServerEnvironment} {P : Primitives}

/-! ## Scopes -/

/-- What a write may do to each table, and what it may record. -/
structure Db.Scope where
  accounts : Extent AccountRow := {}
  devices : Extent DeviceRow := {}
  prekeys : Extent PreKeyRow := {}
  logicalMessages : Extent LogicalMessageRow := {}
  envelopes : Extent EnvelopeRow := {}
  deliveryUpdates : Extent DeliveryUpdateRow := {}
  pairingEvents : Extent PairingEventRow := {}
  usage : Extent AccountStorageUsage := {}
  audit : AuditEvent → Prop := fun _ => False

namespace Db

variable {db db' : Db}

structure WithinScope (db db' : Db) (x : Scope) : Prop where
  accounts : db.accounts.Within db'.accounts x.accounts := by exact .refl _
  devices : db.devices.Within db'.devices x.devices := by exact .refl _
  prekeys : db.prekeys.Within db'.prekeys x.prekeys := by exact .refl _
  logicalMessages : db.logicalMessages.Within db'.logicalMessages x.logicalMessages := by exact .refl _
  envelopes : db.envelopes.Within db'.envelopes x.envelopes := by exact .refl _
  deliveryUpdates : db.deliveryUpdates.Within db'.deliveryUpdates x.deliveryUpdates := by exact .refl _
  pairingEvents : db.pairingEvents.Within db'.pairingEvents x.pairingEvents := by exact .refl _
  usage : db.usage.Within db'.usage x.usage := by exact .refl _
  audit : db'.audit = db.audit ∨ ∃ event, x.audit event ∧ db'.audit = event :: db.audit := by exact .inl rfl

/-- The envelope of the id is for the device. -/
structure Addressed (db : Db) (deviceId envelopeId : String) (row : EnvelopeRow) : Prop where
  stored : row ∈ db.envelopes
  id : row.envelopeId = envelopeId
  recipient : row.envelope.recipientDeviceId = deviceId

/-- The message has envelopes, and all of them are for the device. -/
structure OnlyFor (db : Db) (deviceId logicalId : String) : Prop where
  some : ∃ row ∈ db.envelopes, row.envelope.logicalMessageId = logicalId
  all : ∀ row ∈ db.envelopes, row.envelope.logicalMessageId = logicalId → row.envelope.recipientDeviceId = deviceId

/-- Pairing events have the numbers that were given out. -/
def EventsNumbered (db : Db) : Prop := ∀ row ∈ db.pairingEvents, row.id ≤ db.lastPairingEvent

end Db

namespace Memory

/-- The device was the account's. -/
def Owns (M : Memory) (s : AppState) (accountId deviceId : String) : Prop :=
  ∃ db, M.seen s db ∧ (db.device accountId deviceId).isSome

/-- The device was the account's, and was revoked. -/
def Revoked (M : Memory) (s : AppState) (accountId deviceId : String) : Prop :=
  ∃ db row, M.seen s db ∧ db.device accountId deviceId = some row ∧ row.revoked = true

end Memory

/-- What a frame of the session may do to the database. -/
def Session.scope (M : Memory) (session : Session) (s : AppState) : Body → Db.Scope
  | .ackEnvelope m =>
    { envelopes :=
        { becomes := fun row row' =>
            s.db.Addressed session.deviceId m.envelopeId row ∧ row'.undated = row.undated }
      logicalMessages :=
        { becomes := fun row row' => row'.undated = row.undated ∧
            ∃ e, s.db.Addressed session.deviceId m.envelopeId e ∧ e.envelope.logicalMessageId = row.logicalMessageId }
      deliveryUpdates :=
        { comes := fun row => ∃ e, s.db.Addressed session.deviceId m.envelopeId e ∧
            row.about = (e.senderAccountId, e.envelope.logicalMessageId) } }
  | .ackPairingEvent m =>
    { pairingEvents := { goes := fun row => row.id = m.serverEventId ∧ row.targetDeviceId = session.deviceId } }
  | .pairingEvent m =>
    { pairingEvents :=
        { comes := fun row => row.senderDeviceId = session.deviceId ∧ row.targetDeviceId = m.targetDeviceId ∧
            M.Owns s session.account.id row.senderDeviceId ∧ M.Owns s session.account.id row.targetDeviceId } }
  | .activateDevice m =>
    { devices :=
        { becomes := fun row row' => row.accountId = session.account.id ∧
            row' = { row with pending := false, certificateSignature := row'.certificateSignature } }
      accounts :=
        { becomes := fun row row' => row.id = session.account.id ∧
            row' = { row with rosterRevision := m.rosterRevision } } }
  | .revokeOwnDevice m =>
    { devices :=
        { becomes := fun row row' => row.accountId = session.account.id ∧ row.id = m.deviceId ∧
            row' = { row with revoked := true } }
      prekeys := { goes := fun row => row.deviceId = m.deviceId ∧ M.Revoked s session.account.id m.deviceId }
      envelopes :=
        { goes := fun row => row.envelope.recipientDeviceId = m.deviceId ∧
            M.Revoked s session.account.id m.deviceId }
      logicalMessages :=
        { goes := fun row => s.db.OnlyFor m.deviceId row.logicalMessageId ∧
            M.Revoked s session.account.id m.deviceId }
      deliveryUpdates :=
        { goes := fun row => s.db.OnlyFor m.deviceId row.logicalMessageId ∧
            M.Revoked s session.account.id m.deviceId }
      usage :=
        { becomes := fun row row' => row'.accountId = row.accountId ∧ row'.ciphertextBytes ≤ row.ciphertextBytes ∧
            M.Revoked s session.account.id m.deviceId ∧
            ∃ e ∈ s.db.envelopes, e.envelope.recipientDeviceId = m.deviceId ∧ e.senderAccountId = row.accountId }
      audit := fun event => event =
        { category := "device"
          actor := session.account.username
          action := "self_service_revoke"
          target := m.deviceId
          result := "success" } }
  | _ => {}

/-- The page that the database has for the session: its device's envelopes after the cursor, all of them where no
more is announced, and updates of its account. -/
structure Session.PageOf (session : Session) (m : SyncRequest) (db : Db) (batch : SyncBatch) : Prop where
  read : batch = Ws.syncPage db session.account.id session.deviceId m
  envelopes : ∀ e ∈ batch.envelopes, ∃ row ∈ db.envelopes,
    row.envelope.recipientDeviceId = session.deviceId ∧ asI64 m.afterCursor < row.cursor ∧ e.Of row
  updates : ∀ u ∈ batch.deliveryUpdates, ∃ row ∈ db.deliveryUpdates, row.accountId = session.account.id ∧
    u.update = some { logicalMessageId := row.logicalMessageId, deliveredAtMs := row.deliveredAtMs }
  complete : batch.hasMore = false → ∀ row ∈ db.envelopes, row.envelope.recipientDeviceId = session.deviceId →
    asI64 m.afterCursor < row.cursor → ∃ e ∈ batch.envelopes, e.Of row

/-- One action for a frame of the session. -/
structure Session.Isolated (M : Memory) (session : Session) (body : Body) (s s' : AppState) : Prop where
  writes : s.db.WithinScope s'.db (session.scope M s body)
  page : s'.out = s.out ∨ ∃ t f, s'.out = s.out ++ [(t, f)] ∧ ∀ batch, f.body = some (.syncBatch batch) →
    ∃ m db, body = .syncRequest m ∧ M.seen s db ∧ session.PageOf m db batch

/-! ## Writes -/

namespace Db

variable {db db' : Db} {M : Memory} {session : Session} {s : AppState}

theorem WithinScope.refl (db : Db) (x : Scope) : db.WithinScope db x := {}

/-- A message or an update that goes had an envelope, and all it had go. -/
theorem Threaded.onlyFor (h : db.Threaded) {deviceId logicalId : String}
    (hmessage : ∃ m ∈ db.logicalMessages, m.logicalMessageId = logicalId)
    (horphaned : ((db.envelopes.delete fun row => row.envelope.recipientDeviceId = deviceId).rows.all
      fun row => row.envelope.logicalMessageId ≠ logicalId) = true) : db.OnlyFor deviceId logicalId := by
  obtain ⟨m, hm, rfl⟩ := hmessage
  refine ⟨h.sent m hm, fun row hrow hid => ?_⟩
  by_contra hother
  have hkept : row ∈ db.envelopes.delete fun row => row.envelope.recipientDeviceId = deviceId :=
    Table.mem_delete.2 ⟨hrow, decide_eq_false hother⟩
  have hne := List.all_eq_true.1 horphaned row hkept
  exact of_decide_eq_true hne hid

/-- Only the senders of envelopes that go have their usage lowered. -/
theorem usage_within (rows : List EnvelopeRow) (usage : Table AccountStorageUsage.accountId) :
    usage.Within (rows.foldl usageRemove usage)
      { becomes := fun row row' => row'.accountId = row.accountId ∧ row'.ciphertextBytes ≤ row.ciphertextBytes ∧
          ∃ e ∈ rows, e.senderAccountId = row.accountId } := by
  refine Table.within_foldl ?_ (fun e he usage => ?_) usage
  · rintro a b c ⟨hab, hle, hsender⟩ ⟨hbc, hle', -⟩
    exact ⟨hbc.trans hab, hle'.trans hle, hsender⟩
  · refine Table.within_update (by intro; rfl) fun row _ hrow => ⟨rfl, Nat.sub_le _ _, e, he, ?_⟩
    exact (of_decide_eq_true hrow).symm

theorem ack_within (deviceId : String) (m : AckEnvelope) (now : Int) (hdevice : session.deviceId = deviceId) :
    s.db.WithinScope (s.db.ack deviceId m.envelopeId now).2 (session.scope M s (.ackEnvelope m)) := by
  subst hdevice
  cases hfound : (s.db.envelopes.find m.envelopeId).filter
      fun row => row.envelope.recipientDeviceId = session.deviceId with
  | none =>
    have hsame : (s.db.ack session.deviceId m.envelopeId now).2 = s.db := by
      unfold Db.ack
      rw [hfound]
    rw [hsame]
    exact .refl _ _
  | some row =>
    obtain ⟨hfind, hrecipient⟩ := Option.filter_eq_some_iff.1 hfound
    have haddressed : s.db.Addressed session.deviceId m.envelopeId row :=
      ⟨Table.mem_of_find hfind, Table.key_of_find hfind, of_decide_eq_true hrecipient⟩
    unfold Db.ack
    rw [hfound]
    refine { logicalMessages := ?_, envelopes := ?_, deliveryUpdates := ?_ }
    · refine Table.within_update (by intro; rfl) fun message _ hid => ⟨rfl, row, haddressed, ?_⟩
      exact (of_decide_eq_true hid).symm
    · refine Table.within_update (by intro; rfl) fun other hother hid => ⟨?_, rfl⟩
      have hsame : other = row :=
        Table.eq_of_mem hother haddressed.stored ((of_decide_eq_true hid).trans haddressed.id.symm)
      exact hsame ▸ haddressed
    · exact Table.within_insertOrIgnore fun _ => ⟨row, haddressed, rfl⟩

theorem ackPairingEvent_within (m : AckPairingEvent) :
    s.db.WithinScope (s.db.ackPairingEvent session.deviceId m.serverEventId).2
      (session.scope M s (.ackPairingEvent m)) where
  pairingEvents := by
    refine Table.within_delete fun row _ hrow => ?_
    rw [Bool.and_eq_true, decide_eq_true_eq, decide_eq_true_eq] at hrow
    exact hrow

theorem insertPairingEvent_within {m : PairingEvent} {expiresAtMs : Int} {r : Nat × Db}
    (hnumbered : s.db.EventsNumbered) (sender : M.Owns s session.account.id session.deviceId)
    (target : M.Owns s session.account.id m.targetDeviceId)
    (write : s.db.insertPairingEvent m.pairingId session.deviceId m.targetDeviceId m.eventType m.payload
      expiresAtMs = .ok r) : s.db.WithinScope r.2 (session.scope M s (.pairingEvent m)) := by
  obtain ⟨-, -, rfl⟩ := insertPairingEvent_eq_ok.1 write
  refine { pairingEvents := Table.within_put (Table.find_eq_none.2 fun row hrow hid => ?_) ⟨rfl, rfl, sender, target⟩ }
  have hle := hnumbered row hrow
  dsimp only at hid
  omega

theorem activateDevice_within {m : ActivateDevice} {deviceId : String} {certificate : Bytes}
    (write : s.db.activateDevice session.account.id deviceId m.rosterRevision certificate = .ok db) :
    s.db.WithinScope db (session.scope M s (.activateDevice m)) := by
  obtain ⟨-, -, rfl⟩ := activateDevice_eq_ok.1 write
  refine { accounts := ?_, devices := ?_ }
  · exact Table.within_update (by intro; rfl) fun row _ hrow => ⟨of_decide_eq_true hrow, rfl⟩
  · refine Table.within_update (by intro; rfl) fun row _ hrow => ⟨?_, rfl⟩
    rw [Bool.and_eq_true, Bool.and_eq_true, decide_eq_true_eq] at hrow
    exact hrow.1.1

theorem markRevoked_within (m : RevokeOwnDevice) :
    s.db.WithinScope (s.db.markRevoked session.account.id m.deviceId).2 (session.scope M s (.revokeOwnDevice m)) := by
  rw [markRevoked_snd]
  refine { devices := Table.within_update (by intro; rfl) fun row _ hrow => ?_ }
  simp only [Bool.and_eq_true, decide_eq_true_eq] at hrow
  exact ⟨hrow.2.1, hrow.2.2, rfl⟩

theorem cleanupRevokedDevice_within {m : RevokeOwnDevice} (h : s.db.Threaded)
    (hrevoked : M.Revoked s session.account.id m.deviceId) :
    s.db.WithinScope (s.db.cleanupRevokedDevice m.deviceId) (session.scope M s (.revokeOwnDevice m)) where
  prekeys := Table.within_delete fun row _ hrow => ⟨of_decide_eq_true hrow, hrevoked⟩
  envelopes := Table.within_delete fun row _ hrow => ⟨of_decide_eq_true hrow, hrevoked⟩
  logicalMessages := Table.within_delete fun row hrow horphaned => ⟨h.onlyFor ⟨row, hrow, rfl⟩ horphaned, hrevoked⟩
  deliveryUpdates := Table.within_delete fun row hrow horphaned => by
    obtain ⟨message, hmessage, hid, -⟩ := h.updates row hrow
    exact ⟨h.onlyFor ⟨message, hmessage, hid⟩ horphaned, hrevoked⟩
  usage := fun k => by
    have hwithin := usage_within (s.db.envelopes.rows.filter fun row => row.envelope.recipientDeviceId = m.deviceId)
      s.db.usage k
    refine hwithin.mono (fun _ h => h) (fun _ h => h) fun row row' ⟨hid, hle, e, he, hsender⟩ => ?_
    obtain ⟨hmem, hrecipient⟩ := List.mem_filter.1 he
    exact ⟨hid, hle, hrevoked, e, hmem, of_decide_eq_true hrecipient, hsender⟩

theorem recordAudit_within (m : RevokeOwnDevice) :
    s.db.WithinScope (s.db.recordAudit "device" session.account.username "self_service_revoke" m.deviceId "success")
      (session.scope M s (.revokeOwnDevice m)) where
  audit := .inr ⟨_, rfl, rfl⟩

end Db

/-- Every write for a frame is within its scope. -/
theorem Session.Touches.within {M : Memory} {session : Session} {s : AppState} {body : Body} {db : Db}
    (h : session.Touches M s body db) (threaded : s.db.Threaded) (numbered : s.db.EventsNumbered) :
    s.db.WithinScope db (session.scope M s body) := by
  cases h with
  | acked m now => exact Db.ack_within _ m now rfl
  | pairingAcked m => exact Db.ackPairingEvent_within m
  | pairing m expiresAtMs sender target write =>
    obtain ⟨seen, hseen, haccount⟩ := target
    refine Db.insertPairingEvent_within numbered sender ⟨seen, hseen, ?_⟩ write
    obtain ⟨row, hrow, hid⟩ := Option.map_eq_some_iff.1 haccount
    obtain ⟨hfind, -⟩ := Option.filter_eq_some_iff.1 hrow
    rw [Db.device, hfind, Option.filter_some, decide_eq_true hid]
    rfl
  | activated m bundle device write => exact Db.activateDevice_within write
  | revoked m => exact Db.markRevoked_within m
  | cleaned m device => exact Db.cleanupRevokedDevice_within threaded device
  | audited m => exact Db.recordAudit_within m

theorem Db.Threaded.pageOf {db : Db} (h : db.Threaded) (session : Session) (m : SyncRequest) :
    session.PageOf m db (Ws.syncPage db session.account.id session.deviceId m) := by
  obtain ⟨henvelopes, hmore, -, hupdates, -⟩ := Db.syncPage_eq db session.account.id session.deviceId m
  refine { read := rfl, envelopes := fun e he => ?_, updates := fun u hu => ?_, complete := ?_ }
  · rw [henvelopes] at he
    obtain ⟨row, hrow, hdevice, hlt, hstored⟩ := Db.mem_envelopesAfter.1 (List.mem_of_mem_take he)
    exact ⟨row, hrow, hdevice, hlt, Db.storedEnvelope_of hstored⟩
  · rw [hupdates] at hu
    obtain ⟨row, hrow, rfl⟩ := List.mem_map.1 (List.mem_of_mem_take hu)
    obtain ⟨hmem, hrow⟩ := List.mem_filter.1 ((List.mem_insertionSort _).1 hrow)
    rw [Bool.and_eq_true, decide_eq_true_eq] at hrow
    exact ⟨row, hmem, hrow.1, rfl⟩
  · intro hlast row hrow hdevice hlt
    obtain ⟨e, he⟩ := h.storedEnvelope hrow
    refine ⟨e, ?_, Db.storedEnvelope_of he⟩
    have hshort : ¬Db.pageLimit m.limit < (db.envelopesAfter session.deviceId m.afterCursor).length := fun hlong => by
      rw [hmore.2 hlong] at hlast
      cases hlast
    rw [henvelopes, List.take_of_length_le (Nat.not_lt.1 hshort)]
    exact Db.mem_envelopesAfter.2 ⟨row, hrow, hdevice, hlt, he⟩

/-! ## Runs -/

open Db in
theorem Writes.eventsNumbered {had : Db → Prop} {c : Connection} {db db' : Db} (hw : Writes env P had c db db')
    (h : db.EventsNumbered) : db'.EventsNumbered := by
  have haside : ∀ {db' : Db}, (∀ row ∈ db'.pairingEvents, row ∈ db.pairingEvents) →
      db'.lastPairingEvent = db.lastPairingEvent → db'.EventsNumbered := by
    intro db' hevents hlast row hrow
    rw [hlast]
    exact h row (hevents row hrow)
  cases hw with
  | pairing s e expiresAtMs session size type write =>
    obtain ⟨-, -, rfl⟩ := insertPairingEvent_eq_ok.1 write
    intro row hrow
    rcases Table.mem_put.1 hrow with rfl | ⟨hrow, -⟩
    · exact Nat.le_refl _
    · exact Nat.le_succ_of_le (h row hrow)
  | pairingAcked | cleanedPairing => exact haside (fun row hrow => (Table.mem_delete.1 hrow).1) rfl
  | deleted accountId => exact haside (fun row hrow => (Table.mem_delete.1 hrow).1) rfl
  | stored s m now free session active write handling =>
    obtain ⟨_, _, _, _, hdb⟩ := storeEnvelopes_aside write
    exact haside (fun row hrow => by rwa [hdb] at hrow) (by rw [hdb])
  | acked s id m now session active received =>
    refine haside ?_ ?_ <;> (unfold Db.ack; split)
    · exact fun _ h => h
    · exact fun _ h => h
    · rfl
    · rfl
  | authenticated | password | userState | passwordReset | revoked | audited | cleanedDevice | cleanedDelivered
    | pruned => exact haside (fun _ h => h) rfl
  | claimed s m session pending certificate write =>
    obtain ⟨-, rfl⟩ := bootstrapMaster_eq_ok.1 write
    exact haside (fun _ h => h) rfl
  | inserted s m pendingRow now session pending device certificate key write =>
    obtain ⟨-, -, rfl⟩ := insertDevice_eq_ok.1 write
    exact haside (fun _ h => h) rfl
  | prekeys s keys now session write =>
    obtain ⟨-, rfl⟩ := publishPreKeys_eq_ok.1 write
    exact haside (fun _ h => h) rfl
  | prekeyClaimed accountId deviceId =>
    obtain ⟨p, hp⟩ := claimPreKey_snd db accountId deviceId
    rw [hp]
    exact haside (fun _ h => h) rfl
  | activated s id m bundle master session active received device pairing key certificate submitted write =>
    obtain ⟨-, -, rfl⟩ := activateDevice_eq_ok.1 write
    exact haside (fun _ h => h) rfl
  | revokedOwn s deviceId session active other =>
    rw [markRevoked_snd]
    exact haside (fun _ h => h) rfl
  | added id username phc write =>
    obtain ⟨-, -, rfl⟩ := addAccount_eq_ok.1 write
    exact haside (fun _ h => h) rfl
  | devicesReset username write =>
    obtain ⟨_, -, rfl⟩ := resetDevices_eq_ok.1 write
    exact haside (fun _ h => h) rfl

namespace Cluster

variable {p p₀ q : Cluster} {i : Nat} {M : Memory} {session : Session} {body : Body}

theorem eventsNumbered (h : (serverSystem env P).Reachable p) : p.shared.db.EventsNumbered :=
  invariant (I := fun s _ => s.db.EventsNumbered) h (fun _ hrow => absurd hrow (Table.not_mem_empty _))
    (fun i s cs s' c' hI hs => by
      cases hs with
      | wrote log events write => exact write.eventsNumbered hI
      | _ => exact hI)
    fun _ _ hI => hI

/-- So was every database that there was. -/
theorem threaded_had (h : (serverSystem env P).Reachable p) : ∀ db, p.shared.Had db → db.Threaded :=
  invariant (I := fun s _ => ∀ db, s.Had db → db.Threaded) h
    (fun db hdb => by
      rcases hdb with rfl | hdb
      · exact .empty
      · cases hdb)
    (fun i s cs s' c' hI hs => by
      cases hs with
      | wrote log events write =>
        rintro db (rfl | hdb)
        · exact (hI s.db (.inl rfl)).step write.messages
        · exact hI db (List.mem_cons.1 hdb)
      | _ => exact hI)
    fun _ _ hI => hI

/-- The server from a state on. -/
abbrev after (env : ServerEnvironment) (P : Primitives) (p₀ : Cluster) : System Cluster Label :=
  System.ofFun (fun p => p = p₀) (step env P)

/-- The task of the connection has not ended. -/
def Busy (i : Nat) (q : Cluster) (_ : Label) : Prop := (q.tasks i).isSome

/-- Nor does anybody else write to the database. -/
def BusyAlone (env : ServerEnvironment) (P : Primitives) (i : Nat) (q : Cluster) (l : Label) : Prop :=
  (q.tasks i).isSome ∧ ∀ q', l ≠ .advance i → step env P q l = some q' → q'.shared.db = q.shared.db

/-- The task of a frame is where what is left of it is in the frame's scope. -/
structure Attending (env : ServerEnvironment) (P : Primitives) (M : Memory) (i : Nat) (session : Session)
    (body : Body) (q : Cluster) : Prop where
  reachable : (serverSystem env P).Reachable q
  confined : ∀ m, q.tasks i = some m → Confined M session body m (q.world i)

theorem Attending.step {q' : Cluster} {l : Label} (h : q.Attending env P M i session body) (busy : (q.tasks i).isSome)
    (hs : step env P q l = some q') (kept : l ≠ .advance i → M.Kept q.shared q'.shared) :
    q'.Attending env P M i session body := by
  refine ⟨h.reachable.step (i := l) trivial hs, fun m hm => ?_⟩
  -- Another connection's task starts, or acts: this one waits.
  have hwaits : ∀ {j : Nat}, j ≠ i → l ≠ .advance i → q'.tasks i = q.tasks i → q'.locals i = q.locals i →
      Confined M session body m (q'.world i) := by
    intro j hj hl htask hlocal
    refine (h.confined m (htask ▸ hm)).wait ⟨kept hl, hlocal⟩ (fun _ _ => trivial) fun _ _ => trivial
  cases l with
  | incoming j x =>
    obtain ⟨hwait, hq'⟩ := Option.ite_none_right_eq_some.1 hs
    cases hq'
    have hidle : (q.tasks j).isNone := by cases x <;> exact hwait.1
    have hj : i ≠ j := by
      rintro rfl
      rw [Option.isNone_iff_eq_none.1 hidle] at busy
      cases busy
    exact hwaits hj.symm (fun h => nomatch h) (Function.update_of_ne hj _ _) rfl
  | command j x =>
    obtain ⟨hidle, hq'⟩ := Option.ite_none_right_eq_some.1 hs
    cases hq'
    have hj : i ≠ j := by
      rintro rfl
      rw [Option.isNone_iff_eq_none.1 hidle] at busy
      cases busy
    exact hwaits hj.symm (fun h => nomatch h) (Function.update_of_ne hj _ _) rfl
  | advance j =>
    obtain ⟨-, hq'⟩ := Option.ite_none_right_eq_some.1 hs
    cases hq'
    by_cases hj : j = i
    · subst hj
      obtain ⟨task, htask⟩ := Option.isSome_iff_exists.1 busy
      exact (Pool.advance_of_wp htask (h.confined task htask)).2 m hm
    · obtain ⟨htask, hlocal⟩ := Pool.advance_of_ne (p := q) (Ne.symm hj)
      exact hwaits hj (fun h => hj (Label.advance.inj h)) htask hlocal
  | crash =>
    cases hs
    cases hm

/-- The next action for the frame. -/
theorem Attending.isolated (h : q.Attending env P M i session body) (truthful : ∀ s db, M.seen s db → s.Had db)
    (busy : (q.tasks i).isSome) : session.Isolated M body q.shared (q.advance i).shared := by
  obtain ⟨task, htask⟩ := Option.isSome_iff_exists.1 busy
  obtain ⟨⟨hshared, -⟩ | ⟨hstep, -⟩, -⟩ := Pool.advance_of_wp htask (h.confined task htask)
  · rw [hshared]
    exact ⟨.refl _ _, .inl rfl⟩
  refine ⟨?_, hstep.page.imp_right ?_⟩
  · rcases hstep.db with hdb | htouches
    · show q.shared.db.WithinScope ((q.advance i).world i).1.db _
      rw [hdb]
      exact .refl _ _
    · exact htouches.within (threaded h.reachable) (eventsNumbered h.reachable)
  · rintro ⟨t, f, hout, hpage⟩
    refine ⟨t, f, hout, fun batch hbatch => ?_⟩
    obtain ⟨m, db, rfl, hdb, rfl⟩ := hpage batch hbatch
    exact ⟨m, db, rfl, hdb, (threaded_had h.reachable db (truthful _ _ hdb)).pageOf session m⟩

theorem attending {C : Cluster → Label → Prop} {f : Frame} (hp : (serverSystem env P).Reachable p)
    (hbody : f.body = some body) (hscope : Ws.HasScope body) (hsession : (p.locals i).session = some session)
    (active : session.pending = false) (taken : step env P p (.incoming i (.binary (.ok f))) = some p₀)
    (hC : ∀ q l q', (serverSystem env P).Reachable q → C q l → step env P q l = some q' →
      (q.tasks i).isSome ∧ (l ≠ .advance i → M.Kept q.shared q'.shared))
    (h : (after env P p₀).ReachableUnder C q) : q.Attending env P M i session body := by
  refine h.invariant (I := Attending env P M i session body) ?_ fun q l q' hq guard hs => ?_
  · rintro _ rfl
    refine ⟨hp.step (i := .incoming i _) trivial taken, fun m hm => ?_⟩
    obtain ⟨-, hstart⟩ := Option.ite_none_right_eq_some.1 taken
    cases hstart
    rw [show (p.start i _).tasks i = some _ from Function.update_self ..] at hm
    cases hm
    exact Ws.serve_confined hbody hscope hsession active
  · obtain ⟨busy, kept⟩ := hC q l q' hq.reachable guard hs
    exact hq.step busy hs kept

end Cluster

/-- Every step keeps what the database was. -/
theorem Cluster.had_step {p p' : Cluster} {l : Cluster.Label} (h : (serverSystem env P).Reachable p)
    (hs : Cluster.step env P p l = some p') : Memory.all.Kept p.shared p'.shared := by
  have hmoves := ((Cluster.serving h).step hs).2
  intro db hdb
  cases hmoves with
  | waited shared => exact shared ▸ hdb
  | acted i step => exact AppState.Had.evolves hdb step.evolves
  | crashed h =>
    rw [h]
    exact hdb

/-- Each action for a frame of an active session is within the frame's scope, as the database was at some time
before; and as it is, while nobody else writes. -/
theorem tenants_isolated {p p₀ : Cluster} {i : Nat} {session : Session} {f : Frame} {body : Body}
    (hp : (serverSystem env P).Reachable p) (hbody : f.body = some body) (hscope : Ws.HasScope body)
    (hsession : (p.locals i).session = some session) (active : session.pending = false)
    (taken : Cluster.step env P p (.incoming i (.binary (.ok f))) = some p₀) :
    (∀ q, (Cluster.after env P p₀).ReachableUnder (Cluster.Busy i) q → (q.tasks i).isSome →
      session.Isolated .all body q.shared (q.advance i).shared) ∧
    (∀ q, (Cluster.after env P p₀).ReachableUnder (Cluster.BusyAlone env P i) q → (q.tasks i).isSome →
      session.Isolated .current body q.shared (q.advance i).shared) := by
  constructor
  · intro q hq busy
    refine (Cluster.attending hp hbody hscope hsession active taken ?_ hq).isolated (fun _ _ h => h) busy
    exact fun q l q' hq guard hs => ⟨guard, fun _ => Cluster.had_step hq hs⟩
  · intro q hq busy
    refine (Cluster.attending hp hbody hscope hsession active taken ?_ hq).isolated (fun _ _ h => .inl h) busy
    intro q l q' _ guard hs
    refine ⟨guard.1, fun hl db hdb => ?_⟩
    show db = q'.shared.db
    rw [guard.2 q' hl hs]
    exact hdb

namespace Scenario.Removal

/-- Alice has two devices, and Carol has written to the second. -/
def moves : List Move :=
  correspondents ++ Cap.join 2 'b' 3 ++ [Cap.activate 'b' 3 2,
    .frame 1 (.sendEnvelopes { envelopes := [letterOf (uuid '1') '1' '1' (uuid '1') (uuid 'b')] })]

def waiting : Cluster := clusterAfter moves

def revoke : RevokeOwnDevice := { deviceId := uuid 'b' }

/-- She revokes it from the first. -/
def frame : Frame := TuiChat.frame "r" (.revokeOwnDevice revoke)

def revoked : Cluster := waiting.served server primitives 0 (.binary (.ok frame))

theorem run_facts : Cluster.Waits waiting 0 (.binary (.ok frame)) ∧
    (waiting.locals 0).session.any (fun s => !s.pending && s.deviceId = uuid 'a') = true ∧
    waiting.shared.db.usage.find (uuid '7') = some { accountId := uuid '7', ciphertextBytes := 1 } ∧
    revoked.shared.db.usage.find (uuid '7') = some { accountId := uuid '7', ciphertextBytes := 0 } ∧
    revoked.shared.db.audit ≠ waiting.shared.db.audit := by decide +kernel

theorem waiting_session : ∃ session, (waiting.locals 0).session = some session ∧ session.pending = false := by
  obtain ⟨-, hany, -⟩ := run_facts
  obtain ⟨session, hsession, hfacts⟩ := (Option.any_eq_true _ _).1 hany
  rw [Bool.and_eq_true, Bool.not_eq_true'] at hfacts
  exact ⟨session, hsession, hfacts.1⟩

theorem tenants_isolated_waiting : ∃ session p₀, (waiting.locals 0).session = some session ∧
    Cluster.step server primitives waiting (.incoming 0 (.binary (.ok frame))) = some p₀ ∧
    ∀ q, (Cluster.after server primitives p₀).ReachableUnder (Cluster.Busy 0) q → (q.tasks 0).isSome →
      session.Isolated .all (.revokeOwnDevice revoke) q.shared (q.advance 0).shared := by
  obtain ⟨session, hsession, hactive⟩ := waiting_session
  have htaken : Cluster.step server primitives waiting (.incoming 0 (.binary (.ok frame))) =
      some (waiting.start 0 (Ws.serve server primitives 0 (.binary (.ok frame)))) := if_pos run_facts.1
  have hbody : frame.body = some (.revokeOwnDevice revoke) := rfl
  have hscope : Ws.HasScope (.revokeOwnDevice revoke) := trivial
  refine ⟨session, _, hsession, htaken, ?_⟩
  exact (tenants_isolated (clusterAfter_reachable moves) hbody hscope hsession hactive htaken).1

/-- Carol's usage is lowered, and the revocation is recorded. -/
theorem usage_lowered : (serverSystem server primitives).Reachable waiting ∧
    ∃ session, (waiting.locals 0).session = some session ∧ session.pending = false ∧
      ¬waiting.shared.db.WithinScope revoked.shared.db
        { session.scope .current waiting.shared (.revokeOwnDevice revoke) with usage := {} } ∧
      ¬waiting.shared.db.WithinScope revoked.shared.db
        { session.scope .current waiting.shared (.revokeOwnDevice revoke) with audit := fun _ => False } := by
  obtain ⟨-, -, hbefore, hafter, hlonger⟩ := run_facts
  obtain ⟨session, hsession, hactive⟩ := waiting_session
  refine ⟨clusterAfter_reachable moves, session, hsession, hactive, fun hwithin => ?_, fun hwithin => ?_⟩
  · have hallows := hwithin.usage (uuid '7')
    rw [hbefore, hafter] at hallows
    cases hallows with
    | becomes h => exact h
  · rcases hwithin.audit with hsame | ⟨_, h, -⟩
    · exact hlonger hsame
    · exact h

end Scenario.Removal

end TuiChat
