import TuiChat.Server.Threads
import TuiChat.Verify.Acceptance
import TuiChat.Verify.Collection

/-!
# What a delivery update tells

A client shows a message as delivered when an update says so, which the server pushes to the account of the sender or
hands over with a page. In every run each of them is of a message that the account has sent and of which an envelope was
acknowledged by the device that it is for (`update_acknowledged`).
-/

namespace TuiChat

open Lib

variable {env : ServerEnvironment} {P : Primitives} {i : Nat} {s s' : AppState} {cs : Nat → Connection} {c c' : Connection}

/-- The messages that a frame tells to be delivered. -/
def Frame.delivered (f : Frame) : List String :=
  match f.body with
  | some (.deliveryUpdate update) => [update.logicalMessageId]
  | some (.syncBatch batch) => batch.deliveryUpdates.filterMap fun u => u.update.map DeliveryUpdate.logicalMessageId
  | _ => []

/-! ## Acknowledged messages -/

/-- The row is one that the connection has acknowledged, as the device that it is for. -/
structure EnvelopeRow.AcknowledgedBy (row : EnvelopeRow) (c : Connection) : Prop where
  session : ∃ session, c.session = some session ∧ row.envelope.recipientDeviceId = session.deviceId
  received : ∃ f ∈ c.requests, ∃ m, f.body = some (.ackEnvelope m) ∧ m.envelopeId = row.envelopeId

/-- An envelope of the account's message was acknowledged. -/
def Acknowledged (s : AppState) (cs : Nat → Connection) (account id : String) : Prop :=
  ∃ db, s.Had db ∧ ∃ row ∈ db.envelopes, row.senderAccountId = account ∧ row.envelope.logicalMessageId = id ∧
    ∃ j, row.AcknowledgedBy (cs j)

/-- A session stays that of its device and its account. -/
theorem ServerStep.session_same {w w' : ServerWorld} (h : ServerStep env P i w w') {session : Session}
    (hsession : w.2.session = some session) : ∃ session', w'.2.session = some session' ∧
      session'.account.id = session.account.id ∧ session'.deviceId = session.deviceId := by
  cases h with
  | authenticated | passwordAccepted => simp_all
  | bootstrapped old m id rest current | passwordChanged old phc current =>
    cases hsession.symm.trans current
    exact ⟨_, rfl, rfl, rfl⟩
  | _ => exact ⟨session, hsession, rfl, rfl⟩

theorem EnvelopeRow.AcknowledgedBy.step {row : EnvelopeRow} {w w' : ServerWorld} (h : row.AcknowledgedBy w.2)
    (hs : ServerStep env P i w w') : row.AcknowledgedBy w'.2 where
  session := by
    obtain ⟨session, hsession, hdevice⟩ := h.session
    obtain ⟨session', hsession', -, hsame⟩ := hs.session_same hsession
    exact ⟨session', hsession', hdevice.trans hsame.symm⟩
  received := h.received.imp fun _ hf => ⟨hs.requests_subset hf.1, hf.2⟩

theorem Acknowledged.step {account id : String} (h : Acknowledged s cs account id)
    (hs : ServerStep env P i (s, cs i) (s', c')) : Acknowledged s' (Function.update cs i c') account id := by
  obtain ⟨db, had, row, hrow, haccount, hid, j, hack⟩ := h
  refine ⟨db, had.step hs, row, hrow, haccount, hid, j, ?_⟩
  by_cases hj : j = i
  · subst hj
    rw [Function.update_self]
    exact hack.step hs
  · rw [Function.update_of_ne hj]
    exact hack

/-- An update that a write adds is of an envelope that the connection acknowledges. -/
theorem Writes.updates {had : Db → Prop} {db db' : Db} (h : Writes env P had c db db') {u : DeliveryUpdateRow}
    (hu : u ∈ db'.deliveryUpdates) : u ∈ db.deliveryUpdates ∨ ∃ row ∈ db.envelopes, row.AcknowledgedBy c ∧
      row.senderAccountId = u.accountId ∧ row.envelope.logicalMessageId = u.logicalMessageId := by
  cases h with
  | acked session rid m now current active received =>
    obtain ⟨f, hf, -, hbody⟩ := received
    rcases db.ack_updates session.deviceId m.envelopeId now with
      ⟨hupdates, -⟩ | ⟨row, hrow, hid, hdevice, new, habout, -, -, hupdates, -⟩
    · exact .inl (hupdates ▸ hu)
    · rw [hupdates] at hu
      rcases Table.mem_insertOrIgnore.1 hu with hu | ⟨rfl, -⟩
      · exact .inl hu
      · obtain ⟨haccount, hlogical⟩ := Prod.mk.inj habout
        refine .inr ⟨row, hrow, ⟨⟨session, current, hdevice⟩, f, ?_, m, hbody, hid.symm⟩, haccount.symm,
          hlogical.symm⟩
        exact List.mem_filterMap.2 ⟨_, hf, rfl⟩
  | stored session m now free current active write =>
    obtain ⟨_, _, _, _, hdb⟩ := Db.storeEnvelopes_aside write
    rw [hdb] at hu
    exact .inl hu
  | cleanedDevice | cleanedDelivered | pruned | deleted => exact .inl (Table.mem_delete.1 hu).1
  | claimed session m current pending certificate write =>
    obtain ⟨-, rfl⟩ := Db.bootstrapMaster_eq_ok.1 write
    exact .inl hu
  | inserted session m pendingRow now current pending device certificate key write =>
    obtain ⟨-, -, rfl⟩ := Db.insertDevice_eq_ok.1 write
    exact .inl hu
  | prekeys session keys now current write =>
    obtain ⟨-, rfl⟩ := Db.publishPreKeys_eq_ok.1 write
    exact .inl hu
  | prekeyClaimed accountId deviceId =>
    obtain ⟨p, hp⟩ := Db.claimPreKey_snd db accountId deviceId
    rw [hp] at hu
    exact .inl hu
  | pairing session e expiresAtMs current size type write =>
    obtain ⟨-, -, rfl⟩ := Db.insertPairingEvent_eq_ok.1 write
    exact .inl hu
  | activated session rid m bundle master current active received device pairing key certificate submitted write =>
    obtain ⟨-, -, rfl⟩ := Db.activateDevice_eq_ok.1 write
    exact .inl hu
  | revokedOwn session deviceId current active other =>
    rw [Db.markRevoked_snd] at hu
    exact .inl hu
  | added accountId username phc write =>
    obtain ⟨-, -, rfl⟩ := Db.addAccount_eq_ok.1 write
    exact .inl hu
  | devicesReset username write =>
    obtain ⟨_, -, rfl⟩ := Db.resetDevices_eq_ok.1 write
    exact .inl hu
  | _ => exact .inl hu

/-! ## Every run -/

/-- The connection is live for the account, or has its session. -/
def Concerns (s : AppState) (cs : Nat → Connection) (t : Nat) (account : String) : Prop :=
  (∃ live ∈ s.registered, live.token = t ∧ live.accountId = account) ∨
    ∃ session, (cs t).session = some session ∧ session.account.id = account

theorem Concerns.step {t : Nat} {account : String} (h : Concerns s cs t account)
    (hs : ServerStep env P i (s, cs i) (s', c')) : Concerns s' (Function.update cs i c') t account := by
  rcases h with ⟨live, hlive, hrest⟩ | ⟨session, hsession, haccount⟩
  · exact .inl ⟨live, hs.evolves.registered hlive, hrest⟩
  · refine .inr ?_
    by_cases ht : t = i
    · subst ht
      obtain ⟨session', hsession', hsame, -⟩ := hs.session_same hsession
      rw [Function.update_self]
      exact ⟨session', hsession', hsame.trans haccount⟩
    · rw [Function.update_of_ne ht]
      exact ⟨session, hsession, haccount⟩

/-- A page lists updates of its account. -/
theorem delivered_syncPage {db : Db} {accountId deviceId rid id : String} {m : SyncRequest}
    (h : id ∈ (frame rid (.syncBatch (Ws.syncPage db accountId deviceId m))).delivered) :
    ∃ u ∈ db.deliveryUpdates, u.accountId = accountId ∧ u.logicalMessageId = id := by
  obtain ⟨update, hupdate, hid⟩ := List.mem_filterMap.1 h
  obtain ⟨u, hu, rfl⟩ := List.mem_map.1 (List.mem_of_mem_take hupdate)
  rw [List.mem_insertionSort, List.mem_filter, Bool.and_eq_true, decide_eq_true_eq] at hu
  cases hid
  exact ⟨u, hu.1, hu.2.1, rfl⟩

structure UpdatesTruthful (s : AppState) (cs : Nat → Connection) : Prop where
  logged : ∀ row, .acknowledged row ∈ s.log → Acknowledged s cs row.senderAccountId row.envelope.logicalMessageId
  stored : ∀ db, s.Had db → ∀ u ∈ db.deliveryUpdates, Acknowledged s cs u.accountId u.logicalMessageId
  handed : ∀ t f id, (t, f) ∈ s.out → id ∈ f.delivered → ∃ account, Concerns s cs t account ∧ Acknowledged s cs account id

theorem Sends.truthful {t : Nat} {f : Frame} {id : String} (hs : Sends i s (cs i) t f) (h : UpdatesTruthful s cs)
    (hid : id ∈ f.delivered) : ∃ account, Concerns s cs t account ∧ Acknowledged s cs account id := by
  cases hs with
  | answer hanswers =>
    unfold Frame.delivered at hid
    split at hid
    · next hbody => cases hanswers _ hbody
    · next hbody => cases hanswers _ hbody
    · cases hid
  | page session db m had current active received =>
    obtain ⟨u, hu, haccount, rfl⟩ := delivered_syncPage hid
    exact ⟨u.accountId, .inr ⟨session, current, haccount.symm⟩, h.stored db had u hu⟩
  | delivered live row now acknowledged account registered =>
    obtain rfl := List.mem_singleton.1 hid
    exact ⟨row.senderAccountId, .inl ⟨live, registered, rfl, account⟩, h.logged row acknowledged⟩
  | pushed | event | activated => cases hid

theorem UpdatesTruthful.step (h : UpdatesTruthful s cs) (hs : ServerStep env P i (s, cs i) (s', c')) :
    UpdatesTruthful s' (Function.update cs i c') := by
  have kept : ∀ {account id : String}, Acknowledged s cs account id →
      Acknowledged s' (Function.update cs i c') account id := fun h => h.step hs
  have handed : ∀ {t : Nat} {id : String}, (∃ account, Concerns s cs t account ∧ Acknowledged s cs account id) →
      ∃ account, Concerns s' (Function.update cs i c') t account ∧
        Acknowledged s' (Function.update cs i c') account id :=
    fun ⟨account, hconcerns, hack⟩ => ⟨account, hconcerns.step hs, kept hack⟩
  refine ⟨fun row hrow => ?_, fun db had u hu => ?_, fun t f id hout hid => ?_⟩
  · cases hs with
    | wrote log events write stored acknowledged recorded =>
      rcases List.mem_append.1 hrow with hnew | hold
      · obtain ⟨session, rid, m, current, ⟨f, hf, -, hbody⟩, hfound⟩ := acknowledged row hnew
        obtain ⟨hfind, hdevice⟩ := Option.filter_eq_some_iff.1 hfound
        refine kept ⟨s.db, .inl rfl, row, Table.mem_of_find hfind, rfl, rfl, i, ?_⟩
        refine ⟨⟨session, current, of_decide_eq_true hdevice⟩, f, ?_, m, hbody, (Table.key_of_find hfind).symm⟩
        exact List.mem_filterMap.2 ⟨_, hf, rfl⟩
      · exact kept (h.logged row hold)
    | _ => exact kept (h.logged row hrow)
  · cases hs with
    | @wrote _ _ db' log events write stored acknowledged recorded =>
      rcases had with rfl | had
      · rcases write.updates hu with hold | ⟨row, hrow, hack, haccount, hid⟩
        · exact kept (h.stored s.db (.inl rfl) u hold)
        · exact kept ⟨s.db, .inl rfl, row, hrow, haccount, hid, i, hack⟩
      · exact kept (h.stored db (List.mem_cons.1 had) u hu)
    | _ => exact kept (h.stored db had u hu)
  · cases hs with
    | sent t' f' sends =>
      rcases List.mem_append.1 hout with hold | hnew
      · exact handed (h.handed t f id hold hid)
      · cases List.mem_singleton.1 hnew
        exact handed (sends.truthful h hid)
    | _ => exact handed (h.handed t f id hout hid)

theorem Acknowledged.crashed {account id : String} (h : Acknowledged s cs account id) :
    Acknowledged s.crashed (fun i => (cs i).crashed) account id := by
  obtain ⟨db, had, row, hrow, haccount, hid, j, hack⟩ := h
  exact ⟨db, had, row, hrow, haccount, hid, j, hack.session, hack.received⟩

namespace Scenario.Informed

/-- Alice's device has acknowledged Carol's message. -/
def acknowledged : Cluster := clusterAfter Vanished.delivered

end Scenario.Informed

end TuiChat
