import TuiChat.Verify.Pagination

/-!
# What collectors take

An envelope id is known again by its row, and a delivery update lasts as long as its message has an envelope.
Retention, prunes and the cleanup of a revoked device delete such rows, and with them what rests on them: an
envelope that is sent again after it was collected gets a second cursor (`single_cursor`), and the update of a
message goes with the last device that it was for (`updates_survive`).
-/

namespace TuiChat

open Lib
open Lib.Page (Rises)
open Relation (ReflTransGen)

variable {env : ServerEnvironment} {P : Primitives}

/-! ## Envelope ids -/

namespace Db

variable {db db' : Db} {sha256 : Bytes → Bytes} {limits : StorageLimits}
  {sends : String → String → List EncryptedEnvelope → Prop}

/-- A row that is not an old one is of an envelope of a batch, for an active device, whose id has no row. -/
theorem MessageStep.fresh (hs : MessageStep sha256 limits sends db db') (h : db.Threaded) {row : EnvelopeRow}
    (hrow : row ∈ db'.envelopes) : (∃ old ∈ db.envelopes, row.undated = old.undated) ∨
      db.lastCursor < row.cursor ∧ ∃ sa sd es, sends sa sd es ∧ row.senderDeviceId = sd ∧ row.envelope ∈ es ∧
        db.recipientActive row.envelope = true ∧ db.envelopes.find row.envelopeId = none := by
  have hswept : db.Swept db' → ∃ old ∈ db.envelopes, row.undated = old.undated :=
    fun hs => ⟨row, (hs.envelopes row hrow).1, rfl⟩
  cases hs with
  | beside hb => exact .inl ⟨row, hb.envelopes ▸ hrow, rfl⟩
  | stored sa sd es now free sent write =>
    obtain ⟨_, _, _, accepted, hinserts⟩ := storeEnvelopes_eq_ok.1 write
    obtain ⟨-, -, -, _, rfl⟩ := insertLogicalMessage_rows accepted.message
    rcases hinserts.above.2 row hrow with hold | habove
    · exact .inl ⟨row, hold, rfl⟩
    rcases hinserts.mem hrow with hold | ⟨e, he, cursor, rfl, hnone⟩
    · exact .inl ⟨row, hold, rfl⟩
    obtain ⟨hmem, hactive⟩ := List.mem_filter.1 he
    exact .inr ⟨habove, sa, sd, es, sent, rfl, hmem, hactive, hnone⟩
  | acked d e now => exact .inl ((h.acked d e now).envelopes row hrow)
  | cleanedDevice deviceId => exact .inl (hswept (cleanupRevokedDevice_swept deviceId))
  | cleanedDelivered before limit => exact .inl (hswept (deleteOrphans_swept _))
  | pruned conversation cutoff deliveredOnly => exact .inl (hswept (h.pruned _ _ _))
  | deleted accountId => exact .inl (hswept (h.deleted accountId))

/-- Only a batch draws cursors. -/
theorem MessageStep.grown (hs : MessageStep sha256 limits sends db db') (h : db.Threaded)
    (hlt : db.lastCursor < db'.lastCursor) :
    ∃ sa sd es now free stored, sends sa sd es ∧ db.storeEnvelopes sha256 sa sd es now limits free = .ok (stored, db') := by
  have hkept : db'.lastCursor ≠ db.lastCursor := Nat.ne_of_gt hlt
  cases hs with
  | stored sa sd es now free sent write => exact ⟨sa, sd, es, now, free, _, sent, write⟩
  | beside hb => exact absurd hb.lastCursor hkept
  | acked d e now => exact absurd (h.acked d e now).lastCursor hkept
  | cleanedDevice deviceId => exact absurd rfl hkept
  | cleanedDelivered before limit => exact absurd rfl hkept
  | pruned conversation cutoff deliveredOnly => exact absurd rfl hkept
  | deleted accountId => exact absurd rfl hkept

end Db

/-- The device had stored the envelope, and it has no row any more. -/
def AppState.Collected (s : AppState) (deviceId envelopeId : String) : Prop :=
  s.db.envelopes.find envelopeId = none ∧
    ∃ db, s.Had db ∧ ∃ row ∈ db.envelopes, row.senderDeviceId = deviceId ∧ row.envelopeId = envelopeId

/-- A batch that adds rows has no envelope, for an active device, that was collected. -/
def NoLateResend (s : AppState) (c : Connection) (s' : AppState) : Prop :=
  s.db.lastCursor < s'.db.lastCursor → ∀ session m, c.session = some session →
    c.handling = some (.sendEnvelopes m) → ∀ e ∈ m.envelopes, s.db.recipientActive e = true →
      ¬s.Collected session.deviceId e.envelopeId

/-- No envelope id of a device has ever had two cursors. -/
def AppState.SingleCursor (s : AppState) : Prop :=
  ∀ db db', s.Had db → s.Had db' → ∀ row ∈ db.envelopes, ∀ row' ∈ db'.envelopes,
    row.senderDeviceId = row'.senderDeviceId → row.envelopeId = row'.envelopeId → row.cursor = row'.cursor

theorem EnvelopeRow.undated_eq {row row' : EnvelopeRow} (h : row.undated = row'.undated) :
    row.cursor = row'.cursor ∧ row.senderDeviceId = row'.senderDeviceId ∧ row.envelopeId = row'.envelopeId := by
  obtain ⟨hcursor, henvelope, -, hdevice, -⟩ := EnvelopeRow.mk.inj h
  exact ⟨hcursor, hdevice, congrArg EncryptedEnvelope.envelopeId henvelope⟩

/-- The databases of a state after a write are the new one and those there were. -/
theorem AppState.had_of_write {s s' : AppState} (hpast : s'.past = s.db :: s.past) {db : Db} (h : s'.Had db) :
    db = s'.db ∨ s.Had db := by
  rcases h with rfl | h
  · exact .inl rfl
  · rw [hpast] at h
    exact .inr (List.mem_cons.1 h)

theorem SingleCursor.step {s : AppState} {c : Connection} {i : Nat} {w' : ServerWorld} (h : s.SingleCursor)
    (hs : s.db.Threaded) (hstep : ServerStep env P i (s, c) w') (guard : NoLateResend s c w'.1) : w'.1.SingleCursor := by
  cases hstep with
  | @wrote _ _ db' log events write =>
    have hthreaded := hs.step write.messages
    -- A new row, and a row of any database that there was.
    have hnew : ∀ row ∈ db'.envelopes, ∀ db, s.Had db → ∀ old ∈ db.envelopes,
        row.senderDeviceId = old.senderDeviceId → row.envelopeId = old.envelopeId → row.cursor = old.cursor := by
      intro row hrow db hdb old hold hdevice hid
      rcases write.messages.fresh hs hrow with ⟨same, hsame, heq⟩ | ⟨habove, sa, sd, es, sent, hsd, hmem, hactive, hnone⟩
      · obtain ⟨hcursor, hdevice', hid'⟩ := EnvelopeRow.undated_eq heq
        rw [hcursor]
        exact h _ db (.inl rfl) hdb same hsame old hold (hdevice'.symm.trans hdevice) (hid'.symm.trans hid)
      · obtain ⟨session, m, hsession, -, handling⟩ := sent
        have hgrown : s.db.lastCursor < db'.lastCursor := Nat.lt_of_lt_of_le habove (hthreaded.cursors row hrow)
        exact absurd ⟨hnone, db, hdb, old, hold, hdevice.symm.trans hsd, hid.symm⟩
          (guard hgrown session m hsession handling row.envelope hmem hactive)
    intro db₁ db₂ hdb₁ hdb₂ row₁ hrow₁ row₂ hrow₂ hdevice hid
    rcases AppState.had_of_write (s := s) rfl hdb₁ with rfl | hold₁ <;>
      rcases AppState.had_of_write (s := s) rfl hdb₂ with rfl | hold₂
    · exact congrArg EnvelopeRow.cursor (Table.eq_of_mem hrow₁ hrow₂ hid)
    · exact hnew row₁ hrow₁ db₂ hold₂ row₂ hrow₂ hdevice hid
    · exact (hnew row₂ hrow₂ db₁ hold₁ row₁ hrow₁ hdevice.symm hid.symm).symm
    · exact h db₁ db₂ hold₁ hold₂ row₁ hrow₁ row₂ hrow₂ hdevice hid
  | _ => exact h

namespace Cluster

variable {p : Cluster}

theorem singleCursor (h : (serverSystem env P).ReachableUnder (Meets NoLateResend) p) : p.shared.SingleCursor := by
  have hboth : p.shared.db.Threaded ∧ p.shared.SingleCursor := by
    refine invariant_under (I := fun s _ => s.db.Threaded ∧ s.SingleCursor) h ⟨.empty, ?_⟩
      (fun i s cs s' c' hI guard hs => ⟨?_, ?_⟩) fun _ _ hI => hI
    · rintro db db' (rfl | hdb) - row hrow
      · exact absurd hrow (Table.not_mem_empty _)
      · cases hdb
    · cases hs with
      | wrote log events write => exact hI.1.step write.messages
      | _ => exact hI.1
    · exact SingleCursor.step hI.2 hI.1 hs guard
  exact hboth.2

/-- No cursor was ever above the last one. -/
theorem had_cursor (h : (serverSystem env P).Reachable p) {db : Db} (hdb : p.shared.Had db) {row : EnvelopeRow}
    (hrow : row ∈ db.envelopes) : row.cursor ≤ p.shared.db.lastCursor := by
  have hall : p.shared.db.Threaded ∧ ∀ db, p.shared.Had db → ∀ row ∈ db.envelopes,
      row.cursor ≤ p.shared.db.lastCursor := by
    refine invariant (I := fun s _ => s.db.Threaded ∧ ∀ db, s.Had db → ∀ row ∈ db.envelopes,
      row.cursor ≤ s.db.lastCursor) h ⟨.empty, ?_⟩ (fun i s cs s' c' hI hs => ?_) fun _ _ hI => hI
    · rintro db (rfl | hdb) row hrow
      · exact absurd hrow (Table.not_mem_empty _)
      · cases hdb
    · cases hs with
      | wrote log events write =>
        have hthreaded := hI.1.step write.messages
        refine ⟨hthreaded, fun db hdb row hrow => ?_⟩
        rcases AppState.had_of_write (s := s) rfl hdb with rfl | hold
        · exact hthreaded.cursors row hrow
        · exact Nat.le_trans (hI.2 db hold row hrow) (write.messages.rows hI.1).1
      | _ => exact hI
  exact hall.2 db hdb row hrow

/-- A late resend gets a second cursor. -/
theorem not_singleCursor {p' : Cluster} {i : Nat} (h : (serverSystem env P).Reachable p)
    (hs : step env P p (.advance i) = some p') (late : ¬NoLateResend p.shared (p.locals i) p'.shared) :
    ¬p'.shared.SingleCursor := by
  unfold NoLateResend at late
  push Not at late
  obtain ⟨hgrown, session, m, hsession, handling, e, he, hactive, hnone, old, hhad, row, hrow, hdevice, hid⟩ := late
  obtain ⟨_, hp'⟩ := Option.ite_none_right_eq_some.1 hs
  cases hp'
  obtain ⟨-, ⟨hshared, -⟩ | ⟨hstep, -⟩⟩ := (serving h).advance i
  · rw [hshared] at hgrown
    exact absurd hgrown (Nat.lt_irrefl _)
  generalize hw : (p.advance i).world i = w' at hstep
  have hshared : (p.advance i).shared = w'.1 := congrArg Prod.fst hw
  rw [hshared] at hgrown ⊢
  intro hsingle
  have hthreaded := threaded h
  have hold : row.cursor ≤ p.shared.db.lastCursor := had_cursor h hhad hrow
  change ServerStep env P i (p.shared, p.locals i) w' at hstep
  cases hstep with
  | @wrote _ _ db' log events write =>
    obtain ⟨sa, sd, es, now, free, stored, sent, hstored⟩ := write.messages.grown hthreaded hgrown
    obtain ⟨session', m', hsession', -, handling'⟩ := sent
    cases hsession.symm.trans hsession'
    cases handling.symm.trans handling'
    obtain ⟨_, _, _, accepted, hinserts⟩ := Db.storeEnvelopes_eq_ok.1 hstored
    obtain ⟨-, -, -, _, rfl⟩ := Db.insertLogicalMessage_rows accepted.message
    obtain ⟨row', hfind, carries⟩ := hinserts.found e (List.mem_filter.2 ⟨he, hactive⟩)
    have hrow' : row' ∈ db'.envelopes := Table.mem_of_find hfind
    have habove : p.shared.db.lastCursor < row'.cursor := by
      refine (hinserts.above.2 row' hrow').resolve_left fun hmem => ?_
      have hkept := Table.find_of_mem hmem
      rw [Table.key_of_find hfind, hnone] at hkept
      cases hkept
    have heq := hsingle db' old (.inl rfl) (hhad.elim (fun h => .inr (h ▸ List.mem_cons_self))
      fun h => .inr (List.mem_cons_of_mem _ h)) row' hrow' row hrow (carries.device.trans hdevice.symm)
      ((Table.key_of_find hfind).trans hid.symm)
    omega
  | _ => exact absurd hgrown (Nat.lt_irrefl _)

end Cluster

/-- In every run whose batches send no collected envelope again, an envelope id of a device has one cursor; the
step that takes such a batch gives it a second one. -/
theorem single_cursor :
    (∀ p, (serverSystem env P).ReachableUnder (Cluster.Meets NoLateResend) p → p.shared.SingleCursor) ∧
      ∀ p i p', (serverSystem env P).Reachable p → Cluster.step env P p (.advance i) = some p' →
        ¬NoLateResend p.shared (p.locals i) p'.shared → ¬p'.shared.SingleCursor :=
  ⟨fun _ => Cluster.singleCursor, fun _ _ _ => Cluster.not_singleCursor⟩

namespace Scenario.Resent

/-- Carol's envelope for Alice's device. -/
def letter : EncryptedEnvelope := letterOf (uuid '1') '1' '1' (uuid '1') (uuid 'a')

def send : Move := .frame 1 (.sendEnvelopes { envelopes := [letter] })

def acknowledge : Move := .frame 0 (.ackEnvelope { envelopeId := uuid '1', cursor := 1 })

/-- The envelope is delivered and collected, and comes again. -/
def resent : List Move := correspondents ++ [send, acknowledge, .command 99 (.storageCleanup 0 1), send]

theorem second_cursor : (serverSystem server primitives).Reachable (clusterAfter resent) ∧
    ¬(clusterAfter resent).shared.SingleCursor := by
  refine ⟨clusterAfter_reachable resent, fun hsingle => ?_⟩
  have htwo : ((clusterAfter resent).shared.past.any fun db => db.envelopes.rows.any fun old =>
      (clusterAfter resent).shared.db.envelopes.rows.any fun row => old.senderDeviceId = row.senderDeviceId &&
        old.envelopeId = row.envelopeId && old.cursor ≠ row.cursor) = true := by decide +kernel
  obtain ⟨db, hdb, htwo⟩ := List.any_eq_true.1 htwo
  obtain ⟨old, hold, htwo⟩ := List.any_eq_true.1 htwo
  obtain ⟨row, hrow, htwo⟩ := List.any_eq_true.1 htwo
  simp only [Bool.and_eq_true, decide_eq_true_eq] at htwo
  exact htwo.2 (hsingle db _ (.inr hdb) (.inl rfl) old hold row hrow htwo.1.1 htwo.1.2)

end Scenario.Resent

/-! ## Delivery updates -/

namespace Db

variable {db db' : Db} {u : DeliveryUpdateRow}

/-- Another device has an envelope of the message. -/
def HasOther (db : Db) (deviceId logicalId : String) : Prop :=
  ∃ e ∈ db.envelopes, e.envelope.logicalMessageId = logicalId ∧ e.envelope.recipientDeviceId ≠ deviceId

/-- The cleanup of a device leaves the update of a message if and only if another device has an envelope of it. -/
theorem mem_cleanupRevokedDevice {deviceId : String} (hu : u ∈ db.deliveryUpdates) :
    u ∈ (db.cleanupRevokedDevice deviceId).deliveryUpdates ↔ db.HasOther deviceId u.logicalMessageId := by
  refine Table.mem_delete.trans ((and_iff_right hu).trans ?_)
  rw [List.all_eq_false]
  constructor
  · rintro ⟨e, he, hid⟩
    obtain ⟨hmem, hdevice⟩ := Table.mem_delete.1 he
    exact ⟨e, hmem, by simpa using hid, of_decide_eq_false hdevice⟩
  · rintro ⟨e, he, hid, hdevice⟩
    exact ⟨e, Table.mem_delete.2 ⟨he, decide_eq_false hdevice⟩, by simpa using hid⟩

/-- Retention, a prune, or the deletion of a user. -/
inductive Purges (db : Db) : Db → Prop
  | retention (before : Int) (limit : Nat) : Purges db (db.cleanupDeliveredEnvelopes before limit)
  | pruned (conversation : String) (cutoff : Int) (deliveredOnly : Bool) :
    Purges db (db.pruneConversation conversation cutoff deliveredOnly)
  | deleted (accountId : String) : Purges db (db.deleteUserRecords accountId)

/-- Updates go by a purge, or by the cleanup of a device. -/
theorem MessageStep.update_kept {sha256 : Bytes → Bytes} {limits : StorageLimits}
    {sends : String → String → List EncryptedEnvelope → Prop} (hs : MessageStep sha256 limits sends db db')
    (hu : u ∈ db.deliveryUpdates) :
    u ∈ db'.deliveryUpdates ∨ db.Purges db' ∨ ∃ deviceId, db' = db.cleanupRevokedDevice deviceId := by
  cases hs with
  | beside hb => exact .inl (hb.updates ▸ hu)
  | stored sa sd es now free sent write =>
    obtain ⟨_, _, _, _, hdb⟩ := storeEnvelopes_aside write
    exact .inl (hdb ▸ hu)
  | acked d e now =>
    rcases db.ack_updates d e now with ⟨hupdates, -⟩ | ⟨-, -, -, -, new, -, -, -, hupdates, -⟩
    · exact .inl (hupdates ▸ hu)
    · rw [hupdates]
      exact .inl (Table.mem_insertOrIgnore_of_mem hu)
  | cleanedDevice deviceId => exact .inr (.inr ⟨deviceId, rfl⟩)
  | cleanedDelivered before limit => exact .inr (.inl (.retention before limit))
  | pruned conversation cutoff deliveredOnly => exact .inr (.inl (.pruned conversation cutoff deliveredOnly))
  | deleted accountId => exact .inr (.inl (.deleted accountId))

/-- An acknowledged message has an update for its sender. -/
theorem ack_update {deviceId envelopeId : String} {now : Int} {sender logicalId : String}
    (h : (db.ack deviceId envelopeId now).1 = some (sender, logicalId)) :
    ∃ u ∈ (db.ack deviceId envelopeId now).2.deliveryUpdates, u.accountId = sender ∧ u.logicalMessageId = logicalId := by
  unfold ack at h ⊢
  split at h
  · cases h
  next row hrow =>
  cases h
  dsimp only
  cases hfind : db.deliveryUpdates.find (row.senderAccountId, row.envelope.logicalMessageId) with
  | some old =>
    obtain ⟨hold, hkey⟩ := Table.find_eq_some.1 hfind
    obtain ⟨haccount, hid⟩ := Prod.mk.inj hkey
    exact ⟨old, Table.mem_insertOrIgnore_of_mem hold, haccount, hid⟩
  | none =>
    exact ⟨_, Table.mem_insertOrIgnore.2 (.inr ⟨rfl, Table.find_eq_none.1 hfind⟩), rfl, rfl⟩

end Db

/-- A page has the update, or it is full and ends before the update. -/
def SyncBatch.Reaches (batch : SyncBatch) (after : Nat) (u : DeliveryUpdateRow) : Prop :=
  (∃ e ∈ batch.deliveryUpdates, e.cursor = u.cursor ∧
      e.update = some { logicalMessageId := u.logicalMessageId, deliveredAtMs := u.deliveredAtMs }) ∨
    batch.deliveryUpdates.length = 200 ∧ after < batch.nextStatusCursor ∧ batch.nextStatusCursor < u.cursor

namespace Db

variable {db : Db} {u : DeliveryUpdateRow}

theorem Numbered.reaches (h : db.Numbered) (hu : u ∈ db.deliveryUpdates) (deviceId : String) {m : SyncRequest}
    (hafter : m.afterStatusCursor < 2 ^ 63) (hlt : m.afterStatusCursor < u.cursor) :
    (Ws.syncPage db u.accountId deviceId m).Reaches m.afterStatusCursor u := by
  obtain ⟨-, -, -, hupdates, hnext⟩ := syncPage_eq db u.accountId deviceId m
  have hasked : asI64 m.afterStatusCursor < u.cursor := by
    rw [asI64_of_lt hafter]
    exact_mod_cast hlt
  have hrises : Rises StoredDeliveryUpdate.cursor (db.updatesAfter u.accountId m.afterStatusCursor) :=
    h.updatesAfter_rises
  obtain ⟨e, he, hcursor, hupdate⟩ := exists_mem_updatesAfter hu hasked
  rcases Page.mem_take_or_drop 200 he with hpage | hlater
  · exact .inl ⟨e, hupdates ▸ hpage, hcursor, hupdate⟩
  · -- What is left comes after a full page.
    have hlong : 200 < (db.updatesAfter u.accountId m.afterStatusCursor).length := by
      by_contra hshort
      rw [List.drop_eq_nil_of_le (Nat.not_lt.1 hshort)] at hlater
      cases hlater
    have hbefore := (Page.next_lt hrises (by omega) hlater :
      Page.next _ m.afterStatusCursor ((db.updatesAfter u.accountId m.afterStatusCursor).take 200) < e.cursor)
    right
    rw [hnext, hupdates, List.length_take]
    refine ⟨by omega, ?_, hcursor ▸ hbefore⟩
    rcases Page.next_eq StoredDeliveryUpdate.cursor m.afterStatusCursor
      ((db.updatesAfter u.accountId m.afterStatusCursor).take 200) with ⟨hnil, -⟩ | ⟨first, hfirst, heq⟩
    · have hempty := congrArg List.length hnil
      rw [List.length_take, List.length_nil] at hempty
      omega
    · obtain ⟨u', -, -, habove, hcursor'⟩ := mem_updatesAfter (List.mem_of_mem_take hfirst)
      rw [asI64_of_lt hafter] at habove
      rw [heq]
      omega

end Db

/-- A step purges no update, and where it cleans up a device, every message that has an update has an envelope
for another. -/
structure AppState.Spares (s s' : AppState) : Prop where
  purges : s.db.Purges s'.db → s'.db.deliveryUpdates = s.db.deliveryUpdates
  revocations : ∀ deviceId, s'.db = s.db.cleanupRevokedDevice deviceId →
    ∀ u ∈ s.db.deliveryUpdates, s.db.HasOther deviceId u.logicalMessageId

namespace Cluster

variable {p p' : Cluster} {u : DeliveryUpdateRow}

/-- The steps of a run whose actions all spare the updates. -/
def Spares (env : ServerEnvironment) (P : Primitives) (p p' : Cluster) : Prop :=
  ∃ l, Meets (fun s _ s' => s.Spares s') p l ∧ step env P p l = some p'

theorem update_spared (hp : (serverSystem env P).Reachable p) (hu : u ∈ p.shared.db.deliveryUpdates)
    (hs : Spares env P p p') : u ∈ p'.shared.db.deliveryUpdates := by
  obtain ⟨l, guard, hs⟩ := hs
  cases l with
  | incoming i m =>
    obtain ⟨_, hp'⟩ := Option.ite_none_right_eq_some.1 hs
    cases hp'
    exact hu
  | command i c =>
    obtain ⟨_, hp'⟩ := Option.ite_none_right_eq_some.1 hs
    cases hp'
    exact hu
  | crash =>
    cases hs
    exact hu
  | advance i =>
    obtain ⟨_, hp'⟩ := Option.ite_none_right_eq_some.1 hs
    cases hp'
    obtain ⟨-, ⟨hshared, -⟩ | ⟨hstep, -⟩⟩ := (serving hp).advance i
    · rw [hshared]
      exact hu
    have hdb : u ∈ ((p.advance i).world i).1.db.deliveryUpdates := by
      have hspares : p.shared.Spares ((p.advance i).world i).1 := guard
      generalize (p.advance i).world i = w' at hstep hspares
      change ServerStep env P i (p.shared, p.locals i) w' at hstep
      cases hstep with
      | wrote log events write =>
        rcases write.messages.update_kept hu with hkept | hpurged | ⟨deviceId, hcleaned⟩
        · exact hkept
        · exact hspares.purges hpurged ▸ hu
        · have hother := hspares.revocations deviceId hcleaned u hu
          exact hcleaned ▸ (Db.mem_cleanupRevokedDevice hu).2 hother
      | _ => exact hu
    exact hdb

theorem spared_reachable (hp : (serverSystem env P).Reachable p) (h : ReflTransGen (Spares env P) p p') :
    (serverSystem env P).Reachable p' := by
  induction h with
  | refl => exact hp
  | tail _ hs ih =>
    obtain ⟨l, -, hs⟩ := hs
    exact .step ih trivial hs

theorem update_survives (hp : (serverSystem env P).Reachable p) (hu : u ∈ p.shared.db.deliveryUpdates)
    (h : ReflTransGen (Spares env P) p p') : u ∈ p'.shared.db.deliveryUpdates := by
  induction h with
  | refl => exact hu
  | tail hbefore hs ih => exact update_spared (spared_reachable hp hbefore) ih hs

end Cluster

/-- An acknowledged message has an update, which every run keeps that spares the updates, and which the next page
of a device that is not past it reaches. The cleanup of a device takes an update if and only if its message has
no envelope for another. -/
theorem updates_survive :
    (∀ p l p₁ deviceId id now sender logicalId, (serverSystem env P).Reachable p → Cluster.step env P p l = some p₁ →
      p.shared.db.ack deviceId id now = (some (sender, logicalId), p₁.shared.db) →
      ∃ u ∈ p₁.shared.db.deliveryUpdates, u.accountId = sender ∧ u.logicalMessageId = logicalId ∧
        ∀ p', ReflTransGen (Cluster.Spares env P) p₁ p' → u ∈ p'.shared.db.deliveryUpdates ∧
          ∀ (reader : String) (m : SyncRequest), m.afterStatusCursor < 2 ^ 63 → m.afterStatusCursor < u.cursor →
            (Ws.syncPage p'.shared.db sender reader m).Reaches m.afterStatusCursor u) ∧
    ∀ (db : Db) (deviceId : String), ∀ u ∈ db.deliveryUpdates,
      (u ∈ (db.cleanupRevokedDevice deviceId).deliveryUpdates ↔ db.HasOther deviceId u.logicalMessageId) := by
  refine ⟨fun p l p₁ deviceId id now sender logicalId hp hs hack => ?_, fun db deviceId u hu =>
    Db.mem_cleanupRevokedDevice hu⟩
  have hp₁ : (serverSystem env P).Reachable p₁ := .step hp trivial hs
  obtain ⟨u, hu, hsender, hid⟩ := Db.ack_update (congrArg Prod.fst hack)
  rw [hack] at hu
  subst hsender
  refine ⟨u, hu, rfl, hid, fun p' hsince => ?_⟩
  have hkept := Cluster.update_survives hp₁ hu hsince
  exact ⟨hkept, fun reader m hafter hlt =>
    (Cluster.numbered (Cluster.spared_reachable hp₁ hsince)).reaches hkept reader hafter hlt⟩

namespace Scenario.Vanished

/-- Alice's only device has acknowledged Carol's message. -/
def delivered : List Move := correspondents ++ [Resent.send, Resent.acknowledge]

def revoked : List Move := delivered ++ [.command 99 (.deviceRevoke "alice" (uuid 'a'))]

/-- Carol's device has seen no update. -/
def page (p : Cluster) : SyncBatch :=
  Ws.syncPage p.shared.db (uuid '7') (uuid 'c') { afterCursor := 0, afterStatusCursor := 0, limit := 200 }

theorem page_revoked : (page (clusterAfter revoked)).deliveryUpdates = [] := by decide +kernel

theorem update_vanished : (serverSystem server primitives).Reachable (clusterAfter delivered) ∧
    (serverSystem server primitives).Reachable (clusterAfter revoked) ∧
    ∃ u ∈ (clusterAfter delivered).shared.db.deliveryUpdates.rows, u.accountId = uuid '7' ∧
      (page (clusterAfter delivered)).Reaches 0 u ∧ ¬(page (clusterAfter revoked)).Reaches 0 u := by
  refine ⟨clusterAfter_reachable delivered, clusterAfter_reachable revoked, ?_⟩
  have hupdate : ∃ u ∈ (clusterAfter delivered).shared.db.deliveryUpdates.rows,
      u.accountId = uuid '7' ∧ u.cursor = 1 := by decide +kernel
  obtain ⟨u, hu, haccount, hcursor⟩ := hupdate
  have hnumbered := Cluster.numbered (clusterAfter_reachable delivered)
  refine ⟨u, hu, haccount, ?_, ?_⟩
  · have hreaches := hnumbered.reaches hu (uuid 'c') (m := { afterCursor := 0, afterStatusCursor := 0, limit := 200 })
      (by decide) (by rw [hcursor]; decide)
    rwa [haccount] at hreaches
  · rintro (⟨e, he, -⟩ | ⟨hfull, -⟩)
    · rw [page_revoked] at he
      cases he
    · rw [page_revoked] at hfull
      cases hfull

end Scenario.Vanished

end TuiChat
