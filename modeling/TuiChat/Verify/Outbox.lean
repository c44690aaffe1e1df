import TuiChat.Client.LedgerSteps
import TuiChat.Verify.WriteAhead

/-!
# What is left to send survives a crash

A message that is still `sending` has its frame in the outbox, and a pending deletion without a frame has
never been offered to the server. A run of statements keeps both as long as no completion is cut after
its first statement, no message is imported as `sending`, and event ids are not reused
(`outbox_crash_consistent`). `complete_outbox` removes the row first, in a statement of its own
(`Scenario.CutCompletion.cut_completion`).
-/

namespace TuiChat

open Lib
open Lib.Prog (Moves wp)

variable {P : Primitives} {env : Environment}

namespace Persisted

/-- Whether the frame of an id is in the outbox. -/
def Holds (s : Persisted) (id : String) : Prop := ∃ row ∈ s.outbox, row.logicalMessageId = id

/-- Whether an own message of the id waits for its acceptance. -/
def Waits (s : Persisted) (id : String) : Prop :=
  ∃ m ∈ s.messages, m.id = id ∧ m.inbound = false ∧ m.status = .sending

/-- Whether a deletion of the event id waits for its acceptance. -/
def Owes (s : Persisted) (id : String) : Prop := ∃ t ∈ s.tombstones, t.syncEventId = id ∧ t.pendingSync = true

/-- What waits to be accepted is in the outbox; a deletion may also be there because it was never offered. -/
def Consistent (s : Persisted) : Prop :=
  (∀ id, s.Waits id → s.Holds id) ∧ ∀ id, s.Owes id → ¬ s.Holds id → id ∉ s.offered

/-- The tables with the ids kept apart. -/
structure Kept (s : Persisted) : Prop where
  waits : ∀ id, s.Waits id → s.Holds id
  owes : ∀ id, s.Owes id → ¬ s.Holds id → id ∉ s.offered
  separate : ∀ t ∈ s.tombstones, ∀ m ∈ s.messages, t.syncEventId ≠ m.id
  distinct : ∀ t ∈ s.tombstones, ∀ t' ∈ s.tombstones, t.syncEventId = t'.syncEventId → t = t'

variable {s s' : Persisted}

theorem Kept.consistent (h : s.Kept) : s.Consistent := ⟨h.waits, h.owes⟩

theorem kept_empty : Persisted.empty.Kept where
  waits _ := fun ⟨m, hm, _⟩ => absurd hm (Table.not_mem_empty m)
  owes _ := fun ⟨t, ht, _⟩ => absurd ht (Table.not_mem_empty t)
  separate t ht := absurd ht (Table.not_mem_empty t)
  distinct t ht := absurd ht (Table.not_mem_empty t)

/-! ## One statement -/

theorem holds_offer {row : OutboxRow} {id : String} :
    (s.offer row).Holds id ↔ id = row.logicalMessageId ∨ s.Holds id := by
  constructor
  · rintro ⟨row', hrow', rfl⟩
    rcases Table.mem_put.1 hrow' with rfl | ⟨hold, -⟩
    · exact .inl rfl
    · exact .inr ⟨row', hold, rfl⟩
  · rintro (rfl | ⟨row', hrow', rfl⟩)
    · exact ⟨row, Table.mem_put.2 (.inl rfl), rfl⟩
    · by_cases he : row'.logicalMessageId = row.logicalMessageId
      · exact ⟨row, Table.mem_put.2 (.inl rfl), he.symm⟩
      · exact ⟨row', Table.mem_put.2 (.inr ⟨hrow', he⟩), rfl⟩

theorem Kept.insert {m : ChatMessage} (h : s.Kept)
    (hwaits : m.inbound = false → m.status = .sending → (∃ old ∈ s.messages, old.id = m.id) ∨ s.Holds m.id)
    (hapart : ∀ t ∈ s.tombstones, t.syncEventId ≠ m.id) : (s.insert m).Kept where
  waits id := by
    rintro ⟨m', hm', rfl, hinbound, hstatus⟩
    rcases Table.mem_insertOrIgnore.1 hm' with hold | ⟨rfl, hfresh⟩
    · exact h.waits _ ⟨m', hold, rfl, hinbound, hstatus⟩
    · rcases hwaits hinbound hstatus with ⟨old, hold, hid⟩ | hholds
      · exact absurd hid (hfresh old hold)
      · exact hholds
  owes := h.owes
  separate t ht m' hm' := by
    rcases Table.mem_insertOrIgnore.1 hm' with hold | ⟨rfl, -⟩
    · exact h.separate t ht m' hold
    · exact hapart t ht
  distinct := h.distinct

theorem Kept.offer {row : OutboxRow} (h : s.Kept) (hrow : row.Uniform) : (s.offer row).Kept where
  waits id hid := holds_offer.2 (.inr (h.waits id hid))
  owes id hid hnone hmem := by
    rw [holds_offer, not_or] at hnone
    rcases List.mem_append.1 hmem with hnew | hold
    · obtain ⟨e, he, rfl⟩ := List.mem_map.1 hnew
      exact hnone.1 (hrow e he)
    · exact h.owes id hid hnone.2 hold
  separate := h.separate
  distinct := h.distinct

/-- A message and its frame, in one transaction. -/
theorem Kept.write {m : ChatMessage} {row : OutboxRow} (h : s.Kept) (hid : row.logicalMessageId = m.id)
    (hrow : row.Uniform) (hapart : ∀ t ∈ s.tombstones, t.syncEventId ≠ m.id) :
    ((s.insert m).offer row).Kept := by
  have hinserted := (h.offer hrow).insert (m := m) (fun _ _ => .inr (holds_offer.2 (.inl hid.symm))) hapart
  exact hinserted

theorem mem_raise {id : String} {status : MessageStatus} {p : ChatMessage → Bool} {m : ChatMessage}
    (hm : m ∈ (s.raise id status p).messages) :
    ∃ old ∈ s.messages, m.id = old.id ∧ m.inbound = old.inbound ∧
      (m.status = old.status ∨ m.id = id ∧ m.status = status ∧ 0 < status.rank) := by
  unfold Persisted.raise at hm
  split at hm
  · next hany =>
    obtain ⟨found, -, hraised⟩ := (Option.any_eq_true _ _).1 hany
    have hrank : 0 < status.rank := by
      simp only [Bool.and_eq_true, decide_eq_true_eq] at hraised
      omega
    obtain ⟨old, hold, rfl⟩ := (Table.mem_update (by intro; rfl)).1 hm
    refine ⟨old, hold, ?_⟩
    split
    · next he => exact ⟨rfl, rfl, .inr ⟨of_decide_eq_true he, rfl, hrank⟩⟩
    · exact ⟨rfl, rfl, .inl rfl⟩
  · exact ⟨m, hm, rfl, rfl, .inl rfl⟩

theorem raise_aside (id : String) (status : MessageStatus) (p : ChatMessage → Bool) :
    (s.raise id status p).outbox = s.outbox ∧ (s.raise id status p).tombstones = s.tombstones ∧
      (s.raise id status p).offered = s.offered := by
  unfold Persisted.raise
  split
  · exact ⟨rfl, rfl, rfl⟩
  · exact ⟨rfl, rfl, rfl⟩

/-- What waits after a status was raised did so before. -/
theorem waits_raise {id : String} {status : MessageStatus} {p : ChatMessage → Bool} {id' : String}
    (h : (s.raise id status p).Waits id') : s.Waits id' := by
  obtain ⟨m, hm, rfl, hinbound, hstatus⟩ := h
  obtain ⟨old, hold, hid, hin, hst | ⟨-, hst, hrank⟩⟩ := mem_raise hm
  · exact ⟨old, hold, hid.symm, hin.symm.trans hinbound, hst.symm.trans hstatus⟩
  · rw [← hst, hstatus] at hrank
    exact absurd hrank (by decide)

theorem Kept.raise {id : String} {status : MessageStatus} {p : ChatMessage → Bool} (h : s.Kept) :
    (s.raise id status p).Kept := by
  obtain ⟨houtbox, htombstones, hoffered⟩ := s.raise_aside id status p
  refine ⟨fun id' hid => ?_, fun id' hid => ?_, fun t ht m hm => ?_, ?_⟩
  · have hholds := h.waits id' (waits_raise hid)
    unfold Holds at hholds ⊢
    rw [houtbox]
    exact hholds
  · unfold Owes Holds at *
    rw [houtbox, hoffered]
    rw [htombstones] at hid
    exact h.owes id' hid
  · rw [htombstones] at ht
    obtain ⟨old, hold, hid, -⟩ := mem_raise hm
    rw [hid]
    exact h.separate t ht old hold
  · rw [htombstones]
    exact h.distinct

theorem mem_markSynced {id : String} {t : ConversationTombstone} (ht : t ∈ (s.markSynced id).tombstones) :
    ∃ old ∈ s.tombstones, t = if old.syncEventId = id then { old with pendingSync := false } else old := by
  obtain ⟨old, hold, rfl⟩ := (Table.mem_update (by intro; rfl)).1 ht
  exact ⟨old, hold, by simp only [decide_eq_true_eq]⟩

/-- What is owed after an event was marked was owed before, and is another event. -/
theorem owes_markSynced {id id' : String} (h : (s.markSynced id).Owes id') : s.Owes id' ∧ id' ≠ id := by
  obtain ⟨t, ht, rfl, hpending⟩ := h
  obtain ⟨old, hold, rfl⟩ := mem_markSynced ht
  split at hpending
  · cases hpending
  · next hne =>
    rw [if_neg hne]
    exact ⟨⟨old, hold, rfl, hpending⟩, hne⟩

theorem Kept.markSynced {id : String} (h : s.Kept) : (s.markSynced id).Kept where
  waits := h.waits
  owes id' hid := h.owes id' (owes_markSynced hid).1
  separate t ht m hm := by
    obtain ⟨old, hold, rfl⟩ := mem_markSynced ht
    have hseparate := h.separate old hold m hm
    split
    · exact hseparate
    · exact hseparate
  distinct t ht t' ht' he := by
    obtain ⟨u, hu, rfl⟩ := mem_markSynced ht
    obtain ⟨u', hu', rfl⟩ := mem_markSynced ht'
    have hids : u.syncEventId = u'.syncEventId := by
      split at he <;> split at he <;> exact he
    rw [h.distinct u hu u' hu' hids]

/-- Rows may go where nothing waits for them. -/
theorem Kept.removeRows {p : OutboxRow → Bool} (h : s.Kept)
    (hwaits : ∀ row ∈ s.outbox, p row = true → ¬ s.Waits row.logicalMessageId)
    (howes : ∀ row ∈ s.outbox, p row = true → ¬ s.Owes row.logicalMessageId) :
    Kept { s with outbox := s.outbox.delete p } where
  waits id hid := by
    obtain ⟨row, hrow, rfl⟩ := h.waits id hid
    by_cases hp : p row = true
    · exact absurd hid (hwaits row hrow hp)
    · exact ⟨row, Table.mem_delete.2 ⟨hrow, Bool.eq_false_iff.2 hp⟩, rfl⟩
  owes id hid hnone := by
    refine h.owes id hid fun ⟨row, hrow, he⟩ => ?_
    subst he
    by_cases hp : p row = true
    · exact howes row hrow hp hid
    · exact hnone ⟨row, Table.mem_delete.2 ⟨hrow, Bool.eq_false_iff.2 hp⟩, rfl⟩
  separate := h.separate
  distinct := h.distinct

theorem not_waits_raise {id : String} : ¬ (s.raise id .sent fun _ => true).Waits id := by
  rintro ⟨m, hm, hid, -, hstatus⟩
  unfold Persisted.raise at hm
  split at hm
  · obtain ⟨old, -, rfl⟩ := (Table.mem_update (by intro; rfl)).1 hm
    split at hstatus
    · cases hstatus
    · next hne =>
      rw [if_neg hne] at hid
      exact hne (decide_eq_true hid)
  · next hany =>
    -- What is not raised was at least `sent`.
    subst hid
    refine hany ?_
    rw [Table.find_of_mem hm]
    simp [hstatus, MessageStatus.rank]

theorem complete_eq {id : String} {n : Nat} (hn : 3 ≤ n) :
    s.complete id n = ((s.raise id .sent fun _ => true).markSynced id).removeOutbox id := by
  unfold Persisted.complete
  dsimp only
  rw [if_pos hn, if_pos (Nat.le_of_lt hn), if_pos (Nat.le_trans (by decide) hn)]
  dsimp only [Persisted.raise, Persisted.removeOutbox, Persisted.markSynced]
  split
  · rfl
  · rfl

/-- A completion; one that is cut must find nothing waiting that it does not come to. -/
theorem Kept.complete {id : String} {n : Nat} (h : s.Kept)
    (hwaits : n = 1 ∨ n = 2 → ¬ s.Waits id) (howes : n = 1 → ¬ s.Owes id) : (s.complete id n).Kept := by
  have removed : ∀ {s : Persisted}, s.Kept → ¬ s.Waits id → ¬ s.Owes id → (s.removeOutbox id).Kept :=
    fun hkept hw ho => hkept.removeRows (fun _ _ hp hwait => hw (of_decide_eq_true hp ▸ hwait))
      fun _ _ hp howe => ho (of_decide_eq_true hp ▸ howe)
  match n with
  | 0 => exact h
  | 1 => exact removed h (hwaits (.inl rfl)) (howes rfl)
  | 2 => exact removed h.markSynced (hwaits (.inr rfl)) fun howe => (owes_markSynced howe).2 rfl
  | n + 3 =>
    rw [complete_eq (by omega)]
    exact removed h.raise.markSynced not_waits_raise fun howe => (owes_markSynced howe).2 rfl

theorem merged_cases (s : Persisted) (t : ConversationTombstone) :
    (s.merged t).peerAccountId = t.peerAccountId ∧
      ((s.merged t).syncEventId = t.syncEventId ∧ ((s.merged t).pendingSync = true → t.pendingSync = true) ∨
        ∃ old ∈ s.tombstones, (s.merged t).syncEventId = old.syncEventId ∧
          ((s.merged t).pendingSync = true → old.pendingSync = true)) := by
  unfold merged
  cases hold : s.tombstones.find t.peerAccountId with
  | none => exact ⟨rfl, .inl ⟨rfl, id⟩⟩
  | some old =>
    have hmem := Table.mem_of_find hold
    have hkey : old.peerAccountId = t.peerAccountId := Table.key_of_find hold
    refine ⟨hkey, ?_⟩
    rw [Option.map_some, Option.getD_some]
    unfold Store.mergeTombstone
    dsimp only
    by_cases hp : old.pendingSync = true
    · exact .inr ⟨old, hmem, if_pos hp, fun _ => hp⟩
    · rw [if_neg hp]
      by_cases ht : t.pendingSync = true
      · rw [if_pos ht]
        exact .inl ⟨rfl, fun _ => ht⟩
      · rw [if_neg ht]
        have hneither : (t.pendingSync || old.pendingSync) = true → False := by simp [hp, ht]
        split
        · exact .inl ⟨rfl, fun h => (hneither h).elim⟩
        · exact .inr ⟨old, hmem, rfl, fun h => (hneither h).elim⟩

/-- The deletion of a conversation takes the frames of its messages along. -/
theorem Kept.delete {t : ConversationTombstone} (h : s.Kept) (hapart : ∀ m ∈ s.messages, t.syncEventId ≠ m.id)
    (hfresh : t.pendingSync = true → t.syncEventId ∉ s.offered) (hs : s.delete t = some s') : s'.Kept := by
  unfold Persisted.delete at hs
  split at hs
  · cases hs
  · next halone =>
    cases hs
    obtain ⟨-, hmerged⟩ := s.merged_cases t
    have hseparate : ∀ t' ∈ s.tombstones.put (s.merged t), ∀ m ∈ s.messages, t'.syncEventId ≠ m.id := by
      intro t' ht' m hm
      rcases Table.mem_put.1 ht' with rfl | ⟨hold, -⟩
      · rcases hmerged with ⟨hid, -⟩ | ⟨old, hold, hid, -⟩
        · rw [hid]
          exact hapart m hm
        · rw [hid]
          exact h.separate old hold m hm
      · exact h.separate t' hold m hm
    have hremoved : ∀ row : OutboxRow, (s.messages.rows.any fun m =>
        m.conversationId = t.conversationId && m.id = row.logicalMessageId) = true →
        ∃ m ∈ s.messages, m.conversationId = t.conversationId ∧ m.id = row.logicalMessageId := by
      intro row hrow
      obtain ⟨m, hm, hp⟩ := List.any_eq_true.1 hrow
      exact ⟨m, hm, by simpa using hp⟩
    refine ⟨fun id => ?_, fun id => ?_, fun t' ht' m hm => ?_, fun u hu u' hu' he => ?_⟩
    · rintro ⟨m, hm, rfl, hwait⟩
      obtain ⟨hm, hconv⟩ := Table.mem_delete.1 hm
      obtain ⟨row, hrow, hid⟩ := h.waits _ ⟨m, hm, rfl, hwait⟩
      refine ⟨row, Table.mem_delete.2 ⟨hrow, Bool.eq_false_iff.2 fun hgone => ?_⟩, hid⟩
      obtain ⟨m', hm', hconv', hid'⟩ := hremoved row hgone
      rw [Table.eq_of_mem hm' hm (hid'.trans hid)] at hconv'
      exact of_decide_eq_false hconv hconv'
    · rintro ⟨t', ht', rfl, hpending⟩ hnone
      -- The frame of a deletion is that of no message.
      have hkept : ¬ s.Holds t'.syncEventId := fun ⟨row, hrow, hid⟩ =>
        hnone ⟨row, Table.mem_delete.2 ⟨hrow, Bool.eq_false_iff.2 fun hgone => by
          obtain ⟨m, hm, -, hid'⟩ := hremoved row hgone
          exact hseparate t' ht' m hm (hid'.trans hid).symm⟩, hid⟩
      rcases Table.mem_put.1 ht' with rfl | ⟨hold, -⟩
      · rcases hmerged with ⟨hid, hp⟩ | ⟨old, hold, hid, hp⟩
        · rw [hid]
          exact hfresh (hp hpending)
        · rw [hid] at hkept ⊢
          exact h.owes _ ⟨old, hold, rfl, hp hpending⟩ hkept
      · exact h.owes _ ⟨t', hold, rfl, hpending⟩ hkept
    · exact hseparate t' ht' m (Table.mem_delete.1 hm).1
    · have alone : ∀ u ∈ s.tombstones, u.peerAccountId ≠ (s.merged t).peerAccountId →
          u.syncEventId ≠ (s.merged t).syncEventId := fun u hu hne hid =>
        halone (List.any_eq_true.2 ⟨u, hu, by simp [hne, hid]⟩)
      rcases Table.mem_put.1 hu with rfl | ⟨hold, hne⟩
      · rcases Table.mem_put.1 hu' with rfl | ⟨hold', hne'⟩
        · rfl
        · exact absurd he.symm (alone u' hold' hne')
      · rcases Table.mem_put.1 hu' with rfl | ⟨hold', hne'⟩
        · exact absurd he (alone u hold hne)
        · exact h.distinct u hold u' hold' he

/-- Verifying an account ends its deletion, and takes its frame along. -/
theorem Kept.verify {accountId : String} (h : s.Kept) : (s.verify accountId).Kept := by
  have hremoved : ∀ row : OutboxRow, (s.tombstones.rows.any fun t =>
      t.peerAccountId = accountId && t.syncEventId = row.logicalMessageId) = true →
      ∃ t ∈ s.tombstones, t.peerAccountId = accountId ∧ t.syncEventId = row.logicalMessageId := by
    intro row hrow
    obtain ⟨t, ht, hp⟩ := List.any_eq_true.1 hrow
    exact ⟨t, ht, by simpa using hp⟩
  refine ⟨fun id => ?_, fun id => ?_, fun t ht => ?_, fun t ht t' ht' => ?_⟩
  · rintro ⟨m, hm, rfl, hwait⟩
    obtain ⟨row, hrow, hid⟩ := h.waits _ ⟨m, hm, rfl, hwait⟩
    refine ⟨row, Table.mem_delete.2 ⟨hrow, Bool.eq_false_iff.2 fun hgone => ?_⟩, hid⟩
    obtain ⟨t, ht, -, hid'⟩ := hremoved row hgone
    exact h.separate t ht m hm (hid'.trans hid)
  · rintro ⟨t, ht, rfl, hpending⟩ hnone
    obtain ⟨ht, hother⟩ := Table.mem_delete.1 ht
    refine h.owes _ ⟨t, ht, rfl, hpending⟩ fun ⟨row, hrow, hid⟩ => ?_
    refine hnone ⟨row, Table.mem_delete.2 ⟨hrow, Bool.eq_false_iff.2 fun hgone => ?_⟩, hid⟩
    obtain ⟨t', ht', haccount, hid'⟩ := hremoved row hgone
    rw [h.distinct t' ht' t ht (hid'.trans hid)] at haccount
    exact of_decide_eq_false hother haccount
  · exact h.separate t (Table.mem_delete.1 ht).1
  · exact h.distinct t (Table.mem_delete.1 ht).1 t' (Table.mem_delete.1 ht').1

end Persisted

/-- No completion is cut between what waits and its frame, no message comes `sending` from another device, and
the ids of messages and deletions are new. -/
def Statement.Careful (s : Persisted) : Statement → Prop
  | .written m _ | .received m => ∀ t ∈ s.tombstones, t.syncEventId ≠ m.id
  | .imported m =>
    (m.inbound = false → m.status = .sending → (∃ old ∈ s.messages, old.id = m.id) ∨ s.Holds m.id) ∧
      ∀ t ∈ s.tombstones, t.syncEventId ≠ m.id
  | .completed id n => (n = 1 ∨ n = 2 → ¬ s.Waits id) ∧ (n = 1 → ¬ s.Owes id)
  | .deleted t => (∀ m ∈ s.messages, t.syncEventId ≠ m.id) ∧ (t.pendingSync = true → t.syncEventId ∉ s.offered)
  | .queued _ | .raised .. | .synced _ | .verified _ => True

theorem Persisted.Kept.step {s s' : Persisted} {st : Statement} (h : s.Kept) (hst : st.Careful s)
    (hs : st.run s = some s') : s'.Kept := by
  cases st with
  | written m row =>
    obtain ⟨⟨hid, hrow⟩, rfl⟩ := (Option.ite_none_right_eq_some).1 hs |>.imp_right Option.some.inj
    exact h.write hid hrow hst
  | queued row =>
    obtain ⟨hrow, rfl⟩ := (Option.ite_none_right_eq_some).1 hs |>.imp_right Option.some.inj
    exact h.offer hrow
  | received m =>
    obtain ⟨hstatus, rfl⟩ := (Option.ite_none_right_eq_some).1 hs |>.imp_right Option.some.inj
    exact h.insert (fun _ hsending => by rw [hstatus] at hsending; cases hsending) hst
  | imported m =>
    cases hs
    exact h.insert hst.1 hst.2
  | raised id status p =>
    cases hs
    exact h.raise
  | completed id n =>
    cases hs
    exact h.complete hst.1 hst.2
  | synced id =>
    cases hs
    exact h.markSynced
  | deleted t => exact h.delete hst.1 hst.2 hs
  | verified accountId =>
    cases hs
    exact h.verify

/-- What was handed to the connection had been offered. -/
theorem sent_offered {profile : RuntimeProfile P} {w : World P} (hw : (clientSystem env profile).Reachable w)
    {f : Frame} (hf : f ∈ w.sent) {message : SendEnvelopes} (hb : f.body = some (.sendEnvelopes message))
    {e : EncryptedEnvelope} (he : e ∈ message.envelopes) : e.logicalMessageId ∈ w.persisted.offered := by
  obtain ⟨-, hahead⟩ := reachable_invariant
    (I := fun v => v.Synced ∧ v.WrittenAhead profile.machine) hw
    ⟨rfl, ⟨[], .refl, .nil⟩, nofun, nofun⟩ fun v v' h hs => ⟨h.1.step hs, h.2.step h.1 hs⟩
  have hqueued : .queued message ∈ w.log := hahead.sent f hf message hb
  exact List.mem_flatMap.2 ⟨_, hqueued, List.mem_map_of_mem he⟩

/-- The tables of a client are reached by its statements, one after another, and what it hands to the
connection was offered before; and a run of careful statements keeps what waits in the outbox. -/
theorem outbox_crash_consistent (P : Primitives) (env : Environment) (profile : RuntimeProfile P) :
    (∀ w : World P, (clientSystem env profile).Reachable w →
        storeSystem.ReachableUnder (fun _ st => st.Possible env) w.persisted ∧
        ∀ f ∈ w.sent, ∀ message, f.body = some (.sendEnvelopes message) →
          ∀ e ∈ message.envelopes, e.logicalMessageId ∈ w.persisted.offered) ∧
    ∀ s, storeSystem.ReachableUnder (fun s st => st.Careful s) s → s.Consistent := by
  refine ⟨fun w hw => ⟨persisted_reachable hw, fun f hf message hb e he => sent_offered hw hf hb he⟩,
    fun s hs => ?_⟩
  have hkept : s.Kept := hs.invariant (fun s hinit => by rw [show s = .empty from hinit]; exact Persisted.kept_empty)
    fun s st s' h hst hstep => h.step hst hstep
  exact hkept.consistent

theorem not_consistent {w : World P} {id : String}
    (hwaits : (w.store.messages.find id).any (fun m => m.inbound = false ∧ m.status = .sending) = true)
    (hnone : w.store.outbox.find id = none) : ¬ w.persisted.Consistent := by
  obtain ⟨m, hm, hp⟩ := (Option.any_eq_true _ _).1 hwaits
  intro h
  obtain ⟨row, hrow, hid⟩ := h.1 id ⟨m, Table.mem_of_find hm, Table.key_of_find hm, of_decide_eq_true hp⟩
  exact Table.find_eq_none.1 hnone row hrow hid

namespace Scenario.CutCompletion

def receipt : WirePayload := payload "read_batch" "bob" "bob" "alice" "" ["0"]

/-- The statement after the first one of the completion fails. -/
def crashing : Environment :=
  { environment (fun _ => [bundle "alice" 1 [("a1", 2)], bundle "bob" 5 [("b1", 6)]]) [receipt] with
    works := fun n => n ≠ 39 }

/-- Alice writes to Bob, whom she has verified, the server accepts it, and she starts again. -/
def restarted : World primitives :=
  (World.ofProfile (firstDevice "alice" "a1" 1 2)).afterAll crashing
    [ .serverEvent (batch [envelope 1 "b1" "c" 6 "a1" receipt])
    , .selectIndex 0
    , .verifySelected
    , .sendText "hello"
    , .serverEvent (frame "" (.sendAccepted { logicalMessageId := "26", acceptedAtMs := 0 }))
    , .restart ]

/-- The message is `sending`, and nothing will send it. -/
theorem cut_completion :
    (clientSystem crashing (firstDevice "alice" "a1" 1 2)).Reachable restarted ∧
      ¬ restarted.persisted.Consistent := by
  have hreachable : (clientSystem crashing (firstDevice "alice" "a1" 1 2)).Reachable restarted :=
    reachable_ofProfile _ _ _
  have hwaits : (restarted.store.messages.find "26").any
      (fun m => m.inbound = false ∧ m.status = .sending) = true := by
    decide +kernel
  have hnone : restarted.store.outbox.find "26" = none := by decide +kernel
  exact ⟨hreachable, not_consistent hwaits hnone⟩

end Scenario.CutCompletion

end TuiChat
