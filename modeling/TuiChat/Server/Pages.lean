import TuiChat.Lib.Pages
import TuiChat.Server.Threads

/-!
# Pages of the mailbox

What a `SyncRequest` is answered with (`ws.rs`, `db.rs`): the first envelopes above a cursor that are stored for the
device, in the order of their cursors.
-/

namespace TuiChat

open Lib
open Lib.Page (next Rises rises_insertionSort)

namespace Db

variable {db : Db} {accountId deviceId : String} {after : Nat}

theorem asI64_le (after : Nat) : asI64 after ≤ after := by
  unfold asI64
  split
  · exact le_rfl
  · omega

theorem asI64_of_lt (h : after < 2 ^ 63) : asI64 after = after := if_pos h

theorem mem_envelopesAfter {e : StoredEnvelope} : e ∈ db.envelopesAfter deviceId after ↔
    ∃ row ∈ db.envelopes, row.envelope.recipientDeviceId = deviceId ∧ asI64 after < row.cursor ∧
      db.storedEnvelope row = some e := by
  simp only [envelopesAfter, List.mem_filterMap, List.mem_insertionSort, List.mem_filter, Table.mem_rows,
    Bool.and_eq_true, decide_eq_true_eq, and_assoc]

theorem Threaded.envelopesAfter_rises (h : db.Threaded) :
    Rises StoredEnvelope.cursor (db.envelopesAfter deviceId after) := by
  have hrows : (db.envelopes.rows.filter fun row => row.envelope.recipientDeviceId = deviceId &&
      asI64 after < row.cursor).Nodup := (List.Nodup.of_map _ db.envelopes.nodup).filter _
  refine (rises_insertionSort EnvelopeRow.cursor hrows fun a ha b hb => ?_).filterMap _ fun a b hab e he e' he' => ?_
  · exact h.distinct a (List.mem_filter.1 ha).1 b (List.mem_filter.1 hb).1
  · rw [(storedEnvelope_of he).cursor, (storedEnvelope_of he').cursor]
    exact hab

theorem pageLimit_pos (limit : Nat) : 0 < pageLimit limit := Nat.lt_of_lt_of_le Nat.one_pos (Nat.le_max_left _ _)

/-- A page is the first of what waits, and the flag says whether more does. -/
theorem syncPage_eq (db : Db) (accountId deviceId : String) (m : SyncRequest) :
    (Ws.syncPage db accountId deviceId m).envelopes =
        (db.envelopesAfter deviceId m.afterCursor).take (pageLimit m.limit) ∧
      ((Ws.syncPage db accountId deviceId m).hasMore = true ↔
        pageLimit m.limit < (db.envelopesAfter deviceId m.afterCursor).length) ∧
      (Ws.syncPage db accountId deviceId m).nextCursor = next StoredEnvelope.cursor m.afterCursor
        (Ws.syncPage db accountId deviceId m).envelopes ∧
      (Ws.syncPage db accountId deviceId m).deliveryUpdates =
        (db.updatesAfter accountId m.afterStatusCursor).take 200 ∧
      (Ws.syncPage db accountId deviceId m).nextStatusCursor = next StoredDeliveryUpdate.cursor m.afterStatusCursor
        (Ws.syncPage db accountId deviceId m).deliveryUpdates := by
  refine ⟨?_, ?_, rfl, rfl, rfl⟩
  · show ((db.envelopesAfter deviceId m.afterCursor).take (pageLimit m.limit + 1)).take (pageLimit m.limit) = _
    rw [List.take_take]
    congr 1
    omega
  · show decide (pageLimit m.limit <
      ((db.envelopesAfter deviceId m.afterCursor).take (pageLimit m.limit + 1)).length) = true ↔ _
    rw [decide_eq_true_eq, List.length_take]
    omega

/-- What a page for a device is, with the database that it is read from. -/
structure IsPage (db : Db) (deviceId : String) (after limit : Nat) (batch : SyncBatch) : Prop where
  length : batch.envelopes.length ≤ pageLimit limit
  rises : Rises StoredEnvelope.cursor batch.envelopes
  sound : ∀ e ∈ batch.envelopes, ∃ row ∈ db.envelopes, row.envelope.recipientDeviceId = deviceId ∧
    after < row.cursor ∧ row.cursor ≤ batch.nextCursor ∧ e.Of row
  complete : ∀ row ∈ db.envelopes, row.envelope.recipientDeviceId = deviceId → after < row.cursor →
    (row.cursor ≤ batch.nextCursor ∨ batch.hasMore = false) → ∃ e ∈ batch.envelopes, e.Of row
  more : batch.hasMore = true ↔
    ∃ row ∈ db.envelopes, row.envelope.recipientDeviceId = deviceId ∧ batch.nextCursor < row.cursor
  after_le : after ≤ batch.nextCursor
  next_le : batch.nextCursor = after ∨ batch.nextCursor ≤ db.lastCursor

theorem Threaded.syncPage (h : db.Threaded) (m : SyncRequest) (hafter : m.afterCursor < 2 ^ 63) :
    IsPage db deviceId m.afterCursor m.limit (Ws.syncPage db accountId deviceId m) := by
  obtain ⟨henvelopes, hmore, hnext, -, -⟩ := syncPage_eq db accountId deviceId m
  have hrises : Rises StoredEnvelope.cursor (db.envelopesAfter deviceId m.afterCursor) := h.envelopesAfter_rises
  have hpos := pageLimit_pos m.limit
  have hwaits : ∀ row ∈ db.envelopes, row.envelope.recipientDeviceId = deviceId → m.afterCursor < row.cursor →
      ∃ e ∈ db.envelopesAfter deviceId m.afterCursor, e.Of row := by
    intro row hrow hdevice hlt
    obtain ⟨e, he⟩ := h.storedEnvelope hrow
    refine ⟨e, mem_envelopesAfter.2 ⟨row, hrow, hdevice, ?_, he⟩, storedEnvelope_of he⟩
    rw [asI64_of_lt hafter]
    exact_mod_cast hlt
  have hrow : ∀ e ∈ db.envelopesAfter deviceId m.afterCursor, ∃ row ∈ db.envelopes,
      row.envelope.recipientDeviceId = deviceId ∧ m.afterCursor < row.cursor ∧ e.Of row := by
    intro e he
    obtain ⟨row, hrow, hdevice, hlt, hstored⟩ := mem_envelopesAfter.1 he
    rw [asI64_of_lt hafter] at hlt
    exact ⟨row, hrow, hdevice, by exact_mod_cast hlt, storedEnvelope_of hstored⟩
  have habove : ∀ e ∈ (Ws.syncPage db accountId deviceId m).envelopes, m.afterCursor < e.cursor := by
    intro e he
    rw [henvelopes] at he
    obtain ⟨row, -, -, hlt, hof⟩ := hrow e (List.mem_of_mem_take he)
    rw [hof.cursor]
    exact hlt
  refine ⟨?_, ?_, fun e he => ?_, fun row hmem hdevice hlt hor => ?_, ?_, ?_, ?_⟩
  · rw [henvelopes, List.length_take]
    exact Nat.min_le_left _ _
  · rw [henvelopes]
    exact hrises.sublist (List.take_sublist _ _)
  · have hle : e.cursor ≤ (Ws.syncPage db accountId deviceId m).nextCursor := by
      rw [hnext]
      refine Page.le_next ?_ he
      rw [henvelopes]
      exact hrises.sublist (List.take_sublist _ _)
    rw [henvelopes] at he
    obtain ⟨row, hmem, hdevice, hlt, hof⟩ := hrow e (List.mem_of_mem_take he)
    exact ⟨row, hmem, hdevice, hlt, hof.cursor ▸ hle, hof⟩
  · obtain ⟨e, he, hof⟩ := hwaits row hmem hdevice hlt
    refine ⟨e, ?_, hof⟩
    rw [henvelopes]
    rcases hor with hle | hlast
    · rw [hnext, henvelopes, ← hof.cursor] at hle
      exact (Page.mem_take_iff hrises hpos he).2 hle
    · have hshort : ¬pageLimit m.limit < (db.envelopesAfter deviceId m.afterCursor).length := fun hlong => by
        rw [hmore.2 hlong] at hlast
        cases hlast
      rwa [List.take_of_length_le (Nat.not_lt.1 hshort)]
  · rw [hmore, ← Page.exists_above_iff m.afterCursor hrises hpos, hnext, henvelopes]
    constructor
    · rintro ⟨e, he, hlt⟩
      obtain ⟨row, hmem, hdevice, -, hof⟩ := hrow e he
      exact ⟨row, hmem, hdevice, hof.cursor ▸ hlt⟩
    · rintro ⟨row, hmem, hdevice, hlt⟩
      have hstart : m.afterCursor ≤ next StoredEnvelope.cursor m.afterCursor
          ((db.envelopesAfter deviceId m.afterCursor).take (pageLimit m.limit)) :=
        Page.after_le_next fun e he => habove e (henvelopes ▸ he)
      obtain ⟨e, he, hof⟩ := hwaits row hmem hdevice (by omega)
      exact ⟨e, he, hof.cursor ▸ hlt⟩
  · rw [hnext]
    exact Page.after_le_next habove
  · rcases Page.next_eq StoredEnvelope.cursor m.afterCursor (Ws.syncPage db accountId deviceId m).envelopes with
      ⟨-, heq⟩ | ⟨e, he, heq⟩
    · exact .inl (hnext.trans heq)
    · right
      rw [hnext, heq]
      rw [henvelopes] at he
      obtain ⟨row, hmem, -, -, hof⟩ := hrow e (List.mem_of_mem_take he)
      rw [hof.cursor]
      exact h.cursors row hmem

end Db

end TuiChat
