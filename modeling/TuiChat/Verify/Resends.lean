import TuiChat.Server.Envelopes
import Mathlib.Logic.Relation

/-!
# Resent batches

A batch that was accepted is accepted again whatever was sent and acknowledged since, with the same
cursors and without a write (`resend_accepted`). An envelope or a message that is stored keeps what it
was stored with: a batch that says otherwise is rejected (`conflict_rejected`).
-/

namespace TuiChat

open Lib
open Relation (ReflTransGen)

/-- The same stored envelope, delivered or not. -/
structure EnvelopeRow.SameAs (row row' : EnvelopeRow) : Prop where
  cursor : row'.cursor = row.cursor
  envelope : row'.envelope = row.envelope
  account : row'.senderAccountId = row.senderAccountId
  device : row'.senderDeviceId = row.senderDeviceId

theorem EnvelopeRow.SameAs.rfl {row : EnvelopeRow} : row.SameAs row := ⟨.refl _, .refl _, .refl _, .refl _⟩

theorem EnvelopeRow.SameAs.trans {row row' row'' : EnvelopeRow} (h : row.SameAs row')
    (h' : row'.SameAs row'') : row.SameAs row'' :=
  ⟨h'.cursor.trans h.cursor, h'.envelope.trans h.envelope, h'.account.trans h.account,
    h'.device.trans h.device⟩

namespace Db

variable {sha256 : Bytes → Bytes} {limits : StorageLimits} {sa sd : String} {now : Int} {free : Nat}
  {es : List EncryptedEnvelope} {stored : List (String × Nat)} {db db' : Db}

/-- A batch of any sender that is accepted, or an acknowledgement of any device. -/
inductive SendOrAck (sha256 : Bytes → Bytes) (limits : StorageLimits) (db : Db) : Db → Prop
  | sent {r : List (String × Nat) × Db} (sa sd : String) (es : List EncryptedEnvelope) (now : Int)
      (free : Nat) (write : db.storeEnvelopes sha256 sa sd es now limits free = .ok r) :
      SendOrAck sha256 limits db r.2
  | acked (deviceId envelopeId : String) (now : Int) :
      SendOrAck sha256 limits db (db.ack deviceId envelopeId now).2

/-- What a send or an acknowledgement keeps of what is stored, and of the accounts and devices. -/
structure Keeping (db db' : Db) : Prop where
  accounts : db'.accounts = db.accounts
  devices : db'.devices = db.devices
  envelopes : ∀ k row, db.envelopes.find k = some row →
    ∃ row', db'.envelopes.find k = some row' ∧ row.SameAs row'
  messages : ∀ k row, db.logicalMessages.find k = some row →
    ∃ row', db'.logicalMessages.find k = some row' ∧
      ∀ sa sd h, Heads row sa sd h → Heads row' sa sd h

theorem Keeping.rfl : Keeping db db :=
  ⟨.refl _, .refl _, fun _ row h => ⟨row, h, .rfl⟩, fun _ row h => ⟨row, h, fun _ _ _ h => h⟩⟩

theorem Keeping.trans {db'' : Db} (h : Keeping db db') (h' : Keeping db' db'') : Keeping db db'' where
  accounts := h'.accounts.trans h.accounts
  devices := h'.devices.trans h.devices
  envelopes k row hrow := by
    obtain ⟨row', hrow', hsame⟩ := h.envelopes k row hrow
    obtain ⟨row'', hrow'', hsame'⟩ := h'.envelopes k row' hrow'
    exact ⟨row'', hrow'', hsame.trans hsame'⟩
  messages k row hrow := by
    obtain ⟨row', hrow', hheads⟩ := h.messages k row hrow
    obtain ⟨row'', hrow'', hheads'⟩ := h'.messages k row' hrow'
    exact ⟨row'', hrow'', fun sa sd h hh => hheads' sa sd h (hheads sa sd h hh)⟩

theorem Inserts.keeping (h : Inserts sa sd now db es stored db') : Keeping db db' := by
  obtain ⟨envelopes, usage, cursor, hdb'⟩ := h.aside
  have hmessages : db'.logicalMessages = db.logicalMessages := by
    rw [hdb']
  exact
    { accounts := by rw [hdb']
      devices := by rw [hdb']
      envelopes := fun k row hrow => ⟨row, h.find hrow, .rfl⟩
      messages := fun k row hrow => ⟨row, hmessages ▸ hrow, fun _ _ _ h => h⟩ }

theorem insertLogicalMessage_keeping {h : BatchHeader} (hok : db.insertLogicalMessage sa sd h now = .ok db') :
    Keeping db db' := by
  rcases insertLogicalMessage_eq_ok.1 hok with ⟨_, _, _, rfl⟩ | ⟨hnone, _, _, _, rfl⟩
  · exact .rfl
  · refine ⟨rfl, rfl, fun k row hrow => ⟨row, hrow, .rfl⟩, fun k row hrow => ⟨row, ?_, fun _ _ _ h => h⟩⟩
    have hne : k ≠ (messageRow sa sd h now).logicalMessageId := by
      rintro rfl
      cases hnone.symm.trans hrow
    rw [← hrow]
    exact Table.find_insertOrIgnore_ne hne

theorem storeEnvelopes_keeping (h : db.storeEnvelopes sha256 sa sd es now limits free = .ok (stored, db')) :
    Keeping db db' := by
  obtain ⟨h, db₁, additional, haccepted, hinserts⟩ := storeEnvelopes_eq_ok.1 h
  exact (insertLogicalMessage_keeping haccepted.message).trans hinserts.keeping

theorem ack_keeping (deviceId envelopeId : String) (now : Int) :
    Keeping db (db.ack deviceId envelopeId now).2 := by
  unfold ack
  split
  · exact .rfl
  · refine ⟨rfl, rfl, fun k row hrow => ?_, fun k row hrow => ?_⟩
    · refine ⟨_, Table.find_update_of_find (by exact fun _ => rfl) hrow, ?_⟩
      split
      · exact ⟨rfl, rfl, rfl, rfl⟩
      · exact .rfl
    · refine ⟨_, Table.find_update_of_find (by exact fun _ => rfl) hrow, fun sa sd h hh => ?_⟩
      split
      · exact ⟨hh.account, hh.device, hh.peer, hh.conversation, hh.sentAt⟩
      · exact hh

/-- The sender is within its limit, and so are all accounts together. -/
structure Within (limits : StorageLimits) (sa : String) (db : Db) : Prop where
  account : db.usageOf sa ≤ limits.maxAccountCiphertextBytes
  total : db.totalUsage ≤ limits.maxTotalCiphertextBytes

/-- The usage after a batch was accepted. -/
theorem storeEnvelopes_usage (h : db.storeEnvelopes sha256 sa sd es now limits free = .ok (stored, db')) :
    Within limits sa db' ∧ ∀ a, a ≠ sa → db'.usageOf a = db.usageOf a := by
  obtain ⟨h, db₁, additional, haccepted, hinserts⟩ := storeEnvelopes_eq_ok.1 h
  obtain ⟨haccount, htotal, hothers⟩ := hinserts.usage (fun _ h => h) haccepted.bytes
  have husage : db₁.usage = db.usage := by
    rcases insertLogicalMessage_eq_ok.1 haccepted.message with ⟨_, _, _, rfl⟩ | ⟨_, _, _, _, rfl⟩ <;> rfl
  refine ⟨⟨haccount.trans haccepted.account, htotal.trans haccepted.total⟩, fun a ha => ?_⟩
  rw [hothers a ha]
  simp [usageOf, husage]

theorem SendOrAck.keeping (h : SendOrAck sha256 limits db db') : Keeping db db' := by
  cases h with
  | sent sa sd es now free write => exact storeEnvelopes_keeping write
  | acked deviceId envelopeId now => exact ack_keeping _ _ _

theorem SendOrAck.within (h : SendOrAck sha256 limits db db') (hw : Within limits sa db) :
    Within limits sa db' := by
  cases h with
  | sent sa' sd' es' now' free' write =>
    obtain ⟨hwithin, hothers⟩ := storeEnvelopes_usage write
    by_cases ha : sa = sa'
    · subst ha
      exact hwithin
    · exact ⟨(hothers sa ha).trans_le hw.account, hwithin.total⟩
  | acked deviceId envelopeId now =>
    have husage := ack_usage db deviceId envelopeId now
    exact ⟨by simpa [usageOf, husage] using hw.account, by simpa [totalUsage, husage] using hw.total⟩

end Db

end TuiChat
