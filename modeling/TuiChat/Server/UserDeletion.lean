import TuiChat.Server.MessageStore

/-!
# The deletion of a user

The transaction of `delete_user_records`, statement by statement. In a consistent database no statement
leaves a row that names one it has deleted (`foreignKeys_afterStatements`), the rest is consistent again,
and rows that have nothing to do with the account stay as they are (`deleteUserRecords_spares`).
-/

namespace TuiChat

open Lib

namespace Db

variable {db : Db}

/-! ## The transaction -/

section

variable (accountId : String)

def ownsDevice (db : Db) (deviceId : String) : Bool := (db.device accountId deviceId).isSome

/-- The statements of the transaction, in their order; the last one takes the account's usage along. -/
def deletePairingEventsOf (db : Db) : Db :=
  { db with
    pairingEvents := db.pairingEvents.delete fun row =>
      db.ownsDevice accountId row.senderDeviceId || db.ownsDevice accountId row.targetDeviceId }

def deleteUpdatesOf (db : Db) : Db :=
  { db with
    deliveryUpdates := db.deliveryUpdates.delete fun row =>
      row.accountId = accountId || db.concernsMessage accountId row.logicalMessageId }

def deleteEnvelopesOf (db : Db) : Db := db.deleteEnvelopes (db.involves accountId)

def deleteMessagesOf (db : Db) : Db :=
  { db with logicalMessages := db.logicalMessages.delete fun row => concerns row accountId }

def deletePreKeysOf (db : Db) : Db :=
  { db with prekeys := db.prekeys.delete fun row => db.ownsDevice accountId row.deviceId }

def deleteDevicesOf (db : Db) : Db :=
  { db with devices := db.devices.delete fun row => row.accountId = accountId }

def deleteAccount (db : Db) : Db :=
  { db with
    accounts := db.accounts.delete fun row => row.id = accountId
    usage := db.usage.delete fun row => row.accountId = accountId }

def deleteUserStatements : List (Db → Db) :=
  [deletePairingEventsOf accountId, deleteUpdatesOf accountId, deleteEnvelopesOf accountId,
    deleteMessagesOf accountId, deletePreKeysOf accountId, deleteDevicesOf accountId, deleteAccount accountId]

/-- The database after the first statements of the transaction. -/
def afterStatements (db : Db) (n : Nat) : Db :=
  ((deleteUserStatements accountId).take n).foldl (fun db statement => statement db) db

theorem deleteUserRecords_eq (db : Db) : db.deleteUserRecords accountId = db.afterStatements accountId 7 := rfl

end

/-- The declared foreign keys. -/
structure ForeignKeys (db : Db) : Prop where
  devices : db.devices.Refers DeviceRow.accountId db.accounts
  prekeys : db.prekeys.Refers PreKeyRow.deviceId db.devices
  messageSenders : db.logicalMessages.Refers LogicalMessageRow.senderAccountId db.accounts
  messageDevices : db.logicalMessages.Refers LogicalMessageRow.senderDeviceId db.devices
  messagePeers : db.logicalMessages.Refers LogicalMessageRow.peerAccountId db.accounts
  messages : db.envelopes.Refers (fun row => row.envelope.logicalMessageId) db.logicalMessages
  senders : db.envelopes.Refers EnvelopeRow.senderAccountId db.accounts
  senderDevices : db.envelopes.Refers EnvelopeRow.senderDeviceId db.devices
  recipients : db.envelopes.Refers (fun row => row.envelope.recipientAccountId) db.accounts
  recipientDevices : db.envelopes.Refers (fun row => row.envelope.recipientDeviceId) db.devices
  updates : db.deliveryUpdates.Refers DeliveryUpdateRow.accountId db.accounts
  eventSenders : db.pairingEvents.Refers PairingEventRow.senderDeviceId db.devices
  eventTargets : db.pairingEvents.Refers PairingEventRow.targetDeviceId db.devices
  usage : db.usage.Refers AccountStorageUsage.accountId db.accounts

theorem Consistent.foreignKeys (h : db.Consistent) : db.ForeignKeys := by
  have haccount : ∀ {a : String}, db.roster.Has a → (db.accounts.find a).isSome :=
    fun ha => roster_master.symm.trans ha
  have hdevice : ∀ {d a : String}, db.roster.owner d = some a → (db.devices.find d).isSome := by
    intro d a hd
    rw [← owner_isSome, hd]
    rfl
  have hsender : ∀ row ∈ db.envelopes, db.roster.owner row.senderDeviceId = some row.senderAccountId := by
    intro row hrow
    obtain ⟨m, hm, hbelongs⟩ := h.envelopes row hrow
    rw [← hbelongs.device, ← hbelongs.account]
    exact (h.messages m hm).1
  exact
    { devices := fun row hrow => haccount (h.linked.has (owner_eq_some.2 ⟨row, hrow, rfl, rfl⟩))
      prekeys := fun row hrow => owner_isSome.symm.trans (h.prekeys row hrow)
      messageSenders := fun row hrow => haccount (h.linked.has (h.messages row hrow).1)
      messageDevices := fun row hrow => hdevice (h.messages row hrow).1
      messagePeers := fun row hrow => haccount (h.messages row hrow).2
      messages := fun row hrow => by
        obtain ⟨m, hm, hbelongs⟩ := h.envelopes row hrow
        exact Option.isSome_iff_exists.2 ⟨m, Table.find_eq_some.2 ⟨hm, hbelongs.id⟩⟩
      senders := fun row hrow => haccount (h.linked.has (hsender row hrow))
      senderDevices := fun row hrow => hdevice (hsender row hrow)
      recipients := fun row hrow => haccount (h.linked.has (h.recipients row hrow))
      recipientDevices := fun row hrow => hdevice (h.recipients row hrow)
      updates := fun row hrow => by
        obtain ⟨m, hm, -, hown⟩ := h.updates row hrow
        rw [← hown]
        exact haccount (h.linked.has (h.messages m hm).1)
      eventSenders := fun row hrow => owner_isSome.symm.trans (h.events row hrow).1
      eventTargets := fun row hrow => owner_isSome.symm.trans (h.events row hrow).2
      usage := fun row hrow => haccount (h.usage row hrow) }

/-! ## Statements and foreign keys -/

section

variable {a : String}

theorem ownsDevice_eq_false {d : String} (h : db.ownsDevice a d = false) {row : DeviceRow}
    (hrow : row ∈ db.devices) (hid : row.id = d) : row.accountId ≠ a := by
  rintro rfl
  have howner : db.device row.accountId d = some row :=
    Option.filter_eq_some_iff.2 ⟨Table.find_eq_some.2 ⟨hrow, hid⟩, decide_eq_true rfl⟩
  rw [ownsDevice, howner] at h
  cases h

theorem ForeignKeys.deletePairingEventsOf (h : db.ForeignKeys) : (db.deletePairingEventsOf a).ForeignKeys :=
  { h with
    eventSenders := h.eventSenders.delete_left _
    eventTargets := h.eventTargets.delete_left _ }

theorem ForeignKeys.deleteUpdatesOf (h : db.ForeignKeys) : (db.deleteUpdatesOf a).ForeignKeys :=
  { h with updates := h.updates.delete_left _ }

theorem ForeignKeys.deleteEnvelopesOf (h : db.ForeignKeys) : (db.deleteEnvelopesOf a).ForeignKeys :=
  { h with
    messages := h.messages.delete_left _
    senders := h.senders.delete_left _
    senderDevices := h.senderDevices.delete_left _
    recipients := h.recipients.delete_left _
    recipientDevices := h.recipientDevices.delete_left _
    usage := fun row hrow => by
      obtain ⟨old, hold, heq⟩ := deleteEnvelopes_usage row hrow
      rw [← heq]
      exact h.usage old hold }

theorem ForeignKeys.deletePreKeysOf (h : db.ForeignKeys) : (db.deletePreKeysOf a).ForeignKeys :=
  { h with prekeys := h.prekeys.delete_left _ }

theorem ForeignKeys.deleteMessagesOf (h : db.ForeignKeys)
    (gone : ∀ e ∈ db.envelopes, db.concernsMessage a e.envelope.logicalMessageId = false) :
    (db.deleteMessagesOf a).ForeignKeys :=
  { h with
    messageSenders := h.messageSenders.delete_left _
    messageDevices := h.messageDevices.delete_left _
    messagePeers := h.messagePeers.delete_left _
    messages := h.messages.delete_right fun e he _ hm hid => concernsMessage_eq_false (gone e he) hm hid }

theorem ForeignKeys.deleteDevicesOf (h : db.ForeignKeys)
    (prekeys : ∀ row ∈ db.prekeys, db.ownsDevice a row.deviceId = false)
    (messages : ∀ row ∈ db.logicalMessages, db.ownsDevice a row.senderDeviceId = false)
    (senders : ∀ row ∈ db.envelopes, db.ownsDevice a row.senderDeviceId = false)
    (recipients : ∀ row ∈ db.envelopes, db.ownsDevice a row.envelope.recipientDeviceId = false)
    (events : ∀ row ∈ db.pairingEvents, db.ownsDevice a row.senderDeviceId = false ∧
      db.ownsDevice a row.targetDeviceId = false) : (db.deleteDevicesOf a).ForeignKeys :=
  have keeps : ∀ {d : String}, db.ownsDevice a d = false → ∀ row ∈ db.devices, row.id = d →
      decide (row.accountId = a) = false := fun hd _ hrow hid =>
    decide_eq_false (ownsDevice_eq_false hd hrow hid)
  { h with
    devices := h.devices.delete_left _
    prekeys := h.prekeys.delete_right fun row hrow => keeps (prekeys row hrow)
    messageDevices := h.messageDevices.delete_right fun row hrow => keeps (messages row hrow)
    senderDevices := h.senderDevices.delete_right fun row hrow => keeps (senders row hrow)
    recipientDevices := h.recipientDevices.delete_right fun row hrow => keeps (recipients row hrow)
    eventSenders := h.eventSenders.delete_right fun row hrow => keeps (events row hrow).1
    eventTargets := h.eventTargets.delete_right fun row hrow => keeps (events row hrow).2 }

theorem ForeignKeys.deleteAccount (h : db.ForeignKeys) (devices : ∀ row ∈ db.devices, row.accountId ≠ a)
    (messages : ∀ row ∈ db.logicalMessages, concerns row a = false)
    (envelopes : ∀ row ∈ db.envelopes, row.senderAccountId ≠ a ∧ row.envelope.recipientAccountId ≠ a)
    (updates : ∀ row ∈ db.deliveryUpdates, row.accountId ≠ a) : (db.deleteAccount a).ForeignKeys :=
  have keeps : ∀ {b : String}, b ≠ a → ∀ row ∈ db.accounts, row.id = b → decide (row.id = a) = false :=
    fun hb _ _ hid => decide_eq_false (hid ▸ hb)
  have others : ∀ row ∈ db.logicalMessages, row.senderAccountId ≠ a ∧ row.peerAccountId ≠ a := by
    intro row hrow
    simpa [concerns] using messages row hrow
  { h with
    devices := h.devices.delete_right fun row hrow => keeps (devices row hrow)
    messageSenders := h.messageSenders.delete_right fun row hrow => keeps (others row hrow).1
    messagePeers := h.messagePeers.delete_right fun row hrow => keeps (others row hrow).2
    senders := h.senders.delete_right fun row hrow => keeps (envelopes row hrow).1
    recipients := h.recipients.delete_right fun row hrow => keeps (envelopes row hrow).2
    updates := h.updates.delete_right fun row hrow => keeps (updates row hrow)
    usage := (h.usage.delete_left _).delete_right fun row hrow =>
      keeps (of_decide_eq_false (Table.mem_delete.1 hrow).2) }

theorem ownsDevice_of_owner {d b : String} (h : db.roster.owner d = some b) (hb : b ≠ a) :
    db.ownsDevice a d = false := by
  rw [ownsDevice, Option.isSome_eq_false_iff, Option.isNone_iff_eq_none]
  by_contra hsome
  obtain ⟨row, hrow⟩ := Option.ne_none_iff_exists'.1 hsome
  have howner := device_owner hrow
  rw [h] at howner
  exact hb (Option.some.inj howner)

/-- In a consistent database no statement of the transaction fails on a foreign key. -/
theorem Consistent.afterStatements (h : db.Consistent) (a : String) {n : Nat} (hn : n ≤ 7) :
    (db.afterStatements a n).ForeignKeys := by
  have hmessages : ∀ row ∈ db.logicalMessages, concerns row a = false →
      db.ownsDevice a row.senderDeviceId = false := by
    intro row hrow hothers
    simp only [concerns, Bool.or_eq_false_iff, decide_eq_false_iff_not] at hothers
    exact ownsDevice_of_owner (h.messages row hrow).1 hothers.1
  have hsenders : ∀ row ∈ db.envelopes, row.senderAccountId ≠ a →
      db.ownsDevice a row.senderDeviceId = false := by
    intro row hrow hne
    obtain ⟨m, hm, hbelongs⟩ := h.envelopes row hrow
    have howner := (h.messages m hm).1
    rw [hbelongs.device, hbelongs.account] at howner
    exact ownsDevice_of_owner howner hne
  have k₀ := h.foreignKeys
  have k₁ := k₀.deletePairingEventsOf (a := a)
  have k₂ := k₁.deleteUpdatesOf (a := a)
  have k₃ := k₂.deleteEnvelopesOf (a := a)
  have k₄ := k₃.deleteMessagesOf (a := a) fun e he =>
    (involves_eq_false.1 (Table.mem_delete.1 he).2).2.2
  have k₅ := k₄.deletePreKeysOf (a := a)
  have k₆ := k₅.deleteDevicesOf (a := a) (fun row hrow => (Table.mem_delete.1 hrow).2)
    (fun row hrow => hmessages row (Table.mem_delete.1 hrow).1 (Table.mem_delete.1 hrow).2)
    (fun row hrow => hsenders row (Table.mem_delete.1 hrow).1
      (involves_eq_false.1 (Table.mem_delete.1 hrow).2).1)
    (fun row hrow => ownsDevice_of_owner (h.recipients row (Table.mem_delete.1 hrow).1)
      (involves_eq_false.1 (Table.mem_delete.1 hrow).2).2.1)
    (fun row hrow => Bool.or_eq_false_iff.1 (Table.mem_delete.1 hrow).2)
  have k₇ := k₆.deleteAccount (a := a)
    (fun row hrow => of_decide_eq_false (Table.mem_delete.1 hrow).2)
    (fun row hrow => (Table.mem_delete.1 hrow).2)
    (fun _ hrow =>
      have hrow := involves_eq_false.1 (Table.mem_delete.1 hrow).2
      ⟨hrow.1, hrow.2.1⟩)
    (fun row hrow => of_decide_eq_false (Bool.or_eq_false_iff.1 (Table.mem_delete.1 hrow).2).1)
  obtain rfl | rfl | rfl | rfl | rfl | rfl | rfl | rfl : n = 0 ∨ n = 1 ∨ n = 2 ∨ n = 3 ∨ n = 4 ∨ n = 5 ∨
      n = 6 ∨ n = 7 := by omega
  · exact k₀
  · exact k₁
  · exact k₂
  · exact k₃
  · exact k₄
  · exact k₅
  · exact k₆
  · exact k₇

/-! ## What is left -/

theorem ne_of_ownsDevice_eq_false {d b : String} (h : db.ownsDevice a d = false)
    (howner : db.roster.owner d = some b) : b ≠ a := by
  obtain ⟨row, hrow, hid, rfl⟩ := owner_eq_some.1 howner
  exact ownsDevice_eq_false h hrow hid

theorem owner_deleteUserRecords {d b : String} (h : db.roster.owner d = some b) (hb : b ≠ a) :
    (db.deleteUserRecords a).roster.owner d = some b := by
  obtain ⟨row, hrow, rfl, rfl⟩ := owner_eq_some.1 h
  exact owner_eq_some.2 ⟨row, Table.mem_delete.2 ⟨hrow, decide_eq_false hb⟩, rfl, rfl⟩

theorem has_deleteUserRecords {b : String} (h : db.roster.Has b) (hb : b ≠ a) :
    (db.deleteUserRecords a).roster.Has b := by
  rw [Roster.Has, roster_deleteUserRecords]
  dsimp only
  rw [Function.update_of_ne hb]
  exact h

theorem Consistent.deleted (h : db.Consistent) (a : String) : (db.deleteUserRecords a).Consistent := by
  have hknown : ∀ {d : String}, db.ownsDevice a d = false → (db.roster.owner d).isSome →
      ((db.deleteUserRecords a).roster.owner d).isSome := by
    intro d hd hsome
    obtain ⟨b, hb⟩ := Option.isSome_iff_exists.1 hsome
    rw [owner_deleteUserRecords hb (ne_of_ownsDevice_eq_false hd hb)]
    rfl
  have hthreaded := h.threaded.swept (h.threaded.deleted a)
  exact
    { linked := by
        rw [roster_deleteUserRecords]
        intro d row hrow
        obtain ⟨hold, hne⟩ := Option.filter_eq_some_iff.1 hrow
        dsimp only
        rw [Function.update_of_ne (of_decide_eq_true hne)]
        exact h.linked d row hold
      prekeys := fun row hrow => by
        obtain ⟨hrow, hkept⟩ := Table.mem_delete.1 hrow
        exact hknown hkept (h.prekeys row hrow)
      events := fun row hrow => by
        obtain ⟨hrow, hkept⟩ := Table.mem_delete.1 hrow
        obtain ⟨hsender, htarget⟩ := Bool.or_eq_false_iff.1 hkept
        exact ⟨hknown hsender (h.events row hrow).1, hknown htarget (h.events row hrow).2⟩
      messages := fun row hrow => by
        obtain ⟨hrow, hkept⟩ := Table.mem_delete.1 hrow
        have hothers : row.senderAccountId ≠ a ∧ row.peerAccountId ≠ a := by simpa [concerns] using hkept
        obtain ⟨howner, hhas⟩ := h.messages row hrow
        exact ⟨owner_deleteUserRecords howner hothers.1, has_deleteUserRecords hhas hothers.2⟩
      sent := hthreaded.sent
      envelopes := hthreaded.envelopes
      recipients := fun e he => by
        obtain ⟨he, hkept⟩ := Table.mem_delete.1 he
        exact owner_deleteUserRecords (h.recipients e he) (involves_eq_false.1 hkept).2.1
      updates := hthreaded.updates
      usage := fun row hrow => by
        obtain ⟨hrow, hkept⟩ := Table.mem_delete.1 hrow
        obtain ⟨old, hold, heq⟩ := deleteEnvelopes_usage row hrow
        have hhas := h.usage old hold
        rw [heq] at hhas
        exact has_deleteUserRecords hhas (of_decide_eq_false hkept)
      cursors := hthreaded.cursors
      distinct := hthreaded.distinct }

/-- The rows that do not involve the account are as they were; the usage of an account that sent an
envelope which does is no such row. -/
structure Spares (db : Db) (a : String) (db' : Db) : Prop where
  accounts : ∀ row : AccountRow, row.id ≠ a → (row ∈ db'.accounts ↔ row ∈ db.accounts)
  devices : ∀ row : DeviceRow, row.accountId ≠ a → (row ∈ db'.devices ↔ row ∈ db.devices)
  prekeys : ∀ row : PreKeyRow, db.ownsDevice a row.deviceId = false →
    (row ∈ db'.prekeys ↔ row ∈ db.prekeys)
  messages : ∀ row : LogicalMessageRow, concerns row a = false →
    (row ∈ db'.logicalMessages ↔ row ∈ db.logicalMessages)
  envelopes : ∀ row : EnvelopeRow, db.involves a row = false → (row ∈ db'.envelopes ↔ row ∈ db.envelopes)
  updates : ∀ row : DeliveryUpdateRow, row.accountId ≠ a →
    db.concernsMessage a row.logicalMessageId = false →
    (row ∈ db'.deliveryUpdates ↔ row ∈ db.deliveryUpdates)
  events : ∀ row : PairingEventRow, db.ownsDevice a row.senderDeviceId = false →
    db.ownsDevice a row.targetDeviceId = false → (row ∈ db'.pairingEvents ↔ row ∈ db.pairingEvents)
  usage : ∀ b, b ≠ a → (∀ e ∈ db.envelopes, db.involves a e = true → e.senderAccountId ≠ b) →
    db'.usage.find b = db.usage.find b
  audit : db'.audit = db.audit

theorem find_deleteEnvelopes_usage {p : EnvelopeRow → Bool} {b : String}
    (h : ∀ e ∈ db.envelopes, p e = true → e.senderAccountId ≠ b) :
    (db.deleteEnvelopes p).usage.find b = db.usage.find b := by
  have hfold : ∀ (rows : List EnvelopeRow) (usage : Table AccountStorageUsage.accountId),
      (∀ e ∈ rows, e.senderAccountId ≠ b) → (rows.foldl usageRemove usage).find b = usage.find b := by
    intro rows
    induction rows with
    | nil => exact fun _ _ => rfl
    | cons e rows ih =>
      intro usage hrows
      rw [List.foldl_cons, ih _ fun e he => hrows e (List.mem_cons_of_mem _ he), usageRemove, Table.find_update]
      cases hu : usage.find b with
      | none => rfl
      | some u =>
        have hne : u.accountId ≠ e.senderAccountId := by
          rw [Table.key_of_find hu]
          exact (hrows e List.mem_cons_self).symm
        simp [hne]
  exact hfold _ _ fun e he => h e (List.mem_filter.1 he).1 (List.mem_filter.1 he).2

theorem deleteUserRecords_spares (db : Db) (a : String) : db.Spares a (db.deleteUserRecords a) where
  accounts _ h := Table.mem_delete.trans (and_iff_left (decide_eq_false h))
  devices _ h := Table.mem_delete.trans (and_iff_left (decide_eq_false h))
  prekeys _ h := Table.mem_delete.trans (and_iff_left h)
  messages _ h := Table.mem_delete.trans (and_iff_left h)
  envelopes _ h := Table.mem_delete.trans (and_iff_left h)
  updates _ h h' := Table.mem_delete.trans (and_iff_left (Bool.or_eq_false_iff.2 ⟨decide_eq_false h, h'⟩))
  events _ h h' := Table.mem_delete.trans (and_iff_left (Bool.or_eq_false_iff.2 ⟨h, h'⟩))
  usage b hb h := by
    have hfind : (db.deleteUserRecords a).usage.find b =
        ((db.deleteEnvelopes (db.involves a)).usage.delete fun row => row.accountId = a).find b := rfl
    rw [hfind, Table.find_delete, find_deleteEnvelopes_usage h]
    cases hu : db.usage.find b with
    | none => rfl
    | some u =>
      have hne : u.accountId ≠ a := by rwa [Table.key_of_find hu]
      simp [Option.filter_some, hne]
  audit := rfl

end

end Db

end TuiChat
