import TuiChat.Server.Roster
import TuiChat.Server.Threads

/-!
# The message store

`Consistent` says what links the rows of the tables: what `Threaded` says, and that senders and recipients
are devices of their accounts, and prekeys and pairing events of devices. Each operation keeps it.
-/

namespace TuiChat

open Lib

variable {env : ServerEnvironment} {P : Primitives}

/-! ## The directory that rows refer to -/

namespace Roster

def Has (r : Roster) (accountId : String) : Prop := (r.master accountId).isSome

/-- The account of a device. -/
def owner (r : Roster) (deviceId : String) : Option String := (r.device deviceId).map DeviceRow.accountId

/-- Accounts and devices stay. -/
structure Grows (r r' : Roster) : Prop where
  accounts : ∀ a, r.Has a → r'.Has a
  devices : ∀ d a, r.owner d = some a → r'.owner d = some a

theorem Grows.refl (r : Roster) : r.Grows r := ⟨fun _ h => h, fun _ _ h => h⟩

theorem Grows.known {r r' : Roster} (h : r.Grows r') {d : String} (hd : (r.owner d).isSome) :
    (r'.owner d).isSome := by
  obtain ⟨a, ha⟩ := Option.isSome_iff_exists.1 hd
  rw [h.devices d a ha]
  rfl

theorem Linked.has {r : Roster} (h : r.Linked) {d a : String} (hd : r.owner d = some a) : r.Has a := by
  obtain ⟨row, hrow, rfl⟩ := Option.map_eq_some_iff.1 hd
  exact h d row hrow

end Roster

/-- Devices stay where accounts do. -/
theorem RosterStep.grows {had : Db → Prop} {key : Option Bytes} {r r' : Roster}
    (h : RosterStep P had key r r') (linked : r.Linked) (accounts : ∀ a, r.Has a → r'.Has a) : r.Grows r' where
  accounts := accounts
  devices d a hd := by
    obtain ⟨row, hrow, rfl⟩ := Option.map_eq_some_iff.1 hd
    obtain ⟨row', hrow', hsame, -⟩ := h.lasts hrow (accounts _ (linked d row hrow))
    rw [Roster.owner, hrow', ← hsame.accountId]
    rfl

/-! ## Consistency -/

namespace Db

structure Consistent (db : Db) : Prop where
  linked : db.roster.Linked
  prekeys : ∀ row ∈ db.prekeys, (db.roster.owner row.deviceId).isSome
  events : ∀ row ∈ db.pairingEvents,
    (db.roster.owner row.senderDeviceId).isSome ∧ (db.roster.owner row.targetDeviceId).isSome
  messages : ∀ row ∈ db.logicalMessages,
    db.roster.owner row.senderDeviceId = some row.senderAccountId ∧ db.roster.Has row.peerAccountId
  sent : ∀ row ∈ db.logicalMessages, ∃ e ∈ db.envelopes,
    e.envelope.logicalMessageId = row.logicalMessageId
  envelopes : ∀ row ∈ db.envelopes, ∃ m ∈ db.logicalMessages, row.BelongsTo m
  recipients : ∀ row ∈ db.envelopes,
    db.roster.owner row.envelope.recipientDeviceId = some row.envelope.recipientAccountId
  updates : ∀ row ∈ db.deliveryUpdates, ∃ m ∈ db.logicalMessages,
    m.logicalMessageId = row.logicalMessageId ∧ m.senderAccountId = row.accountId
  usage : ∀ row ∈ db.usage, db.roster.Has row.accountId
  cursors : ∀ row ∈ db.envelopes, row.cursor ≤ db.lastCursor
  distinct : ∀ row ∈ db.envelopes, ∀ other ∈ db.envelopes, row.cursor = other.cursor → row = other

theorem Consistent.empty : Db.empty.Consistent where
  linked _ _ h := nomatch h
  prekeys _ h := absurd h (Table.not_mem_empty _)
  events _ h := absurd h (Table.not_mem_empty _)
  messages _ h := absurd h (Table.not_mem_empty _)
  sent _ h := absurd h (Table.not_mem_empty _)
  envelopes _ h := absurd h (Table.not_mem_empty _)
  recipients _ h := absurd h (Table.not_mem_empty _)
  updates _ h := absurd h (Table.not_mem_empty _)
  usage _ h := absurd h (Table.not_mem_empty _)
  cursors _ h := absurd h (Table.not_mem_empty _)
  distinct _ h := absurd h (Table.not_mem_empty _)

variable {db db' : Db}

theorem Consistent.threaded (h : db.Consistent) : db.Threaded where
  senders m hm := roster_master.symm.trans (h.linked.has (h.messages m hm).1)
  sent := h.sent
  envelopes := h.envelopes
  updates := h.updates
  cursors := h.cursors
  distinct := h.distinct

/-- A write beside the messages: accounts and devices stay, and what is new names devices that there are. -/
theorem Consistent.beside (h : db.Consistent) (linked : db'.roster.Linked) (grows : db.roster.Grows db'.roster)
    (prekeys : ∀ row ∈ db'.prekeys, row ∈ db.prekeys ∨ (db.roster.owner row.deviceId).isSome)
    (events : ∀ row ∈ db'.pairingEvents, row ∈ db.pairingEvents ∨
      (db.roster.owner row.senderDeviceId).isSome ∧ (db.roster.owner row.targetDeviceId).isSome)
    (messages : db'.logicalMessages = db.logicalMessages) (envelopes : db'.envelopes = db.envelopes)
    (updates : db'.deliveryUpdates = db.deliveryUpdates) (usage : db'.usage = db.usage)
    (cursor : db'.lastCursor = db.lastCursor) : db'.Consistent where
  linked := linked
  prekeys row hrow := grows.known ((prekeys row hrow).elim (h.prekeys row) id)
  events row hrow :=
    have hnames := (events row hrow).elim (h.events row) id
    ⟨grows.known hnames.1, grows.known hnames.2⟩
  messages row hrow := by
    rw [messages] at hrow
    obtain ⟨howner, hpeer⟩ := h.messages row hrow
    exact ⟨grows.devices _ _ howner, grows.accounts _ hpeer⟩
  sent := by
    rw [messages, envelopes]
    exact h.sent
  envelopes := by
    rw [messages, envelopes]
    exact h.envelopes
  recipients row hrow := by
    rw [envelopes] at hrow
    exact grows.devices _ _ (h.recipients row hrow)
  updates := by
    rw [messages, updates]
    exact h.updates
  usage row hrow := by
    rw [usage] at hrow
    exact grows.accounts _ (h.usage row hrow)
  cursors := by
    rw [envelopes, cursor]
    exact h.cursors
  distinct := by
    rw [envelopes]
    exact h.distinct

/-! ## Batches -/

variable {sha256 : Bytes → Bytes} {sa sd : String} {now : Int} {es : List EncryptedEnvelope}
  {destinations : List (String × Nat)} {limits : StorageLimits} {free : Nat}

theorem owner_eq_some {d a : String} : db.roster.owner d = some a ↔
    ∃ row ∈ db.devices, row.id = d ∧ row.accountId = a := by
  constructor
  · intro h
    obtain ⟨_, hrow, rfl⟩ := Option.map_eq_some_iff.1 h
    obtain ⟨row, hmem, hid, rfl⟩ := roster_device.1 hrow
    exact ⟨row, hmem, hid, rfl⟩
  · rintro ⟨row, hmem, rfl, rfl⟩
    exact Option.map_eq_some_iff.2 ⟨_, roster_device.2 ⟨row, hmem, rfl, rfl⟩, rfl⟩

theorem owner_isSome {d : String} : (db.roster.owner d).isSome = (db.devices.find d).isSome := by
  simp [roster, Roster.owner]

theorem device_owner {a d : String} {row : DeviceRow} (h : db.device a d = some row) :
    db.roster.owner d = some a := by
  obtain ⟨hfind, hown⟩ := Option.filter_eq_some_iff.1 h
  rw [decide_eq_true_eq] at hown
  simp [roster, Roster.owner, hfind, DeviceRow.lasting, hown]

theorem recipientActive_owner {e : EncryptedEnvelope} (h : db.recipientActive e = true) :
    db.roster.owner e.recipientDeviceId = some e.recipientAccountId := by
  unfold recipientActive at h
  rw [Bool.and_eq_true] at h
  cases hrow : db.device e.recipientAccountId e.recipientDeviceId with
  | none =>
    rw [hrow] at h
    cases h.1
  | some row => exact device_owner hrow

theorem Inserts.usageOwner (h : Inserts sa sd now db es destinations db') :
    ∀ row ∈ db'.usage, row.accountId = sa ∨ ∃ old ∈ db.usage, old.accountId = row.accountId := by
  induction h with
  | nil => exact fun row hrow => .inr ⟨row, hrow, rfl⟩
  | known _ _ _ _ ih => exact ih
  | fresh unknown rest ih =>
    intro row hrow
    rcases ih row hrow with hsa | ⟨old, hold, heq⟩
    · exact .inl hsa
    · rcases Table.mem_put.1 hold with rfl | ⟨hold, -⟩
      · exact .inl heq.symm
      · exact .inr ⟨old, hold, heq⟩

/-- The messages with the one of a batch. -/
structure HasMessage (db : Db) (sa sd : String) (header : BatchHeader)
    (messages : Table LogicalMessageRow.logicalMessageId) : Prop where
  kept : ∀ m ∈ db.logicalMessages, m ∈ messages
  others : ∀ m ∈ messages, m ∈ db.logicalMessages ∨ m.logicalMessageId = header.logicalId
  owned : ∀ m ∈ messages, db.roster.owner m.senderDeviceId = some m.senderAccountId ∧
    db.roster.Has m.peerAccountId
  there : ∃ m ∈ messages, m.logicalMessageId = header.logicalId ∧ Heads m sa sd header

theorem Consistent.hasMessage {header : BatchHeader} {db₁ : Db} (h : db.Consistent)
    (own : db.roster.Has sa → db.roster.owner sd = some sa)
    (hok : db.insertLogicalMessage sa sd header now = .ok db₁) :
    ∃ messages, db₁ = { db with logicalMessages := messages } ∧ HasMessage db sa sd header messages := by
  rcases insertLogicalMessage_eq_ok.1 hok with ⟨row, hrow, heads, rfl⟩ | ⟨hnone, hsa, -, hpeer, rfl⟩
  · refine ⟨_, rfl, fun _ h => h, fun _ h => .inl h, h.messages, ?_⟩
    exact ⟨row, Table.mem_of_find hrow, Table.key_of_find hrow, heads⟩
  · refine ⟨_, rfl, fun m hm => Table.mem_insertOrIgnore_of_mem hm, fun m hm => ?_, fun m hm => ?_, ?_⟩
    · rcases Table.mem_insertOrIgnore.1 hm with hm | ⟨rfl, -⟩
      · exact .inl hm
      · exact .inr rfl
    · rcases Table.mem_insertOrIgnore.1 hm with hm | ⟨rfl, -⟩
      · exact h.messages m hm
      · exact ⟨own (roster_master.trans hsa), roster_master.trans hpeer⟩
    · exact ⟨_, Table.mem_insertOrIgnore.2 (.inr ⟨rfl, Table.find_eq_none.1 hnone⟩), rfl, rfl, rfl, rfl, rfl, rfl⟩

/-- A batch that is accepted, from a device of the sender's account. -/
theorem Consistent.stored {r : List (String × Nat) × Db} (h : db.Consistent)
    (own : db.roster.Has sa → db.roster.owner sd = some sa)
    (write : db.storeEnvelopes sha256 sa sd es now limits free = .ok r) : r.2.Consistent := by
  have hthreaded := h.threaded.stored write
  obtain ⟨header, db₁, additional, accepted, hinserts⟩ := storeEnvelopes_eq_ok.1 write
  obtain ⟨messages, rfl, hmessages⟩ := h.hasMessage own accepted.message
  obtain ⟨envelopes, usage, cursor, hdb'⟩ := hinserts.aside
  obtain ⟨message, hmessage, hid, heads⟩ := hmessages.there
  have hsa : db.roster.Has sa := by
    have howner := (hmessages.owned message hmessage).1
    rw [heads.account] at howner
    exact h.linked.has howner
  have husage := hinserts.usageOwner
  have hroster : r.2.roster = db.roster := by rw [hdb']; rfl
  refine
    { linked := hroster ▸ h.linked
      prekeys := ?_, events := ?_, messages := ?_, sent := hthreaded.sent, envelopes := hthreaded.envelopes
      recipients := ?_, updates := hthreaded.updates, usage := ?_, cursors := hthreaded.cursors
      distinct := hthreaded.distinct }
  · rw [hroster, hdb']
    exact h.prekeys
  · rw [hroster, hdb']
    exact h.events
  · rw [hroster, hdb']
    exact hmessages.owned
  · intro row hrow
    rw [hroster]
    rcases hinserts.mem hrow with hrow | ⟨e, he, cursor, rfl, -⟩
    · exact h.recipients row hrow
    · have hactive : recipientActive { db with logicalMessages := messages } e = true := (List.mem_filter.1 he).2
      exact recipientActive_owner hactive
  · intro row hrow
    rw [hroster]
    rcases husage row hrow with heq | ⟨old, hmem, heq⟩
    · rw [heq]
      exact hsa
    · rw [← heq]
      exact h.usage old hmem

/-! ## Acknowledgements -/

theorem Consistent.dated (h : db.Consistent) (hd : db.Dated db') (roster : db'.roster = db.roster)
    (prekeys : db'.prekeys = db.prekeys) (events : db'.pairingEvents = db.pairingEvents)
    (usage : db'.usage = db.usage) : db'.Consistent where
  linked := roster ▸ h.linked
  prekeys := by
    rw [roster, prekeys]
    exact h.prekeys
  events := by
    rw [roster, events]
    exact h.events
  messages m hm := by
    obtain ⟨old, hold, heq⟩ := hd.messages m hm
    obtain ⟨-, haccount, hdevice, hpeer, -⟩ := LogicalMessageRow.mk.inj heq
    rw [roster, haccount, hdevice, hpeer]
    exact h.messages old hold
  sent := (h.threaded.dated hd).sent
  envelopes := (h.threaded.dated hd).envelopes
  recipients e he := by
    obtain ⟨old, hold, heq⟩ := hd.envelopes e he
    obtain ⟨-, henvelope, -⟩ := EnvelopeRow.mk.inj heq
    rw [roster, henvelope]
    exact h.recipients old hold
  updates := (h.threaded.dated hd).updates
  usage := by
    rw [roster, usage]
    exact h.usage
  cursors := (h.threaded.dated hd).cursors
  distinct := (h.threaded.dated hd).distinct

theorem Consistent.acked (h : db.Consistent) (deviceId envelopeId : String) (now : Int) :
    (db.ack deviceId envelopeId now).2.Consistent := by
  refine h.dated (h.threaded.acked deviceId envelopeId now) ?_ ?_ ?_ (ack_usage _ _ _ _)
  all_goals
    unfold ack
    split <;> rfl

/-! ## Deletions -/

/-- A deletion of messages, with all their envelopes and their updates. -/
theorem Consistent.swept (h : db.Consistent) (hs : db.Swept db') (roster : db'.roster = db.roster)
    (prekeys : ∀ row ∈ db'.prekeys, row ∈ db.prekeys) (events : db'.pairingEvents = db.pairingEvents)
    (usage : ∀ row ∈ db'.usage, ∃ old ∈ db.usage, old.accountId = row.accountId) : db'.Consistent where
  linked := roster ▸ h.linked
  prekeys row hrow := roster ▸ h.prekeys row (prekeys row hrow)
  events := by
    rw [roster, events]
    exact h.events
  messages m hm := roster ▸ h.messages m (hs.messages m hm).1
  sent := (h.threaded.swept hs).sent
  envelopes := (h.threaded.swept hs).envelopes
  recipients e he := roster ▸ h.recipients e (hs.envelopes e he).1
  updates := (h.threaded.swept hs).updates
  usage row hrow := by
    obtain ⟨old, hold, heq⟩ := usage row hrow
    rw [roster, ← heq]
    exact h.usage old hold
  cursors := (h.threaded.swept hs).cursors
  distinct := (h.threaded.swept hs).distinct

theorem deleteEnvelopes_usage {p : EnvelopeRow → Bool} : ∀ row ∈ (db.deleteEnvelopes p).usage,
    ∃ old ∈ db.usage, old.accountId = row.accountId := by
  have hfold : ∀ (rows : List EnvelopeRow) (usage : Table AccountStorageUsage.accountId),
      ∀ row ∈ rows.foldl usageRemove usage, ∃ old ∈ usage, old.accountId = row.accountId := by
    intro rows
    induction rows with
    | nil => exact fun usage row hrow => ⟨row, hrow, rfl⟩
    | cons e rows ih =>
      intro usage row hrow
      obtain ⟨u, hu, heq⟩ := ih _ row hrow
      obtain ⟨old, hold, rfl⟩ := (Table.mem_update _).1 hu
      refine ⟨old, hold, Eq.trans ?_ heq⟩
      split <;> rfl
  exact hfold _ _

/-- Envelopes are deleted, and then what has none. -/
theorem Consistent.deleteOrphans (h : db.Consistent) (p : EnvelopeRow → Bool) :
    (db.deleteEnvelopes p).deleteOrphans.Consistent :=
  h.swept (deleteOrphans_swept p) rfl (fun _ h => h) rfl deleteEnvelopes_usage

theorem Consistent.cleanedDevice (h : db.Consistent) (deviceId : String) :
    (db.cleanupRevokedDevice deviceId).Consistent :=
  h.swept (cleanupRevokedDevice_swept deviceId) rfl (fun _ hrow => (Table.mem_delete.1 hrow).1) rfl
    deleteEnvelopes_usage

/-- A message is pruned with all its envelopes. -/
theorem Consistent.pruned (h : db.Consistent) (conversation : String) (cutoff : Int) (deliveredOnly : Bool) :
    (db.pruneConversation conversation cutoff deliveredOnly).Consistent :=
  h.swept (h.threaded.pruned conversation cutoff deliveredOnly) rfl (fun _ h => h) rfl deleteEnvelopes_usage

end Db

end TuiChat
