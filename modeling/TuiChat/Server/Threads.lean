import TuiChat.Server.Runs
import TuiChat.Server.Envelopes
import TuiChat.Server.Tables
import Mathlib.Data.List.Dedup

/-!
# Messages, envelopes and delivery updates

What a write does to the three tables is said once (`MessageStep`). In every run a message has the account
that sent it and an envelope, an envelope and an update have their message, and cursors are different
(`Threaded`, `Numbered`): insertions keep it by what they check, deletions because they take the rows that
name what they delete.
-/

namespace TuiChat

open Lib

variable {env : ServerEnvironment} {P : Primitives}

/-- The envelope is one of the message, from its sender and to an account that it concerns. -/
structure EnvelopeRow.BelongsTo (row : EnvelopeRow) (m : LogicalMessageRow) : Prop where
  id : m.logicalMessageId = row.envelope.logicalMessageId
  account : m.senderAccountId = row.senderAccountId
  device : m.senderDeviceId = row.senderDeviceId
  recipient : row.envelope.recipientAccountId = m.senderAccountId ∨
    row.envelope.recipientAccountId = m.peerAccountId

/-- The row less the time of its delivery. -/
def EnvelopeRow.undated (row : EnvelopeRow) : EnvelopeRow := { row with deliveredAtMs := none }

def LogicalMessageRow.undated (row : LogicalMessageRow) : LogicalMessageRow :=
  { row with deliveredAtMs := none }

theorem EnvelopeRow.BelongsTo.undated {e e' : EnvelopeRow} {m m' : LogicalMessageRow} (h : e.BelongsTo m)
    (he : e'.undated = e.undated) (hm : m'.undated = m.undated) : e'.BelongsTo m' := by
  obtain ⟨cursor, envelope, account, device, accepted, delivered⟩ := e'
  obtain ⟨id, senderAccount, senderDevice, peer, conversation, sent, acceptedAt, deliveredAt⟩ := m'
  cases he
  cases hm
  exact ⟨h.id, h.account, h.device, h.recipient⟩

namespace Db

/-! ## Steps -/

/-- A write beside the messages; accounts stay. -/
structure Beside (db db' : Db) : Prop where
  accounts : ∀ a, (db.accounts.find a).isSome → (db'.accounts.find a).isSome
  messages : db'.logicalMessages = db.logicalMessages
  envelopes : db'.envelopes = db.envelopes
  updates : db'.deliveryUpdates = db.deliveryUpdates
  usage : db'.usage = db.usage
  lastCursor : db'.lastCursor = db.lastCursor
  lastUpdate : db'.lastUpdate = db.lastUpdate

/-- What a write does to the messages, with whom a batch may be from. -/
inductive MessageStep (sha256 : Bytes → Bytes) (limits : StorageLimits)
    (sends : String → String → List EncryptedEnvelope → Prop) (db : Db) : Db → Prop
  | beside {db' : Db} (beside : db.Beside db') : MessageStep sha256 limits sends db db'
  | stored {r : List (String × Nat) × Db} (senderAccount senderDevice : String)
      (envelopes : List EncryptedEnvelope) (now : Int) (free : Nat)
      (sent : sends senderAccount senderDevice envelopes)
      (write : db.storeEnvelopes sha256 senderAccount senderDevice envelopes now limits free = .ok r) :
    MessageStep sha256 limits sends db r.2
  | acked (deviceId envelopeId : String) (now : Int) :
    MessageStep sha256 limits sends db (db.ack deviceId envelopeId now).2
  | cleanedDevice (deviceId : String) : MessageStep sha256 limits sends db (db.cleanupRevokedDevice deviceId)
  | cleanedDelivered (before : Int) (limit : Nat) :
    MessageStep sha256 limits sends db (db.cleanupDeliveredEnvelopes before limit)
  | pruned (conversation : String) (cutoff : Int) (deliveredOnly : Bool) :
    MessageStep sha256 limits sends db (db.pruneConversation conversation cutoff deliveredOnly)
  | deleted (accountId : String) : MessageStep sha256 limits sends db (db.deleteUserRecords accountId)

variable {db db' : Db}

theorem accounts_update (p : AccountRow → Bool) (f : AccountRow → AccountRow) (hf : ∀ row, (f row).id = row.id)
    (a : String) : ((db.accounts.update p f hf).find a).isSome = (db.accounts.find a).isSome := by
  rw [Table.find_update hf, Option.isSome_map]

theorem accounts_insert (row : AccountRow) (a : String) (h : (db.accounts.find a).isSome) :
    ((db.accounts.insertOrIgnore row).find a).isSome := by
  obtain ⟨old, hold⟩ := Option.isSome_iff_exists.1 h
  have hmem : old ∈ db.accounts.insertOrIgnore row := Table.mem_insertOrIgnore_of_mem (Table.mem_of_find hold)
  rw [← Table.key_of_find hold, Table.find_of_mem hmem]
  rfl

end Db

/-- The batch that a connection with an active session is asked to store. -/
inductive Connection.Sending (c : Connection) : String → String → List EncryptedEnvelope → Prop
  | mk (s : Session) (m : SendEnvelopes) (session : c.session = some s) (active : s.pending = false)
      (handling : c.handling = some (.sendEnvelopes m)) : Sending c s.account.id s.deviceId m.envelopes

open Db in
theorem Writes.messages {had : Db → Prop} {c : Connection} {db db' : Db} (h : Writes env P had c db db') :
    MessageStep P.sha256 env.storageLimits c.Sending db db' := by
  have haside : ∀ {db' : Db}, (∀ a, (db.accounts.find a).isSome → (db'.accounts.find a).isSome) →
      db'.logicalMessages = db.logicalMessages → db'.envelopes = db.envelopes →
      db'.deliveryUpdates = db.deliveryUpdates → db'.usage = db.usage → db'.lastCursor = db.lastCursor →
      db'.lastUpdate = db.lastUpdate → MessageStep P.sha256 env.storageLimits c.Sending db db' :=
    fun accounts messages envelopes updates usage lastCursor lastUpdate =>
      .beside ⟨accounts, messages, envelopes, updates, usage, lastCursor, lastUpdate⟩
  have hupdated : ∀ {p : AccountRow → Bool} {f : AccountRow → AccountRow} (hf : ∀ row, (f row).id = row.id)
      (a : String), (db.accounts.find a).isSome → ((db.accounts.update p f hf).find a).isSome := by
    intro p f hf a h
    rw [accounts_update]
    exact h
  cases h with
  | stored s m now free session active write handling =>
    exact .stored _ _ _ _ _ (.mk s m session active handling) write
  | acked s id m now session active received => exact .acked _ _ _
  | cleanedDevice deviceId => exact .cleanedDevice _
  | cleanedDelivered before limit => exact .cleanedDelivered _ _
  | deleted accountId => exact .deleted _
  | pruned conversation cutoff deliveredOnly => exact .pruned _ _ _
  | authenticated | revoked | audited | pairingAcked | cleanedPairing =>
    exact haside (fun _ h => h) rfl rfl rfl rfl rfl rfl
  | password | userState | passwordReset => exact haside (hupdated (by intro; rfl)) rfl rfl rfl rfl rfl rfl
  | claimed s m session pending certificate write =>
    obtain ⟨-, rfl⟩ := bootstrapMaster_eq_ok.1 write
    exact haside (hupdated (by intro; rfl)) rfl rfl rfl rfl rfl rfl
  | inserted s m pendingRow now session pending device certificate key write =>
    obtain ⟨-, -, rfl⟩ := insertDevice_eq_ok.1 write
    exact haside (fun _ h => h) rfl rfl rfl rfl rfl rfl
  | prekeys s keys now session write =>
    obtain ⟨-, rfl⟩ := publishPreKeys_eq_ok.1 write
    exact haside (fun _ h => h) rfl rfl rfl rfl rfl rfl
  | prekeyClaimed accountId deviceId =>
    obtain ⟨p, hp⟩ := claimPreKey_snd db accountId deviceId
    rw [hp]
    exact haside (fun _ h => h) rfl rfl rfl rfl rfl rfl
  | pairing s e expiresAtMs session size type write =>
    obtain ⟨-, -, rfl⟩ := insertPairingEvent_eq_ok.1 write
    exact haside (fun _ h => h) rfl rfl rfl rfl rfl rfl
  | activated s id m bundle master session active received device pairing key certificate submitted write =>
    obtain ⟨-, -, rfl⟩ := activateDevice_eq_ok.1 write
    exact haside (hupdated (by intro; rfl)) rfl rfl rfl rfl rfl rfl
  | revokedOwn s deviceId session active other =>
    rw [markRevoked_snd]
    exact haside (fun _ h => h) rfl rfl rfl rfl rfl rfl
  | added id username phc write =>
    obtain ⟨-, -, rfl⟩ := addAccount_eq_ok.1 write
    exact haside (accounts_insert _) rfl rfl rfl rfl rfl rfl
  | devicesReset username write =>
    obtain ⟨_, -, rfl⟩ := resetDevices_eq_ok.1 write
    exact haside (hupdated (by intro; rfl)) rfl rfl rfl rfl rfl rfl

namespace Db

variable {db db' : Db}

/-! ## What holds of the tables -/

structure Threaded (db : Db) : Prop where
  senders : ∀ m ∈ db.logicalMessages, (db.accounts.find m.senderAccountId).isSome
  sent : ∀ m ∈ db.logicalMessages, ∃ e ∈ db.envelopes, e.envelope.logicalMessageId = m.logicalMessageId
  envelopes : ∀ row ∈ db.envelopes, ∃ m ∈ db.logicalMessages, row.BelongsTo m
  updates : ∀ row ∈ db.deliveryUpdates, ∃ m ∈ db.logicalMessages,
    m.logicalMessageId = row.logicalMessageId ∧ m.senderAccountId = row.accountId
  cursors : ∀ row ∈ db.envelopes, row.cursor ≤ db.lastCursor
  distinct : ∀ row ∈ db.envelopes, ∀ other ∈ db.envelopes, row.cursor = other.cursor → row = other

/-- Updates are numbered apart, as their primary key asks. -/
structure Numbered (db : Db) : Prop where
  cursors : ∀ row ∈ db.deliveryUpdates, row.cursor ≤ db.lastUpdate
  distinct : ∀ row ∈ db.deliveryUpdates, ∀ other ∈ db.deliveryUpdates, row.cursor = other.cursor → row = other

theorem Threaded.empty : Db.empty.Threaded where
  senders _ h := absurd h (Table.not_mem_empty _)
  sent _ h := absurd h (Table.not_mem_empty _)
  envelopes _ h := absurd h (Table.not_mem_empty _)
  updates _ h := absurd h (Table.not_mem_empty _)
  cursors _ h := absurd h (Table.not_mem_empty _)
  distinct _ h := absurd h (Table.not_mem_empty _)

theorem Numbered.empty : Db.empty.Numbered where
  cursors _ h := absurd h (Table.not_mem_empty _)
  distinct _ h := absurd h (Table.not_mem_empty _)

theorem Threaded.beside (h : db.Threaded) (hb : db.Beside db') : db'.Threaded where
  senders m hm := hb.accounts _ (h.senders m (hb.messages ▸ hm))
  sent := by
    rw [hb.messages, hb.envelopes]
    exact h.sent
  envelopes := by
    rw [hb.messages, hb.envelopes]
    exact h.envelopes
  updates := by
    rw [hb.messages, hb.updates]
    exact h.updates
  cursors := by
    rw [hb.envelopes, hb.lastCursor]
    exact h.cursors
  distinct := by
    rw [hb.envelopes]
    exact h.distinct

/-- Updates go, or stay. -/
theorem Numbered.shrinks (h : db.Numbered) (updates : ∀ u ∈ db'.deliveryUpdates, u ∈ db.deliveryUpdates)
    (lastUpdate : db'.lastUpdate = db.lastUpdate) : db'.Numbered where
  cursors u hu := by
    rw [lastUpdate]
    exact h.cursors u (updates u hu)
  distinct u hu u' hu' := h.distinct u (updates u hu) u' (updates u' hu')

/-! ## Batches -/

variable {sha256 : Bytes → Bytes} {sa sd : String} {now : Int} {es : List EncryptedEnvelope}
  {destinations : List (String × Nat)} {limits : StorageLimits} {free : Nat}
  {sends : String → String → List EncryptedEnvelope → Prop}

/-- The envelopes of a batch are of its message, to the sender's account or to the peer. -/
theorem checkBatch_recipient {h : BatchHeader} (hok : checkBatch sha256 sa es = .ok h) {e : EncryptedEnvelope}
    (he : e ∈ es) : e.logicalMessageId = h.logicalId ∧
      (e.recipientAccountId = sa ∨ e.recipientAccountId = h.peer) := by
  cases es with
  | nil => cases he
  | cons first rest =>
    unfold checkBatch at hok
    dsimp only at hok
    split at hok
    · cases hok
    split at hok
    · cases hok
    next hmessage =>
    split at hok
    · cases hok
    next hpeers =>
    split at hok
    · cases hok
    cases hok
    rw [not_or, Bool.not_eq_true, List.any_eq_false] at hmessage
    refine ⟨by simpa using hmessage.2 e he, ?_⟩
    dsimp only
    by_cases hsa : e.recipientAccountId = sa
    · exact .inl hsa
    -- The only peer of the batch is this envelope's account.
    right
    have hmem : e.recipientAccountId ∈ (((first :: rest).map EncryptedEnvelope.recipientAccountId).filter
        fun account => account ≠ sa).dedup :=
      List.mem_dedup.2 (List.mem_filter.2 ⟨List.mem_map_of_mem he, decide_eq_true hsa⟩)
    generalize (((first :: rest).map EncryptedEnvelope.recipientAccountId).filter
      fun account => account ≠ sa).dedup = peers at hmem hpeers ⊢
    cases peers with
    | nil => cases hmem
    | cons peer others =>
      have hnil : others = [] := by
        rw [← List.length_eq_zero_iff]
        simp only [List.length_cons] at hpeers
        omega
      subst hnil
      exact List.mem_singleton.1 hmem

/-- Cursors stay different, and below the last one. -/
theorem Inserts.cursors (h : Inserts sa sd now db es destinations db')
    (hle : ∀ row ∈ db.envelopes, row.cursor ≤ db.lastCursor)
    (hdistinct : ∀ row ∈ db.envelopes, ∀ other ∈ db.envelopes, row.cursor = other.cursor → row = other) :
    (∀ row ∈ db'.envelopes, row.cursor ≤ db'.lastCursor) ∧
      ∀ row ∈ db'.envelopes, ∀ other ∈ db'.envelopes, row.cursor = other.cursor → row = other := by
  induction h with
  | nil => exact ⟨hle, hdistinct⟩
  | known _ _ _ _ ih => exact ih hle hdistinct
  | @fresh db db' e es stored unknown rest ih =>
    have hcases : ∀ row ∈ (db.withEnvelope sa sd e now).envelopes, row ∈ db.envelopes ∨
        row = .fresh (db.lastCursor + 1) sa sd e now := fun row hrow =>
      (Table.mem_insertOrIgnore.1 hrow).imp_right And.left
    refine ih (fun row hrow => ?_) fun row hrow other hother heq => ?_
    · rcases hcases row hrow with hrow | rfl
      · exact Nat.le_succ_of_le (hle row hrow)
      · exact Nat.le_refl _
    · rcases hcases row hrow with hrow | rfl <;> rcases hcases other hother with hother | rfl
      · exact hdistinct row hrow other hother heq
      · have hbelow := hle row hrow
        rw [heq] at hbelow
        exact absurd hbelow (Nat.not_succ_le_self _)
      · have hbelow := hle other hother
        rw [← heq] at hbelow
        exact absurd hbelow (Nat.not_succ_le_self _)
      · rfl

/-- A row that is added has a cursor above the last one. -/
theorem Inserts.above (h : Inserts sa sd now db es destinations db') :
    db.lastCursor ≤ db'.lastCursor ∧ ∀ row ∈ db'.envelopes, row ∈ db.envelopes ∨ db.lastCursor < row.cursor := by
  induction h with
  | nil => exact ⟨Nat.le_refl _, fun _ hrow => .inl hrow⟩
  | known _ _ _ _ ih => exact ih
  | @fresh db db' e es stored unknown rest ih =>
    obtain ⟨hle, hrows⟩ := ih
    have hnext : (db.withEnvelope sa sd e now).lastCursor = db.lastCursor + 1 := rfl
    refine ⟨by omega, fun row hrow => ?_⟩
    rcases hrows row hrow with hrow | hlater
    · rcases Table.mem_insertOrIgnore.1 hrow with hrow | ⟨rfl, -⟩
      · exact .inl hrow
      · exact .inr (Nat.lt_succ_self _)
    · exact .inr (by omega)

/-- The rows of messages with that of a batch. -/
theorem insertLogicalMessage_rows {header : BatchHeader} {db₁ : Db}
    (hok : db.insertLogicalMessage sa sd header now = .ok db₁) :
    (∀ m ∈ db.logicalMessages, m ∈ db₁.logicalMessages) ∧
      (∀ m ∈ db₁.logicalMessages, m ∈ db.logicalMessages ∨
        m.logicalMessageId = header.logicalId ∧ (db.accounts.find m.senderAccountId).isSome) ∧
      (∃ m ∈ db₁.logicalMessages, m.logicalMessageId = header.logicalId ∧ Heads m sa sd header) ∧
      ∃ messages, db₁ = { db with logicalMessages := messages } := by
  rcases insertLogicalMessage_eq_ok.1 hok with ⟨row, hrow, heads, rfl⟩ | ⟨hnone, hsa, -, -, rfl⟩
  · exact ⟨fun _ h => h, fun _ h => .inl h, ⟨row, Table.mem_of_find hrow, Table.key_of_find hrow, heads⟩, _, rfl⟩
  · refine ⟨fun m hm => Table.mem_insertOrIgnore_of_mem hm, fun m hm => ?_, ?_, _, rfl⟩
    · rcases Table.mem_insertOrIgnore.1 hm with hm | ⟨rfl, -⟩
      · exact .inl hm
      · exact .inr ⟨rfl, hsa⟩
    · exact ⟨_, Table.mem_insertOrIgnore.2 (.inr ⟨rfl, Table.find_eq_none.1 hnone⟩), rfl, rfl, rfl, rfl, rfl, rfl⟩

theorem Threaded.stored {r : List (String × Nat) × Db} (h : db.Threaded)
    (write : db.storeEnvelopes sha256 sa sd es now limits free = .ok r) : r.2.Threaded := by
  obtain ⟨header, db₁, additional, accepted, hinserts⟩ := storeEnvelopes_eq_ok.1 write
  obtain ⟨hkept, hcases, ⟨message, hmessage, hid, heads⟩, messages, rfl⟩ := insertLogicalMessage_rows accepted.message
  obtain ⟨envelopes, usage, cursor, hdb'⟩ := hinserts.aside
  have hcursors := hinserts.cursors h.cursors h.distinct
  have hold : ∀ row ∈ db.envelopes, row ∈ r.2.envelopes := fun row hrow =>
    Table.mem_of_find (hinserts.find (Table.find_of_mem hrow))
  have hmessages : r.2.logicalMessages = messages := by rw [hdb']
  have haccounts : r.2.accounts = db.accounts := by rw [hdb']
  have hupdates : r.2.deliveryUpdates = db.deliveryUpdates := by rw [hdb']
  refine
    { senders := fun m hm => ?_, sent := fun m hm => ?_, envelopes := fun row hrow => ?_
      updates := fun u hu => ?_, cursors := hcursors.1, distinct := hcursors.2 }
  · rw [hmessages] at hm
    rw [haccounts]
    rcases hcases m hm with hm | ⟨-, hsome⟩
    · exact h.senders m hm
    · exact hsome
  · rw [hmessages] at hm
    rcases hcases m hm with hm | ⟨hm, -⟩
    · obtain ⟨e, he, heq⟩ := h.sent m hm
      exact ⟨e, hold e he, heq⟩
    · -- The new message has an envelope: some device of the batch is active.
      obtain ⟨e, he⟩ := List.exists_mem_of_ne_nil _ accepted.available
      obtain ⟨row, hrow, carries⟩ := hinserts.found e he
      refine ⟨row, Table.mem_of_find hrow, ?_⟩
      rw [carries.envelope, hm]
      exact (checkBatch_recipient accepted.header (List.mem_filter.1 he).1).1
  · rw [hmessages]
    rcases hinserts.mem hrow with hrow | ⟨e, he, cursor, rfl, -⟩
    · obtain ⟨m, hm, hbelongs⟩ := h.envelopes row hrow
      exact ⟨m, hkept m hm, hbelongs⟩
    · obtain ⟨hlogical, hrecipient⟩ := checkBatch_recipient accepted.header (List.mem_filter.1 he).1
      refine ⟨message, hmessage, hid.trans hlogical.symm, heads.account, heads.device, ?_⟩
      rw [heads.account, heads.peer]
      exact hrecipient
  · rw [hupdates] at hu
    rw [hmessages]
    obtain ⟨m, hm, hu⟩ := h.updates u hu
    exact ⟨m, hkept m hm, hu⟩

/-! ## Acknowledgements -/

/-- Rows are as they were but for the times of delivery, and a message may get its update. -/
structure Dated (db db' : Db) : Prop where
  accounts : db'.accounts = db.accounts
  messages : ∀ m ∈ db'.logicalMessages, ∃ old ∈ db.logicalMessages, m.undated = old.undated
  messages' : ∀ old ∈ db.logicalMessages, ∃ m ∈ db'.logicalMessages, m.undated = old.undated
  envelopes : ∀ e ∈ db'.envelopes, ∃ old ∈ db.envelopes, e.undated = old.undated
  envelopes' : ∀ old ∈ db.envelopes, ∃ e ∈ db'.envelopes, e.undated = old.undated
  updates : ∀ u ∈ db'.deliveryUpdates, u ∈ db.deliveryUpdates ∨ ∃ m ∈ db.logicalMessages,
    m.logicalMessageId = u.logicalMessageId ∧ m.senderAccountId = u.accountId
  lastCursor : db'.lastCursor = db.lastCursor

theorem Threaded.acked (h : db.Threaded) (deviceId envelopeId : String) (now : Int) :
    db.Dated (db.ack deviceId envelopeId now).2 := by
  unfold ack
  split
  · exact ⟨rfl, fun m hm => ⟨m, hm, rfl⟩, fun m hm => ⟨m, hm, rfl⟩, fun e he => ⟨e, he, rfl⟩,
      fun e he => ⟨e, he, rfl⟩, fun _ hu => .inl hu, rfl⟩
  next row hrow =>
  obtain ⟨hfind, -⟩ := Option.filter_eq_some_iff.1 hrow
  obtain ⟨message, hmessage, hbelongs⟩ := h.envelopes row (Table.mem_of_find hfind)
  refine ⟨rfl, fun m hm => ?_, fun old hold => ?_, fun e he => ?_, fun old hold => ?_, fun u hu => ?_, rfl⟩
  · dsimp only at hm
    obtain ⟨old, hold, rfl⟩ := (Table.mem_update _).1 hm
    exact ⟨old, hold, by split <;> rfl⟩
  · dsimp only
    exact ⟨_, Table.mem_update_of_mem _ hold, by split <;> rfl⟩
  · dsimp only at he
    obtain ⟨old, hold, rfl⟩ := (Table.mem_update _).1 he
    exact ⟨old, hold, by split <;> rfl⟩
  · dsimp only
    exact ⟨_, Table.mem_update_of_mem _ hold, by split <;> rfl⟩
  · rcases Table.mem_insertOrIgnore.1 hu with hu | ⟨rfl, -⟩
    · exact .inl hu
    · exact .inr ⟨message, hmessage, hbelongs.id, hbelongs.account⟩

theorem Threaded.dated (h : db.Threaded) (hd : db.Dated db') : db'.Threaded where
  senders m hm := by
    obtain ⟨old, hold, heq⟩ := hd.messages m hm
    obtain ⟨-, haccount, -⟩ := LogicalMessageRow.mk.inj heq
    rw [hd.accounts, haccount]
    exact h.senders old hold
  sent m hm := by
    obtain ⟨old, hold, heq⟩ := hd.messages m hm
    obtain ⟨e, he, hlogical⟩ := h.sent old hold
    obtain ⟨e', he', heq'⟩ := hd.envelopes' e he
    obtain ⟨-, henvelope, -⟩ := EnvelopeRow.mk.inj heq'
    obtain ⟨hid, -⟩ := LogicalMessageRow.mk.inj heq
    exact ⟨e', he', by rw [henvelope, hlogical, hid]⟩
  envelopes e he := by
    obtain ⟨old, hold, heq⟩ := hd.envelopes e he
    obtain ⟨m, hm, hbelongs⟩ := h.envelopes old hold
    obtain ⟨m', hm', heq'⟩ := hd.messages' m hm
    exact ⟨m', hm', hbelongs.undated heq heq'⟩
  updates u hu := by
    have hnames : ∃ m ∈ db.logicalMessages, m.logicalMessageId = u.logicalMessageId ∧
        m.senderAccountId = u.accountId := (hd.updates u hu).elim (h.updates u) id
    obtain ⟨m, hm, hid, haccount⟩ := hnames
    obtain ⟨m', hm', heq⟩ := hd.messages' m hm
    obtain ⟨hid', haccount', -⟩ := LogicalMessageRow.mk.inj heq
    exact ⟨m', hm', hid'.trans hid, haccount'.trans haccount⟩
  cursors e he := by
    obtain ⟨old, hold, heq⟩ := hd.envelopes e he
    obtain ⟨hcursor, -⟩ := EnvelopeRow.mk.inj heq
    rw [hd.lastCursor, hcursor]
    exact h.cursors old hold
  distinct e he e' he' hcursor := by
    obtain ⟨old, hold, heq⟩ := hd.envelopes e he
    obtain ⟨old', hold', heq'⟩ := hd.envelopes e' he'
    obtain ⟨hc, henvelope, -⟩ := EnvelopeRow.mk.inj heq
    obtain ⟨hc', henvelope', -⟩ := EnvelopeRow.mk.inj heq'
    obtain rfl : old = old' := h.distinct old hold old' hold' ((hc.symm.trans hcursor).trans hc')
    exact Table.eq_of_mem he he' (by rw [EnvelopeRow.envelopeId, henvelope, EnvelopeRow.envelopeId, henvelope'])

/-- An update is inserted for a message that has none. -/
theorem ack_updates (db : Db) (deviceId envelopeId : String) (now : Int) :
    ((db.ack deviceId envelopeId now).2.deliveryUpdates = db.deliveryUpdates ∧
        (db.ack deviceId envelopeId now).2.lastUpdate = db.lastUpdate) ∨
      ∃ row ∈ db.envelopes, row.envelopeId = envelopeId ∧ row.envelope.recipientDeviceId = deviceId ∧
        ∃ u : DeliveryUpdateRow, u.about = (row.senderAccountId, row.envelope.logicalMessageId) ∧
          db.deliveryUpdates.find u.about = none ∧ u.cursor = db.lastUpdate + 1 ∧
          (db.ack deviceId envelopeId now).2.deliveryUpdates = db.deliveryUpdates.insertOrIgnore u ∧
          (db.ack deviceId envelopeId now).2.lastUpdate = db.lastUpdate + 1 := by
  unfold ack
  split
  · exact .inl ⟨rfl, rfl⟩
  next row hrow =>
  obtain ⟨hfound, hdevice⟩ := Option.filter_eq_some_iff.1 hrow
  let u : DeliveryUpdateRow :=
    { cursor := db.lastUpdate + 1
      accountId := row.senderAccountId
      logicalMessageId := row.envelope.logicalMessageId
      deliveredAtMs := now }
  cases hfind : db.deliveryUpdates.find u.about with
  | some old =>
    have hkept : db.deliveryUpdates.insertOrIgnore u = db.deliveryUpdates := Table.insertOrIgnore_of_find hfind
    have hnew : (db.deliveryUpdates.find (row.senderAccountId, row.envelope.logicalMessageId)).isNone = false := by
      rw [show (row.senderAccountId, row.envelope.logicalMessageId) = u.about from rfl, hfind]
      rfl
    exact .inl ⟨hkept, by simp [hnew]⟩
  | none =>
    have hnew : (db.deliveryUpdates.find (row.senderAccountId, row.envelope.logicalMessageId)).isNone = true := by
      rw [show (row.senderAccountId, row.envelope.logicalMessageId) = u.about from rfl, hfind]
      rfl
    exact .inr ⟨row, Table.mem_of_find hfound, Table.key_of_find hfound, of_decide_eq_true hdevice, u, rfl, hfind,
      rfl, rfl, by simp [hnew]⟩

theorem Numbered.acked (h : db.Numbered) (deviceId envelopeId : String) (now : Int) :
    (db.ack deviceId envelopeId now).2.Numbered := by
  rcases db.ack_updates deviceId envelopeId now with
    ⟨hupdates, hlast⟩ | ⟨-, -, -, -, new, -, -, hcursor, hupdates, hlast⟩
  · exact h.shrinks (fun u hu => hupdates ▸ hu) hlast
  · have hcases : ∀ u ∈ (db.ack deviceId envelopeId now).2.deliveryUpdates, u ∈ db.deliveryUpdates ∨ u = new := by
      intro u hu
      rw [hupdates] at hu
      exact (Table.mem_insertOrIgnore.1 hu).imp_right And.left
    refine ⟨fun u hu => ?_, fun u hu u' hu' heq => ?_⟩
    · rw [hlast]
      rcases hcases u hu with hu | rfl
      · exact Nat.le_succ_of_le (h.cursors u hu)
      · exact hcursor.le
    · rcases hcases u hu with hu | rfl <;> rcases hcases u' hu' with hu' | rfl
      · exact h.distinct u hu u' hu' heq
      · have hbelow := h.cursors u hu
        omega
      · have hbelow := h.cursors u' hu'
        omega
      · rfl

/-! ## Deletions -/

/-- A deletion takes messages with all their envelopes and their updates, and no account of one that is
left. -/
structure Swept (db db' : Db) : Prop where
  accounts : ∀ m ∈ db'.logicalMessages, (db.accounts.find m.senderAccountId).isSome →
    (db'.accounts.find m.senderAccountId).isSome
  messages : ∀ m ∈ db'.logicalMessages, m ∈ db.logicalMessages ∧
    ∃ e ∈ db'.envelopes, e.envelope.logicalMessageId = m.logicalMessageId
  envelopes : ∀ e ∈ db'.envelopes, e ∈ db.envelopes ∧ ∀ m ∈ db.logicalMessages, e.BelongsTo m →
    m ∈ db'.logicalMessages
  updates : ∀ u ∈ db'.deliveryUpdates, u ∈ db.deliveryUpdates ∧ ∀ m ∈ db.logicalMessages,
    m.logicalMessageId = u.logicalMessageId → m ∈ db'.logicalMessages
  lastCursor : db'.lastCursor = db.lastCursor
  lastUpdate : db'.lastUpdate = db.lastUpdate

theorem Threaded.swept (h : db.Threaded) (hs : db.Swept db') : db'.Threaded where
  senders m hm := hs.accounts m hm (h.senders m (hs.messages m hm).1)
  sent m hm := (hs.messages m hm).2
  envelopes e he := by
    obtain ⟨m, hm, hbelongs⟩ := h.envelopes e (hs.envelopes e he).1
    exact ⟨m, (hs.envelopes e he).2 m hm hbelongs, hbelongs⟩
  updates u hu := by
    obtain ⟨m, hm, hid, haccount⟩ := h.updates u (hs.updates u hu).1
    exact ⟨m, (hs.updates u hu).2 m hm hid, hid, haccount⟩
  cursors e he := by
    rw [hs.lastCursor]
    exact h.cursors e (hs.envelopes e he).1
  distinct e he e' he' := h.distinct e (hs.envelopes e he).1 e' (hs.envelopes e' he').1

theorem Numbered.swept (h : db.Numbered) (hs : db.Swept db') : db'.Numbered :=
  h.shrinks (fun u hu => (hs.updates u hu).1) hs.lastUpdate

/-- Envelopes are deleted, and then what has none. -/
theorem deleteOrphans_swept (p : EnvelopeRow → Bool) : db.Swept (db.deleteEnvelopes p).deleteOrphans := by
  have horphaned : ∀ {id : String}, ((db.deleteEnvelopes p).envelopes.rows.all
      fun row => row.envelope.logicalMessageId ≠ id) = false ↔
        ∃ e ∈ (db.deleteEnvelopes p).envelopes, e.envelope.logicalMessageId = id := by
    intro id
    rw [List.all_eq_false]
    simp [Table.mem_rows]
  refine ⟨fun _ _ h => h, fun m hm => ?_, fun e he => ?_, fun u hu => ?_, rfl, rfl⟩
  · obtain ⟨hm, hkept⟩ := Table.mem_delete.1 hm
    exact ⟨hm, horphaned.1 hkept⟩
  · refine ⟨(Table.mem_delete.1 he).1, fun m hm hbelongs => Table.mem_delete.2 ⟨hm, ?_⟩⟩
    exact horphaned.2 ⟨e, he, hbelongs.id.symm⟩
  · obtain ⟨hu, hkept⟩ := Table.mem_delete.1 hu
    refine ⟨hu, fun m hm hid => Table.mem_delete.2 ⟨hm, ?_⟩⟩
    dsimp only
    rw [hid]
    exact hkept

/-- The messages of a conversation that a prune picks. -/
def Pruned (db : Db) (conversation : String) (cutoff : Int) (deliveredOnly : Bool) (id : String) : Prop :=
  ∃ m, db.logicalMessages.find id = some m ∧ m.conversationId = conversation ∧ m.acceptedAtMs < cutoff ∧
    (deliveredOnly = true → ∀ e ∈ db.envelopes, e.envelope.logicalMessageId = id → e.deliveredAtMs.isSome)

theorem mem_pruneConversation (db : Db) (conversation : String) (cutoff : Int) (deliveredOnly : Bool) :
    (∀ e, e ∈ (db.pruneConversation conversation cutoff deliveredOnly).envelopes ↔ e ∈ db.envelopes ∧
      ¬db.Pruned conversation cutoff deliveredOnly e.envelope.logicalMessageId) ∧
    (∀ u, u ∈ (db.pruneConversation conversation cutoff deliveredOnly).deliveryUpdates ↔
      u ∈ db.deliveryUpdates ∧ ¬db.Pruned conversation cutoff deliveredOnly u.logicalMessageId) ∧
    ∀ m, m ∈ (db.pruneConversation conversation cutoff deliveredOnly).logicalMessages ↔
      m ∈ db.logicalMessages ∧ (m.conversationId = conversation → m.acceptedAtMs < cutoff →
        ∃ e ∈ (db.pruneConversation conversation cutoff deliveredOnly).envelopes,
          e.envelope.logicalMessageId = m.logicalMessageId) := by
  have hpruned : ∀ id, ((db.logicalMessages.find id).any fun row => row.conversationId = conversation &&
      row.acceptedAtMs < cutoff && (!deliveredOnly || db.envelopes.rows.all fun e =>
        e.envelope.logicalMessageId ≠ id || e.deliveredAtMs.isSome)) = false ↔
      ¬db.Pruned conversation cutoff deliveredOnly id := by
    intro id
    rw [← Bool.not_eq_true, not_iff_not, Option.any_eq_true]
    refine exists_congr fun m => and_congr_right fun _ => ?_
    cases deliveredOnly with
    | false => simp
    | true => simp [and_assoc, Table.mem_rows, or_iff_not_imp_left]
  refine ⟨fun e => ?_, fun u => ?_, fun m => ?_⟩
  · exact Table.mem_delete.trans (and_congr_right fun _ => hpruned _)
  · exact Table.mem_delete.trans (and_congr_right fun _ => hpruned _)
  · refine Table.mem_delete.trans (and_congr_right fun _ => ?_)
    rw [← Bool.not_eq_true]
    simp [pruneConversation, Table.mem_rows]

/-- A message is pruned with all its envelopes. -/
theorem Threaded.pruned (h : db.Threaded) (conversation : String) (cutoff : Int) (deliveredOnly : Bool) :
    db.Swept (db.pruneConversation conversation cutoff deliveredOnly) := by
  obtain ⟨henvelopes, hupdates, hmessages⟩ := mem_pruneConversation db conversation cutoff deliveredOnly
  -- What is not pruned keeps the envelope that it has.
  have hkept : ∀ m ∈ db.logicalMessages,
      ¬db.Pruned conversation cutoff deliveredOnly m.logicalMessageId →
      ∃ e ∈ (db.pruneConversation conversation cutoff deliveredOnly).envelopes,
        e.envelope.logicalMessageId = m.logicalMessageId := by
    intro m hm hnot
    obtain ⟨e, he, hid⟩ := h.sent m hm
    exact ⟨e, (henvelopes e).2 ⟨he, hid ▸ hnot⟩, hid⟩
  refine ⟨fun _ _ h => h, fun m hm => ?_, fun e he => ?_, fun u hu => ?_, rfl, rfl⟩
  · obtain ⟨hm, hleft⟩ := (hmessages m).1 hm
    refine ⟨hm, ?_⟩
    by_cases hp : db.Pruned conversation cutoff deliveredOnly m.logicalMessageId
    · obtain ⟨m', hfind, hconversation, hcutoff, -⟩ := hp
      obtain rfl : m' = m := Table.eq_of_mem (Table.mem_of_find hfind) hm (Table.key_of_find hfind)
      exact hleft hconversation hcutoff
    · exact hkept m hm hp
  · refine ⟨((henvelopes e).1 he).1, fun m hm hbelongs => (hmessages m).2 ⟨hm, fun _ _ => ?_⟩⟩
    exact ⟨e, he, hbelongs.id.symm⟩
  · obtain ⟨hu, hnot⟩ := (hupdates u).1 hu
    refine ⟨hu, fun m hm hid => (hmessages m).2 ⟨hm, fun _ _ => ?_⟩⟩
    exact hkept m hm (hid ▸ hnot)

section

variable (accountId : String)

def concernsMessage (db : Db) (id : String) : Bool :=
  (db.logicalMessages.find id).any fun row => concerns row accountId

/-- The envelope is from or to the account, or its message concerns it. -/
def involves (db : Db) (row : EnvelopeRow) : Bool :=
  row.senderAccountId = accountId || row.envelope.recipientAccountId = accountId ||
    db.concernsMessage accountId row.envelope.logicalMessageId

end

theorem concernsMessage_eq_false {id a : String} (h : db.concernsMessage a id = false) {m : LogicalMessageRow}
    (hm : m ∈ db.logicalMessages) (hid : m.logicalMessageId = id) : concerns m a = false := by
  rw [concernsMessage, Table.find_eq_some.2 ⟨hm, hid⟩] at h
  exact h

theorem involves_eq_false {row : EnvelopeRow} {a : String} : db.involves a row = false ↔
    row.senderAccountId ≠ a ∧ row.envelope.recipientAccountId ≠ a ∧
      db.concernsMessage a row.envelope.logicalMessageId = false := by
  simp [involves, and_assoc]

/-- The message of an envelope that is kept is kept, and the other way round. -/
theorem involves_iff_concerns {e : EnvelopeRow} {m : LogicalMessageRow} {a : String} (hm : m ∈ db.logicalMessages)
    (hb : e.BelongsTo m) : db.involves a e = false ↔ concerns m a = false := by
  rw [involves_eq_false]
  constructor
  · exact fun hkept => concernsMessage_eq_false hkept.2.2 hm hb.id
  · intro hm'
    have hothers : m.senderAccountId ≠ a ∧ m.peerAccountId ≠ a := by simpa [concerns] using hm'
    refine ⟨hb.account ▸ hothers.1, fun hrecipient => ?_, ?_⟩
    · rcases hb.recipient with heq | heq
      · exact hothers.1 (heq.symm.trans hrecipient)
      · exact hothers.2 (heq.symm.trans hrecipient)
    · rw [concernsMessage, Table.find_eq_some.2 ⟨hm, hb.id⟩]
      exact hm'

theorem Threaded.deleted (h : db.Threaded) (a : String) : db.Swept (db.deleteUserRecords a) := by
  refine ⟨fun m hm hsome => ?_, fun m hm => ?_, fun e he => ?_, fun u hu => ?_, rfl, rfl⟩
  · have hkept : concerns m a = false := (Table.mem_delete.1 hm).2
    have hsender : m.senderAccountId ≠ a := by
      rintro rfl
      simp [concerns] at hkept
    obtain ⟨account, haccount⟩ := Option.isSome_iff_exists.1 hsome
    have hid : account.id = m.senderAccountId := Table.key_of_find haccount
    show ((db.accounts.delete fun row => row.id = a).find m.senderAccountId).isSome
    rw [Table.find_delete, haccount, Option.filter_some, if_pos (by simp [hid, hsender])]
    rfl
  · obtain ⟨hm, hkept⟩ := Table.mem_delete.1 hm
    obtain ⟨e, he, hid⟩ := h.sent m hm
    obtain ⟨m', hm', hb⟩ := h.envelopes e he
    obtain rfl : m' = m := Table.eq_of_mem hm' hm (hb.id.trans hid)
    exact ⟨hm, e, Table.mem_delete.2 ⟨he, (involves_iff_concerns hm' hb).2 hkept⟩, hid⟩
  · obtain ⟨he, hkept⟩ := Table.mem_delete.1 he
    exact ⟨he, fun m hm hb => Table.mem_delete.2 ⟨hm, (involves_iff_concerns hm hb).1 hkept⟩⟩
  · obtain ⟨hu, hkept⟩ := Table.mem_delete.1 hu
    exact ⟨hu, fun m hm hid => Table.mem_delete.2
      ⟨hm, concernsMessage_eq_false (Bool.or_eq_false_iff.1 hkept).2 hm hid⟩⟩

/-! ## Writes -/

theorem cleanupRevokedDevice_swept (deviceId : String) : db.Swept (db.cleanupRevokedDevice deviceId) :=
  have hs : Swept { db with prekeys := db.prekeys.delete fun row => row.deviceId = deviceId }
      (db.cleanupRevokedDevice deviceId) := deleteOrphans_swept _
  ⟨hs.accounts, hs.messages, hs.envelopes, hs.updates, hs.lastCursor, hs.lastUpdate⟩

theorem Threaded.step (h : db.Threaded) (hs : MessageStep sha256 limits sends db db') : db'.Threaded := by
  cases hs with
  | beside hb => exact h.beside hb
  | stored sa sd es now free sent write => exact h.stored write
  | acked d e now => exact h.dated (h.acked d e now)
  | cleanedDevice deviceId => exact h.swept (cleanupRevokedDevice_swept deviceId)
  | cleanedDelivered before limit => exact h.swept (deleteOrphans_swept _)
  | pruned conversation cutoff deliveredOnly => exact h.swept (h.pruned _ _ _)
  | deleted accountId => exact h.swept (h.deleted accountId)

theorem Numbered.step (h : db.Numbered) (ht : db.Threaded) (hs : MessageStep sha256 limits sends db db') :
    db'.Numbered := by
  cases hs with
  | beside hb => exact h.shrinks (fun u hu => hb.updates ▸ hu) hb.lastUpdate
  | stored sa sd es now free sent write =>
    obtain ⟨_, _, _, _, hdb⟩ := storeEnvelopes_aside write
    exact h.shrinks (fun u hu => by rwa [hdb] at hu) (by rw [hdb])
  | acked d e now => exact h.acked d e now
  | cleanedDevice deviceId => exact h.swept (cleanupRevokedDevice_swept deviceId)
  | cleanedDelivered before limit => exact h.swept (deleteOrphans_swept _)
  | pruned conversation cutoff deliveredOnly => exact h.swept (ht.pruned _ _ _)
  | deleted accountId => exact h.swept (ht.deleted accountId)

/-- An acknowledgement changes a row in its time of delivery at most. -/
theorem ack_row {deviceId envelopeId : String} {now : Int} {row : EnvelopeRow}
    (hrow : row ∈ (db.ack deviceId envelopeId now).2.envelopes) : ∃ old ∈ db.envelopes,
      row.undated = old.undated ∧ (old.deliveredAtMs.isSome = true → row.deliveredAtMs.isSome = true) := by
  unfold ack at hrow
  split at hrow
  · exact ⟨row, hrow, rfl, id⟩
  · dsimp only at hrow
    obtain ⟨old, hold, rfl⟩ := (Table.mem_update _).1 hrow
    refine ⟨old, hold, ?_⟩
    split
    · exact ⟨rfl, fun _ => rfl⟩
    · exact ⟨rfl, id⟩

/-- A row is one that was there, and stays delivered, or has a cursor above all that there were. -/
theorem MessageStep.rows (hs : MessageStep sha256 limits sends db db') (h : db.Threaded) :
    db.lastCursor ≤ db'.lastCursor ∧ ∀ row ∈ db'.envelopes,
      (∃ old ∈ db.envelopes, row.undated = old.undated ∧
        (old.deliveredAtMs.isSome = true → row.deliveredAtMs.isSome = true)) ∨ db.lastCursor < row.cursor := by
  have hkept : ∀ {row : EnvelopeRow}, row ∈ db.envelopes → ∃ old ∈ db.envelopes, row.undated = old.undated ∧
      (old.deliveredAtMs.isSome = true → row.deliveredAtMs.isSome = true) := fun hrow => ⟨_, hrow, rfl, id⟩
  have hswept : db.Swept db' → db.lastCursor ≤ db'.lastCursor ∧ ∀ row ∈ db'.envelopes,
      (∃ old ∈ db.envelopes, row.undated = old.undated ∧
        (old.deliveredAtMs.isSome = true → row.deliveredAtMs.isSome = true)) ∨ db.lastCursor < row.cursor :=
    fun hs => ⟨hs.lastCursor.ge, fun row hrow => .inl (hkept (hs.envelopes row hrow).1)⟩
  cases hs with
  | beside hb => exact ⟨hb.lastCursor.ge, fun row hrow => .inl (hkept (hb.envelopes ▸ hrow))⟩
  | stored sa sd es now free sent write =>
    obtain ⟨_, _, _, accepted, hinserts⟩ := storeEnvelopes_eq_ok.1 write
    obtain ⟨-, -, -, _, rfl⟩ := insertLogicalMessage_rows accepted.message
    obtain ⟨hle, hrows⟩ := hinserts.above
    exact ⟨hle, fun row hrow => (hrows row hrow).imp_left hkept⟩
  | acked d e now => exact ⟨(h.acked d e now).lastCursor.ge, fun row hrow => .inl (ack_row hrow)⟩
  | cleanedDevice deviceId => exact hswept (cleanupRevokedDevice_swept deviceId)
  | cleanedDelivered before limit => exact hswept (deleteOrphans_swept _)
  | pruned conversation cutoff deliveredOnly => exact hswept (h.pruned _ _ _)
  | deleted accountId => exact hswept (h.deleted accountId)

end Db

/-! ## Rows that are handed over -/

/-- What is handed over of a row. -/
structure StoredEnvelope.Of (e : StoredEnvelope) (row : EnvelopeRow) : Prop where
  cursor : e.cursor = row.cursor
  envelope : e.envelope = some row.envelope
  senderAccountId : e.senderAccountId = row.senderAccountId
  senderDeviceId : e.senderDeviceId = row.senderDeviceId
  acceptedAtMs : e.acceptedAtMs = row.acceptedAtMs

theorem StoredEnvelope.Of.undated {e : StoredEnvelope} {row row' : EnvelopeRow} (h : e.Of row)
    (heq : row.undated = row'.undated) : e.Of row' := by
  obtain ⟨cursor, envelope, account, device, accepted, delivered⟩ := row
  obtain ⟨cursor', envelope', account', device', accepted', delivered'⟩ := row'
  cases heq
  exact ⟨h.cursor, h.envelope, h.senderAccountId, h.senderDeviceId, h.acceptedAtMs⟩

namespace Db

variable {db : Db}

theorem storedEnvelope_of {row : EnvelopeRow} {e : StoredEnvelope} (h : db.storedEnvelope row = some e) : e.Of row := by
  obtain ⟨account, -, rfl⟩ := Option.map_eq_some_iff.1 h
  exact ⟨rfl, rfl, rfl, rfl, rfl⟩

/-- The account that sent the envelope is there. -/
theorem Threaded.storedEnvelope (h : db.Threaded) {row : EnvelopeRow} (hrow : row ∈ db.envelopes) :
    ∃ e, db.storedEnvelope row = some e := by
  obtain ⟨m, hm, hbelongs⟩ := h.envelopes row hrow
  obtain ⟨account, haccount⟩ := Option.isSome_iff_exists.1 (h.senders m hm)
  exact ⟨_, by rw [Db.storedEnvelope, ← hbelongs.account, haccount]; rfl⟩

end Db

/-! ## Runs -/

namespace Cluster

variable {p : Cluster}

theorem threaded (h : (serverSystem env P).Reachable p) : p.shared.db.Threaded :=
  invariant (I := fun s _ => s.db.Threaded) h .empty
    (fun i s cs s' c' hI hs => by
      cases hs with
      | wrote log events write => exact hI.step write.messages
      | _ => exact hI)
    fun _ _ hI => hI

theorem numbered (h : (serverSystem env P).Reachable p) : p.shared.db.Numbered := by
  have hboth : p.shared.db.Threaded ∧ p.shared.db.Numbered :=
    invariant (I := fun s _ => s.db.Threaded ∧ s.db.Numbered) h ⟨.empty, .empty⟩
      (fun i s cs s' c' hI hs => by
        cases hs with
        | wrote log events write => exact ⟨hI.1.step write.messages, hI.2.step hI.1 write.messages⟩
        | _ => exact hI)
      fun _ _ hI => hI
  exact hboth.2

end Cluster

end TuiChat
