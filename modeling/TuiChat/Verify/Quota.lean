import TuiChat.Server.Threads

/-!
# Quotas

`StorageStep` are the operations on stored envelopes, with any arguments and in any order. The triggers
keep the usage of an account equal to the bytes of the envelopes that it sent (`Accounted`): a batch adds
what it inserts, and every operation that deletes rows takes away what they had. So the limits that a
batch is checked against hold in every state (`quota_accounting`), and in every state of a running server
(`server_storage`).
-/

namespace TuiChat

open Lib
open Relation (ReflTransGen)

namespace Db

variable {sha256 : Bytes → Bytes} {limits : StorageLimits} {sa sd : String} {now : Int} {free : Nat}
  {es : List EncryptedEnvelope} {destinations : List (String × Nat)} {db db' : Db}

/-- The number of bytes of the envelopes that the account sent. -/
def sentBytes (db : Db) (a : String) : Nat :=
  db.envelopes.sum fun row => if row.senderAccountId = a then row.envelope.ciphertext.length else 0

/-- An operation on the database: a batch that is accepted, an acknowledgement, one of the deletions, or
one that leaves envelopes and usage alone. A batch that is rejected changes nothing. -/
inductive StorageStep (sha256 : Bytes → Bytes) (limits : StorageLimits) (db : Db) : Db → Prop
  | stored {r : List (String × Nat) × Db} (sa sd : String) (es : List EncryptedEnvelope) (now : Int)
      (free : Nat) (write : db.storeEnvelopes sha256 sa sd es now limits free = .ok r) :
      StorageStep sha256 limits db r.2
  | acked (deviceId envelopeId : String) (now : Int) :
      StorageStep sha256 limits db (db.ack deviceId envelopeId now).2
  | cleanedDelivered (before : Int) (limit : Nat) :
      StorageStep sha256 limits db (db.cleanupDeliveredEnvelopes before limit)
  | cleanedDevice (deviceId : String) : StorageStep sha256 limits db (db.cleanupRevokedDevice deviceId)
  | pruned (conversation : String) (cutoff : Int) (deliveredOnly : Bool) :
      StorageStep sha256 limits db (db.pruneConversation conversation cutoff deliveredOnly)
  | deleted (accountId : String) : StorageStep sha256 limits db (db.deleteUserRecords accountId)
  | aside {db' : Db} (envelopes : db'.envelopes = db.envelopes) (usage : db'.usage = db.usage) :
      StorageStep sha256 limits db db'

/-- The usage of every account is what it sent, and the limits are met. -/
structure Accounted (limits : StorageLimits) (db : Db) : Prop where
  usage : ∀ a, db.usageOf a = db.sentBytes a
  account : ∀ a, db.usageOf a ≤ limits.maxAccountCiphertextBytes
  total : db.totalUsage ≤ limits.maxTotalCiphertextBytes

theorem Accounted.congr (h : Accounted limits db) (husage : db'.usage = db.usage)
    (hsent : ∀ a, db'.sentBytes a = db.sentBytes a) : Accounted limits db' where
  usage a := by
    rw [hsent, ← h.usage]
    simp [usageOf, husage]
  account a := by simpa [usageOf, husage] using h.account a
  total := by simpa [totalUsage, husage] using h.total

/-! ## Batches -/

theorem sentBytes_withEnvelope {e : EncryptedEnvelope} (h : db.envelopes.find e.envelopeId = none) (a : String) :
    (db.withEnvelope sa sd e now).sentBytes a =
      db.sentBytes a + if a = sa then e.ciphertext.length else 0 := by
  have hrows : (db.withEnvelope sa sd e now).envelopes.rows =
      db.envelopes.rows ++ [.fresh (db.lastCursor + 1) sa sd e now] := Table.insertOrIgnore_of_find_none h
  unfold sentBytes Table.sum
  rw [hrows]
  simp [EnvelopeRow.fresh, eq_comm]

theorem Inserts.sentBytes (h : Inserts sa sd now db es destinations db') (husage : ∀ a, db.usageOf a = db.sentBytes a) :
    ∀ a, db'.usageOf a = db'.sentBytes a := by
  induction h with
  | nil => exact husage
  | known _ _ _ _ ih => exact ih husage
  | fresh unknown _ ih =>
    apply ih
    intro a
    rw [usageOf_withEnvelope, sentBytes_withEnvelope unknown, husage]

theorem Accounted.stored (h : Accounted limits db)
    (hok : db.storeEnvelopes sha256 sa sd es now limits free = .ok (destinations, db')) : Accounted limits db' := by
  obtain ⟨header, db₁, additional, haccepted, hinserts⟩ := storeEnvelopes_eq_ok.1 hok
  have h₁ : Accounted limits db₁ := by
    rcases insertLogicalMessage_eq_ok.1 haccepted.message with ⟨_, _, _, rfl⟩ | ⟨_, _, _, _, rfl⟩
    · exact h
    · exact h.congr rfl fun _ => rfl
  obtain ⟨haccount, htotal, hothers⟩ := hinserts.usage (fun _ h => h) haccepted.bytes
  refine ⟨hinserts.sentBytes h₁.usage, fun a => ?_, htotal.trans haccepted.total⟩
  by_cases ha : a = sa
  · subst ha
    exact haccount.trans haccepted.account
  · rw [hothers a ha]
    exact h₁.account a

/-! ## Deletions -/

theorem usageOf_usageRemove (usage : Table AccountStorageUsage.accountId) (row : EnvelopeRow) (a : String) :
    (((usageRemove usage row).find a).map AccountStorageUsage.ciphertextBytes).getD 0 =
      ((usage.find a).map AccountStorageUsage.ciphertextBytes).getD 0 -
        if row.senderAccountId = a then row.envelope.ciphertext.length else 0 := by
  unfold usageRemove
  rw [Table.find_update]
  cases hfind : usage.find a with
  | none => simp
  | some u =>
    have hkey : u.accountId = a := Table.key_of_find hfind
    by_cases ha : row.senderAccountId = a
    · simp [hkey, ha]
    · simp [hkey, ha, Ne.symm ha]

/-- The triggers of a deletion take away what its rows had. -/
theorem usageOf_foldl_usageRemove (a : String) :
    ∀ (rows : List EnvelopeRow) (usage : Table AccountStorageUsage.accountId),
      (((rows.foldl usageRemove usage).find a).map AccountStorageUsage.ciphertextBytes).getD 0 =
        ((usage.find a).map AccountStorageUsage.ciphertextBytes).getD 0 -
          (rows.map fun row => if row.senderAccountId = a then row.envelope.ciphertext.length else 0).sum
  | [], _ => by simp
  | row :: rows, usage => by
    rw [List.foldl_cons, usageOf_foldl_usageRemove a rows, usageOf_usageRemove, List.map_cons, List.sum_cons,
      Nat.sub_sub]

theorem sum_usageRemove (usage : Table AccountStorageUsage.accountId) (row : EnvelopeRow) :
    (usageRemove usage row).sum AccountStorageUsage.ciphertextBytes ≤
      usage.sum AccountStorageUsage.ciphertextBytes := by
  unfold usageRemove
  apply Table.sum_update_le
  intro u
  exact Nat.sub_le _ _

theorem sum_foldl_usageRemove :
    ∀ (rows : List EnvelopeRow) (usage : Table AccountStorageUsage.accountId),
      (rows.foldl usageRemove usage).sum AccountStorageUsage.ciphertextBytes ≤
        usage.sum AccountStorageUsage.ciphertextBytes
  | [], _ => le_rfl
  | row :: rows, usage => (sum_foldl_usageRemove rows _).trans (sum_usageRemove usage row)

theorem Accounted.deleteEnvelopes (h : Accounted limits db) (p : EnvelopeRow → Bool) :
    Accounted limits (db.deleteEnvelopes p) := by
  have hof : ∀ a, (db.deleteEnvelopes p).usageOf a = db.usageOf a - ((db.envelopes.rows.filter p).map
      fun row => if row.senderAccountId = a then row.envelope.ciphertext.length else 0).sum :=
    fun a => usageOf_foldl_usageRemove a _ _
  have hsent : ∀ a, (db.deleteEnvelopes p).sentBytes a + ((db.envelopes.rows.filter p).map
      fun row => if row.senderAccountId = a then row.envelope.ciphertext.length else 0).sum = db.sentBytes a :=
    fun a => db.envelopes.sum_delete_add p _
  refine ⟨fun a => ?_, fun a => ?_, (sum_foldl_usageRemove _ _).trans h.total⟩
  · have hold := h.usage a
    rw [hof, hold, ← hsent a, Nat.add_sub_cancel]
  · rw [hof]
    exact (Nat.sub_le _ _).trans (h.account a)

theorem Accounted.deleteOrphans (h : Accounted limits db) : Accounted limits db.deleteOrphans :=
  h.congr rfl fun _ => rfl

theorem Accounted.deleteUserRecords (h : Accounted limits db) (accountId : String) :
    Accounted limits (db.deleteUserRecords accountId) := by
  have hsome : ∃ db₁ db₂ : Db, ∃ p : EnvelopeRow → Bool, Accounted limits db₁ ∧
      (∀ row, row.senderAccountId = accountId → p row = true) ∧ db₂ = db₁.deleteEnvelopes p ∧
      (db.deleteUserRecords accountId).envelopes = db₂.envelopes ∧
      (db.deleteUserRecords accountId).usage = db₂.usage.delete fun row => row.accountId = accountId := by
    refine ⟨_, _, _, ?_, ?_, rfl, rfl, rfl⟩
    · exact h.congr rfl fun _ => rfl
    · intro row hrow
      simp [hrow]
  obtain ⟨db₁, db₂, p, h₁, hp, rfl, henvelopes, husage⟩ := hsome
  have h₂ := h₁.deleteEnvelopes p
  have hof : ∀ a, (db.deleteUserRecords accountId).usageOf a =
      if a = accountId then 0 else (db₁.deleteEnvelopes p).usageOf a := by
    intro a
    unfold usageOf
    rw [husage, Table.find_delete]
    cases hfind : (db₁.deleteEnvelopes p).usage.find a with
    | none => simp
    | some u =>
      have hkey : u.accountId = a := Table.key_of_find hfind
      by_cases ha : a = accountId <;> simp [hkey, ha, Option.filter]
  have hsent : ∀ a, (db.deleteUserRecords accountId).sentBytes a = (db₁.deleteEnvelopes p).sentBytes a := by
    intro a
    unfold sentBytes
    rw [henvelopes]
  constructor
  · intro a
    rw [hof, hsent]
    split
    · next ha =>
      -- Nothing that the deleted account sent is left.
      subst ha
      symm
      apply List.sum_eq_zero
      intro n hn
      obtain ⟨row, hrow, rfl⟩ := List.mem_map.1 hn
      have hkept := (Table.mem_delete.1 hrow).2
      rw [if_neg]
      intro hsender
      rw [hp row hsender] at hkept
      cases hkept
    · exact h₂.usage a
  · intro a
    rw [hof]
    split
    · exact Nat.zero_le _
    · exact h₂.account a
  · unfold totalUsage
    rw [husage]
    exact (Table.sum_delete_le _ _ _).trans h₂.total

/-! ## Acknowledgements -/

theorem sentBytes_ack (db : Db) (deviceId envelopeId : String) (now : Int) (a : String) :
    (db.ack deviceId envelopeId now).2.sentBytes a = db.sentBytes a := by
  unfold ack
  split
  · rfl
  · exact Table.sum_update_eq (by exact fun _ => rfl) fun _ => rfl

/-! ## Runs -/

theorem Accounted.step (h : Accounted limits db) (hs : StorageStep sha256 limits db db') :
    Accounted limits db' := by
  cases hs with
  | stored sa sd es now free write => exact h.stored write
  | acked deviceId envelopeId now => exact h.congr (ack_usage _ _ _ _) fun _ => sentBytes_ack _ _ _ _ _
  | cleanedDelivered before limit => exact (h.deleteEnvelopes _).deleteOrphans
  | cleanedDevice deviceId =>
    have hprekeys : Accounted limits
        { db with prekeys := db.prekeys.delete fun row => row.deviceId = deviceId } := h.congr rfl fun _ => rfl
    exact (hprekeys.deleteEnvelopes _).deleteOrphans
  | pruned conversation cutoff deliveredOnly =>
    have hupdates : ∀ updates, Accounted limits { db with deliveryUpdates := updates } :=
      fun _ => h.congr rfl fun _ => rfl
    exact ((hupdates _).deleteEnvelopes _).congr rfl fun _ => rfl
  | deleted accountId => exact h.deleteUserRecords accountId
  | aside envelopes usage => exact h.congr usage fun a => by rw [sentBytes, envelopes, ← sentBytes]

/-- In every state that any order of operations leads to from an empty database, the usage of an account
is the sum of the bytes of the envelopes that it sent, within the account's limit, and all usage together is
within the server's. -/
theorem quota_accounting (h : ReflTransGen (StorageStep sha256 limits) .empty db) :
    (∀ a, db.usageOf a = db.sentBytes a ∧ db.usageOf a ≤ limits.maxAccountCiphertextBytes) ∧
      db.totalUsage ≤ limits.maxTotalCiphertextBytes := by
  have haccounted : Accounted limits db := by
    induction h with
    | refl => exact ⟨fun _ => rfl, fun _ => Nat.zero_le _, Nat.zero_le _⟩
    | tail _ hs ih => exact ih.step hs
  exact ⟨fun a => ⟨haccounted.usage a, haccounted.account a⟩, haccounted.total⟩

end Db

namespace Scenario.Note

open Db

/-- Alice with one device. -/
def alone : Db :=
  { Db.empty with
    accounts := Table.put ∅ { AccountRow.added "alice" "alice" "" with masterPublicKey := some [1] }
    devices := Table.put ∅
      { id := "a1"
        accountId := "alice"
        name := "a1"
        authSigningKey := []
        olmEd25519Key := []
        olmCurve25519Key := []
        certificateSignature := []
        sasPublicKey := []
        pending := false
        revoked := false
        createdAtMs := 0
        lastAuthenticatedAtMs := none } }

/-- A note to herself. -/
def note : EncryptedEnvelope :=
  { envelopeId := "e1"
    logicalMessageId := "m1"
    conversationId := conversationId id "alice" "alice"
    recipientAccountId := "alice"
    recipientDeviceId := "a1"
    ciphertext := [1, 2, 3]
    olmMessageType := 1
    clientSentAtMs := 0 }

def limits : StorageLimits :=
  { maxAccountCiphertextBytes := 3, maxTotalCiphertextBytes := 3, minFreeDiskBytes := 0 }

theorem quota_accounting_note :
    ∃ r, alone.storeEnvelopes id "alice" "a1" [note] 0 limits 0 = .ok r ∧
      (∀ a, r.2.usageOf a = r.2.sentBytes a ∧ r.2.usageOf a ≤ 3) ∧ r.2.totalUsage ≤ 3 := by
  have hok : (alone.storeEnvelopes id "alice" "a1" [note] 0 limits 0).toOption.isSome = true := by
    decide +kernel
  cases hstore : alone.storeEnvelopes id "alice" "a1" [note] 0 limits 0 with
  | error e =>
    rw [hstore] at hok
    cases hok
  | ok r =>
    have hstart : ReflTransGen (StorageStep id limits) .empty alone := .single (.aside rfl rfl)
    exact ⟨r, rfl, quota_accounting (hstart.tail (.stored _ _ _ _ _ hstore))⟩

end Scenario.Note

/-! ## The server -/

/-- Every write of the server is one of the operations. -/
theorem Writes.storage {env : ServerEnvironment} {P : Primitives} {had : Db → Prop} {c : Connection} {db db' : Db}
    (h : Writes env P had c db db') : Db.StorageStep P.sha256 env.storageLimits db db' := by
  cases h.messages with
  | beside hb => exact .aside hb.envelopes hb.usage
  | stored sa sd es now free sent write => exact .stored sa sd es now free write
  | acked deviceId envelopeId now => exact .acked deviceId envelopeId now
  | cleanedDevice deviceId => exact .cleanedDevice deviceId
  | cleanedDelivered before limit => exact .cleanedDelivered before limit
  | pruned conversation cutoff deliveredOnly => exact .pruned conversation cutoff deliveredOnly
  | deleted accountId => exact .deleted accountId

/-- The database of a running server comes about by these operations. -/
theorem server_storage {env : ServerEnvironment} {P : Primitives} {p : Cluster}
    (h : (serverSystem env P).Reachable p) :
    ReflTransGen (Db.StorageStep P.sha256 env.storageLimits) .empty p.shared.db := by
  refine Cluster.invariant (I := fun s _ => ReflTransGen (Db.StorageStep P.sha256 env.storageLimits) .empty s.db)
    h .refl (fun i s cs s' c' hI hs => ?_) fun _ _ hI => hI
  cases hs with
  | wrote log events write => exact hI.tail write.storage
  | _ => exact hI

end TuiChat
