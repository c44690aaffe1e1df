import TuiChat.Server.Db

/-!
# What a batch of envelopes does to the database

`storeEnvelopes` taken apart once: the checks that a batch passes (`Accepted`), and the insertion of its
active envelopes one by one (`Inserts`), each of which finds its own row or adds it. What is stored
already is never changed.
-/

namespace TuiChat

open Lib

theorem Except.bind_eq_ok {ε α β : Type} {x : Except ε α} {f : α → Except ε β} {b : β} :
    (x >>= f) = .ok b ↔ ∃ a, x = .ok a ∧ f a = .ok b := by
  cases x with
  | error e => exact ⟨fun h => (nomatch h), fun ⟨_, h, _⟩ => (nomatch h)⟩
  | ok a => exact ⟨fun h => ⟨a, rfl, h⟩, fun ⟨_, h, h'⟩ => by cases h; exact h'⟩

/-- `if c { bail!(e) }` before the rest. -/
theorem Except.throw_ite_eq_ok {ε α β : Type} {c : Prop} [Decidable c] {e : ε} {f : α → Except ε β}
    {x : Except ε β} {b : β} : (if c then throw e >>= f else x) = .ok b ↔ ¬c ∧ x = .ok b := by
  split
  · next h => exact ⟨fun h => (nomatch h), fun h' => absurd h h'.1⟩
  · next h => exact ⟨fun h' => ⟨h, h'⟩, fun h' => h'.2⟩

/-- The row of an envelope that is stored now. -/
def EnvelopeRow.fresh (cursor : Nat) (senderAccount senderDevice : String) (e : EncryptedEnvelope)
    (now : Int) : EnvelopeRow :=
  { cursor
    envelope := e
    senderAccountId := senderAccount
    senderDeviceId := senderDevice
    acceptedAtMs := now
    deliveredAtMs := none }

/-- The row is that of the envelope, from this sender. -/
structure EnvelopeRow.Carries (row : EnvelopeRow) (senderAccount senderDevice : String)
    (e : EncryptedEnvelope) : Prop where
  account : row.senderAccountId = senderAccount
  device : row.senderDeviceId = senderDevice
  envelope : row.envelope = e

namespace Db

variable {sa sd : String} {now : Int} {db db' : Db} {e : EncryptedEnvelope} {es : List EncryptedEnvelope}
  {stored : List (String × Nat)}

/-- The database with the next row. -/
def withEnvelope (db : Db) (senderAccount senderDevice : String) (e : EncryptedEnvelope) (now : Int) : Db :=
  { db with
    envelopes := db.envelopes.insertOrIgnore (.fresh (db.lastCursor + 1) senderAccount senderDevice e now)
    usage := usageAdd db.usage (.fresh (db.lastCursor + 1) senderAccount senderDevice e now)
    lastCursor := db.lastCursor + 1 }

theorem insertEnvelope_of_find {row : EnvelopeRow} (h : db.envelopes.find e.envelopeId = some row) :
    db.insertEnvelope sa sd e now = (row, db) := by
  simp [insertEnvelope, h]

theorem insertEnvelope_fresh (h : db.envelopes.find e.envelopeId = none) :
    db.insertEnvelope sa sd e now =
      (.fresh (db.lastCursor + 1) sa sd e now, db.withEnvelope sa sd e now) := by
  simp [insertEnvelope, h, withEnvelope, EnvelopeRow.fresh]

/-- Every envelope finds its row, or gets one; each gives its device and the cursor of the row. -/
inductive Inserts (sa sd : String) (now : Int) :
    Db → List EncryptedEnvelope → List (String × Nat) → Db → Prop
  | nil {db : Db} : Inserts sa sd now db [] [] db
  | known {db db' : Db} {e : EncryptedEnvelope} {es : List EncryptedEnvelope} {stored : List (String × Nat)}
      (row : EnvelopeRow) (found : db.envelopes.find e.envelopeId = some row) (carries : row.Carries sa sd e)
      (rest : Inserts sa sd now db es stored db') :
      Inserts sa sd now db (e :: es) ((e.recipientDeviceId, row.cursor) :: stored) db'
  | fresh {db db' : Db} {e : EncryptedEnvelope} {es : List EncryptedEnvelope} {stored : List (String × Nat)}
      (unknown : db.envelopes.find e.envelopeId = none)
      (rest : Inserts sa sd now (db.withEnvelope sa sd e now) es stored db') :
      Inserts sa sd now db (e :: es) ((e.recipientDeviceId, db.lastCursor + 1) :: stored) db'

theorem insertEnvelopes_eq_ok : ∀ {es : List EncryptedEnvelope} {db db' : Db} {stored : List (String × Nat)},
    db.insertEnvelopes sa sd now es = .ok (stored, db') ↔ Inserts sa sd now db es stored db'
  | [], db, db', stored => by
    constructor
    · intro h
      cases h
      exact .nil
    · intro h
      cases h
      rfl
  | e :: es, db, db', stored => by
    cases hfind : db.envelopes.find e.envelopeId with
    | some row =>
      rw [insertEnvelopes, insertEnvelope_of_find hfind]
      dsimp only
      split
      · next hne =>
        constructor
        · exact fun h => nomatch h
        · intro h
          cases h with
          | known row' found carries _ =>
            cases hfind.symm.trans found
            rcases hne with hne | hne | hne
            · exact absurd carries.account hne
            · exact absurd carries.device hne
            · exact absurd carries.envelope hne
          | fresh unknown _ => cases hfind.symm.trans unknown
      · next heq =>
        push Not at heq
        constructor
        · intro h
          cases hrest : db.insertEnvelopes sa sd now es with
          | error _ =>
            rw [hrest] at h
            cases h
          | ok r =>
            rw [hrest] at h
            cases h
            exact .known row hfind ⟨heq.1, heq.2.1, heq.2.2⟩ (insertEnvelopes_eq_ok.1 hrest)
        · intro h
          cases h with
          | known row' found _ rest =>
            cases hfind.symm.trans found
            rw [insertEnvelopes_eq_ok.2 rest]
            rfl
          | fresh unknown _ => cases hfind.symm.trans unknown
    | none =>
      rw [insertEnvelopes, insertEnvelope_fresh hfind]
      dsimp only
      rw [if_neg (by simp [EnvelopeRow.fresh])]
      constructor
      · intro h
        cases hrest : (db.withEnvelope sa sd e now).insertEnvelopes sa sd now es with
        | error _ =>
          rw [hrest] at h
          cases h
        | ok r =>
          rw [hrest] at h
          cases h
          exact .fresh hfind (insertEnvelopes_eq_ok.1 hrest)
      · intro h
        cases h with
        | known row found _ _ => cases hfind.symm.trans found
        | fresh _ rest =>
          rw [insertEnvelopes_eq_ok.2 rest]
          rfl

theorem find_withEnvelope_self (h : db.envelopes.find e.envelopeId = none) :
    (db.withEnvelope sa sd e now).envelopes.find e.envelopeId =
      some (.fresh (db.lastCursor + 1) sa sd e now) :=
  Table.find_eq_some.2 ⟨Table.mem_insertOrIgnore.2 (.inr ⟨rfl, Table.find_eq_none.1 h⟩), rfl⟩

/-- Nothing that is stored changes. -/
theorem find_withEnvelope {row : EnvelopeRow} {k : String} (h : db.envelopes.find e.envelopeId = none)
    (hrow : db.envelopes.find k = some row) :
    (db.withEnvelope sa sd e now).envelopes.find k = some row := by
  have hne : k ≠ e.envelopeId := by
    rintro rfl
    cases hrow.symm.trans h
  rw [← hrow]
  exact Table.find_insertOrIgnore_ne hne

theorem Inserts.find {row : EnvelopeRow} {k : String} (h : Inserts sa sd now db es stored db')
    (hrow : db.envelopes.find k = some row) : db'.envelopes.find k = some row := by
  induction h with
  | nil => exact hrow
  | known _ _ _ _ ih => exact ih hrow
  | fresh unknown _ ih => exact ih (find_withEnvelope unknown hrow)

/-- Every envelope of the list has its row in the end, and a row is one that was there or a fresh one of
an envelope of the list. -/
theorem Inserts.found (h : Inserts sa sd now db es stored db') :
    ∀ e ∈ es, ∃ row, db'.envelopes.find e.envelopeId = some row ∧ row.Carries sa sd e := by
  induction h with
  | nil => exact fun _ he => (nomatch he)
  | known row found carries rest ih =>
    intro e he
    rcases List.mem_cons.1 he with rfl | he
    · exact ⟨row, rest.find found, carries⟩
    · exact ih e he
  | fresh unknown rest ih =>
    intro e he
    rcases List.mem_cons.1 he with rfl | he
    · exact ⟨_, rest.find (find_withEnvelope_self unknown), ⟨rfl, rfl, rfl⟩⟩
    · exact ih e he

theorem Inserts.mem {row : EnvelopeRow} (h : Inserts sa sd now db es stored db')
    (hrow : row ∈ db'.envelopes) :
    row ∈ db.envelopes ∨ ∃ e ∈ es, ∃ cursor, row = .fresh cursor sa sd e now ∧
      db.envelopes.find e.envelopeId = none := by
  induction h with
  | nil => exact .inl hrow
  | known _ _ _ _ ih => exact (ih hrow).imp_right fun ⟨e, he, h⟩ => ⟨e, List.mem_cons_of_mem _ he, h⟩
  | @fresh db db' e es stored unknown rest ih =>
    rcases ih hrow with hmem | ⟨e', he', cursor, hfresh, hnone⟩
    · rcases Table.mem_insertOrIgnore.1 hmem with hmem | ⟨hmem, _⟩
      · exact .inl hmem
      · exact .inr ⟨e, List.mem_cons_self, _, hmem, unknown⟩
    · refine .inr ⟨e', List.mem_cons_of_mem _ he', cursor, hfresh, ?_⟩
      cases hold : db.envelopes.find e'.envelopeId with
      | none => rfl
      | some old =>
        cases (find_withEnvelope unknown hold).symm.trans hnone

/-- All but envelopes, usage and cursors is left alone. -/
theorem Inserts.aside (h : Inserts sa sd now db es stored db') :
    ∃ envelopes usage cursor, db' = { db with envelopes, usage, lastCursor := cursor } := by
  induction h with
  | nil => exact ⟨_, _, _, rfl⟩
  | known _ _ _ _ ih => exact ih
  | fresh _ _ ih =>
    obtain ⟨envelopes, usage, cursor, h⟩ := ih
    exact ⟨envelopes, usage, cursor, h⟩

/-! ## The row of the message -/

/-- The row is that of a message with the header, from this sender. -/
structure Heads (row : LogicalMessageRow) (senderAccount senderDevice : String)
    (h : BatchHeader) : Prop where
  account : row.senderAccountId = senderAccount
  device : row.senderDeviceId = senderDevice
  peer : row.peerAccountId = h.peer
  conversation : row.conversationId = h.conversation
  sentAt : row.clientSentAtMs = h.clientSentAtMs

/-- The row of a message that is stored now. -/
def messageRow (senderAccount senderDevice : String) (h : BatchHeader) (now : Int) : LogicalMessageRow :=
  { logicalMessageId := h.logicalId
    senderAccountId := senderAccount
    senderDeviceId := senderDevice
    peerAccountId := h.peer
    conversationId := h.conversation
    clientSentAtMs := h.clientSentAtMs
    acceptedAtMs := now
    deliveredAtMs := none }

theorem insertLogicalMessage_eq_ok {h : BatchHeader} :
    db.insertLogicalMessage sa sd h now = .ok db' ↔
      (∃ row, db.logicalMessages.find h.logicalId = some row ∧ Heads row sa sd h ∧ db' = db) ∨
      (db.logicalMessages.find h.logicalId = none ∧ (db.accounts.find sa).isSome ∧
        (db.devices.find sd).isSome ∧ (db.accounts.find h.peer).isSome ∧
        db' = { db with logicalMessages := db.logicalMessages.insertOrIgnore (messageRow sa sd h now) }) := by
  unfold insertLogicalMessage
  cases db.logicalMessages.find h.logicalId with
  | some row =>
    dsimp only
    split
    · next hne =>
      constructor
      · intro h
        cases h
      rintro (⟨_, hrow, heads, -⟩ | ⟨hrow, -⟩)
      · cases hrow
        rcases hne with hne | hne | hne | hne | hne
        · exact absurd heads.account hne
        · exact absurd heads.device hne
        · exact absurd heads.peer hne
        · exact absurd heads.conversation hne
        · exact absurd heads.sentAt hne
      · cases hrow
    · next heq =>
      push Not at heq
      obtain ⟨haccount, hdevice, hpeer, hconversation, hsent⟩ := heq
      constructor
      · intro h
        cases h
        exact .inl ⟨row, rfl, ⟨haccount, hdevice, hpeer, hconversation, hsent⟩, rfl⟩
      · rintro (⟨_, -, -, rfl⟩ | ⟨hrow, -⟩)
        · rfl
        · cases hrow
  | none =>
    dsimp only
    split
    · next hne =>
      constructor
      · intro h
        cases h
      rintro (⟨_, hrow, -⟩ | ⟨-, haccount, hdevice, hpeer, -⟩)
      · cases hrow
      · rcases hne with hne | hne | hne <;> rw [Option.isNone_iff_eq_none] at hne
        · rw [hne] at haccount
          cases haccount
        · rw [hne] at hdevice
          cases hdevice
        · rw [hne] at hpeer
          cases hpeer
    · next hne =>
      simp only [not_or, Bool.not_eq_true, Option.isNone_eq_false_iff] at hne
      obtain ⟨haccount, hdevice, hpeer⟩ := hne
      constructor
      · intro h
        cases h
        exact .inr ⟨rfl, haccount, hdevice, hpeer, rfl⟩
      · rintro (⟨_, hrow, -⟩ | ⟨-, -, -, -, rfl⟩)
        · cases hrow
        · rfl

/-! ## The checks -/

variable {sha256 : Bytes → Bytes} {limits : StorageLimits} {free : Nat}

/-- The sum of all accounts' bytes. -/
def totalUsage (db : Db) : Nat := db.usage.sum AccountStorageUsage.ciphertextBytes

/-- A batch passes all checks: `db₁` is the database with the row of its message, and `additional` the
number of bytes that its active envelopes add at most. -/
structure Accepted (db : Db) (sha256 : Bytes → Bytes) (sa sd : String) (es : List EncryptedEnvelope)
    (now : Int) (limits : StorageLimits) (free : Nat) (h : BatchHeader) (db₁ : Db) (additional : Nat) :
    Prop where
  header : checkBatch sha256 sa es = .ok h
  disk : limits.minFreeDiskBytes ≤ free
  message : db.insertLogicalMessage sa sd h now = .ok db₁
  available : es.filter db₁.recipientActive ≠ []
  peer : h.peer ≠ sa → ∃ e ∈ es, db₁.recipientActive e = true ∧ e.recipientAccountId = h.peer
  bytes : db₁.additionalBytes (es.filter db₁.recipientActive) = .ok additional
  account : db₁.usageOf sa + additional ≤ limits.maxAccountCiphertextBytes
  total : db₁.totalUsage + additional ≤ limits.maxTotalCiphertextBytes

theorem storeEnvelopes_eq_ok :
    db.storeEnvelopes sha256 sa sd es now limits free = .ok (stored, db') ↔
      ∃ h db₁ additional, db.Accepted sha256 sa sd es now limits free h db₁ additional ∧
        Inserts sa sd now db₁ (es.filter db₁.recipientActive) stored db' := by
  have havailable : ∀ (h : BatchHeader) (db₁ : Db),
      ¬(es.filter db₁.recipientActive = [] ∨ h.peer ≠ sa ∧
          (es.filter db₁.recipientActive).any (fun e => e.recipientAccountId = h.peer) = false) ↔
        es.filter db₁.recipientActive ≠ [] ∧
          (h.peer ≠ sa → ∃ e ∈ es, db₁.recipientActive e = true ∧ e.recipientAccountId = h.peer) := by
    intro h db₁
    rw [not_or, not_and, Bool.not_eq_false]
    simp
  simp only [storeEnvelopes, Except.bind_eq_ok, Except.throw_ite_eq_ok, havailable,
    insertEnvelopes_eq_ok, not_lt]
  constructor
  · rintro ⟨h, hh, hdisk, db₁, hmessage, ⟨havailable, hpeer⟩, additional, hbytes, haccount, htotal, hinserts⟩
    exact ⟨h, db₁, additional, ⟨hh, hdisk, hmessage, havailable, hpeer, hbytes, haccount, htotal⟩, hinserts⟩
  · rintro ⟨h, db₁, additional, ha, hinserts⟩
    exact ⟨h, ha.header, ha.disk, db₁, ha.message, ⟨ha.available, ha.peer⟩, additional, ha.bytes,
      ha.account, ha.total, hinserts⟩

/-- All but messages, envelopes, usage and cursors is left alone. -/
theorem storeEnvelopes_aside {r : List (String × Nat) × Db}
    (h : db.storeEnvelopes sha256 sa sd es now limits free = .ok r) :
    ∃ logicalMessages envelopes usage cursor,
      r.2 = { db with logicalMessages, envelopes, usage, lastCursor := cursor } := by
  obtain ⟨_, db₁, _, accepted, hinserts⟩ := storeEnvelopes_eq_ok.1 h
  obtain ⟨envelopes, usage, cursor, hdb⟩ := hinserts.aside
  rcases insertLogicalMessage_eq_ok.1 accepted.message with ⟨_, _, _, rfl⟩ | ⟨_, _, _, _, rfl⟩
  · exact ⟨_, envelopes, usage, cursor, hdb⟩
  · exact ⟨_, envelopes, usage, cursor, hdb⟩

/-! ## Usage -/

theorem usageOf_withEnvelope (a : String) :
    (db.withEnvelope sa sd e now).usageOf a = db.usageOf a + if a = sa then e.ciphertext.length else 0 := by
  unfold usageOf withEnvelope usageAdd EnvelopeRow.fresh
  dsimp only
  rw [Table.find_put]
  dsimp only
  split
  · next h =>
    subst h
    rfl
  · rfl

theorem totalUsage_withEnvelope :
    (db.withEnvelope sa sd e now).totalUsage = db.totalUsage + e.ciphertext.length := by
  have h := db.usage.sum_put (f := AccountStorageUsage.ciphertextBytes)
    { accountId := sa, ciphertextBytes := db.usageOf sa + e.ciphertext.length }
  have hold : ((db.usage.find sa).map AccountStorageUsage.ciphertextBytes).getD 0 = db.usageOf sa := rfl
  dsimp only at h
  rw [hold] at h
  have hnew : (db.withEnvelope sa sd e now).totalUsage =
      (db.usage.put { accountId := sa, ciphertextBytes := db.usageOf sa + e.ciphertext.length }).sum
        AccountStorageUsage.ciphertextBytes := rfl
  rw [hnew, totalUsage]
  omega

theorem additionalBytes_cons_eq_ok {n : Nat} :
    db.additionalBytes (e :: es) = .ok n ↔
      (∃ row, db.envelopes.find e.envelopeId = some row ∧ row.envelope.ciphertext = e.ciphertext ∧
        db.additionalBytes es = .ok n) ∨
      (db.envelopes.find e.envelopeId = none ∧
        ∃ m, db.additionalBytes es = .ok m ∧ n = e.ciphertext.length + m) := by
  rw [additionalBytes]
  cases db.envelopes.find e.envelopeId with
  | some row => by_cases hsame : row.envelope.ciphertext = e.ciphertext <;> simp [hsame]
  | none =>
    cases db.additionalBytes es with
    | error _ => simp [Except.map]
    | ok m => simp [Except.map, eq_comm]

/-- A list of envelopes adds at most the bytes that were computed for it, to the usage of its sender. -/
theorem Inserts.usage {db₀ : Db} {n : Nat} (h : Inserts sa sd now db es stored db')
    (hold : ∀ k, db.envelopes.find k = none → db₀.envelopes.find k = none)
    (hn : db₀.additionalBytes es = .ok n) :
    db'.usageOf sa ≤ db.usageOf sa + n ∧ db'.totalUsage ≤ db.totalUsage + n ∧
      ∀ a, a ≠ sa → db'.usageOf a = db.usageOf a := by
  induction h generalizing n with
  | nil => exact ⟨Nat.le_add_right _ _, Nat.le_add_right _ _, fun _ _ => rfl⟩
  | known row found carries rest ih =>
    rcases additionalBytes_cons_eq_ok.1 hn with ⟨_, _, _, hrest⟩ | ⟨_, m, hrest, rfl⟩
    · exact ih hold hrest
    · obtain ⟨haccount, htotal, hothers⟩ := ih hold hrest
      exact ⟨by omega, by omega, hothers⟩
  | @fresh db db' e es stored unknown rest ih =>
    have hold' : ∀ k, (db.withEnvelope sa sd e now).envelopes.find k = none →
        db₀.envelopes.find k = none := by
      intro k hk
      apply hold
      cases hfind : db.envelopes.find k with
      | none => rfl
      | some row =>
        cases (find_withEnvelope unknown hfind).symm.trans hk
    rcases additionalBytes_cons_eq_ok.1 hn with ⟨row, hfind, _, _⟩ | ⟨_, m, hrest, rfl⟩
    · cases (hold _ unknown).symm.trans hfind
    · obtain ⟨haccount, htotal, hothers⟩ := ih hold' hrest
      rw [usageOf_withEnvelope, if_pos rfl] at haccount
      rw [totalUsage_withEnvelope] at htotal
      refine ⟨by omega, by omega, fun a ha => ?_⟩
      rw [hothers a ha, usageOf_withEnvelope, if_neg ha, Nat.add_zero]

theorem ack_usage (db : Db) (deviceId envelopeId : String) (now : Int) :
    (db.ack deviceId envelopeId now).2.usage = db.usage := by
  unfold ack
  split <;> rfl

end Db

end TuiChat
