import TuiChat.Crypto.Vault
import TuiChat.Lib.Proc
import TuiChat.Lib.Table
import Mathlib.Data.List.Sort

/-!
# The vault of the local store

`crates/client/src/local.rs`: the columns that are encrypted, with the session that reads and writes them, and
the migration from a store that is encrypted under the passphrase alone. `unlock` and
`migrate_legacy_messages` are programs of statements; a transaction is one action.
-/

namespace TuiChat

open Lib (Bytes Proc Table Pool)
open Lib.Wire (utf8)

structure VaultSession where
  key : VaultKey
  legacyPassphrase : Option String

variable (C : VaultCrypto)

namespace VaultSession

def encrypt (vault : VaultSession) (nonce : FixedBytes 24) (aad plaintext : Bytes) : Except Error EncryptedBlob :=
  VaultKey.encrypt C vault.key nonce aad plaintext

def decrypt (vault : VaultSession) (aad : Bytes) (blob : EncryptedBlob) : Except Error Bytes :=
  if blob.version = 2 then VaultKey.decrypt C vault.key aad blob
  else if blob.version = 1 then
    match vault.legacyPassphrase with
    | none => .error "legacy local data requires migration"
    | some passphrase => decryptBlob C passphrase aad blob
  else .error ("unsupported local encryption version " ++ toString blob.version.toNat)

end VaultSession

def decodeEncryptedBlob (encoded : Bytes) : Except Error EncryptedBlob :=
  match EncryptedBlob.fromBytes C encoded with
  | .ok blob => .ok blob
  | .error _ => (C.bytesFromSlice encoded).bind (EncryptedBlob.fromBytes C)

/-! ## The tables -/

structure ProfileRow where
  encryptedBlob : Bytes
  encryptionVersion : Nat
deriving DecidableEq

structure MessageRow where
  logicalMessageId : String
  encryptedBody : Bytes
  sentAtMs : Int
  encryptionVersion : Nat
deriving DecidableEq

/-- The tables `vault` and `profile`, of one row at most, and `messages`. -/
structure VaultStore where
  wrappedKey : Option Bytes
  profile : Option ProfileRow
  messages : Table MessageRow.logicalMessageId

def profileAad : Bytes := utf8 "profile/v1"

def messageAad (id : String) : Bytes := utf8 ("message/v1/" ++ id)

namespace VaultStore

/-- `SELECT COUNT(*) FROM profile WHERE encryption_version = 1`. -/
def legacyProfiles (s : VaultStore) : Nat := (s.profile.toList.filter fun row => row.encryptionVersion = 1).length

/-- `SELECT COUNT(*) FROM messages WHERE encryption_version = 1`. -/
def legacyMessages (s : VaultStore) : Nat := s.messages.count fun row => row.encryptionVersion = 1

/-- The transaction that creates the vault and encrypts the profile under its key. -/
def createVault (key : VaultKey) (wrapped : WrappedVaultKey) (nonce : FixedBytes 24) (profilePlain : Option Bytes)
    (s : VaultStore) : Except Error Unit × VaultStore :=
  if s.wrappedKey.isSome then (.error "UNIQUE constraint failed: vault.singleton", s)
  else
    let s' := { s with wrappedKey := some wrapped.toBytes }
    match profilePlain with
    | none => (.ok (), s')
    | some plain =>
      match VaultKey.encrypt C key nonce profileAad plain with
      | .error e => (.error e, s)
      | .ok blob =>
        (.ok (), { s' with profile := s.profile.map fun _ => { encryptedBlob := blob.toBytes, encryptionVersion := 2 } })

/-- `UPDATE messages SET encrypted_body = ?, encryption_version = 2 WHERE logical_message_id = ? AND
encryption_version = 1`. -/
def updateBody (encoded : Bytes) (id : String) (s : VaultStore) : VaultStore :=
  { s with
    messages := s.messages.update (fun row => row.logicalMessageId = id && row.encryptionVersion = 1)
      (fun row => { row with encryptedBody := encoded, encryptionVersion := 2 }) fun _ => rfl }

/-- The statement of `save_profile`, with `encode_profile` of what the bytes encode. -/
def saveProfile (vault : VaultSession) (nonce : FixedBytes 24) (plain : Bytes) (s : VaultStore) :
    Except Error VaultStore :=
  (vault.encrypt C nonce profileAad plain).map fun blob =>
    { s with profile := some { encryptedBlob := blob.toBytes, encryptionVersion := 2 } }

/-- The `INSERT OR IGNORE INTO messages` of a message of the new format, with `encode_message`. -/
def insertMessage (vault : VaultSession) (id : String) (nonce : FixedBytes 24) (body : Bytes) (sentAtMs : Int)
    (s : VaultStore) : Except Error VaultStore :=
  (vault.encrypt C nonce (messageAad id) body).map fun blob =>
    { s with
      messages := s.messages.insertOrIgnore
        { logicalMessageId := id, encryptedBody := blob.toBytes, sentAtMs, encryptionVersion := 2 } }

/-- What `load_profile` decodes. -/
def openProfile (vault : VaultSession) (s : VaultStore) : Except Error (Option Bytes) :=
  match s.profile with
  | none => .ok none
  | some row =>
    (decodeEncryptedBlob C row.encryptedBlob).bind fun blob => (vault.decrypt C profileAad blob).map some

/-- What `decode_messages` makes the body of a message of. -/
def openMessage (vault : VaultSession) (s : VaultStore) (id : String) : Except Error (Option Bytes) :=
  match s.messages.find id with
  | none => .ok none
  | some row =>
    (decodeEncryptedBlob C row.encryptedBody).bind fun blob => (vault.decrypt C (messageAad id) blob).map some

end VaultStore

/-! ## The programs -/

/-- What a process has from its calls: the session, and the result of the migration. -/
structure VaultClient where
  session : Option VaultSession
  migrated : Option Nat

abbrev VaultM (α : Type) := Proc (VaultStore × VaultClient) Error α

namespace VaultM

/-- A statement that reads. -/
def select {α : Type} (f : VaultStore → α) : VaultM α := .atomically fun w => (.ok (f w.1), w)

/-- The profile of a store that has no vault. -/
def decryptProfile (passphrase : String) : Option Bytes → Except Error (Option Bytes)
  | none => .ok none
  | some encoded =>
    (decodeEncryptedBlob C encoded).bind fun blob => (decryptBlob C passphrase profileAad blob).map some

/-- `VACUUM INTO` a file of its own. -/
def backupBeforeVaultMigration : VaultM Unit := select fun _ => ()

def unlock (passphrase : String) (draw : VaultDraw) (profileNonce : FixedBytes 24) : VaultM VaultSession := do
  let existing ← select VaultStore.wrappedKey
  match existing with
  | some encoded => do
    let wrapped ← .ofExcept (WrappedVaultKey.fromBytes C encoded)
    let key ← .ofExcept (VaultKey.unlock C passphrase wrapped)
    let legacyCount ← select fun s => s.legacyProfiles + s.legacyMessages
    pure { key, legacyPassphrase := if legacyCount > 0 then some passphrase else none }
  | none => do
    let legacyProfile ← select fun s => s.profile.map ProfileRow.encryptedBlob
    let profilePlain ← .ofExcept (decryptProfile C passphrase legacyProfile)
    let () ← (if legacyProfile.isSome then backupBeforeVaultMigration else pure ())
    let (key, wrapped) ← .ofExcept (VaultKey.create C passphrase draw)
    .atomically fun w =>
      let (result, s) := w.1.createVault C key wrapped profileNonce profilePlain
      (result, (s, w.2))
    let legacyMessages ← select VaultStore.legacyMessages
    pure { key, legacyPassphrase := if legacyMessages > 0 then some passphrase else none }

/-- One turn of the loop of `migrate_legacy_messages`. -/
def migrateMessage (vault : VaultSession) (nonces : String → FixedBytes 24) (row : MessageRow) : VaultM Unit := do
  let blob ← .ofExcept (decodeEncryptedBlob C row.encryptedBody)
  let plaintext ← .ofExcept (vault.decrypt C (messageAad row.logicalMessageId) blob)
  let encoded ← .ofExcept (vault.encrypt C (nonces row.logicalMessageId) (messageAad row.logicalMessageId) plaintext)
  .atomically fun w => (.ok (), (w.1.updateBody encoded.toBytes row.logicalMessageId, w.2))

def migrateLegacyMessages (vault : VaultSession) (nonces : String → FixedBytes 24) : VaultM Nat := do
  let rows ← select fun s => (s.messages.rows.filter fun row => row.encryptionVersion = 1).insertionSort
    fun a b => a.sentAtMs ≤ b.sentAtMs
  Proc.each (migrateMessage C vault nonces) rows
  pure rows.length

end VaultM

/-! ## Processes on a store -/

/-- A write of the new format. -/
inductive VaultWrite
  | saveProfile (nonce : FixedBytes 24) (plain : Bytes)
  | insertMessage (id : String) (nonce : FixedBytes 24) (body : Bytes) (sentAtMs : Int)

def VaultWrite.run (vault : VaultSession) (s : VaultStore) : VaultWrite → Except Error VaultStore
  | saveProfile nonce plain => s.saveProfile C vault nonce plain
  | insertMessage id nonce body sentAtMs => s.insertMessage C vault id nonce body sentAtMs

/-- What happens to the processes `ι` that have the store open. `advance` is the next action of a process's
program, `stop` the end of the program where it stands, by a failing statement or by the process, and `crash`
the end of every process. -/
inductive VaultEvent (ι : Type)
  | unlock (i : ι) (draw : VaultDraw) (profileNonce : FixedBytes 24)
  | migrate (i : ι) (nonces : String → FixedBytes 24)
  | advance (i : ι)
  | stop (i : ι)
  | write (i : ι) (writes : List VaultWrite)
  | crash

abbrev VaultPool (ι : Type) := Pool ι VaultStore VaultClient Error

namespace VaultPool

variable {ι : Type}

def newProcess : VaultClient := { session := none, migrated := none }

/-- A store that no process has open. -/
def closed (s : VaultStore) : VaultPool ι := { shared := s, locals := fun _ => newProcess, tasks := fun _ => none }

variable [DecidableEq ι]

/-- A process unlocks with the passphrase, and has the session from then on. -/
def unlockTask (passphrase : String) (draw : VaultDraw) (profileNonce : FixedBytes 24) : VaultM Unit := do
  let session ← VaultM.unlock C passphrase draw profileNonce
  .atomically fun w => (.ok (), (w.1, { session := some session, migrated := none }))

/-- The task that a process spawns. -/
def migrateTask (vault : VaultSession) (nonces : String → FixedBytes 24) : VaultM Unit := do
  let migrated ← VaultM.migrateLegacyMessages C vault nonces
  .atomically fun w => (.ok (), (w.1, { w.2 with migrated := some migrated }))

def step (passphrase : String) (p : VaultPool ι) : VaultEvent ι → VaultPool ι
  | .unlock i draw profileNonce => p.start i (unlockTask C passphrase draw profileNonce)
  | .migrate i nonces =>
    match (p.locals i).session with
    | none => p
    | some vault => p.start i (migrateTask C vault nonces)
  | .advance i => p.advance i
  | .stop i => { p with tasks := Function.update p.tasks i none }
  | .write i writes =>
    match (p.locals i).session with
    | none => p
    | some vault =>
      match writes.foldlM (VaultWrite.run C vault) p.shared with
      | .error _ => p
      | .ok s => { p with shared := s }
  | .crash => closed p.shared

def run (passphrase : String) (p : VaultPool ι) (events : List (VaultEvent ι)) : VaultPool ι :=
  events.foldl (step C passphrase) p

end VaultPool

end TuiChat
