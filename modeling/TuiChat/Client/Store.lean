import TuiChat.Client.Payload
import TuiChat.Crypto.Machine
import Mathlib.Data.List.Sort
import Mathlib.Data.Char
import Mathlib.Data.List.Lex

/-!
# The tables of the local store

`crates/client/src/local.rs` and the client's migrations: the tables and what each statement or
transaction does to them. A statement that a constraint stops gives `none`. The vault is left out:
columns that hold an encrypted or encoded value hold the value.
-/

namespace TuiChat

open Lib

def messagePageSize : Nat := 100

structure RuntimeProfile (P : Primitives) where
  username : String
  accountId : String
  identity : DeviceIdentity
  machine : OlmMachine P.olm
  pending : Bool
  pairingSecret : Option Bytes
  accountMasterPublic : Bytes
  serverCapabilities : List String

/-- A row of `contacts`; the columns `account_id` and `username` are those of the bundle. -/
structure ContactRow where
  bundle : UserBundle
  verified : Bool
  identityChanged : Bool
deriving DecidableEq, Repr

def ContactRow.accountId (row : ContactRow) : String := row.bundle.accountId

/-- A contact with what its conversation's summary adds. -/
structure Contact where
  bundle : UserBundle
  verified : Bool
  identityChanged : Bool
  unreadCount : Nat
  lastActivityMs : Int
deriving DecidableEq, Repr

structure ConversationSummary where
  conversationId : String
  peerAccountId : String
  lastActivityMs : Int
  unreadCount : Nat
deriving DecidableEq, Repr

structure OutboxRow where
  logicalMessageId : String
  encodedFrame : Frame
  createdAtMs : Int
deriving DecidableEq, Repr

structure ConversationTombstone where
  peerAccountId : String
  peerUsername : String
  conversationId : String
  syncEventId : String
  deletedAtMs : Int
  pendingSync : Bool
deriving DecidableEq, Repr

inductive NotificationKind
  | pairing
  | chatRequest
  | chatResponse
deriving DecidableEq, Repr

inductive NotificationState
  | pending
  | inProgress
  | accepted
  | rejected
  | completed
  | failed
deriving DecidableEq, Repr

inductive NotificationData
  | pairing (pendingSide : Bool) (pairingId pendingDeviceId pendingDeviceName : String)
      (sasPublicKey : Bytes) (pendingDevice : DeviceBundle)
  | chatRequest (outgoing : Bool) (requestId senderAccountId senderUsername senderDeviceId : String)
      (senderBundle : UserBundle)
  | chatResponse (requestId : String) (accepted : Bool)
deriving DecidableEq, Repr

structure Notification where
  id : String
  kind : NotificationKind
  requestId : String
  actorAccountId : String
  actorUsername : String
  actorDeviceId : String
  state : NotificationState
  read : Bool
  createdAtMs : Int
  updatedAtMs : Int
  data : NotificationData
deriving DecidableEq, Repr

structure Draft where
  conversationId : String
  text : String
deriving DecidableEq, Repr

structure Store (P : Primitives) where
  profile : RuntimeProfile P
  contacts : Table ContactRow.accountId
  messages : Table ChatMessage.id
  outbox : Table OutboxRow.logicalMessageId
  envelopeCursor : Nat
  statusCursor : Nat
  drafts : Table Draft.conversationId
  summaries : Table ConversationSummary.conversationId
  processedPairingEvents : List Nat
  notifications : Table Notification.requestId
  tombstones : Table ConversationTombstone.peerAccountId

namespace Store

variable {P : Primitives}

/-! ## Contacts -/

/-- The `LEFT JOIN` of a contact with the summary of its conversation. -/
def joined (s : Store P) (row : ContactRow) : Contact :=
  let summary := s.summaries.rows.find? fun summary => summary.peerAccountId = row.accountId
  { bundle := row.bundle
    verified := row.verified
    identityChanged := row.identityChanged
    unreadCount := (summary.map ConversationSummary.unreadCount).getD 0
    lastActivityMs := (summary.map ConversationSummary.lastActivityMs).getD 0 }

def rowByUsername (s : Store P) (username : String) : Option ContactRow :=
  s.contacts.rows.find? fun row => nocase row.bundle.username = nocase username

def contactByUsername (s : Store P) (username : String) : Option Contact :=
  (s.rowByUsername username).map s.joined

/-- `ORDER BY last_activity_ms DESC, username`. -/
def contactOrder (a b : Contact) : Bool :=
  b.lastActivityMs < a.lastActivityMs ||
    (a.lastActivityMs = b.lastActivityMs && nocase a.bundle.username ≤ nocase b.bundle.username)

def contactList (s : Store P) : List Contact :=
  (s.contacts.rows.map s.joined).insertionSort fun a b => contactOrder a b

/-- Insert or update by account id; another account's row with the user name stops it. -/
def putContact (s : Store P) (row : ContactRow) : Option (Store P) :=
  if s.contacts.rows.any fun other =>
      other.accountId ≠ row.accountId && nocase other.bundle.username = nocase row.bundle.username
  then none
  else some { s with contacts := s.contacts.put row }

/-- The row of an imported contact. -/
def importRow (c : TransferContact) : ContactRow :=
  { bundle := c.bundle, verified := c.verified, identityChanged := false }

/-- All contacts of a transfer, in one transaction. -/
def importContacts (s : Store P) : List TransferContact → Option (Store P)
  | [] => some s
  | c :: cs => (s.putContact (importRow c)).bind fun s' => s'.importContacts cs

def exportContacts (s : Store P) : List TransferContact :=
  (s.contacts.rows.insertionSort fun a b => nocase a.bundle.username ≤ nocase b.bundle.username).map
    fun row => { bundle := row.bundle, verified := row.verified }

/-- The transaction of `verify_contact`. -/
def verifyContact (s : Store P) (accountId : String) : Store P :=
  { s with
    contacts := s.contacts.update (fun row => row.accountId = accountId)
      (fun row => { row with verified := true, identityChanged := false }) fun _ => rfl
    outbox := s.outbox.delete fun row => s.tombstones.rows.any fun tombstone =>
      tombstone.peerAccountId = accountId && tombstone.syncEventId = row.logicalMessageId
    tombstones := s.tombstones.delete fun tombstone => tombstone.peerAccountId = accountId }

/-! ## Messages and their summaries -/

/-- The trigger on an inserted message, under the `OR IGNORE` of the insertion: the summary of the
conversation is updated, or inserted unless another conversation has the peer. -/
def summaryInsert (summaries : Table ConversationSummary.conversationId) (message : ChatMessage) :
    Option (Table ConversationSummary.conversationId) :=
  let unread := if message.inbound && message.status ≠ .read then 1 else 0
  let peerTaken := summaries.rows.any fun summary =>
    summary.peerAccountId = message.peerAccountId && summary.conversationId ≠ message.conversationId
  match summaries.find message.conversationId with
  | some summary =>
    if peerTaken then none
    else some (summaries.put { summary with
      peerAccountId := message.peerAccountId
      lastActivityMs := max summary.lastActivityMs message.sentAtMs
      unreadCount := summary.unreadCount + unread })
  | none =>
    if peerTaken then some summaries
    else some (summaries.put {
      conversationId := message.conversationId
      peerAccountId := message.peerAccountId
      lastActivityMs := message.sentAtMs
      unreadCount := unread })

/-- `INSERT OR IGNORE INTO messages`. -/
def insertMessage (s : Store P) (message : ChatMessage) : Option (Store P) :=
  match s.messages.find message.id with
  | some _ => some s
  | none => (summaryInsert s.summaries message).map fun summaries =>
      { s with messages := s.messages.insertOrIgnore message, summaries }

/-- The trigger on a message that becomes read. -/
def summaryRead (summaries : Table ConversationSummary.conversationId) (message : ChatMessage) :
    Table ConversationSummary.conversationId :=
  summaries.update (fun summary => summary.conversationId = message.conversationId)
    (fun summary => { summary with unreadCount := summary.unreadCount - 1 }) fun _ => rfl

theorem status_id (status : MessageStatus) (m : ChatMessage) : ({ m with status } : ChatMessage).id = m.id := rfl

/-- `UPDATE messages SET status`, for the message of the id where `p` holds of it and its status is
lower. -/
def raiseStatus (s : Store P) (id : String) (status : MessageStatus) (p : ChatMessage → Bool) : Store P :=
  match s.messages.find id with
  | none => s
  | some message =>
    if p message && message.status.rank < status.rank then
      { s with
        messages := s.messages.update (fun m => m.id = id) (fun m => { m with status }) (status_id status)
        summaries := if message.inbound && message.status ≠ .read && status = .read then
          summaryRead s.summaries message else s.summaries }
    else s

def updateStatus (s : Store P) (id : String) (status : MessageStatus) : Store P :=
  s.raiseStatus id status fun _ => true

def updateOutboundStatusForPeer (s : Store P) (id peerAccountId : String) (status : MessageStatus) :
    Store P :=
  s.raiseStatus id status fun message => message.peerAccountId = peerAccountId && !message.inbound

/-- `(sent_at_ms, logical_message_id)` in order. -/
def messageOrder (a b : ChatMessage) : Bool :=
  a.sentAtMs < b.sentAtMs || (a.sentAtMs = b.sentAtMs && a.id ≤ b.id)

/-- The last page of the rows, oldest first. -/
def lastPage (rows : List ChatMessage) : List ChatMessage :=
  let sorted := rows.insertionSort fun a b => messageOrder a b
  sorted.drop (sorted.length - messagePageSize)

def messagesOf (s : Store P) (conversation : String) : List ChatMessage :=
  lastPage (s.messages.rows.filter fun message => message.conversationId = conversation)

def messagesBefore (s : Store P) (conversation : String) (sentAtMs : Int) (id : String) :
    List ChatMessage :=
  lastPage (s.messages.rows.filter fun message => message.conversationId = conversation &&
    (message.sentAtMs < sentAtMs || (message.sentAtMs = sentAtMs && message.id < id)))

def exportMessages (s : Store P) : List ChatMessage :=
  s.messages.rows.insertionSort fun a b => a.sentAtMs ≤ b.sentAtMs

/-! ## Transactions that carry the ratchet state -/

def saveProfile (s : Store P) (profile : RuntimeProfile P) : Store P := { s with profile }

def setCursor (s : Store P) (cursor : Nat) : Store P := { s with envelopeCursor := cursor }

def putOutbox (s : Store P) (id : String) (frame : Frame) (now : Int) : Store P :=
  { s with outbox := s.outbox.put { logicalMessageId := id, encodedFrame := frame, createdAtMs := now } }

def commitOutgoing (s : Store P) (profile : RuntimeProfile P) (message : ChatMessage) (frame : Frame)
    (now : Int) : Option (Store P) :=
  ((s.saveProfile profile).insertMessage message).map fun s' => s'.putOutbox message.id frame now

def commitControlOutgoing (s : Store P) (profile : RuntimeProfile P) (id : String) (frame : Frame)
    (now : Int) : Store P :=
  (s.saveProfile profile).putOutbox id frame now

def commitInbound (s : Store P) (profile : RuntimeProfile P) (message : ChatMessage) (cursor : Nat) :
    Option (Store P) :=
  ((s.saveProfile profile).insertMessage message).map fun s' => s'.setCursor cursor

def commitControl (s : Store P) (profile : RuntimeProfile P) (cursor : Nat) : Store P :=
  (s.saveProfile profile).setCursor cursor

/-! ## Notifications -/

/-- Insert, or update by request id; another row with the id stops it. -/
def putNotification (s : Store P) (n : Notification) : Option (Store P) :=
  if s.notifications.rows.any fun other => other.requestId ≠ n.requestId && other.id = n.id then none
  else some { s with notifications := s.notifications.put n }

/-- `save_notification`: as `putNotification`, but an existing row keeps its creation time. -/
def saveNotification (s : Store P) (n : Notification) : Option (Store P) :=
  match s.notifications.find n.requestId with
  | some old => s.putNotification { n with createdAtMs := old.createdAtMs }
  | none => s.putNotification n

def commitUnverifiedInbound (s : Store P) (profile : RuntimeProfile P) (message : ChatMessage)
    (notification : Notification) (cursor : Nat) : Option (Store P) :=
  (((s.saveProfile profile).insertMessage message).bind fun s' => s'.putNotification notification).map
    fun s' => s'.setCursor cursor

/-- `ORDER BY created_at_ms DESC, id DESC`. -/
def notificationOrder (a b : Notification) : Bool :=
  b.createdAtMs < a.createdAtMs || (a.createdAtMs = b.createdAtMs && b.id ≤ a.id)

def notificationList (s : Store P) : List Notification :=
  (s.notifications.rows.insertionSort fun a b => notificationOrder a b).take 200

theorem state_requestId (state : NotificationState) (read : Bool) (now : Int) (n : Notification) :
    ({ n with state, read, updatedAtMs := now } : Notification).requestId = n.requestId := rfl

theorem read_requestId (now : Int) (n : Notification) :
    ({ n with read := true, updatedAtMs := now } : Notification).requestId = n.requestId := rfl

def updateNotificationState (s : Store P) (id : String) (state : NotificationState) (read : Bool)
    (now : Int) : Store P :=
  { s with
    notifications := s.notifications.update (fun n => n.id = id)
      (fun n => { n with state, read, updatedAtMs := now }) (state_requestId state read now) }

def markNotificationRead (s : Store P) (id : String) (now : Int) : Store P :=
  { s with
    notifications := s.notifications.update (fun n => n.id = id)
      (fun n => { n with read := true, updatedAtMs := now }) (read_requestId now) }

def deleteNotification (s : Store P) (id : String) : Store P :=
  { s with notifications := s.notifications.delete fun n => n.id = id }

/-! ## Deletion of a conversation -/

def deleteConversationState (s : Store P) (peerAccountId conversationId : String) : Store P :=
  { s with
    outbox := s.outbox.delete fun row => s.messages.rows.any fun message =>
      message.conversationId = conversationId && message.id = row.logicalMessageId
    messages := s.messages.delete fun message => message.conversationId = conversationId
    drafts := s.drafts.delete fun draft => draft.conversationId = conversationId
    summaries := s.summaries.delete fun summary => summary.conversationId = conversationId
    notifications := s.notifications.delete fun n =>
      n.actorAccountId = peerAccountId && (n.kind = .chatRequest || n.kind = .chatResponse)
    contacts := s.contacts.delete fun row => row.accountId = peerAccountId }

/-- What the tombstone of an account becomes when another of it arrives. -/
def mergeTombstone (old new : ConversationTombstone) : ConversationTombstone :=
  let newer := new.deletedAtMs ≥ old.deletedAtMs
  { peerAccountId := old.peerAccountId
    peerUsername := if newer then new.peerUsername else old.peerUsername
    conversationId := if newer then new.conversationId else old.conversationId
    syncEventId :=
      if old.pendingSync then old.syncEventId
      else if new.pendingSync then new.syncEventId
      else if newer then new.syncEventId else old.syncEventId
    deletedAtMs := max new.deletedAtMs old.deletedAtMs
    pendingSync := new.pendingSync || old.pendingSync }

/-- The row that `upsert_conversation_tombstone` writes. -/
def mergedTombstone (s : Store P) (tombstone : ConversationTombstone) : ConversationTombstone :=
  ((s.tombstones.find tombstone.peerAccountId).map fun old => mergeTombstone old tombstone).getD
    tombstone

/-- `upsert_conversation_tombstone`; another account's row with the event id stops it. -/
def putTombstone (s : Store P) (tombstone : ConversationTombstone) : Option (Store P) :=
  if s.tombstones.rows.any fun other =>
      other.peerAccountId ≠ (s.mergedTombstone tombstone).peerAccountId &&
        other.syncEventId = (s.mergedTombstone tombstone).syncEventId
  then none
  else some { s with tombstones := s.tombstones.put (s.mergedTombstone tombstone) }

def deleteConversationEverywhere (s : Store P) (tombstone : ConversationTombstone) :
    Option (Store P) :=
  (s.deleteConversationState tombstone.peerAccountId tombstone.conversationId).putTombstone
    { tombstone with pendingSync := true }

def commitConversationDeletion (s : Store P) (profile : RuntimeProfile P)
    (tombstone : ConversationTombstone) (cursor : Nat) : Option (Store P) :=
  ((s.deleteConversationState tombstone.peerAccountId tombstone.conversationId).putTombstone
    { tombstone with pendingSync := false }).map fun s' => (s'.saveProfile profile).setCursor cursor

def tombstoned (s : Store P) (peerAccountId : String) : Bool :=
  (s.tombstones.find peerAccountId).isSome

def pendingConversationDeletions (s : Store P) : List ConversationTombstone :=
  (s.tombstones.rows.filter ConversationTombstone.pendingSync).insertionSort
    fun a b => a.deletedAtMs ≤ b.deletedAtMs

theorem synced_peerAccountId (t : ConversationTombstone) :
    ({ t with pendingSync := false } : ConversationTombstone).peerAccountId = t.peerAccountId := rfl

def markConversationDeletionSynced (s : Store P) (syncEventId : String) : Store P :=
  { s with
    tombstones := s.tombstones.update (fun tombstone => tombstone.syncEventId = syncEventId)
      (fun tombstone => { tombstone with pendingSync := false }) synced_peerAccountId }

/-! ## Outbox, drafts and pairing events -/

def outboxList (s : Store P) : List (String × Frame) :=
  (s.outbox.rows.insertionSort fun a b => a.createdAtMs ≤ b.createdAtMs).map
    fun row => (row.logicalMessageId, row.encodedFrame)

def removeOutbox (s : Store P) (id : String) : Store P :=
  { s with outbox := s.outbox.delete fun row => row.logicalMessageId = id }

def saveDraft (s : Store P) (conversation text : String) : Store P :=
  if text = "" then
    { s with drafts := s.drafts.delete fun draft => draft.conversationId = conversation }
  else { s with drafts := s.drafts.put { conversationId := conversation, text } }

def loadDraft (s : Store P) (conversation : String) : String :=
  ((s.drafts.find conversation).map Draft.text).getD ""

def markPairingEventProcessed (s : Store P) (id : Nat) : Store P :=
  if id ∈ s.processedPairingEvents then s
  else { s with processedPairingEvents := s.processedPairingEvents ++ [id] }

end Store

end TuiChat
