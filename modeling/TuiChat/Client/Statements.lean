import TuiChat.Client.Effects

/-!
# The statements on messages, outbox and tombstones

What a crash leaves of the three tables is what the statements before it have made of them. `Statement`
lists the statements and transactions of the client that change one of them, and `Statement.run` says
what each does. The first `n` statements of `complete_outbox` are one of them, so that a completion may be
cut. Every method takes the tables along statements (`Persists`).
-/

namespace TuiChat

open Lib
open Lib.Prog (Moves wp)
open Relation (ReflTransGen)

variable {P : Primitives} {env : Environment}

/-- The ids of the messages that an event has committed to the outbox. -/
def Event.offered : Event → List String
  | .queued message => message.envelopes.map EncryptedEnvelope.logicalMessageId
  | _ => []

/-- The envelopes of a row. -/
def OutboxRow.envelopes (row : OutboxRow) : List EncryptedEnvelope :=
  match row.encodedFrame.body with
  | some (.sendEnvelopes message) => message.envelopes
  | _ => []

/-- Every envelope of the row is of its message. -/
def OutboxRow.Uniform (row : OutboxRow) : Prop :=
  ∀ e ∈ row.envelopes, e.logicalMessageId = row.logicalMessageId

instance (row : OutboxRow) : Decidable row.Uniform := by unfold OutboxRow.Uniform; infer_instance

/-- The three tables, and the ids that have ever been committed to the outbox. -/
structure Persisted where
  messages : Table ChatMessage.id
  outbox : Table OutboxRow.logicalMessageId
  tombstones : Table ConversationTombstone.peerAccountId
  offered : List String

def World.persisted (w : World P) : Persisted :=
  { messages := w.store.messages
    outbox := w.store.outbox
    tombstones := w.store.tombstones
    offered := w.log.flatMap Event.offered }

namespace Persisted

def empty : Persisted :=
  { messages := ∅
    outbox := ∅
    tombstones := ∅
    offered := [] }

def insert (s : Persisted) (m : ChatMessage) : Persisted :=
  { s with messages := s.messages.insertOrIgnore m }

def offer (s : Persisted) (row : OutboxRow) : Persisted :=
  { s with
    outbox := s.outbox.put row
    offered := row.envelopes.map EncryptedEnvelope.logicalMessageId ++ s.offered }

def raise (s : Persisted) (id : String) (status : MessageStatus) (p : ChatMessage → Bool) : Persisted :=
  if (s.messages.find id).any fun m => p m && m.status.rank < status.rank then
    { s with messages := s.messages.update (fun m => m.id = id) (fun m => { m with status }) (Store.status_id status) }
  else s

def removeOutbox (s : Persisted) (id : String) : Persisted :=
  { s with outbox := s.outbox.delete fun row => row.logicalMessageId = id }

def markSynced (s : Persisted) (syncEventId : String) : Persisted :=
  { s with
    tombstones := s.tombstones.update (fun t => t.syncEventId = syncEventId)
      (fun t => { t with pendingSync := false }) Store.synced_peerAccountId }

/-- The first `n` statements of `complete_outbox`. -/
def complete (s : Persisted) (id : String) (n : Nat) : Persisted :=
  let removed := if 1 ≤ n then s.removeOutbox id else s
  let marked := if 2 ≤ n then removed.markSynced id else removed
  if 3 ≤ n then marked.raise id .sent fun _ => true else marked

def merged (s : Persisted) (t : ConversationTombstone) : ConversationTombstone :=
  ((s.tombstones.find t.peerAccountId).map fun old => Store.mergeTombstone old t).getD t

/-- The deletion of a conversation, with its tombstone. -/
def delete (s : Persisted) (t : ConversationTombstone) : Option Persisted :=
  if s.tombstones.rows.any fun other =>
      other.peerAccountId ≠ (s.merged t).peerAccountId && other.syncEventId = (s.merged t).syncEventId
  then none
  else some { s with
    outbox := s.outbox.delete fun row => s.messages.rows.any fun m =>
      m.conversationId = t.conversationId && m.id = row.logicalMessageId
    messages := s.messages.delete fun m => m.conversationId = t.conversationId
    tombstones := s.tombstones.put (s.merged t) }

def verify (s : Persisted) (accountId : String) : Persisted :=
  { s with
    outbox := s.outbox.delete fun row => s.tombstones.rows.any fun t =>
      t.peerAccountId = accountId && t.syncEventId = row.logicalMessageId
    tombstones := s.tombstones.delete fun t => t.peerAccountId = accountId }

end Persisted

inductive Statement
  /-- `commit_outgoing`: a message of the own account, and its frame. -/
  | written (m : ChatMessage) (row : OutboxRow)
  /-- `commit_control_outgoing`. -/
  | queued (row : OutboxRow)
  /-- A message that came in an envelope. -/
  | received (m : ChatMessage)
  /-- A message that another device has handed over. -/
  | imported (m : ChatMessage)
  | raised (id : String) (status : MessageStatus) (p : ChatMessage → Bool)
  | completed (id : String) (n : Nat)
  /-- A deletion that no other device has to be told of. -/
  | synced (syncEventId : String)
  /-- `delete_conversation_everywhere` and `commit_conversation_deletion`. -/
  | deleted (t : ConversationTombstone)
  | verified (accountId : String)

namespace Statement

/-- The statement on the tables; what the client never makes of it is `none`. -/
def run (s : Persisted) : Statement → Option Persisted
  | .written m row => if row.logicalMessageId = m.id ∧ row.Uniform then some ((s.insert m).offer row) else none
  | .queued row => if row.Uniform then some (s.offer row) else none
  | .received m => if m.status = .delivered then some (s.insert m) else none
  | .imported m => some (s.insert m)
  | .raised id status p => some (s.raise id status p)
  | .completed id n => some (s.complete id n)
  | .synced syncEventId => some (s.markSynced syncEventId)
  | .deleted t => s.delete t
  | .verified accountId => some (s.verify accountId)

/-- Any statement but those of a completion. -/
def Ordinary : Statement → Prop
  | .completed .. => False
  | _ => True

end Statement

/-- The tables of a client, statement by statement. -/
def storeSystem : System Persisted Statement := System.ofFun (fun s => s = .empty) fun s st => st.run s

/-! ## Programs -/

/-- The tables change by statements of a kind. -/
def Persists (C : Statement → Prop) (w w' : World P) : Prop :=
  ReflTransGen (fun s s' => ∃ st, C st ∧ Statement.run s st = some s') w.persisted w'.persisted

section

variable {C D : Statement → Prop} {w w' w'' : World P}

instance : Std.Refl (Persists (P := P) C) := ⟨fun _ => ReflTransGen.refl⟩

instance : IsTrans (World P) (Persists C) := ⟨fun _ _ _ => ReflTransGen.trans⟩

namespace Persists

theorem of_eq (h : w'.persisted = w.persisted) : Persists C w w' := by
  unfold Persists
  rw [h]

theorem single (st : Statement) (hC : C st) (h : st.run w.persisted = some w'.persisted) :
    Persists C w w' :=
  ReflTransGen.single ⟨st, hC, h⟩

theorem mono (hCD : ∀ st, C st → D st) (h : Persists C w w') : Persists D w w' :=
  ReflTransGen.mono (fun _ _ ⟨st, hst, hrun⟩ => ⟨st, hCD st hst, hrun⟩) _ _ h

/-- The tables of a reachable state, and the statements of its runs. -/
theorem reachableUnder (h : Persists C w w') (hw : storeSystem.ReachableUnder (fun _ => C) w.persisted) :
    storeSystem.ReachableUnder (fun _ => C) w'.persisted := by
  unfold Persists at h
  generalize w'.persisted = s' at h ⊢
  induction h with
  | refl => exact hw
  | tail _ hstep ih =>
    obtain ⟨st, hC, hrun⟩ := hstep
    exact .step ih hC hrun

end Persists

end

/-- A program that changes the tables by ordinary statements. -/
abbrev IsOrdinary {α : Type} (m : ClientM P α) : Prop := Moves (Persists Statement.Ordinary) m

/-- The three tables are the same. -/
structure Store.SameTables (s s' : Store P) : Prop where
  messages : s'.messages = s.messages
  outbox : s'.outbox = s.outbox
  tombstones : s'.tombstones = s.tombstones

/-! ## Statements of the store -/

namespace Store

variable {s s' : Store P}

theorem SameTables.rfl : s.SameTables s := ⟨Eq.refl _, Eq.refl _, Eq.refl _⟩

theorem insertMessage_tables {m : ChatMessage} (h : s.insertMessage m = some s') :
    s'.messages = s.messages.insertOrIgnore m ∧ s'.outbox = s.outbox ∧ s'.tombstones = s.tombstones := by
  unfold insertMessage at h
  split at h
  · next old hold =>
    cases h
    exact ⟨(Table.insertOrIgnore_of_find hold).symm, Eq.refl _, Eq.refl _⟩
  · obtain ⟨summaries, -, rfl⟩ := Option.map_eq_some_iff.1 h
    exact ⟨Eq.refl _, Eq.refl _, Eq.refl _⟩

theorem raiseStatus_tables (w : World P) (id : String) (status : MessageStatus) (p : ChatMessage → Bool) :
    World.persisted { w with store := w.store.raiseStatus id status p } = w.persisted.raise id status p := by
  unfold raiseStatus Persisted.raise
  cases hm : w.store.messages.find id with
  | none =>
    rw [show w.persisted.messages.find id = none from hm]
    rfl
  | some m =>
    rw [show w.persisted.messages.find id = some m from hm, Option.any_some]
    dsimp only
    split
    · rfl
    · rfl

theorem putTombstone_tables {t : ConversationTombstone} (h : s.putTombstone t = some s') :
    (s.tombstones.rows.any fun other => other.peerAccountId ≠ (s.mergedTombstone t).peerAccountId &&
        other.syncEventId = (s.mergedTombstone t).syncEventId) = false ∧
      s' = { s with tombstones := s.tombstones.put (s.mergedTombstone t) } := by
  unfold putTombstone at h
  split at h
  · cases h
  · next hnone => exact ⟨Bool.eq_false_iff.2 hnone, (Option.some.inj h).symm⟩

end Store

end TuiChat
