import TuiChat.Client.Statements
import TuiChat.Client.SyncSteps

/-!
# What a device keeps of messages, deletions and notifications

`Ledger` is what a client has stored that other devices and the peers have a say in, with the envelopes it
has processed and the account it is of. `Change` lists what can happen to it, each with its cause: a
statement, an envelope that was opened, an action of the user. `Change.run` says what each does, and
`Change.Of` which of them an action of the client may make. Every method takes the ledger along such
changes (`Changes`), so that a property of the runs of `ledgerSystem` is one of every run of a client.
-/

namespace TuiChat

open Lib
open Lib.Prog (Moves wp)
open Relation (ReflTransGen)

variable {P : Primitives}

/-- The account and the device that a profile is of. -/
structure Owner where
  accountId : String
  username : String
  deviceId : String
  masterKey : Bytes
deriving DecidableEq, Repr

def RuntimeProfile.owner (profile : RuntimeProfile P) : Owner :=
  { accountId := profile.accountId
    username := profile.username
    deviceId := profile.identity.deviceId
    masterKey := profile.accountMasterPublic }

/-- Cursor and id of the envelope that an event has processed. -/
def Event.handledEnvelope : Event → Option (Nat × String)
  | .processed cursor id => some (cursor, id)
  | _ => none

def NotificationState.answered : NotificationState → Bool
  | .accepted | .rejected => true
  | _ => false

/-! ## Changes -/

/-- What became of an envelope that was opened. -/
inductive Branch
  /-- Its payload is not stored. -/
  | control
  /-- A text of an own device in a deleted conversation is ignored. -/
  | suppressed
  | received
  /-- A text of a sender that is not verified is stored with a notification. -/
  | quarantined (n : Notification)
  /-- The conversation is deleted. -/
  | deleted

inductive Change (P : Primitives)
  /-- The profile is stored. -/
  | saved
  /-- The process starts on the stored profile. -/
  | restarted
  /-- A message or frame is stored, or a status is raised. -/
  | stated (st : Statement)
  /-- The event of a deletion is stored in the outbox. -/
  | announced (t : ConversationTombstone) (row : OutboxRow)
  /-- A deletion has no other device to be told of. -/
  | unaddressed (syncEventId : String)
  /-- The first statements of the completion of a message. -/
  | completed (id : String) (n : Nat)
  /-- The user deletes a conversation. -/
  | deletedHere (t : ConversationTombstone)
  | verified (accountId : String)
  | processed (o : Opened P) (branch : Branch)
  /-- A notification is written, with the answer an older one of its request may have had. -/
  | noted (n : Notification)
  /-- The user accepts or rejects a request. -/
  | answered (n : Notification)
  /-- A response is taken from an envelope. -/
  | answeredBy (o : Opened P) (n : Notification)
  /-- A state that is not an answer is set. -/
  | marked (id : String) (state : NotificationState) (read : Bool) (now : Int)
  /-- The state that is shown is stored again. -/
  | dismissed (n : Notification) (now : Int)
  | seen (id : String) (now : Int)
  | unnoted (id : String)

structure Ledger (P : Primitives) where
  tables : Persisted
  notifications : Table Notification.requestId
  /-- The envelopes that were processed, newest first. -/
  processed : List (Nat × String)
  /-- Whose profile is in memory. -/
  owner : Owner
  /-- Whose profile is stored. -/
  stored : Owner
  /-- What has happened, newest first. -/
  past : List (Change P)

def World.ledger (w : World P) (past : List (Change P)) : Ledger P :=
  { tables := w.persisted
    notifications := w.store.notifications
    processed := w.log.filterMap Event.handledEnvelope
    owner := w.app.profile.owner
    stored := w.store.profile.owner
    past }

/-- The tombstone that the event of another device leaves. -/
def Opened.tombstone (o : Opened P) : ConversationTombstone :=
  { peerAccountId := o.payload.peerAccountId
    peerUsername := o.payload.text
    conversationId := o.envelope.conversationId
    syncEventId := o.payload.messageId
    deletedAtMs := o.payload.sentAtMs
    pendingSync := false }

namespace Ledger

variable (s : Ledger P)

/-- Tables and notifications without a conversation. -/
def delete (t : ConversationTombstone) : Option (Ledger P) :=
  (s.tables.delete t).map fun tables => { s with
    tables
    notifications := s.notifications.delete fun n =>
      n.actorAccountId = t.peerAccountId && (n.kind = .chatRequest || n.kind = .chatResponse) }

def note (n : Notification) : Ledger P := { s with notifications := s.notifications.put n }

def statement (st : Statement) : Option (Ledger P) := (st.run s.tables).map fun tables => { s with tables }

def mark (id : String) (state : NotificationState) (read : Bool) (now : Int) : Ledger P :=
  { s with
    notifications := s.notifications.update (fun n => n.id = id)
      (fun n => { n with state, read, updatedAtMs := now }) (Store.state_requestId state read now) }

end Ledger

/-- What is stored of an envelope beside that it was processed. -/
def Branch.effect (o : Opened P) (s : Ledger P) : Branch → Option (Ledger P)
  | .control | .suppressed => some s
  | .received => s.statement (.received (o.message o.peer !o.senderIsSelf))
  | .quarantined n => (s.statement (.received (o.message o.stored.senderAccountId true))).map fun s' => s'.note n
  | .deleted => s.delete o.tombstone

namespace Change

/-- The effect of a change, but for its record. -/
def effect (s : Ledger P) : Change P → Option (Ledger P)
  | .saved => some { s with stored := s.owner }
  | .restarted => some { s with owner := s.stored }
  | .stated st => s.statement st
  | .announced _ row => s.statement (.queued row)
  | .unaddressed syncEventId => s.statement (.synced syncEventId)
  | .completed id n => s.statement (.completed id n)
  | .deletedHere t => s.delete t
  | .verified accountId => s.statement (.verified accountId)
  | .processed o branch => (Branch.effect o s branch).map fun s' => { s' with
      processed := (o.stored.cursor, o.envelope.envelopeId) :: s.processed }
  | .noted n | .answered n | .answeredBy _ n => some (s.note n)
  | .marked id state read now => some (s.mark id state read now)
  | .dismissed n now => some (s.mark n.id n.state true now)
  | .seen id now => some { s with
      notifications := s.notifications.update (fun n => n.id = id)
        (fun n => { n with read := true, updatedAtMs := now }) (Store.read_requestId now) }
  | .unnoted id => some { s with notifications := s.notifications.delete fun n => n.id = id }

def run (s : Ledger P) (c : Change P) : Option (Ledger P) :=
  (c.effect s).map fun s' => { s' with past := c :: s.past }

end Change

/-! ## What a client establishes -/

/-- The answer of a notification is one that its request has had. -/
def Ledger.Keeps (s : Ledger P) (n : Notification) : Prop :=
  n.state.answered = true → ∃ old ∈ s.notifications, old.requestId = n.requestId ∧ old.state.answered = true

/-- The server has given a bundle for the own account. -/
def OwnBundle (env : Environment) (owner : Owner) (bundle : UserBundle) : Prop :=
  (∃ n, env.answer n (.lookupUser { exactUsername := owner.username }) = .ok (some (.userBundle bundle))) ∧
    bundle.accountId = owner.accountId ∧ bundle.accountMasterKey = owner.masterKey

/-- What the event of a deletion encrypts. -/
def deletionEvent (owner : Owner) (t : ConversationTombstone) : Outgoing :=
  { logicalId := t.syncEventId
    conversationId := t.conversationId
    sentAtMs := t.deletedAtMs
    payload := WirePayload.toVec
      { version := 3
        kind := "conversation_deleted"
        messageId := t.syncEventId
        senderUsername := owner.username
        senderAccountId := owner.accountId
        peerAccountId := t.peerAccountId
        peerUsername := t.peerUsername
        sentAtMs := t.deletedAtMs
        text := t.peerUsername
        relatedMessageId := none
        relatedMessageIds := [] } }

/-- Every envelope is for its target, under the ids and the time of the message. -/
def Addressed (o : Outgoing) : List Target → List EncryptedEnvelope → Prop :=
  List.Forall₂ fun t e => e.logicalMessageId = o.logicalId ∧ e.conversationId = o.conversationId ∧
    e.clientSentAtMs = o.sentAtMs ∧ e.recipientAccountId = t.accountId ∧ e.recipientDeviceId = t.device.deviceId

/-- The envelopes are a message, encrypted for the targets. -/
def Encrypts (P : Primitives) (env : Environment) (o : Outgoing) (targets : List Target)
    (envelopes : List EncryptedEnvelope) : Prop :=
  ∃ (machine machine' : OlmMachine P.olm) (w w' : World P),
    (encryptTargets env o machine targets).exec w = (.ok (envelopes, machine'), w')

/-- A row carries the event of a deletion to every other active device that the server named. -/
def Announces (P : Primitives) (env : Environment) (owner : Owner) (t : ConversationTombstone)
    (row : OutboxRow) : Prop :=
  ∃ bundle, OwnBundle env owner bundle ∧ targetsBut owner.deviceId bundle ≠ [] ∧
    row.logicalMessageId = t.syncEventId ∧
    Encrypts P env (deletionEvent owner t) (targetsBut owner.deviceId bundle) row.envelopes

/-- The tombstone is stored, whether it is pending or not. -/
def Persisted.Lists (s : Persisted) (t : ConversationTombstone) : Prop :=
  ∃ pendingSync, { t with pendingSync } ∈ s.tombstones

/-- An envelope was opened. -/
def Opened.Result (env : Environment) (o : Opened P) : Prop :=
  ∃ w w' : World P, (openEnvelope env o.stored).exec w = (.ok o, w')

namespace Change

/-- The changes that any method may make. -/
def Basic (env : Environment) (s : Ledger P) : Change P → Prop
  | .saved | .restarted | .seen .. | .unnoted _ => True
  | .stated st => match st with
    | .written .. | .queued _ | .imported _ | .raised .. => True
    | _ => False
  | .announced t row => s.tables.Lists t ∧ Announces P env s.owner t row
  | .unaddressed _ => ∃ bundle, OwnBundle env s.owner bundle ∧ targetsBut s.owner.deviceId bundle = []
  | .noted n => s.Keeps n
  | .marked _ state .. => state.answered = false
  | _ => False

end Change

/-- The changes that tell other devices of deletions. -/
def Change.Syncs (env : Environment) (s : Ledger P) (c : Change P) : Prop :=
  c.Basic env s ∧ match c with
  | .saved | .announced .. | .unaddressed _ => True
  | _ => False

/-- What a branch requires of its envelope. -/
def Branch.Of (s : Ledger P) (o : Opened P) : Branch → Prop
  | .control => o.payload.kind ≠ "text" ∧ o.payload.kind ≠ "conversation_deleted"
  | .suppressed => o.payload.kind = "text" ∧ o.senderIsSelf = true ∧
      ∃ t ∈ s.tables.tombstones, t.peerAccountId = o.peer
  | .received => o.payload.kind = "text"
  | .quarantined n => o.payload.kind = "text" ∧ s.Keeps n
  | .deleted => o.payload.kind = "conversation_deleted" ∧ o.senderIsSelf = true

/-- An envelope of the batch that an action handles. -/
def Opened.Received (env : Environment) (a : Action) (o : Opened P) : Prop :=
  o.Result env ∧ ∃ f batch, a = .serverEvent f ∧ f.body = some (.syncBatch batch) ∧ o.stored ∈ batch.envelopes

/-- The changes of an action. -/
def Change.Of (env : Environment) (a : Action) (s : Ledger P) (c : Change P) : Prop :=
  c.Basic env s ∨ match c with
  | .completed id n =>
    (∃ f accepted, a = .serverEvent f ∧ f.body = some (.sendAccepted accepted) ∧
      id = accepted.logicalMessageId) ∧ (n = 3 ∨ ∃ k, env.works k = false)
  | .deletedHere t => t.pendingSync = true ∧ ∃ username, a = .deleteConversation t.peerAccountId username
  | .verified _ => a = .verifySelected ∨ a = .activateNotificationPrimary
  | .processed o branch => o.Received env a ∧ branch.Of s o
  | .answered _ =>
    a = .activateSelectedNotification ∨ a = .activateNotificationPrimary ∨ a = .rejectSelectedChatRequest
  | .answeredBy o n => o.Received env a ∧ o.payload.kind = "chat_response" ∧
      o.payload.relatedMessageId = some n.requestId
  | .dismissed .. => a = .dismissSelectedNotification
  | _ => False

/-! ## The system -/

def Ledger.empty (owner : Owner) : Ledger P :=
  { tables := .empty
    notifications := ∅
    processed := []
    owner
    stored := owner
    past := [] }

/-- The ledgers of a client, change by change, each with the action it is made in. -/
def ledgerSystem (env : Environment) (owner : Owner) : System (Ledger P) (Action × Change P) where
  init s := s = .empty owner
  step s l s' := l.2.Of env l.1 s ∧ l.2.run s = some s'

/-! ## Programs -/

/-- The ledger changes by changes of a kind. -/
def Changes (C : Ledger P → Change P → Prop) (w w' : World P) : Prop :=
  ∀ past, ∃ past', ReflTransGen (fun s s' => ∃ c, C s c ∧ Change.run s c = some s')
    (w.ledger past) (w'.ledger past')

/-- A kind of changes that has those of any method. -/
class Admits (env : Environment) (C : Ledger P → Change P → Prop) : Prop where
  basic : ∀ s c, Change.Basic env s c → C s c

theorem admitted (env : Environment) {C : Ledger P → Change P → Prop} [Admits env C] {s : Ledger P} {c : Change P}
    (h : c.Basic env s) : C s c := Admits.basic s c h

instance (env : Environment) (a : Action) : Admits env (Change.Of (P := P) env a) := ⟨fun _ _ => .inl⟩

section

variable {C D : Ledger P → Change P → Prop} {w w' w'' : World P}

instance : Std.Refl (Changes C) := ⟨fun _ past => ⟨past, .refl⟩⟩

instance : IsTrans (World P) (Changes C) := ⟨fun _ _ _ h h' past => by
  obtain ⟨past₁, h₁⟩ := h past
  obtain ⟨past₂, h₂⟩ := h' past₁
  exact ⟨past₂, h₁.trans h₂⟩⟩

namespace Changes

theorem of_eq (h : ∀ past, w'.ledger past = w.ledger past) : Changes C w w' := fun past =>
  ⟨past, by rw [h]⟩

theorem single (c : Change P) (hC : ∀ past, C (w.ledger past) c)
    (h : ∀ past, c.effect (w.ledger past) = some (w'.ledger past)) : Changes C w w' := fun past => by
  refine ⟨c :: past, .single ⟨c, hC past, ?_⟩⟩
  unfold Change.run
  rw [h]
  rfl

theorem mono (hCD : ∀ s c, C s c → D s c) (h : Changes C w w') : Changes D w w' := fun past => by
  obtain ⟨past', h'⟩ := h past
  exact ⟨past', ReflTransGen.mono (fun _ _ ⟨c, hc, hrun⟩ => ⟨c, hCD _ _ hc, hrun⟩) _ _ h'⟩

/-- What every change of the kind keeps is kept. -/
theorem invariant {I : Ledger P → Prop} (h : Changes C w w') (past : List (Change P)) (hI : I (w.ledger past))
    (step : ∀ s c s', I s → C s c → c.run s = some s' → I s') : ∃ past', I (w'.ledger past') := by
  obtain ⟨past', h'⟩ := h past
  refine ⟨past', ?_⟩
  generalize w'.ledger past' = s' at h' ⊢
  induction h' with
  | refl => exact hI
  | tail _ hs ih =>
    obtain ⟨c, hc, hrun⟩ := hs
    exact step _ _ _ ih hc hrun

/-- The changes of an action lead from what its runs reach to what they reach. -/
theorem reachable {env : Environment} {a : Action} {owner : Owner} {past : List (Change P)}
    (h : Changes (Change.Of env a) w w') (hw : (ledgerSystem env owner).Reachable (w.ledger past)) :
    ∃ past', (ledgerSystem env owner).Reachable (w'.ledger past') :=
  h.invariant past hw fun _ c _ hs hc hrun => .step (i := (a, c)) hs True.intro ⟨hc, hrun⟩

/-- What runs on from where changes have led. -/
theorem wp_of {α : Type} {m : ClientM P α} (h : Changes C w w')
    (hm : wp m (fun _ => Changes C w') (fun _ => Changes C w') w') :
    wp m (fun _ => Changes C w) (fun _ => Changes C w) w' :=
  hm.mono (fun _ _ h' => IsTrans.trans _ _ _ h h') fun _ _ h' => IsTrans.trans _ _ _ h h'

end Changes

end

/-- Every run of `m` takes the ledger along changes of a kind. -/
abbrev Alters {α : Type} (C : Ledger P → Change P → Prop) (m : ClientM P α) : Prop := Moves (Changes C) m

/-! ## Effects -/

section

variable {env : Environment} {C : Ledger P → Change P → Prop}

theorem modifyApp_alters {f : App P → App P} (h : ∀ app, (f app).profile.owner = app.profile.owner) :
    Alters C (modifyApp f) :=
  .modify fun w => .of_eq fun past => by simp [World.ledger, World.persisted, h]

theorem getApp_alters {α : Type} (f : App P → α) : Alters C (getApp f) := .gets _

theorem setStatus_alters (status : String) : Alters C (setStatus status : ClientM P Unit) :=
  modifyApp_alters fun _ => rfl

theorem record_alters {e : Event} (h : e.offered = []) (h' : e.handledEnvelope = none) :
    Alters C (record e : ClientM P Unit) :=
  .modify fun w => .of_eq fun past => by simp [World.ledger, World.persisted, h, h']

theorem draw_alters : Alters C (draw : ClientM P Nat) :=
  .bind (.gets _) fun _ => .bind (.modify fun _ => .of_eq fun _ => rfl) fun _ => .pure _

theorem nowMs_alters : Alters C (nowMs env : ClientM P Int) := .bind draw_alters fun _ => .pure _

theorem instantNow_alters : Alters C (instantNow env : ClientM P Nat) := .bind draw_alters fun _ => .pure _

theorem newUuid_alters : Alters C (newUuid env : ClientM P String) := .bind draw_alters fun _ => .pure _

theorem attempt_alters (e : Error) : Alters C (attempt env e : ClientM P Unit) :=
  .bind draw_alters fun _ => .ensure _ _

theorem query_alters {α : Type} (f : Store P → α) : Alters C (query env f) :=
  .bind (attempt_alters _) fun _ => .gets _

theorem sendFrame_alters (f : Frame) : Alters C (sendFrame env f : ClientM P Unit) :=
  .bind (attempt_alters _) fun _ => .modify fun _ => .of_eq fun _ => rfl

theorem notify_alters (body : Body) : Alters C (notify env body : ClientM P Unit) := sendFrame_alters _

theorem request_alters (body : Body) : Alters C (request env body : ClientM P (Option Body)) :=
  .bind newUuid_alters fun _ => .bind (sendFrame_alters _) fun _ => .bind draw_alters fun n => by
    split
    · exact .fail _
    · exact .fail _
    · exact .pure _

theorem executeRecording_alters {f : World P → Option (Store P)} {events : World P → List Event}
    (h : ∀ w store, f w = some store → Changes C w { w with store, log := events w ++ w.log }) :
    Alters C (executeRecording env f events) := .of_wp fun w => by
  have hticked : Changes C w w.ticked := .of_eq fun _ => rfl
  exact wp_executeRecording (fun _ => hticked) fun store hs => IsTrans.trans _ _ _ hticked (h _ store hs)

/-- What the ledger has of a store is the same. -/
structure Store.SameLedger (s s' : Store P) : Prop extends Store.SameTables s s' where
  notifications : s'.notifications = s.notifications
  owner : s'.profile.owner = s.profile.owner

/-- Events that are neither of the outbox nor of an envelope. -/
def AreAside (events : List Event) : Prop :=
  events.flatMap Event.offered = [] ∧ events.filterMap Event.handledEnvelope = []

theorem ledger_events {w : World P} {store : Store P} {events : List Event} (h : AreAside events)
    (past : List (Change P)) :
    World.ledger { w with store, log := events ++ w.log } past = World.ledger { w with store } past := by
  simp [World.ledger, World.persisted, h.1, h.2]

theorem executeRecording_aside {f : World P → Option (Store P)} {events : World P → List Event}
    (hevents : ∀ w, AreAside (events w)) (h : ∀ w store, f w = some store → w.store.SameLedger store) :
    Alters C (executeRecording env f events) :=
  executeRecording_alters fun w store hs => .of_eq fun past => by
    obtain ⟨⟨hmessages, houtbox, htombstones⟩, hnotifications, howner⟩ := h w store hs
    rw [ledger_events (hevents w)]
    simp [World.ledger, World.persisted, hmessages, houtbox, htombstones, hnotifications, howner]

theorem execute_aside {f : Store P → Option (Store P)} (h : ∀ s s', f s = some s' → s.SameLedger s') :
    Alters C (execute env f) :=
  executeRecording_aside (fun _ => ⟨rfl, rfl⟩) fun w store hs => h w.store store hs

theorem execute_some_aside {f : Store P → Store P}
    (h : ∀ s : Store P, s.SameLedger (f s)) :
    Alters C (execute env fun s => some (f s)) :=
  execute_aside fun s s' hs => by
    cases hs
    exact h s

/-- One change in a transaction without an event that the ledger has. -/
theorem wp_executeChange {f : World P → Option (Store P)} {events : World P → List Event} {w : World P}
    (hevents : ∀ w, AreAside (events w))
    (h : ∀ w' store, (∀ past, w'.ledger past = w.ledger past) → f w' = some store → ∃ c : Change P,
      (∀ past, C (w'.ledger past) c) ∧
        ∀ past, c.effect (w'.ledger past) = some (World.ledger { w' with store } past)) :
    wp (executeRecording env f events) (fun _ => Changes C w) (fun _ => Changes C w) w := by
  have hticked : Changes C w w.ticked := .of_eq fun _ => rfl
  refine wp_executeRecording (fun _ => hticked) fun store hs => ?_
  obtain ⟨c, hC, heffect⟩ := h w.ticked store (fun _ => rfl) hs
  refine IsTrans.trans _ _ _ hticked (.single c hC fun past => ?_)
  rw [heffect, ledger_events (hevents _)]

theorem executeRecording_change {f : World P → Option (Store P)} {events : World P → List Event}
    (hevents : ∀ w, AreAside (events w))
    (h : ∀ w store, f w = some store → ∃ c : Change P, (∀ past, C (w.ledger past) c) ∧
      ∀ past, c.effect (w.ledger past) = some (World.ledger { w with store } past)) :
    Alters C (executeRecording env f events) :=
  .of_wp fun _ => wp_executeChange hevents fun w' store _ => h w' store

end

end TuiChat
