import TuiChat.Client.Events
import TuiChat.Crypto.Ratchet
import Mathlib.Logic.Relation

/-!
# What a client can do to its state

`View` is the part of a client's state that the results are about, and `ViewStep` says once what can
happen to it: a bundle is written to a contact row, a safety code is shown, a message is stored, a
frame is sent, a pairing is started, a machine is replaced by one derived from it, and so on, each
with what the program has established when it does it. Every method of the client moves its view
along such steps; the invariants are proved of the steps.

`QuietStep` are the steps that leave profile, machine and cursor alone.
-/

namespace TuiChat

open Lib

variable {P : Primitives}

structure View (P : Primitives) where
  profile : RuntimeProfile P
  stored : RuntimeProfile P
  rows : Table ContactRow.accountId
  messages : Table ChatMessage.id
  /-- The contact list in memory. -/
  memory : List Contact
  /-- The index of the selected contact in it. -/
  selected : Option Nat
  /-- The conversations of the messages in memory. -/
  shown : List String
  cursor : Nat
  pairing : Option PairingSession
  /-- The pairing requests at hand, in memory or in a notification. -/
  known : List PairingRequest
  /-- The bodies of the frames in the outbox. -/
  queued : List (Option Body)
  sent : List Frame
  /-- The pairing events that are marked as processed. -/
  handled : List Nat
  log : List Event

/-- The requests that notifications were made of. -/
def noticedRequests (notifications : List Notification) : List PairingRequest :=
  notifications.filterMap fun n => n.data.pairingRequest

def World.view (w : World P) : View P :=
  { profile := w.app.profile
    stored := w.store.profile
    rows := w.store.contacts
    messages := w.store.messages
    memory := w.app.contacts
    selected := w.app.selected
    shown := w.app.messages.map ChatMessage.conversationId
    cursor := w.store.envelopeCursor
    pairing := w.app.pairing
    known := w.app.pairingRequests ++ noticedRequests w.app.notifications ++
      noticedRequests w.store.notifications.rows
    queued := w.store.outbox.rows.map fun row => row.encodedFrame.body
    sent := w.sent
    handled := w.store.processedPairingEvents
    log := w.log }

namespace View

/-- The master key the client holds for an account. -/
def heldKey (v : View P) (accountId : String) : Option Bytes :=
  if accountId = v.profile.accountId then some v.profile.accountMasterPublic
  else (v.rows.find accountId).map fun row => row.bundle.accountMasterKey

def selectedAccount (v : View P) : Option String := accountAt v.memory v.selected

/-- The conversation is that with the selected account. -/
def Selects (v : View P) (conversation : String) : Prop :=
  ∃ account, v.selectedAccount = some account ∧
    conversation = conversationId P.sha256 v.profile.accountId account

/-- The key of an account's row. -/
def keyOf (v : View P) (accountId : String) : Option Bytes :=
  (v.rows.find accountId).map fun row => row.bundle.accountMasterKey

/-- What is recorded when a bundle is written to its account's row. -/
def keyWritten (v : View P) (bundle : UserBundle) : Event :=
  .keyWritten bundle.accountId bundle.accountMasterKey
    (v.keyOf bundle.accountId ≠ some bundle.accountMasterKey)
    (v.messages.rows.any fun m => m.inbound &&
      m.conversationId = conversationId P.sha256 v.stored.accountId bundle.accountId)

/-- The view with another machine, in the profile and in the stored one. -/
def withMachine (v : View P) (machine : OlmMachine P.olm) : View P :=
  { v with profile := { v.profile with machine }, stored := { v.profile with machine } }

/-- What the client knows of a commit: the device is certified by the bundle's key, and a bundle
that is not the own one is in its account's row. -/
structure Sourced (v : View P) (c : Commit) : Prop where
  held : c.heldKey = v.heldKey c.sender
  certified : Certified P c.source.masterKey c.source.bundleAccountId c.source.device
  row : c.sender ≠ v.profile.accountId →
    v.keyOf c.source.bundleAccountId = some c.source.masterKey

theorem Sourced.logged {v : View P} {c : Commit} (h : v.Sourced c) (log : List Event) :
    ({ v with log } : View P).Sourced c := ⟨h.held, h.certified, h.row⟩

/-- A message the client stores: one that was written here, one that a pairing channel brought, or
one of a commit. -/
inductive Storable (v : View P) (m : ChatMessage) : Prop
  | own (inbound : m.inbound = false)
      (conversation : m.conversationId = conversationId P.sha256 v.profile.accountId m.peerAccountId)
      (status : m.status = .sending) (provenance : m.provenance = none)
  | migrated (s : PairingSession) (pending : v.profile.pending = true)
      (logged : Event.migrated s (.message m.id) ∈ v.log) (provenance : m.provenance = none)
  | received (c : Commit) (logged : Event.committed c ∈ v.log) (sourced : v.Sourced c)
      (messageId : c.messageId = m.id) (peer : c.peer = m.peerAccountId)
      (conversation : c.conversationId = m.conversationId) (status : m.status = .delivered)
      (provenance : m.provenance = some c.source)
      (inbound : m.inbound = true → c.sender = m.peerAccountId ∧ c.sender ≠ v.profile.accountId)

/-- A frame that carries the master secret over the channel of a session. -/
def CarriesMaster (s : PairingSession) (f : Frame) : Prop :=
  ∃ payload, f.body = some (pairingEvent s.pairingId s.peerDeviceId "bootstrap" payload)

/-- What the client has established when it sends a body that is not of its outbox. -/
def Allows (v : View P) : Option Body → Prop
  | some (.syncRequest m) => m.afterCursor ≤ v.cursor
  | some (.activateDevice m) => ∃ s d, .certified s d ∈ v.log ∧ m.pairingId = s.pairingId ∧
      m.device = some d ∧ ∃ f ∈ v.sent, CarriesMaster s f
  | some (.ackPairingEvent m) => m.serverEventId ∈ v.handled
  | some (.ackEnvelope _) | some (.sendEnvelopes _) => False
  | _ => True

end View

/-- A body that is not one of those `Allows` asks something of. -/
def Body.plain : Body → Bool
  | .syncRequest _ | .activateDevice _ | .ackPairingEvent _ | .ackEnvelope _
  | .sendEnvelopes _ => false
  | _ => true

theorem View.allows_plain {v : View P} {body : Body} (h : body.plain = true) :
    v.Allows (some body) := by
  cases body <;> first | trivial | cases h

/-- A session with other marks of confirmation. -/
def PairingSession.marked (s : PairingSession) (our peer : Bool) : PairingSession :=
  { s with ourConfirmed := our, peerConfirmed := peer }

/-- A session that an approver starts for a request. -/
structure PairingRequest.Starts (P : Primitives) (r : PairingRequest) (s : PairingSession) :
    Prop where
  pairingId : s.pairingId = r.pairingId
  peer : s.peerDeviceId = r.pendingDeviceId
  device : r.pendingDevice = some s.pendingDevice
  channel : ∃ secret, establish P secret r.sasPublicKey r.pairingId = .ok s.channel
  approver : s.approver = true
  unconfirmed : s.ourConfirmed = false ∧ s.peerConfirmed = false

/-- A session that a pending device enters with a key it was sent. -/
structure PairingSession.Joins (P : Primitives) (s : PairingSession) (secret : Option Bytes) :
    Prop where
  channel : ∃ own peer, secret = some own ∧ establish P own peer s.pairingId = .ok s.channel
  pending : s.approver = false
  unconfirmed : s.ourConfirmed = false ∧ s.peerConfirmed = false

/-- Every device of an id that was encrypted for or decrypted from has the identity key. -/
def Uses (id : String) (key : Bytes) (log : List Event) : Prop :=
  ∀ d : DeviceBundle, (Event.decrypted d ∈ log ∨ ∃ k, Event.encrypted d k ∈ log) →
    d.deviceId = id → d.olmCurve25519Key = key

/-- `m'` comes from `m` by the operations; where a device id has one key in the log, a machine bound
to it stays bound. -/
structure Derived (log : List Event) (ops : List MachineOp) (m m' : OlmMachine P.olm) : Prop where
  line : Line m ops m'
  bound : P.olm.Bound → ∀ id key, Uses id key log → m.BoundTo id key → m'.BoundTo id key

/-- `m'` comes from `m` by operations that encrypt nothing. -/
def Received (log : List Event) (m m' : OlmMachine P.olm) : Prop :=
  ∃ ops, Derived log ops m m' ∧ ops.filter MachineOp.isEncryption = []

/-- A message has the status it was raised to. -/
structure Raise.Reaches (cause : Raise) (id : String) (m : ChatMessage) : Prop where
  id : m.id = id
  status : m.status = cause.status
  peer : ∀ peer, cause = .readBy peer → m.peerAccountId = peer

/-- The index that a reading of the contact list leaves. -/
def Reread.Leaves (reread : Reread) (v : View P) (contacts : List Contact) (selected : Option Nat) :
    Prop :=
  match reread with
  | .unmapped aligned => selected = v.selected ∧ aligned = decide (accountAt contacts selected = v.selectedAccount)
  | .selecting account found => selected = account.bind (positionOf contacts) ∧
      found = account.all fun a => (positionOf contacts a).isSome

inductive QuietStep : View P → View P → Prop
  /-- `upsert_contact`; the row found under the user name is the account's. -/
  | upsert {v : View P} (old : Option ContactRow) (bundle : UserBundle)
      (found : ∀ row, old = some row → row ∈ v.rows ∧ row.accountId = bundle.accountId) :
    QuietStep v { v with
      rows := v.rows.put (upsertRow old bundle)
      log := v.keyWritten bundle :: v.log }
  /-- `import_contacts`, of one contact, on a device that is being paired. -/
  | imported {v : View P} (c : TransferContact) (s : PairingSession)
      (pending : v.profile.pending = true) (current : v.pairing = some s)
      (confirmed : s.ourConfirmed = true) :
    QuietStep v { v with
      rows := v.rows.put (Store.importRow c)
      log := v.keyWritten c.bundle :: .migrated s (.contact c.bundle) :: v.log }
  /-- The contact list is read from the rows. -/
  | loaded {v : View P} (contacts : List Contact) (selected : Option Nat) (reread : Reread)
      (rows : ∀ c ∈ contacts, ∃ row ∈ v.rows, c.bundle = row.bundle ∧ c.verified = row.verified ∧
        c.identityChanged = row.identityChanged)
      (leaves : reread.Leaves v contacts selected) :
    QuietStep v { v with memory := contacts, selected, log := .contactsLoaded reread :: v.log }
  /-- Messages of the selected conversation are shown; others go. -/
  | shown {v : View P} (shown : List String) (selects : ∀ c ∈ shown, c ∈ v.shown ∨ v.Selects c) :
    QuietStep v { v with shown }
  /-- What is shown, and the draft, are the selected conversation's. -/
  | opened {v : View P} (selects : ∀ c ∈ v.shown, v.Selects c) :
    QuietStep v { v with log := .opened v.selectedAccount :: v.log }
  | displayed {v : View P} (c : Contact) (mem : c ∈ v.memory) :
    QuietStep v { v with log := .displayed c.bundle.accountId c.bundle.accountMasterKey :: v.log }
  /-- A row is marked verified. -/
  | verified {v : View P} (account : String) :
    QuietStep v { v with
      rows := v.rows.update (fun row => row.accountId = account)
        (fun row => { row with verified := true, identityChanged := false }) fun _ => rfl
      log := .verified account (v.keyOf account) :: v.log }
  /-- The flags of contacts in memory change. -/
  | flags {v : View P} (contacts : List Contact)
      (bundles : contacts.map Contact.bundle = v.memory.map Contact.bundle) :
    QuietStep v { v with memory := contacts }
  /-- The conversation with an account is deleted. -/
  | deleted {v : View P} (peer conversation : String)
      (own : conversation = conversationId P.sha256 v.profile.accountId peer) :
    QuietStep v { v with
      rows := v.rows.delete fun row => row.accountId = peer
      messages := v.messages.delete fun m => m.conversationId = conversation }
  | committed {v : View P} (c : Commit) (sourced : v.Sourced c) :
    QuietStep v { v with log := .committed c :: v.log }
  | message {v : View P} (m : ChatMessage) (storable : v.Storable m) :
    QuietStep v { v with messages := v.messages.insertOrIgnore m }
  /-- The status of a message is raised. -/
  | raised {v : View P} (id : String) (cause : Raise) (messages : Table ChatMessage.id)
      (rows : ∀ m ∈ messages, ∃ m' ∈ v.messages, m = { m' with status := m.status } ∧
        (m.status = m'.status ∨ cause.Reaches id m)) :
    QuietStep v { v with messages, log := .raised id cause :: v.log }
  | decrypted {v : View P} (d : DeviceBundle) :
    QuietStep v { v with log := .decrypted d :: v.log }
  /-- A ciphertext is made with a machine derived from the current one. -/
  | encrypted {v : View P} (d : DeviceBundle) (k : Option Bytes)
      (bound : P.olm.Bound → Uses d.deviceId d.olmCurve25519Key v.log →
        v.profile.machine.BoundTo d.deviceId d.olmCurve25519Key → k = some d.olmCurve25519Key) :
    QuietStep v { v with log := .encrypted d k :: v.log }
  /-- Requests go, or come from the server; frames leave the outbox. -/
  | aside {v : View P} (known : List PairingRequest) (queued : List (Option Body))
      (requests : ∀ r ∈ known, r ∈ v.known ∨ Event.requested r ∈ v.log)
      (outbox : queued ⊆ v.queued) :
    QuietStep v { v with known, queued }
  | requested {v : View P} (r : PairingRequest) : QuietStep v { v with log := .requested r :: v.log }
  /-- A frame is handed to the connection. -/
  | sent {v : View P} (f : Frame) (allowed : f.body ∈ v.queued ∨ v.Allows f.body) :
    QuietStep v { v with sent := v.sent ++ [f] }
  /-- A session is started as the approver of a request. -/
  | started {v : View P} (r : PairingRequest) (s : PairingSession) (known : r ∈ v.known)
      (starts : r.Starts P s) :
    QuietStep v { v with pairing := some s, log := .started r s :: v.log }
  /-- A session is entered as the device to be paired. -/
  | joined {v : View P} (s : PairingSession) (joins : s.Joins P v.profile.pairingSecret) :
    QuietStep v { v with pairing := some s }
  | marked {v : View P} (s : PairingSession) (our peer : Bool) (current : v.pairing = some s)
      (compared : our = true → s.ourConfirmed = true ∨ Event.compared s ∈ v.log) :
    QuietStep v { v with pairing := some (s.marked our peer) }
  /-- The user confirms the string of the current session. -/
  | compared {v : View P} (s : PairingSession) (current : v.pairing = some s) :
    QuietStep v { v with log := .compared s :: v.log }
  /-- Something is imported from a payload of the current session; messages are taken from a session
  that is not confirmed, too. -/
  | migrated {v : View P} (s : PairingSession) (item : Migrated) (current : v.pairing = some s)
      (confirmed : (∀ id, item ≠ .message id) → s.ourConfirmed = true) :
    QuietStep v { v with log := .migrated s item :: v.log }
  | ended {v : View P} : QuietStep v { v with pairing := none }
  /-- An approver's session that both users confirmed ends with the certificate of its device. -/
  | certified {v : View P} (s : PairingSession) (d : DeviceBundle) (current : v.pairing = some s)
      (approver : s.approver = true)
      (confirmed : s.ourConfirmed = true ∧ s.peerConfirmed = true)
      (certificate : v.profile.identity.certifyBundle P s.pendingDevice = .ok d) :
    QuietStep v { v with pairing := none, log := .certified s d :: v.log }
  /-- A pairing event is marked as processed; the secret of a bootstrap is then stored. -/
  | handled {v : View P} (event : PairingEvent) (handled : List Nat)
      (ids : ∀ id ∈ handled, id ∈ v.handled ∨ id = event.serverEventId)
      (stored : event.eventType = "bootstrap" → v.profile.pending = true →
        v.stored.identity.master.isSome = true) :
    QuietStep v { v with handled, log := .handled event :: v.log }

inductive ViewStep : View P → View P → Prop
  | quiet {v v' : View P} (h : QuietStep v v') : ViewStep v v'
  /-- A machine that has decrypted a message is stored and becomes the current one. -/
  | machine {v : View P} (m : OlmMachine P.olm) (received : Received v.log v.profile.machine m) :
    ViewStep v (v.withMachine m)
  /-- The machine that has encrypted the envelopes of a message is stored with them, in one
  transaction, and becomes the current one. -/
  | outgoing {v : View P} (m : OlmMachine P.olm) (ops : List MachineOp) (message : SendEnvelopes)
      (queued : List (Option Body)) (derived : Derived v.log ops v.profile.machine m)
      (sealed : List.Forall₂ Seals ops message.envelopes)
      (outbox : queued ⊆ some (.sendEnvelopes message) :: v.queued)
      (present : some (.sendEnvelopes message) ∈ queued) :
    ViewStep v { v.withMachine m with queued, log := .queued message :: v.log }
  /-- The profile changes in what no session depends on; a device never becomes pending. -/
  | profile {v : View P} (p : RuntimeProfile P) (account : p.accountId = v.profile.accountId)
      (master : p.accountMasterPublic = v.profile.accountMasterPublic)
      (machine : p.machine = v.profile.machine)
      (pending : p.pending = true → v.profile.pending = true)
      (secret : v.profile.identity.master.isSome = true → p.identity.master.isSome = true)
      (pairing : p.pairingSecret = v.profile.pairingSecret ∨ p.pairingSecret = none)
      (installed : p.identity.master = v.profile.identity.master ∨ ∃ s secret,
        p.identity.master = some secret ∧ P.verifyingKey secret = p.accountMasterPublic ∧
          Event.migrated s (.master secret) ∈ v.log) :
    ViewStep v { v with profile := p }
  | saved {v : View P} : ViewStep v { v with stored := v.profile }
  /-- The process starts with the stored profile, and nothing is shown. -/
  | restarted {v : View P} :
    ViewStep v { v with
      profile := v.stored
      pairing := none
      selected := none
      shown := []
      log := .opened none :: v.log }

/-- The transaction of an envelope stores its cursor, and the envelope is acknowledged if the
connection takes the frame. -/
inductive CursorStep (stored : StoredEnvelope) (acknowledged : Bool) : View P → View P → Prop
  | processed {v : View P} (e : EncryptedEnvelope) (envelope : stored.envelope = some e) :
    CursorStep stored acknowledged v { v with
      cursor := stored.cursor
      sent := v.sent ++ if acknowledged then
        [frame "" (.ackEnvelope { envelopeId := e.envelopeId, cursor := stored.cursor })] else []
      log := .processed stored.cursor e.envelopeId :: v.log }

/-- Everything that can happen to a view. -/
inductive AnyStep : View P → View P → Prop
  | view {v v' : View P} (h : ViewStep v v') : AnyStep v v'
  | processed {v v' : View P} (stored : StoredEnvelope) (acknowledged : Bool)
      (above : v.cursor < stored.cursor) (h : CursorStep stored acknowledged v v') : AnyStep v v'
  /-- The user selects a contact. -/
  | selected {v : View P} (selected : Option Nat) :
    AnyStep v { v with selected, log := .selected :: v.log }
  /-- A new connection takes the place of the old one. -/
  | connected {v : View P} : AnyStep v { v with sent := [] }

open Relation (ReflTransGen)

/-- The view stays. -/
def Still (w w' : World P) : Prop := w'.view = w.view

/-- Quiet steps of the view. -/
def Quiet (w w' : World P) : Prop := ReflTransGen QuietStep w.view w'.view

/-- Steps of the view that do not move the cursor. -/
def Runs (w w' : World P) : Prop := ReflTransGen ViewStep w.view w'.view

/-- Any steps of the view. -/
def Paths (w w' : World P) : Prop := ReflTransGen AnyStep w.view w'.view

/-- Steps that process the listed envelopes, in this order, and acknowledge those that are marked so. -/
inductive Walk : List (StoredEnvelope × Bool) → View P → View P → Prop
  | runs {v v' : View P} (h : ReflTransGen ViewStep v v') : Walk [] v v'
  | processed {v v₁ v₂ v' : View P} {e : StoredEnvelope × Bool} {es : List (StoredEnvelope × Bool)}
      (h : ReflTransGen ViewStep v v₁) (step : CursorStep e.1 e.2 v₁ v₂) (rest : Walk es v₂ v') :
      Walk (e :: es) v v'

instance : Std.Refl (Still (P := P)) := ⟨fun _ => rfl⟩

instance : IsTrans (World P) Still := ⟨fun _ _ _ h h' => h'.trans h⟩

instance : Std.Refl (Quiet (P := P)) := ⟨fun _ => .refl⟩

instance : IsTrans (World P) Quiet := ⟨fun _ _ _ h h' => h.trans h'⟩

instance : Std.Refl (Runs (P := P)) := ⟨fun _ => .refl⟩

instance : IsTrans (World P) Runs := ⟨fun _ _ _ h h' => h.trans h'⟩

instance : Std.Refl (Paths (P := P)) := ⟨fun _ => .refl⟩

instance : IsTrans (World P) Paths := ⟨fun _ _ _ h h' => h.trans h'⟩

namespace Quiet

variable {w w' : World P}

theorem of_view_eq (h : Still w w') : Quiet w w' := by
  unfold Quiet
  rw [show w'.view = w.view from h]

theorem of_step (h : QuietStep w.view w'.view) : Quiet w w' := .single h

protected theorem rfl : Quiet w w := .refl

theorem trans {w'' : World P} (h : Quiet w w') (h' : Quiet w' w'') : Quiet w w'' :=
  ReflTransGen.trans h h'

theorem runs (h : Quiet w w') : Runs w w' := ReflTransGen.mono (fun _ _ h => .quiet h) _ _ h

end Quiet

theorem Runs.of_step {w w' : World P} (h : ViewStep w.view w'.view) : Runs w w' := .single h

theorem Runs.trans {w w' w'' : World P} (h : Runs w w') (h' : Runs w' w'') : Runs w w'' :=
  ReflTransGen.trans h h'

theorem Paths.trans {w w' w'' : World P} (h : Paths w w') (h' : Paths w' w'') : Paths w w'' :=
  ReflTransGen.trans h h'

theorem Runs.paths {w w' : World P} (h : Runs w w') : Paths w w' :=
  ReflTransGen.mono (fun _ _ h => .view h) _ _ h

namespace Walk

variable {es es' : List (StoredEnvelope × Bool)} {v v₁ v₂ v' : View P}

theorem of_runs_trans (h : ReflTransGen ViewStep v v₁) (hw : Walk es v₁ v') : Walk es v v' := by
  cases hw with
  | runs h' => exact .runs (h.trans h')
  | processed h' step rest => exact .processed (h.trans h') step rest

theorem append (hw : Walk es v v₁) (hw' : Walk es' v₁ v') : Walk (es ++ es') v v' := by
  induction hw with
  | runs h => exact of_runs_trans h hw'
  | processed h step _ ih => exact .processed h step (ih hw')

theorem trans_runs (hw : Walk es v v₁) (h : ReflTransGen ViewStep v₁ v') : Walk es v v' := by
  simpa using hw.append (.runs h)

end Walk


/-! ## What steps leave alone -/

theorem QuietStep.same {v v' : View P} (h : QuietStep v v') :
    v'.profile = v.profile ∧ v'.stored = v.stored ∧ v'.cursor = v.cursor := by
  cases h <;> exact ⟨rfl, rfl, rfl⟩

/-- The log only grows. -/
theorem QuietStep.log {v v' : View P} (h : QuietStep v v') : v.log <:+ v'.log := by
  cases h <;> first
    | exact List.suffix_rfl
    | exact List.suffix_cons _ _
    | exact (List.suffix_cons _ _).trans (List.suffix_cons _ _)

theorem ViewStep.cursor {v v' : View P} (h : ViewStep v v') : v'.cursor = v.cursor := by
  cases h with
  | quiet h => exact h.same.2.2
  | machine | outgoing | profile | saved | restarted => rfl

theorem runs_cursor {v v' : View P} (h : ReflTransGen ViewStep v v') : v'.cursor = v.cursor := by
  induction h with
  | refl => rfl
  | tail _ h ih => exact h.cursor.trans ih

/-- The cursor is the last one processed. -/
theorem Walk.cursor {es : List (StoredEnvelope × Bool)} {v v' : View P} (h : Walk es v v') :
    v'.cursor = (es.map fun e => e.1.cursor).getLastD v.cursor := by
  induction h with
  | runs h => exact runs_cursor h
  | processed _ step _ ih =>
    cases step
    exact ih.trans (List.getLastD_cons ..).symm

/-- A walk that only goes up is made of the steps that can happen to a view. -/
theorem Walk.paths {es : List (StoredEnvelope × Bool)} {v v' : View P} (hw : Walk es v v')
    (hes : (v.cursor :: es.map fun e => e.1.cursor).Pairwise (· < ·)) : ReflTransGen AnyStep v v' := by
  induction hw with
  | runs h => exact ReflTransGen.mono (fun _ _ h => .view h) _ _ h
  | @processed v v₁ v₂ v' e es hr step rest ih =>
    obtain ⟨hlt, hes⟩ := List.pairwise_cons.1 hes
    have hn : v₁.cursor < e.1.cursor := runs_cursor hr ▸ hlt _ List.mem_cons_self
    have hcursor : v₂.cursor = e.1.cursor := by cases step; rfl
    exact ((ReflTransGen.mono (fun _ _ h => .view h) _ _ hr).tail (.processed e.1 e.2 hn step)).trans
      (ih (hcursor ▸ hes))

theorem Quiet.same {w w' : World P} (h : Quiet w w') :
    w'.app.profile = w.app.profile ∧ w'.store.profile = w.store.profile ∧
      w'.store.envelopeCursor = w.store.envelopeCursor := by
  have : ∀ v v' : View P, ReflTransGen QuietStep v v' →
      v'.profile = v.profile ∧ v'.stored = v.stored ∧ v'.cursor = v.cursor := by
    intro v v' h
    induction h with
    | refl => exact ⟨rfl, rfl, rfl⟩
    | tail _ h ih =>
      obtain ⟨h₁, h₂, h₃⟩ := h.same
      exact ⟨h₁.trans ih.1, h₂.trans ih.2.1, h₃.trans ih.2.2⟩
  exact this _ _ h

theorem Quiet.log {w w' : World P} (h : Quiet w w') : w.log <:+ w'.log := by
  have : ∀ v v' : View P, ReflTransGen QuietStep v v' → v.log <:+ v'.log := by
    intro v v' h
    induction h with
    | refl => exact List.suffix_rfl
    | tail _ h ih => exact ih.trans h.log
  exact this _ _ h

/-- Frames are only added to those handed over. -/
theorem Quiet.sent {w w' : World P} (h : Quiet w w') : w.sent <+: w'.sent := by
  have : ∀ v v' : View P, ReflTransGen QuietStep v v' → v.sent <+: v'.sent := by
    intro v v' h
    induction h with
    | refl => exact List.prefix_rfl
    | tail _ h ih =>
      refine ih.trans ?_
      cases h <;> first | exact List.prefix_rfl | exact List.prefix_append _ _
  exact this _ _ h

theorem Uses.of_suffix {id : String} {key : Bytes} {log log' : List Event} (h : Uses id key log')
    (hs : log <:+ log') : Uses id key log := fun d hd =>
  h d (hd.imp (fun h => hs.subset h) fun ⟨k, h⟩ => ⟨k, hs.subset h⟩)

theorem Derived.refl (log : List Event) (m : OlmMachine P.olm) : Derived log [] m m :=
  ⟨.refl, fun _ _ _ _ h => h⟩

theorem Derived.of_suffix {log log' : List Event} {ops : List MachineOp} {m m' : OlmMachine P.olm}
    (h : Derived log ops m m') (hs : log <:+ log') : Derived log' ops m m' :=
  ⟨h.line, fun hO id key hu => h.bound hO id key (hu.of_suffix hs)⟩

/-- A machine stays derived from the current one. -/
theorem Quiet.derived {w w' : World P} {ops : List MachineOp} {m : OlmMachine P.olm}
    (h : Quiet w w') (hm : Derived w.log ops w.app.profile.machine m) :
    Derived w'.log ops w'.app.profile.machine m := by
  rw [h.same.1]
  exact hm.of_suffix h.log

theorem Quiet.received {w w' : World P} {m : OlmMachine P.olm} (h : Quiet w w')
    (hm : Received w.log w.app.profile.machine m) : Received w'.log w'.app.profile.machine m :=
  hm.imp fun _ hm => ⟨h.derived hm.1, hm.2⟩

/-! ## Keys of rows -/

namespace View

theorem keyOf_put {v : View P} (row : ContactRow) (log : List Event) (account : String) :
    ({ v with rows := v.rows.put row, log } : View P).keyOf account =
      if account = row.accountId then some row.bundle.accountMasterKey else v.keyOf account := by
  unfold keyOf
  rw [Table.find_put]
  split <;> rfl

/-- The key a new row has is the old one, or the writing is recorded as a change. -/
theorem keyOf_put_of_same {v : View P} {row : ContactRow} {log : List Event} {account : String}
    (h : row.accountId = account → v.keyOf row.accountId = some row.bundle.accountMasterKey) :
    ({ v with rows := v.rows.put row, log } : View P).keyOf account = v.keyOf account := by
  rw [keyOf_put]
  split
  · next ha => rw [ha, h ha.symm]
  · rfl

theorem keyOf_verified {v : View P} (marked account : String) (log : List Event) :
    ({ v with
      rows := v.rows.update (fun row => row.accountId = marked)
        (fun row => { row with verified := true, identityChanged := false }) fun _ => rfl
      log } : View P).keyOf account = v.keyOf account := by
  have hfind := Table.find_update (t := v.rows) (k := account) (p := fun row => row.accountId = marked)
    (f := fun row => { row with verified := true, identityChanged := false }) fun _ => rfl
  refine (congrArg (Option.map fun row => row.bundle.accountMasterKey) hfind).trans ?_
  rw [Option.map_map]
  refine congrArg (fun f => (v.rows.find account).map f) (funext fun row => ?_)
  show (if _ then _ else row).bundle.accountMasterKey = _
  split <;> rfl

/-- A deletion takes rows away. -/
theorem keyOf_deleted {v : View P} (peer account : String) (messages : Table ChatMessage.id)
    {k : Bytes}
    (h : ({ v with rows := v.rows.delete fun row => row.accountId = peer, messages } : View P).keyOf
      account = some k) : v.keyOf account = some k := by
  unfold keyOf at h ⊢
  simp only [Table.find_delete] at h
  obtain ⟨row, hrow, rfl⟩ := Option.map_eq_some_iff.1 h
  rw [(Option.filter_eq_some_iff.1 hrow).1]
  rfl

theorem keyOf_deleted_ne {v : View P} {peer account : String} (messages : Table ChatMessage.id)
    (h : account ≠ peer) :
    ({ v with rows := v.rows.delete fun row => row.accountId = peer, messages } : View P).keyOf
      account = v.keyOf account := by
  unfold keyOf
  simp only [Table.find_delete]
  cases hrow : v.rows.find account with
  | none => rfl
  | some row => simp [Option.filter, Table.key_of_find hrow, h]

theorem keyOf_of_mem {v : View P} {row : ContactRow} (h : row ∈ v.rows) :
    v.keyOf row.accountId = some row.bundle.accountMasterKey := by
  unfold keyOf
  rw [Table.find_of_mem h]
  rfl

end View

end TuiChat
