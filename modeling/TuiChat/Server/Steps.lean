import TuiChat.Server.Cluster
import Mathlib.Logic.Relation

/-!
# What the programs of the server can do

`ServerStep` says once what one action of a connection's task or of a command can do to the shared
state and to the connection, each with what the program has established when it does it: `Writes` for
the database, `Sends` for the frames. Every program guarantees such steps while the others take
theirs; the invariants are proved of the steps.
-/

namespace TuiChat

open Lib
open Lib.Proc (wp)
open Relation (ReflTransGen)

variable {env : ServerEnvironment} {P : Primitives}

/-! ## Steps -/

/-- The database is, or was, `db`. -/
def AppState.Had (s : AppState) (db : Db) : Prop := db = s.db ∨ db ∈ s.past

/-- The connection is handling a frame that it received with the body. -/
def Connection.Received (c : Connection) (id : String) (body : Body) : Prop :=
  ∃ f, .received f ∈ c.log ∧ f.id = id ∧ f.body = some body

/-- The connection has emptied its challenge slot of a challenge for the device. -/
def Connection.Took (c : Connection) (deviceId : String) : Prop :=
  ∃ challenge, .taken (some challenge) ∈ c.log ∧ challenge.deviceId = deviceId

/-- The key that the connection's handler claimed last. -/
def Connection.claimedKey (c : Connection) : Option Bytes :=
  c.log.findSome? fun
    | .masterClaimed _ master _ => some master
    | _ => none

/-- The body of the frame that the connection received last. -/
def Connection.handling (c : Connection) : Option Body :=
  (c.log.findSome? fun
    | .received f => some f.body
    | _ => none).join

/-- The row of a device that it read last. -/
def Connection.foundDevice (c : Connection) : Option DeviceRow :=
  (c.log.findSome? fun
    | .readDevice _ _ row => some row
    | _ => none).join

/-- What `checkPreKey` checks of a key, for a device with the signing key. -/
structure OneTimeKey.Checked (P : Primitives) (authSigningKey : Bytes) (key : OneTimeKey) : Prop where
  named : key.keyId ≠ ""
  short : (Wire.utf8 key.keyId).length ≤ 64
  curve25519Key : key.curve25519Key.length = 32
  signed : key.signature.length = 64
  verified : Ws.verifyPrekey P authSigningKey key = .ok ()

/-- Where the keys come from that a connection publishes: a `PublishPreKeys`, checked under the row that
its handler has read, or a `BootstrapDevice`. -/
inductive PreKeySource (P : Primitives) (c : Connection) : List OneTimeKey → Prop
  | published (m : PublishPreKeys) (row : DeviceRow) (handling : c.handling = some (.publishPreKeys m))
      (read : c.foundDevice = some row) (checked : ∀ key ∈ m.keys, key.Checked P row.authSigningKey) :
    PreKeySource P c m.keys
  | bootstrapped (m : BootstrapDevice) (handling : c.handling = some (.bootstrapDevice m)) :
    PreKeySource P c m.oneTimeKeys

/-- A device of the account was in a database there was, with the keys of the bundle. -/
def SubmittedIn (had : Db → Prop) (accountId : String) (bundle : DeviceBundle) : Prop :=
  ∃ db, had db ∧ ∃ row, db.device accountId bundle.deviceId = some row ∧
    row.authSigningKey = bundle.authSigningKey ∧ row.olmEd25519Key = bundle.olmEd25519Key ∧
    row.olmCurve25519Key = bundle.olmCurve25519Key

/-- The device was revoked in a database there was. -/
def RevokedIn (had : Db → Prop) (deviceId : String) : Prop :=
  ∃ db, had db ∧ ∃ row ∈ db.devices, row.id = deviceId ∧ row.revoked = true

/-- A write of the database, with what is known of the connection that makes it and of the databases
there were. -/
inductive Writes (env : ServerEnvironment) (P : Primitives) (had : Db → Prop) (c : Connection) (db : Db) :
    Db → Prop
  | authenticated (deviceId : String) (now : Int) :
    Writes env P had c db (db.recordDeviceAuthentication deviceId now)
  | password (accountId phc : String) (requireChange : Bool) :
    Writes env P had c db (db.setPassword accountId phc requireChange)
  /-- The first device of an account claims its master key, under which it is certified. -/
  | claimed {db' : Db} (s : Session) (m : BootstrapDevice) (session : c.session = some s)
      (pending : s.pending = true)
      (certificate : Ws.verifyDeviceCertificate P m.accountMasterKey s.account.id
        (Ws.BootstrapDevice.bundle m) = .ok ())
      (write : db.bootstrapMaster s.account.id m.accountMasterKey = .ok db') : Writes env P had c db db'
  /-- A device is inserted by its own session: it is certified, or it is pending and is not. -/
  | inserted {db' : Db} (s : Session) (m : BootstrapDevice) (pendingRow : Bool) (now : Int)
      (session : c.session = some s) (pending : s.pending = true) (device : m.deviceId = s.deviceId)
      (certificate : if pendingRow then m.certificateSignature = [] else
        Ws.verifyDeviceCertificate P m.accountMasterKey s.account.id (Ws.BootstrapDevice.bundle m) = .ok ())
      (key : if pendingRow then s.account.masterPublicKey = some m.accountMasterKey else
        s.account.masterPublicKey = none ∧ c.claimedKey = some m.accountMasterKey)
      (write : db.insertDevice s.account.id (Ws.BootstrapDevice.bundle m) m.sasPublicKey pendingRow now =
        .ok db') : Writes env P had c db db'
  | prekeys {db' : Db} (s : Session) (keys : List OneTimeKey) (now : Int) (session : c.session = some s)
      (write : db.publishPreKeys s.deviceId keys now = .ok db') (source : PreKeySource P c keys) :
    Writes env P had c db db'
  | prekeyClaimed (accountId deviceId : String) : Writes env P had c db (db.claimPreKey accountId deviceId).2
  /-- Envelopes are stored as coming from the device of an active session. -/
  | stored {r : List (String × Nat) × Db} (s : Session) (m : SendEnvelopes) (now : Int) (free : Nat)
      (session : c.session = some s) (active : s.pending = false)
      (write : db.storeEnvelopes P.sha256 s.account.id s.deviceId m.envelopes now env.storageLimits free =
        .ok r) (handling : c.handling = some (.sendEnvelopes m)) : Writes env P had c db r.2
  /-- A device acknowledges an envelope, on a frame of its own. -/
  | acked (s : Session) (id : String) (m : AckEnvelope) (now : Int) (session : c.session = some s)
      (active : s.pending = false) (received : c.Received id (.ackEnvelope m)) :
    Writes env P had c db (db.ack s.deviceId m.envelopeId now).2
  | pairing {r : Nat × Db} (s : Session) (e : PairingEvent) (expiresAtMs : Int)
      (session : c.session = some s) (size : e.payload.length ≤ Ws.maxPairingPayload)
      (type : e.eventType ∈ Ws.pairingEventTypes)
      (write : db.insertPairingEvent e.pairingId s.deviceId e.targetDeviceId e.eventType e.payload
        expiresAtMs = .ok r) : Writes env P had c db r.2
  | pairingAcked (s : Session) (id : String) (m : AckPairingEvent) (session : c.session = some s)
      (received : c.Received id (.ackPairingEvent m)) :
    Writes env P had c db (db.ackPairingEvent s.deviceId m.serverEventId).2
  /-- A device is activated under a certificate of the master key that the session has. -/
  | activated {db' : Db} (s : Session) (id : String) (m : ActivateDevice) (bundle : DeviceBundle)
      (master : Bytes) (session : c.session = some s) (active : s.pending = false)
      (received : c.Received id (.activateDevice m)) (device : m.device = some bundle)
      (pairing : m.pairingId = bundle.deviceId) (key : s.account.masterPublicKey = some master)
      (certificate : Ws.verifyDeviceCertificate P master s.account.id bundle = .ok ())
      (submitted : SubmittedIn had s.account.id bundle)
      (write : db.activateDevice s.account.id bundle.deviceId m.rosterRevision
        bundle.certificateSignature = .ok db') : Writes env P had c db db'
  | revokedOwn (s : Session) (deviceId : String) (session : c.session = some s)
      (active : s.pending = false) (other : deviceId ≠ s.deviceId) :
    Writes env P had c db (db.markRevoked s.account.id deviceId).2
  | cleanedDevice (deviceId : String) (revoked : RevokedIn had deviceId) :
    Writes env P had c db (db.cleanupRevokedDevice deviceId)
  | cleanedDelivered (before : Int) (limit : Nat) :
    Writes env P had c db (db.cleanupDeliveredEnvelopes before limit)
  | cleanedPairing (now : Int) : Writes env P had c db (db.cleanupExpiredPairingEvents now)
  | audited (category actor action target result : String) :
    Writes env P had c db (db.recordAudit category actor action target result)
  | added {db' : Db} (id username phc : String) (write : db.addAccount id username phc = .ok db') :
    Writes env P had c db db'
  | userState (username : String) (state : AccountState) :
    Writes env P had c db (db.setUserState username state).2
  | passwordReset (username phc : String) : Writes env P had c db (db.resetPassword username phc).2
  | devicesReset {r : List String × Db} (username : String) (write : db.resetDevices username = .ok r) :
    Writes env P had c db r.2
  | revoked (accountId deviceId : String) : Writes env P had c db (db.revokeDevice accountId deviceId).2
  | deleted (accountId : String) : Writes env P had c db (db.deleteUserRecords accountId)
  | pruned (conversation : String) (cutoff : Int) (deliveredOnly : Bool) :
    Writes env P had c db (db.pruneConversation conversation cutoff deliveredOnly)

/-- What `Sends` asks nothing of. -/
def Body.answers : Body → Bool
  | .syncBatch _ | .deliveryUpdate _ | .pairingEvent _ => false
  | _ => true

/-- A frame that connection `i` hands over to the writer of another or of its own. -/
inductive Sends (i : Nat) (s : AppState) (c : Connection) : Nat → Frame → Prop
  | answer {t : Nat} {f : Frame} (h : ∀ body, f.body = some body → body.answers = true) : Sends i s c t f
  /-- The page that a `SyncRequest` asked for, of a database there was. -/
  | page {id : String} (session : Session) (db : Db) (m : SyncRequest) (had : s.Had db)
      (current : c.session = some session) (active : session.pending = false)
      (received : c.Received id (.syncRequest m)) :
    Sends i s c i (frame id (.syncBatch (Ws.syncPage db session.account.id session.deviceId m)))
  /-- An envelope of a database there was, to a live connection. -/
  | pushed (live : LiveConnection) (db : Db) (envelopeId : String) (stored : StoredEnvelope)
      (had : s.Had db) (found : db.storedEnvelopeById envelopeId = some stored)
      (registered : live ∈ s.registered) :
    Sends i s c live.token (frame "" (.syncBatch (Ws.pushedBatch stored)))
  /-- An acknowledged message, to a connection of its sender's account. -/
  | delivered (live : LiveConnection) (row : EnvelopeRow) (now : Int)
      (acknowledged : .acknowledged row ∈ s.log) (account : live.accountId = row.senderAccountId)
      (registered : live ∈ s.registered) :
    Sends i s c live.token
      (frame "" (.deliveryUpdate
        { logicalMessageId := row.envelope.logicalMessageId, deliveredAtMs := now }))
  /-- A queued pairing event, to the connection of its target. -/
  | event (live : LiveConnection) (db : Db) (row : PairingEventRow) (name : String) (had : s.Had db)
      (queued : row ∈ db.pairingEvents) (target : row.targetDeviceId = live.deviceId)
      (registered : live ∈ s.registered) :
    Sends i s c live.token (frame "" (.pairingEvent
      { pairingId := row.pairingId
        targetDeviceId := row.targetDeviceId
        eventType := row.eventType
        payload := row.payload
        senderDeviceId := row.senderDeviceId
        serverEventId := row.id
        senderDeviceName := name }))
  /-- The activation of a device, to its connection. -/
  | activated (live : LiveConnection) (db : Db) (row : DeviceRow) (pairingId sender : String)
      (had : s.Had db) (device : row ∈ db.devices) (active : row.pending = false)
      (target : row.id = live.deviceId) (registered : live ∈ s.registered) :
    Sends i s c live.token
      (frame "" (.pairingEvent (Ws.activatedEvent pairingId live.deviceId sender)))

/-- One action of the program at index `i`. -/
inductive ServerStep (env : ServerEnvironment) (P : Primitives) (i : Nat) :
    ServerWorld → ServerWorld → Prop
  | stayed {w : ServerWorld} : ServerStep env P i w w
  | learned {s : AppState} {c : Connection} : ServerStep env P i (s, c) ({ s with tick := s.tick + 1 }, c)
  | readAccount {s : AppState} {c : Connection} (username : String) :
    ServerStep env P i (s, c) ({ s with tick := s.tick + 1 },
      { c with log := .readAccount username (s.db.accountByUsername username) :: c.log })
  | readDevice {s : AppState} {c : Connection} (accountId deviceId : String) :
    ServerStep env P i (s, c) ({ s with tick := s.tick + 1 },
      { c with log := .readDevice accountId deviceId (s.db.device accountId deviceId) :: c.log })
  /-- A write, with what the two logs record of it: new envelopes, an acknowledgement, a claimed key. -/
  | wrote {s : AppState} {c : Connection} {db' : Db} (log : List ServerEvent)
      (events : List ConnectionEvent) (write : Writes env P s.Had c s.db db')
      (stored : ∀ row, .stored row ∈ log → row ∈ db'.envelopes)
      (acknowledged : ∀ row, .acknowledged row ∈ log → ∃ s' id, ∃ m : AckEnvelope,
        c.session = some s' ∧ c.Received id (.ackEnvelope m) ∧
        Ws.acknowledgedRow s.db s'.deviceId m.envelopeId = some row)
      (recorded : events = [] ∨ ∃ s' m, c.session = some s' ∧ events =
        [.masterClaimed s'.account.id m ((s.db.accounts.find s'.account.id).bind
          AccountRow.masterPublicKey)]) :
    ServerStep env P i (s, c) ({ s with
      db := db'
      past := s.db :: s.past
      tick := s.tick + 1
      log := log ++ s.log }, { c with log := events ++ c.log })
  | sent {s : AppState} {c : Connection} (t : Nat) (f : Frame) (sends : Sends i s c t f) :
    ServerStep env P i (s, c) ({ s with tick := s.tick + 1, out := s.out ++ [(t, f)] }, c)
  /-- The connection becomes that of a device it was challenged for. -/
  | registered {s : AppState} {c : Connection} (live : LiveConnection) (token : live.token = i)
      (took : c.Took live.deviceId) :
    ServerStep env P i (s, c) ({ s with
      connections := s.connections.put live
      registered := live :: s.registered
      connected := fun _ h => List.mem_cons.2
        ((Table.mem_put.1 h).imp_right fun h => s.connected _ h.1) }, c)
  | unregistered {s : AppState} {c : Connection} (p : LiveConnection → Bool) :
    ServerStep env P i (s, c) ({ s with
      connections := s.connections.delete p
      connected := fun _ h => s.connected _ (Table.mem_delete.1 h).1 }, c)
  | directory {s : AppState} {c : Connection} (sessions : Table LiveSession.id)
      (signals : List (Nat × String)) : ServerStep env P i (s, c) ({ s with sessions, signals }, c)
  | received {s : AppState} {c : Connection} (f : Frame) :
    ServerStep env P i (s, c) (s, { c with log := .received f :: c.log })
  | bucket {s : AppState} {c : Connection} :
    ServerStep env P i (s, c) ({ s with tick := s.tick + 1 }, { c with
      bucket := (c.bucket.take env.requestsPerMinute env.requestBurst (env.instant s.tick)).2 })
  | closed {s : AppState} {c : Connection} : ServerStep env P i (s, c) (s, { c with closed := true })
  | readClock {s : AppState} {c : Connection} :
    ServerStep env P i (s, c) ({ s with tick := s.tick + 1 }, { c with log := .readClock s.tick :: c.log })
  | challenged {s : AppState} {c : Connection} (f : Frame) (hello : ClientHello) (challenge : Challenge)
      (rest : List ConnectionEvent) (session : c.session = none) (log : c.log = .received f :: rest)
      (body : f.body = some (.clientHello hello))
      (username : Ws.normalizeUsername hello.username = .ok challenge.username)
      (device : challenge.deviceId = hello.deviceId) :
    ServerStep env P i (s, c)
      (s, { c with challenge := some challenge, log := .challenged challenge :: c.log })
  | taken {s : AppState} {c : Connection} (session : c.session = none) :
    ServerStep env P i (s, c) (s, { c with challenge := none, log := .taken c.challenge :: c.log })
  /-- A device proves that it has the key of its row. -/
  | authenticated {s : AppState} {c : Connection} (f : Frame) (auth : DeviceAuth) (challenge : Challenge)
      (account : AccountRow) (device : DeviceRow) (n : Nat) (capabilities : List String)
      (rest : List ConnectionEvent)
      (log : c.log = .readDevice account.id auth.deviceId (some device) ::
        .readAccount challenge.username (some account) :: .readClock n :: .taken (some challenge) ::
        .received f :: rest)
      (session : c.session = none) (body : f.body = some (.deviceAuth auth))
      (username : Ws.normalizeUsername auth.username = .ok challenge.username)
      (challenged : challenge.deviceId = auth.deviceId) (unexpired : env.nowMs n ≤ challenge.expiresAtMs)
      (active : account.state = .active) (deviceActive : device.active = true)
      (signature : Ws.verifySignature P device.authSigningKey (Ws.authChallengePayload env.publicDomain
        account.username auth.deviceId challenge.nonce challenge.expiresAtMs) auth.signature = .ok ()) :
    ServerStep env P i (s, c) (s, { c with
      session := some
        { account
          deviceId := auth.deviceId
          pending := false
          passwordChangeRequired := account.requirePasswordChange
          capabilities } })
  /-- A user proves the password of an account. -/
  | passwordAccepted {s : AppState} {c : Connection} (f : Frame) (auth : PasswordAuth)
      (challenge : Challenge) (row : AccountRow) (device : Option DeviceRow) (n : Nat) (phc : String)
      (capabilities : List String) (rest : List ConnectionEvent)
      (log : c.log = .readDevice row.id challenge.deviceId device ::
        .readAccount challenge.username (some row) :: .readClock n :: .taken (some challenge) ::
        .received f :: rest)
      (session : c.session = none) (body : f.body = some (.passwordAuth auth))
      (challenged : challenge.deviceId = auth.deviceId) (active : row.state = .active)
      (password : env.passwords.verify row.passwordPhc auth.password = true)
      (existing : ∀ d, device = some d → d.pending = true) :
    ServerStep env P i (s, c) (s, { c with
      session := some
        { account := { row with passwordPhc := phc }
          deviceId := challenge.deviceId
          pending := true
          passwordChangeRequired := false
          capabilities }
      log := .passwordAccepted row challenge.deviceId :: c.log })
  /-- A pending session becomes that of the device that has claimed the account's master key. -/
  | bootstrapped {s : AppState} {c : Connection} (session : Session) (m : BootstrapDevice) (id : String)
      (rest : List ConnectionEvent) (current : c.session = some session) (pending : session.pending = true)
      (received : c.Received id (.bootstrapDevice m)) (device : m.deviceId = session.deviceId)
      (log : c.log = .masterClaimed session.account.id m.accountMasterKey none :: rest)
      (inserted : ∃ db, s.Had db ∧ (db.device session.account.id session.deviceId).isSome)
      (certificate : Ws.verifyDeviceCertificate P m.accountMasterKey session.account.id
        (Ws.BootstrapDevice.bundle m) = .ok ()) :
    ServerStep env P i (s, c) (s, { c with
      session := some
        { session with
          account := { session.account with
            masterPublicKey := some m.accountMasterKey
            rosterRevision := 1 }
          pending := false
          passwordChangeRequired := session.account.requirePasswordChange } })
  | passwordChanged {s : AppState} {c : Connection} (session : Session) (phc : String)
      (current : c.session = some session) (active : session.pending = false) :
    ServerStep env P i (s, c) (s, { c with
      session := some
        { session with
          account := { session.account with passwordPhc := phc, requirePasswordChange := false }
          passwordChangeRequired := false } })


/-! ## What the others may do meanwhile -/

/-- Any programs take any steps. -/
def Evolves (env : ServerEnvironment) (P : Primitives) : AppState → AppState → Prop :=
  ReflTransGen fun s s' => ∃ i c c', ServerStep env P i (s, c) (s', c')

instance : Std.Refl (Evolves env P) := ⟨fun _ => .refl⟩

instance : IsTrans AppState (Evolves env P) := ⟨fun _ _ _ => ReflTransGen.trans⟩

theorem ServerStep.evolves {i : Nat} {w w' : ServerWorld} (h : ServerStep env P i w w') :
    Evolves env P w.1 w'.1 := .single ⟨i, w.2, w'.2, h⟩

section

variable {s s' : AppState}

/-- What every step keeps, the others keep. -/
theorem Evolves.keeps {I : AppState → Prop}
    (step : ∀ i w w', ServerStep env P i w w' → I w.1 → I w'.1) (h : Evolves env P s s') (hs : I s) :
    I s' := by
  induction h with
  | refl => exact hs
  | tail _ hstep ih =>
    obtain ⟨i, c, c', hstep⟩ := hstep
    exact step i _ _ hstep ih

theorem AppState.Had.evolves {db : Db} (h : s.Had db) (hs : Evolves env P s s') : s'.Had db := by
  refine hs.keeps (I := fun s => s.Had db) (fun i w w' step h => ?_) h
  cases step with
  | wrote => exact .inr (List.mem_cons.2 h)
  | _ => exact h

theorem Evolves.registered {live : LiveConnection} (hs : Evolves env P s s')
    (h : live ∈ s.registered) : live ∈ s'.registered := by
  refine hs.keeps (I := fun s => live ∈ s.registered) (fun i w w' step h => ?_) h
  cases step with
  | registered => exact List.mem_cons_of_mem _ h
  | _ => exact h

theorem Evolves.log {e : ServerEvent} (hs : Evolves env P s s') (h : e ∈ s.log) : e ∈ s'.log := by
  refine hs.keeps (I := fun s => e ∈ s.log) (fun i w w' step h => ?_) h
  cases step with
  | wrote => exact List.mem_append_right _ h
  | _ => exact h

end

/-! ## Guaranteed steps -/

variable {i : Nat} {α β : Type} {s : AppState} {c : Connection}

/-- Every action of `m` is a step, from here on. -/
abbrev Serves (env : ServerEnvironment) (P : Primitives) (i : Nat) (m : ServerM α) (c : Connection)
    (s : AppState) : Prop :=
  wp (Pool.Interferes (Evolves env P)) (ServerStep env P i) m (fun _ _ => True) (fun _ _ => True) (s, c)

/-- The actions of `m` are steps that leave the connection alone; what it returns is as stated. -/
abbrev Keeps (env : ServerEnvironment) (P : Primitives) (i : Nat) (m : ServerM α) (c : Connection)
    (s : AppState) (p : α → AppState → Prop) : Prop :=
  wp (Pool.Interferes (Evolves env P)) (ServerStep env P i) m
    (fun a w => Evolves env P s w.1 ∧ w.2 = c ∧ p a w.1) (fun _ w => Evolves env P s w.1 ∧ w.2 = c) (s, c)

theorem Keeps.serves {m : ServerM α} {p : α → AppState → Prop} (h : Keeps env P i m c s p) :
    Serves env P i m c s :=
  wp.mono h (fun _ _ h => h) (fun _ _ _ => trivial) fun _ _ _ => trivial

theorem Keeps.mono {m : ServerM α} {p q : α → AppState → Prop} (h : Keeps env P i m c s p)
    (hpq : ∀ a s', p a s' → q a s') : Keeps env P i m c s q :=
  wp.mono h (fun _ _ h => h) (fun _ _ h => ⟨h.1, h.2.1, hpq _ _ h.2.2⟩) fun _ _ h => h

/-- A program that leaves the connection alone, before another. -/
theorem Keeps.wp_bind {m : ServerM β} {f : β → ServerM α} {p : β → AppState → Prop}
    {Q : α → ServerWorld → Prop} {E : Error → ServerWorld → Prop} (hm : Keeps env P i m c s p)
    (hE : ∀ e s', Evolves env P s s' → E e (s', c))
    (hf : ∀ b s', Evolves env P s s' → p b s' →
      wp (Pool.Interferes (Evolves env P)) (ServerStep env P i) (f b) Q E (s', c)) :
    wp (Pool.Interferes (Evolves env P)) (ServerStep env P i) (m >>= f) Q E (s, c) := by
  rw [Proc.wp_bind]
  refine wp.mono hm (fun _ _ h => h) ?_ ?_
  · rintro b ⟨s', _⟩ ⟨hs, rfl, hp⟩
    exact hf b s' hs hp
  · rintro e ⟨s', _⟩ ⟨hs, rfl⟩
    exact hE e s' hs

theorem Keeps.bind {m : ServerM β} {f : β → ServerM α} {p : β → AppState → Prop}
    {q : α → AppState → Prop} (hm : Keeps env P i m c s p)
    (hf : ∀ b s', Evolves env P s s' → p b s' → Keeps env P i (f b) c s' q) :
    Keeps env P i (m >>= f) c s q :=
  hm.wp_bind (fun _ _ h => ⟨h, rfl⟩) fun b s' hs hp =>
    wp.mono (hf b s' hs hp) (fun _ _ h => h) (fun _ _ h => ⟨.trans hs h.1, h.2⟩)
      fun _ _ h => ⟨.trans hs h.1, h.2⟩

theorem Keeps.then {m : ServerM β} {f : β → ServerM α} {p : β → AppState → Prop}
    (hm : Keeps env P i m c s p) (hf : ∀ b s', Evolves env P s s' → p b s' → Serves env P i (f b) c s') :
    Serves env P i (m >>= f) c s :=
  hm.wp_bind (fun _ _ _ => trivial) hf

theorem keeps_pure {a : α} {p : α → AppState → Prop} (h : p a s) :
    Keeps env P i (pure a : ServerM α) c s p :=
  (Proc.wp_pure a).2 ⟨.refl, rfl, h⟩

theorem keeps_each {f : α → ServerM Unit} {p : AppState → Prop}
    (hp : ∀ s s', Evolves env P s s' → p s → p s') :
    ∀ {as : List α} {s : AppState}, (∀ a ∈ as, ∀ s, p s → Keeps env P i (f a) c s fun _ _ => True) →
      p s → Keeps env P i (Proc.each f as) c s fun _ _ => True
  | [], _, _, _ => keeps_pure trivial
  | a :: _, s, hf, hs =>
    Keeps.bind (hf a List.mem_cons_self s hs) fun _ _ h _ =>
      keeps_each hp (fun b hb => hf b (List.mem_cons_of_mem a hb)) (hp _ _ h hs)

/-- A check of every element. -/
theorem keeps_each_forall {f : α → ServerM Unit} {p : α → Prop} :
    ∀ {as : List α} {s : AppState}, (∀ a ∈ as, ∀ s, Keeps env P i (f a) c s fun _ _ => p a) →
      Keeps env P i (Proc.each f as) c s fun _ _ => ∀ a ∈ as, p a
  | [], _, _ => keeps_pure fun _ h => absurd h List.not_mem_nil
  | a :: _, s, hf =>
    Keeps.bind (hf a List.mem_cons_self s) fun _ _ _ ha =>
      (keeps_each_forall fun b hb => hf b (List.mem_cons_of_mem a hb)).mono fun _ _ h =>
        List.forall_mem_cons.2 ⟨ha, h⟩

theorem keeps_caught {m : ServerM α} {p : α → AppState → Prop} (h : Keeps env P i m c s p) :
    Keeps env P i (Proc.caught m) c s fun r s' => ∀ a, r = .ok a → p a s' := by
  rw [Keeps, Proc.wp_caught]
  refine wp.mono h (fun _ _ h => h) (fun _ _ h => ⟨h.1, h.2.1, fun b hb => ?_⟩)
    fun _ _ h => ⟨h.1, h.2, fun b hb => (nomatch hb)⟩
  cases hb
  exact h.2.2

theorem keeps_ensure {p : Prop} [Decidable p] {e : Error} :
    Keeps env P i (Proc.ensure p e) c s fun _ _ => p :=
  (Proc.wp_ensure p e).2 ⟨fun h => ⟨.refl, rfl, h⟩, fun _ => ⟨.refl, rfl⟩⟩

theorem keeps_orFail {o : Option α} {e : Error} :
    Keeps env P i (Proc.orFail o e) c s fun a _ => o = some a :=
  (Proc.wp_orFail o e).2 ⟨fun _ h => ⟨.refl, rfl, h⟩, fun _ => ⟨.refl, rfl⟩⟩

theorem keeps_ofExcept {r : Except Error α} :
    Keeps env P i (Proc.ofExcept r) c s fun a _ => r = .ok a :=
  (Proc.wp_ofExcept r).2 ⟨fun _ h => ⟨.refl, rfl, h⟩, fun _ _ => ⟨.refl, rfl⟩⟩

/-- One action: the others have moved the shared state, and then it is a step. -/
theorem serves_action {f : ServerWorld → Except Error α × ServerWorld} {Q : α → ServerWorld → Prop}
    {E : Error → ServerWorld → Prop}
    (h : ∀ s', Evolves env P s s' → ServerStep env P i (s', c) (f (s', c)).2 ∧
      (∀ a, (f (s', c)).1 = .ok a → Q a (f (s', c)).2) ∧ (∀ e, (f (s', c)).1 = .error e → E e (f (s', c)).2)) :
    wp (Pool.Interferes (Evolves env P)) (ServerStep env P i) (Proc.atomically f) Q E (s, c) := by
  rw [Proc.wp_atomically]
  rintro ⟨s', _⟩ ⟨hs, rfl⟩
  exact h s' hs

/-- An action that leaves the connection alone. -/
theorem keeps_action {f : ServerWorld → Except Error α × ServerWorld} {p : α → AppState → Prop}
    (h : ∀ s', Evolves env P s s' → ServerStep env P i (s', c) (f (s', c)).2 ∧ (f (s', c)).2.2 = c ∧
      ∀ a, (f (s', c)).1 = .ok a → p a (f (s', c)).2.1) :
    Keeps env P i (Proc.atomically f) c s p :=
  serves_action fun s' hs => by
    obtain ⟨hstep, hc, hp⟩ := h s' hs
    have hev : Evolves env P s (f (s', c)).2.1 := .trans hs hstep.evolves
    exact ⟨hstep, fun a ha => ⟨hev, hc, hp a ha⟩, fun _ _ => ⟨hev, hc⟩⟩

end TuiChat
