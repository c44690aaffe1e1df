import TuiChat.Server.Live
import TuiChat.Server.Runs
import TuiChat.Verify.ServerScenario

/-!
# The writes of password hashes

`ChangePassword` verifies the current password against the hash that its session has kept since it was
opened, and the rehash of `PasswordAuth` against the hash it has read; both then store a new hash whatever is
stored. A write that finds a hash of the same password is made by a frame that proved that password
(`password_writes_proven`). After the administrator has reset the password, a session that is still open
replaces it for who gives the old one, and clears `require_password_change` (`reset_undone`).
-/

namespace TuiChat

open Lib
open Lib.Proc (wp)

variable {env : ServerEnvironment} {P : Primitives}

/-- The row of an account that the connection read last. -/
def Connection.foundAccount (c : Connection) : Option AccountRow :=
  (c.log.findSome? fun
    | .readAccount _ row => some row
    | _ => none).join

/-- The row whose hash the handler of the frame verifies: the one that the session has, or the one read. -/
def Connection.verifiedAccount (c : Connection) : Option AccountRow :=
  match c.handling with
  | some (.changePassword _) => c.session.map Session.account
  | some (.passwordAuth _) => c.foundAccount
  | _ => none

/-- The password that a frame gives to prove it. -/
def Body.givenPassword : Body → Option String
  | .changePassword m => some m.currentPassword
  | .passwordAuth m => some m.password
  | _ => none

/-- The frame that the connection handles gives the password of a hash. -/
def Connection.Proves (env : ServerEnvironment) (c : Connection) (phc : String) : Prop :=
  ∃ password, c.handling.bind Body.givenPassword = some password ∧ env.passwords.verify phc password = true

/-- A change of an account's hash, or of its `require_password_change`, after the hash of the row that the
handler has was verified. -/
def StoresVerified (env : ServerEnvironment) (c : Connection) (db db' : Db) : Prop :=
  ∀ a row row', db.accounts.find a = some row → db'.accounts.find a = some row' →
    (row'.passwordPhc = row.passwordPhc ∧ row'.requirePasswordChange = row.requirePasswordChange) ∨
      ∃ read, c.verifiedAccount = some read ∧ c.Proves env read.passwordPhc ∧
        (row'.requirePasswordChange = read.requirePasswordChange ∨
          ∃ m, c.handling = some (.changePassword m))

theorem Db.KeepsPasswords.verified {db db' : Db} (h : db.KeepsPasswords db') (c : Connection) :
    StoresVerified env c db db' :=
  fun a row row' hrow hrow' => .inl (h a row row' hrow hrow')

theorem storesVerified_setPassword {c : Connection} {read : AccountRow} {phc : String} {required : Bool}
    (verified : c.verifiedAccount = some read) (proves : c.Proves env read.passwordPhc)
    (flag : required = read.requirePasswordChange ∨ ∃ m, c.handling = some (.changePassword m)) (a : String)
    (db : Db) : StoresVerified env c db (db.setPassword a phc required) := by
  intro b row row' hrow hrow'
  have hfound : (db.accounts.update (fun row => row.id = a)
      (fun row => { row with passwordPhc := phc, requirePasswordChange := required }) fun _ => rfl).find b =
        some row' := hrow'
  rw [Table.find_update (by intro; rfl), hrow] at hfound
  have heq := Option.some.inj hfound
  by_cases hid : row.id = a
  · have hflag : row'.requirePasswordChange = required := by
      rw [← heq]
      simp [hid]
    exact .inr ⟨read, verified, proves, flag.imp_left hflag.trans⟩
  · have hsame : row' = row := by
      rw [← heq]
      simp [hid]
    rw [hsame]
    exact .inl ⟨rfl, rfl⟩

/-! ## The handlers -/

/-- The session and the frame that is handled stay. -/
structure Keeping (w w' : ServerWorld) : Prop where
  session : w'.2.session = w.2.session
  handling : w'.2.handling = w.2.handling

instance : Std.Refl Keeping := ⟨fun _ => ⟨rfl, rfl⟩⟩

instance : IsTrans ServerWorld Keeping :=
  ⟨fun _ _ _ h h' => ⟨h'.session.trans h.session, h'.handling.trans h.handling⟩⟩

theorem Keeping.of_eq {w w' : ServerWorld} (h : w'.2 = w.2) : Keeping w w' := ⟨by rw [h], by rw [h]⟩

variable {i : Nat} {α β : Type} {w : ServerWorld}

/-- Whatever the others do to the shared state, the changes that `m` makes to hashes are verified. -/
abbrev Verifies (env : ServerEnvironment) (m : ServerM α) (w : ServerWorld) : Prop :=
  wp (Pool.Interferes fun _ _ => True) (fun w w' => StoresVerified env w.2 w.1.db w'.1.db) m
    (fun _ _ => True) (fun _ _ => True) w

/-- A program that changes no hash. -/
abbrev LeavesPasswords (m : ServerM α) : Prop := Proc.All (fun w w' => w.1.db.KeepsPasswords w'.1.db) m

theorem quiet_action {f : ServerWorld → Except Error α × ServerWorld} (h : ∀ w, (f w).2.1.db = w.1.db) :
    LeavesPasswords (Proc.atomically f) :=
  .atomically fun _ w _ => ⟨.of_accounts (congrArg Db.accounts (h w)), trivial⟩

theorem IsAside.quiet {m : ServerM α} (h : IsAside Db.KeepsPasswords m) : LeavesPasswords m :=
  Proc.All.mono h fun _ _ hb => hb.db.elim (fun heq => .of_accounts (congrArg Db.accounts heq)) id

theorem LeavesPasswords.verifies {m : ServerM α} (h : LeavesPasswords m) : Verifies env m w := by
  have hmoves : Proc.Moves (Pool.Interferes fun _ _ => True)
      (fun w w' : ServerWorld => StoresVerified env w.2 w.1.db w'.1.db) (fun _ _ => True) m :=
    Proc.All.moves h fun _ _ _ _ hk => ⟨hk.verified _, trivial⟩
  exact hmoves w

/-- After a program that leaves the session and the frame. -/
theorem Verifies.after {m : ServerM β} {f : β → ServerM α} (hm : IsAside Db.KeepsPasswords m)
    (hf : ∀ b w', Keeping w w' → Verifies env (f b) w') : Verifies env (m >>= f) w := by
  have hmoves : Proc.Moves (Pool.Interferes fun _ _ => True)
      (fun w w' : ServerWorld => StoresVerified env w.2 w.1.db w'.1.db) Keeping m := by
    refine Proc.All.moves hm fun w w' w'' hr hb => ⟨?_, ?_⟩
    · exact hb.db.elim (fun heq => Db.KeepsPasswords.verified (.of_accounts (congrArg Db.accounts heq)) _)
        fun hk => hk.verified _
    · exact ⟨hb.session.trans (congrArg Connection.session hr.2),
        hb.handling.trans (congrArg Connection.handling hr.2)⟩
  exact hmoves.wp_bind (fun _ _ _ => trivial) hf

theorem Verifies.ensure {c : Prop} [Decidable c] {e : Error} {f : Unit → ServerM α}
    (hf : c → Verifies env (f ()) w) : Verifies env (Proc.ensure c e >>= f) w := Proc.wp.ensure trivial hf

/-- After a value was learned. -/
theorem Verifies.learned {r : Nat → Except Error β} {f : β → ServerM α}
    (hf : ∀ n b w', w'.2 = w.2 → r n = .ok b → Verifies env (f b) w') :
    Verifies env (Ws.learn (fun n w => (r n, w)) >>= f) w := by
  unfold Ws.learn
  rw [Verifies, Proc.wp_bind, Proc.wp_atomically]
  refine fun w' hr => ⟨Db.KeepsPasswords.verified (.of_accounts rfl) _, fun b hb => ?_, fun _ _ => trivial⟩
  exact hf _ b _ hr.2 hb

/-- After an account was read. -/
theorem Verifies.readAccount {username : String} {f : Option AccountRow → ServerM α}
    (hf : ∀ row w', Keeping w w' → w'.2.foundAccount = row → Verifies env (f row) w') :
    Verifies env (Ws.accountByUsername env username >>= f) w := by
  unfold Ws.accountByUsername Ws.queryRecording Ws.learn
  rw [Verifies, Proc.wp_bind, Proc.wp_atomically]
  intro w' hr
  dsimp only
  split
  · refine ⟨Db.KeepsPasswords.verified (.of_accounts rfl) _, fun row hrow => ?_, fun _ he => by cases he⟩
    cases hrow
    refine hf _ _ ⟨?_, ?_⟩ rfl
    · show w'.2.session = w.2.session
      rw [hr.2]
    · show w'.2.handling = w.2.handling
      rw [hr.2]
  · exact ⟨Db.KeepsPasswords.verified (.of_accounts rfl) _, fun _ ha => (by cases ha), fun _ _ => trivial⟩

/-- A write of the database, and what follows it. -/
theorem Verifies.update {f : Db → Db} {g : Unit → ServerM α} (h : ∀ db, StoresVerified env w.2 db (f db))
    (hg : ∀ w', Verifies env (g ()) w') : Verifies env (Ws.update env f >>= g) w := by
  unfold Ws.update Ws.execute Ws.executeRecording Ws.learn
  rw [Verifies, Proc.wp_bind, Proc.wp_atomically]
  intro w' hr
  dsimp only
  split
  · refine ⟨?_, fun _ _ => hg _, fun _ he => by cases he⟩
    rw [hr.2]
    exact h _
  · exact ⟨Db.KeepsPasswords.verified (.of_accounts rfl) _, fun _ ha => (by cases ha), fun _ _ => trivial⟩

namespace Ws

theorem activeSession_verifies {f : Session → ServerM α}
    (hf : ∀ session w', Keeping w w' → w'.2.session = some session → Verifies env (f session) w') :
    Verifies env (activeSession >>= f) w := by
  unfold activeSession getConnection
  rw [Verifies, Proc.wp_bind, Proc.wp_bind, Proc.wp_atomically]
  refine fun w' hr => ⟨Db.KeepsPasswords.verified (.of_accounts rfl) _, fun slot hslot => ?_, nofun⟩
  cases hslot
  rw [Proc.wp_bind, Proc.wp_orFail]
  refine ⟨fun session hsession => ?_, fun _ => trivial⟩
  rw [Proc.wp_bind, Proc.wp_ensure]
  exact ⟨fun _ => (Proc.wp_pure _).2 (hf session w' (.of_eq hr.2) hsession), fun _ => trivial⟩

theorem handleChangePassword_verifies {id : String} {m : ChangePassword}
    (handling : w.2.handling = some (.changePassword m)) :
    Verifies env (handleChangePassword env i id m) w := by
  refine activeSession_verifies fun session w₁ hk₁ hsession => ?_
  refine .ensure fun _ => .after (.ofExcept _) fun _ w₂ hk₂ => ?_
  refine .learned fun n verified w₃ hsame₃ hverified => ?_
  obtain ⟨valid, replacement⟩ := verified
  refine .ensure fun hvalid => .learned fun n phc w₄ hsame₄ _ => ?_
  have hsession₄ : w₄.2.session = some session := by rw [hsame₄, hsame₃, hk₂.session, hsession]
  have handling₄ : w₄.2.handling = some (.changePassword m) := by
    rw [hsame₄, hsame₃, hk₂.handling, hk₁.handling, handling]
  have hpassword : env.passwords.verify session.account.passwordPhc m.currentPassword = true :=
    (congrArg Prod.fst (Except.ok.inj hverified)).trans hvalid
  have hproves : w₄.2.Proves env session.account.passwordPhc :=
    ⟨m.currentPassword, by rw [handling₄]; rfl, hpassword⟩
  have hread : w₄.2.verifiedAccount = some session.account := by
    simp [Connection.verifiedAccount, handling₄, hsession₄]
  refine .update (storesVerified_setPassword hread hproves (.inr ⟨m, handling₄⟩) _) fun _ => ?_
  refine LeavesPasswords.verifies (.bind (quiet_action fun _ => rfl) fun _ => ?_)
  exact .bind (audit_aside fun _ => .of_accounts rfl).quiet fun _ => IsAside.quiet reply_aside

theorem ensureUnauthenticated_aside {W : Db → Db → Prop} : IsAside W ensureUnauthenticated :=
  .bind getConnection_aside fun _ => .ensure _ _

theorem register_quiet {session : Session} : LeavesPasswords (register session i) := by
  refine .bind (quiet_action fun _ => rfl) fun previous => ?_
  have hrest : LeavesPasswords (modifyState fun state => { state with
      sessions := state.sessions.put
        { id := i
          accountId := session.account.id
          username := session.account.username
          deviceId := session.deviceId
          pending := session.pending } }) := quiet_action fun _ => rfl
  cases previous with
  | none => exact hrest
  | some previous => exact .bind (IsAside.quiet signal_aside) fun _ => hrest

theorem pushPostAuth_quiet {session : Session} : LeavesPasswords (pushPostAuth env i session) := by
  refine .bind (IsAside.quiet query_aside) fun _ => .bind (IsAside.quiet nowMs_aside) fun _ => ?_
  refine .bind (IsAside.quiet query_aside) fun _ => .bind (.each fun _ _ => IsAside.quiet send_aside) fun _ => ?_
  refine .bind (IsAside.quiet query_aside) fun _ => .each fun pending _ => ?_
  unfold pushPendingDevice
  split
  · exact .pure _
  · exact IsAside.quiet send_aside

/-- What follows the rehash changes no hash any more. -/
theorem openPendingSession_verifies {id : String} {challenge : Challenge} {row : AccountRow}
    {replacement : Option String} (hread : w.2.verifiedAccount = some row)
    (hproves : w.2.Proves env row.passwordPhc) :
    Verifies env (openPendingSession env i id challenge row replacement) w := by
  have hrest : ∀ account : AccountRow, LeavesPasswords (do
      let existing ← device env account.id challenge.deviceId
      Proc.ensure (existing.all DeviceRow.pending = true) "existing devices must use challenge signatures"
      let session : Session :=
        { account
          deviceId := challenge.deviceId
          pending := true
          passwordChangeRequired := false
          capabilities := challenge.capabilities }
      sendAuthenticated env i id session
      if existing.isSome then
        register session i
        pushPostAuth env i session
      let _ ← Proc.caught (audit env "auth" account.username "password_auth" session.deviceId "success")
      modifyConnection fun c => { c with
        session := some session
        log := .passwordAccepted row session.deviceId :: c.log }) := by
    intro account
    refine .bind (IsAside.quiet device_aside) fun existing => .bind (.ensure _ _) fun _ => ?_
    refine .bind (IsAside.quiet reply_aside) fun _ => ?_
    have hlast : LeavesPasswords (do
        let _ ← Proc.caught (audit env "auth" account.username "password_auth" challenge.deviceId "success")
        modifyConnection fun c => { c with
          session := some
            { account
              deviceId := challenge.deviceId
              pending := true
              passwordChangeRequired := false
              capabilities := challenge.capabilities }
          log := .passwordAccepted row challenge.deviceId :: c.log }) :=
      .bind (.caught (audit_aside fun _ => .of_accounts rfl).quiet) fun _ => quiet_action fun _ => rfl
    split
    · exact .bind register_quiet fun _ => .bind pushPostAuth_quiet fun _ => hlast
    · exact hlast
  unfold openPendingSession rehashPassword
  cases replacement with
  | none => exact (hrest row).verifies
  | some phc =>
    rw [Proc.bind_assoc]
    refine .update (storesVerified_setPassword hread hproves (.inl rfl) _) fun _ => ?_
    exact (hrest { row with passwordPhc := phc }).verifies

theorem handlePasswordAuth_verifies {id : String} {m : PasswordAuth}
    (handling : w.2.handling = some (.passwordAuth m)) :
    Verifies env (handlePasswordAuth env i id m) w := by
  refine .after ensureUnauthenticated_aside fun _ w₁ hk₁ => .after takeValidChallenge_aside fun challenge w₂ hk₂ => ?_
  refine .ensure fun _ => .after learn_aside fun _ w₃ hk₃ => ?_
  refine .ensure fun _ => .readAccount fun account w₄ hk₄ hfound => ?_
  refine .learned fun n verified w₅ hsame hverified => ?_
  obtain ⟨valid, replacement⟩ := verified
  dsimp only
  split
  · refine LeavesPasswords.verifies (.bind ?_ fun _ => .fail _)
    exact .caught (audit_aside fun _ => .of_accounts rfl).quiet
  · next row hrow =>
    obtain ⟨haccount, hactive⟩ := Option.filter_eq_some_iff.1 hrow
    rw [Bool.and_eq_true] at hactive
    have handling₅ : w₅.2.handling = some (.passwordAuth m) := by
      rw [hsame, hk₄.handling, hk₃.handling, hk₂.handling, hk₁.handling, handling]
    have hread : w₅.2.verifiedAccount = some row := by
      simp only [Connection.verifiedAccount, handling₅]
      rw [hsame, hfound, haccount]
    have hpassword : env.passwords.verify row.passwordPhc m.password = true := by
      have hfst := congrArg Prod.fst (Except.ok.inj hverified)
      rw [haccount] at hfst
      exact hfst.trans hactive.1
    exact openPendingSession_verifies hread ⟨m.password, by rw [handling₅]; rfl, hpassword⟩

theorem handleDeviceAuth_quiet {id : String} {m : DeviceAuth} : LeavesPasswords (handleDeviceAuth env P i id m) := by
  refine .bind (IsAside.quiet ensureUnauthenticated_aside) fun _ => ?_
  refine .bind (IsAside.quiet takeValidChallenge_aside) fun _ => .bind (IsAside.quiet accountByUsername_aside) fun _ => ?_
  refine .bind (.orFail _ _) fun _ => .bind (.ensure _ _) fun _ => .bind (IsAside.quiet device_aside) fun _ => ?_
  refine .bind (.orFail _ _) fun _ => .bind (.ensure _ _) fun _ => .bind (.ofExcept _) fun _ => ?_
  refine .bind (IsAside.quiet nowMs_aside) fun _ => .bind (update_aside fun _ => .of_accounts rfl).quiet fun _ => ?_
  refine .bind register_quiet fun _ => .bind (IsAside.quiet reply_aside) fun _ => .bind pushPostAuth_quiet fun _ => ?_
  exact .bind (.caught (audit_aside fun _ => .of_accounts rfl).quiet) fun _ => quiet_action fun _ => rfl

theorem insertDevice_quiet {accountId : String} {bundle : DeviceBundle} {sasPublic : Bytes} {pending : Bool}
    {now : Int} : LeavesPasswords (write env fun db => db.insertDevice accountId bundle sasPublic pending now) := by
  refine IsAside.quiet (write_aside fun db db' h => ?_)
  obtain ⟨-, -, rfl⟩ := Db.insertDevice_eq_ok.1 h
  exact .of_accounts rfl

theorem publishPreKeys_quiet {deviceId : String} {keys : List OneTimeKey} {now : Int} :
    LeavesPasswords (write env fun db => db.publishPreKeys deviceId keys now) := by
  refine IsAside.quiet (write_aside fun db db' h => ?_)
  obtain ⟨-, rfl⟩ := Db.publishPreKeys_eq_ok.1 h
  exact .of_accounts rfl

theorem handleBootstrapDevice_quiet {id : String} {m : BootstrapDevice} :
    LeavesPasswords (handleBootstrapDevice env P i id m) := by
  refine .bind (IsAside.quiet anySession_aside) fun session => .bind (.ensure _ _) fun _ => ?_
  refine .bind (IsAside.quiet device_aside) fun _ => .bind (.ensure _ _) fun _ => .bind (.ensure _ _) fun _ => ?_
  refine .bind (IsAside.quiet query_aside) fun _ => .bind (IsAside.quiet query_aside) fun counts => ?_
  split
  · refine .bind (.ensure _ _) fun _ => .bind (.ofExcept _) fun _ => ?_
    refine .bind (executeRecording_aside (fun _ db r hr => ?_) fun _ _ => rfl).quiet fun _ => ?_
    · obtain ⟨db', hdb', rfl⟩ := Except.map_eq_ok.1 hr
      obtain ⟨-, rfl⟩ := Db.bootstrapMaster_eq_ok.1 hdb'
      exact Db.KeepsPasswords.of_update (p := fun row => row.id = _)
        (f := fun row => { row with masterPublicKey := some m.accountMasterKey, rosterRevision := 1 })
        (fun _ => rfl) rfl fun _ => ⟨rfl, rfl⟩
    refine .bind (IsAside.quiet nowMs_aside) fun _ => .bind insertDevice_quiet fun _ => ?_
    refine .bind (IsAside.quiet nowMs_aside) fun _ => .bind publishPreKeys_quiet fun _ => ?_
    refine .bind (quiet_action fun _ => rfl) fun _ => .bind register_quiet fun _ => IsAside.quiet reply_aside
  · refine .bind (.ensure _ _) fun _ => .bind (.ensure _ _) fun _ => .bind (.ensure _ _) fun _ => ?_
    refine .bind (IsAside.quiet nowMs_aside) fun _ => .bind insertDevice_quiet fun _ => ?_
    refine .bind (IsAside.quiet nowMs_aside) fun _ => .bind publishPreKeys_quiet fun _ => ?_
    refine .bind register_quiet fun _ => .bind (IsAside.quiet pushAccount_aside) fun _ => IsAside.quiet reply_aside

theorem close_quiet : LeavesPasswords (close i) := by
  refine .bind (quiet_action fun _ => rfl) fun _ => .bind (IsAside.quiet getConnection_aside) fun slot => ?_
  cases slot with
  | none => exact .pure _
  | some session => exact .bind (quiet_action fun _ => rfl) fun _ => quiet_action fun _ => rfl

theorem handleBody_verifies {id : String} {body : Body} (handling : w.2.handling = some body) :
    Verifies env (handleBody env P i id body) w := by
  have kept : ∀ db db' : Db, db.KeepsPasswords db' → db.KeepsPasswords db' := fun _ _ h => h
  cases body with
  | clientHello m => exact (IsAside.quiet handleClientHello_aside).verifies
  | deviceAuth m => exact handleDeviceAuth_quiet.verifies
  | passwordAuth m => exact handlePasswordAuth_verifies handling
  | bootstrapDevice m => exact handleBootstrapDevice_quiet.verifies
  | changePassword m => exact handleChangePassword_verifies handling
  | lookupUser m => exact (IsAside.quiet handleLookupUser_aside).verifies
  | publishPreKeys m => exact (handlePublishPreKeys_aside kept).quiet.verifies
  | claimPreKey m => exact (handleClaimPreKey_aside kept).quiet.verifies
  | sendEnvelopes m => exact (handleSendEnvelopes_aside kept).quiet.verifies
  | syncRequest m => exact (IsAside.quiet handleSyncRequest_aside).verifies
  | ackEnvelope m => exact (handleAckEnvelope_aside kept).quiet.verifies
  | pairingEvent m => exact (handlePairingEvent_aside kept).quiet.verifies
  | ackPairingEvent m => exact (handleAckPairingEvent_aside kept).quiet.verifies
  | activateDevice m => exact (handleActivateDevice_aside kept).quiet.verifies
  | listOwnDevices => exact (IsAside.quiet handleListOwnDevices_aside).verifies
  | revokeOwnDevice m => exact (handleRevokeOwnDevice_aside kept).quiet.verifies
  | ping m => exact (IsAside.quiet reply_aside).verifies
  | pong m => exact LeavesPasswords.verifies (.pure ())
  | _ => exact LeavesPasswords.verifies (.fail _)

theorem handleReporting_verifies {f : Frame} (handling : w.2.handling = f.body) :
    Verifies env (handleReporting env P i f) w := by
  unfold handleReporting handleFrame
  rw [Verifies, Proc.wp_bind, Proc.wp_caught, Proc.wp_bind, Proc.wp_orFail]
  have hreport : ∀ e (w : ServerWorld), Verifies env (sendError env i f.id (publicError e).code
      (publicError e).message (publicError e).retryable) w := fun _ _ => (IsAside.quiet sendError_aside).verifies
  refine ⟨fun body hbody => ?_, fun _ => hreport _ w⟩
  exact wp.mono (handleBody_verifies (handling.trans hbody)) (fun _ _ h => h)
    (fun _ _ _ => (Proc.wp_pure ()).2 trivial) fun e w _ => hreport e w

theorem serveFrame_verifies {f : Frame} : Verifies env (serveFrame env P i f) w := by
  have hclose : ∀ {id code message : String} {retryable : Bool} (w : ServerWorld),
      Verifies env (sendError env i id code message retryable >>= fun _ => close i) w := fun w =>
    LeavesPasswords.verifies (.bind (IsAside.quiet sendError_aside) fun _ => close_quiet)
  rw [serveFrame, record, modifyConnection, Verifies, Proc.wp_bind, Proc.wp_atomically]
  refine fun w₀ _ => ⟨Db.KeepsPasswords.verified (.of_accounts rfl) _, fun _ _ => ?_, fun _ he => by cases he⟩
  split
  · exact hclose _
  refine Verifies.after takeRequest_aside fun admitted w₁ hk₁ => ?_
  split
  · exact hclose _
  refine Verifies.after recheckAccess_aside fun allowed w₂ hk₂ => ?_
  split
  · exact hclose _
  · exact handleReporting_verifies (hk₂.handling.trans hk₁.handling)

theorem serve_verifies (m : Incoming) : Verifies env (serve env P i m) w := by
  cases m with
  | binary decoded =>
    cases decoded with
    | error e => exact (IsAside.quiet sendError_aside).verifies
    | ok f =>
      rw [serve]
      split
      · exact serveFrame_verifies
      · exact (IsAside.quiet sendError_aside).verifies
  | ping first => exact (IsAside.quiet trySend_aside).verifies
  | other => exact LeavesPasswords.verifies (.pure ())
  | closed => exact close_quiet.verifies
  | disconnect reason => exact LeavesPasswords.verifies (.bind (IsAside.quiet sendError_aside) fun _ => close_quiet)

end Ws

/-! ## Runs -/

/-- The server, and which of its tasks serve a message: the others run an administrator's command. -/
structure Watched where
  cluster : Cluster
  serving : Nat → Bool

namespace Watched

def step (env : ServerEnvironment) (P : Primitives) (w : Watched) (l : Cluster.Label) : Option Watched :=
  (Cluster.step env P w.cluster l).map fun cluster =>
    { cluster
      serving := match l with
        | .incoming i _ => Function.update w.serving i true
        | .command i _ => Function.update w.serving i false
        | _ => w.serving }

/-- The runs of a server. -/
def system (env : ServerEnvironment) (P : Primitives) : System Watched Cluster.Label :=
  System.ofFun (fun w => w = { cluster := .initial env, serving := fun _ => false }) (step env P)

/-- What a task guarantees: if it serves a message, the changes it makes to hashes are verified. -/
def Guarantee (env : ServerEnvironment) (serving : Bool) (w w' : ServerWorld) : Prop :=
  serving = true → StoresVerified env w.2 w.1.db w'.1.db

def Verified (env : ServerEnvironment) (w : Watched) : Prop :=
  w.cluster.Guaranteed (fun _ _ => True) fun i => Guarantee env (w.serving i)

variable {w' : Watched} {l : Cluster.Label}

/-- A task is started in the place of another. -/
theorem Verified.start {w : Watched} (h : w.Verified env) {i : Nat} {m : ServerM Unit} {serving : Bool}
    (hm : wp (Pool.Interferes fun _ _ => True) (Guarantee env serving) m (fun _ _ => True) (fun _ _ => True)
      (w.cluster.world i)) :
    Verified env { cluster := w.cluster.start i m, serving := Function.update w.serving i serving } := by
  intro j n hn
  by_cases hj : j = i
  · subst hj
    rw [show (w.cluster.start j m).tasks j = some m from Function.update_self ..] at hn
    cases hn
    dsimp only
    rw [Function.update_self]
    exact hm
  · rw [show (w.cluster.start i m).tasks j = w.cluster.tasks j from Function.update_of_ne hj ..] at hn
    dsimp only
    rw [Function.update_of_ne hj]
    exact h j n hn

theorem Verified.step {w : Watched} (h : w.Verified env) (hs : w.step env P l = some w') : w'.Verified env := by
  obtain ⟨p', hp', rfl⟩ := Option.map_eq_some_iff.1 hs
  cases l with
  | incoming i m =>
    obtain ⟨-, hstart⟩ := Option.ite_none_right_eq_some.1 hp'
    cases hstart
    exact h.start ((Ws.serve_verifies m).mono (fun _ _ hw _ => hw) (fun _ _ h => h) fun _ _ h => h)
  | command i c =>
    obtain ⟨-, hstart⟩ := Option.ite_none_right_eq_some.1 hp'
    cases hstart
    have hall : Proc.Moves (Pool.Interferes fun _ _ => True) (Guarantee env false) (fun _ _ => True)
        (Admin.runCommand env c) := (Proc.all_trivial _).moves fun _ _ _ _ _ => ⟨nofun, trivial⟩
    exact h.start (hall _)
  | advance i =>
    obtain ⟨-, hadvance⟩ := Option.ite_none_right_eq_some.1 hp'
    cases hadvance
    exact (Pool.Guaranteed.advance (fun _ _ _ _ => trivial) h i).1
  | crash =>
    cases hp'
    exact fun _ _ hm => (nomatch hm)

/-- Every run of the server is one of these. -/
theorem exists_watched {C : Cluster → Cluster.Label → Prop} {D : Watched → Cluster.Label → Prop} {p : Cluster}
    (hCD : ∀ w l, C w.cluster l → D w l) (h : (serverSystem env P).ReachableUnder C p) :
    ∃ serving, (system env P).ReachableUnder D { cluster := p, serving } := by
  induction h with
  | init h =>
    exact ⟨fun _ => false, .init (congrArg (fun p => ({ cluster := p, serving := fun _ => false } : Watched)) h)⟩
  | step _ guard hstep ih =>
    obtain ⟨serving, hserving⟩ := ih
    exact ⟨_, hserving.step (hCD _ _ guard) (Option.map_eq_some_iff.2 ⟨_, hstep, rfl⟩)⟩

/-- A task goes on. -/
theorem advances {D : Watched → Cluster.Label → Prop} {w : Watched} (h : (system env P).ReachableUnder D w)
    (i n : Nat) (hD : ∀ k < n, D { w with cluster := (fun q => q.advance i)^[k] w.cluster } (.advance i)) :
    (system env P).ReachableUnder D { w with cluster := (fun q => q.advance i)^[n] w.cluster } := by
  induction n with
  | zero => exact h
  | succ n ih =>
    have hbefore := ih fun k hk => hD k (Nat.lt_succ_of_lt hk)
    rw [Function.iterate_succ_apply']
    cases hi : ((fun q => q.advance i)^[n] w.cluster).tasks i with
    | none =>
      rw [Pool.advance_of_none hi]
      exact hbefore
    | some m =>
      refine hbefore.step (i := .advance i) (hD n (Nat.lt_succ_self n)) (Option.map_eq_some_iff.2 ⟨_, ?_, rfl⟩)
      exact if_pos (by simp [hi])

theorem verified {w : Watched} (h : (system env P).Reachable w) : w.Verified env :=
  h.invariant (I := Verified env)
    (fun w hw => by
      subst hw
      exact fun _ _ hm => (nomatch hm))
    fun _ _ _ h _ hs => Verified.step h hs

end Watched

/-- The stored row has a hash of the same password as the row that was verified, and requires no change of it
that that one did not. -/
structure AccountRow.StillVerified (env : ServerEnvironment) (row read : AccountRow) : Prop where
  password : ∀ p, env.passwords.verify row.passwordPhc p = env.passwords.verify read.passwordPhc p
  required : row.requirePasswordChange = true → read.requirePasswordChange = true

/-- A task that serves a message changes a hash, or a `require_password_change`, only where what is stored is
still what its handler verified. -/
def Watched.Fresh (env : ServerEnvironment) (w : Watched) : Cluster.Label → Prop
  | .advance i => w.serving i = true → ∀ a row row', w.cluster.shared.db.accounts.find a = some row →
      (w.cluster.advance i).shared.db.accounts.find a = some row' →
      ¬(row'.passwordPhc = row.passwordPhc ∧ row'.requirePasswordChange = row.requirePasswordChange) →
      ∀ read, (w.cluster.locals i).verifiedAccount = some read → row.StillVerified env read
  | _ => True

/-- In such a run, a frame that changes what is stored of an account's password gives the password of the
stored hash, and only a `ChangePassword` takes back that it has to be changed. -/
theorem password_writes_proven {w : Watched} (h : (Watched.system env P).ReachableUnder (Watched.Fresh env) w)
    {i : Nat} (serving : w.serving i = true) (fresh : w.Fresh env (.advance i)) {a : String}
    {row row' : AccountRow} (hrow : w.cluster.shared.db.accounts.find a = some row)
    (hrow' : (w.cluster.advance i).shared.db.accounts.find a = some row')
    (changed : ¬(row'.passwordPhc = row.passwordPhc ∧ row'.requirePasswordChange = row.requirePasswordChange)) :
    (w.cluster.locals i).Proves env row.passwordPhc ∧
      (row.requirePasswordChange = true → row'.requirePasswordChange = false →
        ∃ m, (w.cluster.locals i).handling = some (.changePassword m)) := by
  obtain ⟨-, ⟨hshared, -⟩ | ⟨hstores, -⟩⟩ :=
    Pool.Guaranteed.advance (fun _ _ _ _ => trivial) (Watched.verified h.reachable) i
  · rw [hshared, hrow] at hrow'
    cases hrow'
    exact absurd ⟨rfl, rfl⟩ changed
  · obtain hsame | ⟨read, hread, ⟨password, hgiven, hverify⟩, hflag⟩ := hstores serving a row row' hrow hrow'
    · exact absurd hsame changed
    have hstill := fresh serving a row row' hrow hrow' changed read hread
    refine ⟨⟨password, hgiven, (hstill.password password).trans hverify⟩, fun hrequired hcleared => ?_⟩
    rcases hflag with hflag | hchange
    · rw [hstill.required hrequired, hcleared] at hflag
      cases hflag
    · exact hchange

namespace Scenario.StaleSession

def resetTo : String := "reset by the administrator"

def changedTo : String := "another battery staple"

/-- A session of Alice is open; the administrator resets her password, or does not. -/
def moves (resets : Bool) : List Move :=
  firstDeviceOf 0 "alice" (uuid '1') 'a' 1 2 ++
    if resets then [.command 9 (.userResetPassword "alice" resetTo)] else []

/-- The session's `ChangePassword`, after some of its handler's actions. -/
def changing (resets : Bool) (n : Nat) : Cluster :=
  (fun p => p.advance 0)^[n] ((clusterAfter (moves resets)).start 0 (Ws.serve server primitives 0
    (.binary (.ok (frame "r" (.changePassword { currentPassword := password, newPassword := changedTo }))))))

/-- What is stored of Alice's password. -/
def stored (p : Cluster) : Option (String × Bool) :=
  (p.shared.db.accounts.find (uuid '1')).map fun row => (row.passwordPhc, row.requirePasswordChange)

theorem watched_changing {D : Watched → Cluster.Label → Prop} {resets : Bool} {serving : Nat → Bool} (n : Nat)
    (h : (Watched.system server primitives).ReachableUnder D { cluster := clusterAfter (moves resets), serving })
    (hidle : Cluster.Waits (clusterAfter (moves resets)) 0 .other)
    (hstart : D { cluster := clusterAfter (moves resets), serving } (.incoming 0 (.binary (.ok (frame "r"
      (.changePassword { currentPassword := password, newPassword := changedTo }))))))
    (hD : ∀ k < n, D { cluster := changing resets k, serving := Function.update serving 0 true } (.advance 0)) :
    (Watched.system server primitives).ReachableUnder D
      { cluster := changing resets n, serving := Function.update serving 0 true } :=
  Watched.advances (.step h hstart (Option.map_eq_some_iff.2 ⟨_, if_pos hidle, rfl⟩)) 0 n hD

/-- The reset password is gone, and does not have to be changed any more. -/
theorem reset_undone : ∃ w, (Watched.system server primitives).Reachable w ∧ w.serving 0 = true ∧
    stored w.cluster = some (resetTo, true) ∧ stored (w.cluster.advance 0) = some (changedTo, false) ∧
    ¬(w.cluster.locals 0).Proves server resetTo := by
  obtain ⟨serving, hserving⟩ := Watched.exists_watched (D := fun _ _ => True) (fun _ _ _ => trivial)
    (clusterAfter_reachable (moves true))
  obtain ⟨hidle, hbefore, hafter, hpassword⟩ : Cluster.Waits (clusterAfter (moves true)) 0 .other ∧
      stored (changing true 8) = some (resetTo, true) ∧
      stored ((changing true 8).advance 0) = some (changedTo, false) ∧
      ((changing true 8).locals 0).handling.bind Body.givenPassword = some password := by decide +kernel
  refine ⟨_, watched_changing 8 hserving hidle trivial fun _ _ => trivial, by simp, hbefore, hafter, ?_⟩
  rintro ⟨given, hgiven, hverify⟩
  rw [hpassword] at hgiven
  cases hgiven
  revert hverify
  decide

/-- The rows of accounts that stay keep what is stored of their passwords. -/
def KeepsRows (s : AppState) (_ : Connection) (s' : AppState) : Prop :=
  ∀ row ∈ s.db.accounts.rows, ∀ row' ∈ s'.db.accounts.rows, row'.id = row.id →
    row'.passwordPhc = row.passwordPhc ∧ row'.requirePasswordChange = row.requirePasswordChange

instance (s : AppState) (c : Connection) (s' : AppState) : Decidable (KeepsRows s c s') := by
  unfold KeepsRows
  infer_instance

theorem fresh_of_keepsRows {w : Watched} {i : Nat}
    (h : KeepsRows w.cluster.shared (w.cluster.locals i) (w.cluster.advance i).shared) :
    w.Fresh server (.advance i) := by
  intro _ a row row' hrow hrow' hchanged
  have hid : row'.id = row.id := (Table.key_of_find hrow').trans (Table.key_of_find hrow).symm
  exact absurd (h row (Table.mem_of_find hrow) row' (Table.mem_of_find hrow') hid) hchanged

/-- Where nothing was reset, the session gives the stored password. -/
theorem password_writes_proven_changed : ((changing false 8).locals 0).Proves server password := by
  obtain ⟨serving, hserving⟩ := Watched.exists_watched (D := Watched.Fresh server)
    (fun w l hG => by
      cases l with
      | advance i => exact fresh_of_keepsRows hG
      | _ => trivial)
    (show (serverSystem server primitives).ReachableUnder (Cluster.Meets KeepsRows) (clusterAfter (moves false)) from
      clusterAfter_under (by decide +kernel))
  obtain ⟨hidle, hsteps, hbefore, hafter, hverified, hrows⟩ :
      Cluster.Waits (clusterAfter (moves false)) 0 .other ∧
      (∀ k < 8, KeepsRows (changing false k).shared ((changing false k).locals 0)
        ((changing false k).advance 0).shared) ∧
      stored (changing false 8) = some (password, true) ∧
      stored ((changing false 8).advance 0) = some (changedTo, false) ∧
      ((changing false 8).locals 0).verifiedAccount.all (fun read => read.passwordPhc = password ∧
        read.requirePasswordChange = true) = true ∧
      ∀ row ∈ (changing false 8).shared.db.accounts.rows, row.passwordPhc = password := by decide +kernel
  have hrun := watched_changing 8 hserving hidle trivial fun k hk => fresh_of_keepsRows (hsteps k hk)
  obtain ⟨row, hrow, hfields⟩ := Option.map_eq_some_iff.1 hbefore
  obtain ⟨row', hrow', hfields'⟩ := Option.map_eq_some_iff.1 hafter
  obtain ⟨hphc, hflag⟩ := Prod.mk.inj hfields
  obtain ⟨hphc', hflag'⟩ := Prod.mk.inj hfields'
  have hchanged : ¬(row'.passwordPhc = row.passwordPhc ∧ row'.requirePasswordChange = row.requirePasswordChange) := by
    rw [hflag, hflag']
    simp
  rw [← hphc]
  refine (password_writes_proven hrun (Function.update_self ..) ?_ hrow hrow' hchanged).1
  intro _ _ old _ hold _ _ read hread
  rw [hread, Option.all_some, decide_eq_true_eq] at hverified
  refine ⟨fun given => ?_, fun _ => hverified.2⟩
  rw [hrows old (Table.mem_of_find hold), hverified.1]

end Scenario.StaleSession

end TuiChat
