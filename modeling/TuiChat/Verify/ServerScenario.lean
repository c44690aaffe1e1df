import TuiChat.Server.Runs
import TuiChat.Verify.Scenario

/-!
# Concrete servers

A server with the default configuration on which everything works, and the frames and commands that
its users, their devices and its administrator give it. A password hash is the password; accounts and
devices have UUIDs that end in a digit of theirs.
-/

namespace TuiChat.Scenario

open Lib

def uuid (digit : Char) : String := "00000000-0000-4000-8000-00000000000".push digit

/-- The default configuration, a clock that goes on by a second whenever something is learned, and an
account id from the moment. -/
def server : ServerEnvironment where
  publicDomain := "localhost"
  storageLimits :=
    { maxAccountCiphertextBytes := 512 * 1024 * 1024
      maxTotalCiphertextBytes := 10 * 1024 * 1024 * 1024
      minFreeDiskBytes := 1024 * 1024 * 1024 }
  pairingTtlSeconds := 24 * 60 * 60
  requestsPerMinute := 120
  requestBurst := 30
  dummyPasswordPhc := ""
  passwords :=
    { verify := fun phc password => phc = password
      needsRehash := fun _ => false
      hash := fun _ password => some password }
  works _ := true
  nowMs n := 1000 * n
  instant n := 10 ^ 9 * n
  nonce n := bytes32 (UInt8.ofNat n)
  uuid n := uuid (Char.ofNat (48 + n % 10))
  freeDiskBytes _ := 2 ^ 40
  allowsPasswordAttempt _ := true

def password : String := "correct horse battery"

/-! ## Frames -/

def helloOf (username deviceId : String) : Body :=
  .clientHello { username, deviceId, capabilities := clientCapabilities }

def passwordOf (username deviceId : String) : Body :=
  .passwordAuth { username, deviceId, password }

/-- The first device of an account, certified under a new master key. -/
def bootstrapOf (accountId deviceId : String) (master key : UInt8) : Body :=
  .bootstrapDevice
    { deviceId
      deviceName := "device"
      authSigningKey := bytes32 key
      olmEd25519Key := bytes32 key
      olmCurve25519Key := bytes32 key
      sasPublicKey := bytes32 key
      accountMasterKey := bytes32 master
      certificateSignature := DeviceIdentity.certificate primitives accountId deviceId (bytes32 master)
        (bytes32 key) (bytes32 key) (bytes32 key)
      oneTimeKeys := [] }

/-- Another device of an account, which waits for its certificate. -/
def joiningOf (deviceId : String) (master key : UInt8) : Body :=
  .bootstrapDevice
    { deviceId
      deviceName := "device"
      authSigningKey := bytes32 key
      olmEd25519Key := bytes32 key
      olmCurve25519Key := bytes32 key
      sasPublicKey := bytes32 key
      accountMasterKey := bytes32 master
      certificateSignature := []
      oneTimeKeys := [] }

/-! ## Runs -/

inductive Move
  | frame (t : Nat) (body : Body)
  | command (t : Nat) (c : Admin.Command)

/-- A move is handled to its end. -/
def Move.run (p : Cluster) : Move → Cluster
  | .frame t body => p.served server primitives t (.binary (.ok (TuiChat.frame "r" body)))
  | .command t c => p.commanded server t c

def clusterAfter (moves : List Move) : Cluster := moves.foldl Move.run (.initial server)

theorem moves_reachable (moves : List Move) : ∀ {p : Cluster}, (serverSystem server primitives).Reachable p →
    (serverSystem server primitives).Reachable (moves.foldl Move.run p) := by
  induction moves with
  | nil => exact fun h => h
  | cons move moves ih =>
    intro p h
    cases move with
    | frame t body => exact ih (Cluster.served_reachable h t _)
    | command t c => exact ih (Cluster.commanded_reachable h t c)

theorem clusterAfter_reachable (moves : List Move) :
    (serverSystem server primitives).Reachable (clusterAfter moves) :=
  moves_reachable moves (.init rfl)

/-- A new user logs in, and bootstraps the account's first device. -/
def firstDeviceOf (t : Nat) (username account : String) (device : Char) (master key : UInt8) : List Move :=
  [.command 99 (.userAdd username password),
    .frame t (helloOf username (uuid device)),
    .frame t (passwordOf username (uuid device)),
    .frame t (bootstrapOf account (uuid device) master key)]

/-- Alice and Carol with a device each; Carol may write. -/
def correspondents : List Move :=
  firstDeviceOf 0 "alice" (uuid '1') 'a' 1 2 ++ firstDeviceOf 1 "carol" (uuid '7') 'c' 3 4 ++
    [.frame 1 (.changePassword { currentPassword := password, newPassword := "another battery" })]

/-- An envelope of a message of Carol's. -/
def letterOf (peer : String) (message id : Char) (account device : String) : EncryptedEnvelope :=
  { envelopeId := uuid id
    logicalMessageId := uuid message
    conversationId := conversationId primitives.sha256 (uuid '7') peer
    recipientAccountId := account
    recipientDeviceId := device
    ciphertext := [1]
    olmMessageType := 1
    clientSentAtMs := 0 }

/-! ## Runs under a condition -/

section

variable (G : AppState → Connection → AppState → Prop)

/-- Every action of the move is as `G` says. -/
def Move.Meets (p : Cluster) : Move → Prop
  | .frame t body => (Ws.serve server primitives t (.binary (.ok (TuiChat.frame "r" body)))).always
      (fun w w' => G w.1 w.2 w'.1) (p.world t)
  | .command t c => (Admin.runCommand server c).always (fun w w' => G w.1 w.2 w'.1) (p.world t)

def RunMeets : Cluster → List Move → Prop
  | _, [] => True
  | p, move :: moves => move.Meets G p ∧ RunMeets (move.run p) moves

variable [∀ s c s', Decidable (G s c s')]

instance (p : Cluster) (move : Move) : Decidable (move.Meets G p) := by
  have : DecidableRel fun w w' : ServerWorld => G w.1 w.2 w'.1 := fun _ _ => inferInstance
  cases move <;> exact Proc.decidableAlways _ _ _

instance decidableRunMeets : ∀ (p : Cluster) (moves : List Move), Decidable (RunMeets G p moves)
  | _, [] => .isTrue trivial
  | p, move :: moves =>
    have := decidableRunMeets (move.run p) moves
    inferInstanceAs (Decidable (move.Meets G p ∧ RunMeets G (move.run p) moves))

end

theorem clusterAfter_under {G : AppState → Connection → AppState → Prop} {moves : List Move}
    (h : RunMeets G (.initial server) moves) :
    (serverSystem server primitives).ReachableUnder (Cluster.Meets G) (clusterAfter moves) := by
  have hfold : ∀ (moves : List Move) (p : Cluster), RunMeets G p moves →
      (serverSystem server primitives).ReachableUnder (Cluster.Meets G) p →
      (serverSystem server primitives).ReachableUnder (Cluster.Meets G) (moves.foldl Move.run p) := by
    intro moves
    induction moves with
    | nil => exact fun _ _ h => h
    | cons move moves ih =>
      intro p hmoves h
      refine ih _ hmoves.2 ?_
      have hmove := hmoves.1
      cases move with
      | frame t body =>
        show (serverSystem server primitives).ReachableUnder _ (p.served server primitives t _)
        unfold Cluster.served
        split
        · next hw =>
          exact Cluster.finish_reachable_under (.step (i := .incoming t _) h trivial (if_pos hw)) hmove
        · exact h
      | command t c =>
        show (serverSystem server primitives).ReachableUnder _ (p.commanded server t c)
        unfold Cluster.commanded
        split
        · next hw =>
          exact Cluster.finish_reachable_under (.step (i := .command t c) h trivial (if_pos hw)) hmove
        · exact h
  exact hfold moves _ h (.init rfl)

end TuiChat.Scenario
