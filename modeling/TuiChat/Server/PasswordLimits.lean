import TuiChat.Server.Admission

/-!
# The limits on password attempts

`allow_password_attempt` of `crates/server/src/ws.rs`: a bucket for each address and one for each user
name, in two tables that hold at most 10,000 buckets each. Where a bucket is asked for of a key that has
none in a full table, the buckets that were idle for some time go first; if the table is still full, the
attempt is refused. Without a capacity the tables grow, and no bucket ever goes.
-/

namespace TuiChat

open Lib

/-- The limits on attempts of a configuration that `Config::load` accepts. -/
structure AttemptLimits where
  attemptsPerMinute : Nat
  attemptBurst : Nat
  attemptsPerAccountPerHour : Nat
  attemptsPerMinute_pos : 0 < attemptsPerMinute
  attemptBurst_pos : 0 < attemptBurst
  attemptsPerAccountPerHour_pos : 0 < attemptsPerAccountPerHour

/-- How the buckets of a table are filled, and the seconds after which an idle one may go. -/
structure BucketRule where
  tokensPerSecond : ℚ
  burst : Nat
  idleSeconds : Nat

abbrev Buckets (κ : Type) := Table (Prod.fst : κ × TokenBucket → κ)

namespace Buckets

variable {κ : Type} [DecidableEq κ]

/-- The table holds as many buckets as it may, and none for the key. -/
def full (capacity : Option Nat) (buckets : Buckets κ) (key : κ) : Bool :=
  capacity.any (fun capacity => capacity ≤ buckets.rows.length) && (buckets.find key).isNone

/-- The bucket is idle: `bucket.updated.elapsed() >= Duration::from_secs(idle_seconds)`. -/
def idle (rule : BucketRule) (now : Nat) (row : κ × TokenBucket) : Bool :=
  rule.idleSeconds * 10 ^ 9 ≤ now - row.2.updated

/-- What is left of the table when a bucket is asked for. -/
def kept (rule : BucketRule) (capacity : Option Nat) (buckets : Buckets κ) (key : κ) (now : Nat) : Buckets κ :=
  if buckets.full capacity key then buckets.delete (idle rule now) else buckets

/-- A token of the key's bucket, which is made if there is none. -/
def take (rule : BucketRule) (buckets : Buckets κ) (key : κ) (now : Nat) : Bool × Buckets κ :=
  let bucket := ((buckets.find key).map Prod.snd).getD (.new rule.burst now)
  let r := bucket.takeRate rule.tokensPerSecond rule.burst now
  (r.1, buckets.put (key, r.2))

def allow (rule : BucketRule) (capacity : Option Nat) (buckets : Buckets κ) (key : κ) (now : Nat) :
    Bool × Buckets κ :=
  let kept := buckets.kept rule capacity key now
  if kept.full capacity key then (false, kept) else kept.take rule key now

end Buckets

namespace AttemptLimits

variable (limits : AttemptLimits)

def addressRule : BucketRule where
  tokensPerSecond := limits.attemptsPerMinute / 60
  burst := limits.attemptBurst
  idleSeconds := 600

def accountRule : BucketRule where
  tokensPerSecond := limits.attemptsPerAccountPerHour / 3600
  burst := 10
  idleSeconds := 60 * 60

end AttemptLimits

structure PasswordBuckets where
  authBuckets : Buckets IpAddr
  authAccountBuckets : Buckets String

/-- A password attempt at an instant. -/
structure Attempt where
  sourceIp : IpAddr
  username : String
  now : Nat
deriving DecidableEq, Repr

def maxBuckets : Nat := 10000

namespace PasswordBuckets

def empty : PasswordBuckets := { authBuckets := ∅, authAccountBuckets := ∅ }

def allowPasswordAttempt (limits : AttemptLimits) (capacity : Option Nat) (s : PasswordBuckets) (a : Attempt) :
    Bool × PasswordBuckets :=
  let byIp := s.authBuckets.allow limits.addressRule capacity a.sourceIp a.now
  if !byIp.1 then (false, { s with authBuckets := byIp.2 })
  else
    let byName := s.authAccountBuckets.allow limits.accountRule capacity a.username a.now
    (byName.1, { authBuckets := byIp.2, authAccountBuckets := byName.2 })

/-- The attempts of a sequence that are allowed. -/
def allowed (limits : AttemptLimits) (capacity : Option Nat) : PasswordBuckets → List Attempt → List Attempt
  | _, [] => []
  | s, a :: attempts =>
    let r := s.allowPasswordAttempt limits capacity a
    if r.1 then a :: r.2.allowed limits capacity attempts else r.2.allowed limits capacity attempts

end PasswordBuckets

end TuiChat
