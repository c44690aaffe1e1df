import TuiChat.Server.PasswordLimits
import TuiChat.Verify.TokenBuckets
import Mathlib.Tactic.Ring

/-!
# What the eviction of password buckets lets through

The limiter is compared with one whose tables have no bound, on the attempts that it allows. As long as it
drops only buckets that are full again, its bucket for a key never holds more than the other's
(`Buckets.Below`), so the other allows all of them. A configuration whose bursts are refilled within the
idle times drops no other buckets. `Config::load` accepts more (`Scenario.Flood.refused_without_eviction`).
-/

namespace TuiChat

open Lib

namespace Buckets

variable {κ : Type} [DecidableEq κ] {rule : BucketRule} {buckets real ideal : Buckets κ} {key : κ} {now t : Nat}

/-- The tokens that an attempt of the key would find. -/
def level (rule : BucketRule) (buckets : Buckets κ) (key : κ) (now : Nat) : ℚ :=
  (((buckets.find key).map Prod.snd).getD (.new rule.burst now)).level rule.tokensPerSecond rule.burst now

theorem level_of_none (h : buckets.find key = none) : buckets.level rule key now = rule.burst := by
  rw [level, h]
  exact TokenBucket.level_new ..

theorem level_of_find {row : κ × TokenBucket} (h : buckets.find key = some row) :
    buckets.level rule key now = row.2.level rule.tokensPerSecond rule.burst now := by
  rw [level, h]
  rfl

theorem level_le (key : κ) (now : Nat) : buckets.level rule key now ≤ rule.burst := refill_le ..

/-- Buckets hold no more than the burst, and were last asked before now. -/
def Sound (rule : BucketRule) (now : Nat) (buckets : Buckets κ) : Prop :=
  ∀ row ∈ buckets, row.2.Valid rule.burst ∧ row.2.updated ≤ now

omit [DecidableEq κ] in
theorem Sound.later (h : Sound rule now buckets) (ht : now ≤ t) : Sound rule t buckets := fun row hrow =>
  ⟨(h row hrow).1, (h row hrow).2.trans ht⟩

/-! ## A token is taken -/

theorem take_fst : (buckets.take rule key now).1 = !decide (buckets.level rule key now < 1) := by
  unfold take level
  dsimp only
  rw [TokenBucket.takeRate_eq]
  split
  · next h => simp [h]
  · next h => simp [h]

theorem Sound.take (hrate : 0 ≤ rule.tokensPerSecond) (h : Sound rule now buckets) :
    Sound rule now (buckets.take rule key now).2 := by
  have hvalid : (((buckets.find key).map Prod.snd).getD (.new rule.burst now)).Valid rule.burst := by
    cases hfind : buckets.find key with
    | none => exact TokenBucket.valid_new rule.burst now
    | some row => exact (h row (Table.mem_of_find hfind)).1
  intro row hrow
  rcases Table.mem_put.1 hrow with rfl | ⟨hrow, -⟩
  · exact ⟨hvalid.takeRate hrate now, (TokenBucket.takeRate_updated ..).le⟩
  · exact h row hrow

/-- What is refilled from an instant on, and what is refilled since the last call. -/
theorem Sound.level_later (hrate : 0 ≤ rule.tokensPerSecond) (h : Sound rule now buckets) (ht : now ≤ t) (key : κ) :
    refill (rule.burst : ℚ) rule.tokensPerSecond (buckets.level rule key now) ((t - now : Nat) / 10 ^ 9) =
      buckets.level rule key t := by
  cases hfind : buckets.find key with
  | none =>
    rw [level_of_none hfind, level_of_none hfind]
    exact le_antisymm (refill_le ..) (le_refill hrate (TokenBucket.seconds_nonneg _) (le_refl _))
  | some row =>
    have hupdated := (h row (Table.mem_of_find hfind)).2
    rw [level_of_find hfind, level_of_find hfind, TokenBucket.level, TokenBucket.level,
      refill_refill hrate (TokenBucket.seconds_nonneg _), TokenBucket.seconds_add hupdated ht]

theorem level_take (key' : κ) : (buckets.take rule key now).2.level rule key' t =
    if key' = key then
      refill (rule.burst : ℚ) rule.tokensPerSecond
        (buckets.level rule key now - if (buckets.take rule key now).1 then 1 else 0) ((t - now : Nat) / 10 ^ 9)
    else buckets.level rule key' t := by
  by_cases hkey : key' = key
  · subst hkey
    rw [if_pos rfl]
    have hfind : (buckets.take rule key' now).2.find key' = some (key', _) := Table.find_put_self
    have htokens := TokenBucket.takeRate_tokens (((buckets.find key').map Prod.snd).getD (.new rule.burst now))
      rule.tokensPerSecond rule.burst now
    rw [level_of_find hfind, TokenBucket.level, TokenBucket.takeRate_updated]
    unfold level take
    dsimp only
    rw [← htokens, add_sub_cancel_right]
  · rw [if_neg hkey]
    have hfind : (buckets.take rule key now).2.find key' = buckets.find key' := Table.find_put_ne hkey
    cases hrow : buckets.find key' with
    | none => rw [level_of_none hrow, level_of_none (hfind.trans hrow)]
    | some row => rw [level_of_find hrow, level_of_find (hfind.trans hrow)]

/-- Taking a token leaves no more than there was. -/
theorem Sound.level_take_le (hrate : 0 ≤ rule.tokensPerSecond) (h : Sound rule now buckets) (ht : now ≤ t)
    (key' : κ) : (buckets.take rule key now).2.level rule key' t ≤ buckets.level rule key' t := by
  rw [level_take]
  split
  · next hkey =>
    rw [hkey, ← h.level_later hrate ht key]
    apply refill_sub_le
    split <;> norm_num
  · exact le_refl _

/-! ## Two tables -/

/-- From now on the one table never has more tokens for a key than the other. -/
def Below (rule : BucketRule) (now : Nat) (real ideal : Buckets κ) : Prop :=
  ∀ key t, now ≤ t → real.level rule key t ≤ ideal.level rule key t

theorem Below.later {now' : Nat} (h : Below rule now real ideal) (hle : now ≤ now') : Below rule now' real ideal :=
  fun key t ht => h key t (hle.trans ht)

/-- Where both take a token they stay in order. -/
theorem Below.take_both (h : Below rule now real ideal) (hreal : (real.take rule key now).1 = true) :
    (ideal.take rule key now).1 = true ∧
      Below rule now (real.take rule key now).2 (ideal.take rule key now).2 := by
  have hle := h key now (le_refl now)
  have hideal : (ideal.take rule key now).1 = true := by
    rw [take_fst] at hreal ⊢
    simp only [Bool.not_eq_true', decide_eq_false_iff_not, not_lt] at hreal ⊢
    exact hreal.trans hle
  refine ⟨hideal, fun key' t ht => ?_⟩
  rw [level_take, level_take, hreal, hideal]
  split
  · exact refill_mono (by simpa using hle)
  · exact h key' t ht

/-- Where only the first takes a token they stay in order. -/
theorem Below.take_left (hrate : 0 ≤ rule.tokensPerSecond) (hsound : Sound rule now real)
    (h : Below rule now real ideal) : Below rule now (real.take rule key now).2 ideal := fun key' t ht =>
  (hsound.level_take_le hrate ht key').trans (h key' t ht)

/-! ## Buckets are dropped -/

/-- The buckets that go are full again. -/
def DropsFull (rule : BucketRule) (capacity : Option Nat) (buckets : Buckets κ) (key : κ) (now : Nat) : Prop :=
  buckets.full capacity key = true → ∀ row ∈ buckets, idle rule now row = true →
    row.2.level rule.tokensPerSecond rule.burst now = rule.burst

theorem Sound.kept {capacity : Option Nat} (h : Sound rule now buckets) :
    Sound rule now (buckets.kept rule capacity key now) := by
  unfold Buckets.kept
  split
  · exact fun row hrow => h row (Table.mem_delete.1 hrow).1
  · exact h

/-- A full bucket and none give the same tokens. -/
theorem level_kept {capacity : Option Nat} (hrate : 0 ≤ rule.tokensPerSecond)
    (hdrops : DropsFull rule capacity buckets key now) (ht : now ≤ t) (key' : κ) :
    (buckets.kept rule capacity key now).level rule key' t = buckets.level rule key' t := by
  unfold Buckets.kept
  split
  · next hfull =>
    have hdelete := Table.find_delete (t := buckets) (p := idle rule now) (k := key')
    cases hrow : buckets.find key' with
    | none =>
      rw [hrow] at hdelete
      rw [level_of_none hrow, level_of_none hdelete]
    | some row =>
      rw [hrow] at hdelete
      by_cases hidle : idle rule now row = true
      · have hnone : (buckets.delete (idle rule now)).find key' = none := by
          rw [hdelete]
          simp [Option.filter, hidle]
        have helapsed : (((now - row.2.updated : Nat) : ℚ) / 10 ^ 9) ≤ ((t - row.2.updated : Nat) : ℚ) / 10 ^ 9 := by
          have hle : now - row.2.updated ≤ t - row.2.updated := by omega
          gcongr
        rw [level_of_none hnone, level_of_find hrow]
        exact (refill_eq_capacity_of_le hrate helapsed (hdrops hfull row (Table.mem_of_find hrow) hidle)).symm
      · have hsome : (buckets.delete (idle rule now)).find key' = some row := by
          rw [hdelete]
          simp [Option.filter, hidle]
        rw [level_of_find hsome, level_of_find hrow]
  · rfl

theorem Below.kept {capacity : Option Nat} (hrate : 0 ≤ rule.tokensPerSecond)
    (hdrops : DropsFull rule capacity real key now) (h : Below rule now real ideal) :
    Below rule now (real.kept rule capacity key now) ideal := fun key' t ht => by
  rw [level_kept hrate hdrops ht key']
  exact h key' t ht

/-! ## One table and an attempt -/

theorem allow_of_not_full {capacity : Option Nat}
    (h : (buckets.kept rule capacity key now).full capacity key = false) :
    buckets.allow rule capacity key now = (buckets.kept rule capacity key now).take rule key now := by
  unfold allow
  dsimp only
  rw [h]
  rfl

theorem allow_of_full {capacity : Option Nat}
    (h : (buckets.kept rule capacity key now).full capacity key = true) :
    buckets.allow rule capacity key now = (false, buckets.kept rule capacity key now) := by
  unfold allow
  dsimp only
  rw [if_pos h]

/-- Without a capacity a token is taken of the table as it is. -/
theorem allow_none : buckets.allow rule none key now = buckets.take rule key now := rfl

/-- The bucket is there. -/
theorem allow_of_find {capacity : Option Nat} {bucket : TokenBucket} (h : buckets.find key = some (key, bucket)) :
    buckets.allow rule capacity key now =
      ((bucket.takeRate rule.tokensPerSecond rule.burst now).1,
        buckets.put (key, (bucket.takeRate rule.tokensPerSecond rule.burst now).2)) := by
  have hfull : buckets.full capacity key = false := by
    simp [full, h]
  have hkept : buckets.kept rule capacity key now = buckets := by
    rw [Buckets.kept, hfull]
    rfl
  rw [allow_of_not_full (by rw [hkept, hfull]), hkept, take, h]
  rfl

/-- There is no bucket, and room for one. -/
theorem allow_of_none {capacity : Option Nat} (h : buckets.find key = none)
    (hroom : ∀ n ∈ capacity, buckets.rows.length < n) :
    buckets.allow rule capacity key now =
      (((TokenBucket.new rule.burst now).takeRate rule.tokensPerSecond rule.burst now).1,
        buckets.put (key, ((TokenBucket.new rule.burst now).takeRate rule.tokensPerSecond rule.burst now).2)) := by
  have hfull : buckets.full capacity key = false := by
    cases capacity with
    | none => rfl
    | some n =>
      have hlt : buckets.rows.length < n := hroom n rfl
      simp [full, hlt]
  have hkept : buckets.kept rule capacity key now = buckets := by
    rw [Buckets.kept, hfull]
    rfl
  rw [allow_of_not_full (by rw [hkept, hfull]), hkept, take, h]
  rfl

theorem Sound.allow {capacity : Option Nat} (hrate : 0 ≤ rule.tokensPerSecond) (h : Sound rule now buckets) :
    Sound rule now (buckets.allow rule capacity key now).2 := by
  cases hfull : (buckets.kept rule capacity key now).full capacity key with
  | true =>
    rw [allow_of_full hfull]
    exact h.kept
  | false =>
    rw [allow_of_not_full hfull]
    exact h.kept.take hrate

theorem Below.allow_both {capacity : Option Nat} (hrate : 0 ≤ rule.tokensPerSecond)
    (hdrops : DropsFull rule capacity real key now) (h : Below rule now real ideal)
    (hallowed : (real.allow rule capacity key now).1 = true) :
    (ideal.allow rule none key now).1 = true ∧
      Below rule now (real.allow rule capacity key now).2 (ideal.allow rule none key now).2 := by
  cases hfull : (real.kept rule capacity key now).full capacity key with
  | true =>
    rw [allow_of_full hfull] at hallowed
    cases hallowed
  | false =>
    rw [allow_of_not_full hfull] at hallowed ⊢
    rw [allow_none]
    exact (h.kept hrate hdrops).take_both hallowed

theorem Below.allow_left {capacity : Option Nat} (hrate : 0 ≤ rule.tokensPerSecond)
    (hsound : Sound rule now real) (hdrops : DropsFull rule capacity real key now)
    (h : Below rule now real ideal) : Below rule now (real.allow rule capacity key now).2 ideal := by
  cases hfull : (real.kept rule capacity key now).full capacity key with
  | true =>
    rw [allow_of_full hfull]
    exact h.kept hrate hdrops
  | false =>
    rw [allow_of_not_full hfull]
    exact (h.kept hrate hdrops).take_left hrate hsound.kept

end Buckets

/-! ## The limiter -/

namespace AttemptLimits

theorem addressRate_nonneg (limits : AttemptLimits) : 0 ≤ limits.addressRule.tokensPerSecond := by
  unfold addressRule
  positivity

theorem accountRate_nonneg (limits : AttemptLimits) : 0 ≤ limits.accountRule.tokensPerSecond := by
  unfold accountRule
  positivity

/-- Ten minutes refill the burst of an address, and an hour that of a user name. -/
def RefillWhileIdle (limits : AttemptLimits) : Prop :=
  limits.attemptBurst ≤ 10 * limits.attemptsPerMinute ∧ 10 ≤ limits.attemptsPerAccountPerHour

variable {limits : AttemptLimits}

theorem RefillWhileIdle.address (h : limits.RefillWhileIdle) :
    (limits.addressRule.burst : ℚ) ≤ limits.addressRule.idleSeconds * limits.addressRule.tokensPerSecond := by
  have hle : (limits.attemptBurst : ℚ) ≤ 10 * limits.attemptsPerMinute := by exact_mod_cast h.1
  unfold addressRule
  dsimp only
  push_cast
  linarith

theorem RefillWhileIdle.account (h : limits.RefillWhileIdle) :
    (limits.accountRule.burst : ℚ) ≤ limits.accountRule.idleSeconds * limits.accountRule.tokensPerSecond := by
  have hle : (10 : ℚ) ≤ limits.attemptsPerAccountPerHour := by exact_mod_cast h.2
  unfold accountRule
  dsimp only
  push_cast
  linarith

end AttemptLimits

namespace PasswordBuckets

variable {limits : AttemptLimits} {now : Nat} {s real ideal : PasswordBuckets} {a : Attempt}

structure Sound (limits : AttemptLimits) (now : Nat) (s : PasswordBuckets) : Prop where
  address : Buckets.Sound limits.addressRule now s.authBuckets
  account : Buckets.Sound limits.accountRule now s.authAccountBuckets

structure Below (limits : AttemptLimits) (now : Nat) (real ideal : PasswordBuckets) : Prop where
  address : Buckets.Below limits.addressRule now real.authBuckets ideal.authBuckets
  account : Buckets.Below limits.accountRule now real.authAccountBuckets ideal.authAccountBuckets

/-- The buckets that an attempt drops are full again. -/
structure DropsFull (limits : AttemptLimits) (s : PasswordBuckets) (a : Attempt) : Prop where
  address : Buckets.DropsFull limits.addressRule (some maxBuckets) s.authBuckets a.sourceIp a.now
  account : (s.authBuckets.allow limits.addressRule (some maxBuckets) a.sourceIp a.now).1 = true →
    Buckets.DropsFull limits.accountRule (some maxBuckets) s.authAccountBuckets a.username a.now

theorem Sound.later {now' : Nat} (h : s.Sound limits now) (hle : now ≤ now') : s.Sound limits now' :=
  ⟨h.address.later hle, h.account.later hle⟩

theorem Below.later {now' : Nat} (h : Below limits now real ideal) (hle : now ≤ now') :
    Below limits now' real ideal := ⟨h.address.later hle, h.account.later hle⟩

theorem Sound.step (h : s.Sound limits a.now) :
    (s.allowPasswordAttempt limits (some maxBuckets) a).2.Sound limits a.now := by
  have haddress : Buckets.Sound limits.addressRule a.now
      (s.authBuckets.allow limits.addressRule (some maxBuckets) a.sourceIp a.now).2 :=
    h.address.allow limits.addressRate_nonneg
  have haccount : Buckets.Sound limits.accountRule a.now
      (s.authAccountBuckets.allow limits.accountRule (some maxBuckets) a.username a.now).2 :=
    h.account.allow limits.accountRate_nonneg
  unfold allowPasswordAttempt
  dsimp only
  split
  · exact ⟨haddress, h.account⟩
  · exact ⟨haddress, haccount⟩

/-- An attempt that is allowed is allowed without a capacity, and one that is refused leaves less. -/
theorem Below.step (hsound : real.Sound limits a.now) (hdrops : real.DropsFull limits a)
    (h : Below limits a.now real ideal) :
    ((real.allowPasswordAttempt limits (some maxBuckets) a).1 = true →
      (ideal.allowPasswordAttempt limits none a).1 = true ∧
        Below limits a.now (real.allowPasswordAttempt limits (some maxBuckets) a).2
          (ideal.allowPasswordAttempt limits none a).2) ∧
    ((real.allowPasswordAttempt limits (some maxBuckets) a).1 = false →
      Below limits a.now (real.allowPasswordAttempt limits (some maxBuckets) a).2 ideal) := by
  have haddress := h.address.allow_left limits.addressRate_nonneg hsound.address hdrops.address
  unfold allowPasswordAttempt
  dsimp only
  cases hip : (real.authBuckets.allow limits.addressRule (some maxBuckets) a.sourceIp a.now).1 with
  | false => exact ⟨fun hok => (nomatch hok), fun _ => ⟨haddress, h.account⟩⟩
  | true =>
    have hdropsAccount := hdrops.account hip
    obtain ⟨hipIdeal, hipBelow⟩ := h.address.allow_both limits.addressRate_nonneg hdrops.address hip
    simp only [hipIdeal, Bool.not_true, Bool.false_eq_true, if_false]
    constructor
    · intro hname
      obtain ⟨hnameIdeal, hnameBelow⟩ := h.account.allow_both limits.accountRate_nonneg hdropsAccount hname
      exact ⟨hnameIdeal, hipBelow, hnameBelow⟩
    · intro _
      exact ⟨haddress, h.account.allow_left limits.accountRate_nonneg hsound.account hdropsAccount⟩

theorem allowPasswordAttempt_eq {capacity : Option Nat} {byIp : Buckets IpAddr} {r : Bool × Buckets String}
    (haddress : s.authBuckets.allow limits.addressRule capacity a.sourceIp a.now = (true, byIp))
    (haccount : s.authAccountBuckets.allow limits.accountRule capacity a.username a.now = r) :
    s.allowPasswordAttempt limits capacity a =
      (r.1, { authBuckets := byIp, authAccountBuckets := r.2 }) := by
  unfold allowPasswordAttempt
  rw [haddress, haccount]
  rfl

/-! ## Runs -/

/-- Every attempt of the sequence drops only buckets that are full again. -/
def RunDropsFull (limits : AttemptLimits) : PasswordBuckets → List Attempt → Prop
  | _, [] => True
  | s, a :: attempts =>
    s.DropsFull limits a ∧ RunDropsFull limits (s.allowPasswordAttempt limits (some maxBuckets) a).2 attempts

theorem allowed_cons_of_true {capacity : Option Nat} {attempts : List Attempt}
    (h : (s.allowPasswordAttempt limits capacity a).1 = true) : s.allowed limits capacity (a :: attempts) =
      a :: (s.allowPasswordAttempt limits capacity a).2.allowed limits capacity attempts := if_pos h

theorem allowed_cons_of_false {capacity : Option Nat} {attempts : List Attempt}
    (h : (s.allowPasswordAttempt limits capacity a).1 = false) : s.allowed limits capacity (a :: attempts) =
      (s.allowPasswordAttempt limits capacity a).2.allowed limits capacity attempts := if_neg (by simp [h])

/-- The limiter after the attempts. -/
def after (limits : AttemptLimits) (capacity : Option Nat) (s : PasswordBuckets) (attempts : List Attempt) :
    PasswordBuckets := attempts.foldl (fun s a => (s.allowPasswordAttempt limits capacity a).2) s

theorem Below.allowed : ∀ {attempts : List Attempt} {now : Nat} {real ideal : PasswordBuckets},
    real.Sound limits now → Below limits now real ideal → (now :: attempts.map Attempt.now).Pairwise (· ≤ ·) →
      real.RunDropsFull limits attempts →
        ideal.allowed limits none (real.allowed limits (some maxBuckets) attempts) =
          real.allowed limits (some maxBuckets) attempts
  | [], _, _, _, _, _, _, _ => rfl
  | a :: attempts, now, real, ideal, hsound, h, hpairs, hdrops => by
    obtain ⟨hfirst, hrest⟩ := List.pairwise_cons.1 hpairs
    have hnow : now ≤ a.now := hfirst a.now List.mem_cons_self
    have hstep := (h.later hnow).step (hsound.later hnow) hdrops.1
    have hsound' := (hsound.later hnow).step
    cases hok : (real.allowPasswordAttempt limits (some maxBuckets) a).1 with
    | true =>
      obtain ⟨hideal, hbelow⟩ := hstep.1 hok
      rw [allowed_cons_of_true hok, allowed_cons_of_true hideal, Below.allowed hsound' hbelow hrest hdrops.2]
    | false =>
      rw [allowed_cons_of_false hok]
      exact Below.allowed hsound' (hstep.2 hok) hrest hdrops.2

end PasswordBuckets

namespace Scenario.Flood

/-- The default limits. -/
def limits : AttemptLimits where
  attemptsPerMinute := 10
  attemptBurst := 5
  attemptsPerAccountPerHour := 30
  attemptsPerMinute_pos := by decide
  attemptBurst_pos := by decide
  attemptsPerAccountPerHour_pos := by decide

def ip : IpAddr := .v4 1

/-- Seven attempts at once, and one that comes ten minutes later. -/
def burst : List Attempt :=
  List.replicate 7 { sourceIp := ip, username := "alice", now := 0 } ++
    [{ sourceIp := ip, username := "alice", now := 600 * 10 ^ 9 }]

/-- Many attempts for an address, and one in an hour for a user name. -/
def tight : AttemptLimits where
  attemptsPerMinute := 2000
  attemptBurst := 20000
  attemptsPerAccountPerHour := 1
  attemptsPerMinute_pos := by decide
  attemptBurst_pos := by decide
  attemptsPerAccountPerHour_pos := by decide

@[irreducible] def name (i : Nat) : String := String.ofList (List.replicate i 'm')

theorem name_injective {i j : Nat} (h : name i = name j) : i = j := by
  have hlists := congrArg String.toList h
  unfold name at hlists
  simpa using congrArg List.length hlists

def guess (i now : Nat) : Attempt := { sourceIp := ip, username := name i, now }

def hour : Nat := 60 * 60 * 10 ^ 9

/-- One guess for each of the names that follow the first `k`. -/
def others : Nat → Nat → List Attempt
  | _, 0 => []
  | k, n + 1 => guess (k + 1) 0 :: others (k + 1) n

open PasswordBuckets

/-- The first name has no token left, and the first `k` of the others have been tried. -/
structure Filled (k : Nat) (s : PasswordBuckets) : Prop where
  address : s.authBuckets.find ip = some (ip, { tokens := 19990 - k, updated := 0 })
  guessed : s.authAccountBuckets.find (name 0) = some (name 0, { tokens := 0, updated := 0 })
  length : s.authAccountBuckets.rows.length = k + 1
  updated : ∀ row ∈ s.authAccountBuckets, row.2.updated = 0
  fresh : ∀ i, k < i → s.authAccountBuckets.find (name i) = none

/-- A bucket with a token gives it. -/
theorem takeRate_of_le {b : TokenBucket} {rate : ℚ} {burst now : Nat} {level : ℚ}
    (hlevel : b.level rate burst now = level) (hone : 1 ≤ level) :
    b.takeRate rate burst now = (true, { tokens := level - 1, updated := now }) := by
  rw [TokenBucket.takeRate_eq, hlevel, if_neg (not_lt.2 hone)]

/-- A new bucket gives one of its tokens. -/
theorem takeRate_new (now : Nat) : (TokenBucket.new 10 now).takeRate tight.accountRule.tokensPerSecond 10 now =
    (true, { tokens := 9, updated := now }) := by
  rw [takeRate_of_le (TokenBucket.level_new _ _ _) (by norm_num)]
  norm_num

/-- Nothing is refilled between attempts that come at once. -/
theorem allow_at_once {κ : Type} [DecidableEq κ] {rule : BucketRule} {capacity : Option Nat} {buckets : Buckets κ}
    {key : κ} {tokens : ℚ} {now : Nat} (h : buckets.find key = some (key, { tokens, updated := now }))
    (hone : 1 ≤ tokens) (hle : tokens ≤ rule.burst) : buckets.allow rule capacity key now =
      (true, buckets.put (key, { tokens := tokens - 1, updated := now })) := by
  have hlevel : TokenBucket.level { tokens, updated := now } rule.tokensPerSecond rule.burst now = tokens := by
    simp only [TokenBucket.level, Nat.sub_self, Nat.cast_zero, zero_div]
    exact refill_zero hle
  rw [Buckets.allow_of_find h, takeRate_of_le hlevel hone]

variable {capacity : Option Nat} {k : Nat} {s : PasswordBuckets}

/-- A name that was not tried has a bucket of its own. -/
theorem Filled.next (h : Filled k s) (hk : k + 1 < maxBuckets) (hcapacity : ∀ n ∈ capacity, n = maxBuckets) :
    (s.allowPasswordAttempt tight capacity (guess (k + 1) 0)).1 = true ∧
      Filled (k + 1) (s.allowPasswordAttempt tight capacity (guess (k + 1) 0)).2 := by
  have hk' : (k : ℚ) + 1 < 10000 := by exact_mod_cast hk
  have hnone : s.authAccountBuckets.find (name (k + 1)) = none := h.fresh (k + 1) (Nat.lt_succ_self k)
  have hburst : (19990 - k : ℚ) ≤ tight.addressRule.burst := by
    have hk0 : (0 : ℚ) ≤ k := Nat.cast_nonneg k
    show (19990 - k : ℚ) ≤ (20000 : Nat)
    push_cast
    linarith
  have haddress := @allow_at_once _ _ tight.addressRule capacity _ _ _ _ h.address (by linarith) hburst
  have haccount := @Buckets.allow_of_none _ _ tight.accountRule _ _ 0 capacity hnone
    (fun n hn => by rw [hcapacity n hn, h.length]; exact hk)
  rw [show tight.accountRule.burst = 10 from rfl, takeRate_new] at haccount
  have hother : ∀ i, i ≠ k + 1 → (s.authAccountBuckets.put (name (k + 1), { tokens := 9, updated := 0 })).find
      (name i) = s.authAccountBuckets.find (name i) := fun i hi =>
    Table.find_put_ne (t := s.authAccountBuckets) fun heq => hi (name_injective heq)
  rw [allowPasswordAttempt_eq (a := guess (k + 1) 0) haddress haccount]
  refine ⟨rfl, ⟨?_, ?_, ?_, ?_, ?_⟩⟩
  · have htokens : (19990 - (k + 1 : Nat) : ℚ) = 19990 - k - 1 := by
      push_cast
      ring
    rw [htokens]
    exact Table.find_put_self (t := s.authBuckets)
  · exact (hother 0 (by omega)).trans h.guessed
  · exact (Table.length_put hnone).trans (by rw [h.length])
  · intro row hrow
    rcases Table.mem_put.1 hrow with rfl | ⟨hrow, -⟩
    · rfl
    · exact h.updated row hrow
  · intro i hi
    exact (hother i (by omega)).trans (h.fresh i (by omega))

theorem Filled.others (hcapacity : ∀ n ∈ capacity, n = maxBuckets) : ∀ {n k : Nat} {s : PasswordBuckets},
    Filled k s → k + n < maxBuckets →
      s.allowed tight capacity (others k n) = others k n ∧ Filled (k + n) (s.after tight capacity (others k n))
  | 0, _, _, h, _ => ⟨rfl, h⟩
  | n + 1, k, s, h, hn => by
    obtain ⟨hok, hnext⟩ := @Filled.next capacity _ _ h (by omega) hcapacity
    obtain ⟨hallowed, hfilled⟩ := Filled.others hcapacity hnext (n := n) (by omega)
    refine ⟨?_, ?_⟩
    · rw [Flood.others, allowed_cons_of_true hok, hallowed]
    · rw [show k + (n + 1) = k + 1 + n by omega]
      exact hfilled

/-- The guesses that come an hour later. -/
def late : List Attempt := [guess 10000 hour, guess 0 hour, guess 0 hour]

end Scenario.Flood

end TuiChat
