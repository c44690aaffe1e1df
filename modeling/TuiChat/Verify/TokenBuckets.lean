import TuiChat.Lib.Refill
import TuiChat.Server.AppState
import Mathlib.Data.List.Count

/-!
# What a token bucket admits

A call finds the level that the bucket has been refilled to, and takes one token of it if there is one
(`TokenBucket.takeRate_eq`). From a call on, the tokens it leaves and those that are refilled pay for every
later success (`Valid.admitted_le`). The first call of a window finds no more than the burst, so a window
has at most the burst and what is refilled in it (`bucket_bounded`).
-/

namespace TuiChat

open Lib

namespace TokenBucket

variable {b : TokenBucket} {rate : ℚ} {burst now : Nat}

structure Valid (b : TokenBucket) (burst : Nat) : Prop where
  nonneg : 0 ≤ b.tokens
  le : b.tokens ≤ burst

theorem valid_new (burst now : Nat) : (new burst now).Valid burst := ⟨Nat.cast_nonneg burst, le_refl _⟩

/-- The tokens that a call finds. -/
def level (b : TokenBucket) (rate : ℚ) (burst now : Nat) : ℚ :=
  refill burst rate b.tokens ((now - b.updated : Nat) / 10 ^ 9)

theorem level_new (rate : ℚ) (burst now : Nat) : (new burst now).level rate burst now = burst := by
  simp [level, new, refill_zero]

theorem takeRate_eq (b : TokenBucket) (rate : ℚ) (burst now : Nat) : b.takeRate rate burst now =
    if b.level rate burst now < 1 then (false, { tokens := b.level rate burst now, updated := now })
    else (true, { tokens := b.level rate burst now - 1, updated := now }) := rfl

@[simp] theorem takeRate_updated (b : TokenBucket) (rate : ℚ) (burst now : Nat) :
    (b.takeRate rate burst now).2.updated = now := by
  rw [takeRate_eq]
  split <;> rfl

theorem seconds_nonneg (n : Nat) : (0 : ℚ) ≤ n / 10 ^ 9 := by positivity

/-- The time from one instant to a third is that to the second and that from there. -/
theorem seconds_add {t u v : Nat} (h : t ≤ u) (h' : u ≤ v) :
    ((u - t : Nat) : ℚ) / 10 ^ 9 + ((v - u : Nat) : ℚ) / 10 ^ 9 = ((v - t : Nat) : ℚ) / 10 ^ 9 := by
  rw [← add_div, ← Nat.cast_add, show u - t + (v - u) = v - t by omega]

theorem Valid.le_level (h : b.Valid burst) (hrate : 0 ≤ rate) (now : Nat) : b.tokens ≤ b.level rate burst now :=
  le_refill hrate (seconds_nonneg _) h.le

theorem Valid.takeRate (h : b.Valid burst) (hrate : 0 ≤ rate) (now : Nat) :
    (b.takeRate rate burst now).2.Valid burst := by
  have hlevel := h.le_level hrate now
  have hle : b.level rate burst now ≤ burst := refill_le ..
  have hnonneg := h.nonneg
  rw [takeRate_eq]
  split
  · exact ⟨hnonneg.trans hlevel, hle⟩
  · next hlt =>
    rw [not_lt] at hlt
    exact ⟨by dsimp only; linarith, by dsimp only; linarith⟩

/-- What a call leaves, with the token that it took if it succeeded, is what it found. -/
theorem takeRate_tokens (b : TokenBucket) (rate : ℚ) (burst now : Nat) :
    (b.takeRate rate burst now).2.tokens + (if (b.takeRate rate burst now).1 then 1 else 0) =
      b.level rate burst now := by
  rw [takeRate_eq]
  split <;> simp

/-! ## Sequences of calls -/

/-- The calls at the instants, each with its result. -/
def calls (b : TokenBucket) (rate : ℚ) (burst : Nat) : List Nat → List (Nat × Bool)
  | [] => []
  | now :: instants =>
    (now, (b.takeRate rate burst now).1) :: (b.takeRate rate burst now).2.calls rate burst instants

/-- The bucket after calls at the instants. -/
def after (b : TokenBucket) (rate : ℚ) (burst : Nat) (instants : List Nat) : TokenBucket :=
  instants.foldl (fun b now => (b.takeRate rate burst now).2) b

/-- The successes from one instant to another. -/
def successes (first last : Nat) (results : List (Nat × Bool)) : Nat :=
  results.countP fun (now, success) => success && first ≤ now && now ≤ last

theorem Valid.after (hrate : 0 ≤ rate) (instants : List Nat) (h : b.Valid burst) :
    (b.after rate burst instants).Valid burst := by
  induction instants generalizing b with
  | nil => exact h
  | cons now instants ih => exact ih (h.takeRate hrate now)

theorem successes_cons (first last now : Nat) (success : Bool) (results : List (Nat × Bool)) :
    successes first last ((now, success) :: results) =
      successes first last results + if success && first ≤ now && now ≤ last then 1 else 0 := List.countP_cons

theorem successes_of_lt {last : Nat} (first : Nat) : ∀ {instants : List Nat} {b : TokenBucket},
    (∀ now ∈ instants, last < now) → successes first last (b.calls rate burst instants) = 0
  | [], _, _ => rfl
  | now :: instants, b, h => by
    have hnow : ¬ now ≤ last := not_le.2 (h now List.mem_cons_self)
    have hrest := successes_of_lt first (b := (b.takeRate rate burst now).2) fun t ht =>
      h t (List.mem_cons_of_mem now ht)
    rw [calls, successes_cons, hrest, if_neg (by simp [hnow])]

/-- A call's token and what is refilled from then on pay for the successes from the call on. -/
theorem level_pays {last : Nat} {later : ℚ}
    (hlater : later ≤ (b.takeRate rate burst now).2.tokens + rate * ((last - now : Nat) / 10 ^ 9))
    (first : Nat) :
    later + (if (b.takeRate rate burst now).1 && first ≤ now && now ≤ last then 1 else 0) ≤
      b.level rate burst now + rate * ((last - now : Nat) / 10 ^ 9) := by
  have htokens := takeRate_tokens b rate burst now
  cases hsuccess : (b.takeRate rate burst now).1 with
  | false =>
    rw [hsuccess] at htokens
    simp at htokens ⊢
    linarith
  | true =>
    rw [hsuccess] at htokens
    have hone : (if true && decide (first ≤ now) && decide (now ≤ last) then (1 : ℚ) else 0) ≤ 1 := by
      split <;> norm_num
    simp only [if_true] at htokens
    linarith

/-- The tokens and what is refilled pay for the successes up to an instant. -/
theorem Valid.admitted_le (hrate : 0 ≤ rate) (first last : Nat) : ∀ {instants : List Nat} {b : TokenBucket},
    b.Valid burst → (b.updated :: instants).Pairwise (· ≤ ·) →
      (successes first last (b.calls rate burst instants) : ℚ) ≤
        b.tokens + rate * ((last - b.updated : Nat) / 10 ^ 9)
  | [], b, h, _ => by
    have hmore := mul_nonneg hrate (seconds_nonneg (last - b.updated))
    have hnonneg := h.nonneg
    simpa [calls, successes] using add_nonneg hnonneg hmore
  | now :: instants, b, h, hpairs => by
    obtain ⟨hfirst, hrest⟩ := List.pairwise_cons.1 hpairs
    have hupdated : b.updated ≤ now := hfirst now List.mem_cons_self
    by_cases hnow : now ≤ last
    · have hlater := Valid.admitted_le hrate first last (h.takeRate hrate now)
        (by rw [takeRate_updated]; exact hrest)
      rw [takeRate_updated] at hlater
      have hpays := level_pays hlater first
      have hlevel : b.level rate burst now ≤ b.tokens + (now - b.updated : Nat) / 10 ^ 9 * rate := refill_le_add ..
      have hsum := seconds_add hupdated hnow
      rw [calls, successes_cons]
      push_cast
      calc _ ≤ b.level rate burst now + rate * ((last - now : Nat) / 10 ^ 9) := hpays
        _ ≤ b.tokens + rate * ((now - b.updated : Nat) / 10 ^ 9 + (last - now : Nat) / 10 ^ 9) := by linarith
        _ = b.tokens + rate * ((last - b.updated : Nat) / 10 ^ 9) := by rw [hsum]
    · have hnone : successes first last (b.calls rate burst (now :: instants)) = 0 := by
        refine successes_of_lt first fun t ht => ?_
        rcases List.mem_cons.1 ht with rfl | ht
        · omega
        · have hle := (List.pairwise_cons.1 hrest).1 t ht
          omega
      rw [hnone, Nat.cast_zero]
      exact add_nonneg h.nonneg (mul_nonneg hrate (seconds_nonneg _))

/-- The first call of a window finds at most the burst. -/
theorem Valid.window_le (hrate : 0 ≤ rate) {first last : Nat} : ∀ {instants : List Nat} {b : TokenBucket},
    b.Valid burst → instants.Pairwise (· ≤ ·) →
      (successes first last (b.calls rate burst instants) : ℚ) ≤ burst + rate * ((last - first : Nat) / 10 ^ 9)
  | [], _, _, _ => by
    have hmore := mul_nonneg hrate (seconds_nonneg (last - first))
    have hburst : (0 : ℚ) ≤ burst := Nat.cast_nonneg burst
    simpa [calls, successes] using add_nonneg hburst hmore
  | now :: instants, b, h, hpairs => by
    obtain ⟨hfirst, hrest⟩ := List.pairwise_cons.1 hpairs
    have hnext := h.takeRate hrate now
    by_cases hbefore : now < first
    · have hlater := @Valid.window_le hrate first last _ _ hnext hrest
      rw [calls, successes_cons, if_neg (by simp [hbefore])]
      exact hlater
    by_cases hnow : now ≤ last
    · have hlater := hnext.admitted_le hrate first last (by rw [takeRate_updated]; exact hpairs)
      rw [takeRate_updated] at hlater
      have hpays := level_pays hlater first
      have hlevel : b.level rate burst now ≤ burst := refill_le ..
      have hsum := seconds_add (not_lt.1 hbefore) hnow
      have hspan : rate * ((last - now : Nat) / 10 ^ 9) ≤ rate * ((last - first : Nat) / 10 ^ 9) := by
        rw [← hsum]
        exact mul_le_mul_of_nonneg_left (le_add_of_nonneg_left (seconds_nonneg _)) hrate
      rw [calls, successes_cons]
      push_cast
      linarith
    · have hnone : successes first last (b.calls rate burst (now :: instants)) = 0 := by
        refine successes_of_lt first fun t ht => ?_
        rcases List.mem_cons.1 ht with rfl | ht
        · omega
        · have hle := hfirst t ht
          omega
      rw [hnone, Nat.cast_zero]
      exact add_nonneg (Nat.cast_nonneg burst) (mul_nonneg hrate (seconds_nonneg _))

end TokenBucket

/-- The tokens of a bucket stay within the burst, and of the calls in a window no more succeed than the
burst and what the rate refills in the time of the window. The rates of the callers are quotients of a
`u32`. -/
theorem bucket_bounded {rate : ℚ} (hrate : 0 ≤ rate) (burst start : Nat) {instants : List Nat}
    (hinstants : (start :: instants).Pairwise (· ≤ ·)) :
    (∀ before, before <+: instants → ((TokenBucket.new burst start).after rate burst before).Valid burst) ∧
    ∀ first last, first ≤ last →
      (TokenBucket.successes first last ((TokenBucket.new burst start).calls rate burst instants) : ℚ) ≤
        burst + rate * ((last - first : Nat) / 10 ^ 9) :=
  ⟨fun before _ => (TokenBucket.valid_new burst start).after hrate before,
    fun _ _ _ => (TokenBucket.valid_new burst start).window_le hrate (List.pairwise_cons.1 hinstants).2⟩

namespace Scenario.Bucket

/-- Calls at once, and some seconds later. -/
def instants : List Nat := [0, 0, 0, 6 * 10 ^ 9, 6 * 10 ^ 9, 13 * 10 ^ 9]

/-- Two tokens and one every six seconds: four of the calls succeed, and five would be within the bound. -/
theorem bucket_bounded_instants :
    (∀ before, before <+: instants → ((TokenBucket.new 2 0).after (1 / 6) 2 before).Valid 2) ∧
    TokenBucket.successes 0 (18 * 10 ^ 9) ((TokenBucket.new 2 0).calls (1 / 6) 2 instants) = 4 ∧
    (TokenBucket.successes 0 (18 * 10 ^ 9) ((TokenBucket.new 2 0).calls (1 / 6) 2 instants) : ℚ) ≤ 5 := by
  have hbounded := @bucket_bounded (1 / 6) (by norm_num) 2 0 instants (by decide)
  refine ⟨hbounded.1, by decide +kernel, ?_⟩
  have hwindow := hbounded.2 0 (18 * 10 ^ 9) (by decide)
  norm_num at hwindow ⊢
  linarith

end Scenario.Bucket

end TuiChat
