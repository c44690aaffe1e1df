import Mathlib.Algebra.Order.Field.Basic
import Mathlib.Tactic.Linarith
import Mathlib.Tactic.Positivity

/-!
# What is refilled at a rate, up to a capacity

`refill capacity rate level elapsed` is the level after some time. Refilling twice is refilling once for
the sum of the times (`refill_refill`), so it does not matter how often the level is looked at; and a
level that something was taken from stays below the one it was taken from (`refill_sub_le`).
-/

namespace TuiChat.Lib

variable {K : Type} [Field K] [LinearOrder K]

def refill (capacity rate level elapsed : K) : K := min (level + elapsed * rate) capacity

variable {capacity rate level level' elapsed elapsed' : K}

theorem refill_le (capacity rate level elapsed : K) : refill capacity rate level elapsed ≤ capacity :=
  min_le_right _ _

theorem refill_le_add (capacity rate level elapsed : K) :
    refill capacity rate level elapsed ≤ level + elapsed * rate := min_le_left _ _

theorem refill_zero (h : level ≤ capacity) : refill capacity rate level 0 = level := by
  rw [refill, zero_mul, add_zero, min_eq_left h]

variable [IsStrictOrderedRing K]

theorem le_refill (hrate : 0 ≤ rate) (helapsed : 0 ≤ elapsed) (h : level ≤ capacity) :
    level ≤ refill capacity rate level elapsed :=
  le_min (le_add_of_nonneg_right (mul_nonneg helapsed hrate)) h

theorem refill_mono (h : level ≤ level') :
    refill capacity rate level elapsed ≤ refill capacity rate level' elapsed :=
  min_le_min_right _ (by linarith)

theorem refill_refill (hrate : 0 ≤ rate) (helapsed' : 0 ≤ elapsed') :
    refill capacity rate (refill capacity rate level elapsed) elapsed' =
      refill capacity rate level (elapsed + elapsed') := by
  have hmore : 0 ≤ elapsed' * rate := mul_nonneg helapsed' hrate
  unfold refill
  rw [add_mul, ← add_assoc]
  rcases le_total (level + elapsed * rate) capacity with hle | hle
  · rw [min_eq_left hle]
  · rw [min_eq_right hle, min_eq_right (by linarith), min_eq_right (by linarith)]

theorem refill_sub_le {taken : K} (htaken : 0 ≤ taken) :
    refill capacity rate (level - taken) elapsed ≤ refill capacity rate level elapsed :=
  refill_mono (by linarith)

/-- What is full stays full. -/
theorem refill_eq_capacity_of_le (hrate : 0 ≤ rate) (hle : elapsed ≤ elapsed')
    (h : refill capacity rate level elapsed = capacity) : refill capacity rate level elapsed' = capacity := by
  have hmore : elapsed * rate ≤ elapsed' * rate := mul_le_mul_of_nonneg_right hle hrate
  have hfull : capacity ≤ level + elapsed * rate := by
    rw [← h]
    exact refill_le_add ..
  exact min_eq_right (by linarith)

end TuiChat.Lib
