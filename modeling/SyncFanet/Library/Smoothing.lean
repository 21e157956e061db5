import Mathlib.Algebra.Order.Group.Unbundled.Abs
import Mathlib.Algebra.Order.Ring.Int
import Mathlib.Tactic.Linarith

/-!
# Smoothed averages in integers

An average is kept multiplied by its weight. Each sample moves it by the difference of the
sample and the average, which is rounded down.
-/

set_option autoImplicit false

namespace SyncFanet

/-- What a sample adds to the average. -/
def innovation (weight average sample : Int) : Int :=
  sample - average / weight

def smoothed (weight average sample : Int) : Int :=
  average + innovation weight average sample

variable {weight average sample most : Int}

/-- The part of an average that stays is at most its bound less one sample. -/
theorem sub_ediv_le (weighty : 0 < weight) (le : average ≤ weight * most) :
    average - average / weight ≤ weight * most - most := by
  have parts := Int.emod_add_mul_ediv average weight
  have rest := Int.emod_lt_of_pos average weighty
  generalize average / weight = quotient at *
  rcases Int.lt_or_le quotient most with below | above
  · -- the remainder makes up for less than what one more in the quotient does
    have step : (weight - 1) * (quotient + 1) ≤ (weight - 1) * most :=
      Int.mul_le_mul_of_nonneg_left below (by omega)
    linarith
  · linarith

theorem smoothed_le (weighty : 0 < weight) (le : average ≤ weight * most)
    (sampleLe : sample ≤ most) : smoothed weight average sample ≤ weight * most := by
  have stays := sub_ediv_le weighty le
  simp only [smoothed, innovation]
  omega

theorem smoothed_pos (weighty : 1 < weight) (pos : 0 < average) (nonneg : 0 ≤ sample) :
    0 < smoothed weight average sample := by
  have smaller : average / weight < average := Int.ediv_lt_self_of_pos_of_ne_one pos weighty.ne'
  simp only [smoothed, innovation]
  omega

theorem abs_innovation_le (weighty : 0 < weight) (pos : 0 ≤ average) (le : average ≤ weight * most)
    (nonneg : 0 ≤ sample) (sampleLe : sample ≤ most) :
    |innovation weight average sample| ≤ most := by
  have lower : 0 ≤ average / weight := Int.ediv_nonneg pos weighty.le
  have upper : average / weight ≤ most := Int.ediv_le_of_le_mul weighty (by linarith)
  rw [innovation, abs_le]
  omega

end SyncFanet
