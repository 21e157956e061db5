import Mathlib.Algebra.Order.Field.Basic
import Mathlib.Order.Bounds.Basic
import Mathlib.Tactic.FieldSimp
import Mathlib.Tactic.GCongr
import Mathlib.Tactic.Linarith
import Mathlib.Tactic.Positivity
import Mathlib.Tactic.Ring

/-!
# Numbers with a mantissa and an exponent

The numbers `unit * (1 + mantissa / steps) * 2 ^ exponent` with bounded mantissas and
exponents. Rounding down to one of them keeps the order and loses at most a `steps`th.
-/

set_option autoImplicit false

namespace SyncFanet.ScaledFormat

section

variable {K : Type} [Field K]

def value (unit : K) (steps mantissa exponent : Nat) : K :=
  unit * (1 + mantissa / steps) * 2 ^ exponent

/-- The numbers of the format. -/
def numbers (unit : K) (steps exponents : Nat) : Set K :=
  {number | ∃ mantissa exponent, mantissa < steps ∧ exponent < exponents ∧
    number = value unit steps mantissa exponent}

theorem value_zero (unit : K) (steps exponent : Nat) :
    value unit steps 0 exponent = unit * 2 ^ exponent := by
  simp [value]

/-- The next mantissa is a `steps`th of the power of two further. -/
theorem value_succ (unit : K) (steps mantissa exponent : Nat) :
    value unit steps (mantissa + 1) exponent =
      value unit steps mantissa exponent + unit * 2 ^ exponent / steps := by
  unfold value
  push_cast
  ring

end

section

variable {K : Type} [Field K] [LinearOrder K] [IsStrictOrderedRing K] {unit x : K}
  {steps exponents mantissa exponent : Nat}

theorem value_steps (unit : K) (nonempty : 0 < steps) (exponent : Nat) :
    value unit steps steps exponent = unit * 2 ^ (exponent + 1) := by
  have nonzero : (steps : K) ≠ 0 := Nat.cast_ne_zero.mpr nonempty.ne'
  unfold value
  rw [div_self nonzero, pow_succ]
  ring

variable (positive : 0 < unit)
include positive

theorem value_le_value {other : Nat} (le : mantissa ≤ other) :
    value unit steps mantissa exponent ≤ value unit steps other exponent := by
  unfold value
  gcongr

theorem power_le_value (steps mantissa exponent : Nat) :
    unit * 2 ^ exponent ≤ value unit steps mantissa exponent := by
  rw [← value_zero unit steps exponent]
  exact value_le_value positive (Nat.zero_le _)

/-- Rounding down loses less than a `steps`th. -/
theorem lt_value_add (above : x < value unit steps (mantissa + 1) exponent) :
    x < value unit steps mantissa exponent + value unit steps mantissa exponent / steps := by
  have power := power_le_value positive steps mantissa exponent
  calc x < value unit steps mantissa exponent + unit * 2 ^ exponent / steps :=
        value_succ unit steps mantissa exponent ▸ above
    _ ≤ value unit steps mantissa exponent + value unit steps mantissa exponent / steps := by
        gcongr

variable (nonempty : 0 < steps)
include nonempty

/-- A larger exponent outweighs every mantissa. -/
theorem value_le_power {larger : Nat} (small : mantissa ≤ steps) (later : exponent < larger) :
    value unit steps mantissa exponent ≤ unit * 2 ^ larger := by
  calc value unit steps mantissa exponent
      ≤ value unit steps steps exponent := value_le_value positive small
    _ = unit * 2 ^ (exponent + 1) := value_steps unit nonempty exponent
    _ ≤ unit * 2 ^ larger := by
        gcongr
        · norm_num
        · exact later

/-! ## Rounding down -/

/-- The number before the next one is the greatest that is not larger. -/
theorem isGreatest_value (small : mantissa < steps) (fits : exponent < exponents)
    (below : value unit steps mantissa exponent ≤ x)
    (above : x < value unit steps (mantissa + 1) exponent) :
    IsGreatest {number ∈ numbers unit steps exponents | number ≤ x}
      (value unit steps mantissa exponent) := by
  refine ⟨⟨⟨mantissa, exponent, small, fits, rfl⟩, below⟩, ?_⟩
  rintro _ ⟨⟨other, power, otherSmall, _, rfl⟩, otherBelow⟩
  rcases lt_trichotomy power exponent with earlier | rfl | later
  · exact (value_le_power positive nonempty otherSmall.le earlier).trans
      (power_le_value positive steps mantissa exponent)
  · refine value_le_value positive (Nat.le_of_not_lt fun larger => ?_)
    have skipped : value unit steps (mantissa + 1) power ≤ value unit steps other power :=
      value_le_value positive larger
    exact absurd (skipped.trans otherBelow) (not_le.mpr above)
  · have next : value unit steps (mantissa + 1) exponent ≤ unit * 2 ^ power :=
      value_le_power positive nonempty small later
    have powerBelow := (power_le_value positive steps other power).trans otherBelow
    exact absurd (next.trans powerBelow) (not_le.mpr above)

/-- What is beyond the format rounds down to its last number. -/
theorem isGreatest_last (beyond : value unit steps (steps - 1) exponent ≤ x) :
    IsGreatest {number ∈ numbers unit steps (exponent + 1) | number ≤ x}
      (value unit steps (steps - 1) exponent) := by
  have last : steps - 1 < steps := Nat.sub_lt nonempty Nat.one_pos
  refine ⟨⟨⟨steps - 1, exponent, last, Nat.lt_succ_self exponent, rfl⟩, beyond⟩, ?_⟩
  rintro _ ⟨⟨other, power, otherSmall, powerFits, rfl⟩, _⟩
  rcases Nat.lt_or_eq_of_le (Nat.le_of_lt_succ powerFits) with earlier | rfl
  · exact (value_le_power positive nonempty otherSmall.le earlier).trans
      (power_le_value positive steps (steps - 1) exponent)
  · exact value_le_value positive (Nat.le_sub_one_of_lt otherSmall)

end

end SyncFanet.ScaledFormat
