import Mathlib.Algebra.Order.Floor.Semiring
import Mathlib.Data.Rat.Floor
import Mathlib.Tactic.NormNum
import SyncFanet.Library.ScaledFormat
import SyncFanet.Olsr.Timers

/-!
# Validity times

`seconds_to_emf` and `emf_to_seconds` in rational arithmetic, for every duration. The clock
of an agent has the same functions in picoseconds.
-/

set_option autoImplicit false

namespace SyncFanet.Olsr.Rational

open ScaledFormat

variable {seconds : ℚ} {b a : Nat}

/-! ## The format -/

/-- `OLSR_C`. -/
def olsrC : ℚ := 1 / 16

/-- The loop that raises the exponent until its power exceeds the duration. -/
def raiseExponent (seconds : ℚ) (b : Nat) : Nat :=
  if seconds / olsrC ≥ 2 ^ b then raiseExponent seconds (b + 1) else b
termination_by ⌈seconds / olsrC⌉₊ + 1 - 2 ^ b
decreasing_by
  next reached =>
    have bound : 2 ^ b ≤ ⌈seconds / olsrC⌉₊ := by
      have exact : ((2 ^ b : Nat) : ℚ) ≤ ⌈seconds / olsrC⌉₊ :=
        (by exact_mod_cast reached : ((2 ^ b : Nat) : ℚ) ≤ seconds / olsrC).trans (Nat.le_ceil _)
      exact_mod_cast exact
    have power : 2 ^ b < 2 ^ (b + 1) := Nat.pow_lt_pow_right (by decide) (Nat.lt_succ_self b)
    omega

/-- The conversion to `int`. -/
def truncate (number : ℚ) : Int := number.num.tdiv number.den

/-- The loop that turns a mantissa of sixteen or more into exponents. -/
def carryMantissa (a : Int) (b : Nat) : Int × Nat :=
  if a ≥ 16 then carryMantissa (a - 16) (b + 1) else (a, b)
termination_by a.toNat

/-- The mantissa and the exponent that `seconds_to_emf` comes to. -/
def mantissaExponent (seconds : ℚ) : Int × Nat :=
  match raiseExponent seconds 0 with
  | 0 => (1, 0)
  | b + 1 =>
      if b > 15 then (15, 15)
      else carryMantissa (truncate (16 * (seconds / (olsrC * 2 ^ b) - 1))) b

/-- `seconds_to_emf`. -/
def secondsToEmf (seconds : ℚ) : Nat :=
  let (a, b) := mantissaExponent seconds
  ((a * 16 + b) % 2 ^ 8).toNat

/-- `emf_to_seconds`. -/
def emfToSeconds (olsrFormat : Nat) : ℚ :=
  let a := olsrFormat >>> 4
  let b := olsrFormat - a * 16
  olsrC * (1 + a / 16) * 2 ^ b

/-- A duration as the receiver of the byte reads it. -/
def carried (seconds : ℚ) : ℚ := emfToSeconds (secondsToEmf seconds)

/-! ## Reading a byte -/

theorem olsrC_pos : 0 < olsrC := by norm_num [olsrC]

theorem emfToSeconds_byte (exponent : b < 16) :
    emfToSeconds (a * 16 + b) = value olsrC 16 a b := by
  have high : (a * 16 + b) >>> 4 = a := by
    rw [Nat.shiftRight_eq_div_pow]
    omega
  have low : a * 16 + b - a * 16 = b := by omega
  simp only [emfToSeconds, high, low, value]
  norm_cast

theorem emfToSeconds_numbers :
    {number | ∃ byte < 256, number = emfToSeconds byte} = numbers olsrC 16 16 := by
  ext number
  constructor
  · rintro ⟨byte, fits, rfl⟩
    have mantissa : byte / 16 < 16 := by omega
    have exponent : byte % 16 < 16 := Nat.mod_lt _ (by decide)
    refine ⟨byte / 16, byte % 16, mantissa, exponent, ?_⟩
    rw [← emfToSeconds_byte exponent, Nat.div_add_mod']
  · rintro ⟨a, b, mantissa, exponent, rfl⟩
    exact ⟨a * 16 + b, by omega, (emfToSeconds_byte exponent).symm⟩

theorem emfToSeconds_clock (olsrFormat : Nat) :
    (Olsr.emfToSeconds olsrFormat : ℚ) = emfToSeconds olsrFormat * Time.second := by
  simp only [Olsr.emfToSeconds, emfToSeconds, olsrC, Time.second]
  generalize olsrFormat >>> 4 = a
  push_cast
  ring

/-! ## Writing a byte -/

theorem raiseExponent_spec (seconds : ℚ) (b : Nat) :
    b ≤ raiseExponent seconds b ∧ seconds / olsrC < 2 ^ raiseExponent seconds b ∧
      (raiseExponent seconds b = b ∨ 2 ^ (raiseExponent seconds b - 1) ≤ seconds / olsrC) := by
  induction b using raiseExponent.induct seconds with
  | case1 b reached ih =>
      rw [raiseExponent, if_pos reached]
      obtain ⟨later, above, below⟩ := ih
      refine ⟨(Nat.le_succ b).trans later, above, .inr ?_⟩
      rcases below with same | below
      · rw [same, Nat.add_sub_cancel]
        exact reached
      · exact below
  | case2 b passed =>
      rw [raiseExponent, if_neg passed]
      exact ⟨Nat.le_refl b, not_le.mp passed, .inl rfl⟩

theorem truncate_of_nonneg {number : ℚ} (nonneg : 0 ≤ number) : truncate number = ⌊number⌋ := by
  rw [truncate, Int.tdiv_eq_ediv_of_nonneg (Rat.num_nonneg.mpr nonneg), ← Rat.floor_def']

/-- What `seconds_to_emf` writes: the longest duration of the format that is not longer than
the given one, unless that is too short for the format. -/
inductive Written (seconds : ℚ) : Nat → Nat → Prop where
  | short (below : seconds < olsrC) : Written seconds 1 0
  | long (above : olsrC * 2 ^ 16 ≤ seconds) : Written seconds 15 15
  | exact {a b : Nat} (mantissa : a < 16) (exponent : b < 16)
      (below : value olsrC 16 a b ≤ seconds) (above : seconds < value olsrC 16 (a + 1) b) :
      Written seconds a b

theorem Written.small (written : Written seconds a b) :
    a < 16 ∧ b < 16 := by
  cases written with
  | short => decide
  | long => decide
  | exact mantissa exponent => exact ⟨mantissa, exponent⟩

theorem mantissaExponent_written (seconds : ℚ) :
    ∃ a b : Nat, mantissaExponent seconds = ((a : Int), b) ∧ Written seconds a b := by
  obtain ⟨-, above, below⟩ := raiseExponent_spec seconds 0
  unfold mantissaExponent
  cases exponent : raiseExponent seconds 0 with
  | zero =>
      rw [exponent, pow_zero, div_lt_one olsrC_pos] at above
      exact ⟨1, 0, rfl, .short above⟩
  | succ b =>
      rw [exponent, div_lt_iff₀ olsrC_pos] at above
      have reached : 2 ^ b * olsrC ≤ seconds := by
        rcases below with none | below
        · rw [exponent] at none
          cases none
        · rw [exponent, Nat.add_sub_cancel, le_div_iff₀ olsrC_pos] at below
          exact below
      dsimp only
      split
      · next large =>
        refine ⟨15, 15, rfl, .long (le_trans ?_ reached)⟩
        have power : (2 : ℚ) ^ 16 ≤ 2 ^ b := pow_le_pow_right₀ (by norm_num) large
        rw [mul_comm]
        exact mul_le_mul_of_nonneg_right power olsrC_pos.le
      · next small =>
        -- Between two powers of two the quotient is between one and two.
        have scale : 0 < olsrC * 2 ^ b := mul_pos olsrC_pos (by positivity)
        have atLeast : 1 ≤ seconds / (olsrC * 2 ^ b) := by
          rw [le_div_iff₀ scale, one_mul, mul_comm]
          exact reached
        have less : seconds / (olsrC * 2 ^ b) < 2 := by
          rw [div_lt_iff₀ scale]
          calc seconds < 2 ^ (b + 1) * olsrC := above
            _ = 2 * (olsrC * 2 ^ b) := by ring
        have nonneg : 0 ≤ 16 * (seconds / (olsrC * 2 ^ b) - 1) := by linarith
        have least := Int.floor_nonneg.mpr nonneg
        have floored := Int.floor_le (16 * (seconds / (olsrC * 2 ^ b) - 1))
        have next := Int.lt_floor_add_one (16 * (seconds / (olsrC * 2 ^ b) - 1))
        rw [truncate_of_nonneg nonneg]
        obtain ⟨a, mantissa⟩ := Int.eq_ofNat_of_zero_le least
        rw [mantissa] at floored next ⊢
        have fits : a < 16 := by
          have bound : (a : ℚ) < 16 := by
            push_cast at floored
            linarith
          exact_mod_cast bound
        rw [carryMantissa, if_neg (by omega)]
        push_cast at floored next
        have quotient : seconds = seconds / (olsrC * 2 ^ b) * (olsrC * 2 ^ b) :=
          (div_mul_cancel₀ seconds scale.ne').symm
        refine ⟨a, b, rfl, .exact fits (by omega) ?_ ?_⟩
        · have fraction : 1 + (a : ℚ) / 16 ≤ seconds / (olsrC * 2 ^ b) := by linarith
          calc value olsrC 16 a b = (1 + (a : ℚ) / 16) * (olsrC * 2 ^ b) := by
                unfold value
                push_cast
                ring
            _ ≤ seconds / (olsrC * 2 ^ b) * (olsrC * 2 ^ b) := by gcongr
            _ = seconds := quotient.symm
        · have fraction : seconds / (olsrC * 2 ^ b) < 1 + ((a : ℚ) + 1) / 16 := by linarith
          calc seconds = seconds / (olsrC * 2 ^ b) * (olsrC * 2 ^ b) := quotient
            _ < (1 + ((a : ℚ) + 1) / 16) * (olsrC * 2 ^ b) := by gcongr
            _ = value olsrC 16 (a + 1) b := by
                unfold value
                push_cast
                ring

theorem secondsToEmf_written (seconds : ℚ) :
    ∃ a b : Nat, Written seconds a b ∧ mantissaExponent seconds = ((a : Int), b) ∧
      secondsToEmf seconds = a * 16 + b := by
  obtain ⟨a, b, found, written⟩ := mantissaExponent_written seconds
  obtain ⟨mantissa, exponent⟩ := written.small
  refine ⟨a, b, written, found, ?_⟩
  simp only [secondsToEmf, found]
  omega

theorem carried_written (seconds : ℚ) :
    ∃ a b : Nat, Written seconds a b ∧ carried seconds = value olsrC 16 a b := by
  obtain ⟨a, b, written, -, byte⟩ := secondsToEmf_written seconds
  exact ⟨a, b, written, by rw [carried, byte, emfToSeconds_byte written.small.2]⟩

/-! ## There and back -/

theorem least_number (a b : Nat) : olsrC ≤ value olsrC 16 a b := by
  have power : olsrC * 1 ≤ olsrC * 2 ^ b :=
    mul_le_mul_of_nonneg_left (one_le_pow₀ (by norm_num)) olsrC_pos.le
  rw [mul_one] at power
  exact power.trans (power_le_value olsrC_pos 16 a b)

theorem Written.not_short (written : Written seconds a b) (least : olsrC ≤ seconds) :
    olsrC * 2 ^ 16 ≤ seconds ∧ a = 15 ∧ b = 15 ∨
      value olsrC 16 a b ≤ seconds ∧ seconds < value olsrC 16 (a + 1) b := by
  cases written with
  | short below => exact absurd least (not_le.mpr below)
  | long above => exact .inl ⟨above, rfl, rfl⟩
  | exact _ _ below above => exact .inr ⟨below, above⟩

theorem carried_short (below : seconds < olsrC) :
    carried seconds = olsrC * (17 / 16) := by
  obtain ⟨a, b, written, same⟩ := carried_written seconds
  rw [same]
  cases written with
  | short => norm_num [value]
  | long above =>
      have larger : olsrC < olsrC * 2 ^ 16 := by norm_num [olsrC]
      exact absurd (larger.trans_le above) (not_lt.mpr below.le)
  | exact _ _ least => exact absurd ((least_number a b).trans least) (not_le.mpr below)

/-- From the unit of the format on, the receiver reads the longest duration of the format that
is not longer than the one that was sent. -/
theorem carried_isGreatest (least : olsrC ≤ seconds) :
    IsGreatest {number ∈ numbers olsrC 16 16 | number ≤ seconds} (carried seconds) := by
  obtain ⟨a, b, written, same⟩ := carried_written seconds
  rw [same]
  rcases written.not_short least with ⟨above, rfl, rfl⟩ | ⟨below, above⟩
  · have last : value olsrC 16 15 15 ≤ olsrC * 2 ^ 16 :=
      value_le_power olsrC_pos (by decide) (by decide) (by decide)
    exact isGreatest_last olsrC_pos (by decide) (last.trans above)
  · exact isGreatest_value olsrC_pos (by decide) written.small.1 written.small.2 below above

theorem carried_mono {longer : ℚ} (least : olsrC ≤ seconds) (le : seconds ≤ longer) :
    carried seconds ≤ carried longer := by
  refine (carried_isGreatest least).mono (carried_isGreatest (least.trans le)) ?_
  exact fun number member => ⟨member.1, member.2.trans le⟩

theorem carried_le_iff {longer : ℚ} (le : seconds ≤ longer) :
    carried seconds ≤ carried longer ↔
      ¬(seconds < olsrC ∧ olsrC ≤ longer ∧ longer < olsrC * (17 / 16)) := by
  by_cases least : olsrC ≤ seconds
  · exact iff_of_true (carried_mono least le) fun lost => not_le.mpr lost.1 least
  · rw [not_le] at least
    rw [carried_short least]
    by_cases longerLeast : olsrC ≤ longer
    · obtain ⟨⟨-, below⟩, greatest⟩ := carried_isGreatest longerLeast
      constructor
      · exact fun kept lost => not_le.mpr lost.2.2 (kept.trans below)
      · intro kept
        refine greatest ⟨⟨1, 0, by decide, by decide, by norm_num [value]⟩, ?_⟩
        exact not_lt.mp fun lost => kept ⟨least, longerLeast, lost⟩
    · rw [carried_short (not_le.mp longerLeast)]
      exact iff_of_true le_rfl fun lost => longerLeast lost.2.1

/-- What the format owes to a duration and a longer one. -/
structure Survives (seconds longer : ℚ) : Prop where
  fields : olsrC ≤ seconds → seconds < olsrC * 2 ^ 16 →
    0 ≤ (mantissaExponent seconds).1 ∧ (mantissaExponent seconds).1 ≤ 15 ∧
      (mantissaExponent seconds).2 ≤ 15 ∧
      (mantissaExponent seconds).1 * 16 + (mantissaExponent seconds).2 < 2 ^ 8
  close : olsrC ≤ seconds → seconds < olsrC * 2 ^ 16 →
    carried seconds ≤ seconds ∧ seconds < carried seconds + carried seconds / 16
  ordered : carried seconds ≤ carried longer
  smallest : seconds < olsrC → ∀ byte < 256, carried seconds ≤ emfToSeconds byte
  largest : olsrC * 2 ^ 16 ≤ seconds → ∀ byte < 256, emfToSeconds byte ≤ carried seconds

theorem fields_small (seconds : ℚ) :
    0 ≤ (mantissaExponent seconds).1 ∧ (mantissaExponent seconds).1 ≤ 15 ∧
      (mantissaExponent seconds).2 ≤ 15 ∧
      (mantissaExponent seconds).1 * 16 + (mantissaExponent seconds).2 < 2 ^ 8 := by
  obtain ⟨a, b, found, written⟩ := mantissaExponent_written seconds
  obtain ⟨mantissa, exponent⟩ := written.small
  rw [found]
  dsimp only
  omega

theorem carried_close (least : olsrC ≤ seconds) (fits : seconds < olsrC * 2 ^ 16) :
    carried seconds ≤ seconds ∧ seconds < carried seconds + carried seconds / 16 := by
  obtain ⟨a, b, written, same⟩ := carried_written seconds
  rcases written.not_short least with ⟨above, -⟩ | ⟨below, above⟩
  · exact absurd fits (not_lt.mpr above)
  · rw [same]
    exact ⟨below, lt_value_add olsrC_pos above⟩

/-- A validity time survives exactly if it is not shorter than the unit of the format: a
shorter one is sent with the mantissa one, not with zero. -/
theorem survives_iff {seconds longer : ℚ} (le : seconds ≤ longer) :
    Survives seconds longer ↔ olsrC ≤ seconds := by
  constructor
  · intro survives
    by_contra short
    have below := not_le.mp short
    have smallest := survives.smallest below 0 (by decide)
    rw [carried_short below] at smallest
    norm_num [emfToSeconds, olsrC] at smallest
  · intro least
    refine ⟨fun _ _ => fields_small seconds, fun _ => carried_close least,
      carried_mono least le, fun below => absurd least (not_le.mpr below), ?_⟩
    intro above byte fits
    have number : emfToSeconds byte ∈ numbers olsrC 16 16 := by
      rw [← emfToSeconds_numbers]
      exact ⟨byte, fits, rfl⟩
    refine (carried_isGreatest least).2 ⟨number, le_trans ?_ above⟩
    obtain ⟨a, b, mantissa, exponent, same⟩ := number
    rw [same]
    exact value_le_power olsrC_pos (by decide) mantissa.le exponent

/-- A second and an hour. -/
theorem survives_second : Survives 1 3600 ↔ olsrC ≤ 1 :=
  survives_iff (by norm_num)

/-- Half a unit is read as more than a whole one. -/
theorem not_survives :
    ¬∀ seconds longer : ℚ, 0 < seconds → seconds ≤ longer → Survives seconds longer := by
  intro all
  have kept := (all (1 / 32) (1 / 16) (by norm_num) (by norm_num)).ordered
  rw [carried_le_iff (by norm_num)] at kept
  exact kept (by norm_num [olsrC])

/-! ## The clock of an agent -/

def ofClock (time : Int) : ℚ := time / Time.second

theorem power_le_iff (time : Int) (b : Nat) :
    time ≥ emfUnit * 2 ^ b ↔ ofClock time / olsrC ≥ 2 ^ b := by
  have scale : ofClock time / olsrC = time / (emfUnit : ℚ) := by
    simp only [ofClock, olsrC, emfUnit, Time.second]
    norm_num
    ring
  have unit : (0 : ℚ) < emfUnit := by norm_num [emfUnit, Time.second]
  rw [scale, ge_iff_le, ge_iff_le, le_div_iff₀ unit, mul_comm]
  exact_mod_cast Iff.rfl

theorem emfExponent_eq (time : Int) (fuel b : Nat) :
    emfExponent time fuel b = min (raiseExponent (ofClock time) b) (b + fuel) := by
  induction fuel generalizing b with
  | zero => exact (Nat.min_eq_right (raiseExponent_spec _ b).1).symm
  | succ fuel ih =>
      rw [emfExponent, raiseExponent]
      simp only [power_le_iff]
      split
      · rw [ih, Nat.add_right_comm]
        rfl
      · exact (Nat.min_eq_left (Nat.le_add_right b _)).symm

theorem carryMantissa_natCast (a b : Nat) :
    carryMantissa a b = (((a % 16 : Nat) : Int), b + a / 16) := by
  induction a using Nat.strongRecOn generalizing b with
  | ind a ih =>
      rw [carryMantissa]
      split
      · next large =>
        have smaller : ((a : Int) - 16) = ((a - 16 : Nat) : Int) := by omega
        rw [smaller, ih (a - 16) (by omega)]
        refine Prod.ext (congrArg Nat.cast (by omega)) (show b + 1 + (a - 16) / 16 = _ by omega)
      · refine Prod.ext (congrArg Nat.cast (by omega)) (show b = _ by omega)

theorem truncate_clock {time : Int} (reached : time ≥ emfUnit * 2 ^ b) :
    truncate (16 * (ofClock time / (olsrC * 2 ^ b) - 1)) =
      ((16 * time / (emfUnit * 2 ^ b) - 16).toNat : Int) := by
  have divisor : emfUnit * 2 ^ b = ((62500000000 * 2 ^ b : Nat) : Int) := by
    push_cast
    rfl
  have shift : 16 * (ofClock time / (olsrC * 2 ^ b) - 1) =
      ((16 * time : Int) : ℚ) / ((62500000000 * 2 ^ b : Nat) : ℚ) - (16 : Int) := by
    simp only [ofClock, olsrC, Time.second]
    push_cast
    field_simp
    ring
  have positive : (0 : Int) < emfUnit * 2 ^ b := by
    rw [divisor]
    positivity
  have enough : 16 ≤ 16 * time / (emfUnit * 2 ^ b) := by
    rw [Int.le_ediv_iff_mul_le positive]
    linarith
  have floored : ⌊16 * (ofClock time / (olsrC * 2 ^ b) - 1)⌋ =
      16 * time / (emfUnit * 2 ^ b) - 16 := by
    rw [shift, Int.floor_sub_intCast, Rat.floor_intCast_div_natCast, ← divisor]
  have nonneg : 0 ≤ 16 * (ofClock time / (olsrC * 2 ^ b) - 1) := by
    rw [← Int.floor_nonneg, floored]
    omega
  rw [truncate_of_nonneg nonneg, floored]
  omega

theorem secondsToEmf_clock (time : Int) :
    Olsr.secondsToEmf time = secondsToEmf (ofClock time) := by
  have exponent := emfExponent_eq time 32 0
  obtain ⟨-, -, below⟩ := raiseExponent_spec (ofClock time) 0
  unfold Olsr.secondsToEmf secondsToEmf mantissaExponent
  cases raised : raiseExponent (ofClock time) 0 with
  | zero =>
      rw [raised] at exponent
      rw [exponent]
      rfl
  | succ b =>
      rw [raised] at exponent below
      by_cases large : b > 15
      · obtain ⟨c, capped, above⟩ : ∃ c, emfExponent time 32 0 = c + 1 ∧ c > 15 :=
          ⟨min b 31, by omega, by omega⟩
        simp only [capped, if_pos large, if_pos above]
        rfl
      · have same : emfExponent time 32 0 = b + 1 := by omega
        have reached : time ≥ emfUnit * 2 ^ b := by
          rw [power_le_iff]
          exact below.resolve_left (Nat.succ_ne_zero b)
        simp only [same, if_neg large, truncate_clock reached, carryMantissa_natCast]
        omega

end SyncFanet.Olsr.Rational
