import CairnStone.JavaScript.Number
import Mathlib.Data.Int.Log
import Mathlib.Data.Rat.Floor
import Mathlib.Tactic.Linarith

/-! Rounding of rational magnitudes to binary64, to nearest with ties to even. -/

namespace CairnStone.JavaScript

/-- The natural number nearest to a magnitude; of two equally near ones the even one. -/
def roundHalfEven (q : ℚ) : ℕ :=
  let below := ⌊q⌋₊
  if 2 * (q - below) < 1 then below
  else if 1 < 2 * (q - below) then below + 1
  else if below % 2 = 0 then below
  else below + 1

@[simp] theorem roundHalfEven_natCast (n : ℕ) : roundHalfEven (n : ℚ) = n := by
  simp [roundHalfEven]

/-- The mantissa and exponent of the binary64 magnitude nearest to a positive rational. Past
the greatest exponent it stands for infinity.
-/
def roundMagnitude (q : ℚ) : ℕ × ℤ :=
  let exponent := max (-1074) (Int.log 2 q - 52)
  let mantissa := roundHalfEven (q / 2 ^ exponent)
  if mantissa = 2 ^ 53 then (2 ^ 52, exponent + 1) else (mantissa, exponent)

namespace Double

variable {x : Double}

theorem magnitude_pos (nonzero : x.mantissa ≠ 0) : 0 < x.magnitude := by
  have mantissa : (0 : ℚ) < x.mantissa := by exact_mod_cast Nat.pos_of_ne_zero nonzero
  exact mul_pos mantissa (zpow_pos (by norm_num) _)

/-- The binary logarithm of a magnitude determines its canonical exponent.
Witness: a full mantissa has its top bit at 52, and any other comes with the least exponent.
-/
theorem exponent_eq (nonzero : x.mantissa ≠ 0)
    : max (-1074) (Int.log 2 x.magnitude - 52) = x.exponent := by
  have pos := magnitude_pos nonzero
  have split (k : ℕ) : (2 : ℚ) ^ (x.exponent + k) = 2 ^ k * 2 ^ x.exponent := by
    rw [zpow_add₀ (by norm_num), zpow_natCast, mul_comm]
  have unit : (0 : ℚ) < 2 ^ x.exponent := zpow_pos (by norm_num) _
  have upper : Int.log 2 x.magnitude < x.exponent + 53 := by
    apply (Int.lt_zpow_iff_log_lt (by norm_num) pos).mp
    have fits : (x.mantissa : ℚ) < 2 ^ 53 := by exact_mod_cast x.fits
    have bound : (2 : ℚ) ^ (x.exponent + 53) = 2 ^ 53 * 2 ^ x.exponent := split 53
    simp only [magnitude, Nat.cast_ofNat, bound]
    exact mul_lt_mul_of_pos_right fits unit
  rcases x.canonical with full | least
  · have lower : x.exponent + 52 ≤ Int.log 2 x.magnitude := by
      apply (Int.zpow_le_iff_le_log (by norm_num) pos).mp
      have full : (2 : ℚ) ^ 52 ≤ x.mantissa := by exact_mod_cast full
      have bound : (2 : ℚ) ^ (x.exponent + 52) = 2 ^ 52 * 2 ^ x.exponent := split 52
      simp only [magnitude, Nat.cast_ofNat, bound]
      exact mul_le_mul_of_nonneg_right full unit.le
    have least := x.least
    omega
  · omega

theorem roundMagnitude_magnitude (nonzero : x.mantissa ≠ 0)
    : roundMagnitude x.magnitude = (x.mantissa, x.exponent) := by
  have scaled : x.magnitude / 2 ^ x.exponent = (x.mantissa : ℚ) := by
    unfold magnitude
    field_simp
  have fits := x.fits
  simp only [roundMagnitude, exponent_eq nonzero, scaled, roundHalfEven_natCast]
  rw [if_neg (by omega)]

theorem eq_of_parts {y : Double} (negative : x.negative = y.negative)
    (mantissa : x.mantissa = y.mantissa) (exponent : x.exponent = y.exponent)
    : x = y := by
  cases x
  cases y
  simp_all

end Double

end CairnStone.JavaScript
