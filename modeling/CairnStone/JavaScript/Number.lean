import Mathlib.Algebra.Order.Field.Rat
import Mathlib.Tactic.NormNum

/-! JavaScript numbers: IEEE 754 binary64 with its not-a-number and infinite values. -/

namespace CairnStone.JavaScript

/-- A finite binary64 value `± mantissa · 2 ^ exponent` in its canonical representation:
the mantissa is full, or the exponent is the least one. Both zeros are included.
-/
structure Double where
  negative : Bool
  mantissa : Nat
  exponent : Int
  fits : mantissa < 2 ^ 53
  least : -1074 ≤ exponent
  most : exponent ≤ 971
  canonical : 2 ^ 52 ≤ mantissa ∨ exponent = -1074
  deriving DecidableEq

namespace Double

def magnitude (x : Double) : ℚ :=
  x.mantissa * 2 ^ x.exponent

def value (x : Double) : ℚ :=
  if x.negative then -x.magnitude else x.magnitude

def toInt? (x : Double) : Option Int :=
  if x.value.den = 1 then some x.value.num else none

end Double

/-- A JavaScript number. -/
inductive Number where
  | nan
  | infinity (negative : Bool)
  | finite (x : Double)
  deriving DecidableEq

namespace Number

/-- `Number.isFinite` -/
def isFinite : Number → Bool
  | .finite _ => true
  | _ => false

/-- The value tested by `Number.isInteger`, if the number is an integer. -/
def toInt? : Number → Option Int
  | .finite x => x.toInt?
  | _ => none

/-- A small integer as a number: `2 ^ e ≤ n < 2 ^ (e + 1)` is shifted to a full mantissa. -/
def ofNat (n : Nat) (small : n < 2 ^ 53) : Number :=
  if zero : n = 0 then
    .finite ⟨false, 0, -1074, by norm_num, le_rfl, by norm_num, Or.inr rfl⟩
  else
    .finite {
      negative := false
      mantissa := n * 2 ^ (52 - n.log2)
      exponent := (n.log2 : Int) - 52
      fits := by
        have upper : n < 2 ^ (n.log2 + 1) := Nat.lt_log2_self
        have log : n.log2 ≤ 52 := by
          have := (Nat.log2_lt zero).mpr small
          omega
        calc n * 2 ^ (52 - n.log2)
            < 2 ^ (n.log2 + 1) * 2 ^ (52 - n.log2) := by gcongr
          _ = 2 ^ 53 := by rw [← pow_add]; congr 1; omega
      least := by omega
      most := by
        have := (Nat.log2_lt zero).mpr small
        omega
      canonical := by
        refine Or.inl ?_
        have lower : 2 ^ n.log2 ≤ n := Nat.log2_self_le zero
        have log : n.log2 ≤ 52 := by
          have := (Nat.log2_lt zero).mpr small
          omega
        calc 2 ^ 52 = 2 ^ n.log2 * 2 ^ (52 - n.log2) := by rw [← pow_add]; congr 1; omega
          _ ≤ n * 2 ^ (52 - n.log2) := by gcongr
    }

theorem zero_small : 0 < 2 ^ 53 := by
  norm_num

def zero : Number :=
  .ofNat 0 zero_small

end Number

end CairnStone.JavaScript
