import CairnStone.JavaScript.Rounding
import CairnStone.JavaScript.Text
import Mathlib.Algebra.Order.Field.Power
import Mathlib.Data.List.TakeWhile
import Mathlib.Data.Nat.Digits.Lemmas
import Mathlib.Tactic.FieldSimp
import Mathlib.Tactic.Ring

/-! `Number::toString` in radix 10: the shortest decimal that rounds to the number, and how it
is written. The text determines the number up to the sign of zero.
-/

namespace CairnStone.JavaScript

open List Prod

variable {mark u : CodeUnit}

/-- `significand · 10 ^ power` -/
structure Decimal where
  significand : ℕ
  power : ℤ
  deriving DecidableEq

namespace Decimal

def value (d : Decimal) : ℚ :=
  d.significand * 10 ^ d.power

/-- The decimals of `k` digits next to a magnitude between `10 ^ (n - 1)` and `10 ^ n`, the
nearer one first. A carry past `k` digits leaves a power of ten.
-/
def neighbours (q : ℚ) (n : ℤ) (k : ℕ) : List Decimal :=
  let power := n - k
  let below := ⌊q / 10 ^ power⌋₊
  let above : Decimal :=
    if below + 1 = 10 ^ k then ⟨10 ^ (k - 1), power + 1⟩ else ⟨below + 1, power⟩
  if roundHalfEven (q / 10 ^ power) = below then [⟨below, power⟩, above]
  else [above, ⟨below, power⟩]

end Decimal

namespace Double

variable {x : Double}

def Reads (x : Double) (d : Decimal) : Prop :=
  roundMagnitude d.value = (x.mantissa, x.exponent)

instance (x : Double) (d : Decimal) : Decidable (x.Reads d) :=
  inferInstanceAs (Decidable (_ = _))

def decimalExponent (x : Double) : ℤ :=
  Int.log 10 x.magnitude + 1

/-- The first decimal that rounds to the magnitude, in the order of the number of digits. -/
def shortest? (x : Double) : Option Decimal :=
  (List.range' 1 ((x.decimalExponent + 1074).toNat + 1)).findSome?
    (fun k => (Decimal.neighbours x.magnitude x.decimalExponent k).find? (fun d => x.Reads d))

/-- Scaled by enough powers of ten, a magnitude is a natural number. -/
theorem exists_scaled_eq (x : Double) {power : ℤ} (fine : power ≤ -1074)
    : ∃ n : ℕ, x.magnitude / 10 ^ power = n := by
  obtain ⟨p, rfl⟩ : ∃ p : ℕ, power = -p := ⟨power.natAbs, by omega⟩
  have least := x.least
  obtain ⟨s, shift⟩ : ∃ s : ℕ, x.exponent + p = s := ⟨(x.exponent + p).toNat, by omega⟩
  refine ⟨x.mantissa * 2 ^ s * 5 ^ p, ?_⟩
  have twos : (2 : ℚ) ^ s = 2 ^ x.exponent * 2 ^ p := by
    rw [← zpow_natCast 2 s, ← shift, zpow_add₀ (by norm_num), zpow_natCast]
  have tens : (10 : ℚ) ^ p = 2 ^ p * 5 ^ p := by
    rw [← mul_pow]
    norm_num
  push_cast
  rw [magnitude, zpow_neg, div_inv_eq_mul, zpow_natCast, tens, twos]
  ring

/-- Some decimal rounds to every nonzero magnitude.
Witness: with enough digits the decimal below is the magnitude itself.
-/
theorem shortest?_isSome (nonzero : x.mantissa ≠ 0) : x.shortest?.isSome := by
  have rounds (d : Decimal) (exact_ : d.value = x.magnitude) : x.Reads d := by
    rw [Reads, exact_, roundMagnitude_magnitude nonzero]
  rw [shortest?, findSome?_isSome_iff]
  refine ⟨(x.decimalExponent + 1074).toNat + 1, mem_range'_1.mpr (by omega), ?_⟩
  rw [find?_isSome]
  generalize digits : (x.decimalExponent + 1074).toNat + 1 = k
  have fine : x.decimalExponent - k ≤ -1074 := by omega
  obtain ⟨n, scaled⟩ := x.exists_scaled_eq fine
  refine ⟨⟨n, x.decimalExponent - k⟩, ?_, ?_⟩
  · simp [Decimal.neighbours, scaled]
  · have unit : (10 : ℚ) ^ (x.decimalExponent - k) ≠ 0 := zpow_ne_zero _ (by norm_num)
    refine decide_eq_true (rounds _ ?_)
    rw [Decimal.value, ← scaled]
    exact div_mul_cancel₀ _ unit

/-- The decimal that `Number::toString` writes. -/
def shortest (x : Double) (nonzero : x.mantissa ≠ 0) : Decimal :=
  x.shortest?.get (shortest?_isSome nonzero)

theorem reads_shortest (nonzero : x.mantissa ≠ 0)
    : x.Reads (x.shortest nonzero) := by
  have found : x.shortest? = some (x.shortest nonzero) := (Option.some_get _).symm
  obtain ⟨k, _, first⟩ := exists_of_findSome?_eq_some found
  simpa using find?_some first

theorem significand_ne_zero (nonzero : x.mantissa ≠ 0) {d : Decimal} (reads : x.Reads d)
    : d.significand ≠ 0 := by
  intro zero
  have value : d.value = 0 := by simp [Decimal.value, zero]
  rw [Reads, value] at reads
  have mantissa : x.mantissa = 0 := by
    have rounded : roundMagnitude 0 = (0, -52) := by
      simp [roundMagnitude, roundHalfEven]
    rw [rounded] at reads
    exact (congrArg fst reads).symm
  exact nonzero mantissa

end Double

def digitUnit (d : ℕ) : CodeUnit :=
  Fin.ofNat 65536 (0x30 + d)

def digitText (n : ℕ) : Text :=
  (Nat.digits 10 n).reverse.map digitUnit

/-- `e+<digits>` or `e-<digits>` -/
def exponentText (exponent : ℤ) : Text :=
  0x65 :: (if exponent < 0 then 0x2D else 0x2B) :: digitText exponent.natAbs

namespace Decimal

/-- The four notations of `Number::toString`: an integer, a decimal point inside the digits or
before them, and scientific notation.
-/
def toText (d : Decimal) : Text :=
  let digits := digitText d.significand
  let k := digits.length
  let n := d.power + k
  if k ≤ n ∧ n ≤ 21 then
    digits ++ List.replicate (n - k).toNat 0x30
  else if 0 < n ∧ n ≤ 21 then
    digits.take n.toNat ++ 0x2E :: digits.drop n.toNat
  else if -6 < n ∧ n ≤ 0 then
    0x30 :: 0x2E :: (List.replicate (-n).toNat 0x30 ++ digits)
  else if k = 1 then
    digits ++ exponentText (n - 1)
  else
    digits.take 1 ++ 0x2E :: (digits.drop 1 ++ exponentText (n - 1))

end Decimal

/-- `Number::toString(x, 10)` -/
def Number.toText : Number → Text
  | .nan => text "NaN"
  | .infinity negative => if negative then text "-Infinity" else text "Infinity"
  | .finite x =>
    if zero : x.mantissa = 0 then text "0"
    else (if x.negative then [0x2D] else []) ++ (x.shortest zero).toText

def readNat (digits : Text) : ℕ :=
  digits.foldl (fun n u => 10 * n + (u.val - 0x30)) 0

/-- The exponent after an `e`; none is zero. -/
def readExponent : Text → ℤ
  | [] => 0
  | sign :: digits => if sign = 0x2D then -(readNat digits) else readNat digits

def cut (mark : CodeUnit) (written : Text) : Text × Text :=
  let before := written.takeWhile (· != mark)
  (before, written.drop (before.length + 1))

def readDecimal (written : Text) : ℚ :=
  let scientific := cut 0x65 written
  let point := cut 0x2E scientific.1
  readNat (point.1 ++ point.2) * 10 ^ (readExponent scientific.2 - point.2.length)

theorem cut_append {first : Text} (free : mark ∉ first) (second : Text)
    : cut mark (first ++ mark :: second) = (first, second) := by
  have passed : ∀ u ∈ first, (u != mark) = true := by
    intro u mem
    simpa using fun same : u = mark => free (same ▸ mem)
  simp [cut, takeWhile_append_of_pos passed]

theorem cut_free {put : Text} (free : mark ∉ put)
    : cut mark put = (put, []) := by
  have passed : ∀ u ∈ put, (u != mark) = true := by
    intro u mem
    simpa using fun same : u = mark => free (same ▸ mem)
  have whole : put.takeWhile (· != mark) = put := takeWhile_eq_self_iff.mpr passed
  simp [cut, whole]

theorem foldl_readNat (digits : Text) (start : ℕ)
    : digits.foldl (fun n u => 10 * n + (u.val - 0x30)) start
      = start * 10 ^ digits.length + readNat digits := by
  unfold readNat
  induction digits generalizing start with
  | nil => simp
  | cons u rest ih =>
    rw [foldl_cons, foldl_cons, ih, ih (10 * 0 + (u.val - 0x30)),
      length_cons, pow_succ]
    ring

theorem readNat_append (first second : Text)
    : readNat (first ++ second) = readNat first * 10 ^ second.length + readNat second := by
  rw [readNat, foldl_append, foldl_readNat]
  rfl

@[simp] theorem readNat_zeros (z : ℕ) : readNat (List.replicate z 0x30) = 0 := by
  induction z with
  | zero => rfl
  | succ z ih =>
    rw [replicate_succ, ← singleton_append, readNat_append, ih]
    simp [readNat]

/-- A digit is written as the code unit that denotes it. -/
theorem val_digitUnit {d : ℕ} (digit : d < 10) : (digitUnit d).val = 0x30 + d := by
  simp only [digitUnit, Fin.ofNat]
  omega

theorem isDigit_digitUnit {d : ℕ} (digit : d < 10) : isDigit (digitUnit d) := by
  have value := val_digitUnit digit
  simp only [isDigit, Bool.and_eq_true, decide_eq_true_eq, Fin.le_def]
  constructor
  · rw [value]
    exact Nat.le_add_right _ _
  · rw [value]
    change 0x30 + d ≤ 0x39
    omega

/-- Digits denote the number they were written for. Witness: induction on the digits. -/
theorem readNat_digitText (n : ℕ) : readNat (digitText n) = n := by
  have reads (ds : List ℕ) (bounded : ∀ d ∈ ds, d < 10)
      : readNat (ds.reverse.map digitUnit) = Nat.ofDigits 10 ds := by
    induction ds with
    | nil => rfl
    | cons d ds ih =>
      have value := val_digitUnit (bounded d (.head _))
      rw [reverse_cons, map_append, readNat_append,
        ih (fun d mem => bounded d (.tail _ mem)), Nat.ofDigits_cons]
      simp [readNat, value]
      ring
  rw [digitText, reads _ (fun d mem => Nat.digits_lt_base (by norm_num) mem)]
  exact Nat.ofDigits_digits 10 n

theorem isDigit_of_mem_digitText {n : ℕ} (mem : u ∈ digitText n)
    : isDigit u := by
  obtain ⟨d, seen, rfl⟩ := mem_map.mp mem
  exact isDigit_digitUnit (Nat.digits_lt_base (by norm_num) (mem_reverse.mp seen))

theorem notMem_of_digits {digits : Text} (all : ∀ u ∈ digits, isDigit u)
    (other : isDigit mark = false)
    : mark ∉ digits := by
  intro mem
  have digit := all mark mem
  rw [other] at digit
  cases digit

theorem readExponent_exponentText (exponent : ℤ)
    : readExponent ((exponentText exponent).drop 1) = exponent := by
  rw [exponentText, drop_succ_cons, drop_zero, readExponent, readNat_digitText]
  split
  · rename_i marked
    rw [if_pos rfl]
    omega
  · rename_i plain
    rw [if_neg (by decide)]
    omega

/-- The value of an integer notation. -/
theorem readDecimal_digits {digits : Text} (all : ∀ u ∈ digits, isDigit u)
    : readDecimal digits = readNat digits := by
  have noExponent : (0x65 : CodeUnit) ∉ digits := notMem_of_digits all (by decide)
  have noPoint : (0x2E : CodeUnit) ∉ digits := notMem_of_digits all (by decide)
  simp [readDecimal, cut_free noExponent, cut_free noPoint, readExponent]

theorem readDecimal_point {whole fraction : Text} (all : ∀ u ∈ whole, isDigit u)
    (all' : ∀ u ∈ fraction, isDigit u)
    : readDecimal (whole ++ 0x2E :: fraction)
      = readNat (whole ++ fraction) * 10 ^ (-(fraction.length : ℤ)) := by
  have noExponent : (0x65 : CodeUnit) ∉ whole ++ 0x2E :: fraction := by
    have first : (0x65 : CodeUnit) ∉ whole := notMem_of_digits all (by decide)
    have second : (0x65 : CodeUnit) ∉ fraction := notMem_of_digits all' (by decide)
    simp only [mem_append, mem_cons, first, second, or_false, false_or]
    decide
  have noPoint : (0x2E : CodeUnit) ∉ whole := notMem_of_digits all (by decide)
  simp [readDecimal, cut_free noExponent, cut_append noPoint, readExponent]

/-- The value of scientific notation, over the value of its mantissa. -/
theorem readDecimal_scientific {mantissa : Text} (free : (0x65 : CodeUnit) ∉ mantissa)
    (exponent : ℤ)
    : readDecimal (mantissa ++ exponentText exponent)
      = readDecimal mantissa * 10 ^ exponent := by
  have ten : (10 : ℚ) ≠ 0 := by norm_num
  have put : exponentText exponent = 0x65 :: (exponentText exponent).drop 1 := rfl
  rw [put]
  simp only [readDecimal, cut_append free, cut_free free, readExponent_exponentText]
  rw [sub_eq_add_neg, add_comm, zpow_add₀ ten, ← mul_assoc]
  simp [readExponent]

theorem isDigit_of_mem_zeros {z : ℕ} (mem : u ∈ List.replicate z 0x30)
    : isDigit u := by
  rw [eq_of_mem_replicate mem]
  decide

variable {d : Decimal}

/-- What is written for a decimal denotes it. Witness: one computation for each notation. -/
theorem Decimal.readDecimal_toText (nonzero : d.significand ≠ 0)
    : readDecimal d.toText = d.value := by
  have ten : (10 : ℚ) ≠ 0 := by norm_num
  unfold toText value
  generalize put : digitText d.significand = digits
  have all : ∀ u ∈ digits, isDigit u := by
    intro u mem
    exact isDigit_of_mem_digitText (put ▸ mem)
  have reads : readNat digits = d.significand := by rw [← put, readNat_digitText]
  have allTake (i : ℕ) : ∀ u ∈ digits.take i, isDigit u :=
    fun u mem => all u (mem_of_mem_take mem)
  have allDrop (i : ℕ) : ∀ u ∈ digits.drop i, isDigit u :=
    fun u mem => all u (mem_of_mem_drop mem)
  dsimp only
  generalize size : digits.length = k
  split_ifs with integer inside before single
  · -- All digits stand before the point, followed by zeros.
    obtain ⟨z, zeros⟩ : ∃ z : ℕ, d.power = z := ⟨d.power.toNat, by omega⟩
    have count : (d.power + k - k).toNat = z := by omega
    have allZeros : ∀ u ∈ digits ++ List.replicate z 0x30, isDigit u := by
      intro u mem
      rcases mem_append.mp mem with digit | zero
      · exact all u digit
      · exact isDigit_of_mem_zeros zero
    rw [count, readDecimal_digits allZeros, readNat_append, readNat_zeros, reads, zeros]
    simp
  · -- The point stands inside the digits.
    have place : ((digits.drop (d.power + k).toNat).length : ℤ) = -d.power := by
      rw [length_drop, size]
      omega
    rw [readDecimal_point (allTake _) (allDrop _), take_append_drop, reads, place, neg_neg]
  · -- Zeros stand between the point and the digits.
    have allZeros : ∀ u ∈ List.replicate (-(d.power + k)).toNat 0x30 ++ digits, isDigit u := by
      intro u mem
      rcases mem_append.mp mem with zero | digit
      · exact isDigit_of_mem_zeros zero
      · exact all u digit
    have place
        : ((List.replicate (-(d.power + k)).toNat (0x30 : CodeUnit) ++ digits).length : ℤ)
          = -d.power := by
      rw [length_append, length_replicate, size]
      omega
    have zero : ∀ u ∈ ([0x30] : Text), isDigit u := by simp [isDigit]
    have point := readDecimal_point zero allZeros
    rw [singleton_append] at point
    rw [point, place, neg_neg, readNat_append, readNat_append, readNat_zeros, reads]
    simp [readNat]
  · -- One digit and an exponent.
    rw [readDecimal_scientific (notMem_of_digits all (by decide)), readDecimal_digits all, reads]
    congr 2
    omega
  · -- A leading digit, the other digits after the point, and an exponent.
    have free : (0x65 : CodeUnit) ∉ digits.take 1 ++ 0x2E :: digits.drop 1 := by
      have first : (0x65 : CodeUnit) ∉ digits.take 1 := notMem_of_digits (allTake 1) (by decide)
      have rest : (0x65 : CodeUnit) ∉ digits.drop 1 := notMem_of_digits (allDrop 1) (by decide)
      simp only [mem_append, mem_cons, first, rest, or_false, false_or]
      decide
    have place : ((digits.drop 1).length : ℤ) = k - 1 := by
      have nonempty : digits ≠ [] := by
        intro empty
        apply nonzero
        rw [← reads, empty]
        rfl
      have pos := length_pos_of_ne_nil nonempty
      rw [length_drop, size]
      omega
    have grouped := readDecimal_scientific free (d.power + k - 1)
    rw [append_assoc, cons_append] at grouped
    rw [grouped, readDecimal_point (allTake 1) (allDrop 1), take_append_drop, reads, place,
      mul_assoc, ← zpow_add₀ ten]
    congr 2
    omega

def isNumberUnit (u : CodeUnit) : Bool :=
  isDigit u || u == 0x2E || u == 0x65 || u == 0x2B || u == 0x2D

theorem isNumberUnit_of_isDigit (digit : isDigit u) : isNumberUnit u := by
  simp [isNumberUnit, digit]

theorem isNumberUnit_of_mem_exponentText {exponent : ℤ} (mem : u ∈ exponentText exponent)
    : isNumberUnit u := by
  simp only [exponentText, mem_cons] at mem
  rcases mem with rfl | rfl | digit
  · decide
  · split <;> decide
  · exact isNumberUnit_of_isDigit (isDigit_of_mem_digitText digit)

theorem Decimal.isNumberUnit_of_mem_toText (mem : u ∈ d.toText)
    : isNumberUnit u := by
  have digit {v : CodeUnit} (seen : v ∈ digitText d.significand) : isNumberUnit v :=
    isNumberUnit_of_isDigit (isDigit_of_mem_digitText seen)
  have zero {v : CodeUnit} {z : ℕ} (seen : v ∈ List.replicate z 0x30) : isNumberUnit v :=
    isNumberUnit_of_isDigit (isDigit_of_mem_zeros seen)
  unfold toText at mem
  dsimp only at mem
  split_ifs at mem
  · rcases mem_append.mp mem with seen | seen
    · exact digit seen
    · exact zero seen
  · simp only [mem_append, mem_cons] at mem
    rcases mem with seen | rfl | seen
    · exact digit (mem_of_mem_take seen)
    · decide
    · exact digit (mem_of_mem_drop seen)
  · simp only [mem_append, mem_cons] at mem
    rcases mem with rfl | rfl | seen | seen
    · decide
    · decide
    · exact zero seen
    · exact digit seen
  · rcases mem_append.mp mem with seen | seen
    · exact digit seen
    · exact isNumberUnit_of_mem_exponentText seen
  · simp only [mem_append, mem_cons] at mem
    rcases mem with seen | rfl | seen | seen
    · exact digit (mem_of_mem_take seen)
    · decide
    · exact digit (mem_of_mem_drop seen)
    · exact isNumberUnit_of_mem_exponentText seen

theorem digitText_ne_nil {n : ℕ} (nonzero : n ≠ 0) : digitText n ≠ [] := by
  intro empty
  have reads := readNat_digitText n
  rw [empty] at reads
  exact nonzero reads.symm

theorem Decimal.exists_toText_eq_cons (nonzero : d.significand ≠ 0)
    : ∃ u rest, d.toText = u :: rest ∧ isDigit u := by
  obtain ⟨u, ds, put⟩ := exists_cons_of_ne_nil (digitText_ne_nil nonzero)
  have digit : isDigit u := isDigit_of_mem_digitText (put ▸ mem_cons_self)
  unfold toText
  rw [put]
  dsimp only
  split_ifs with integer inside before single
  · exact ⟨u, _, rfl, digit⟩
  · obtain ⟨n, leading⟩ : ∃ n : ℕ, (d.power + (u :: ds).length).toNat = n + 1 :=
      ⟨(d.power + (u :: ds).length).toNat - 1, by omega⟩
    rw [leading]
    exact ⟨u, _, rfl, digit⟩
  · exact ⟨0x30, _, rfl, by decide⟩
  · exact ⟨u, _, rfl, digit⟩
  · exact ⟨u, _, rfl, digit⟩

namespace Number

variable {x : Double}

theorem toText_zero (zero : x.mantissa = 0) : (finite x).toText = [0x30] := by
  simp only [toText, dif_pos zero]
  rfl

theorem toText_nonzero (nonzero : x.mantissa ≠ 0)
    : (finite x).toText = (if x.negative then [0x2D] else []) ++ (x.shortest nonzero).toText := by
  simp only [toText, dif_neg nonzero]

theorem isNumberUnit_of_mem_toText {u : CodeUnit} (mem : u ∈ (finite x).toText)
    : isNumberUnit u := by
  by_cases zero : x.mantissa = 0
  · rw [toText_zero zero, mem_singleton] at mem
    rw [mem]
    decide
  · rw [toText_nonzero zero] at mem
    rcases mem_append.mp mem with sign | body
    · split at sign
      · rw [mem_singleton.mp sign]
        decide
      · cases sign
    · exact Decimal.isNumberUnit_of_mem_toText body

theorem toText_ne_nil (x : Double) : (finite x).toText ≠ [] := by
  by_cases zero : x.mantissa = 0
  · simp [toText_zero zero]
  · obtain ⟨u, rest, put, _⟩ :=
      Decimal.exists_toText_eq_cons (x.significand_ne_zero zero (x.reads_shortest zero))
    simp [toText_nonzero zero, put]

def Same : Number → Number → Prop
  | .finite x, .finite y => x = y ∨ (x.mantissa = 0 ∧ y.mantissa = 0)
  | a, b => a = b

/-- The text of a finite number determines it up to the sign of zero.
Witness: the sign is the first unit, and the rest reads as a decimal, which rounds to only
one magnitude.
-/
theorem same_of_toText_eq {y : Double} (same : (finite x).toText = (finite y).toText)
    : Same (.finite x) (.finite y) := by
  have nonzeroText {z : Double} (nonzero : z.mantissa ≠ 0) (put : (finite z).toText = [0x30])
      : False := by
    have significand := z.significand_ne_zero nonzero (z.reads_shortest nonzero)
    obtain ⟨u, rest, head, digit⟩ := Decimal.exists_toText_eq_cons significand
    have reads := Decimal.readDecimal_toText significand
    rw [toText_nonzero nonzero, head] at put
    split at put
    · simp at put
    · rw [head, ← nil_append (u :: rest), put] at reads
      have value : (z.shortest nonzero).value = 0 := by
        rw [← reads]
        simp [readDecimal, cut, readNat]
      rw [Decimal.value, mul_eq_zero] at value
      rcases value with none | power
      · exact significand (by exact_mod_cast none)
      · exact zpow_ne_zero _ (by norm_num) power
  by_cases zeroX : x.mantissa = 0 <;> by_cases zeroY : y.mantissa = 0
  · exact .inr ⟨zeroX, zeroY⟩
  · exact (nonzeroText zeroY (same ▸ toText_zero zeroX)).elim
  · exact (nonzeroText zeroX (same ▸ toText_zero zeroY)).elim
  · have significandX := x.significand_ne_zero zeroX (x.reads_shortest zeroX)
    have significandY := y.significand_ne_zero zeroY (y.reads_shortest zeroY)
    obtain ⟨u, rest, headX, digitX⟩ := Decimal.exists_toText_eq_cons significandX
    obtain ⟨v, rest', headY, digitY⟩ := Decimal.exists_toText_eq_cons significandY
    have notSign {w : CodeUnit} (digit : isDigit w) : w ≠ 0x2D := by
      rintro rfl
      exact absurd digit (by decide)
    have agree : x.negative = y.negative
        ∧ (x.shortest zeroX).toText = (y.shortest zeroY).toText := by
      rw [toText_nonzero zeroX, toText_nonzero zeroY] at same
      cases signX : x.negative <;> cases signY : y.negative <;>
        simp only [signX, signY, headX, headY, if_true, Bool.false_eq_true, if_false,
          nil_append, cons_append, List.cons.injEq] at same ⊢
      · exact ⟨trivial, same⟩
      · exact absurd same.1 (notSign digitX)
      · exact absurd same.1.symm (notSign digitY)
      · exact ⟨trivial, same.2⟩
    have value : (x.shortest zeroX).value = (y.shortest zeroY).value := by
      rw [← Decimal.readDecimal_toText significandX, ← Decimal.readDecimal_toText significandY,
        agree.2]
    have parts : (x.mantissa, x.exponent) = (y.mantissa, y.exponent) := by
      rw [← x.reads_shortest zeroX, ← y.reads_shortest zeroY, value]
    exact .inl
      (Double.eq_of_parts agree.1 (congrArg fst parts) (congrArg snd parts))

theorem toText_eq_of_same {y : Double} (same : Same (.finite x) (.finite y))
    : (finite x).toText = (finite y).toText := by
  rcases same with rfl | ⟨zeroX, zeroY⟩
  · rfl
  · rw [toText_zero zeroX, toText_zero zeroY]

end Number

end CairnStone.JavaScript
