import CairnStone.JavaScript.Text
import Mathlib.Data.List.Infix

/-! Text as SQLite compares it: by code points, and under `LIKE`, which ignores the case of ASCII
letters.
-/

namespace CairnStone.Data

open JavaScript List

def codePoints : Text → List Nat
  | [] => []
  | [u] => [u.val]
  | first :: second :: rest =>
    if isHighSurrogate first && isLowSurrogate second then
      (0x10000 + (first.val - 0xD800) * 0x400 + (second.val - 0xDC00)) :: codePoints rest
    else
      first.val :: codePoints (second :: rest)

/-- The order of the collation `BINARY`. -/
def binaryLe (a b : Text) : Bool :=
  codePoints a ≤ codePoints b

def foldAscii (c : Nat) : Nat :=
  if 0x41 ≤ c ∧ c ≤ 0x5A then c + 0x20 else c

/-- `%` stands for any characters, `_` for one, and a letter for itself in either case. -/
def matchesLike : (pattern s : List Nat) → Bool
  | [], s => s.isEmpty
  | 0x25 :: pattern, s => s.tails.any (matchesLike pattern)
  | _ :: _, [] => false
  | c :: pattern, x :: rest => (c == 0x5F || foldAscii c == foldAscii x) && matchesLike pattern rest

/-- `s LIKE pattern` -/
def like (pattern s : Text) : Bool :=
  matchesLike (codePoints pattern) (codePoints s)

/-- Code points end before a unit that is no surrogate. Witness: the recursion of `codePoints`. -/
theorem codePoints_append {front : Text} {mark : CodeUnit} {back : Text}
    (plain : isLowSurrogate mark = false ∧ isHighSurrogate mark = false)
    : codePoints (front ++ mark :: back) = codePoints front ++ mark.val :: codePoints back := by
  have alone : codePoints (mark :: back) = mark.val :: codePoints back := by
    cases back with
    | nil => rfl
    | cons u rest => simp [codePoints, plain]
  induction front using codePoints.induct with
  | case1 => exact alone
  | case2 u => simp [codePoints, plain, alone]
  | case3 first second rest pair ih => simp [codePoints, pair, ih]
  | case4 first second rest single ih =>
    simp only [cons_append] at ih
    simp [codePoints, single, ih]

def codeUnits (c : Nat) : Text :=
  if 0x10000 ≤ c then
    [Fin.ofNat 65536 (0xD800 + (c - 0x10000) / 0x400), Fin.ofNat 65536 (0xDC00 + (c - 0x10000) % 0x400)]
  else [Fin.ofNat 65536 c]

/-- Code points determine the string. Witness: the recursion of `codePoints`. -/
theorem flatMap_codePoints (s : Text) : (codePoints s).flatMap codeUnits = s := by
  have single (u : CodeUnit) : codeUnits u.val = [u] := by
    rw [codeUnits, if_neg (by have := u.isLt; omega)]
    exact congrArg ([·]) (Fin.ext (Nat.mod_eq_of_lt u.isLt))
  induction s using codePoints.induct with
  | case1 => rfl
  | case2 u =>
    rw [codePoints, flatMap_singleton]
    exact single u
  | case3 first second rest pair ih =>
    have both := pair
    simp only [isHighSurrogate, isLowSurrogate, Bool.and_eq_true, decide_eq_true_eq, Fin.le_def,
      Fin.lt_def] at both
    obtain ⟨⟨low, high⟩, low', high'⟩ := both
    change 0xD800 ≤ first.val at low
    change first.val < 0xDC00 at high
    change 0xDC00 ≤ second.val at low'
    change second.val < 0xE000 at high'
    have pairUnits
        : codeUnits (0x10000 + (first.val - 0xD800) * 0x400 + (second.val - 0xDC00))
          = [first, second] := by
      rw [codeUnits, if_pos (by omega)]
      refine cons_eq_cons.mpr ⟨Fin.ext ?_, congrArg ([·]) (Fin.ext ?_)⟩
      · simp only [Fin.val_ofNat]
        omega
      · simp only [Fin.val_ofNat]
        omega
    rw [codePoints, if_pos pair, flatMap_cons, ih, pairUnits]
    rfl
  | case4 first second rest alone ih =>
    rw [codePoints, if_neg alone, flatMap_cons, ih, single]
    rfl

/-- Strings that neither comes before the other are one. -/
theorem eq_of_binaryLe {a b : Text} (first : binaryLe a b = true) (second : binaryLe b a = true)
    : a = b := by
  have same : codePoints a = codePoints b :=
    le_antisymm (decide_eq_true_eq.mp first) (decide_eq_true_eq.mp second)
  rw [← flatMap_codePoints a, same, flatMap_codePoints]

/-- A pattern that ends in `%` matches every string that begins with what comes before.
Witness: induction on the pattern, each of whose characters matches itself.
-/
theorem matchesLike_self (front back : List Nat)
    : matchesLike (front ++ [0x25]) (front ++ back) = true := by
  induction front with
  | nil =>
    refine any_eq_true.mpr ⟨[], ?_, rfl⟩
    exact (mem_tails _ _).mpr (nil_suffix)
  | cons c front ih =>
    by_cases anything : c = 0x25
    · subst anything
      refine any_eq_true.mpr ⟨front ++ back, ?_, ih⟩
      exact (mem_tails _ _).mpr (suffix_cons _ _)
    · simp [matchesLike, ih]

end CairnStone.Data
