import CairnStone.JavaScript.NumberText

/-! The leaves of `JSON.stringify`: quoted strings and the text of other primitives. A quoted
string can be split off the front of any text and read back.
-/

namespace CairnStone.JavaScript

open List Nat

def hexDigit (n : ℕ) : CodeUnit :=
  Fin.ofNat 65536 (if n < 10 then 0x30 + n else 0x57 + n)

/-- `\uXXXX` -/
def unicodeEscape (u : CodeUnit) : Text :=
  [0x5C, 0x75, hexDigit (u.val / 0x1000 % 16), hexDigit (u.val / 0x100 % 16),
    hexDigit (u.val / 0x10 % 16), hexDigit (u.val % 16)]

def isSurrogate (u : CodeUnit) : Bool :=
  isHighSurrogate u || isLowSurrogate u

/-- How `JSON.stringify` writes a code unit that is not half of a surrogate pair. -/
def quoteUnit (u : CodeUnit) : Text :=
  if u = 0x08 then [0x5C, 0x62]
  else if u = 0x09 then [0x5C, 0x74]
  else if u = 0x0A then [0x5C, 0x6E]
  else if u = 0x0C then [0x5C, 0x66]
  else if u = 0x0D then [0x5C, 0x72]
  else if u = 0x22 then [0x5C, 0x22]
  else if u = 0x5C then [0x5C, 0x5C]
  else if u < 0x20 ∨ isSurrogate u then unicodeEscape u
  else [u]

def quoteUnits : Text → Text
  | [] => []
  | [u] => quoteUnit u
  | first :: second :: rest =>
    if isHighSurrogate first && isLowSurrogate second then
      first :: second :: quoteUnits rest
    else
      quoteUnit first ++ quoteUnits (second :: rest)

/-- `JSON.stringify` of a string. -/
def quote (s : Text) : Text :=
  0x22 :: (quoteUnits s ++ [0x22])

/-- The value of a hexadecimal digit. -/
def unhex (u : CodeUnit) : ℕ :=
  if u.val < 0x3A then u.val - 0x30 else u.val - 0x57

def unescapeUnit (u : CodeUnit) : CodeUnit :=
  if u = 0x62 then 0x08
  else if u = 0x74 then 0x09
  else if u = 0x6E then 0x0A
  else if u = 0x66 then 0x0C
  else if u = 0x72 then 0x0D
  else u

def unquoteUnit : Text → Option (CodeUnit × Text)
  | [] => none
  | u :: rest =>
    if u = 0x5C then
      match rest with
      | [] => none
      | kind :: rest =>
        if kind = 0x75 then
          match rest with
          | a :: b :: c :: d :: rest =>
            some
              (Fin.ofNat 65536
                (unhex a * 0x1000 + unhex b * 0x100 + unhex c * 0x10 + unhex d),
                rest)
          | _ => none
        else
          some (unescapeUnit kind, rest)
    else
      some (u, rest)

def Unquotes (written : Text) (u : CodeUnit) : Prop :=
  (∀ rest, unquoteUnit (written ++ rest) = some (u, rest)) ∧ written.head? ≠ some 0x22

theorem unhex_hexDigit {n : ℕ} (digit : n < 16) : unhex (hexDigit n) = n := by
  unfold unhex hexDigit
  interval_cases n <;> rfl

theorem unquotes_unicodeEscape (u : CodeUnit) : Unquotes (unicodeEscape u) u := by
  refine ⟨fun rest => ?_, by simp [unicodeEscape]⟩
  have reads
      : unhex (hexDigit (u.val / 0x1000 % 16)) * 0x1000
          + unhex (hexDigit (u.val / 0x100 % 16)) * 0x100
          + unhex (hexDigit (u.val / 0x10 % 16)) * 0x10 + unhex (hexDigit (u.val % 16))
        = u.val := by
    rw [unhex_hexDigit (mod_lt _ (by norm_num)), unhex_hexDigit (mod_lt _ (by norm_num)),
      unhex_hexDigit (mod_lt _ (by norm_num)), unhex_hexDigit (mod_lt _ (by norm_num))]
    have bound := u.isLt
    omega
  simp only [unicodeEscape, cons_append, nil_append, unquoteUnit, if_true, reads]
  simp

theorem unquotes_literal {u : CodeUnit} (noQuote : u ≠ 0x22) (noEscape : u ≠ 0x5C)
    : Unquotes [u] u :=
  ⟨fun rest => by simp [unquoteUnit, noEscape], by simpa using noQuote⟩

/-- Every written code unit is read back. Witness: one case for each escape. -/
theorem unquotes_quoteUnit (u : CodeUnit) : Unquotes (quoteUnit u) u := by
  have short {kind v : CodeUnit} (plain : kind ≠ 0x75) (stands : unescapeUnit kind = v)
      : Unquotes [0x5C, kind] v :=
    ⟨fun rest => by simp [unquoteUnit, plain, stands], by simp⟩
  unfold quoteUnit
  split_ifs with h1 h2 h3 h4 h5 h6 h7 special
  · subst h1
    exact short (by decide) (by decide)
  · subst h2
    exact short (by decide) (by decide)
  · subst h3
    exact short (by decide) (by decide)
  · subst h4
    exact short (by decide) (by decide)
  · subst h5
    exact short (by decide) (by decide)
  · subst h6
    exact short (by decide) (by decide)
  · subst h7
    exact short (by decide) (by decide)
  · exact unquotes_unicodeEscape u
  · exact unquotes_literal h6 h7

/-- The inside of a quoted string is a sequence of written code units.
Witness: induction along the pairing of surrogates.
-/
theorem exists_written (s : Text)
    : ∃ put, quoteUnits s = put.flatten ∧ List.Forall₂ Unquotes put s := by
  have surrogate {u : CodeUnit} (isOne : isSurrogate u) : u ≠ 0x22 ∧ u ≠ 0x5C := by
    constructor <;>
      · rintro rfl
        exact absurd isOne (by decide)
  induction s using quoteUnits.induct with
  | case1 => exact ⟨[], rfl, .nil⟩
  | case2 u => exact ⟨[quoteUnit u], by simp [quoteUnits], .cons (unquotes_quoteUnit u) .nil⟩
  | case3 first second rest paired ih =>
    obtain ⟨put, spelled, unquotes⟩ := ih
    rw [Bool.and_eq_true] at paired
    have high := surrogate (u := first) (by simp [isSurrogate, paired.1])
    have low := surrogate (u := second) (by simp [isSurrogate, paired.2])
    refine ⟨[first] :: [second] :: put, ?_,
      .cons (unquotes_literal high.1 high.2) (.cons (unquotes_literal low.1 low.2) unquotes)⟩
    simp [quoteUnits, paired, spelled]
  | case4 first second rest single ih =>
    obtain ⟨put, spelled, unquotes⟩ := ih
    refine ⟨quoteUnit first :: put, ?_, .cons (unquotes_quoteUnit first) unquotes⟩
    rw [quoteUnits, if_neg single, spelled, flatten_cons]

theorem Unquotes.ne_quote {put : Text} {u : CodeUnit} (unquotes : Unquotes put u)
    (before after : Text)
    : put ++ before ≠ 0x22 :: after := by
  intro same
  cases put with
  | nil => exact absurd (unquotes.1 []) (by simp [unquoteUnit])
  | cons v rest =>
    obtain ⟨rfl, _⟩ := cons.inj same
    exact unquotes.2 rfl

/-- A sequence of written code units that ends at a quote is read back unambiguously. -/
theorem eq_of_written_eq {put written' : List Text} {s s' r r' : Text}
    (unquotes : List.Forall₂ Unquotes put s)
    (unquotes' : List.Forall₂ Unquotes written' s')
    (same : put.flatten ++ 0x22 :: r = written'.flatten ++ 0x22 :: r')
    : s = s' ∧ r = r' := by
  induction unquotes generalizing written' s' with
  | nil =>
    cases unquotes' with
    | nil => exact ⟨rfl, (cons.inj same).2⟩
    | cons head _ =>
      rw [flatten_cons, append_assoc] at same
      exact absurd same.symm (head.ne_quote _ _)
  | @cons w u put s head rest ih =>
    cases unquotes' with
    | nil =>
      rw [flatten_cons, append_assoc] at same
      exact absurd same (head.ne_quote _ _)
    | @cons w' u' written' s' head' rest' =>
      rw [flatten_cons, flatten_cons, append_assoc, append_assoc] at same
      have first := head.1 (put.flatten ++ 0x22 :: r)
      rw [same, head'.1, Option.some.injEq, Prod.mk.injEq] at first
      obtain ⟨tail, remainder⟩ := ih rest' first.2.symm
      exact ⟨by rw [first.1, tail], remainder⟩

/-- A quoted string can be split off the front of any text. -/
theorem quote_append_inj {s s' r r' : Text} (same : quote s ++ r = quote s' ++ r')
    : s = s' ∧ r = r' := by
  obtain ⟨put, spelled, unquotes⟩ := exists_written s
  obtain ⟨written', spelled', unquotes'⟩ := exists_written s'
  simp only [quote, spelled, spelled', cons_append, append_assoc, nil_append,
    List.cons.injEq, true_and] at same
  exact eq_of_written_eq unquotes unquotes' same

end CairnStone.JavaScript
