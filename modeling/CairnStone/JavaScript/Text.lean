import Mathlib.Data.List.Lex
import Mathlib.Data.List.Nodup
import Mathlib.Order.Fin.Basic

/-! JavaScript strings as sequences of UTF-16 code units, and anchored patterns of the form
`/^prefix[class]{least,most}$/`.
-/

namespace CairnStone.JavaScript

abbrev CodeUnit := Fin 65536

/-- There are code units, so numerals denote them. -/
instance codeUnitNeZero : @NeZero Nat Zero.ofOfNat0 65536 :=
  Nat.instNeZeroSucc

/-- A JavaScript string: any sequence of code units, lone surrogates included. -/
abbrev Text := List CodeUnit

instance lawfulCodeUnit : @LawfulBEq CodeUnit instBEqOfDecidableEq :=
  inferInstance

instance lawfulText : @LawfulBEq Text List.instBEq :=
  inferInstance

def codeUnits (c : Char) : Text :=
  if c.toNat < 0x10000 then
    [Fin.ofNat 65536 c.toNat]
  else
    [Fin.ofNat 65536 (0xD800 + (c.toNat - 0x10000) / 0x400),
      Fin.ofNat 65536 (0xDC00 + (c.toNat - 0x10000) % 0x400)]

/-- The JavaScript string of a literal. -/
def text (literal : String) : Text :=
  literal.toList.flatMap codeUnits

def isHighSurrogate (u : CodeUnit) : Bool := 0xD800 ≤ u && u < 0xDC00

def isLowSurrogate (u : CodeUnit) : Bool := 0xDC00 ≤ u && u < 0xE000

/-- `String.prototype.toWellFormed`, which is also what a UTF-8 round trip makes of a string:
every lone surrogate becomes U+FFFD.
-/
def toWellFormed : Text → Text
  | [] => []
  | [u] => if isHighSurrogate u || isLowSurrogate u then [0xFFFD] else [u]
  | first :: second :: rest =>
    if isHighSurrogate first && isLowSurrogate second then
      first :: second :: toWellFormed rest
    else if isHighSurrogate first || isLowSurrogate first then
      0xFFFD :: toWellFormed (second :: rest)
    else
      first :: toWellFormed (second :: rest)

def isDigit (u : CodeUnit) : Bool := 0x30 ≤ u && u ≤ 0x39

def isUpper (u : CodeUnit) : Bool := 0x41 ≤ u && u ≤ 0x5A

def isLower (u : CodeUnit) : Bool := 0x61 ≤ u && u ≤ 0x7A

/-- `[A-Za-z0-9_-]` -/
def isWord (u : CodeUnit) : Bool :=
  isUpper u || isLower u || isDigit u || u == 0x5F || u == 0x2D

/-- An anchored pattern: a fixed prefix and a bounded run of one character class. -/
structure Pattern where
  start : Text
  unit : CodeUnit → Bool
  (least most : Nat)

namespace Pattern

def test (pattern : Pattern) (s : Text) : Bool :=
  pattern.start.isPrefixOf s
  && pattern.least ≤ s.length - pattern.start.length
  && s.length - pattern.start.length ≤ pattern.most
  && (s.drop pattern.start.length).all pattern.unit

end Pattern

end CairnStone.JavaScript

/-! UTF-8: the bytes of a string. -/

namespace CairnStone.JavaScript

def utf8Point (c : Nat) : List Nat :=
  if c < 0x80 then [c]
  else if c < 0x800 then [0xC0 + c / 0x40, 0x80 + c % 0x40]
  else if c < 0x10000 then [0xE0 + c / 0x1000, 0x80 + c / 0x40 % 0x40, 0x80 + c % 0x40]
  else
    [0xF0 + c / 0x40000, 0x80 + c / 0x1000 % 0x40, 0x80 + c / 0x40 % 0x40, 0x80 + c % 0x40]

def scalarValues : Text → List Nat
  | [] => []
  | [u] => [if isHighSurrogate u || isLowSurrogate u then 0xFFFD else u.val]
  | first :: second :: rest =>
    if isHighSurrogate first && isLowSurrogate second then
      (0x10000 + (first.val - 0xD800) * 0x400 + (second.val - 0xDC00)) :: scalarValues rest
    else if isHighSurrogate first || isLowSurrogate first then
      0xFFFD :: scalarValues (second :: rest)
    else first.val :: scalarValues (second :: rest)

/-- `TextEncoder.encode` -/
def utf8Bytes (s : Text) : List Nat :=
  (scalarValues s).flatMap utf8Point

end CairnStone.JavaScript
