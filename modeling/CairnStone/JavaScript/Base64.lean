import CairnStone.JavaScript.Text
import Mathlib.Data.List.DropRight
import Mathlib.Tactic.IntervalCases

/-! Base 64: `btoa` and `atob`, and the URL-safe form without padding. Bytes are numbers below 256. -/

namespace CairnStone.JavaScript

/-- The bits of some bytes, in groups of six. The last group is filled up with zeros. -/
def sextets : List Nat → List Nat
  | [] => []
  | [a] => [a / 4, a % 4 * 16]
  | [a, b] => [a / 4, a % 4 * 16 + b / 16, b % 16 * 4]
  | a :: b :: c :: rest =>
    a / 4 :: (a % 4 * 16 + b / 16) :: (b % 16 * 4 + c / 64) :: c % 64 :: sextets rest

/-- The bytes that groups of six bits form. Bits that are left over are dropped. -/
def joinSextets : List Nat → List Nat
  | [] => []
  | [_] => []
  | [a, b] => [a * 4 + b / 16]
  | [a, b, c] => [a * 4 + b / 16, b % 16 * 16 + c / 4]
  | a :: b :: c :: d :: rest =>
    (a * 4 + b / 16) :: (b % 16 * 16 + c / 4) :: (c % 4 * 64 + d) :: joinSextets rest

def base64Digit (n : Nat) : CodeUnit :=
  Fin.ofNat 65536
    (if n < 26 then 0x41 + n else if n < 52 then 0x61 + (n - 26)
      else if n < 62 then 0x30 + (n - 52) else if n = 62 then 0x2B else 0x2F)

def base64Value (u : CodeUnit) : Option Nat :=
  if isUpper u then some (u.val - 0x41)
  else if isLower u then some (u.val - 0x61 + 26)
  else if isDigit u then some (u.val - 0x30 + 52)
  else if u = 0x2B then some 62
  else if u = 0x2F then some 63
  else none

/-- The URL-safe alphabet writes `-` for `+` and `_` for the slash. -/
def urlSafeUnit (u : CodeUnit) : CodeUnit :=
  if u = 0x2B then 0x2D else if u = 0x2F then 0x5F else u

def standardUnit (u : CodeUnit) : CodeUnit :=
  if u = 0x2D then 0x2B else if u = 0x5F then 0x2F else u

/-- ASCII whitespace, which `atob` skips. -/
def isAsciiWhiteSpace (u : CodeUnit) : Bool :=
  u == 0x09 || u == 0x0A || u == 0x0C || u == 0x0D || u == 0x20

def btoa (bytes : List Nat) : Text :=
  (sextets bytes).map base64Digit ++ List.replicate ((3 - bytes.length % 3) % 3) 0x3D

/-- One or two final padding characters are taken off, if the length is a multiple of four. -/
def dropPadding (data : Text) : Text :=
  if data.length % 4 = 0 ∧ data.getLast? = some 0x3D then
    if data.dropLast.getLast? = some 0x3D then data.dropLast.dropLast else data.dropLast
  else data

def atob (s : Text) : Option (List Nat) :=
  let data := dropPadding (s.filter (fun u => !isAsciiWhiteSpace u))
  if data.length % 4 = 1 then none else (data.mapM base64Value).map joinSextets

/-- `btoa`, in the URL-safe alphabet and without the padding. -/
def toBase64Url (bytes : List Nat) : Text :=
  ((btoa bytes).map urlSafeUnit).rdropWhile (· == 0x3D)

def padBase64Url (s : Text) : Text :=
  s.map standardUnit ++ List.replicate ((4 - s.length % 4) % 4) 0x3D

end CairnStone.JavaScript
