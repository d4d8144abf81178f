import CairnStone.JavaScript.NumberText
import CairnStone.JavaScript.TextMethods

/-! The policy for client metadata URLs: which hosts the metadata fetch may be sent to.
-/

namespace CairnStone.ClientMetadata

open JavaScript List

/-- The addresses, `width` bits each, whose first `length` bits are those of `base` -/
def InPrefix (width base length x : Nat) : Prop :=
  x / 2 ^ (width - length) = base / 2 ^ (width - length)

instance decidableInPrefix (width base length x : Nat) : Decidable (InPrefix width base length x) :=
  inferInstanceAs (Decidable (_ = _))

structure Ipv4 where
  a : Fin 256
  b : Fin 256
  c : Fin 256
  d : Fin 256
deriving DecidableEq

namespace Ipv4

def value (x : Ipv4) : Nat :=
  ((x.a * 256 + x.b) * 256 + x.c) * 256 + x.d

/-- Unspecified, private, carrier-grade NAT, loopback and link-local addresses -/
def internalRanges : List (Ipv4 × Nat) :=
  [(⟨0, 0, 0, 0⟩, 8), (⟨10, 0, 0, 0⟩, 8), (⟨100, 64, 0, 0⟩, 10), (⟨127, 0, 0, 0⟩, 8),
    (⟨169, 254, 0, 0⟩, 16), (⟨172, 16, 0, 0⟩, 12), (⟨192, 168, 0, 0⟩, 16)]

def Internal (value : Nat) : Prop :=
  ∃ range ∈ internalRanges, InPrefix 32 range.1.value range.2 value

def decimal (n : Nat) : Text :=
  if n = 0 then [0x30] else digitText n

def toText (x : Ipv4) : Text :=
  decimal x.a ++ 0x2E :: (decimal x.b ++ 0x2E :: (decimal x.c ++ 0x2E :: decimal x.d))

end Ipv4

structure Ipv6 where
  pieces : List Nat
  eight : pieces.length = 8
  small : ∀ piece ∈ pieces, piece < 65536

namespace Ipv6

def value (x : Ipv6) : Nat :=
  x.pieces.foldl (fun value piece => value * 65536 + piece) 0

/-- Unspecified, loopback, unique-local and link-local addresses, and those that stand for an internal
IPv4 address: IPv4-compatible, IPv4-mapped, translated and 6to4 ones.
-/
def Internal (x : Ipv6) : Prop :=
  InPrefix 128 0 128 x.value ∨ InPrefix 128 1 128 x.value
  ∨ InPrefix 128 (0xFC00 * 2 ^ 112) 7 x.value
  ∨ InPrefix 128 (0xFE80 * 2 ^ 112) 10 x.value
  ∨ (∃ base ∈ [0, 0xFFFF * 2 ^ 32, 0x64FF9B * 2 ^ 96],
      InPrefix 128 base 96 x.value ∧ Ipv4.Internal (x.value % 2 ^ 32))
  ∨ InPrefix 128 (0x2002 * 2 ^ 112) 16 x.value ∧ Ipv4.Internal (x.value / 2 ^ 80 % 2 ^ 32)

def hexUnit (d : Nat) : CodeUnit :=
  Fin.ofNat 65536 (if d < 10 then 0x30 + d else 0x57 + d)

def hexText (n : Nat) : Text :=
  if n = 0 then [0x30] else (Nat.digits 16 n).reverse.map hexUnit

/-- How many zero pieces stand from an index on -/
def zerosAt (pieces : List Nat) (i : Nat) : Nat :=
  ((pieces.drop i).takeWhile (· == 0)).length

/-- Where the first longest run of two zero pieces or more starts -/
def compress (pieces : List Nat) : Option Nat :=
  ((List.range 8).maxOn? (zerosAt pieces)).filter (fun i => 1 < zerosAt pieces i)

def joined : List Nat → Text
  | [] => []
  | [piece] => hexText piece
  | piece :: rest => hexText piece ++ 0x3A :: joined rest

def toText (x : Ipv6) : Text :=
  match compress x.pieces with
  | none => joined x.pieces
  | some i =>
    joined (x.pieces.take i) ++ text "::" ++ joined (x.pieces.drop (i + zerosAt x.pieces i))

end Ipv6

inductive Host where
  | domain (name : Text)
  | ipv4 (address : Ipv4)
  | ipv6 (address : Ipv6)

namespace Host

def hostname : Host → Text
  | .domain name => name
  | .ipv4 address => address.toText
  | .ipv6 address => 0x5B :: (address.toText ++ [0x5D])

/-- `localhost` or a name below it -/
def IsLocal (name : Text) : Prop :=
  name = text "localhost" ∨ text ".localhost" <:+ name

/-- What no metadata may be fetched from -/
def Internal : Host → Prop
  | .domain name => IsLocal name ∨ ∃ absolute, name = absolute ++ [0x2E] ∧ IsLocal absolute
  | .ipv4 address => Ipv4.Internal address.value
  | .ipv6 address => address.Internal

/-- The internal hosts that the policy does not know -/
def Escapes : Host → Prop
  | .domain name => ∃ absolute, name = absolute ++ [0x2E] ∧ IsLocal absolute
  | .ipv4 _ => False
  | .ipv6 address => address.Internal ∧ hostname (.ipv6 address) ≠ text "[::1]"

end Host

/-- What the URL parser returns. It lower-cases the domain names of `https` URLs. -/
structure Url where
  protocol : Text
  username : Text
  password : Text
  host : Host
  lower : protocol = text "https:" → ∀ name, host = .domain name → ∀ u ∈ name, isUpper u = false

/-- `String.prototype.toLowerCase`; the hosts of `https` URLs are ASCII. -/
def toLowerCase (s : Text) : Text :=
  s.map (fun u => if isUpper u then u + 0x20 else u)

/-- `host.match(/^(\d+)\.(\d+)\.(\d+)\.(\d+)$/)`, with the numbers of the first two groups -/
def dottedDecimal (host : Text) : Option (Nat × Nat) :=
  match splitAtUnit 0x2E host with
  | [a, b, c, d] =>
    if [a, b, c, d].all (fun group => group != [] && group.all isDigit) then
      some (readNat a, readNat b)
    else none
  | _ => none

def isPrivateOrLinkLocalHostname (hostname : Text) : Bool :=
  let host := toLowerCase hostname
  if host = [] then true
  else if host = text "localhost" ∨ text ".localhost" <:+ host
      ∨ host = text "metadata.google.internal" then true
  else if host = text "0.0.0.0" ∨ host = text "::1" ∨ host = text "[::1]" then true
  else
    match dottedDecimal host with
    | some (a, b) =>
      a == 10 || a == 127 || a == 0 || a == 169 && b == 254
        || a == 172 && 16 ≤ b && b ≤ 31 || a == 192 && b == 168
        || a == 100 && 64 ≤ b && b ≤ 127
    | none => false

-- Host texts

theorem toLowerCase_of_lower (lower : ∀ u ∈ s, isUpper u = false) : toLowerCase s = s := by
  unfold toLowerCase
  conv_rhs => rw [← map_id s]
  exact map_congr_left (fun u mem => if_neg (by simp [lower u mem]))

/-- Only letters are written from letters. -/
theorem eq_of_toLowerCase {s t : Text} (plain : t.any isLower = false)
    (same : toLowerCase s = t)
    : s = t := by
  subst same
  refine (map_id s).symm.trans (map_congr_left (fun u mem => ?_))
  have unit := any_eq_false.mp plain _ (mem_map_of_mem mem)
  split
  · next upper =>
    rw [if_pos upper] at unit
    simp [isUpper, isLower, Fin.le_def, Fin.val_add] at upper unit
    omega
  · rfl

theorem splitAtUnit_free (free : mark ∉ group) : splitAtUnit mark group = [group] := by
  induction group with
  | nil => rfl
  | cons u rest ih =>
    have other := ne_of_not_mem_cons free
    rw [splitAtUnit, if_neg (Ne.symm other), ih (not_mem_of_not_mem_cons free)]

theorem splitAtUnit_append (free : mark ∉ group) (rest : Text)
    : splitAtUnit mark (group ++ mark :: rest) = group :: splitAtUnit mark rest := by
  induction group with
  | nil => simp [splitAtUnit]
  | cons u group ih =>
    have other := ne_of_not_mem_cons free
    rw [cons_append, splitAtUnit, if_neg (Ne.symm other),
      ih (not_mem_of_not_mem_cons free)]

/-- A text that ends in the mark has an empty last part. -/
theorem splitAtUnit_concat (mark : CodeUnit) (s : Text)
    : ∃ first later, splitAtUnit mark (s ++ [mark]) = first :: (later ++ [[]]) := by
  induction s with
  | nil => exact ⟨[], [], by simp [splitAtUnit]⟩
  | cons u s ih =>
    obtain ⟨first, later, parts⟩ := ih
    rw [cons_append, splitAtUnit, parts]
    split
    · exact ⟨[], first :: later, rfl⟩
    · exact ⟨u :: first, later, rfl⟩

theorem dottedDecimal_absolute (s : Text) : dottedDecimal (s ++ [0x2E]) = none := by
  obtain ⟨first, later, parts⟩ := splitAtUnit_concat 0x2E s
  unfold dottedDecimal
  rw [parts]
  split
  · next a b c d four =>
    have last : [] ∈ [a, b, c, d] := by
      rw [← four]
      simp
    refine if_neg (fun all => ?_)
    simpa using all_eq_true.mp all [] last
  · rfl

theorem dottedDecimal_of_bracket (s : Text) : dottedDecimal (0x5B :: s) = none := by
  unfold dottedDecimal
  rw [splitAtUnit, if_neg (by decide)]
  split
  · next a b c d four =>
    refine if_neg (fun all => ?_)
    have digits := all_eq_true.mp all a (.head _)
    split at four
    · cases four
    · cases (cons.inj four).1
      simp [isDigit] at digits
  · rfl

/-- A text passes by its last unit, where it is neither `[::1]` nor dotted. -/
theorem passes_of_last {name : Text} {u : CodeUnit} (last : (toLowerCase name).getLast? = some u)
    (other : u ∉ [0x30, 0x31, 0x6C, 0x74]) (beyond : toLowerCase name ≠ text "[::1]")
    (undotted : dottedDecimal (toLowerCase name) = none)
    : isPrivateOrLinkLocalHostname name = false := by
  unfold isPrivateOrLinkLocalHostname
  generalize toLowerCase name = host at *
  have differs {literal : Text}
      (apart : literal.getLast?.any ([0x30, 0x31, 0x6C, 0x74].contains ·) = true)
      : ¬ literal <:+ host := by
    rintro ⟨front, rfl⟩
    obtain ⟨v, ends, listed⟩ := (Option.any_eq_true _ _).mp apart
    have same : v = u := by simpa [getLast?_append, ends] using last
    exact other (same ▸ contains_iff_mem.mp listed)
  have unequal {literal : Text}
      (apart : literal.getLast?.any ([0x30, 0x31, 0x6C, 0x74].contains ·) = true)
      : host ≠ literal :=
    fun same => differs apart (same ▸ suffix_refl _)
  have filled : host ≠ [] := by
    rintro rfl
    cases last
  simp only [undotted]
  rw [if_neg filled, if_neg, if_neg]
  · simp only [not_or]
    exact ⟨unequal (by decide +kernel), unequal (by decide +kernel), beyond⟩
  · simp only [not_or]
    exact ⟨unequal (by decide +kernel), differs (by decide +kernel), unequal (by decide +kernel)⟩

namespace Ipv4

theorem isDigit_of_mem_decimal (mem : u ∈ decimal n) : isDigit u := by
  unfold decimal at mem
  split at mem
  · cases mem_singleton.mp mem
    decide
  · exact isDigit_of_mem_digitText mem

theorem decimal_ne_nil (n : Nat) : decimal n ≠ [] := by
  unfold decimal
  split
  · exact cons_ne_nil _ _
  · next nonzero => exact digitText_ne_nil nonzero

theorem readNat_decimal (n : Nat) : readNat (decimal n) = n := by
  unfold decimal
  split
  · next zero =>
    rw [zero]
    rfl
  · exact readNat_digitText n

theorem dottedDecimal_toText (x : Ipv4) : dottedDecimal x.toText = some (x.a.val, x.b.val) := by
  have free (n : Nat) : (0x2E : CodeUnit) ∉ decimal n :=
    notMem_of_digits (fun _ mem => isDigit_of_mem_decimal mem) (by decide)
  have group (n : Nat) : (decimal n != [] && (decimal n).all isDigit) = true := by
    have digits : (decimal n).all isDigit = true :=
      all_eq_true.mpr (fun _ mem => isDigit_of_mem_decimal mem)
    simp [decimal_ne_nil, digits]
  unfold dottedDecimal toText
  rw [splitAtUnit_append (free _), splitAtUnit_append (free _), splitAtUnit_append (free _),
    splitAtUnit_free (free _)]
  simp only [all_cons, all_nil, group, Bool.and_self, if_true, readNat_decimal]

theorem octets_of_internal {x : Ipv4} (inside : Internal x.value)
    : x.a.val = 0 ∨ x.a.val = 10 ∨ x.a.val = 100 ∧ 64 ≤ x.b.val ∧ x.b.val ≤ 127 ∨ x.a.val = 127
      ∨ x.a.val = 169 ∧ x.b.val = 254 ∨ x.a.val = 172 ∧ 16 ≤ x.b.val ∧ x.b.val ≤ 31
      ∨ x.a.val = 192 ∧ x.b.val = 168 := by
  obtain ⟨range, listed, within⟩ := inside
  have b := x.b.isLt
  have c := x.c.isLt
  have d := x.d.isLt
  simp only [internalRanges, mem_cons, not_mem_nil, or_false] at listed
  rcases listed with rfl | rfl | rfl | rfl | rfl | rfl | rfl <;>
    · simp [InPrefix, value] at within
      omega

theorem denied_of_internal {x : Ipv4} (inside : Internal x.value)
    : isPrivateOrLinkLocalHostname x.toText = true := by
  have lower : toLowerCase x.toText = x.toText := by
    refine toLowerCase_of_lower (fun u mem => ?_)
    have plain : isDigit u ∨ u = 0x2E := by
      simp only [toText, mem_append, mem_cons] at mem
      rcases mem with digit | dot | digit | dot | digit | dot | digit
      all_goals first | exact .inr dot | exact .inl (isDigit_of_mem_decimal digit)
    rcases plain with digit | rfl
    · simp [isDigit, isUpper, Fin.le_def] at digit ⊢
      omega
    · decide
  have octets := octets_of_internal inside
  unfold isPrivateOrLinkLocalHostname
  simp only [lower, dottedDecimal_toText]
  split
  · rfl
  split
  · rfl
  split
  · rfl
  · simp
    omega

end Ipv4

namespace Ipv6

/-- Every IPv6 literal other than `[::1]` passes. -/
theorem passes {x : Ipv6} (other : (Host.ipv6 x).hostname ≠ text "[::1]")
    : isPrivateOrLinkLocalHostname (Host.ipv6 x).hostname = false := by
  have brackets
      : toLowerCase (Host.ipv6 x).hostname = 0x5B :: (toLowerCase x.toText ++ [0x5D]) := by
    simp [Host.hostname, toLowerCase, isUpper]
  refine passes_of_last (u := 0x5D) ?_ (by decide) ?_ ?_
  · rw [brackets, getLast?_cons, getLast?_append]
    rfl
  · exact fun same => other (eq_of_toLowerCase (by decide +kernel) same)
  · rw [brackets]
    exact dottedDecimal_of_bracket _

end Ipv6

variable (parse : Text → Option Url)

def validateCimdClientIdUrl (clientId : Text) : Except String Url :=
  match parse clientId with
  | none => .error "cimd_client_id_not_url"
  | some parsed =>
    if parsed.protocol ≠ text "https:" then .error "cimd_https_required"
    else if [text "file:", text "gopher:", text "data:", text "http:"].contains parsed.protocol then
      .error "cimd_scheme_forbidden"
    else if isPrivateOrLinkLocalHostname parsed.host.hostname then .error "cimd_ssrf_denied"
    else if parsed.username ≠ [] ∨ parsed.password ≠ [] then .error "cimd_userinfo_forbidden"
    else .ok parsed

theorem validateCimdClientIdUrl_eq_ok {parse : Text → Option Url} {clientId : Text} {url : Url}
    : validateCimdClientIdUrl parse clientId = .ok url
      ↔ parse clientId = some url ∧ url.protocol = text "https:"
        ∧ isPrivateOrLinkLocalHostname url.host.hostname = false
        ∧ url.username = [] ∧ url.password = [] := by
  have allowed
      : [text "file:", text "gopher:", text "data:", text "http:"].contains (text "https:") = false := by
    decide +kernel
  unfold validateCimdClientIdUrl
  cases parse clientId with
  | none => simp
  | some parsed =>
    by_cases secure : parsed.protocol = text "https:"
    · simp only [secure, allowed]
      split_ifs <;> grind
    · grind

namespace Host

variable {host : Host} (lower : ∀ name, host = .domain name → ∀ u ∈ name, isUpper u = false)

theorem Escapes.internal (escapes : host.Escapes) : host.Internal := by
  cases host with
  | domain name => exact .inr escapes
  | ipv4 address => exact escapes.elim
  | ipv6 address => exact escapes.1

include lower

theorem Escapes.passes (escapes : host.Escapes)
    : isPrivateOrLinkLocalHostname host.hostname = false := by
  cases host with
  | domain name =>
    obtain ⟨absolute, rfl, _⟩ := escapes
    have same := toLowerCase_of_lower (lower _ rfl)
    refine passes_of_last (u := 0x2E) ?_ (by decide) ?_ ?_
    · rw [hostname, same, getLast?_concat]
    · rw [hostname, same]
      intro dotted
      have last := congrArg List.getLast? dotted
      rw [getLast?_concat] at last
      exact absurd last (by decide +kernel)
    · rw [hostname, same]
      exact dottedDecimal_absolute absolute
  | ipv4 address => exact escapes.elim
  | ipv6 address => exact Ipv6.passes escapes.2

theorem Internal.escapes (internal : host.Internal)
    (passes : isPrivateOrLinkLocalHostname host.hostname = false)
    : host.Escapes := by
  cases host with
  | domain name =>
    refine internal.resolve_left (fun named => ?_)
    have denied : isPrivateOrLinkLocalHostname name = true := by
      unfold isPrivateOrLinkLocalHostname
      simp only [toLowerCase_of_lower (lower _ rfl)]
      split
      · rfl
      · exact if_pos (named.imp_right .inl)
    exact absurd passes (ne_false_of_eq_true denied)
  | ipv4 address => exact absurd passes (ne_false_of_eq_true (Ipv4.denied_of_internal internal))
  | ipv6 address =>
    refine ⟨internal, fun loops => ?_⟩
    rw [loops] at passes
    exact absurd passes (by decide +kernel)

end Host

/-- An id is never accepted for an internal host exactly where the URL is none of `https` without user
information whose host is an IPv6 literal other than `::1` or a local name with a trailing dot.
-/
theorem avoidsInternal_iff (clientId : Text)
    : (∀ url, validateCimdClientIdUrl parse clientId = .ok url → ¬ url.host.Internal)
      ↔ ∀ url, parse clientId = some url → url.protocol = text "https:" → url.username = []
        → url.password = [] → ¬ url.host.Escapes := by
  simp only [validateCimdClientIdUrl_eq_ok]
  constructor
  · intro avoids url parsed secure noName noPassword escapes
    have passes := escapes.passes (url.lower secure)
    exact avoids url ⟨parsed, secure, passes, noName, noPassword⟩ escapes.internal
  · rintro known url ⟨parsed, secure, passes, noName, noPassword⟩ internal
    exact known url parsed secure noName noPassword (internal.escapes (url.lower secure) passes)

namespace Sample

theorem small_linkLocal : ∀ piece ∈ [0xFE80, 0, 0, 0, 0, 0, 0, 1], piece < 65536 := by decide

/-- The URL `https://[fe80::1]/` -/
def linkLocal : Url where
  protocol := text "https:"
  username := []
  password := []
  host := .ipv6 ⟨[0xFE80, 0, 0, 0, 0, 0, 0, 1], rfl, small_linkLocal⟩
  lower := fun _ _ other => Host.noConfusion other

end Sample

/-- A link-local address is accepted. -/
theorem linkLocal_accepted
    : validateCimdClientIdUrl (fun _ => some Sample.linkLocal) (text "https://[fe80::1]/")
        = .ok Sample.linkLocal
      ∧ Sample.linkLocal.host.hostname = text "[fe80::1]" ∧ Sample.linkLocal.host.Internal := by
  refine ⟨validateCimdClientIdUrl_eq_ok.mpr ⟨rfl, rfl, by decide +kernel, rfl, rfl⟩,
    by decide +kernel, ?_⟩
  exact .inr (.inr (.inr (.inl (by decide +kernel))))

end CairnStone.ClientMetadata
