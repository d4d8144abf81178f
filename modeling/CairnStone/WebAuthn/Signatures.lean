import Mathlib.Data.Nat.Digits.Lemmas

/-! ES256 signatures: the ASN.1 DER form of an assertion, and the raw form that `crypto.subtle` verifies.
-/

namespace CairnStone.WebAuthn

open List Nat

abbrev Octets := List (Fin 256)

scoped instance neZero_octets : NeZero 256 :=
  ⟨by decide⟩

-- Big-endian numbers

/-- The big-endian octets of a number, without leading zeros. -/
def magnitude (n : Nat) : Octets :=
  ((Nat.digits 256 n).map (Fin.ofNat 256)).reverse

def number (octets : Octets) : Nat :=
  Nat.ofDigits 256 (octets.reverse.map Fin.val)

theorem number_magnitude (n : Nat) : number (magnitude n) = n := by
  have digits : (digits 256 n).map (fun d => (Fin.ofNat 256 d).val) = digits 256 n := by
    refine (map_congr_left (fun d mem => ?_)).trans (map_id _)
    exact mod_eq_of_lt (digits_lt_base (by omega) mem)
  rw [number, magnitude, reverse_reverse, map_map]
  exact (congrArg _ digits).trans (ofDigits_digits 256 n)

theorem magnitude_number {octets : Octets} (leading : octets.head? ≠ some 0)
    : magnitude (number octets) = octets := by
  have digits : digits 256 (number octets) = octets.reverse.map Fin.val := by
    refine digits_ofDigits 256 (by omega) _ (fun d mem => ?_) (fun some zero => leading ?_)
    · obtain ⟨octet, _, rfl⟩ := mem_map.mp mem
      exact octet.isLt
    · rw [getLast_map, getLast_reverse] at zero
      rw [head?_eq_some_head (by simpa using some), Fin.val_eq_zero_iff.mp zero]
  rw [magnitude, digits, map_map, map_reverse, reverse_reverse]
  exact (map_congr_left (fun octet _ => Fin.ofNat_val_eq_self octet)).trans (map_id _)

theorem number_replicate (k : Nat) (octets : Octets)
    : number (List.replicate k 0 ++ octets) = number octets := by
  simp [number, ofDigits_append_replicate_zero]

theorem length_magnitude_le {n k : Nat} : (magnitude n).length ≤ k ↔ n < 256 ^ k := by
  rw [magnitude, length_reverse, length_map]
  exact digits_length_le_iff (by omega) n

theorem number_lt (octets : Octets) : number octets < 256 ^ octets.length := by
  have bound : ∀ d ∈ octets.reverse.map Fin.val, d < 256 := by
    intro d mem
    obtain ⟨octet, _, rfl⟩ := mem_map.mp mem
    exact octet.isLt
  simpa [number] using ofDigits_lt_base_pow_length (by omega) bound

/-- A number has no leading zero octet: without it, fewer octets would do. -/
theorem head_magnitude (n : Nat) : (magnitude n).head? ≠ some 0 := by
  intro zero
  obtain ⟨rest, split⟩ := head?_eq_some_iff.mp zero
  have same : n = number rest := by
    rw [← number_magnitude n, split]
    exact number_replicate 1 rest
  have short := length_magnitude_le.mpr (same ▸ number_lt rest)
  rw [split] at short
  exact absurd short (by simp)

-- The raw form

/-- One half of a raw signature. -/
def padded (value : Octets) : Octets :=
  List.replicate (32 - value.length) 0 ++ value

theorem length_padded {value : Octets} (fits : value.length ≤ 32) : (padded value).length = 32 := by
  rw [padded, length_append, length_replicate]
  omega

def p1363 (r s : Nat) : Octets :=
  padded (magnitude r) ++ padded (magnitude s)

theorem number_halves {r s : Nat} (small : r < 2 ^ 256)
    : number ((p1363 r s).take 32) = r ∧ number ((p1363 r s).drop 32) = s := by
  have long : (padded (magnitude r)).length = 32 := length_padded (length_magnitude_le.mpr small)
  rw [p1363, take_left' long, drop_left' long]
  simp only [padded, number_replicate, number_magnitude, and_self]

-- The DER form

def derLength (n : Nat) : Octets :=
  if n < 0x80 then [Fin.ofNat 256 n] else Fin.ofNat 256 (0x80 + (magnitude n).length) :: magnitude n

def derValue (tag : Fin 256) (content : Octets) : Octets :=
  tag :: (derLength content.length ++ content)

/-- A zero octet keeps the sign where the top bit of a positive number is set. -/
def integerContent (n : Nat) : Octets :=
  match magnitude n with
  | [] => [0]
  | first :: rest => if first < 0x80 then first :: rest else 0 :: first :: rest

/-- `SEQUENCE { INTEGER r, INTEGER s }`, in its canonical encoding. -/
def derSignature (r s : Nat) : Octets :=
  derValue 0x30 (derValue 0x02 (integerContent r) ++ derValue 0x02 (integerContent s))

-- The conversion

structure DerLength where
  length : Nat
  next : Nat
deriving DecidableEq

def readDerLength (bytes : Octets) (offset : Nat) : Except String DerLength :=
  match bytes.drop offset with
  | [] => .error "signature_der_length_invalid"
  | first :: rest =>
    if first < 0x80 then .ok ⟨first, offset + 1⟩
    else
      match rest with
      | [] => .error "signature_der_length_invalid"
      | second :: _ =>
        if first.val % 0x80 = 1 then .ok ⟨second, offset + 2⟩
        else .error "signature_der_length_invalid"

/-- The part of `readDerInteger` that checks the octets of an integer. -/
def readMagnitude (value : Octets) : Except String Octets := do
  let value ←
    match value with
    | [] => .error "signature_der_integer_invalid"
    | first :: rest =>
      if first = 0 then
        if (rest.head?.all (· < 0x80)) then .error "signature_der_integer_invalid" else .ok rest
      else if first < 0x80 then .ok (first :: rest)
      else .error "signature_der_integer_invalid"
  if value = [] ∨ 32 < value.length then .error "signature_der_integer_oversize"
  else if value.all (· = 0) then .error "signature_der_integer_invalid"
  else .ok value

structure DerInteger where
  bytes : Octets
  next : Nat
deriving DecidableEq

def readDerInteger (bytes : Octets) (offset : Nat) : Except String DerInteger := do
  if bytes[offset]? ≠ some 0x02 then .error "signature_der_integer_invalid"
  let length ← readDerLength bytes (offset + 1)
  if length.length = 0 then .error "signature_der_integer_invalid"
  if bytes.length < length.next + length.length then .error "signature_der_integer_invalid"
  let value ← readMagnitude ((bytes.drop length.next).take length.length)
  return ⟨padded value, length.next + length.length⟩

def es256SignatureToP1363 (signature : Octets) : Except String Octets := do
  if signature = [] then .error "signature_form_unsupported"
  if signature.length = 64 then return signature
  if signature[0]? ≠ some 0x30 then .error "signature_form_unsupported"
  let sequence ← readDerLength signature 1
  if sequence.next + sequence.length ≠ signature.length then
    .error "signature_der_length_invalid"
  let r ← readDerInteger signature sequence.next
  let s ← readDerInteger signature r.next
  if s.next ≠ signature.length then .error "signature_der_trailing"
  return r.bytes ++ s.bytes

variable {bytes content value signature raw header : Octets} {offset n r s : Nat}

/-- The forms of a length that are read: one octet, or `0x81` and one octet. -/
inductive LengthOctets : Octets → Nat → Prop
  | short {b : Fin 256} (small : b < 0x80) : LengthOctets [b] b
  | long (b : Fin 256) : LengthOctets [0x81, b] b

theorem readDerLength_iff {read : DerLength}
    : readDerLength bytes offset = .ok read
      ↔ ∃ header n rest, bytes.drop offset = header ++ rest ∧ LengthOctets header n
          ∧ read = ⟨n, offset + header.length⟩ := by
  constructor
  · intro taken
    unfold readDerLength at taken
    split at taken
    · cases taken
    next first rest dropped =>
    split at taken
    next small =>
      cases taken
      exact ⟨[first], first, rest, dropped, .short small, rfl⟩
    next large =>
    split at taken
    · cases taken
    next second rest =>
    split at taken
    · next one =>
      cases taken
      have least := Fin.le_def.mp (not_lt.mp large)
      have marker : first = 0x81 := by
        apply Fin.ext
        simp only [Fin.isValue, Fin.coe_ofNat_eq_mod] at least one ⊢
        omega
      exact ⟨[0x81, second], second, rest, marker ▸ dropped, .long second, rfl⟩
    · cases taken
  · rintro ⟨header, n, rest, dropped, octets, rfl⟩
    cases octets with
    | short small => simp [readDerLength, dropped, small]
    | long b => simp [readDerLength, dropped]

theorem magnitude_pos (pos : 0 < n)
    : ∃ first rest, magnitude n = first :: rest ∧ first ≠ 0 := by
  cases shape : magnitude n with
  | nil =>
    have zero := number_magnitude n
    rw [shape] at zero
    exact absurd zero (Nat.ne_of_lt pos)
  | cons first rest => exact ⟨first, rest, rfl, fun zero => head_magnitude n (by rw [shape, zero]; rfl)⟩

/-- The octets that are read as a positive integer are those of its canonical encoding. -/
theorem readMagnitude_iff
    : readMagnitude content = .ok value
      ↔ ∃ n, 0 < n ∧ n < 2 ^ 256 ∧ content = integerContent n ∧ value = magnitude n := by
  have denotes {first : Fin 256} (rest : Octets) (nonzero : first ≠ 0)
      (fits : (first :: rest).length ≤ 32)
      : 0 < number (first :: rest) ∧ number (first :: rest) < 2 ^ 256
        ∧ magnitude (number (first :: rest)) = first :: rest := by
    have same : magnitude (number (first :: rest)) = first :: rest :=
      magnitude_number (by simpa using nonzero)
    refine ⟨pos_of_ne_zero (fun zero => ?_), ?_, same⟩
    · rw [zero] at same
      cases same
    · exact length_magnitude_le.mp (same.symm ▸ fits)
  constructor
  · intro taken
    cases content with
    | nil => cases taken
    | cons first rest =>
      by_cases zero : first = 0
      · cases rest with
        | nil => simp [readMagnitude, zero, bind, Except.bind] at taken
        | cons second tail =>
          by_cases low : second < 0x80
          · simp [readMagnitude, zero, low, bind, Except.bind] at taken
          · have nonzero : second ≠ 0 := fun none => low (none ▸ by decide)
            simp [readMagnitude, zero, low, nonzero, bind, Except.bind] at taken
            split at taken
            · cases taken
            · next fits =>
              cases taken
              obtain ⟨pos, small, same⟩ := denotes tail nonzero (by simp; omega)
              exact ⟨_, pos, small, by simp [integerContent, same, low, zero], same.symm⟩
      · by_cases low : first < 0x80
        · simp [readMagnitude, zero, low, bind, Except.bind] at taken
          split at taken
          · cases taken
          · next fits =>
            cases taken
            obtain ⟨pos, small, same⟩ := denotes rest zero (by simp; omega)
            exact ⟨_, pos, small, by simp [integerContent, same, low], same.symm⟩
        · simp [readMagnitude, zero, low, bind, Except.bind] at taken
  · rintro ⟨n, pos, small, rfl, rfl⟩
    obtain ⟨first, rest, shape, nonzero⟩ := magnitude_pos pos
    have fits : (magnitude n).length ≤ 32 := length_magnitude_le.mpr small
    rw [shape, length_cons] at fits
    rw [integerContent, shape]
    by_cases low : first < 0x80
    · simp [readMagnitude, low, nonzero, bind, Except.bind]
      omega
    · simp [readMagnitude, low, nonzero, bind, Except.bind]
      omega

/-- Where an integer may stand: its tag, a form of its length, and its canonical content. -/
inductive IntegerOctets : Octets → Nat → Prop
  | mk {header : Octets} {n : Nat} (positive : 0 < n) (small : n < 2 ^ 256)
    (length : LengthOctets header (integerContent n).length)
    : IntegerOctets (0x02 :: (header ++ integerContent n)) n

theorem readDerInteger_iff {read : DerInteger}
    : readDerInteger bytes offset = .ok read
      ↔ ∃ octets n rest, bytes.drop offset = octets ++ rest ∧ IntegerOctets octets n
          ∧ read = ⟨padded (magnitude n), offset + octets.length⟩ := by
  have below (count : Nat) : bytes.drop (offset + count) = (bytes.drop offset).drop count :=
    drop_drop.symm
  have first : bytes[offset]? = (bytes.drop offset)[0]? := by
    rw [getElem?_drop, add_zero]
  constructor
  · intro taken
    simp only [readDerInteger, bind, Except.bind, pure, Except.pure] at taken
    split at taken
    · cases taken
    next tag =>
    split at taken
    · cases taken
    next length found =>
    split at taken
    · cases taken
    next some =>
    split at taken
    · cases taken
    next contained =>
    split at taken
    · cases taken
    next value valid =>
    cases taken
    obtain ⟨header, n, rest, dropped, octets, rfl⟩ := readDerLength_iff.mp found
    obtain ⟨m, pos, small, content, rfl⟩ := readMagnitude_iff.mp valid
    obtain ⟨tail, shape⟩ : ∃ tail, bytes.drop offset = 0x02 :: tail := by
      rw [first, not_not] at tag
      exact (head?_eq_some_iff.mp (head?_eq_getElem? ▸ tag))
    have size : bytes.length - offset = tail.length + 1 := by
      rw [← length_drop, shape, length_cons]
    rw [below, shape, drop_one, tail_cons] at dropped
    subst dropped
    rw [length_append] at size
    rw [add_assoc, below, shape, add_comm 1, drop_succ_cons, drop_left] at content
    have whole : n = (integerContent m).length := by
      rw [← content, length_take]
      simp only at contained ⊢
      omega
    refine ⟨0x02 :: (header ++ integerContent m), m, rest.drop n, ?_, .mk pos small (whole ▸ octets), ?_⟩
    · rw [shape, ← content, cons_append, append_assoc, take_append_drop]
    · simp [whole, add_assoc, add_comm 1]
  · rintro ⟨octets, n, rest, dropped, integer, rfl⟩
    cases integer with
    | @mk header n pos small length =>
      have found : readDerLength bytes (offset + 1)
          = .ok ⟨(integerContent n).length, offset + 1 + header.length⟩ := by
        refine readDerLength_iff.mpr ⟨header, _, integerContent n ++ rest, ?_, length, rfl⟩
        rw [below, dropped, cons_append, append_assoc, drop_one, tail_cons]
      have content : (bytes.drop (offset + 1 + header.length)).take (integerContent n).length
          = integerContent n := by
        rw [add_assoc, below, dropped, add_comm 1, cons_append, append_assoc,
          drop_succ_cons, drop_left, take_left]
      have valid := readMagnitude_iff.mpr ⟨n, pos, small, rfl, rfl⟩
      have some : (integerContent n).length ≠ 0 := by
        intro none
        rw [length_eq_zero_iff.mp none] at valid
        cases valid
      have size := congrArg List.length dropped
      simp only [length_drop, length_append, length_cons] at size
      have contained : ¬ bytes.length < offset + 1 + header.length + (integerContent n).length := by
        omega
      rw [readDerInteger, first, dropped, found]
      simp only [bind, Except.bind, pure, Except.pure, cons_append, getElem?_cons_zero, ne_eq,
        not_true_eq_false, if_false, some, contained, content, valid]
      simp [add_assoc, add_comm 1]

/-- What is accepted as DER: two integers in a sequence, each length in a form that is read. -/
inductive SignatureOctets : Octets → Nat → Nat → Prop
  | mk {header first second : Octets} {r s : Nat} (r_octets : IntegerOctets first r)
    (s_octets : IntegerOctets second s) (length : LengthOctets header (first ++ second).length)
    : SignatureOctets (0x30 :: (header ++ (first ++ second))) r s

theorem es256SignatureToP1363_iff (length : signature.length ≠ 64)
    : es256SignatureToP1363 signature = .ok raw
      ↔ ∃ r s, SignatureOctets signature r s ∧ raw = p1363 r s := by
  constructor
  · intro taken
    cases signature with
    | nil => cases taken
    | cons tag body =>
    simp only [es256SignatureToP1363, bind, Except.bind, pure, Except.pure, length, if_false,
      reduceCtorEq] at taken
    split at taken
    · cases taken
    next tagged =>
    split at taken
    · cases taken
    next sequence found =>
    split at taken
    · cases taken
    next exactly =>
    split at taken
    · cases taken
    next r r_read =>
    split at taken
    · cases taken
    next s s_read =>
    split at taken
    · cases taken
    next ends =>
    cases taken
    obtain ⟨header, n, content, split, octets, rfl⟩ := readDerLength_iff.mp found
    obtain ⟨first, m, rest, split1, r_octets, rfl⟩ := readDerInteger_iff.mp r_read
    obtain ⟨second, k, trailing, split2, s_octets, rfl⟩ := readDerInteger_iff.mp s_read
    rw [drop_one, tail_cons] at split
    subst split
    simp only [ne_eq, not_not, length_cons, length_append] at exactly ends
    rw [add_comm 1, drop_succ_cons, drop_left] at split1
    subst split1
    rw [add_comm 1, add_right_comm, drop_succ_cons, ← length_append, ← append_assoc,
      drop_left] at split2
    subst split2
    simp only [length_append] at exactly ends
    obtain rfl : trailing = [] := length_eq_zero_iff.mp (by omega)
    rw [append_nil]
    refine ⟨m, k, ?_, rfl⟩
    obtain rfl : tag = 0x30 := by simpa using tagged
    refine .mk r_octets s_octets ?_
    obtain rfl : n = (first ++ second).length := by
      rw [length_append]
      simp at exactly
      omega
    exact octets
  · rintro ⟨r, s, octets, rfl⟩
    cases octets with
    | @mk header first second _ _ r_octets s_octets sized =>
    have below (front rest : Octets) : (0x30 :: (front ++ rest)).drop (1 + front.length) = rest := by
      rw [add_comm, drop_succ_cons, drop_left]
    have found : readDerLength (0x30 :: (header ++ (first ++ second))) 1 = _ :=
      readDerLength_iff.mpr ⟨header, _, first ++ second, rfl, sized, rfl⟩
    have r_read : readDerInteger (0x30 :: (header ++ (first ++ second))) (1 + header.length) = _ :=
      readDerInteger_iff.mpr ⟨first, r, second, below _ _, r_octets, rfl⟩
    have s_read : readDerInteger (0x30 :: (header ++ (first ++ second))) (1 + header.length + first.length) = _ :=
      readDerInteger_iff.mpr ⟨second, s, [], by
        rw [append_nil, ← append_assoc, add_assoc, ← length_append, below],
        s_octets, rfl⟩
    simp only [es256SignatureToP1363, bind, Except.bind, pure, Except.pure, length, found, r_read, s_read]
    simp [p1363, add_assoc, add_comm 1]

-- Canonical lengths

theorem derLength_short (short : n < 0x80)
    : ∃ b : Fin 256, b < 0x80 ∧ b.val = n ∧ derLength n = [b] := by
  have same : (Fin.ofNat 256 n).val = n := mod_eq_of_lt (by omega)
  exact ⟨Fin.ofNat 256 n, Fin.lt_def.mpr (same.trans_lt short), same, if_pos short⟩

theorem lengthOctets_derLength (short : n < 0x80) : LengthOctets (derLength n) n := by
  obtain ⟨b, low, rfl, shown⟩ := derLength_short short
  rw [shown]
  exact .short low

theorem LengthOctets.short_or_long (octets : LengthOctets header n)
    : (n < 0x80 ∧ header = derLength n) ∨ ∃ b, header = [0x81, b] := by
  cases octets with
  | @short b low =>
    obtain ⟨b', _, same, shown⟩ := derLength_short (Fin.lt_def.mp low)
    exact .inl ⟨Fin.lt_def.mp low, by rw [shown, Fin.ext same]⟩
  | long b => exact .inr ⟨b, rfl⟩

theorem length_integerContent_le (small : n < 2 ^ 256)
    : (integerContent n).length ≤ 33 := by
  have fits : (magnitude n).length ≤ 32 := length_magnitude_le.mpr small
  unfold integerContent
  split
  · decide
  next first rest shape =>
  rw [shape] at fits
  split
  · omega
  · exact succ_le_succ fits

/-- Where a signature of two integers has its length octets. -/
def lengthPositions (signature : Octets) : List Nat :=
  [1, 3, 5 + signature[3]?.elim 0 Fin.val]

def shortLengths (signature : Octets) : Bool :=
  (lengthPositions signature).all (fun i => signature[i]?.all (· < 0x80))

theorem SignatureOctets.bounds (octets : SignatureOctets signature r s)
    : (0 < r ∧ r < 2 ^ 256) ∧ 0 < s ∧ s < 2 ^ 256 := by
  cases octets with
  | mk r_octets s_octets _ =>
  cases r_octets with
  | mk r_pos r_small _ =>
  cases s_octets with
  | mk s_pos s_small _ => exact ⟨⟨r_pos, r_small⟩, s_pos, s_small⟩

theorem third_length (a b c d tag length : Fin 256) (content rest : Octets)
    : (a :: b :: c :: d :: (content ++ tag :: length :: rest))[5 + content.length]? = some length := by
  have position : 5 + content.length = content.length + 1 + 1 + 1 + 1 + 1 := by omega
  simp only [position, getElem?_cons_succ]
  rw [getElem?_append_right (by omega), Nat.add_sub_cancel_left]
  rfl

theorem length_sequence_lt (r_small : r < 2 ^ 256) (s_small : s < 2 ^ 256)
    : (derValue 0x02 (integerContent r) ++ derValue 0x02 (integerContent s)).length < 0x80 := by
  have r_fits := length_integerContent_le r_small
  have s_fits := length_integerContent_le s_small
  obtain ⟨b, _, _, b_shown⟩ := derLength_short (show (integerContent r).length < 0x80 by omega)
  obtain ⟨c, _, _, c_shown⟩ := derLength_short (show (integerContent s).length < 0x80 by omega)
  simp only [derValue, b_shown, c_shown, length_append, length_cons, length_nil]
  omega

theorem derSignature_octets (r_pos : 0 < r) (r_small : r < 2 ^ 256) (s_pos : 0 < s)
    (s_small : s < 2 ^ 256)
    : SignatureOctets (derSignature r s) r s := by
  have r_fits := length_integerContent_le r_small
  have s_fits := length_integerContent_le s_small
  refine .mk (.mk r_pos r_small ?_) (.mk s_pos s_small ?_) ?_
  · exact lengthOctets_derLength (by omega)
  · exact lengthOctets_derLength (by omega)
  · exact lengthOctets_derLength (length_sequence_lt r_small s_small)

/-- The canonical encoding of two integers writes every length in one octet. -/
theorem derSignature_shape (r_small : r < 2 ^ 256) (s_small : s < 2 ^ 256)
    : ∃ a b c : Fin 256, a < 0x80 ∧ b < 0x80 ∧ c < 0x80 ∧ b.val = (integerContent r).length
        ∧ derSignature r s
          = 0x30 :: a :: 0x02 :: b :: (integerContent r ++ 0x02 :: c :: integerContent s) := by
  have r_fits := length_integerContent_le r_small
  have s_fits := length_integerContent_le s_small
  obtain ⟨a, a_low, _, a_shown⟩ := derLength_short (length_sequence_lt r_small s_small)
  obtain ⟨b, b_low, same, b_shown⟩ :=
    derLength_short (show (integerContent r).length < 0x80 by omega)
  obtain ⟨c, c_low, _, c_shown⟩ :=
    derLength_short (show (integerContent s).length < 0x80 by omega)
  refine ⟨a, b, c, a_low, b_low, c_low, same, ?_⟩
  rw [derSignature, derValue, a_shown, derValue, derValue, b_shown, c_shown]
  simp only [cons_append, nil_append]

/-- Where no length takes two octets, the accepted encoding is the canonical one. -/
theorem eq_derSignature (octets : SignatureOctets signature r s)
    (short : shortLengths signature = true)
    : signature = derSignature r s := by
  cases octets with
  | mk r_octets s_octets sized =>
  cases r_octets with
  | mk r_pos r_small r_length =>
  cases s_octets with
  | mk s_pos s_small s_length =>
  rcases sized.short_or_long with ⟨low, rfl⟩ | ⟨b, rfl⟩
  · obtain ⟨d, _, _, shown⟩ := derLength_short low
    rcases r_length.short_or_long with ⟨r_low, rfl⟩ | ⟨b, rfl⟩
    · obtain ⟨b, _, same, r_shown⟩ := derLength_short r_low
      rcases s_length.short_or_long with ⟨s_low, rfl⟩ | ⟨c, rfl⟩
      · rfl
      · rw [shown, r_shown] at short
        simp [shortLengths, lengthPositions, same, third_length] at short
    · rw [shown] at short
      simp [shortLengths, lengthPositions] at short
  · simp [shortLengths, lengthPositions] at short

/-- A raw form that begins like the encoding would have a zero where the second tag is.
-/
theorem derSignature_ne_p1363 (r_small : r < 2 ^ 256) (s_small : s < 2 ^ 256)
    (collides : (derSignature r s).length = 64)
    : derSignature r s ≠ p1363 r s := by
  intro same
  obtain ⟨a, b, c, _, _, _, _, shape⟩ := derSignature_shape r_small s_small
  rw [shape] at collides same
  have r_fits : (magnitude r).length ≤ 32 := length_magnitude_le.mpr r_small
  have whole : 32 - (magnitude r).length = 0 := by
    by_contra some
    obtain ⟨k, zeros⟩ := exists_eq_succ_of_ne_zero some
    rw [p1363, padded, zeros] at same
    exact absurd (cons.inj same).1 (by decide)
  rw [p1363, padded, whole, replicate_zero, nil_append] at same
  have content : integerContent r = magnitude r := by
    unfold integerContent
    split
    next empty =>
      rw [empty] at whole
      cases whole
    next first rest shape =>
      rw [shape] at same
      rw [shape, ← (cons.inj same).1]
      rfl
  have s_size : (magnitude s).length ≤ (integerContent s).length := by
    unfold integerContent
    split <;> simp [*]
    split <;> simp
  have full : (magnitude r).length = 32 := by omega
  simp only [content, length_cons, length_append, full] at collides
  have tag := congrArg (fun octets => octets[36]?) same
  rw [content, padded, getElem?_append_right (by omega), full,
    getElem?_append_left (by rw [length_replicate]; omega),
    getElem?_replicate_of_lt (by omega)] at tag
  simp only [getElem?_cons_succ] at tag
  rw [getElem?_append_right (by omega), full] at tag
  exact absurd (Option.some.inj tag) (by decide)

/-- The conversion of a canonical encoding is right exactly where it is not 64 octets long. -/
theorem converts_iff (r_pos : 1 ≤ r) (r_small : r < 2 ^ 256) (s_pos : 1 ≤ s)
    (s_small : s < 2 ^ 256)
    : es256SignatureToP1363 (derSignature r s) = .ok (p1363 r s) ↔ (derSignature r s).length ≠ 64 := by
  constructor
  · intro converted collides
    have returned : es256SignatureToP1363 (derSignature r s) = .ok (derSignature r s) := by
      rw [es256SignatureToP1363, if_neg (by simp [derSignature, derValue]), if_pos collides]
      rfl
    exact derSignature_ne_p1363 r_small s_small collides
      (Except.ok.inj (returned.symm.trans converted))
  · intro length
    exact (es256SignatureToP1363_iff length).mpr
      ⟨r, s, derSignature_octets r_pos r_small s_pos s_small, rfl⟩

theorem converts_one : es256SignatureToP1363 (derSignature 1 1) = .ok (p1363 1 1) :=
  (converts_iff (by decide) (by decide) (by decide) (by decide)).mpr (by decide +kernel)

/-- Two integers of 29 octets. -/
theorem der64_unread
    : ¬ ∀ r s, 1 ≤ r → r < 2 ^ 256 → 1 ≤ s → s < 2 ^ 256
        → es256SignatureToP1363 (derSignature r s) = .ok (p1363 r s) := by
  intro always
  have read := always (2 ^ 224) (2 ^ 224) (by decide) (by decide) (by decide) (by decide)
  exact absurd read (by decide +kernel)

/-- What is accepted in another length than 64 is canonical exactly where no length takes two octets, and
then no other such input gives the same raw signature.
-/
theorem canonical_iff (length : signature.length ≠ 64)
    (accepted : es256SignatureToP1363 signature = .ok raw)
    : (signature = derSignature (number (raw.take 32)) (number (raw.drop 32))
        ∧ ∀ other, other.length ≠ 64 → shortLengths other = true
          → es256SignatureToP1363 other = .ok raw → other = signature)
      ↔ shortLengths signature = true := by
  have canonical {other : Octets} (length : other.length ≠ 64) (short : shortLengths other = true)
      (accepted : es256SignatureToP1363 other = .ok raw)
      : other = derSignature (number (raw.take 32)) (number (raw.drop 32)) := by
    obtain ⟨r, s, octets, rfl⟩ := (es256SignatureToP1363_iff length).mp accepted
    obtain ⟨r_half, s_half⟩ := number_halves (s := s) octets.bounds.1.2
    rw [r_half, s_half]
    exact eq_derSignature octets short
  constructor
  · rintro ⟨same, _⟩
    obtain ⟨r, s, octets, rfl⟩ := (es256SignatureToP1363_iff length).mp accepted
    obtain ⟨⟨r_pos, r_small⟩, s_pos, s_small⟩ := octets.bounds
    obtain ⟨r_half, s_half⟩ := number_halves (s := s) r_small
    rw [same, r_half, s_half]
    obtain ⟨a, b, c, a_low, b_low, c_low, size, shape⟩ := derSignature_shape r_small s_small
    rw [shape]
    simp [shortLengths, lengthPositions, a_low, b_low, c_low, size, third_length]
  · intro short
    refine ⟨canonical length short accepted, fun other length' short' accepted' => ?_⟩
    exact (canonical length' short' accepted').trans (canonical length short accepted).symm

theorem canonical_one
    : (derSignature 1 1 = derSignature (number ((p1363 1 1).take 32)) (number ((p1363 1 1).drop 32))
        ∧ ∀ other, other.length ≠ 64 → shortLengths other = true
          → es256SignatureToP1363 other = .ok (p1363 1 1) → other = derSignature 1 1)
      ↔ shortLengths (derSignature 1 1) = true :=
  canonical_iff (by decide +kernel) (by decide +kernel)

/-- The sequence's length in two octets. -/
def longForm : Octets := [0x30, 0x81, 0x06, 0x02, 0x01, 0x01, 0x02, 0x01, 0x01]

theorem longForm_accepted
    : ¬ ∀ signature raw, signature.length ≠ 64 → es256SignatureToP1363 signature = .ok raw
        → signature = derSignature (number (raw.take 32)) (number (raw.drop 32)) := by
  intro always
  have canonical := always longForm (p1363 1 1) (by decide) (by decide +kernel)
  exact absurd canonical (by decide +kernel)

end CairnStone.WebAuthn
