import CairnStone.JavaScript.Json

/-! `stableJson` of flat records, the texts that content identities are hashed from. The text
of a record determines its values, and it is well formed, so UTF-8 encoding loses nothing.
-/

namespace CairnStone.JavaScript

open List

variable {r r' : Text} {members members' : List (Text × Option Text)}

/-- A string or `null`, as `JSON.stringify` writes it. -/
def quoteOrNull : Option Text → Text
  | none => text "null"
  | some s => quote s

def flatMembers : List (Text × Option Text) → Text
  | [] => [0x7D]
  | [(key, value)] => quote key ++ 0x3A :: (quoteOrNull value ++ [0x7D])
  | (key, value) :: next :: rest =>
    quote key ++ 0x3A :: (quoteOrNull value ++ 0x2C :: flatMembers (next :: rest))

/-- `stableJson` of a record whose values are strings or `null`, given in key order. -/
def stableRecord (members : List (Text × Option Text)) : Text :=
  0x7B :: flatMembers members

/-- `utf8` bytes of a text, counted. A surrogate pair takes four bytes. -/
def utf8ByteLength : Text → Nat
  | [] => 0
  | [u] => if u < 0x80 then 1 else if u < 0x800 then 2 else 3
  | first :: second :: rest =>
    if isHighSurrogate first && isLowSurrogate second then
      4 + utf8ByteLength rest
    else
      (if first < 0x80 then 1 else if first < 0x800 then 2 else 3)
      + utf8ByteLength (second :: rest)

/-- A value can be split off the front of the rest of its record. -/
theorem quoteOrNull_append_inj {v v' : Option Text}
    (same : quoteOrNull v ++ r = quoteOrNull v' ++ r')
    : v = v' ∧ r = r' := by
  have null : ∃ tail, text "null" = 0x6E :: tail := ⟨_, rfl⟩
  obtain ⟨tail, null⟩ := null
  cases v with
  | none =>
    cases v' with
    | none => exact ⟨rfl, append_cancel_left same⟩
    | some s' =>
      rw [quoteOrNull, quoteOrNull, null] at same
      exact absurd (cons.inj same).1 (by decide)
  | some s =>
    cases v' with
    | none =>
      rw [quoteOrNull, quoteOrNull, null] at same
      exact absurd (cons.inj same).1 (by decide)
    | some s' =>
      obtain ⟨rfl, rest⟩ := quote_append_inj same
      exact ⟨rfl, rest⟩

/-- A record can be split off the front of a text. -/
theorem flatMembers_append_inj (keys : members.map (·.1) = members'.map (·.1))
    (same : flatMembers members ++ r = flatMembers members' ++ r')
    : members = members' ∧ r = r' := by
  induction members using flatMembers.induct generalizing members' with
  | case1 =>
    cases map_eq_nil_iff.mp keys.symm
    exact ⟨rfl, (cons.inj same).2⟩
  | case2 key value =>
    obtain ⟨⟨key', value'⟩, rest, rfl, sameKey, none⟩ := map_eq_cons_iff.mp keys.symm
    cases map_eq_nil_iff.mp none
    simp only [flatMembers, append_assoc, cons_append] at same
    obtain ⟨rfl, values⟩ := quote_append_inj same
    obtain ⟨rfl, tails⟩ := quoteOrNull_append_inj (cons.inj values).2
    exact ⟨rfl, (cons.inj tails).2⟩
  | case3 key value next rest ih =>
    obtain ⟨⟨key', value'⟩, rest', rfl, sameKey, others⟩ := map_eq_cons_iff.mp keys.symm
    obtain ⟨next', later, rfl, _, _⟩ := map_eq_cons_iff.mp others
    simp only [flatMembers, append_assoc, cons_append] at same
    obtain ⟨rfl, values⟩ := quote_append_inj same
    obtain ⟨rfl, tails⟩ := quoteOrNull_append_inj (cons.inj values).2
    obtain ⟨equal, rest⟩ := ih others.symm (cons.inj tails).2
    rw [equal]
    exact ⟨rfl, rest⟩

theorem stableRecord_append_inj (keys : members.map (·.1) = members'.map (·.1))
    (same : stableRecord members ++ r = stableRecord members' ++ r')
    : members = members' ∧ r = r' :=
  flatMembers_append_inj keys (cons.inj same).2

theorem stableRecord_inj (keys : members.map (·.1) = members'.map (·.1))
    (same : stableRecord members = stableRecord members')
    : members = members' :=
  (stableRecord_append_inj keys (congrArg (· ++ []) same)).1

def WellFormed (s : Text) : Prop :=
  toWellFormed s = s

instance (s : Text) : Decidable (WellFormed s) :=
  inferInstanceAs (Decidable (_ = _))

theorem toWellFormed_cons {u : CodeUnit} (plain : isSurrogate u = false) (rest : Text)
    : toWellFormed (u :: rest) = u :: toWellFormed rest := by
  have parts : isHighSurrogate u = false ∧ isLowSurrogate u = false := by
    simpa [isSurrogate] using plain
  cases rest <;> simp [toWellFormed, parts.1, parts.2]

theorem toWellFormed_pair {high low : CodeUnit} (isHigh : isHighSurrogate high = true)
    (isLow : isLowSurrogate low = true) (rest : Text)
    : toWellFormed (high :: low :: rest) = high :: low :: toWellFormed rest := by
  simp [toWellFormed, isHigh, isLow]

theorem toWellFormed_append {front : Text} (plain : ∀ u ∈ front, isSurrogate u = false)
    (rest : Text)
    : toWellFormed (front ++ rest) = front ++ toWellFormed rest := by
  induction front with
  | nil => rfl
  | cons u front ih =>
    rw [cons_append, toWellFormed_cons (plain u mem_cons_self),
      ih (fun v mem => plain v (mem_cons_of_mem u mem)), cons_append]

theorem isSurrogate_hexDigit {n : ℕ} (digit : n < 16) : isSurrogate (hexDigit n) = false := by
  interval_cases n <;> rfl

theorem isSurrogate_quoteUnit (u : CodeUnit) : ∀ v ∈ quoteUnit u, isSurrogate v = false := by
  have short {kind : CodeUnit} (plain : isSurrogate kind = false)
      : ∀ v ∈ ([0x5C, kind] : Text), isSurrogate v = false := by
    intro v mem
    simp only [mem_cons, not_mem_nil, or_false] at mem
    rcases mem with rfl | rfl
    · decide
    · exact plain
  unfold quoteUnit
  split_ifs with h1 h2 h3 h4 h5 h6 h7 special
  · exact short (by decide)
  · exact short (by decide)
  · exact short (by decide)
  · exact short (by decide)
  · exact short (by decide)
  · exact short (by decide)
  · exact short (by decide)
  · intro v mem
    have digit (k : ℕ) : isSurrogate (hexDigit (k % 16)) = false :=
      isSurrogate_hexDigit (Nat.mod_lt _ (by norm_num))
    simp only [unicodeEscape, mem_cons, not_mem_nil, or_false] at mem
    rcases mem with rfl | rfl | rfl | rfl | rfl | rfl
    · decide
    · decide
    · exact digit _
    · exact digit _
    · exact digit _
    · exact digit _
  · push Not at special
    simpa using special.2

theorem toWellFormed_quoteUnits_append (s rest : Text)
    : toWellFormed (quoteUnits s ++ rest) = quoteUnits s ++ toWellFormed rest := by
  induction s using quoteUnits.induct with
  | case1 => rfl
  | case2 u => exact toWellFormed_append (isSurrogate_quoteUnit u) rest
  | case3 first second tail paired ih =>
    rw [quoteUnits, if_pos paired]
    rw [Bool.and_eq_true] at paired
    rw [cons_append, cons_append, toWellFormed_pair paired.1 paired.2, ih]
    rfl
  | case4 first second tail single ih =>
    rw [quoteUnits, if_neg single, append_assoc,
      toWellFormed_append (isSurrogate_quoteUnit first), ih, append_assoc]

theorem toWellFormed_quote_append (s rest : Text)
    : toWellFormed (quote s ++ rest) = quote s ++ toWellFormed rest := by
  have mark : isSurrogate 0x22 = false := by decide
  rw [quote, cons_append, toWellFormed_cons mark, append_assoc,
    toWellFormed_quoteUnits_append, singleton_append, toWellFormed_cons mark]
  simp

theorem toWellFormed_quoteOrNull_append (v : Option Text) (rest : Text)
    : toWellFormed (quoteOrNull v ++ rest) = quoteOrNull v ++ toWellFormed rest := by
  have null : text "null" = [0x6E, 0x75, 0x6C, 0x6C] := rfl
  cases v with
  | none =>
    refine toWellFormed_append (fun u mem => ?_) rest
    rw [quoteOrNull, null] at mem
    simp only [mem_cons, not_mem_nil, or_false] at mem
    rcases mem with rfl | rfl | rfl | rfl <;> decide
  | some s => exact toWellFormed_quote_append s rest

theorem toWellFormed_stableRecord_append (members : List (Text × Option Text)) (rest : Text)
    : toWellFormed (stableRecord members ++ rest) = stableRecord members ++ toWellFormed rest := by
  have colon : isSurrogate 0x3A = false := by decide
  have comma : isSurrogate 0x2C = false := by decide
  have inner
      : toWellFormed (flatMembers members ++ rest) = flatMembers members ++ toWellFormed rest := by
    induction members using flatMembers.induct with
    | case1 => exact toWellFormed_cons (by decide) rest
    | case2 key value =>
      simp only [flatMembers, append_assoc, cons_append, nil_append]
      rw [toWellFormed_quote_append, toWellFormed_cons colon, toWellFormed_quoteOrNull_append,
        toWellFormed_cons (by decide)]
    | case3 key value next others ih =>
      simp only [flatMembers, append_assoc, cons_append]
      rw [toWellFormed_quote_append, toWellFormed_cons colon, toWellFormed_quoteOrNull_append,
        toWellFormed_cons comma, ih]
  rw [stableRecord, cons_append, toWellFormed_cons (by decide), inner]
  rfl

theorem wellFormed_stableRecord (members : List (Text × Option Text))
    : WellFormed (stableRecord members) := by
  have whole := toWellFormed_stableRecord_append members []
  rwa [append_nil, show toWellFormed [] = [] from rfl, append_nil] at whole

/-- `sha256Text` has no collisions: texts with one digest have one UTF-8 encoding. -/
def CollisionFree (sha256Text : Text → Text) : Prop :=
  ∀ a b, sha256Text a = sha256Text b → toWellFormed a = toWellFormed b

theorem CollisionFree.stableRecord_inj {sha256Text : Text → Text}
    (strong : CollisionFree sha256Text) (keys : members.map (·.1) = members'.map (·.1))
    (same : sha256Text (stableRecord members) = sha256Text (stableRecord members'))
    : members = members' := by
  refine JavaScript.stableRecord_inj keys ?_
  have encodings := strong _ _ same
  rwa [wellFormed_stableRecord, wellFormed_stableRecord] at encodings

/-- A digest that takes given values on some texts, and elsewhere spells the text out. -/
def tabled (table : List (Text × Text)) (s : Text) : Text :=
  match table.find? (·.1 == toWellFormed s) with
  | some row => row.2
  | none => 0x23 :: toWellFormed s

/-- Any finite table of different digests is part of a digest without collisions. -/
theorem collisionFree_tabled {table : List (Text × Text)} (apart : (table.map (·.2)).Nodup)
    (unmarked : ∀ row ∈ table, row.2.head? ≠ some 0x23)
    : CollisionFree (tabled table) := by
  have marked {row : Text × Text} {s : Text} (mem : row ∈ table)
      : row.2 ≠ 0x23 :: s := by
    intro same
    exact unmarked row mem (by rw [same, head?_cons])
  intro a b same
  unfold tabled at same
  split at same
  · rename_i row foundA
    have memberA := mem_of_find?_eq_some foundA
    split at same
    · rename_i row' foundB
      have memberB := mem_of_find?_eq_some foundB
      cases inj_on_of_nodup_map apart memberA memberB same
      have keyA : row.1 = toWellFormed a := by simpa using find?_some foundA
      have keyB : row.1 = toWellFormed b := by simpa using find?_some foundB
      rw [← keyA, keyB]
    · exact absurd same (marked memberA)
  · split at same
    · rename_i row' foundB
      exact absurd same.symm (marked (mem_of_find?_eq_some foundB))
    · exact (cons.inj same).2

end CairnStone.JavaScript
