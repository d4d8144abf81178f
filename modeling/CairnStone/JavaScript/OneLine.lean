import CairnStone.JavaScript.Objects

/-! A stable text is one line: it holds no control character, so no line break. -/

namespace CairnStone.JavaScript

open List

variable {t : Text}

def OneLine (t : Text) : Prop :=
  ∀ u ∈ t, 0x20 ≤ u.val

instance decidableOneLine (t : Text) : Decidable (OneLine t) :=
  List.decidableBAll (fun u : CodeUnit => 0x20 ≤ u.val) t

theorem OneLine.append {s : Text} (first : OneLine s) (second : OneLine t) : OneLine (s ++ t) :=
  forall_mem_append.mpr ⟨first, second⟩

theorem OneLine.cons {u : CodeUnit} (visible : 0x20 ≤ u.val) (rest : OneLine t)
    : OneLine (u :: t) :=
  forall_mem_cons.mpr ⟨visible, rest⟩

theorem OneLine.no_break (oneLine : OneLine t) : (0x0A : CodeUnit) ∉ t := by
  intro mem
  exact absurd (oneLine 0x0A mem) (by decide)

theorem oneLine_quoteUnit (u : CodeUnit) : OneLine (quoteUnit u) := by
  have digit (n : ℕ) : 0x20 ≤ (hexDigit (n % 16)).val := by
    have bound : n % 16 < 16 := Nat.mod_lt _ (by norm_num)
    interval_cases n % 16 <;> decide
  unfold quoteUnit
  split_ifs with h1 h2 h3 h4 h5 h6 h7 special
  · decide
  · decide
  · decide
  · decide
  · decide
  · decide
  · decide
  · intro v mem
    simp only [unicodeEscape, mem_cons, not_mem_nil, or_false] at mem
    rcases mem with rfl | rfl | rfl | rfl | rfl | rfl
    · decide
    · decide
    · exact digit _
    · exact digit _
    · exact digit _
    · exact digit _
  · push Not at special
    intro v mem
    cases mem_singleton.mp mem
    exact special.1

/-- A quoted string is one line. Witness: induction along the pairing of surrogates. -/
theorem oneLine_quote (s : Text) : OneLine (quote s) := by
  have surrogate {u : CodeUnit} (isOne : isHighSurrogate u = true ∨ isLowSurrogate u = true)
      : 0x20 ≤ u.val := by
    simp only [isHighSurrogate, isLowSurrogate, Bool.and_eq_true, decide_eq_true_eq] at isOne
    rcases isOne with high | low
    · exact le_trans (by decide) (Fin.le_def.mp high.1)
    · exact le_trans (by decide) (Fin.le_def.mp low.1)
  have inside : OneLine (quoteUnits s) := by
    induction s using quoteUnits.induct with
    | case1 => exact forall_mem_nil _
    | case2 u => exact oneLine_quoteUnit u
    | case3 first second tail paired ih =>
      rw [quoteUnits, if_pos paired]
      rw [Bool.and_eq_true] at paired
      exact (ih.cons (surrogate (.inr paired.2))).cons (surrogate (.inl paired.1))
    | case4 first second tail single ih =>
      rw [quoteUnits, if_neg single]
      exact (oneLine_quoteUnit first).append ih
  have mark : OneLine [0x22] := by decide
  exact (inside.append mark).cons (by decide)

theorem oneLine_number (x : Double) : OneLine (Number.finite x).toText := by
  intro u mem
  have unit := Number.isNumberUnit_of_mem_toText mem
  simp only [isNumberUnit, isDigit, Bool.or_eq_true, Bool.and_eq_true, decide_eq_true_eq,
    beq_iff_eq] at unit
  rcases unit with (((digit | rfl) | rfl) | rfl) | rfl
  · exact le_trans (by decide) (Fin.le_def.mp digit.1)
  · decide
  · decide
  · decide
  · decide

theorem oneLine_joined {texts : List Text} (each : ∀ t ∈ texts, OneLine t)
    : OneLine (joinWithComma texts) := by
  have following (later : List Text) (each : ∀ t ∈ later, OneLine t)
      : OneLine (later.flatMap (0x2C :: ·)) := by
    intro u mem
    obtain ⟨t, seen, inside⟩ := mem_flatMap.mp mem
    exact ((each t seen).cons (by decide)) u inside
  cases texts with
  | nil => exact forall_mem_nil _
  | cons t later =>
    have rest := following later (fun s mem => each s (.tail _ mem))
    exact (each t (.head _)).append rest

theorem oneLine_bracketed {texts : List Text} {opening closing : CodeUnit}
    (opens : 0x20 ≤ opening.val) (closes : 0x20 ≤ closing.val) (each : ∀ t ∈ texts, OneLine t)
    : OneLine (opening :: (joinWithComma texts ++ [closing])) := by
  have ending : OneLine [closing] := by
    intro u mem
    rw [mem_singleton.mp mem]
    exact closes
  exact ((oneLine_joined each).append ending).cons opens

mutual

/-- Witness: structural recursion on the value. -/
theorem oneLine_stableJson : (value : Value) → OneLine (stableJson value)
  | .undefined => (by decide : OneLine (text "undefined"))
  | .null => (by decide : OneLine (text "null"))
  | .bool true => (by decide : OneLine (text "true"))
  | .bool false => (by decide : OneLine (text "false"))
  | .number (.finite x) => oneLine_number x
  | .number .nan => (by decide : OneLine (text "null"))
  | .number (.infinity _) => (by decide : OneLine (text "null"))
  | .string s => oneLine_quote s
  | .array slots => oneLine_bracketed (by decide) (by decide) (oneLine_stableSlots slots)
  | .object _ properties => by
    refine oneLine_bracketed (by decide) (by decide) (fun t mem => ?_)
    obtain ⟨⟨key, value⟩, seen, rfl⟩ := mem_map.mp mem
    rw [mem_insertionSort] at seen
    have value := oneLine_stableMembers properties (key, value) seen
    exact (oneLine_quote key).append (value.cons (by decide))
  | .other => (by decide : OneLine (text "undefined"))

theorem oneLine_stableSlots : (slots : List (Option Value)) → ∀ t ∈ stableSlots slots, OneLine t
  | [], _, mem => absurd mem not_mem_nil
  | none :: rest, t, mem => by
    rcases mem_cons.mp mem with rfl | later
    · exact forall_mem_nil _
    · exact oneLine_stableSlots rest t later
  | some value :: rest, t, mem => by
    have split : t = [] ∨ t = stableJson value ∨ t ∈ stableSlots rest := by
      cases value <;> simp only [stableSlots, mem_cons] at mem <;> tauto
    rcases split with rfl | rfl | later
    · exact forall_mem_nil _
    · exact oneLine_stableJson value
    · exact oneLine_stableSlots rest t later

theorem oneLine_stableMembers
    : (properties : List (Text × Value)) → ∀ mem ∈ stableMembers properties, OneLine mem.2
  | [], _, mem => absurd mem not_mem_nil
  | (key, value) :: rest, mem, seen => by
    rcases mem_cons.mp seen with rfl | later
    · exact oneLine_stableJson value
    · exact oneLine_stableMembers rest mem later

end

end CairnStone.JavaScript
