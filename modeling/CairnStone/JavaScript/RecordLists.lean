import CairnStone.JavaScript.Objects

/-! The texts of flat records in an array: which records they are can be read from the text, and the text is well formed. -/

namespace CairnStone.JavaScript

open List

variable {keys : List Text} {a b : List (List (Text × Option Text))} {r r' : Text}

/-- The records after the first one, each with its comma. Witness: induction on the records. -/
theorem recordTails_inj (keyed : ∀ members ∈ a, members.map (·.1) = keys)
    (keyed' : ∀ members ∈ b, members.map (·.1) = keys)
    (same
      : a.flatMap (fun members => 0x2C :: stableRecord members) ++ 0x5D :: r
        = b.flatMap (fun members => 0x2C :: stableRecord members) ++ 0x5D :: r')
    : a = b ∧ r = r' := by
  induction a generalizing b with
  | nil =>
    cases b with
    | nil => exact ⟨rfl, (cons.inj same).2⟩
    | cons other rest => exact absurd (cons.inj same).1 (by decide)
  | cons members rest ih =>
    cases b with
    | nil => exact absurd (cons.inj same).1 (by decide)
    | cons other rest' =>
      obtain ⟨first, others⟩ := forall_mem_cons.mp keyed
      obtain ⟨first', others'⟩ := forall_mem_cons.mp keyed'
      simp only [flatMap_cons, cons_append, append_assoc] at same
      obtain ⟨rfl, tails⟩ := stableRecord_append_inj (first.trans first'.symm) (cons.inj same).2
      obtain ⟨rfl, ends⟩ := ih others others' tails
      exact ⟨rfl, ends⟩

/-- A text of records in an array is one of one list of records. -/
theorem joinedRecords_inj (keyed : ∀ members ∈ a, members.map (·.1) = keys)
    (keyed' : ∀ members ∈ b, members.map (·.1) = keys)
    (same
      : joinWithComma (a.map stableRecord) ++ 0x5D :: r
        = joinWithComma (b.map stableRecord) ++ 0x5D :: r')
    : a = b ∧ r = r' := by
  cases a with
  | nil =>
    cases b with
    | nil => exact ⟨rfl, (cons.inj same).2⟩
    | cons other rest => exact absurd (cons.inj same).1 (by decide)
  | cons members rest =>
    cases b with
    | nil => exact absurd (cons.inj same).1 (by decide)
    | cons other rest' =>
      obtain ⟨first, others⟩ := forall_mem_cons.mp keyed
      obtain ⟨first', others'⟩ := forall_mem_cons.mp keyed'
      simp only [map_cons, joinWithComma, append_assoc, flatMap_map] at same
      obtain ⟨rfl, tails⟩ := stableRecord_append_inj (first.trans first'.symm) same
      obtain ⟨rfl, ends⟩ := recordTails_inj others others' tails
      exact ⟨rfl, ends⟩

/-- An encoding keeps a text of records in an array. -/
theorem toWellFormed_joinedRecords (a : List (List (Text × Option Text))) (rest : Text)
    : toWellFormed (joinWithComma (a.map stableRecord) ++ 0x5D :: rest)
      = joinWithComma (a.map stableRecord) ++ 0x5D :: toWellFormed rest := by
  have tails (records : List (List (Text × Option Text)))
      : toWellFormed (records.flatMap (fun members => 0x2C :: stableRecord members) ++ 0x5D :: rest)
        = records.flatMap (fun members => 0x2C :: stableRecord members)
          ++ 0x5D :: toWellFormed rest := by
    induction records with
    | nil => exact toWellFormed_cons (by decide) rest
    | cons members later ih =>
      simp only [flatMap_cons, cons_append, append_assoc]
      rw [toWellFormed_cons (by decide), toWellFormed_stableRecord_append, ih]
  cases a with
  | nil => exact toWellFormed_cons (by decide) rest
  | cons members later =>
    simp only [map_cons, joinWithComma, append_assoc, flatMap_map]
    rw [toWellFormed_stableRecord_append, tails]

end CairnStone.JavaScript
