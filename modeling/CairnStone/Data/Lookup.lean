import CairnStone.Data.Table

/-! What a lookup by key finds after an update and after an insertion, and what a limit keeps. -/

namespace CairnStone.Data

open List

variable {α κ : Type} [BEq κ] {key : α → κ} {rows : List α}
  {p : α → Bool} {k : κ}

/-- An update rewrites what a lookup finds, if it leaves keys alone. Witness: induction on the rows. -/
theorem find_updateWhere {f : α → α} (same : ∀ row, key (f row) = key row) (k : κ)
    : (updateWhere p f rows).find? (fun row => key row == k)
      = (rows.find? (fun row => key row == k)).map (fun row => if p row then f row else row) := by
  have kept (row : α) : key (if p row then f row else row) = key row := by
    split
    · exact same row
    · rfl
  unfold updateWhere
  rw [find?_map]
  congr 2
  funext row
  simp only [Function.comp_apply, kept]

theorem find_updateWhere_of_ne [LawfulBEq κ] {f : α → α} (same : ∀ row, key (f row) = key row)
    (other : ∀ row ∈ rows, p row = true → key row ≠ k)
    : (updateWhere p f rows).find? (fun row => key row == k)
      = rows.find? (fun row => key row == k) := by
  rw [find_updateWhere same]
  cases found : rows.find? (fun row => key row == k) with
  | none => rfl
  | some row =>
    have named : key row = k := by simpa using find?_some found
    rw [Option.map_some, if_neg]
    exact fun hit => other row (mem_of_find?_eq_some found) hit named

theorem find_append_of_some {added : List α} {row : α}
    (found : rows.find? (fun row => key row == k) = some row)
    : (rows ++ added).find? (fun row => key row == k) = some row := by
  rw [find?_append, found, Option.some_or]

theorem Keyed.any_iff [LawfulBEq κ] (keyed : Keyed key rows)
    (hit : ∀ row, p row = true → key row = k)
    : rows.any p = true ↔ ∃ row, rows.find? (fun row => key row == k) = some row ∧ p row = true := by
  rw [any_eq_true]
  constructor
  · rintro ⟨row, mem, holds⟩
    refine ⟨row, ?_, holds⟩
    rw [← hit row holds]
    exact keyed.find_eq mem
  · rintro ⟨row, found, holds⟩
    exact ⟨row, mem_of_find?_eq_some found, holds⟩

/-- An element of a sorted list with few elements before it is among the first ones.
Witness: induction on the list; each head before the element is counted.
-/
theorem mem_take_of_countP {r : α → α → Bool} (refl : ∀ a, r a a = true) {l : List α}
    (sorted : l.Pairwise (fun a b => r a b = true)) {b : α} (mem : b ∈ l) {n : Nat}
    (few : l.countP (fun a => r a b) ≤ n)
    : b ∈ l.take n := by
  induction l generalizing n with
  | nil => cases mem
  | cons a rest ih =>
    obtain ⟨before, sorted'⟩ := pairwise_cons.mp sorted
    have first : r a b = true := by
      rcases mem_cons.mp mem with rfl | later
      · exact refl b
      · exact before b later
    rw [countP_cons, if_pos first] at few
    obtain ⟨n, rfl⟩ : ∃ m, n = m + 1 := ⟨n - 1, by omega⟩
    rw [take_succ_cons]
    rcases mem_cons.mp mem with rfl | later
    · exact .head _
    · exact .tail _ (ih sorted' later (by omega))

end CairnStone.Data

/-! Sequences of checks, the first of which to fail decides the result. -/

namespace CairnStone

variable {ε α β : Type}

/-- A fallible sequence succeeds if its first part and its rest do. -/
theorem bind_eq_ok {first : Except ε α} {rest : α → Except ε β} {b : β}
    : (first >>= rest) = .ok b ↔ ∃ a, first = .ok a ∧ rest a = .ok b := by
  cases first with
  | error e => simp [Bind.bind, Except.bind]
  | ok a => simp [Bind.bind, Except.bind]

theorem map_eq_ok {first : Except ε α} {f : α → β} {b : β}
    : first.map f = .ok b ↔ ∃ a, first = .ok a ∧ f a = b := by
  cases first <;> simp [Except.map]

end CairnStone
