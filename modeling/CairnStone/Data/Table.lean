import Mathlib.Data.List.Nodup

/-! Relational tables as lists of rows: keys, guarded updates, and what they preserve. -/

namespace CairnStone.Data

open List

variable {α κ : Type}
  {p : α → Bool} {f : α → α} {row : α} {k : κ}

/-- No two rows share a key. -/
def Keyed (key : α → κ) (rows : List α) : Prop :=
  (rows.map key).Nodup

/-- `UPDATE … SET … WHERE p`: every row that matches is rewritten in place. -/
def updateWhere (p : α → Bool) (f : α → α) (rows : List α) : List α :=
  rows.map (fun row => if p row then f row else row)

/-- An update that leaves a column alone leaves it alone in the whole table. -/
theorem map_updateWhere {β : Type} {column : α → β} {rows : List α}
    (same : ∀ row, p row = true → column (f row) = column row)
    : (updateWhere p f rows).map column = rows.map column := by
  simp only [updateWhere, map_map]
  refine map_congr_left (fun row _ => ?_)
  simp only [Function.comp_apply]
  split
  · rename_i hit
    exact same row hit
  · rfl

namespace Keyed

variable {key : α → κ} {rows : List α}

@[simp] theorem nil : Keyed key ([] : List α) := nodup_nil

theorem eq_of_key (keyed : Keyed key rows) {a b : α} (ha : a ∈ rows) (hb : b ∈ rows)
    (same : key a = key b)
    : a = b :=
  inj_on_of_nodup_map keyed ha hb same

theorem append (keyed : Keyed key rows) {added : List α} (addedKeyed : Keyed key added)
    (fresh : ∀ row ∈ added, ∀ old ∈ rows, key old ≠ key row)
    : Keyed key (rows ++ added) := by
  unfold Keyed
  rw [map_append, nodup_append]
  refine ⟨keyed, addedKeyed, ?_⟩
  intro k old k' new
  obtain ⟨prior, here, rfl⟩ := mem_map.mp old
  obtain ⟨row, mem, rfl⟩ := mem_map.mp new
  exact fresh row mem prior here

theorem append_singleton (keyed : Keyed key rows) {row : α}
    (fresh : ∀ old ∈ rows, key old ≠ key row)
    : Keyed key (rows ++ [row]) :=
  keyed.append (by simp [Keyed]) (by simpa using fresh)

/-- Rewriting rows without touching their keys keeps keys unique. -/
theorem updateWhere (keyed : Keyed key rows) {p : α → Bool} {f : α → α}
    (same : ∀ row, p row = true → key (f row) = key row)
    : Keyed key (Data.updateWhere p f rows) := by
  simpa only [Keyed, map_updateWhere same] using keyed

end Keyed

theorem mem_updateWhere {rows : List α}
    : row ∈ updateWhere p f rows ↔ ∃ old ∈ rows, row = if p old then f old else old := by
  simp only [updateWhere, mem_map]
  exact ⟨fun ⟨old, mem, eq⟩ => ⟨old, mem, eq.symm⟩,
    fun ⟨old, mem, eq⟩ => ⟨old, mem, eq.symm⟩⟩

/-- A reference that holds of every row survives an update that leaves its column alone. -/
theorem forall_mem_updateWhere {column : α → κ} {rows : List α} {keys : List κ}
    (same : ∀ row, p row = true → column (f row) = column row)
    (resolves : ∀ row ∈ rows, column row ∈ keys)
    : ∀ row ∈ updateWhere p f rows, column row ∈ keys := by
  intro row mem
  obtain ⟨old, here, rfl⟩ := mem_updateWhere.mp mem
  split
  · rename_i hit
    rw [same old hit]
    exact resolves old here
  · exact resolves old here

theorem forall_mem_append {column : α → κ} {rows added : List α} {keys grown : List κ}
    (grows : ∀ k ∈ keys, k ∈ grown) (resolves : ∀ row ∈ rows, column row ∈ keys)
    (new : ∀ row ∈ added, column row ∈ grown)
    : ∀ row ∈ rows ++ added, column row ∈ grown := by
  intro row mem
  rcases mem_append.mp mem with old | fresh
  · exact grows _ (resolves row old)
  · exact new row fresh

theorem mem_map_append {key : α → κ} {rows added : List α} (mem : k ∈ rows.map key)
    : k ∈ (rows ++ added).map key := by
  rw [map_append]
  exact mem_append_left _ mem

theorem mem_of_find [BEq κ] [LawfulBEq κ] {key : α → κ} {rows : List α}
    (found : rows.find? (fun row => key row == k) = some row)
    : row ∈ rows ∧ key row = k := by
  have same := find?_some found
  exact ⟨mem_of_find?_eq_some found, eq_of_beq same⟩

theorem find_eq_none [BEq κ] [LawfulBEq κ] {key : α → κ} {rows : List α}
    : rows.find? (fun row => key row == k) = none ↔ ∀ row ∈ rows, key row ≠ k := by
  simp [find?_eq_none]

theorem Keyed.find_eq [BEq κ] [LawfulBEq κ] {key : α → κ} {rows : List α}
    (keyed : Keyed key rows) (mem : row ∈ rows)
    : rows.find? (fun other => key other == key row) = some row := by
  cases found : rows.find? (fun other => key other == key row) with
  | none => exact absurd rfl (find_eq_none.mp found row mem)
  | some other =>
    obtain ⟨here, same⟩ := mem_of_find found
    rw [keyed.eq_of_key here mem same]

def Continues (related : α → α → Prop) (rows rows' : List α) : Prop :=
  ∀ row ∈ rows, ∃ row' ∈ rows', related row row'

namespace Continues

variable {related : α → α → Prop} {rows rows' rows'' : List α}

theorem refl (reflexive : ∀ row, related row row) : Continues related rows rows :=
  fun row mem => ⟨row, mem, reflexive row⟩

theorem of_extended (reflexive : ∀ row, related row row) (le : rows <+: rows')
    : Continues related rows rows' :=
  fun row mem => ⟨row, le.subset mem, reflexive row⟩

theorem updateWhere (reflexive : ∀ row, related row row) {p : α → Bool} {f : α → α}
    (rewrites : ∀ row, p row = true → related row (f row))
    : Continues related rows (Data.updateWhere p f rows) := by
  intro row mem
  refine ⟨if p row then f row else row, mem_map.mpr ⟨row, mem, rfl⟩, ?_⟩
  split
  · rename_i hit
    exact rewrites row hit
  · exact reflexive row

end Continues

structure Rewrites (related : α → α → Prop) (rows rows' : List α) : Prop where
  continues : Continues related rows rows'
  continued : ∀ row' ∈ rows', ∃ row ∈ rows, related row row'

namespace Rewrites

variable {related : α → α → Prop} {rows : List α}

theorem refl (reflexive : ∀ row, related row row) : Rewrites related rows rows :=
  ⟨.refl reflexive, fun row mem => ⟨row, mem, reflexive row⟩⟩

theorem updateWhere (reflexive : ∀ row, related row row) {p : α → Bool} {f : α → α}
    (rewrites : ∀ row, p row = true → related row (f row))
    : Rewrites related rows (Data.updateWhere p f rows) := by
  refine ⟨.updateWhere reflexive rewrites, fun row mem => ?_⟩
  obtain ⟨old, here, rfl⟩ := mem_updateWhere.mp mem
  refine ⟨old, here, ?_⟩
  split
  · rename_i hit
    exact rewrites old hit
  · exact reflexive old

end Rewrites

/-- An update that matches no row changes nothing. -/
theorem updateWhere_eq_self {rows : List α} (none : ∀ row ∈ rows, p row = false)
    : updateWhere p f rows = rows := by
  unfold updateWhere
  conv_rhs => rw [← map_id rows]
  refine map_congr_left (fun row mem => ?_)
  simp [none row mem]

/-- If two rows satisfy a property and an update matches a single key, one of the two is
left alone. Witness: otherwise the filtered list consists of rows with one key.
-/
theorem exists_unmatched_of_two {key : α → κ} {rows : List α} (keyed : Keyed key rows)
    {q : α → Bool} (hit : ∀ row ∈ rows, p row = true → key row = k)
    (two : 1 < (rows.filter q).length)
    : ∃ row ∈ rows, q row = true ∧ p row = false := by
  by_contra none
  push Not at none
  have allMatched : ∀ row ∈ rows.filter q, key row = k := by
    intro row mem
    obtain ⟨mem, holds⟩ := mem_filter.mp mem
    exact hit row mem (by simpa using none row mem holds)
  have nodup : ((rows.filter q).map key).Nodup :=
    keyed.sublist (filter_sublist.map key)
  match shape : rows.filter q with
  | [] => simp [shape] at two
  | [_] => simp [shape] at two
  | first :: second :: rest =>
    rw [shape] at nodup allMatched
    have firstKey := allMatched first (by simp)
    have secondKey := allMatched second (by simp)
    simp [firstKey, secondKey] at nodup

end CairnStone.Data
