import Mathlib.Data.List.Nodup

/-! The first occurrence of every key in a list, and loops that collect items until they have enough. -/

namespace CairnStone.Data

open List

variable {α κ : Type} [DecidableEq κ]
  {key : α → κ}

def firstOccurrences (key : α → κ) (seen : List κ) : List α → List α
  | [] => []
  | item :: rest =>
    if key item ∈ seen then firstOccurrences key seen rest
    else item :: firstOccurrences key (key item :: seen) rest

/-- A loop that takes one item after another, each key once, and stops when it has as many as the limit. -/
def collect (key : α → κ) (limit : Nat) (collected : List α) : List α → List α
  | [] => collected
  | item :: rest =>
    let collected := if key item ∈ collected.map key then collected else collected ++ [item]
    if limit ≤ collected.length then collected else collect key limit collected rest

theorem firstOccurrences_congr {seen seen' : List κ} (same : ∀ k, k ∈ seen ↔ k ∈ seen')
    (items : List α)
    : firstOccurrences key seen items = firstOccurrences key seen' items := by
  induction items generalizing seen seen' with
  | nil => rfl
  | cons item rest ih =>
    have later : ∀ k, k ∈ key item :: seen ↔ k ∈ key item :: seen' := by
      intro k
      rw [mem_cons, mem_cons, same]
    rw [firstOccurrences, firstOccurrences, ih same, ih later]
    simp only [same]

theorem mem_map_firstOccurrences {seen : List κ} {items : List α} {k : κ}
    : k ∈ (firstOccurrences key seen items).map key ↔ k ∈ items.map key ∧ k ∉ seen := by
  induction items generalizing seen with
  | nil => simp [firstOccurrences]
  | cons item rest ih =>
    rw [firstOccurrences, map_cons, mem_cons]
    split
    · rename_i known
      rw [ih]
      constructor
      · rintro ⟨later, fresh⟩
        exact ⟨.inr later, fresh⟩
      · rintro ⟨rfl | later, fresh⟩
        · exact absurd known fresh
        · exact ⟨later, fresh⟩
    · rename_i new
      rw [map_cons, mem_cons, ih, mem_cons, not_or]
      constructor
      · rintro (rfl | ⟨later, _, fresh⟩)
        · exact ⟨.inl rfl, new⟩
        · exact ⟨.inr later, fresh⟩
      · rintro ⟨here, fresh⟩
        by_cases same : k = key item
        · exact .inl same
        · exact .inr ⟨here.resolve_left same, same, fresh⟩

theorem nodup_firstOccurrences (key : α → κ) (seen : List κ) (items : List α)
    : ((firstOccurrences key seen items).map key).Nodup := by
  induction items generalizing seen with
  | nil => exact nodup_nil
  | cons item rest ih =>
    rw [firstOccurrences]
    split
    · exact ih seen
    · rw [map_cons, nodup_cons]
      refine ⟨fun again => ?_, ih (key item :: seen)⟩
      exact (mem_map_firstOccurrences.mp again).2 (.head _)

theorem firstOccurrences_subset (key : α → κ) (seen : List κ) (items : List α)
    : firstOccurrences key seen items ⊆ items := by
  induction items generalizing seen with
  | nil => exact List.Subset.refl _
  | cons item rest ih =>
    rw [firstOccurrences]
    split
    · exact subset_cons_of_subset _ (ih seen)
    · exact cons_subset_cons _ (ih (key item :: seen))

theorem map_firstOccurrences (key : α → κ) (seen : List κ) (items : List α)
    : (firstOccurrences key seen items).map key = firstOccurrences id seen (items.map key) := by
  induction items generalizing seen with
  | nil => rfl
  | cons item rest ih =>
    rw [map_cons, firstOccurrences, firstOccurrences]
    simp only [id_eq]
    split
    · exact ih seen
    · rw [map_cons, ih]

/-- What such a loop collects are the first occurrences, up to the limit. Witness: induction on the items. -/
theorem collect_eq_append {limit : Nat} {collected : List α} (space : collected.length < limit)
    (items : List α)
    : collect key limit collected items
      = collected
        ++ (firstOccurrences key (collected.map key) items).take (limit - collected.length) := by
  induction items generalizing collected with
  | nil => simp [collect, firstOccurrences]
  | cons item rest ih =>
    by_cases known : key item ∈ collected.map key
    · simp only [collect, firstOccurrences, if_pos known, if_neg (Nat.not_le_of_gt space)]
      exact ih space
    · have grown : (collected ++ [item]).length = collected.length + 1 := by simp
      have left : limit - collected.length = limit - (collected.length + 1) + 1 := by omega
      simp only [collect, firstOccurrences, if_neg known, grown]
      rw [left, take_succ_cons]
      split
      · rename_i full
        have none : limit - (collected.length + 1) = 0 := by omega
        rw [none, take_zero]
      · rename_i more
        have seen : ∀ k, k ∈ (collected ++ [item]).map key ↔ k ∈ key item :: collected.map key := by
          intro k
          rw [map_append, mem_append, map_singleton, mem_singleton,
            mem_cons, or_comm]
        rw [ih (by omega), grown, firstOccurrences_congr seen, append_assoc,
          singleton_append]

theorem collect_eq_take {limit : Nat} (pos : 0 < limit) (items : List α)
    : collect key limit [] items = (firstOccurrences key [] items).take limit := by
  have space : ([] : List α).length < limit := pos
  exact collect_eq_append space items

end CairnStone.Data
