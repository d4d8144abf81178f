import CairnStone.Data.Table

/-! The difference of two lists of keyed entries, and how it turns one into the other. In the older list the
last entry of a key counts.
-/

namespace CairnStone.Data

open List Option Bool

variable {α κ : Type} [BEq κ]

def lastOf (key : α → κ) (entries : List α) (k : κ) : Option α :=
  entries.reverse.find? (fun entry => key entry == k)

theorem lastOf_eq_none_iff [LawfulBEq κ] {key : α → κ} {entries : List α} {k : κ}
    : lastOf key entries k = none ↔ ∀ entry ∈ entries, key entry ≠ k := by
  simp [lastOf]

theorem mem_of_lastOf [LawfulBEq κ] {key : α → κ} {entries : List α} {k : κ} {entry : α}
    (last : lastOf key entries k = some entry)
    : entry ∈ entries ∧ key entry = k := by
  have found := mem_of_find?_eq_some last
  have same := find?_some last
  exact ⟨mem_reverse.mp found, beq_iff_eq.mp same⟩

theorem lastOf_filter [LawfulBEq κ] {key : α → κ} {keep : κ → Bool} {k : κ} (kept : keep k = true)
    (entries : List α)
    : lastOf key (entries.filter (fun entry => keep (key entry))) k = lastOf key entries k := by
  unfold lastOf
  rw [← filter_reverse, find?_filter]
  congr 1
  funext entry
  by_cases same : key entry = k
  · simp [same, kept]
  · simp [same]

structure KeyedDiff (α : Type) where
  added : List α
  modified : List (α × α)
  (deleted unchanged : List α)

def keyedDiff (key : α → κ) (same : α → α → Bool) (current against : List α) : KeyedDiff α where
  added := current.filter (fun entry => (lastOf key against (key entry)).isNone)
  modified :=
    current.filterMap (fun entry =>
      (lastOf key against (key entry)).bind (fun prior =>
        if same prior entry then none else some (prior, entry)))
  deleted := against.filter (fun entry => !current.any (fun other => key other == key entry))
  unchanged :=
    current.filter (fun entry => (lastOf key against (key entry)).any (fun prior => same prior entry))

def KeyedDiff.patched (key : α → κ) (diff : KeyedDiff α) (against : List α) (k : κ) : Option α :=
  match diff.added.find? (fun entry => key entry == k) with
  | some entry => some entry
  | none =>
    match diff.modified.find? (fun change => key change.2 == k) with
    | some change => some change.2
    | none =>
      if diff.deleted.any (fun entry => key entry == k) then none else lastOf key against k

/-- Every current entry is added, modified or unchanged, and only one of these. Witness: induction on the
current entries.
-/
theorem keyedDiff_perm (key : α → κ) (same : α → α → Bool) (current against : List α)
    : ((keyedDiff key same current against).added
        ++ (keyedDiff key same current against).modified.map (·.2)
        ++ (keyedDiff key same current against).unchanged).Perm current := by
  simp only [keyedDiff]
  induction current with
  | nil => exact .refl _
  | cons entry rest ih =>
    cases prior : lastOf key against (key entry) with
    | none =>
      simp only [filter_cons, filterMap_cons, prior, isNone_none, if_true,
        bind_none, any_none, false_eq_true, if_false, cons_append]
      exact ih.cons entry
    | some older =>
      cases equal : same older entry with
      | true =>
        simp only [filter_cons, filterMap_cons, prior, isNone_some,
          false_eq_true, if_false, bind_some, equal, if_true, any_some]
        exact perm_middle.trans (ih.cons entry)
      | false =>
        simp only [filter_cons, filterMap_cons, prior, isNone_some,
          false_eq_true, if_false, bind_some, equal, any_some,
          map_cons, append_assoc, cons_append]
        rw [append_assoc] at ih
        exact perm_middle.trans (ih.cons entry)

/-- Lookups do not depend on the order of a keyed table. -/
theorem Keyed.find_perm [LawfulBEq κ] {key : α → κ} {rows rows' : List α} (keyed : Keyed key rows)
    (perm : rows.Perm rows') (k : κ)
    : rows.find? (fun row => key row == k) = rows'.find? (fun row => key row == k) := by
  cases found : rows.find? (fun row => key row == k) with
  | none =>
    refine (find?_eq_none.mpr (fun row mem => ?_)).symm
    exact find?_eq_none.mp found row (perm.mem_iff.mpr mem)
  | some row =>
    obtain ⟨mem, named⟩ := mem_of_find found
    subst named
    have keyed' : Keyed key rows' := (perm.map key).nodup_iff.mp keyed
    exact (keyed'.find_eq (perm.mem_iff.mp mem)).symm

theorem mem_modified {key : α → κ} {same : α → α → Bool} {current against : List α}
    {change : α × α}
    : change ∈ (keyedDiff key same current against).modified
      ↔ change.2 ∈ current ∧ lastOf key against (key change.2) = some change.1
        ∧ same change.1 change.2 = false := by
  simp only [keyedDiff, mem_filterMap, bind_eq_some_iff]
  constructor
  · rintro ⟨entry, mem, prior, last, changed⟩
    split at changed
    · cases changed
    · rename_i apart
      cases changed
      exact ⟨mem, last, by simpa using apart⟩
  · rintro ⟨mem, last, apart⟩
    exact ⟨change.2, mem, change.1, last, by simp [apart]⟩

section Patched

variable [LawfulBEq κ] {key : α → κ} {same : α → α → Bool} {current against : List α} {k : κ}

theorem find_added (k : κ)
    : (keyedDiff key same current against).added.find? (fun entry => key entry == k)
      = if (lastOf key against k).isNone then current.find? (fun entry => key entry == k)
        else none := by
  simp only [keyedDiff, find?_filter]
  cases older : lastOf key against k with
  | none =>
    rw [if_pos isNone_none]
    congr 1
    funext entry
    by_cases here : key entry = k
    · simp [here, older]
    · simp [here]
  | some prior =>
    rw [if_neg (by simp), find?_eq_none]
    intro entry _ both
    simp only [decide_eq_true_eq, beq_iff_eq] at both
    rw [both.2, older] at both
    exact absurd both.1 (by simp)

theorem any_deleted (k : κ)
    : (keyedDiff key same current against).deleted.any (fun entry => key entry == k) = true
      ↔ (∃ entry ∈ against, key entry = k) ∧ ∀ entry ∈ current, key entry ≠ k := by
  simp only [keyedDiff, List.any_eq_true, mem_filter, not_eq_true', List.any_eq_false,
    beq_iff_eq]
  constructor
  · rintro ⟨entry, ⟨mem, gone⟩, rfl⟩
    exact ⟨⟨entry, mem, rfl⟩, gone⟩
  · rintro ⟨⟨entry, mem, rfl⟩, gone⟩
    exact ⟨entry, ⟨mem, gone⟩, rfl⟩

/-- Applied to the older entries of some keys, the difference gives the current entries, if these have such
keys and each its own. Witness: one case for each way in which a key can be there.
-/
theorem patched_keyedDiff (identifies : ∀ a b, key a = key b → same a b = true → a = b)
    (keyed : Keyed key current) {keep : κ → Bool}
    (kept : ∀ entry ∈ current, keep (key entry) = true) (k : κ)
    : (keyedDiff key same current against).patched key
        (against.filter (fun entry => keep (key entry))) k
      = current.find? (fun entry => key entry == k) := by
  unfold KeyedDiff.patched
  rw [find_added]
  cases found : current.find? (fun entry => key entry == k) with
  | none =>
    have absent : ∀ entry ∈ current, key entry ≠ k := by simpa using found
    have notModified : (keyedDiff key same current against).modified.find?
        (fun change => key change.2 == k) = none := by
      refine find?_eq_none.mpr (fun change mem here => ?_)
      exact absent change.2 (mem_modified.mp mem).1 (beq_iff_eq.mp here)
    simp only [ite_self, notModified]
    split
    · rfl
    · rename_i notDeleted
      refine lastOf_eq_none_iff.mpr (fun entry mem here => notDeleted ?_)
      exact (any_deleted k).mpr ⟨⟨entry, (mem_filter.mp mem).1, here⟩, absent⟩
  | some entry =>
    have mem := mem_of_find?_eq_some found
    have here := find?_some found
    simp only [beq_iff_eq] at here
    subst here
    cases older : lastOf key against (key entry) with
    | none => simp
    | some prior =>
      simp only [isNone_some, false_eq_true, if_false]
      cases changed : (keyedDiff key same current against).modified.find?
          (fun change => key change.2 == key entry) with
      | some change =>
        obtain ⟨present, _, _⟩ := mem_modified.mp (mem_of_find?_eq_some changed)
        have named := find?_some changed
        simp only [beq_iff_eq] at named
        exact congrArg some (keyed.eq_of_key present mem named)
      | none =>
        have equal : same prior entry = true := by
          by_contra apart
          have seen : (prior, entry) ∈ (keyedDiff key same current against).modified :=
            mem_modified.mpr ⟨mem, older, by simpa using apart⟩
          exact find?_eq_none.mp changed (prior, entry) seen (beq_self_eq_true _)
        have notDeleted : ¬(keyedDiff key same current against).deleted.any
            (fun other => key other == key entry) = true :=
          fun gone => ((any_deleted _).mp gone).2 entry mem rfl
        have named := (mem_of_lastOf older).2
        simp only [if_neg notDeleted]
        rw [lastOf_filter (kept entry mem), older, identifies prior entry named equal]

end Patched

end CairnStone.Data
