import CairnStone.Data.Table
import Mathlib.Data.List.Sort

/-! The first rows of a stable sort, and what is lost when they are taken from sources each of which
was cut before the merge.

A relation `r a b` reads "`a` is at least as new as `b`".
-/

namespace CairnStone.Data

open List Keyed

variable {α κ ι : Type} {key : α → κ}
  {rows : List α} {a b : α}

theorem Keyed.sublist {part : List α} (keyed : Keyed key rows) (within : part.Sublist rows)
    : Keyed key part :=
  (within.map key).nodup keyed

theorem Keyed.perm {moved : List α} (keyed : Keyed key rows) (same : moved.Perm rows)
    : Keyed key moved :=
  (same.map key).nodup_iff.mpr keyed

theorem filterMap_sublist_map {β : Type} {f : α → Option β} {g : α → β}
    (each : ∀ a b, f a = some b → b = g a) (l : List α)
    : (l.filterMap f).Sublist (l.map g) := by
  induction l with
  | nil => exact .slnil
  | cons a rest ih =>
    rw [map_cons]
    cases found : f a with
    | none =>
      rw [filterMap_cons_none found]
      exact ih.cons _
    | some b =>
      rw [filterMap_cons_some found, each a b found]
      exact ih.cons_cons _

variable [BEq κ] {r : α → α → Prop} [DecidableRel r]

def addNew (key : α → κ) (rows : List α) (row : α) : List α :=
  if rows.any (fun old => key old == key row) then rows else rows ++ [row]

def distinct (key : α → κ) (rows : List α) : List α :=
  rows.foldl (addNew key) []

theorem mem_map_addNew [LawfulBEq κ] {row : α} {k : κ}
    : k ∈ (addNew key rows row).map key ↔ k ∈ rows.map key ∨ k = key row := by
  unfold addNew
  split
  · rename_i known
    refine ⟨.inl, ?_⟩
    rintro (old | rfl)
    · exact old
    · obtain ⟨old, mem, same⟩ := any_eq_true.mp known
      exact mem_map.mpr ⟨old, mem, beq_iff_eq.mp same⟩
  · rw [map_append, mem_append]
    exact or_congr Iff.rfl mem_singleton

theorem mem_of_mem_addNew {row : α} (mem : a ∈ addNew key rows row)
    : a ∈ rows ∨ a = row := by
  unfold addNew at mem
  split at mem
  · exact .inl mem
  · exact (mem_append.mp mem).imp_right mem_singleton.mp

theorem Keyed.addNew [LawfulBEq κ] (keyed : Keyed key rows) (row : α)
    : Keyed key (addNew key rows row) := by
  unfold Data.addNew
  split
  · exact keyed
  · rename_i unknown
    refine keyed.append_singleton (fun old mem same => unknown ?_)
    exact any_eq_true.mpr ⟨old, mem, beq_iff_eq.mpr same⟩

/-- What the first rows of each key are. Witness: induction on the rows, from any that came before. -/
theorem foldl_addNew [LawfulBEq κ] {before : List α} (keyed : Keyed key before)
    : Keyed key (rows.foldl (Data.addNew key) before)
      ∧ (∀ k, k ∈ (rows.foldl (Data.addNew key) before).map key
        ↔ k ∈ before.map key ∨ k ∈ rows.map key)
      ∧ ∀ a ∈ rows.foldl (Data.addNew key) before, a ∈ before ∨ a ∈ rows := by
  induction rows generalizing before with
  | nil => exact ⟨keyed, fun k => by simp, fun a mem => .inl mem⟩
  | cons row rest ih =>
    obtain ⟨unique, keys, origin⟩ := ih (keyed.addNew row)
    refine ⟨unique, fun k => ?_, fun a mem => ?_⟩
    · rw [foldl_cons, keys, mem_map_addNew, map_cons, mem_cons, or_assoc]
    · rcases origin a mem with early | late
      · rcases mem_of_mem_addNew early with old | rfl
        · exact .inl old
        · exact .inr (.head _)
      · exact .inr (.tail _ late)

theorem keyed_distinct [LawfulBEq κ] (rows : List α) : Keyed key (distinct key rows) :=
  (foldl_addNew nil).1

theorem mem_of_mem_distinct [LawfulBEq κ] (mem : a ∈ distinct key rows)
    : a ∈ rows :=
  ((foldl_addNew nil).2.2 a mem).resolve_left (by simp)

theorem mem_distinct [LawfulBEq κ] (determined : ∀ a ∈ rows, ∀ b ∈ rows, key a = key b → a = b)
    : a ∈ distinct key rows ↔ a ∈ rows := by
  refine ⟨mem_of_mem_distinct, fun mem => ?_⟩
  have named : key a ∈ (distinct key rows).map key :=
    ((foldl_addNew nil).2.1 (key a)).mpr (.inr (mem_map_of_mem mem))
  obtain ⟨b, kept, same⟩ := mem_map.mp named
  rw [← determined b (mem_of_mem_distinct kept) a mem same]
  exact kept

/-- How many rows a stable sort places before a row: of those that came earlier the ones that are at
least as new, of the others the newer ones.
-/
def rank (r : α → α → Prop) [DecidableRel r] (key : α → κ) (rows : List α) (b : α) : Nat :=
  (rows.takeWhile (fun a => key a != key b)).countP (fun a => r a b)
  + (rows.dropWhile (fun a => key a != key b)).countP (fun a => !decide (r b a))

section Sorting

variable [IsTrans α r]
  {b : α}

/-- An insertion into a sorted list moves an element by one place if what is inserted belongs before
it. Witness: induction on the list; the new element stops at the first one that it belongs before.
-/
theorem idxOf_orderedInsert [DecidableEq α] {l : List α} (sorted : l.Pairwise r) {a : α}
    (different : a ≠ b) (mem : b ∈ l)
    : (l.orderedInsert r a).idxOf b = l.idxOf b + if r a b then 1 else 0 := by
  induction l with
  | nil => cases mem
  | cons c rest ih =>
    obtain ⟨before, sorted'⟩ := pairwise_cons.mp sorted
    by_cases first : r a c
    · rw [orderedInsert_cons_of_le r rest first, idxOf_cons_ne _ different]
      have ahead : r a b := by
        rcases mem_cons.mp mem with rfl | later
        · exact first
        · exact IsTrans.trans _ _ _ first (before b later)
      rw [if_pos ahead]
    · rw [orderedInsert_of_not_le r rest first]
      by_cases same : c = b
      · subst same
        rw [idxOf_cons_self, idxOf_cons_self, if_neg first]
      · have later : b ∈ rest := (mem_cons.mp mem).resolve_left (Ne.symm same)
        rw [idxOf_cons_ne _ same, idxOf_cons_ne _ same, ih sorted' later]
        omega

/-- An element that is inserted into a sorted list comes after the newer ones.
Witness: induction on the list; behind an element that it belongs before there is no newer one.
-/
theorem idxOf_orderedInsert_self [DecidableEq α] {l : List α} (sorted : l.Pairwise r)
    (fresh : b ∉ l)
    : (l.orderedInsert r b).idxOf b = l.countP (fun a => !decide (r b a)) := by
  induction l with
  | nil => simp
  | cons c rest ih =>
    obtain ⟨before, sorted'⟩ := pairwise_cons.mp sorted
    have other : c ≠ b := fun same => fresh (same ▸ (.head _))
    by_cases first : r b c
    · rw [orderedInsert_cons_of_le r rest first, idxOf_cons_self]
      symm
      rw [countP_eq_zero]
      intro a mem
      have behind : r b a := by
        rcases mem_cons.mp mem with rfl | later
        · exact first
        · exact IsTrans.trans _ _ _ first (before a later)
      simp [behind]
    · rw [orderedInsert_of_not_le r rest first, idxOf_cons_ne _ other,
        ih sorted' (fun later => fresh (.tail _ later)), countP_cons]
      simp [first]

variable [Std.Total r]

/-- The place of an element in a stable sort. Witness: induction on what comes before it. -/
theorem idxOf_insertionSort [DecidableEq α] {front back : List α} (unseen : b ∉ front)
    (once : b ∉ back)
    : ((front ++ b :: back).insertionSort r).idxOf b
      = front.countP (fun a => r a b) + back.countP (fun a => !decide (r b a)) := by
  induction front with
  | nil =>
    have fresh : b ∉ back.insertionSort r := fun mem =>
      once ((mem_insertionSort r).mp mem)
    rw [nil_append, insertionSort_cons,
      idxOf_orderedInsert_self (pairwise_insertionSort r back) fresh]
    simp only [countP_nil, Nat.zero_add]
    exact (perm_insertionSort r back).countP_eq _
  | cons a rest ih =>
    have different : a ≠ b := fun same => unseen (same ▸ (.head _))
    have mem : b ∈ (rest ++ b :: back).insertionSort r :=
      (mem_insertionSort r).mpr (by simp)
    rw [cons_append, insertionSort_cons,
      idxOf_orderedInsert (pairwise_insertionSort r _) different mem,
      ih (fun later => unseen (.tail _ later)), countP_cons]
    simp only [decide_eq_true_eq]
    omega

/-- A row is among the first ones of a stable sort if few others are placed before it.
Witness: the rows split at its key.
-/
theorem mem_take_insertionSort [LawfulBEq κ] {rows : List α} (keyed : Keyed key rows)
    (mem : b ∈ rows) {n : Nat}
    : b ∈ (rows.insertionSort r).take n ↔ rank r key rows b < n := by
  classical
  obtain ⟨front, back, rfl⟩ := append_of_mem mem
  have unique : ∀ a ∈ front ++ b :: back, key a = key b → a = b := fun a here same =>
    keyed.eq_of_key here mem same
  have nodup : (front ++ b :: back).Nodup := keyed.of_map
  have unseen : b ∉ front := fun early => by
    have apart := (nodup_append.mp nodup).2.2 b early b (.head _)
    exact apart rfl
  have once : b ∉ back := (nodup_cons.mp (nodup_append.mp nodup).2.1).1
  have prior : ∀ a ∈ front, (key a != key b) = true := by
    intro a early
    rw [bne_iff_ne]
    intro same
    exact unseen (unique a (mem_append_left _ early) same ▸ early)
  have ranked
      : rank r key (front ++ b :: back) b
        = front.countP (fun a => r a b) + back.countP (fun a => !decide (r b a)) := by
    have self : r b b := (Std.Total.total b b).elim id id
    unfold rank
    rw [takeWhile_append_of_pos prior, dropWhile_append_of_pos prior]
    simp [self]
  rw [mem_take_iff_idxOf_lt ((mem_insertionSort r).mpr mem),
    idxOf_insertionSort unseen once, ranked]

end Sorting

theorem rank_le_length : rank r key rows b ≤ rows.length := by
  have parts := congrArg List.length
    (takeWhile_append_dropWhile (p := fun a => key a != key b) (l := rows))
  rw [length_append] at parts
  have early := countP_le_length (p := fun a => decide (r a b))
    (l := rows.takeWhile (fun a => key a != key b))
  have late := countP_le_length (p := fun a => !decide (r b a))
    (l := rows.dropWhile (fun a => key a != key b))
  unfold rank
  omega

/-- Before a row that is not among the others come those that are at least as new. -/
theorem rank_of_unlisted [LawfulBEq κ] (unlisted : ∀ a ∈ rows, key a ≠ key b)
    : rank r key rows b = rows.countP (fun a => r a b) := by
  have other : ∀ a ∈ rows, (key a != key b) = true := fun a mem =>
    bne_iff_ne.mpr (unlisted a mem)
  unfold rank
  have all : rows.takeWhile (fun a => key a != key b) = rows := by
    have taken : (rows ++ []).takeWhile (fun a => key a != key b) = rows ++ [] :=
      takeWhile_append_of_pos other
    rwa [append_nil] at taken
  have none : rows.dropWhile (fun a => key a != key b) = [] := by
    have dropped : (rows ++ []).dropWhile (fun a => key a != key b) = [] :=
      dropWhile_append_of_pos other
    rwa [append_nil] at dropped
  rw [all, none, countP_nil, Nat.add_zero]

/-- Whatever is at least as new as a newer row comes before an older one. -/
theorem countP_le_rank [Std.Total r] [IsTrans α r] (older : ¬ r b a)
    : rows.countP (fun u => r u a) ≤ rank r key rows b := by
  have split
      : rows.countP (fun u => r u a)
        = (rows.takeWhile (fun u => key u != key b)).countP (fun u => r u a)
          + (rows.dropWhile (fun u => key u != key b)).countP (fun u => r u a) := by
    rw [← countP_append, takeWhile_append_dropWhile]
  have newer (u : α) (before : r u a) : ¬ r b u := fun behind => older (IsTrans.trans _ _ _ behind before)
  have early : (rows.takeWhile (fun u => key u != key b)).countP (fun u => r u a)
      ≤ (rows.takeWhile (fun u => key u != key b)).countP (fun u => r u b) := by
    refine countP_mono_left (fun u _ before => ?_)
    rw [decide_eq_true_eq] at before ⊢
    exact (Std.Total.total u b).resolve_right (newer u before)
  have late : (rows.dropWhile (fun u => key u != key b)).countP (fun u => r u a)
      ≤ (rows.dropWhile (fun u => key u != key b)).countP (fun u => !decide (r b u)) := by
    refine countP_mono_left (fun u _ before => ?_)
    rw [decide_eq_true_eq] at before
    simpa using newer u before
  unfold rank
  omega

structure Newest (key : α → κ) (r : α → α → Prop) (limit : Nat) (all shown : List α) : Prop where
  keyed : Keyed key shown
  subset : ∀ a ∈ shown, a ∈ all
  sorted : shown.Pairwise r
  length : shown.length = min limit all.length
  latest : ∀ a ∈ all, a ∉ shown → ∀ b ∈ shown, r b a

structure Reached (key : α → κ) (sources : List ι) (access : ι → α → Prop) (listed : ι → List α)
    (all : List α)
    : Prop where
  keyed : Keyed key all
  reached : ∀ a ∈ all, ∃ i ∈ sources, access i a
  listed : ∀ i ∈ sources, ∀ a ∈ listed i, a ∈ all ∧ access i a

def merged (key : α → κ) (sources : List ι) (listed : ι → List α) : List α :=
  distinct key (sources.flatMap listed)

def shown (key : α → κ) (r : α → α → Prop) [DecidableRel r] (sources : List ι) (listed : ι → List α)
    (limit : Nat)
    : List α :=
  ((merged key sources listed).insertionSort r).take limit

namespace Reached

variable {sources : List ι} {access : ι → α → Prop} {listed : ι → List α} {all : List α}
  {limit : Nat}
  {a : α}

theorem mem_merged [LawfulBEq κ] (reached : Reached key sources access listed all)
    : a ∈ merged key sources listed ↔ ∃ i ∈ sources, a ∈ listed i := by
  unfold merged
  rw [mem_distinct, mem_flatMap]
  intro a first b second same
  obtain ⟨i, source, first⟩ := mem_flatMap.mp first
  obtain ⟨j, source', second⟩ := mem_flatMap.mp second
  exact reached.keyed.eq_of_key (reached.listed i source a first).1
    (reached.listed j source' b second).1 same

theorem mem_all [LawfulBEq κ] (reached : Reached key sources access listed all)
    (mem : a ∈ merged key sources listed)
    : a ∈ all := by
  obtain ⟨i, source, found⟩ := reached.mem_merged.mp mem
  exact (reached.listed i source a found).1

theorem mem_merged_of_mem_shown (mem : a ∈ shown key r sources listed limit)
    : a ∈ merged key sources listed :=
  (mem_insertionSort r).mp (mem_of_mem_take mem)

theorem length_shown
    : (shown key r sources listed limit).length = min limit (merged key sources listed).length := by
  unfold shown
  rw [length_take, length_insertionSort]

theorem unlisted [LawfulBEq κ] (reached : Reached key sources access listed all)
    (here : a ∈ all) (lost : a ∉ merged key sources listed)
    : ∀ b ∈ merged key sources listed, key b ≠ key a := by
  intro b mem same
  have equal := reached.keyed.eq_of_key (reached.mem_all mem) here same
  exact lost (equal ▸ mem)

theorem length_merged_le [LawfulBEq κ] (reached : Reached key sources access listed all)
    : (merged key sources listed).length ≤ all.length := by
  have unique : (merged key sources listed).Nodup := (keyed_distinct _).of_map
  exact (subperm_of_subset unique (fun a mem => reached.mem_all mem)).length_le

variable [Std.Total r] [IsTrans α r]

theorem mem_shown_iff [LawfulBEq κ] (mem : a ∈ merged key sources listed)
    : a ∈ shown key r sources listed limit ↔ rank r key (merged key sources listed) a < limit :=
  mem_take_insertionSort (keyed_distinct _) mem

theorem latest_of_merged {b : α} (mem : a ∈ merged key sources listed)
    (hidden : a ∉ shown key r sources listed limit)
    (seen : b ∈ shown key r sources listed limit)
    : r b a := by
  have sorted := pairwise_insertionSort r (merged key sources listed)
  have dropped : a ∈ ((merged key sources listed).insertionSort r).drop limit := by
    have whole := (mem_insertionSort r).mpr mem
    rw [← take_append_drop limit ((merged key sources listed).insertionSort r)] at whole
    exact (mem_append.mp whole).resolve_left hidden
  exact sorted.rel_of_mem_take_of_mem_drop seen dropped

/-- Cut sources show the newest of what they reach, and each row is listed by every source that
reaches it, exactly if a row that some source cuts off has enough others before it.
Witness: a row is shown as its rank says; one that no source lists is missed unless the rows at
least as new fill the view.
-/
theorem newest_iff [LawfulBEq κ] (reached : Reached key sources access listed all)
    : (Newest key r limit all (shown key r sources listed limit)
        ∧ ∀ a ∈ shown key r sources listed limit, ∀ i ∈ sources, access i a → a ∈ listed i)
      ↔ ∀ a ∈ all, (∀ i ∈ sources, access i a → a ∈ listed i)
        ∨ limit ≤ rank r key (merged key sources listed) a := by
  constructor
  · rintro ⟨newest, complete⟩ a here
    by_contra neither
    obtain ⟨cut, few⟩ := not_or.mp neither
    have few := Nat.lt_of_not_le few
    by_cases mem : a ∈ merged key sources listed
    · exact cut (complete a ((mem_shown_iff mem).mpr few))
    · have apart := reached.unlisted here mem
      -- The row is missing, so the view is full, and all that it shows is at least as new.
      have lost : a ∉ shown key r sources listed limit := fun seen =>
        mem (mem_merged_of_mem_shown seen)
      have more : (merged key sources listed).length < all.length := by
        have unique : (a :: merged key sources listed).Nodup :=
          nodup_cons.mpr ⟨mem, (keyed_distinct _).of_map⟩
        refine (subperm_of_subset unique (fun b among => ?_)).length_le
        rcases mem_cons.mp among with rfl | later
        · exact here
        · exact reached.mem_all later
      have full : (shown key r sources listed limit).length = limit := by
        have exact := newest.length
        rw [length_shown] at exact ⊢
        omega
      rw [rank_of_unlisted apart] at few
      have counted : (shown key r sources listed limit).countP (fun b => r b a) = limit := by
        rw [countP_eq_length.mpr, full]
        intro b seen
        exact decide_eq_true (newest.latest a here lost b seen)
      have within : (shown key r sources listed limit).countP (fun b => r b a)
          ≤ (merged key sources listed).countP (fun b => r b a) := by
        rw [← (perm_insertionSort r (merged key sources listed)).countP_eq]
        exact (take_sublist limit _).countP_le
      omega
  · intro covered
    have complete : ∀ a ∈ shown key r sources listed limit, ∀ i ∈ sources, access i a
        → a ∈ listed i := by
      intro a seen
      have mem := mem_merged_of_mem_shown seen
      have few := (mem_shown_iff mem).mp seen
      exact (covered a (reached.mem_all mem)).resolve_right (Nat.not_le_of_lt few)
    refine ⟨⟨?_, ?_, ?_, ?_, ?_⟩, complete⟩
    · have sorted : Keyed key ((merged key sources listed).insertionSort r) :=
        (keyed_distinct _).perm (perm_insertionSort r _)
      exact sorted.sublist (take_sublist limit _)
    · exact fun a seen => reached.mem_all (mem_merged_of_mem_shown seen)
    · exact (pairwise_insertionSort r _).sublist (take_sublist limit _)
    · rw [length_shown]
      have upper := reached.length_merged_le
      by_cases full : limit ≤ (merged key sources listed).length
      · omega
      · -- The view is not full, so nothing is overtaken, and every row is listed.
        have whole : all.length ≤ (merged key sources listed).length := by
          have unique : all.Nodup := reached.keyed.of_map
          refine (subperm_of_subset unique (fun a here => ?_)).length_le
          have few : ¬ limit ≤ rank r key (merged key sources listed) a := by
            have bound : rank r key (merged key sources listed) a
                ≤ (merged key sources listed).length := rank_le_length
            omega
          obtain ⟨i, source, through⟩ := reached.reached a here
          exact reached.mem_merged.mpr
            ⟨i, source, (covered a here).resolve_right few i source through⟩
        omega
    · intro a here hidden b seen
      by_cases mem : a ∈ merged key sources listed
      · exact latest_of_merged mem hidden seen
      · by_contra older
        have ahead : (merged key sources listed).countP (fun u => r u a)
            ≤ rank r key (merged key sources listed) b := countP_le_rank older
        have placed := (mem_shown_iff (mem_merged_of_mem_shown seen)).mp seen
        rcases covered a here with everywhere | overtaken
        · obtain ⟨i, source, through⟩ := reached.reached a here
          exact mem (reached.mem_merged.mpr ⟨i, source, everywhere i source through⟩)
        · rw [rank_of_unlisted (reached.unlisted here mem)] at overtaken
          omega

end Reached

end CairnStone.Data
