import CairnStone.UnifiedConversations.View

/-! What merging leaves: each record once, visible through exactly the identities that list it, and of
threads only summaries that some identity lists.
-/

namespace CairnStone.UnifiedConversations

open JavaScript Data List
open Conversation (OwnedIdentity)
open Correspondence (ThreadSummary)

section Merging

variable {α : Type} {collation : Collation} {key : α → Text}
  {entries : List (Entry α)}

theorem actorId_sorted (item : Provenance) : item.sorted.actorId = item.actorId := rfl

/-- An actor that is not there yet is added. -/
theorem perm_mergeVisibility {existing : List Provenance} {next : Provenance}
    (fresh : next.actorId ∉ existing.map (·.actorId))
    : ((mergeVisibility collation existing next).map (·.actorId)).Perm
        (existing.map (·.actorId) ++ [next.actorId]) := by
  have unknown : existing.any (fun item => item.actorId == next.actorId) = false := by
    rw [any_eq_false]
    intro item mem same
    exact fresh (mem_map.mpr ⟨item, mem, beq_iff_eq.mp same⟩)
  unfold mergeVisibility
  simp only [unknown, Bool.false_eq_true, if_false]
  refine ((perm_insertionSort _ _).map _).trans ?_
  rw [map_map, map_append]
  exact List.Perm.refl _

/-- Which records there are does not depend on whom they are visible through. -/
theorem records_mergeRecord {identity : OwnedIdentity} {record : α} (named : key record ≠ [])
    : (mergeRecord collation key identity entries record).map (·.record)
      = addNew key (entries.map (·.record)) record := by
  unfold mergeRecord addNew
  have there
      : (entries.map (·.record)).any (fun old => key old == key record)
        = entries.any (fun entry => key entry.record == key record) := by
    rw [any_map]
    rfl
  rw [if_neg named, there]
  by_cases known : entries.any (fun entry => key entry.record == key record) = true
  · rw [if_pos known, if_pos known, map_map]
    refine map_congr_left (fun entry _ => ?_)
    simp only [Function.comp_apply]
    split <;> rfl
  · rw [if_neg known, if_neg known, map_append]
    rfl

def listedBy (key : α → Text) (done : List (OwnedIdentity × α)) (k : Text) : List Text :=
  (done.filter (fun step => key step.2 == k)).map (·.1.actorId)

def Traced (key : α → Text) (done : List (OwnedIdentity × α)) (entries : List (Entry α)) : Prop :=
  (∀ step ∈ done, ∃ entry ∈ entries, key entry.record = key step.2)
  ∧ ∀ entry ∈ entries,
    (entry.visibleVia.map (·.actorId)).Perm (listedBy key done (key entry.record))

theorem listedBy_append (done : List (OwnedIdentity × α)) (step : OwnedIdentity × α) (k : Text)
    : listedBy key (done ++ [step]) k
      = listedBy key done k ++ if key step.2 = k then [step.1.actorId] else [] := by
  unfold listedBy
  rw [filter_append, map_append]
  by_cases same : key step.2 = k <;> simp [same]

/-- A merge keeps track of who listed what. Witness: the record is known, and its entry gains an
identity, or the record is new, and no identity has listed it.
-/
theorem Traced.mergeRecord {done : List (OwnedIdentity × α)} (traced : Traced key done entries)
    {identity : OwnedIdentity} {record : α} (named : key record ≠ [])
    (fresh : identity.actorId ∉ listedBy key done (key record))
    : Traced key (done ++ [(identity, record)])
        (UnifiedConversations.mergeRecord collation key identity entries record) := by
  obtain ⟨found, through⟩ := traced
  unfold UnifiedConversations.mergeRecord
  rw [if_neg named]
  by_cases known : entries.any (fun entry => key entry.record == key record) = true
  · rw [if_pos known]
    refine ⟨fun step mem => ?_, fun entry mem => ?_⟩
    · have old : ∃ entry ∈ entries, key entry.record = key step.2 := by
        rcases mem_append.mp mem with early | last
        · exact found step early
        · cases mem_singleton.mp last
          obtain ⟨entry, here, same⟩ := any_eq_true.mp known
          exact ⟨entry, here, beq_iff_eq.mp same⟩
      obtain ⟨entry, here, same⟩ := old
      refine ⟨_, mem_map_of_mem here, ?_⟩
      split <;> exact same
    · obtain ⟨old, here, rfl⟩ := mem_map.mp mem
      have before := through old here
      by_cases same : key old.record = key record
      · rw [if_pos (beq_iff_eq.mpr same)]
        have absent : identity.actorId ∉ old.visibleVia.map (·.actorId) := fun seen =>
          fresh (same ▸ before.mem_iff.mp seen)
        refine (perm_mergeVisibility absent).trans ?_
        rw [listedBy_append, if_pos same.symm]
        exact before.append_right _
      · rw [if_neg (fun equal => same (beq_iff_eq.mp equal)), listedBy_append,
          if_neg (fun equal => same equal.symm), append_nil]
        exact before
  · rw [if_neg known]
    have unseen : listedBy key done (key record) = [] := by
      unfold listedBy
      rw [map_eq_nil_iff, filter_eq_nil_iff]
      intro step mem same
      obtain ⟨entry, here, equal⟩ := found step mem
      refine known (any_eq_true.mpr ⟨entry, here, beq_iff_eq.mpr ?_⟩)
      exact equal.trans (beq_iff_eq.mp same)
    refine ⟨fun step mem => ?_, fun entry mem => ?_⟩
    · rcases mem_append.mp mem with early | last
      · obtain ⟨entry, here, same⟩ := found step early
        exact ⟨entry, mem_append_left _ here, same⟩
      · cases mem_singleton.mp last
        exact ⟨_, mem_append_right _ (mem_singleton_self _), rfl⟩
    · rw [listedBy_append]
      rcases mem_append.mp mem with early | last
      · have other : ¬ key record = key entry.record := fun same =>
          known (any_eq_true.mpr ⟨entry, early, beq_iff_eq.mpr same.symm⟩)
        rw [if_neg other, append_nil]
        exact through entry early
      · cases mem_singleton.mp last
        rw [unseen, if_pos rfl]
        exact List.Perm.refl _

variable {identities : List OwnedIdentity} {listed : OwnedIdentity → List α}

def mergeAll (collation : Collation) (key : α → Text) (listed : OwnedIdentity → List α)
    (identities : List OwnedIdentity) (entries : List (Entry α))
    : List (Entry α) :=
  identities.foldl
    (fun entries identity =>
      (listed identity).foldl (mergeRecord collation key identity) entries)
    entries

/-- The records are the first ones of each key. Witness: induction on the identities, and for each on
what it lists.
-/
theorem records_mergeAll (named : ∀ identity ∈ identities, ∀ a ∈ listed identity, key a ≠ [])
    : (mergeAll collation key listed identities []).map (·.record)
      = merged key identities listed := by
  have one (identity : OwnedIdentity) (rows : List α) (named : ∀ a ∈ rows, key a ≠ [])
      (entries : List (Entry α))
      : (rows.foldl (mergeRecord collation key identity) entries).map (·.record)
        = rows.foldl (addNew key) (entries.map (·.record)) := by
    induction rows generalizing entries with
    | nil => rfl
    | cons row rest ih =>
      rw [foldl_cons, foldl_cons,
        ih (fun a later => named a (.tail _ later)),
        records_mergeRecord (named row (.head _))]
  have general (entries : List (Entry α))
      : (mergeAll collation key listed identities entries).map (·.record)
        = (identities.flatMap listed).foldl (addNew key) (entries.map (·.record)) := by
    unfold mergeAll
    induction identities generalizing entries with
    | nil => rfl
    | cons identity rest ih =>
      rw [foldl_cons, flatMap_cons, foldl_append,
        ih (fun i later => named i (.tail _ later)),
        one identity (listed identity) (named identity (.head _))]
  exact general []

def stepsOf (listed : OwnedIdentity → List α) (identities : List OwnedIdentity)
    : List (OwnedIdentity × α) :=
  identities.flatMap (fun identity => (listed identity).map (fun a => (identity, a)))

theorem listedBy_rows (identity : OwnedIdentity) {rows : List α} (keyed : Keyed key rows) (k : Text)
    : listedBy key (rows.map (fun a => (identity, a))) k
      = if rows.any (fun a => key a == k) then [identity.actorId] else [] := by
  induction rows with
  | nil => rfl
  | cons row rest ih =>
    obtain ⟨apart, keyed'⟩ := nodup_cons.mp keyed
    have rest' := ih keyed'
    unfold listedBy at rest' ⊢
    rw [map_cons, filter_cons, any_cons]
    by_cases same : key row = k
    · have alone : rest.any (fun a => key a == k) = false := by
        rw [any_eq_false]
        intro a later equal
        exact apart (mem_map.mpr ⟨a, later, (beq_iff_eq.mp equal).trans same.symm⟩)
      rw [alone] at rest'
      simp [same, rest']
    · simp [same, rest']

/-- The identities that list a key. Witness: induction on the identities. -/
theorem listedBy_stepsOf (keyed : ∀ identity ∈ identities, Keyed key (listed identity)) (k : Text)
    : listedBy key (stepsOf listed identities) k
      = (identities.filter (fun identity => (listed identity).any (fun a => key a == k))).map
          (·.actorId) := by
  induction identities with
  | nil => rfl
  | cons identity rest ih =>
    have later := ih (fun i mem => keyed i (.tail _ mem))
    have first := listedBy_rows identity (keyed identity (.head _)) k
    unfold listedBy at first later ⊢
    unfold stepsOf at later ⊢
    rw [flatMap_cons, filter_append, map_append, first, later, filter_cons]
    by_cases names : (listed identity).any (fun a => key a == k) = true
    · rw [if_pos names, if_pos names]
      rfl
    · rw [if_neg names, if_neg names]
      rfl

/-- Each entry is visible through the identities that list it. Witness: induction on the identities,
whose actor ids differ, and for each on what it lists.
-/
theorem traced_mergeAll (distinct : (identities.map (·.actorId)).Nodup)
    (keyed : ∀ identity ∈ identities, Keyed key (listed identity))
    (named : ∀ identity ∈ identities, ∀ a ∈ listed identity, key a ≠ [])
    : Traced key (stepsOf listed identities) (mergeAll collation key listed identities []) := by
  have one (identity : OwnedIdentity) (rows : List α) (keyed : Keyed key rows)
      (named : ∀ a ∈ rows, key a ≠ []) (done : List (OwnedIdentity × α))
      (fresh : ∀ a ∈ rows, identity.actorId ∉ listedBy key done (key a)) (entries : List (Entry α))
      (traced : Traced key done entries)
      : Traced key (done ++ rows.map (fun a => (identity, a)))
          (rows.foldl (mergeRecord collation key identity) entries) := by
    induction rows generalizing done entries with
    | nil => simpa using traced
    | cons row rest ih =>
      obtain ⟨apart, keyed'⟩ := nodup_cons.mp keyed
      have step
          : Traced key (done ++ [(identity, row)])
              (mergeRecord collation key identity entries row) :=
        traced.mergeRecord (named row (.head _)) (fresh row (.head _))
      have unlisted : ∀ a ∈ rest,
          identity.actorId ∉ listedBy key (done ++ [(identity, row)]) (key a) := by
        intro a later seen
        have other : ¬ key row = key a := fun same =>
          apart (mem_map.mpr ⟨a, later, same.symm⟩)
        rw [listedBy_append, if_neg other, append_nil] at seen
        exact fresh a (.tail _ later) seen
      have whole := ih keyed' (fun a later => named a (.tail _ later)) _ unlisted _
        step
      rw [append_assoc] at whole
      exact whole
  have general (done : List (OwnedIdentity × α)) (entries : List (Entry α))
      (apart : ∀ identity ∈ identities, ∀ step ∈ done, step.1.actorId ≠ identity.actorId)
      (traced : Traced key done entries)
      : Traced key (done ++ stepsOf listed identities)
          (mergeAll collation key listed identities entries) := by
    induction identities generalizing done entries with
    | nil => simpa [stepsOf, mergeAll] using traced
    | cons identity rest ih =>
      obtain ⟨different, distinct'⟩ := nodup_cons.mp distinct
      have fresh : ∀ a ∈ listed identity, identity.actorId ∉ listedBy key done (key a) := by
        intro a _ seen
        obtain ⟨step, among, same⟩ := mem_map.mp seen
        exact apart identity (.head _) step (mem_filter.mp among).1 same
      have first := one identity (listed identity) (keyed identity (.head _))
        (named identity (.head _)) done fresh entries traced
      have onward : ∀ i ∈ rest,
          ∀ step ∈ done ++ (listed identity).map (fun a => (identity, a)),
            step.1.actorId ≠ i.actorId := by
        intro i later step among
        rcases mem_append.mp among with early | mine
        · exact apart i (.tail _ later) step early
        · obtain ⟨a, _, rfl⟩ := mem_map.mp mine
          exact fun same => different (mem_map.mpr ⟨i, later, same.symm⟩)
      have whole := ih distinct' (fun i later => keyed i (.tail _ later))
        (fun i later => named i (.tail _ later)) _ _ onward first
      rw [append_assoc] at whole
      exact whole
  have start : Traced key ([] : List (OwnedIdentity × α)) [] := by
    constructor <;> intro _ never <;> cases never
  refine general [] [] (fun _ _ _ never => ?_) start
  cases never

end Merging

section Threads

variable {collation : Collation} {owns : Text → Prop} {holds : Text → ThreadSummary → Prop}
  {entries : List ThreadEntry}

theorem actorId_of_mem_mergeVisibility {existing : List Provenance} {next item : Provenance}
    (mem : item ∈ mergeVisibility collation existing next)
    : item.actorId ∈ existing.map (·.actorId) ∨ item.actorId = next.actorId := by
  unfold mergeVisibility at mem
  simp only [] at mem
  obtain ⟨merged, among, rfl⟩ := mem_map.mp ((mem_insertionSort _).mp mem)
  rw [actorId_sorted]
  split at among
  · obtain ⟨old, here, rfl⟩ := mem_map.mp among
    have kept
        : (if (old.actorId == next.actorId) = true then old.absorb next else old).actorId
          = old.actorId := by
      split <;> rfl
    rw [kept]
    exact .inl (mem_map_of_mem here)
  · rcases mem_append.mp among with old | added
    · exact .inl (mem_map_of_mem old)
    · cases mem_singleton.mp added
      exact .inr rfl

structure ThreadFor (owns : Text → Prop) (holds : Text → ThreadSummary → Prop) (entry : ThreadEntry)
    : Prop where
  visibleVia : ∀ item ∈ entry.visibleVia, owns item.actorId
  views : ∀ view ∈ entry.recipientViews, owns view.actorId ∧ holds view.actorId view.summary
  summary : ∃ view ∈ entry.recipientViews, view.summary = entry.summary

theorem threadFor_mergeThread {identity : OwnedIdentity} {thread : ThreadSummary}
    (every : ∀ entry ∈ entries, ThreadFor owns holds entry) (owned : owns identity.actorId)
    (held : holds identity.actorId thread)
    : ∀ entry ∈ mergeThread collation identity entries thread, ThreadFor owns holds entry := by
  intro entry mem
  unfold mergeThread at mem
  simp only [] at mem
  split at mem
  · exact every entry mem
  split at mem
  · obtain ⟨old, here, rfl⟩ := mem_map.mp mem
    have before := every old here
    split
    · refine ⟨fun item shown => ?_, fun view shown => ?_, ?_⟩
      · rcases actorId_of_mem_mergeVisibility shown with seen | same
        · obtain ⟨prior, among, equal⟩ := mem_map.mp seen
          rw [← equal]
          exact before.visibleVia prior among
        · rw [same]
          exact owned
      · rcases mem_append.mp shown with earlier | last
        · exact before.views view earlier
        · cases mem_singleton.mp last
          exact ⟨owned, held⟩
      · simp only []
        split
        · exact ⟨_, mem_append_right _ (mem_singleton_self _), rfl⟩
        · obtain ⟨view, among, same⟩ := before.summary
          exact ⟨view, mem_append_left _ among, same⟩
    · exact before
  · rcases mem_append.mp mem with old | added
    · exact every entry old
    · cases mem_singleton.mp added
      refine ⟨fun item shown => ?_, fun view shown => ?_, ?_⟩
      · cases mem_singleton.mp shown
        exact owned
      · cases mem_singleton.mp shown
        exact ⟨owned, held⟩
      · exact ⟨_, mem_singleton_self _, rfl⟩

/-- Witness: induction on the summaries. -/
theorem threadFor_foldl {identity : OwnedIdentity} {threads : List ThreadSummary}
    (owned : owns identity.actorId) (held : ∀ thread ∈ threads, holds identity.actorId thread)
    (every : ∀ entry ∈ entries, ThreadFor owns holds entry)
    : ∀ entry ∈ threads.foldl (mergeThread collation identity) entries,
        ThreadFor owns holds entry := by
  induction threads generalizing entries with
  | nil => exact every
  | cons thread rest ih =>
    apply ih (fun later mem => held later (.tail _ mem))
    exact threadFor_mergeThread every owned (held thread (.head _))

end Threads

end CairnStone.UnifiedConversations
