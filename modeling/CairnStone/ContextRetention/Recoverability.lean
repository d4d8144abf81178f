import CairnStone.ContextRetention.Rehydration

/-! Whether what leaves the context can be found again. A candidate leaves by the mere presence of
references, and the route to it follows the precedence of their fields, so it is found again exactly if
the reference which that precedence selects is an exact one.
-/

namespace CairnStone.ContextRetention

open JavaScript TaskRuns List Option

variable {candidate : Value}
  {value : Value} {ref : Text} {refs : Value → List Value} {accepted : Text → Prop}
  {rehydrate : Option Route} {repoRef : Option Text}

structure Planned where
  decision : Value
  rehydrate : Option Route

def planEntry (entry : Value) : Planned :=
  let decided := if (entry.get (text "action")).truthy then entry else classifyCandidate entry
  { decision := decided
    rehydrate :=
      if leavesContext decided && (firstNonEmptyRefFromCandidate decided).isSome then
        some (rehydrateRoute decided)
      else none }

def planRehydration (decisionsOrCandidates : List Value) : List Planned :=
  decisionsOrCandidates.map planEntry

/-- The references of the candidate itself, as texts without white space around them. -/
def ownRefs (candidate : Value) : List Text :=
  (refsOf candidate).filterMap nonEmptyString

/-- Nothing that leaves the context is stranded: what leaves it has an exact route by a reference of its
own or by the newer reference that it is dropped for, and no route reads a repository at anything but a
commit.
-/
structure StrandsNothing (candidate : Value) (planned : Planned) : Prop where
  kept
    : takes planned.decision .keepRef = true
      → ∃ route ref, planned.rehydrate = some route ∧ route.ok = true ∧ route.exact = true
        ∧ route.ref = some ref ∧ ref ∈ ownRefs candidate
  dropped
    : takes planned.decision .dropFromActiveContext = true
      → ∃ route ref, planned.rehydrate = some route ∧ route.ok = true ∧ route.exact = true
        ∧ route.ref = some ref ∧ nonEmptyString (newerImmutableRefOf candidate) = some ref
  pinned
    : ∀ route ref, planned.rehydrate = some route → route.ok = true → route.ref = some ref
      → startsWith "repo:" ref = true → IsPinned ref

/-- A reference to a repository at anything but a commit -/
def isUnpinned (ref : Text) : Bool :=
  startsWith "repo:" ref && !isExactRepoSnapshotRef ref

def firstOwn (refs : Value → List Value) (candidate : Value) : Option Text :=
  firstNonEmptyString (refs candidate)

/-- The reference that is selected for a kept reference is exact: its stone, or else what its first
reference names by itself, or else its receipt or checkpoint, or else its repository at a commit.
-/
def keepsExactRef (candidate : Value) : Bool :=
  match firstOwn stoneRefsOf candidate with
  | some stoneRef => !isUnpinned stoneRef
  | none =>
    (firstOwn refsOf candidate).any (fun ref => namesStone ref || namesReceipt ref
      || (match firstOwn receiptOrCheckpointRefsOf candidate with
        | some receiptRef => !isUnpinned receiptRef
        | none => isExactRepoSnapshotRef ((firstOwn repoRefsOf candidate).getD ref)))

def dropsForExactRef (candidate : Value) : Bool :=
  (nonEmptyString (newerImmutableRefOf candidate)).any (fun ref =>
    match firstOwn stoneRefsOf candidate with
    | some stoneRef => stoneRef == ref && !isUnpinned ref
    | none =>
      namesStone ref || namesReceipt ref
      || (match firstOwn receiptOrCheckpointRefsOf candidate with
        | some receiptRef => receiptRef == ref && !isUnpinned ref
        | none =>
          isExactRepoSnapshotRef ref
          && ((nonEmptyString (markedBy ["repo:"] (newerImmutableRefOf candidate))).isSome
            || (firstOwn repoRefsOf candidate).all (· == ref))))

/-- The candidate stays as a whole, or it leaves for an exact reference. -/
def isRecoverable (candidate : Value) : Bool :=
  isRetainedWhole candidate
  || (if isRedundantSuccessfulRead candidate then dropsForExactRef candidate
      else keepsExactRef candidate)

theorem firstNonEmptyString_append (first second : List Value)
    : firstNonEmptyString (first ++ second)
      = (firstNonEmptyString first).or (firstNonEmptyString second) := by
  unfold firstNonEmptyString
  exact findSome?_append

/-- Where a decision has no reference of a kind by itself, those of its candidate count. -/
theorem firstFrom_decision (refs : Value → List Value) {proto : Proto}
    {properties newer : List (Text × Value)} {action : RetentionAction} {reason : String}
    : firstFrom refs (decision (.object proto properties) action newer reason)
      = (firstOwn refs (decision (.object proto properties) action newer reason)).or
          (firstOwn refs (.object proto properties)) := by
  unfold firstFrom firstOwn
  rw [firstNonEmptyString_append]
  rfl

/-- The references of a kept candidate are its own. -/
theorem firstFrom_keepRef (proto : Proto) (properties : List (Text × Value))
    : ∀ refs ∈ [refsOf, stoneRefsOf, repoRefsOf, receiptOrCheckpointRefsOf],
        firstFrom refs (keepRefDecision (.object proto properties))
          = firstOwn refs (.object proto properties) := by
  intro refs mem
  unfold keepRefDecision
  rw [firstFrom_decision]
  simp only [mem_cons, not_mem_nil, or_false] at mem
  rcases mem with rfl | rfl | rfl | rfl
  · exact none_or
  · exact none_or
  · exact none_or
  · exact none_or

theorem firstNonEmptyString_cons (value : Value) (rest : List Value)
    : firstNonEmptyString (value :: rest) = (nonEmptyString value).or (firstNonEmptyString rest) := by
  unfold firstNonEmptyString
  rw [findSome?_cons]
  cases nonEmptyString value with
  | none => rfl
  | some s => rfl

/-- The references of a dropped candidate are the newer one, as far as it is of their kind, and then its
own.
-/
theorem firstFrom_drop (proto : Proto) (properties : List (Text × Value))
    : ∀ picked ∈
        [(refsOf, id), (stoneRefsOf, fun _ => .null), (repoRefsOf, markedBy ["repo:"]),
          (receiptOrCheckpointRefsOf, markedBy ["receipt:", "checkpoint:"])],
        firstFrom picked.1 (dropDecision (.object proto properties))
          = (nonEmptyString (picked.2 (newerImmutableRefOf (.object proto properties)))).or
              (firstOwn picked.1 (.object proto properties)) := by
  intro picked mem
  unfold dropDecision
  rw [firstFrom_decision]
  congr 1
  have only (value : Value) : firstNonEmptyString [value] = nonEmptyString value :=
    (firstNonEmptyString_cons value []).trans or_none
  have leads (value : Value) {rest : List Value} (others : firstNonEmptyString rest = none)
      : firstNonEmptyString (value :: rest) = nonEmptyString value := by
    rw [firstNonEmptyString_cons, others, or_none]
  simp only [mem_cons, not_mem_nil, or_false] at mem
  rcases mem with rfl | rfl | rfl | rfl
  · exact leads _ rfl
  · rfl
  · exact leads (markedBy ["repo:"] (newerImmutableRefOf (.object proto properties))) rfl
  · exact only (markedBy ["receipt:", "checkpoint:"] (newerImmutableRefOf (.object proto properties)))

theorem mem_of_markedBy {marks : List String}
    (named : nonEmptyString (markedBy marks value) = some ref)
    : nonEmptyString value = some ref := by
  cases value with
  | string s =>
    unfold markedBy at named
    simp only at named
    split at named
    · exact named
    · cases named
  | _ => cases named

/-- A visible start survives trimming. -/
theorem isPrefix_trim {start s : Text} (all : start.all (fun u => !isWhiteSpace u) = true)
    (leads : start <+: s)
    : start <+: trim s := by
  have visible (u : CodeUnit) (mem : u ∈ start) : isWhiteSpace u = false :=
    Bool.not_eq_true' _ ▸ List.all_eq_true.mp all u mem
  have stays (t : Text) (seen : ∀ u ∈ t, isWhiteSpace u = false) : trimStart t = t := by
    refine trimStart_of_head (fun u rest split => seen u ?_)
    rw [split]
    exact .head _
  obtain ⟨rest, rfl⟩ := leads
  cases start with
  | nil => exact nil_prefix
  | cons u start =>
    have whole : trimStart (u :: start ++ rest) = u :: start ++ rest := by
      refine trimStart_of_head (fun v later split => ?_)
      obtain ⟨rfl, _⟩ := cons.inj split
      exact visible u (.head _)
    have reversed := stays (u :: start).reverse (fun v mem => visible v (mem_reverse.mp mem))
    unfold trim
    rw [whole, reverse_append]
    unfold trimStart at reversed ⊢
    rw [dropWhile_append, reversed]
    split
    · rw [reverse_reverse]
    · rw [reverse_append, reverse_reverse]
      exact prefix_append _ _

theorem namesReceipt_of_markedBy
    (named : nonEmptyString (markedBy ["receipt:", "checkpoint:"] value) = some ref)
    : namesReceipt ref = true := by
  have trimmed := mem_of_markedBy named
  cases value with
  | string s =>
    obtain rfl : trim s = ref := by
      unfold nonEmptyString at trimmed
      simp only [Value.string?_string] at trimmed
      split at trimmed
      · cases trimmed
      · exact some.inj trimmed
    unfold markedBy at named
    simp only at named
    split at named
    · rename_i marked
      simp only [any_cons, any_nil, Bool.or_false, Bool.or_eq_true,
        isPrefixOf_iff_prefix] at marked
      unfold namesReceipt startsWith
      rw [Bool.or_eq_true, isPrefixOf_iff_prefix, isPrefixOf_iff_prefix]
      exact marked.imp (isPrefix_trim (by decide)) (isPrefix_trim (by decide))
    · cases named
  | _ => cases named

theorem field_of_mem
    (kind : refs ∈ [refsOf, stoneRefsOf, repoRefsOf, receiptOrCheckpointRefsOf])
    (mem : value ∈ refs candidate)
    : ∃ key ∈ REF_FIELDS,
        value = candidate.get key ∨ ∃ marks, value = markedBy marks (candidate.get key) := by
  simp only [mem_cons, not_mem_nil, or_false] at kind
  rcases kind with rfl | rfl | rfl | rfl
  · obtain ⟨key, field, rfl⟩ := List.mem_map.mp mem
    exact ⟨key, field, .inl rfl⟩
  · simp only [stoneRefsOf, mem_cons, not_mem_nil, or_false] at mem
    rcases mem with rfl | rfl | rfl
    · exact ⟨text "stone_ref", by decide, .inl rfl⟩
    · exact ⟨text "object_ref", by decide, .inr ⟨_, rfl⟩⟩
    · exact ⟨text "content_ref", by decide, .inr ⟨_, rfl⟩⟩
  · simp only [repoRefsOf, mem_cons, not_mem_nil, or_false] at mem
    rcases mem with rfl | rfl | rfl | rfl
    · exact ⟨text "repo_ref", by decide, .inl rfl⟩
    · exact ⟨text "rehydration_ref", by decide, .inr ⟨_, rfl⟩⟩
    · exact ⟨text "object_ref", by decide, .inr ⟨_, rfl⟩⟩
    · exact ⟨text "content_ref", by decide, .inr ⟨_, rfl⟩⟩
  · simp only [receiptOrCheckpointRefsOf, mem_cons, not_mem_nil, or_false] at mem
    rcases mem with rfl | rfl | rfl | rfl | rfl
    · exact ⟨text "receipt_ref", by decide, .inl rfl⟩
    · exact ⟨text "checkpoint_ref", by decide, .inl rfl⟩
    · exact ⟨text "receipt_id", by decide, .inl rfl⟩
    · exact ⟨text "checkpoint_id", by decide, .inl rfl⟩
    · exact ⟨text "rehydration_ref", by decide, .inr ⟨_, rfl⟩⟩

theorem mem_ownRefs
    (kind : refs ∈ [refsOf, stoneRefsOf, repoRefsOf, receiptOrCheckpointRefsOf])
    (first : firstOwn refs candidate = some ref)
    : ref ∈ ownRefs candidate := by
  obtain ⟨value, mem, named⟩ := exists_of_findSome?_eq_some first
  obtain ⟨key, field, same⟩ := field_of_mem kind mem
  refine mem_filterMap.mpr ⟨candidate.get key, List.mem_map_of_mem field, ?_⟩
  rcases same with rfl | ⟨marks, rfl⟩
  · exact named
  · exact mem_of_markedBy named

/-- A candidate without a first reference has none of any kind. -/
theorem isSome_of_mem_ownRefs (mem : ref ∈ ownRefs candidate)
    : (firstOwn refsOf candidate).isSome = true := by
  obtain ⟨value, here, named⟩ := mem_filterMap.mp mem
  unfold firstOwn firstNonEmptyString
  exact findSome?_isSome_iff.mpr ⟨value, here, by rw [named]; rfl⟩

/-- The route is attached and exact, by an accepted reference, which is no repository at anything but a
commit.
-/
def FindsBy (accepted : Text → Prop) (rehydrate : Option Route) : Prop :=
  ∃ kind ref, rehydrate = some (.found kind ref) ∧ accepted ref ∧ isUnpinned ref = false

theorem isUnpinned_eq_false_iff
    : isUnpinned ref = false ↔ (startsWith "repo:" ref = true → IsPinned ref) := by
  rw [← isExactRepoSnapshotRef_iff]
  unfold isUnpinned
  cases startsWith "repo:" ref with
  | false => simp
  | true => simp

/-- What a plan promises of one that leaves the context. -/
theorem findsBy_iff
    : ((∃ route ref, rehydrate = some route ∧ route.ok = true ∧ route.exact = true
          ∧ route.ref = some ref ∧ accepted ref)
        ∧ ∀ route ref, rehydrate = some route → route.ok = true → route.ref = some ref
          → startsWith "repo:" ref = true → IsPinned ref)
      ↔ FindsBy accepted rehydrate := by
  constructor
  · rintro ⟨⟨route, ref, rfl, ok, _, named, holds⟩, pinned⟩
    cases route with
    | found kind own =>
      obtain rfl := some.inj named
      exact ⟨kind, own, rfl, holds, isUnpinned_eq_false_iff.mpr (pinned _ own rfl rfl rfl)⟩
    | _ => cases ok
  · rintro ⟨kind, ref, rfl, holds, pinned⟩
    refine ⟨⟨_, ref, rfl, rfl, rfl, rfl, holds⟩, ?_⟩
    intro route other same _ named
    cases same
    cases named
    exact isUnpinned_eq_false_iff.mp pinned

theorem strandsNothing_keepRef_iff
    : StrandsNothing candidate ⟨keepRefDecision candidate, rehydrate⟩
      ↔ FindsBy (· ∈ ownRefs candidate) rehydrate := by
  rw [← findsBy_iff]
  constructor
  · exact fun strands => ⟨strands.kept (takes_decision _ _ _ _ _), strands.pinned⟩
  · rintro ⟨kept, pinned⟩
    refine ⟨fun _ => kept, fun drops => ?_, pinned⟩
    exact absurd ((takes_decision _ _ _ _ _).symm.trans drops) (by decide)

theorem strandsNothing_drop_iff
    : StrandsNothing candidate ⟨dropDecision candidate, rehydrate⟩
      ↔ FindsBy (nonEmptyString (newerImmutableRefOf candidate) = some ·) rehydrate := by
  rw [← findsBy_iff]
  constructor
  · exact fun strands => ⟨strands.dropped (takes_decision _ _ _ _ _), strands.pinned⟩
  · rintro ⟨dropped, pinned⟩
    refine ⟨fun keeps => ?_, fun _ => dropped, pinned⟩
    exact absurd ((takes_decision _ _ _ _ _).symm.trans keeps) (by decide)

/-- Two prefixes of a text agree as far as both reach. -/
theorem take_eq_of_prefixes {first second s : Text} {n : Nat} (leads : first.isPrefixOf s = true)
    (leads' : second.isPrefixOf s = true) (reaches : n ≤ first.length) (reaches' : n ≤ second.length)
    : first.take n = second.take n := by
  have start {p : Text} (prefixed : p.isPrefixOf s = true) (long : n ≤ p.length)
      : p.take n = s.take n := by
    obtain ⟨rest, rfl⟩ := isPrefixOf_iff_prefix.mp prefixed
    exact (take_append_of_le_length long).symm
  exact (start leads reaches).trans (start leads' reaches').symm

/-- A reference that names a stone, a receipt or a checkpoint by itself is none to a repository. -/
theorem isUnpinned_of_names (names : (namesStone ref || namesReceipt ref) = true)
    : isUnpinned ref = false := by
  refine isUnpinned_eq_false_iff.mpr (fun repo => absurd names ?_)
  have other (mark : String) (long : 3 ≤ (text mark).length)
      (ne : (text mark).take 3 ≠ (text "repo:").take 3)
      : startsWith mark ref = false :=
    Bool.eq_false_iff.mpr (fun marked => ne (take_eq_of_prefixes marked repo long (by decide)))
  have hash : isHexOfLength ref 64 = false := by
    refine Bool.eq_false_iff.mpr (fun hex => ?_)
    obtain ⟨rest, rfl⟩ := isPrefixOf_iff_prefix.mp repo
    unfold isHexOfLength isHex at hex
    rw [all_append, Bool.and_eq_true, Bool.and_eq_true] at hex
    exact absurd hex.1.1 (by decide)
  unfold namesStone namesReceipt
  rw [other "stone:" (by decide) (by decide), other "receipt:" (by decide) (by decide),
    other "checkpoint:" (by decide) (by decide), hash]
  exact Bool.false_ne_true

theorem repoRoute_eq_found_iff {other : Text} {kind : RouteKind}
    : repoRoute ref = .found kind other
      ↔ kind = .repoAtSha ∧ other = ref ∧ isExactRepoSnapshotRef ref = true := by
  unfold repoRoute
  by_cases exact' : isExactRepoSnapshotRef ref = true
  · rw [if_pos exact']
    constructor
    · intro same
      obtain ⟨rfl, rfl⟩ := Route.found.inj same
      exact ⟨rfl, rfl, exact'⟩
    · rintro ⟨rfl, rfl, _⟩
      rfl
  · rw [if_neg exact']
    exact ⟨fun never => (by cases never), fun found => absurd found.2.2 exact'⟩

theorem isUnpinned_of_exact (pinned : isExactRepoSnapshotRef ref = true)
    : isUnpinned ref = false := by
  unfold isUnpinned
  rw [pinned, Bool.not_true, Bool.and_false]

theorem findsBy_found_iff {kind : RouteKind}
    : FindsBy accepted (some (.found kind ref)) ↔ accepted ref ∧ isUnpinned ref = false := by
  constructor
  · rintro ⟨kind', other, same, holds, pinned⟩
    obtain ⟨rfl, rfl⟩ := Route.found.inj (some.inj same)
    exact ⟨holds, pinned⟩
  · rintro ⟨holds, pinned⟩
    exact ⟨kind, ref, rfl, holds, pinned⟩

theorem findsBy_repoRoute_iff
    : FindsBy accepted (some (repoRoute ref)) ↔ accepted ref ∧ isExactRepoSnapshotRef ref = true := by
  constructor
  · rintro ⟨kind, other, same, holds, _⟩
    obtain ⟨_, rfl, pinned⟩ := repoRoute_eq_found_iff.mp (some.inj same)
    exact ⟨holds, pinned⟩
  · rintro ⟨holds, pinned⟩
    exact ⟨.repoAtSha, ref, congrArg some (repoRoute_eq_found_iff.mpr ⟨rfl, rfl, pinned⟩), holds,
      isUnpinned_of_exact pinned⟩

theorem findsBy_lastRoute_iff
    : FindsBy accepted (some (lastRoute (some ref)))
      ↔ accepted ref ∧ isExactRepoSnapshotRef ref = true := by
  unfold lastRoute
  by_cases repo : startsWith "repo:" ref = true
  · simp only [repo, if_true]
    exact findsBy_repoRoute_iff
  · simp only [repo]
    constructor
    · rintro ⟨kind, other, same, _⟩
      cases same
    · rintro ⟨_, pinned⟩
      exact absurd (Bool.and_eq_true_iff.mp pinned).1 repo

theorem not_findsBy_none : ¬ FindsBy accepted none := by
  rintro ⟨kind, ref, same, _⟩
  cases same

/-- A stone of its own field comes first. -/
theorem findsBy_stone_iff {stoneRef : Text} {ref receiptRef : Option Text}
    : FindsBy accepted (some (routeBy (some stoneRef) ref receiptRef repoRef))
      ↔ accepted stoneRef ∧ isUnpinned stoneRef = false :=
  findsBy_found_iff

/-- Then comes what the first reference names by itself. -/
theorem findsBy_named_iff {receiptRef : Option Text}
    (names : (namesStone ref || namesReceipt ref) = true)
    : FindsBy accepted (some (routeBy none (some ref) receiptRef repoRef)) ↔ accepted ref := by
  have pinned := isUnpinned_of_names names
  unfold routeBy
  simp only [any_some, getD_some]
  by_cases stone : namesStone ref = true
  · rw [if_pos stone, findsBy_found_iff]
    exact and_iff_left pinned
  · rw [if_neg stone, if_pos ((Bool.or_eq_true _ _ ▸ names).resolve_left stone), findsBy_found_iff]
    exact and_iff_left pinned

/-- Then comes a receipt or checkpoint. -/
theorem findsBy_receipt_iff {receiptRef : Text}
    (names : (namesStone ref || namesReceipt ref) = false)
    : FindsBy accepted (some (routeBy none (some ref) (some receiptRef) repoRef))
      ↔ accepted receiptRef ∧ isUnpinned receiptRef = false := by
  obtain ⟨stone, receipt⟩ := Bool.or_eq_false_iff.mp names
  unfold routeBy
  simp only [any_some, stone, receipt]
  exact findsBy_found_iff

/-- At last comes a repository, of its own field or by the first reference. -/
theorem findsBy_repo_iff (names : (namesStone ref || namesReceipt ref) = false)
    : FindsBy accepted (some (routeBy none (some ref) none repoRef))
      ↔ accepted (repoRef.getD ref) ∧ isExactRepoSnapshotRef (repoRef.getD ref) = true := by
  obtain ⟨stone, receipt⟩ := Bool.or_eq_false_iff.mp names
  unfold routeBy
  simp only [any_some, stone, receipt]
  cases repoRef with
  | some repo => exact findsBy_repoRoute_iff
  | none => exact findsBy_lastRoute_iff

variable {proto : Proto} {properties : List (Text × Value)}

/-- The route for a decision that takes a candidate out of the context, if there is any reference. -/
def routeOf (decided : Value) : Option Route :=
  if (firstFrom refsOf decided).isSome then
    some
      (routeBy (firstFrom stoneRefsOf decided) (firstFrom refsOf decided)
        (firstFrom receiptOrCheckpointRefsOf decided) (firstFrom repoRefsOf decided))
  else none

/-- The plan attaches this route to what leaves the context. -/
theorem planEntry_decision (candidate : Value) (action : RetentionAction)
    (newer : List (Text × Value)) (reason : String)
    : planEntry (decision candidate action newer reason)
      = { decision := decision candidate action newer reason
          rehydrate :=
            if leavesContext (decision candidate action newer reason) then
              routeOf (decision candidate action newer reason)
            else none } := by
  have decided
      : ((decision candidate action newer reason).get (text "action")).truthy = true := by
    cases action with
    | pin => rfl
    | keepFull => rfl
    | keepRef => rfl
    | dropFromActiveContext => rfl
  unfold planEntry
  simp only [decided, if_true]
  cases leavesContext (decision candidate action newer reason) with
  | false => rfl
  | true => rfl

/-- A kept reference leads back to its candidate exactly if the reference that is selected is exact.
Witness: the precedence of the fields, one after the other.
-/
theorem strandsNothing_keepRef
    : StrandsNothing (.object proto properties) (planEntry (keepRefDecision (.object proto properties)))
      ↔ keepsExactRef (.object proto properties) = true := by
  have own := firstFrom_keepRef proto properties
  have leaves : leavesContext (keepRefDecision (.object proto properties)) = true := by
    unfold leavesContext keepRefDecision
    rw [takes_decision]
    rfl
  have planned :=
    planEntry_decision (.object proto properties) .keepRef [] "rehydratable_with_immutable_ref"
  change planEntry (keepRefDecision _)
    = ⟨keepRefDecision _, if leavesContext (keepRefDecision _) = true then
        routeOf (keepRefDecision _) else none⟩ at planned
  rw [planned, if_pos leaves, strandsNothing_keepRef_iff]
  unfold routeOf keepsExactRef
  rw [own stoneRefsOf (by simp), own refsOf (by simp), own receiptOrCheckpointRefsOf (by simp),
    own repoRefsOf (by simp)]
  have mine {refs : Value → List Value} {ref : Text}
      (kind : refs ∈ [refsOf, stoneRefsOf, repoRefsOf, receiptOrCheckpointRefsOf])
      (first : firstOwn refs (.object proto properties) = some ref)
      : ref ∈ ownRefs (.object proto properties) :=
    mem_ownRefs kind first
  cases stone : firstOwn stoneRefsOf (.object proto properties) with
  | some stoneRef =>
    have mem := mine (by simp) stone
    rw [if_pos (isSome_of_mem_ownRefs mem), findsBy_stone_iff]
    simp [mem]
  | none =>
    cases any : firstOwn refsOf (.object proto properties) with
    | none => exact iff_of_false not_findsBy_none Bool.false_ne_true
    | some ref =>
      rw [isSome_some, if_pos rfl]
      simp only [any_some]
      have mem := mine (by simp) any
      cases names : namesStone ref || namesReceipt ref with
      | true =>
        rw [findsBy_named_iff names, Bool.true_or]
        exact iff_of_true mem rfl
      | false =>
        cases receipt : firstOwn receiptOrCheckpointRefsOf (.object proto properties) with
        | some receiptRef =>
          have mem' := mine (by simp) receipt
          rw [findsBy_receipt_iff names]
          simp [mem']
        | none =>
          rw [findsBy_repo_iff names, Bool.false_or]
          refine and_iff_right ?_
          cases repo : firstOwn repoRefsOf (.object proto properties) with
          | none => exact mem
          | some repoRef => exact mine (by simp) repo

/-- A dropped candidate leads to the newer reference exactly if that is an exact one and no field of the
candidate takes precedence over it. Witness: the precedence of the fields, one after the other.
-/
theorem strandsNothing_drop
    : StrandsNothing (.object proto properties) (planEntry (dropDecision (.object proto properties)))
      ↔ dropsForExactRef (.object proto properties) = true := by
  have newer := firstFrom_drop proto properties
  have leaves : leavesContext (dropDecision (.object proto properties)) = true := by
    unfold leavesContext dropDecision
    rw [takes_decision, takes_decision]
    rfl
  have planned :=
    planEntry_decision (.object proto properties) .dropFromActiveContext
      [(text "newer_immutable_ref", newerImmutableRefOf (.object proto properties)),
        (text "rehydration_ref", newerImmutableRefOf (.object proto properties))]
      "redundant_successful_read_newer_ref"
  change planEntry (dropDecision _)
    = ⟨dropDecision _, if leavesContext (dropDecision _) = true then
        routeOf (dropDecision _) else none⟩ at planned
  rw [planned, if_pos leaves, strandsNothing_drop_iff]
  unfold routeOf dropsForExactRef
  rw [newer (stoneRefsOf, fun _ => .null) (by simp), newer (refsOf, id) (by simp),
    newer (receiptOrCheckpointRefsOf, markedBy ["receipt:", "checkpoint:"]) (by simp),
    newer (repoRefsOf, markedBy ["repo:"]) (by simp)]
  generalize newerEq : newerImmutableRefOf (.object proto properties) = value
  cases named : nonEmptyString value with
  | none =>
    refine iff_of_false ?_ Bool.false_ne_true
    rintro ⟨kind, ref, _, never, _⟩
    cases never
  | some ref =>
    change FindsBy _ (if ((nonEmptyString value).or _).isSome = true then
      some (routeBy _ ((nonEmptyString value).or _) _ _) else none) ↔ _
    rw [named, some_or, isSome_some, if_pos rfl]
    simp only [any_some]
    change FindsBy _ (some (routeBy (firstOwn stoneRefsOf _) _ _ _)) ↔ _
    cases stone : firstOwn stoneRefsOf (.object proto properties) with
    | some stoneRef =>
      rw [findsBy_stone_iff]
      simp only [Option.some.injEq, Bool.and_eq_true, beq_iff_eq, Bool.not_eq_true']
      constructor
      · rintro ⟨rfl, pinned⟩
        exact ⟨rfl, pinned⟩
      · rintro ⟨rfl, pinned⟩
        exact ⟨rfl, pinned⟩
    | none =>
      cases names : namesStone ref || namesReceipt ref with
      | true =>
        rw [findsBy_named_iff names]
        exact iff_of_true rfl rfl
      | false =>
        have unmarked : nonEmptyString (markedBy ["receipt:", "checkpoint:"] value) = none := by
          cases marked : nonEmptyString (markedBy ["receipt:", "checkpoint:"] value) with
          | none => rfl
          | some other =>
            cases (named.symm.trans (mem_of_markedBy marked))
            rw [namesReceipt_of_markedBy marked, Bool.or_true] at names
            cases names
        rw [unmarked, none_or]
        simp only [Bool.false_or]
        cases receipt : firstOwn receiptOrCheckpointRefsOf (.object proto properties) with
        | some receiptRef =>
          rw [findsBy_receipt_iff names]
          simp only [Option.some.injEq, Bool.and_eq_true, beq_iff_eq, Bool.not_eq_true']
          constructor
          · rintro ⟨rfl, pinned⟩
            exact ⟨rfl, pinned⟩
          · rintro ⟨rfl, pinned⟩
            exact ⟨rfl, pinned⟩
        | none =>
          rw [findsBy_repo_iff names]
          simp only [Option.some.injEq, Bool.and_eq_true]
          cases marked : nonEmptyString (markedBy ["repo:"] value) with
          | some other =>
            cases (named.symm.trans (mem_of_markedBy marked))
            simp
          | none =>
            rw [none_or]
            cases repo : firstOwn repoRefsOf (.object proto properties) with
            | none => simp
            | some repoRef =>
              simp only [getD_some, isSome_none, Bool.false_or, all_some,
                beq_iff_eq]
              constructor
              · rintro ⟨rfl, pinned⟩
                exact ⟨pinned, rfl⟩
              · rintro ⟨pinned, rfl⟩
                exact ⟨rfl, pinned⟩

theorem strandsNothing_of_stays
    (stays : leavesContext (classifyCandidate (.object proto properties)) = false)
    : StrandsNothing (.object proto properties)
        (planEntry (classifyCandidate (.object proto properties))) := by
  obtain ⟨action, newer, reason, decided⟩ := exists_decision (.object proto properties)
  rw [decided] at stays ⊢
  rw [planEntry_decision, if_neg (Bool.eq_false_iff.mp stays)]
  obtain ⟨keeps, drops⟩ := Bool.or_eq_false_iff.mp stays
  refine ⟨fun never => absurd (keeps.symm.trans never) Bool.false_ne_true,
    fun never => absurd (drops.symm.trans never) Bool.false_ne_true, ?_⟩
  intro route ref never
  cases never

/-- Whatever a candidate has for fields, its decision strands nothing exactly if the candidate stays as a
whole or leaves for an exact reference.
-/
theorem strandsNothing_iff (proto : Proto) (properties : List (Text × Value))
    : StrandsNothing (.object proto properties) (planEntry (classifyCandidate (.object proto properties)))
      ↔ isRecoverable (.object proto properties) = true := by
  unfold isRecoverable
  rcases classifyCandidate_cases (.object proto properties) with
    ⟨whole, stays⟩ | ⟨leaves, redundant, drops⟩ | ⟨leaves, redundant, keeps⟩
  · rw [whole, Bool.true_or]
    exact iff_of_true (strandsNothing_of_stays stays) rfl
  · rw [leaves, redundant, Bool.false_or, if_pos rfl, drops]
    exact strandsNothing_drop
  · rw [leaves, redundant, Bool.false_or, if_neg Bool.false_ne_true, keeps]
    exact strandsNothing_keepRef

/-- The plan for the decision on a candidate strands nothing exactly if the candidate stays as a whole or
leaves for an exact reference.
-/
theorem planStrandsNothing_iff (proto : Proto) (properties : List (Text × Value))
    : (∀ planned ∈ planRehydration [classifyCandidate (.object proto properties)],
          StrandsNothing (.object proto properties) planned)
      ↔ isRecoverable (.object proto properties) = true := by
  unfold planRehydration
  rw [map_singleton, forall_mem_singleton]
  exact strandsNothing_iff proto properties

namespace Sample

/-- What was read of a file at an abbreviated commit. -/
def abbreviatedRead : List (Text × Value) :=
  [(text "class", .string (text "repo_read")),
    (text "flags", .literal [(text "rehydratable", .bool true)]),
    (text "repo_ref", .string (text "repo:nothinginfinity/cairnstone-v6@abc123/src/index.js"))]

end Sample

/-- A read at an abbreviated commit leaves the context with a route that is refused. -/
theorem keptRefIsStranded
    : ¬ ∀ planned ∈ planRehydration [classifyCandidate (.object .objectPrototype Sample.abbreviatedRead)],
        StrandsNothing (.object .objectPrototype Sample.abbreviatedRead) planned := by
  intro strands
  have kept := (strandsNothing_iff _ _).mp (strands _ (.head _))
  exact absurd kept (by decide +kernel)

end CairnStone.ContextRetention
