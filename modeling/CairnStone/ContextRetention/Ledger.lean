import CairnStone.ContextRetention.Rehydration

/-! A retention ledger keeps a few fields of each item, and decides on what it kept. -/

namespace CairnStone.ContextRetention

open JavaScript TaskRuns List Value

variable {classes : List Text} {value item : Value}

/-- `asBoolean(item[flag]) || asBoolean(item.flags?.[flag])` -/
def marked (item : Value) (flag : String) : Bool :=
  (item.get (text flag)).isTrue || ((item.get (text "flags")).get (text flag)).isTrue

def firstFiniteNumber (values : List Value) : Option Number :=
  values.findSome?
    (fun
      | .number (.finite x) => if 0 ≤ x.value then some (.finite x) else none
      | _ => none)

def repoRefOf (item : Value) : Option Text :=
  firstNonEmptyString
    [item.get (text "repo_ref"), markedBy ["repo:"] (item.get (text "object_ref"))]

def objectRefOf (item : Value) : Option Text :=
  firstNonEmptyString
    [item.get (text "object_ref"), item.get (text "content_ref"),
      item.get (text "rehydration_ref"), item.get (text "stone_ref")]

def ledgerClassOf (item : Value) (currentTask currentBlocker : Bool) (repoRef : Option Text)
    : Value :=
  ((((candidateClassOf item).or
      (if currentBlocker then .string (text "unresolved_blocker") else .null)).or
    (if currentTask then .string (text "current_task") else .null)).or
    (if repoRef.isSome then .string (text "repo_read") else .null)).or .null

def sizeOfItem (item : Value) : List (Text × Value) :=
  let sizes (keys : List String) : Option Number :=
    firstFiniteNumber (keys.map (fun key => item.get (text key)))
  match sizes ["bytes", "byte_length", "size_bytes", "estimated_bytes_before"],
      sizes ["token_estimate", "estimated_tokens", "tokens"] with
  | some bytes, _ => [(text "bytes", .number bytes)]
  | none, some tokenEstimate => [(text "token_estimate", .number tokenEstimate)]
  | none, none => []

def rowClass (item : Value) : Value :=
  ledgerClassOf item (marked item "current_task") (marked item "current_blocker") (repoRefOf item)

def ledgerRow (item : Value) : Value :=
  let currentBlocker : Value := .bool (marked item "current_blocker")
  let rehydratable : Value := .bool (marked item "rehydratable")
  let referencedByActiveTurn : Value := .bool (marked item "referenced_by_active_turn")
  .literal
    ([(text "id",
        .ofOption
          (firstNonEmptyString
            ([text "id", text "turn_id", text "message_id", text "code_session_id",
              text "conversation_id", text "task_run_id", text "checkpoint_id",
              text "receipt_id"].map item.get))),
      (text "class", rowClass item),
      (text "current_task", .bool (marked item "current_task")),
      (text "current_blocker", currentBlocker), (text "rehydratable", rehydratable),
      (text "referenced_by_active_turn", referencedByActiveTurn),
      (text "accepted_state_authority", .bool false),
      (text "flags",
        .literal
          [(text "current_blocker", currentBlocker), (text "rehydratable", rehydratable),
            (text "referenced_by_active_turn", referencedByActiveTurn)])]
      ++ sizeOfItem item
      ++ ((objectRefOf item).map (fun ref => (text "object_ref", Value.string ref))).toList
      ++ ((repoRefOf item).map (fun ref => (text "repo_ref", Value.string ref))).toList)

def compileRetentionLedger (items : List Value) : List Value :=
  items.map ledgerRow

/-- The decisions of `previewRetention({ candidates })` -/
def previewRetention (candidates : List Value) : List Value :=
  candidates.map classifyCandidate

def previewRetentionFromLedger (items : List Value) : List Value :=
  previewRetention (compileRetentionLedger items)

def actionOf (candidate : Value) : RetentionAction :=
  if isProtectedOrSensitive candidate then .pin
  else if isCurrentBlocker candidate then .keepFull
  else if isPinnedContext candidate then .pin
  else if isActiveTask candidate then .keepFull
  else if isRedundantSuccessfulRead candidate then
    if hasRehydrationIdentity candidate then .dropFromActiveContext else .keepFull
  else if isRehydratable candidate then .keepRef
  else .keepFull

def RetentionAction.rank : RetentionAction → Nat
  | .pin => 3
  | .keepFull => 2
  | .keepRef => 1
  | .dropFromActiveContext => 0

/-- How protective a decision is. -/
def protection (decided : Value) : Nat :=
  if takes decided .pin then 3
  else if takes decided .keepFull then 2
  else if takes decided .keepRef then 1
  else 0

def mustStay (item : Value) : Bool :=
  isProtectedOrSensitive item || marked item "current_task" || marked item "current_blocker"

/-- A decision is at least as protective as that on the raw item, and keeps what must stay. -/
structure Protects (item decided : Value) : Prop where
  atLeast : protection (classifyCandidate item) ≤ protection decided
  whole : mustStay item = true → leavesContext decided = false

def isPinned (item : Value) : Bool :=
  isProtectedOrSensitive item || (!isCurrentBlocker item && isPinnedContext item)

def isPinnedByClass (item : Value) : Bool :=
  includes PROTECTED_CLASSES (candidateClassOf item)
  || (isPinnedContext item && !marked item "current_blocker")

/-- The row of an item may leave behind a reference: it is marked so, it names one, and its class allows for it, or it
has none and names a repository.
-/
def isReferred (item : Value) : Bool :=
  marked item "rehydratable" && !marked item "current_blocker"
  && ((objectRefOf item).isSome || (repoRefOf item).isSome)
  && (includes KEEP_REF_ELIGIBLE_CLASSES (candidateClassOf item)
    || (!(candidateClassOf item).truthy && !marked item "current_task" && (repoRefOf item).isSome))

/-- What is pinned is pinned by its class, and what may leave is no current task and could leave by itself. -/
structure KeepsProtection (item : Value) : Prop where
  pinned : isPinned item = true → isPinnedByClass item = true
  referred
    : isReferred item = true
      → marked item "current_task" = false
        ∧ (isRedundantSuccessfulRead item
          || (hasFlag item "rehydratable"
            && includes KEEP_REF_ELIGIBLE_CLASSES (candidateClassOf item))) = true

theorem classifyCandidate_eq_decision (cand : Value)
    : ∃ newer reason,
        classifyCandidate cand = decision cand (actionOf cand) newer reason := by
  unfold classifyCandidate actionOf
  repeat' split
  all_goals exact ⟨_, _, rfl⟩

theorem protection_classifyCandidate (cand : Value)
    : protection (classifyCandidate cand) = (actionOf cand).rank := by
  obtain ⟨newer, reason, decided⟩ := classifyCandidate_eq_decision cand
  rw [decided]
  unfold protection
  simp only [takes_decision]
  cases actionOf cand <;> rfl

theorem leavesContext_classifyCandidate (cand : Value)
    : leavesContext (classifyCandidate cand) = true
      ↔ actionOf cand = .keepRef ∨ actionOf cand = .dropFromActiveContext := by
  obtain ⟨newer, reason, decided⟩ := classifyCandidate_eq_decision cand
  rw [decided]
  simp only [leavesContext, takes_decision, Bool.or_eq_true, decide_eq_true_eq]

theorem includes_iff
    : includes classes value = true ↔ ∃ s ∈ classes, value = .string s := by
  simp only [includes, any_eq_true, strictEquals_string_iff]

/-- A value is in one of two lists that share nothing. -/
theorem includes_apart {first second : List Text}
    (apart : ∀ s ∈ first, includes second (.string s) = false)
    (mem : includes first value = true)
    : includes second value = false := by
  obtain ⟨s, seen, rfl⟩ := includes_iff.mp mem
  exact apart s seen

theorem get_flagsOf (item : Value) (key : Text)
    : (flagsOf item).get key = (item.get (text "flags")).get key := by
  unfold flagsOf Value.or
  split
  · rfl
  · cases flags : item.get (text "flags") with
    | object proto properties => simp_all [truthy]
    | _ => rfl

theorem marked_of_hasFlag {flag : String} (flagged : hasFlag item flag = true)
    : marked item flag = true := by
  rw [hasFlag, get_flagsOf] at flagged
  rw [marked, flagged, Bool.or_true]

theorem or_null_of_falsy (falsy : (value.or .null).truthy = false)
    : value.or .null = .null := by
  by_cases set : value.truthy = true
  · rw [Value.or, if_pos set, set] at falsy
    cases falsy
  · rw [Value.or, if_neg set]

theorem candidateClassOf_of_falsy (falsy : (candidateClassOf item).truthy = false)
    : candidateClassOf item = .null :=
  or_null_of_falsy falsy

theorem rowClass_of_truthy (set : (candidateClassOf item).truthy = true)
    : rowClass item = candidateClassOf item := by
  simp only [rowClass, ledgerClassOf, Value.or, set, if_true]

theorem rowClass_of_falsy (falsy : (candidateClassOf item).truthy = false)
    : rowClass item
      = if marked item "current_blocker" then .string (text "unresolved_blocker")
        else if marked item "current_task" then .string (text "current_task")
        else if (repoRefOf item).isSome then .string (text "repo_read")
        else .null := by
  have blockerSet : (Value.string (text "unresolved_blocker")).truthy = true := by decide
  have taskSet : (Value.string (text "current_task")).truthy = true := by decide
  have readSet : (Value.string (text "repo_read")).truthy = true := by decide
  have unset : Value.null.truthy = false := rfl
  simp only [rowClass, ledgerClassOf, Value.or, falsy]
  cases marked item "current_blocker" <;> cases marked item "current_task"
    <;> cases (repoRefOf item).isSome <;> simp [blockerSet, taskSet, readSet, unset]

theorem sizeOfItem_cases (item : Value)
    : sizeOfItem item = [] ∨ (∃ n, sizeOfItem item = [(text "bytes", .number n)])
      ∨ ∃ n, sizeOfItem item = [(text "token_estimate", .number n)] := by
  unfold sizeOfItem
  extract_lets sizes
  split
  · exact .inr (.inl ⟨_, rfl⟩)
  · exact .inr (.inr ⟨_, rfl⟩)
  · exact .inl rfl

theorem get_ledgerRow_absent (item : Value)
    : ∀ key ∈
        [text "candidate_class", text "success", text "immutable_ref", text "content_ref",
          text "rehydration_ref", text "stone_ref"],
        (ledgerRow item).get key = .undefined := by
  intro key seen
  unfold ledgerRow
  simp only [mem_cons, not_mem_nil, or_false] at seen
  rcases sizeOfItem_cases item with size | ⟨n, size⟩ | ⟨n, size⟩
  all_goals
    rw [size]
    cases objectRefOf item <;> cases repoRefOf item
      <;> rcases seen with rfl | rfl | rfl | rfl | rfl | rfl <;> rfl

theorem get_ledgerRow_refs (item : Value)
    : (ledgerRow item).get (text "object_ref")
        = ((objectRefOf item).map Value.string).getD .undefined
      ∧ (ledgerRow item).get (text "repo_ref")
        = ((repoRefOf item).map Value.string).getD .undefined := by
  unfold ledgerRow
  rcases sizeOfItem_cases item with size | ⟨n, size⟩ | ⟨n, size⟩
  all_goals
    rw [size]
    cases objectRefOf item <;> cases repoRefOf item <;> exact ⟨rfl, rfl⟩

theorem candidateClassOf_ledgerRow (item : Value)
    : candidateClassOf (ledgerRow item) = rowClass item := by
  have own : (ledgerRow item).get (text "class") = rowClass item := rfl
  rw [candidateClassOf, own, get_ledgerRow_absent item (text "candidate_class") (by simp)]
  by_cases set : (rowClass item).truthy = true
  · simp only [Value.or, set, if_true]
  · have empty : rowClass item = .null := or_null_of_falsy (Bool.not_eq_true _ ▸ set)
    rw [empty]
    rfl

theorem hasFlag_ledgerRow (item : Value)
    : hasFlag (ledgerRow item) "protected" = false ∧ hasFlag (ledgerRow item) "secret" = false
      ∧ hasFlag (ledgerRow item) "capability_bearer" = false
      ∧ hasFlag (ledgerRow item) "current_blocker" = marked item "current_blocker"
      ∧ hasFlag (ledgerRow item) "rehydratable" = marked item "rehydratable" := by
  refine ⟨rfl, rfl, rfl, ?_, ?_⟩
  · show (bool (marked item "current_blocker")).isTrue = _
    cases marked item "current_blocker" <;> rfl
  · show (bool (marked item "rehydratable")).isTrue = _
    cases marked item "rehydratable" <;> rfl

theorem truthy_of_firstNonEmptyString {values : List Value} {ref : Text}
    (first : firstNonEmptyString values = some ref)
    : (Value.string ref).truthy = true := by
  obtain ⟨value, -, found⟩ := exists_of_findSome?_eq_some first
  unfold nonEmptyString at found
  split at found
  · split at found
    · cases found
    · case isFalse nonempty =>
        cases found
        exact bne_iff_ne.mpr nonempty
  · cases found

theorem hasRef_ledgerRow (item : Value)
    : hasImmutableRef (ledgerRow item) = ((objectRefOf item).isSome || (repoRefOf item).isSome)
      ∧ hasRehydrationIdentity (ledgerRow item)
        = ((objectRefOf item).isSome || (repoRefOf item).isSome) := by
  have absent := get_ledgerRow_absent item
  simp only [forall_mem_cons] at absent
  obtain ⟨-, -, immutable, content, rehydration, stone, -⟩ := absent
  obtain ⟨object, repo⟩ := get_ledgerRow_refs item
  unfold hasImmutableRef hasRehydrationIdentity
  simp only [any_cons, any_nil, immutable, content, rehydration, stone, object, repo]
  have undefined : undefined.truthy = false := rfl
  cases first : objectRefOf item with
  | none =>
    cases second : repoRefOf item with
    | none => simp [undefined]
    | some repoRef => simp [undefined, truthy_of_firstNonEmptyString second]
  | some objectRef => simp [truthy_of_firstNonEmptyString first]

/-- The classes that a row may be given for want of one of its own. -/
theorem includes_rowClass
    (apart
      : ∀ s ∈ [text "unresolved_blocker", text "current_task", text "repo_read"],
          includes classes (.string s) = false)
    : includes classes (rowClass item) = includes classes (candidateClassOf item) := by
  have unclassed : includes classes .null = false := by
    rw [← Bool.not_eq_true, includes_iff]
    rintro ⟨s, -, never⟩
    cases never
  cases set : (candidateClassOf item).truthy with
  | true => rw [rowClass_of_truthy set]
  | false =>
    rw [rowClass_of_falsy set, candidateClassOf_of_falsy set, unclassed]
    split_ifs
    · exact apart _ (by simp)
    · exact apart _ (by simp)
    · exact apart _ (by simp)
    · exact unclassed

theorem isProtectedOrSensitive_ledgerRow (item : Value)
    : isProtectedOrSensitive (ledgerRow item)
      = includes PROTECTED_CLASSES (candidateClassOf item) := by
  obtain ⟨protects, secret, bearer, -, -⟩ := hasFlag_ledgerRow item
  rw [isProtectedOrSensitive, candidateClassOf_ledgerRow, protects, secret, bearer,
    includes_rowClass (by decide)]
  simp only [Bool.or_false]

theorem isPinnedContext_ledgerRow (item : Value)
    : isPinnedContext (ledgerRow item) = isPinnedContext item := by
  rw [isPinnedContext, isPinnedContext, candidateClassOf_ledgerRow, includes_rowClass (by decide)]

theorem isRedundantSuccessfulRead_ledgerRow (item : Value)
    : isRedundantSuccessfulRead (ledgerRow item) = false := by
  have success := get_ledgerRow_absent item (text "success") (by simp)
  rw [isRedundantSuccessfulRead, success]
  simp only [Value.isTrue, Bool.and_false, Bool.false_and]

theorem truthy_of_isClass (mem : includes classes (candidateClassOf item) = true)
    : (candidateClassOf item).truthy = true := by
  cases set : (candidateClassOf item).truthy with
  | true => rfl
  | false =>
    obtain ⟨s, -, named⟩ := includes_iff.mp mem
    rw [candidateClassOf_of_falsy set] at named
    cases named

/-- What is decided on a row. Witness: the kinds of class an item can have, each of which excludes the others. -/
theorem actionOf_ledgerRow (item : Value)
    : actionOf (ledgerRow item)
      = if isPinnedByClass item then .pin else if isReferred item then .keepRef else .keepFull := by
  obtain ⟨-, -, -, blocker, rehydratable⟩ := hasFlag_ledgerRow item
  obtain ⟨immutable, identity⟩ := hasRef_ledgerRow item
  unfold actionOf isCurrentBlocker isActiveTask isRehydratable isActiveTask
  rw [isProtectedOrSensitive_ledgerRow, isPinnedContext_ledgerRow,
    isRedundantSuccessfulRead_ledgerRow, blocker, rehydratable, immutable, identity,
    candidateClassOf_ledgerRow]
  unfold isPinnedByClass isReferred isPinnedContext
  cases set : (candidateClassOf item).truthy with
  | true =>
      rw [rowClass_of_truthy set]
      by_cases sensitive : includes PROTECTED_CLASSES (candidateClassOf item) = true
      · simp [sensitive]
      by_cases pinned : includes PINNED_CONTEXT_CLASSES (candidateClassOf item) = true
      · have unresolved : includes [text "unresolved_blocker"] (candidateClassOf item) = false :=
   includes_apart (by decide) pinned
        have eligible : includes KEEP_REF_ELIGIBLE_CLASSES (candidateClassOf item) = false :=
          includes_apart (by decide) pinned
        cases marked item "current_blocker" <;> simp [sensitive, pinned, unresolved, eligible]
      by_cases eligible : includes KEEP_REF_ELIGIBLE_CLASSES (candidateClassOf item) = true
      · have unresolved : includes [text "unresolved_blocker"] (candidateClassOf item) = false :=
   includes_apart (by decide) eligible
        have active : includes [text "current_task"] (candidateClassOf item) = false :=
          includes_apart (by decide) eligible
        cases marked item "current_blocker" <;> cases marked item "rehydratable"
          <;> simp [sensitive, pinned, eligible, unresolved, active]
      · simp [sensitive, pinned, eligible]
  | false =>
    have unlisted (classes : List Text) : includes classes (candidateClassOf item) = false := by
      by_contra mem
      rw [Bool.not_eq_false] at mem
      rw [truthy_of_isClass mem] at set
      cases set
    rw [rowClass_of_falsy set]
    simp only [unlisted]
    cases marked item "current_blocker" <;> cases marked item "current_task"
      <;> cases marked item "rehydratable" <;> cases (repoRefOf item).isSome
      <;> cases (objectRefOf item).isSome <;> rfl

theorem actionOf_eq_pin_iff (item : Value) : actionOf item = .pin ↔ isPinned item = true := by
  unfold actionOf isPinned
  cases isProtectedOrSensitive item <;> cases isCurrentBlocker item
    <;> cases isPinnedContext item <;> simp
  all_goals split_ifs <;> simp

theorem truthy_of_nonEmptyString {ref : Text} (found : nonEmptyString value = some ref)
    : value.truthy = true := by
  cases value with
  | string s =>
    refine bne_iff_ne.mpr fun empty => ?_
    rw [empty] at found
    cases found
  | _ => cases found

theorem hasRehydrationIdentity_of_refs
    (refs : ((objectRefOf item).isSome || (repoRefOf item).isSome) = true)
    : hasRehydrationIdentity item = true := by
  have named {values : List Value} (found : (firstNonEmptyString values).isSome = true)
      : ∃ value ∈ values, value.truthy = true := by
    obtain ⟨ref, first⟩ := Option.isSome_iff_exists.mp found
    obtain ⟨value, seen, isRef⟩ := exists_of_findSome?_eq_some first
    exact ⟨value, seen, truthy_of_nonEmptyString isRef⟩
  have ofRepo (value : Value) (isRepo : (markedBy ["repo:"] value).truthy = true)
      : value.truthy = true := by
    unfold markedBy at isRepo
    split at isRepo
    · split at isRepo
      · exact isRepo
      · cases isRepo
    · cases isRepo
  unfold hasRehydrationIdentity
  simp only [any_cons, any_nil, Bool.or_eq_true]
  rcases Bool.or_eq_true_iff.mp refs with object | repo
  · obtain ⟨value, seen, isTruthy⟩ := named object
    simp only [mem_cons, not_mem_nil, or_false] at seen
    rcases seen with rfl | rfl | rfl | rfl <;> simp [isTruthy]
  · obtain ⟨value, seen, isTruthy⟩ := named repo
    simp only [mem_cons, not_mem_nil, or_false] at seen
    rcases seen with rfl | rfl
    · simp [isTruthy]
    · simp [ofRepo _ isTruthy]

theorem hasImmutableRef_of_identity (identity : hasRehydrationIdentity item = true)
    : hasImmutableRef item = true := by
  unfold hasImmutableRef
  unfold hasRehydrationIdentity at identity
  rw [any_cons, identity, Bool.or_true]

/-- What is referred by its row could leave by itself if it is not pinned. Witness: its class may leave, so it is of no
other kind.
-/
theorem leaves_of_referred (referred : isReferred item = true)
    (unpinned : isPinned item = false)
    (alone
      : (isRedundantSuccessfulRead item
        || (hasFlag item "rehydratable"
          && includes KEEP_REF_ELIGIBLE_CLASSES (candidateClassOf item))) = true)
    : (actionOf item).rank ≤ 1 := by
  simp only [isReferred, Bool.and_eq_true, Bool.not_eq_true'] at referred
  obtain ⟨⟨⟨-, unblocked⟩, refs⟩, -⟩ := referred
  have identity := hasRehydrationIdentity_of_refs refs
  have eligible : includes KEEP_REF_ELIGIBLE_CLASSES (candidateClassOf item) = true := by
    rcases Bool.or_eq_true_iff.mp alone with redundant | rehydratable
    · simp only [isRedundantSuccessfulRead, Bool.and_eq_true] at redundant
      obtain ⟨s, seen, named⟩ := includes_iff.mp redundant.1.1.1
      cases mem_singleton.mp seen
      rw [named]
      decide
    · exact (Bool.and_eq_true_iff.mp rehydratable).2
  have unresolved : includes [text "unresolved_blocker"] (candidateClassOf item) = false :=
    includes_apart (by decide) eligible
  have idle : includes [text "current_task"] (candidateClassOf item) = false :=
    includes_apart (by decide) eligible
  have unflagged : hasFlag item "current_blocker" = false := by
    by_contra flagged
    rw [marked_of_hasFlag (Bool.not_eq_false _ ▸ flagged)] at unblocked
    cases unblocked
  have blocker : isCurrentBlocker item = false := by
    rw [isCurrentBlocker, unresolved, unflagged, Bool.or_false]
  have active : isActiveTask item = false := idle
  simp only [isPinned, blocker, Bool.not_false, Bool.true_and, Bool.or_eq_false_iff] at unpinned
  unfold actionOf
  rw [unpinned.1, unpinned.2, blocker, active, identity]
  cases redundant : isRedundantSuccessfulRead item with
  | true => exact Nat.zero_le 1
  | false =>
    rw [redundant, Bool.false_or, Bool.and_eq_true] at alone
    have rehydratable : isRehydratable item = true := by
      simp only [isRehydratable, alone.1, hasImmutableRef_of_identity identity, identity,
        eligible, active, Bool.and_self, Bool.not_false]
    rw [rehydratable]
    exact Nat.le_refl 1

theorem could_leave (leaves : (actionOf item).rank ≤ 1)
    : (isRedundantSuccessfulRead item
        || (hasFlag item "rehydratable"
          && includes KEEP_REF_ELIGIBLE_CLASSES (candidateClassOf item))) = true := by
  by_cases redundant : isRedundantSuccessfulRead item = true
  · rw [redundant, Bool.true_or]
  by_cases rehydratable : isRehydratable item = true
  · simp only [isRehydratable, Bool.and_eq_true] at rehydratable
    rw [rehydratable.1.1.1.1, rehydratable.1.2, Bool.and_self, Bool.or_true]
  · unfold actionOf at leaves
    rw [if_neg redundant, if_neg rehydratable] at leaves
    split_ifs at leaves
    all_goals exact absurd leaves (by decide)

theorem unpinned_of_referred (referred : isReferred item = true)
    : isPinnedByClass item = false := by
  simp only [isReferred, Bool.and_eq_true] at referred
  rw [isPinnedByClass, Bool.or_eq_false_iff]
  rcases Bool.or_eq_true_iff.mp referred.2 with eligible | unclassed
  · have unprotected : includes PROTECTED_CLASSES (candidateClassOf item) = false :=
   includes_apart (by decide) eligible
    have unpinned : includes PINNED_CONTEXT_CLASSES (candidateClassOf item) = false :=
      includes_apart (by decide) eligible
    exact ⟨unprotected, by rw [isPinnedContext, unpinned, Bool.false_and]⟩
  · simp only [Bool.and_eq_true, Bool.not_eq_true'] at unclassed
    have unlisted (classes : List Text) : includes classes (candidateClassOf item) = false := by
      by_contra mem
      rw [truthy_of_isClass (Bool.not_eq_false _ ▸ mem)] at unclassed
      exact absurd unclassed.1.1 (by decide)
    exact ⟨unlisted _, by rw [isPinnedContext, unlisted, Bool.false_and]⟩

theorem protects_ledgerRow_iff (item : Value)
    : Protects item (classifyCandidate (ledgerRow item)) ↔ KeepsProtection item := by
  have row := actionOf_ledgerRow item
  constructor
  · intro protects
    have atLeast := protects.atLeast
    rw [protection_classifyCandidate, protection_classifyCandidate, row] at atLeast
    refine ⟨fun pinned => ?_, fun referred => ?_⟩
    · rw [(actionOf_eq_pin_iff item).mpr pinned] at atLeast
      by_contra unpinned
      rw [if_neg unpinned] at atLeast
      split at atLeast
      · exact absurd atLeast (by decide)
      · exact absurd atLeast (by decide)
    · rw [unpinned_of_referred referred, referred] at atLeast row
      refine ⟨?_, could_leave atLeast⟩
      by_contra task
      have stays : mustStay item = true := by
        rw [Bool.not_eq_false] at task
        rw [mustStay, task, Bool.or_true, Bool.true_or]
      have left := (leavesContext_classifyCandidate _).mpr (.inl row)
      rw [protects.whole stays] at left
      cases left
  · intro keeps
    have unpinned (byClass : ¬isPinnedByClass item = true) : isPinned item = false :=
      Bool.not_eq_true _ ▸ fun pinned => byClass (keeps.pinned pinned)
    constructor
    · rw [protection_classifyCandidate, protection_classifyCandidate, row]
      by_cases byClass : isPinnedByClass item = true
      · rw [if_pos byClass]
        cases actionOf item <;> decide
      · rw [if_neg byClass]
        split
        case isTrue referred =>
          exact leaves_of_referred referred (unpinned byClass) (keeps.referred referred).2
        case isFalse =>
          have notPin : actionOf item ≠ .pin := by
            intro pin
            exact byClass (keeps.pinned ((actionOf_eq_pin_iff item).mp pin))
          cases action : actionOf item with
          | pin => exact absurd action notPin
          | keepFull => exact Nat.le_refl 2
          | keepRef => decide
          | dropFromActiveContext => decide
    · intro stays
      by_contra left
      have leaves := (leavesContext_classifyCandidate _).mp (Bool.not_eq_false _ ▸ left)
      rw [row] at leaves
      split_ifs at leaves with byClass referred
      · rcases leaves with never | never <;> cases never
      · have free := unpinned byClass
        simp only [isPinned, Bool.or_eq_false_iff] at free
        have idle := (keeps.referred referred).1
        simp only [isReferred, Bool.and_eq_true, Bool.not_eq_true'] at referred
        rw [mustStay, free.1, idle, referred.1.1.2] at stays
        cases stays
      · rcases leaves with never | never <;> cases never

/-- The ledger protects every item exactly if what is pinned is pinned by its class, and what may leave its row is no
current task and could leave by itself.
-/
theorem previewRetentionFromLedger_protects_iff (items : List (List (Text × Value)))
    : List.Forall₂ Protects (items.map Value.literal)
        (previewRetentionFromLedger (items.map Value.literal))
      ↔ ∀ item ∈ items, KeepsProtection (.literal item) := by
  rw [previewRetentionFromLedger, previewRetention, compileRetentionLedger]
  rw [map_map, map_map, forall₂_map_left_iff, forall₂_map_right_iff,
    forall₂_same]
  constructor
  · intro protects item listed
    exact (protects_ledgerRow_iff _).mp (protects item listed)
  · intro keeps item listed
    exact (protects_ledgerRow_iff _).mpr (keeps item listed)

/-- The row of an item that is flagged as secret forgets the flag. -/
theorem secret_loses_protection
    : ¬∀ items : List (List (Text × Value)),
        List.Forall₂ Protects (items.map Value.literal)
          (previewRetentionFromLedger (items.map Value.literal)) := by
  intro protects
  have keeps :=
    protects
      [[(text "class", .string (text "tool_result")),
        (text "flags", .literal [(text "secret", .bool true)])]]
  cases keeps with
  | cons first rest =>
    have atLeast := first.atLeast
    revert atLeast
    decide +kernel

end CairnStone.ContextRetention
