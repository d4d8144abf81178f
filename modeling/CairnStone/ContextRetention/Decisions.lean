import CairnStone.TaskRuns.Refs

/-! Retention decisions: which candidates stay in the active context, which leave it behind a reference,
and which are dropped for a newer one.
-/

namespace CairnStone.ContextRetention

open JavaScript

/-- `RETENTION_ACTIONS` -/
inductive RetentionAction where
  | pin
  | keepFull
  | keepRef
  | dropFromActiveContext
  deriving DecidableEq

def RetentionAction.text : RetentionAction → Text
  | .pin => JavaScript.text "PIN"
  | .keepFull => JavaScript.text "KEEP_FULL"
  | .keepRef => JavaScript.text "KEEP_REF"
  | .dropFromActiveContext => JavaScript.text "DROP_FROM_ACTIVE_CONTEXT"

def PROTECTED_CLASSES : List Text :=
  [text "chain_head", text "path_head", text "stone_identity", text "git_provenance",
    text "skill_manifest", text "authorization_guard", text "access_grant",
    text "execution_receipt", text "work_receipt", text "code_session_checkpoint",
    text "scope_snapshot", text "grounded_response_skeleton", text "credential_bearer",
    text "secret"]

def PINNED_CONTEXT_CLASSES : List Text := [text "user_intent", text "recent_turn"]

def KEEP_REF_ELIGIBLE_CLASSES : List Text :=
  [text "repo_read", text "search_expand", text "web_evidence", text "hydrated_tool_schema",
    text "recoverable_ops_context"]

def authorityClosedFields : List (Text × Value) :=
  [(text "accepted_state_authority", .bool false), (text "chain_heads_mutated", .bool false),
    (text "path_heads_mutated", .bool false), (text "storage_deleted", .bool false)]

def includes (classes : List Text) (value : Value) : Bool :=
  classes.any (fun s => value.strictEquals (.string s))

def candidateClassOf (candidate : Value) : Value :=
  ((candidate.get (text "class")).or (candidate.get (text "candidate_class"))).or .null

/-- `candidate.flags || {}` -/
def flagsOf (candidate : Value) : Value :=
  (candidate.get (text "flags")).or (.literal [])

def hasImmutableRef (candidate : Value) : Bool :=
  [text "immutable_ref", text "object_ref", text "content_ref", text "repo_ref",
    text "rehydration_ref", text "stone_ref"].any (fun key => (candidate.get key).truthy)

def hasRehydrationIdentity (candidate : Value) : Bool :=
  [text "object_ref", text "content_ref", text "repo_ref", text "rehydration_ref",
    text "stone_ref"].any (fun key => (candidate.get key).truthy)

def newerImmutableRefOf (candidate : Value) : Value :=
  ((candidate.get (text "newer_immutable_ref")).or
    ((flagsOf candidate).get (text "newer_immutable_ref"))).or .null

/-- Whether the flag is `true`. -/
def hasFlag (candidate : Value) (flag : String) : Bool :=
  ((flagsOf candidate).get (text flag)).isTrue

def isProtectedOrSensitive (candidate : Value) : Bool :=
  includes PROTECTED_CLASSES (candidateClassOf candidate)
  || hasFlag candidate "protected" || hasFlag candidate "secret"
  || hasFlag candidate "capability_bearer"

def isCurrentBlocker (candidate : Value) : Bool :=
  includes [text "unresolved_blocker"] (candidateClassOf candidate)
  || hasFlag candidate "current_blocker"

def isPinnedContext (candidate : Value) : Bool :=
  includes PINNED_CONTEXT_CLASSES (candidateClassOf candidate)

def isActiveTask (candidate : Value) : Bool :=
  includes [text "current_task"] (candidateClassOf candidate)

def isRedundantSuccessfulRead (candidate : Value) : Bool :=
  includes [text "repo_read"] (candidateClassOf candidate)
  && (candidate.get (text "success")).isTrue
  && (hasFlag candidate "redundant_successful_read" || hasFlag candidate "redundant")
  && (newerImmutableRefOf candidate).truthy

def isRehydratable (candidate : Value) : Bool :=
  hasFlag candidate "rehydratable" && hasImmutableRef candidate
  && hasRehydrationIdentity candidate
  && includes KEEP_REF_ELIGIBLE_CLASSES (candidateClassOf candidate)
  && !isActiveTask candidate

def decision (candidate : Value) (action : RetentionAction) (newer : List (Text × Value))
    (reason : String)
    : Value :=
  .literal
    ([(text "action", .string action.text), (text "candidate", candidate),
        (text "candidate_class", candidateClassOf candidate)]
      ++ newer ++ (text "reason", .string (text reason)) :: authorityClosedFields)

def dropDecision (candidate : Value) : Value :=
  decision candidate .dropFromActiveContext
    [(text "newer_immutable_ref", newerImmutableRefOf candidate),
      (text "rehydration_ref", newerImmutableRefOf candidate)]
    "redundant_successful_read_newer_ref"

def keepRefDecision (candidate : Value) : Value :=
  decision candidate .keepRef [] "rehydratable_with_immutable_ref"

def classifyCandidate (candidate : Value) : Value :=
  if isProtectedOrSensitive candidate then decision candidate .pin [] "protected_or_sensitive"
  else if isCurrentBlocker candidate then decision candidate .keepFull [] "current_blocker"
  else if isPinnedContext candidate then decision candidate .pin [] "pinned_context"
  else if isActiveTask candidate then decision candidate .keepFull [] "active_task"
  else if isRedundantSuccessfulRead candidate then
    if hasRehydrationIdentity candidate then dropDecision candidate
    else decision candidate .keepFull [] "missing_rehydration_identity"
  else if isRehydratable candidate then keepRefDecision candidate
  else decision candidate .keepFull [] "default_keep_full"

def takes (decided : Value) (action : RetentionAction) : Bool :=
  (decided.get (text "action")).strictEquals (.string action.text)

def leavesContext (decided : Value) : Bool :=
  takes decided .keepRef || takes decided .dropFromActiveContext

theorem takes_decision (cand : Value) (action other : RetentionAction)
    (newer : List (Text × Value)) (reason : String)
    : takes (decision cand action newer reason) other = decide (action = other) := by
  cases action with
  | pin => cases other <;> rfl
  | keepFull => cases other <;> rfl
  | keepRef => cases other <;> rfl
  | dropFromActiveContext => cases other <;> rfl

/-- Whatever a candidate is, it is decided on. -/
theorem exists_decision (cand : Value)
    : ∃ action newer reason, classifyCandidate cand = decision cand action newer reason := by
  unfold classifyCandidate
  repeat' split
  all_goals exact ⟨_, _, _, rfl⟩

def isRetainedWhole (candidate : Value) : Bool :=
  isProtectedOrSensitive candidate || isCurrentBlocker candidate || isPinnedContext candidate
  || isActiveTask candidate
  || (if isRedundantSuccessfulRead candidate then !hasRehydrationIdentity candidate
      else !isRehydratable candidate)

/-- A candidate stays as a whole, is dropped for a newer reference, or leaves behind a reference.
Witness: the cases of the classification.
-/
theorem classifyCandidate_cases (cand : Value)
    : (isRetainedWhole cand = true ∧ leavesContext (classifyCandidate cand) = false)
      ∨ (isRetainedWhole cand = false ∧ isRedundantSuccessfulRead cand = true
        ∧ classifyCandidate cand = dropDecision cand)
      ∨ (isRetainedWhole cand = false ∧ isRedundantSuccessfulRead cand = false
        ∧ classifyCandidate cand = keepRefDecision cand) := by
  have stays (action : RetentionAction) (reason : String) (ne : action ≠ .keepRef)
      (ne' : action ≠ .dropFromActiveContext)
      : leavesContext (decision cand action [] reason) = false := by
    simp [leavesContext, takes_decision, ne, ne']
  unfold classifyCandidate isRetainedWhole
  by_cases sensitive : isProtectedOrSensitive cand = true
  · refine .inl ⟨by simp [sensitive], ?_⟩
    rw [if_pos sensitive]
    exact stays _ _ (by decide) (by decide)
  by_cases blocker : isCurrentBlocker cand = true
  · refine .inl ⟨by simp [blocker], ?_⟩
    rw [if_neg sensitive, if_pos blocker]
    exact stays _ _ (by decide) (by decide)
  by_cases pinned : isPinnedContext cand = true
  · refine .inl ⟨by simp [pinned], ?_⟩
    rw [if_neg sensitive, if_neg blocker, if_pos pinned]
    exact stays _ _ (by decide) (by decide)
  by_cases active : isActiveTask cand = true
  · refine .inl ⟨by simp [active], ?_⟩
    rw [if_neg sensitive, if_neg blocker, if_neg pinned, if_pos active]
    exact stays _ _ (by decide) (by decide)
  rw [if_neg sensitive, if_neg blocker, if_neg pinned, if_neg active]
  simp only [Bool.not_eq_true] at sensitive blocker pinned active
  simp only [sensitive, blocker, pinned, active, Bool.false_or]
  by_cases redundant : isRedundantSuccessfulRead cand = true
  · rw [if_pos redundant, if_pos redundant]
    by_cases identity : hasRehydrationIdentity cand = true
    · rw [if_pos identity]
      exact .inr (.inl ⟨by simp [identity], redundant, rfl⟩)
    · rw [if_neg identity]
      exact .inl ⟨by simp [identity], stays _ _ (by decide) (by decide)⟩
  · rw [if_neg redundant, if_neg redundant]
    by_cases rehydratable : isRehydratable cand = true
    · rw [if_pos rehydratable]
      exact .inr (.inr ⟨by simp [rehydratable], Bool.not_eq_true _ ▸ redundant, rfl⟩)
    · rw [if_neg rehydratable]
      exact .inl ⟨by simp [rehydratable], stays _ _ (by decide) (by decide)⟩

end CairnStone.ContextRetention
