import CairnStone.TaskRuns.Refs

/-! The executor registry, what a piece of work requires, and which executor a route selects. -/

namespace CairnStone.TaskRuns

open JavaScript

/-- `{ ok: false, error, …details }` -/
structure Refusal where
  error : Text
  details : List (Text × Value)

def refuse (error : String) : Refusal where
  error := text error
  details := []

def EXECUTOR_ROUTE_RECEIPT_SCHEMA : Text := text "cairnstone-executor-route-receipt-v1"

def POLICY_PRESETS : List Text :=
  [text "economy", text "balanced", text "best", text "manual"]

inductive ContextMode where
  | cairnstoneNative
  | compiledContext
  deriving DecidableEq

def ContextMode.text : ContextMode → Text
  | .cairnstoneNative => JavaScript.text "cairnstone_native"
  | .compiledContext => JavaScript.text "compiled_context"

structure Profile where
  (executorId executorClass : Text)
  selectionRank : Nat
  availability : Text
  capabilities : List Text
  (costClass latencyClass qualityClass : Text)
  contextMode : ContextMode
  supportedRefTypes : List Text
  contextResolutionEndpoint : Option Text

/-- `requires_compiled_context`, which every profile sets by its context mode -/
def Profile.requiresCompiledContext (profile : Profile) : Bool :=
  profile.contextMode == .compiledContext

def NATIVE_SUPPORTED_REF_TYPES : List Text :=
  [text "stone_hash", text "attachment_ref", text "code_session_id", text "path_head",
    text "repo_sha", text "access_grant_id", text "scope", text "task_run_id", text "msg_ref"]

def COMPILED_SUPPORTED_REF_TYPES : List Text :=
  [text "attachment_ref", text "repo_sha", text "stone_hash", text "task_run_id", text "msg_ref"]

namespace SelectionRank

def deterministic : Nat := 1
def narrowSpecialist : Nat := 2
def inexpensiveModel : Nat := 3
def codingAgent : Nat := 4
def premiumGeneral : Nat := 5
def paidExternal : Nat := 6

end SelectionRank

def deterministicMcp : Profile where
  executorId := text "exec:deterministic-mcp"
  executorClass := text "deterministic_mcp"
  selectionRank := SelectionRank.deterministic
  availability := text "available"
  capabilities :=
    [text "repo.read", text "repo.search", text "d1.inspect", text "cloudflare.inspect",
      text "stone.read", text "attachment.resolve"]
  costClass := text "free"
  latencyClass := text "sync_fast"
  qualityClass := text "deterministic"
  contextMode := .cairnstoneNative
  supportedRefTypes := NATIVE_SUPPORTED_REF_TYPES
  contextResolutionEndpoint := some (text "in_process:cairnstone")

def afoSpecialist : Profile where
  executorId := text "exec:afo-specialist"
  executorClass := text "afo_specialist"
  selectionRank := SelectionRank.narrowSpecialist
  availability := text "stub"
  capabilities :=
    [text "github.api", text "repo.search", text "repo.read", text "cloudflare.inspect",
      text "d1.inspect", text "background.run"]
  costClass := text "low"
  latencyClass := text "async"
  qualityClass := text "specialist"
  contextMode := .compiledContext
  supportedRefTypes := COMPILED_SUPPORTED_REF_TYPES
  contextResolutionEndpoint := none

def cairnstoneDelegate : Profile where
  executorId := text "exec:cairnstone-delegate"
  executorClass := text "delegated_model"
  selectionRank := SelectionRank.inexpensiveModel
  availability := text "available"
  capabilities :=
    [text "repo.read", text "repo.search", text "stone.read", text "synthesis.bounded",
      text "reasoning.general"]
  costClass := text "low"
  latencyClass := text "async"
  qualityClass := text "balanced"
  contextMode := .cairnstoneNative
  supportedRefTypes := NATIVE_SUPPORTED_REF_TYPES
  contextResolutionEndpoint := some (text "in_process:cairnstone_delegate")

def githubCopilot : Profile where
  executorId := text "exec:github-copilot"
  executorClass := text "coding_agent"
  selectionRank := SelectionRank.codingAgent
  availability := text "stub"
  capabilities :=
    [text "repo.read", text "repo.search", text "repo.edit", text "repo.diff", text "repo.pr",
      text "repo.test", text "github.api"]
  costClass := text "medium"
  latencyClass := text "async_long"
  qualityClass := text "premium"
  contextMode := .compiledContext
  supportedRefTypes := COMPILED_SUPPORTED_REF_TYPES
  contextResolutionEndpoint := none

def cursorCloud : Profile where
  executorId := text "exec:cursor-cloud"
  executorClass := text "coding_agent"
  selectionRank := SelectionRank.codingAgent
  availability := text "stub"
  capabilities :=
    [text "repo.read", text "repo.search", text "repo.edit", text "repo.diff", text "repo.pr",
      text "repo.test", text "background.run"]
  costClass := text "medium"
  latencyClass := text "async_long"
  qualityClass := text "premium"
  contextMode := .cairnstoneNative
  supportedRefTypes := NATIVE_SUPPORTED_REF_TYPES
  contextResolutionEndpoint := some (text "mcp:cairnstone")

def SEED_EXECUTOR_PROFILES : List Profile :=
  [deterministicMcp, afoSpecialist, cairnstoneDelegate, githubCopilot, cursorCloud]

/-- `EXECUTOR_ID_RE` -/
def isExecutorId (s : Text) : Bool :=
  isMarkedName "exec:" s

def getExecutorProfile (executorId : Value) : Except Text Profile :=
  match nonEmptyString executorId with
  | none => .error (text "invalid_executor_id")
  | some id =>
    if isExecutorId id then
      match SEED_EXECUTOR_PROFILES.find? (·.executorId == id) with
      | some profile => .ok profile
      | none => .error (text "executor_not_found")
    else
      .error (text "invalid_executor_id")

/-- A word of a pattern; `none` stands for any unit but a line terminator. -/
abbrev Pattern := List (Option CodeUnit)

def isLineTerminator (u : CodeUnit) : Bool :=
  u == 0x0A || u == 0x0D || u == 0x2028 || u == 0x2029

def isWordUnit (u : CodeUnit) : Bool :=
  isLetter u || isDigit u || u == 0x5F

def afterPattern : Pattern → Text → Option Text
  | [], s => some s
  | _ :: _, [] => none
  | none :: pattern, u :: rest => if isLineTerminator u then none else afterPattern pattern rest
  | some v :: pattern, u :: rest => if u = v then afterPattern pattern rest else none

/-- One of the patterns, each of which begins and ends with a letter, stands as a word in the text.
`inWord` says whether a word reaches up to it.
-/
def mentions (patterns : List Pattern) : Bool → Text → Bool
  | _, [] => false
  | inWord, u :: rest =>
    (!inWord
      && patterns.any (fun pattern =>
          match afterPattern pattern (u :: rest) with
          | some after => !after.head?.any isWordUnit
          | none => false))
    || mentions patterns (isWordUnit u) rest

def word (s : String) : Pattern :=
  (text s).map some

/-- `pull.?request` -/
def pullRequest : List Pattern :=
  [word "pullrequest", word "pull" ++ [none] ++ word "request"]

def HINTS : List (List Pattern × List Text) :=
  [(word "pr" :: pullRequest
      ++ [word "diff", word "edit", word "patch", word "implement", word "fix", word "coding"],
      [text "repo.edit", text "repo.diff"]),
    (word "pr" :: pullRequest, [text "repo.pr"]),
    ([word "test", word "tests"], [text "repo.test"]),
    ([word "github", word "copilot"], [text "github.api"]),
    ([word "d1", word "sql", word "database"], [text "d1.inspect"]),
    ([word "cloudflare", word "worker", word "wrangler"], [text "cloudflare.inspect"]),
    ([word "reason", word "judge", word "architect", word "compare", word "synthesize"],
      [text "reasoning.general"])]

/-- What a reference requires. -/
def refCapability (ref : Text) : Option Text :=
  let marked (mark : String) : Bool := (text mark).isPrefixOf ref
  if marked "repo:" then some (text "repo.read")
  else if marked "stone:" || marked "msg:" || marked "cvs:" then some (text "stone.read")
  else if marked "cs:" || marked "ws:" then some (text "repo.read")
  else none

def hintCapabilities (hints : Text) : List Text :=
  HINTS.flatMap (fun hint => if mentions hint.1 false hints then hint.2 else [])

/-- `inferRequiredCapabilities` of normalized capabilities, references and hints in lower case -/
def inferRequiredCapabilities (capabilities refs : List Text) (hints : Text) : List Text :=
  let required := capabilities ++ refs.filterMap refCapability ++ hintCapabilities hints
  (if required = [] then [text "stone.read"] else required.eraseDups).insertionSort (· ≤ ·)

def HOST_SATISFIED_COMPILED_CAPABILITIES : List Text := [text "stone.read"]

/-- `profileCoversCapabilities(profile, required).missing` -/
def missingCapabilities (profile : Profile) (required : List Text) : List Text :=
  let host := if profile.requiresCompiledContext then HOST_SATISFIED_COMPILED_CAPABILITIES else []
  required.filter (fun c => !profile.capabilities.contains c && !host.contains c)

def DETERMINISTIC_CAPABILITIES : List Text :=
  [text "repo.read", text "repo.search", text "d1.inspect", text "cloudflare.inspect",
    text "stone.read", text "attachment.resolve"]

def isFullyDeterministic (required : List Text) : Bool :=
  required != [] && required.all (DETERMINISTIC_CAPABILITIES.contains ·)

def requiresCodingAgent (required : List Text) : Bool :=
  required.any
    ([text "repo.edit", text "repo.pr", text "repo.diff", text "repo.test"].contains ·)

def costRank (costClass : Text) : Nat :=
  let rank :=
    [text "free", text "low", text "medium", text "high", text "paid_external"].idxOf costClass
  if rank < 5 then rank else 9

def qualityRank (qualityClass : Text) : Nat :=
  let rank :=
    [text "deterministic", text "specialist", text "balanced", text "premium"].idxOf qualityClass
  if rank < 4 then rank else 9

/-- `value === false` -/
def isFalse : Value → Bool
  | .bool b => !b
  | _ => false

def includes (list : Value) (s : Text) : Bool :=
  (listOf list).any (·.strictEquals (.string s))

/-- `policyAllows(profile, policy, budget)`: the reason why not -/
def policyObjection (profile : Profile) (policy : Text) (budget : Value) : Option Text :=
  let native := profile.contextMode == .cairnstoneNative
  let allowlist := budget.get (text "executor_allowlist")
  if policy = text "economy"
      ∧ (profile.costClass = text "high" ∨ profile.costClass = text "paid_external") then
    some (text "economy_rejects_high_cost")
  else if policy = text "economy" ∧ SelectionRank.premiumGeneral ≤ profile.selectionRank then
    some (text "economy_rejects_premium")
  else if (budget.get (text "max_cost_class")).truthy
      ∧ costRank (budget.get (text "max_cost_class")).interpolate < costRank profile.costClass then
    some (text "budget_max_cost_class_exceeded")
  else if isFalse (budget.get (text "allow_paid_external"))
      ∧ profile.costClass = text "paid_external" then
    some (text "paid_external_not_allowed")
  else if (budget.get (text "require_compiled_context")).isTrue ∧ native then
    some (text "budget_requires_compiled_context")
  else if (budget.get (text "forbid_native_context")).isTrue ∧ native then
    some (text "budget_forbids_native_context")
  else if (listOf allowlist).length ≠ 0 ∧ !includes allowlist profile.executorId then
    some (text "not_in_executor_allowlist")
  else if includes (budget.get (text "executor_denylist")) profile.executorId then
    some (text "executor_denylist")
  else
    none

def contextModeRank (profile : Profile) : Nat :=
  if profile.contextMode = .cairnstoneNative then 0 else 1

/-- `compareCandidates(a, b, policy) <= 0`, by the ranks that the policy compares in turn -/
def ranksBefore (policy : Text) (a b : Profile) : Bool :=
  let ranks (profile : Profile) : List Int :=
    if policy = text "best" then
      [-qualityRank profile.qualityClass, profile.selectionRank, contextModeRank profile]
    else if policy = text "economy" then
      [costRank profile.costClass, profile.selectionRank, contextModeRank profile]
    else
      [profile.selectionRank, costRank profile.costClass, contextModeRank profile]
  decide (ranks a ≤ ranks b)

/-- Why a profile is not eligible, and what it misses. -/
def rejection (profile : Profile) (required : List Text) (policy : Text) (budget preferred : Value)
    : Option (Text × Option (List Text)) :=
  let missing := missingCapabilities profile required
  if missing ≠ [] then some (text "missing_capabilities", some missing)
  else
    match policyObjection profile policy budget with
    | some reason => some (reason, none)
    | none =>
      if isFullyDeterministic required ∧ SelectionRank.codingAgent ≤ profile.selectionRank
          ∧ !preferred.strictEquals (.string profile.executorId) then
        some (text "deterministic_work_prefers_cheaper_executor", none)
      else
        none

def selectionReason (selected : Profile) (required : List Text) (policy : Text) : Text :=
  if isFullyDeterministic required ∧ selected.selectionRank = SelectionRank.deterministic then
    text "fully_deterministic"
  else if selected.selectionRank = SelectionRank.narrowSpecialist then
    text "narrow_specialist_capability_fit"
  else if selected.selectionRank = SelectionRank.inexpensiveModel then
    text "inexpensive_model_backed_specialist"
  else if selected.selectionRank = SelectionRank.codingAgent then
    if requiresCodingAgent required then text "coding_agent_repo_work_required"
    else text "coding_agent_selected"
  else if selected.selectionRank = SelectionRank.premiumGeneral then
    text "premium_general_reasoning_required"
  else if selected.selectionRank = SelectionRank.paidExternal then
    text "paid_external_policy_budget_allow"
  else
    text "policy_" ++ policy ++ text "_rank_" ++ digitText selected.selectionRank

def selectExecutor (eligible : List Profile) (required : List Text) (policy : Text)
    (preferred : Value)
    : Except Refusal (Profile × Text) :=
  match nonEmptyString preferred with
  | some id =>
    if !isExecutorId id then .error (refuse "invalid_preferred_executor")
    else
      match eligible.find? (·.executorId == id) with
      | some profile => .ok (profile, text "preferred_executor")
      | none =>
        if SEED_EXECUTOR_PROFILES.any (·.executorId == id) then
          .error (refuse "preferred_executor_not_eligible")
        else
          .error (refuse "preferred_executor_not_found")
  | none =>
    if policy = text "manual" then
      .error (refuse "manual_policy_requires_preferred_executor")
    else
      match eligible.mergeSort (ranksBefore policy) with
      | [] => .error (refuse "no_eligible_executor")
      | selected :: _ => .ok (selected, selectionReason selected required policy)

end CairnStone.TaskRuns
