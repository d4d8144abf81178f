import CairnStone.Data.Lookup
import CairnStone.TaskRuns.Executors

/-! Route receipts: the one that routing makes, and one that a caller supplies. -/

namespace CairnStone.TaskRuns

open JavaScript

/-- A list of texts, as a receipt holds it. -/
def textList (texts : List Text) : Value :=
  .array (texts.map (fun s => some (.string s)))

theorem mod_small (n : Nat) : n % 2 ^ 53 < 2 ^ 53 :=
  Nat.mod_lt n (Nat.two_pow_pos 53)

def countValue (n : Nat) : Value :=
  .number (.ofNat (n % 2 ^ 53) (mod_small n))

/-- What `resolveContextResolution(profile, { selection_reason })` adds to a receipt. -/
def resolveContextResolution (profile : Profile) (selectionReason : Value) : List (Text × Value) :=
  let reason :=
    match profile.contextMode with
    | .cairnstoneNative => text "executor_cairnstone_aware_resolves_canonical_refs"
    | .compiledContext => text "executor_requires_compiled_context_no_cairnstone_access"
  let resolution :=
    match profile.contextMode with
    | .cairnstoneNative => text "reference_only_native"
    | .compiledContext => text "compiled_transmitted"
  let preferred := selectionReason.strictEquals (.string (text "preferred_executor"))
  [(text "context_mode", .string profile.contextMode.text),
    (text "context_resolution", .string resolution),
    (text "context_resolution_reason",
      .string (if preferred then reason ++ text ";human_preferred_executor_honored" else reason)),
    (text "requires_compiled_context", .bool profile.requiresCompiledContext),
    (text "compiled_pack_required", .bool profile.requiresCompiledContext),
    (text "supported_ref_types", textList profile.supportedRefTypes),
    (text "context_resolution_endpoint", .ofOption profile.contextResolutionEndpoint)]

/-- `{ ...properties, ...added }` -/
def setProperties (properties added : List (Text × Value)) : List (Text × Value) :=
  added.foldl (fun properties entry => Value.setProperty properties entry.1 entry.2) properties

def enrichRouteReceiptContext (routeReceipt : Value) : Value :=
  let own :=
    setProperties routeReceipt.spread
      [(text "authorization_state", .string (text "requires_human_commit")),
        (text "accepted_state_authority", .bool false)]
  let receipt : Value := .literal own
  if (receipt.get (text "context_mode")).truthy
      && (receipt.get (text "context_resolution")).truthy then
    receipt
  else
    match getExecutorProfile (receipt.get (text "selected_executor_id")) with
    | .error _ => receipt
    | .ok profile =>
      .literal
        (setProperties own
          (resolveContextResolution profile ((receipt.get (text "selection_reason")).or .null)))

/-- What a call takes from outside: the instant and a random id, and how the platform lowers a text.
-/
structure Ambient where
  (now uuid : Text)
  toLowerCase : Text → Text

structure RouteRequest where
  requiredCapabilities : Value
  (attachmentRefs objectRefs : List Text)
  workHint : Option Text
  (policyPreset preferredExecutor budgetEnvelope : Value)
  parentTaskRunId : Option Text
  actorId : Text

/-- The routing module's `normalizeCapabilityList` -/
def normalizeRequired (input : Value) : Except Refusal (List Text) :=
  let list := listOf input
  let isCapability (s : Text) : Bool :=
    s.head?.any isLetter && (s.drop 1).all isNameUnit && s.length ≤ 128
  let normalize (item : Value) : Except Refusal Text :=
    match nonEmptyString item with
    | none => .error (refuse "invalid_required_capabilities_entry")
    | some capability =>
      if isCapability (capability.take 128) then .ok (capability.take 128)
      else
        .error
          { error := text "invalid_required_capabilities_entry"
            details := [(text "detail", .string (capability.take 128))] }
  if MAX_CAPS < list.length then .error (refuse "required_capabilities_too_large")
  else (list.mapM normalize).map List.eraseDups

def normalizeRefHints (refs : List Text) : Except Refusal (List Text) :=
  if MAX_REFS < refs.length then .error (refuse "attachment_refs_too_large")
  else .ok (((refs.map trim).filter (· ≠ [])).map (·.take MAX_REF_LEN)).eraseDups

def requiredFor (ambient : Ambient) (request : RouteRequest)
    : Except Refusal (List Text × List Text) := do
  let capabilities ← normalizeRequired request.requiredCapabilities
  let refs ← normalizeRefHints (request.attachmentRefs ++ request.objectRefs)
  let hints := ambient.toLowerCase (request.workHint.getD [])
  return (inferRequiredCapabilities capabilities refs hints, refs)

def isArray : Value → Bool
  | .array _ => true
  | _ => false

/-- A profile as a receipt lists it. -/
def Profile.entry (profile : Profile) : List (Text × Value) :=
  [(text "executor_id", .string profile.executorId),
    (text "executor_class", .string profile.executorClass),
    (text "selection_rank", countValue profile.selectionRank),
    (text "cost_class", .string profile.costClass),
    (text "latency_class", .string profile.latencyClass),
    (text "quality_class", .string profile.qualityClass),
    (text "availability", .string profile.availability),
    (text "context_mode", .string profile.contextMode.text),
    (text "requires_compiled_context", .bool profile.requiresCompiledContext)]

/-- `routeExecutor(request).route_receipt`, or the refusal -/
def routeExecutor (ambient : Ambient) (request : RouteRequest) : Except Refusal Value := do
  let policy :=
    match nonEmptyString request.policyPreset with
    | some s => lowerAscii s
    | none => text "balanced"
  if !POLICY_PRESETS.contains policy then
    throw
      { error := text "invalid_policy_preset"
        details := [(text "allowed", textList POLICY_PRESETS)] }
  let (required, refs) ← requiredFor ambient request
  let budget := if request.budgetEnvelope.isObject then request.budgetEnvelope else .literal []
  let rejected (profile : Profile) : Option (Text × Option (List Text)) :=
    rejection profile required policy budget request.preferredExecutor
  let eligible := SEED_EXECUTOR_PROFILES.filter (fun profile => (rejected profile).isNone)
  let (selected, reason) ← selectExecutor eligible required policy request.preferredExecutor
  let orNull (list : Value) : Value := if isArray list then list else .null
  return .literal
    ([(text "schema", .string EXECUTOR_ROUTE_RECEIPT_SCHEMA),
      (text "route_receipt_id", .string (text "errcpt:" ++ ambient.uuid)),
      (text "created_at", .string ambient.now),
      (text "actor_id", .string request.actorId),
      (text "parent_task_run_id", .ofOption request.parentTaskRunId),
      (text "required_capabilities", textList required),
      (text "attachment_refs", textList refs),
      (text "policy_preset", .string policy),
      (text "budget_envelope",
        .literal
          [(text "max_cost_class", (budget.get (text "max_cost_class")).or .null),
            (text "allow_paid_external",
              .bool (!isFalse (budget.get (text "allow_paid_external")))),
            (text "require_compiled_context",
              .bool (budget.get (text "require_compiled_context")).isTrue),
            (text "forbid_native_context",
              .bool (budget.get (text "forbid_native_context")).isTrue),
            (text "executor_allowlist", orNull (budget.get (text "executor_allowlist"))),
            (text "executor_denylist", orNull (budget.get (text "executor_denylist")))]),
      (text "considered_executors",
        .array (SEED_EXECUTOR_PROFILES.map (fun profile => some (.literal profile.entry)))),
      (text "eligible_executors", textList (eligible.map (·.executorId))),
      (text "rejected_candidates",
        .array (SEED_EXECUTOR_PROFILES.filterMap (fun profile =>
          (rejected profile).map (fun why =>
            some (.literal
              (profile.entry ++ (text "reason", .string why.1)
                :: (why.2.map (fun missing => (text "missing", textList missing))).toList)))))),
      (text "selected_executor_id", .string selected.executorId),
      (text "selected_executor_class", .string selected.executorClass),
      (text "selection_reason", .string reason),
      (text "cost_class", .string selected.costClass),
      (text "latency_class", .string selected.latencyClass),
      (text "quality_class", .string selected.qualityClass)]
    ++ resolveContextResolution selected (.string reason)
    ++ [(text "authorization_state", .string (text "requires_human_commit")),
      (text "dispatched", .bool false), (text "executor_invoked", .bool false),
      (text "accepted_state_authority", .bool false)])

theorem routeExecutor_spec {ambient : Ambient} {request : RouteRequest} {receipt : Value}
    (routed : routeExecutor ambient request = .ok receipt)
    : (∃ required refs, requiredFor ambient request = .ok (required, refs)
        ∧ receipt.get (text "required_capabilities") = textList required)
      ∧ ∀ key ∈ [text "selected_executor_id", text "selection_reason", text "route_receipt_id"],
        ∃ s, receipt.get key = .string s := by
  unfold routeExecutor at routed
  extract_lets policy at routed
  by_cases known : (!POLICY_PRESETS.contains policy) = true
  · rw [if_pos known] at routed
    cases routed
  · rw [if_neg known] at routed
    obtain ⟨⟨required, refs⟩, inferred, routed⟩ := bind_eq_ok.mp routed
    obtain ⟨⟨picked, reason⟩, _, routed⟩ := bind_eq_ok.mp routed
    cases routed
    refine ⟨⟨required, refs, inferred, rfl⟩, ?_⟩
    intro key mem
    rcases List.mem_cons.mp mem with rfl | mem
    · exact ⟨_, rfl⟩
    rcases List.mem_cons.mp mem with rfl | mem
    · exact ⟨_, rfl⟩
    cases List.mem_singleton.mp mem
    exact ⟨_, rfl⟩

end CairnStone.TaskRuns
