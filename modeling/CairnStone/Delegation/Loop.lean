import CairnStone.Concurrency.Transcripts
import CairnStone.Delegation.Allowlist

/-! The brokered read loop: turn by turn a context is compiled, the model is asked, and what it proposes
is put to the broker and read. The loop is a program over the exchanges with its dependencies.
-/

namespace CairnStone.Delegation

open Concurrency JavaScript TaskRuns ToolBroker

/-- What the loop asks of its dependencies. -/
inductive Call where
  | agentBootstrap (body : Value)
  | modelRoute (body : Value)
  | toolPolicyPreview (body : Value)
  | executeReadToolIntent (body : Value)

/-- What the dependencies reply: an answer, or they throw. -/
abbrev Dependence := World Call Unit Value

abbrev Step (world : Dependence) (α : Type) := Program (exchanging world) Unit α

structure Helpers where
  (compactDelegationEvidence compactDelegationRoute : Option (Value → Value))
  (compactDelegationUsage compactDelegationObservability : Option (Value → Value))
  delegationReadOnlyPolicy : Option (Nat → Value)
  (defaultRegistry delegationResultSchema : Value)

structure Dependencies where
  (agentBootstrapFromBody modelRouteFromBody executeReadToolIntent toolPolicyPreview : Bool)
  registry : Value

/-- The arguments of a loop. -/
structure LoopRequest where
  deps : Dependencies
  helpers : Helpers
  (actorId effectiveActorId : Value)
  baseTaskForBootstrap : Text
  (chain route generation limits includeInbox profile profileMeta grounding : Value)
  instructionsChain : Value
  (initialToolsExecuted maxTurns : Nat)

variable (host : Host) (request : LoopRequest)

/-- The registry that the loop goes by. -/
def LoopRequest.registry (request : LoopRequest) : Value :=
  if isArray request.deps.registry then request.deps.registry
  else request.helpers.defaultRegistry.or (.array [])

def LoopRequest.allowlist (host : Host) (request : LoopRequest) : List Text :=
  resolveLoopAllowlist host request.registry request.profile

/-- `helper ? helper(value) : fallback` -/
def helped (helper : Option (Value → Value)) (value fallback : Value) : Value :=
  match helper with
  | some helper => helper value
  | none => fallback

structure Progress where
  toolsExecuted : Nat
  (loopEvidence readReceipts turnTrace : List Value)
  (lastBootstrap lastRouted : Value)
  lastText : Text
  externalModelCalls : Number

def Progress.start (request : LoopRequest) : Progress where
  toolsExecuted := request.initialToolsExecuted
  loopEvidence := []
  readReceipts := listOf (request.grounding.get (text "read_receipts"))
  turnTrace := []
  lastBootstrap := .null
  lastRouted := .null
  lastText := []
  externalModelCalls := .zero

def barePolicy (toolsExecuted : Nat) : List (Text × Value) :=
  [(text "delegation_mode", .string (text "brokered_read_loop")),
    (text "tools_exposed_to_model", countValue 0), (text "tools_executed", countValue toolsExecuted),
    (text "execution_authority", .bool false), (text "mutation_authority", .bool false),
    (text "accepted_state_mutation", .bool false)]

def loopPolicy (toolsExposed toolsExecuted : Nat) : Value :=
  .literal
    [(text "delegation_mode", .string (text "brokered_read_loop")),
      (text "tools_exposed_to_model", countValue toolsExposed),
      (text "tools_executed", countValue toolsExecuted), (text "execution_authority", .bool false),
      (text "mutation_authority", .bool false), (text "accepted_state_mutation", .bool false),
      (text "tool_intents_only", .bool true), (text "model_intent_is_execution_authority", .bool false)]

def mergeGrounding (grounding : Value) (readReceipts : List Value) (toolsExecuted : Nat) : Value :=
  let receipts : Value := .array (readReceipts.map some)
  if !grounding.truthy then
    .literal
      [(text "schema", .string DELEGATE_LOOP_SCHEMA), (text "read_receipts", receipts),
        (text "live_reads_executed", countValue toolsExecuted), (text "degraded", .bool false)]
  else
    .literal
      (setProperties grounding.spread
        [(text "read_receipts", receipts),
          (text "live_reads_executed", countValue toolsExecuted)])

/-- `...(profileMeta ? { caller_actor_id, profile, grounding } : {})` -/
def profileFields (grounding : Value) : List (Text × Value) :=
  if request.profileMeta.truthy then
    [(text "caller_actor_id", request.actorId), (text "profile", request.profileMeta),
      (text "grounding", grounding)]
  else []

/-- `Number.isFinite(Number(value)) ? Number(value) : null` -/
def finiteOrNull (value : Value) : Value :=
  match host.toNumber value with
  | .finite x => .number (.finite x)
  | _ => .null

def loopDiagnostics (pkg : Value) (progress : Progress) (turns : Nat) (stopReason : Text)
    (stopDetail : Value)
    : Value :=
  let limits := pkg.get (text "limits")
  .literal
    ([(text "context_package_returned", .bool false),
        (text "server_carried_context_package", .bool true),
        (text "package_bytes", finiteOrNull host (limits.get (text "package_bytes"))),
        (text "package_truncated", .bool (limits.get (text "truncated")).isTrue),
        (text "memory_truncated",
          .bool ((pkg.get (text "memory")).get (text "truncated")).isTrue),
        (text "coordination_items",
          countValue (listOf ((pkg.get (text "coordination")).get (text "items"))).length),
        (text "external_model_calls", .number progress.externalModelCalls),
        (text "tools_executed", countValue progress.toolsExecuted),
        (text "turns", countValue turns), (text "stop_reason", .string stopReason),
        (text "allowlist_size", countValue (request.allowlist host).length),
        (text "turn_trace", .array (progress.turnTrace.map some))]
      ++ (if stopDetail.truthy then [(text "stop_detail", stopDetail)] else [])
      ++ [(text "loop", .bool true)])

structure Turn where
  turn : Nat
  (bootstrap routed : Value)

/-- Why the intents of a turn are stopped. -/
structure Blocked where
  stopReason : Text
  (decision reason toolId : Value)
  authorizationRequired : Option Bool

def Blocked.value (blocked : Blocked) : Value :=
  .literal
    ([(text "stopReason", .string blocked.stopReason), (text "decision", blocked.decision),
        (text "reason", blocked.reason), (text "tool_id", blocked.toolId)]
      ++ (blocked.authorizationRequired.toList.map (fun required =>
        (text "authorization_required", .bool required))))

/-- `value || null` -/
def orNull (value : Value) : Value :=
  value.or .null

def schemaField : Text × Value :=
  (text "schema",
    request.helpers.delegationResultSchema.or (.string (text "cairnstone-request-result-v1")))

def policyField (progress : Progress) : Text × Value :=
  (text "policy", loopPolicy (request.allowlist host).length progress.toolsExecuted)

def bootstrapFailed (turn : Nat) (bootstrap : Value) (progress : Progress) : Value :=
  let detail := (bootstrap.get (text "error")).or (.string (text "unknown"))
  .literal
    ([(text "ok", .bool false), schemaField request,
        (text "error", .string (text "delegation_bootstrap_failed")), (text "detail", detail),
        (text "actor_id", request.effectiveActorId)]
      ++ profileFields request request.grounding
      ++ [(text "chain", request.chain), policyField host request progress,
        (text "diagnostics",
          loopDiagnostics host request bootstrap progress turn (text "bootstrap_failed") .undefined)])

def routeFailed (turn : Turn) (progress : Progress) : Value :=
  let routed (key : String) : Value := turn.routed.get (text key)
  let helpers := request.helpers
  .literal
    ([(text "ok", .bool false), schemaField request,
        (text "error", (routed "error").or (.string (text "delegation_route_failed"))),
        (text "detail", (routed "detail").or .undefined),
        (text "diagnostic", (routed "diagnostic").or .undefined),
        (text "actor_id", request.effectiveActorId)]
      ++ profileFields request request.grounding
      ++ [(text "chain", request.chain),
        (text "package_id", turn.bootstrap.get (text "package_id")),
        (text "request_ir_id", orNull (routed "request_ir_id")),
        (text "route",
          helped helpers.compactDelegationRoute ((routed "route").or request.route)
            ((routed "route").or request.route)),
        (text "observability", helped helpers.compactDelegationObservability turn.routed .null),
        policyField host request progress,
        (text "evidence", helped helpers.compactDelegationEvidence turn.bootstrap .undefined),
        (text "diagnostics",
          loopDiagnostics host request turn.bootstrap progress turn.turn (text "route_failed")
            .undefined)])

def loopField (progress : Progress) (turns : Nat) (stopReason : Text) : Text × Value :=
  (text "loop",
    .literal
      [(text "schema", .string DELEGATE_LOOP_SCHEMA),
        (text "max_turns", countValue request.maxTurns), (text "turns", countValue turns),
        (text "stop_reason", .string stopReason),
        (text "allowlist", textList (request.allowlist host)),
        (text "read_receipts", .array (progress.readReceipts.map some)),
        (text "evidence", .array (progress.loopEvidence.map some)),
        (text "turn_trace", .array (progress.turnTrace.map some))])

def blockedError (stopReason : Text) : Text :=
  if stopReason = text "require_authorization" then text "delegate_loop_require_authorization"
  else if stopReason = text "budget" then text "delegate_loop_budget_exceeded"
  else text "delegate_loop_denied"

def blockedResult (turn : Turn) (blocked : Blocked) (progress : Progress) : Value :=
  let routed (key : String) : Value := turn.routed.get (text key)
  let helpers := request.helpers
  let grounding :=
    mergeGrounding request.grounding progress.readReceipts progress.toolsExecuted
  .literal
    ([(text "ok", .bool false), schemaField request,
        (text "error", .string (blockedError blocked.stopReason)),
        (text "detail",
          .literal
            [(text "decision", blocked.decision), (text "reason", blocked.reason),
              (text "tool_id", blocked.toolId),
              (text "authorization_required", .bool (blocked.authorizationRequired == some true)),
              (text "turn", countValue turn.turn)]),
        (text "actor_id", request.effectiveActorId)]
      ++ profileFields request grounding
      ++ [(text "chain", request.chain),
        (text "package_id", turn.bootstrap.get (text "package_id")),
        (text "request_ir_id", orNull (routed "request_ir_id")),
        (text "route",
          helped helpers.compactDelegationRoute (routed "route") (routed "route")),
        (text "observability", helped helpers.compactDelegationObservability turn.routed .null),
        (text "output",
          .literal
            [(text "text", .string progress.lastText),
              (text "finish_reason", orNull ((routed "output").get (text "finish_reason")))]),
        (text "usage", helped helpers.compactDelegationUsage (routed "usage") (routed "usage")),
        policyField host request progress,
        (text "evidence", helped helpers.compactDelegationEvidence turn.bootstrap .undefined),
        loopField host request progress turn.turn blocked.stopReason,
        (text "diagnostics",
          loopDiagnostics host request turn.bootstrap progress turn.turn blocked.stopReason
            blocked.value)])

inductive Stop where
  | finalAnswer
  | budget
  | maxTurns
  deriving DecidableEq

def Stop.text : Stop → Text
  | .finalAnswer => JavaScript.text "final_answer"
  | .budget => JavaScript.text "budget"
  | .maxTurns => JavaScript.text "max_turns"

def finish (stop : Stop) (progress : Progress) : Value :=
  let routed (key : String) : Value := progress.lastRouted.get (text key)
  let helpers := request.helpers
  let turnsCompleted :=
    if progress.turnTrace = [] then request.maxTurns else progress.turnTrace.length
  let grounding :=
    mergeGrounding request.grounding progress.readReceipts progress.toolsExecuted
  let stopDetail : Value :=
    if stop = .budget then .string (text "max_tool_calls_exceeded") else .null
  .literal
    ([(text "ok", .bool (stop != .maxTurns)), schemaField request,
        (text "actor_id", request.effectiveActorId)]
      ++ profileFields request grounding
      ++ [(text "chain", request.chain),
        (text "package_id", orNull (progress.lastBootstrap.get (text "package_id"))),
        (text "request_ir_id", orNull (routed "request_ir_id")),
        (text "output",
          .literal
            [(text "text", .string progress.lastText),
              (text "finish_reason",
                ((routed "output").get (text "finish_reason")).or
                  (.string (if stop = .maxTurns then text "max_turns" else text "stop")))]),
        (text "route",
          helped helpers.compactDelegationRoute ((routed "route").or request.route)
            ((routed "route").or request.route)),
        (text "usage",
          helped helpers.compactDelegationUsage (routed "usage") (orNull (routed "usage"))),
        (text "observability",
          helped helpers.compactDelegationObservability progress.lastRouted .null),
        (text "evidence",
          if progress.lastBootstrap.truthy then
            helped helpers.compactDelegationEvidence progress.lastBootstrap .undefined
          else .undefined),
        policyField host request progress,
        loopField host request progress turnsCompleted stop.text,
        (text "diagnostics",
          loopDiagnostics host request progress.lastBootstrap progress turnsCompleted stop.text
            stopDetail)]
      ++ (if stop = .maxTurns then
            [(text "error", .string (text "delegate_loop_max_turns")),
              (text "detail",
                .literal
                  [(text "max_turns", countValue request.maxTurns),
                    (text "turns", countValue turnsCompleted),
                    (text "partial_answer_present", .bool (progress.lastText != [])),
                    (text "reads_executed", countValue progress.loopEvidence.length)])]
          else []))

/-- What the policy preview says of an intent; without a preview it says nothing. -/
structure PreviewVerdict where
  (decision reason : Value)
  authorizationRequired : Bool

def isDecision (decision : Value) (name : String) : Bool :=
  decision.strictEquals (.string (text name))

def previewIntent {world : Dependence} (bootstrap : Value) (intent : Intent)
    : Step world (Except Blocked PreviewVerdict) :=
  if !request.deps.toolPolicyPreview then
    .done (.ok { decision := .null, reason := .null, authorizationRequired := false })
  else
    (ask (.toolPolicyPreview
      (.literal
        [(text "context_package", bootstrap), (text "tool_intent", intent.value)]))).bind
      (fun preview =>
        if !(preview.get (text "ok")).isTrue then
          .done
            (.error
              { stopReason := text "deny"
                decision := .string (text "deny")
                reason :=
                  (preview.get (text "error")).or (.string (text "tool_policy_preview_failed"))
                toolId := .string intent.toolId
                authorizationRequired := none })
        else
          .done
            (.ok
              { decision := preview.get (text "decision")
                reason := preview.get (text "reason")
                authorizationRequired := (preview.get (text "authorization_required")).isTrue }))

def objection (intent : Intent) (verdict : PreviewVerdict) (toolsExecuted : Nat) : Option Blocked :=
  let toolId : Value := .string intent.toolId
  let deny : Value := .string (text "deny")
  if isDecision verdict.decision "require_authorization" then
    some
      { stopReason := text "require_authorization"
        decision := .string (text "require_authorization")
        reason := verdict.reason.or (.string (text "authorization_required"))
        toolId
        authorizationRequired := some true }
  else if isDecision verdict.decision "deny" then
    some
      { stopReason := text "deny"
        decision := deny
        reason := verdict.reason.or (.string (text "policy_denied"))
        toolId
        authorizationRequired := some false }
  else if !(request.allowlist host).contains intent.toolId then
    some
      { stopReason := text "deny"
        decision := deny
        reason := .string (text "not_in_loop_allowlist")
        toolId
        authorizationRequired := some false }
  else if request.deps.toolPolicyPreview && !isDecision verdict.decision "allow" then
    some
      { stopReason := text "deny"
        decision := verdict.decision.or deny
        reason := verdict.reason.or (.string (text "policy_denied"))
        toolId
        authorizationRequired := some verdict.authorizationRequired }
  else if DELEGATE_LOOP_MAX_TOOL_CALLS ≤ toolsExecuted then
    some
      { stopReason := text "budget"
        decision := deny
        reason := .string (text "max_tool_calls_exceeded")
        toolId
        authorizationRequired := none }
  else none

def executionObjection (intent : Intent) (executed : Value) : Option Blocked :=
  let field (key : String) : Value := executed.get (text key)
  let toolId : Value := .string intent.toolId
  let decision := (field "decision").or (.string (text "deny"))
  if !(field "ok").isTrue then
    some
      { stopReason := text "deny"
        decision
        reason := (field "error").or (.string (text "tool_execution_failed"))
        toolId
        authorizationRequired := none }
  else if !(field "executed").isTrue then
    some
      { stopReason :=
          if isDecision (field "decision") "require_authorization" then text "require_authorization"
          else text "deny"
        decision
        reason :=
          ((field "execution_denied_reason").or (field "reason")).or
            (.string (text "execution_denied"))
        toolId
        authorizationRequired := some (field "authorization_required").isTrue }
  else none

structure TurnProgress where
  progress : Progress
  executedThisTurn : Nat

/-- One more read. -/
def TurnProgress.record (state : TurnProgress) (intent : Intent) (executed : Value) : TurnProgress :=
  let receipt := executed.get (text "receipt")
  let progress := state.progress
  { executedThisTurn := state.executedThisTurn + 1
    progress :=
      { progress with
        toolsExecuted := progress.toolsExecuted + 1
        loopEvidence :=
          progress.loopEvidence ++ [compactLoopReadEvidence intent.toolId executed]
        readReceipts :=
          if (receipt.get (text "stone_hash")).truthy then
            progress.readReceipts
              ++ [.literal
                  [(text "tool_id", .string intent.toolId),
                    (text "stone_hash", receipt.get (text "stone_hash")),
                    (text "chain", orNull (receipt.get (text "chain")))]]
          else progress.readReceipts } }

def fallbackIntentId (turn : Turn) (index : Nat) (raw : Value) : Text :=
  text "sha256:"
    ++ host.sha256Text
        (stableJson (.literal
          [(text "package_id", turn.bootstrap.get (text "package_id")),
            (text "request_ir_id", orNull (turn.routed.get (text "request_ir_id"))),
            (text "turn", countValue turn.turn), (text "ordinal", countValue index),
            (text "tool_id", orNull (raw.get (text "tool_id"))),
            (text "arguments", (raw.get (text "arguments")).or (.literal []))]))

def executionBody (turn : Turn) (intent : Intent) (executedThisTurn : Nat) : Value :=
  .literal
    [(text "context_package", turn.bootstrap), (text "tool_intent", intent.value),
      (text "request_ir_id", orNull (turn.routed.get (text "request_ir_id"))),
      (text "execution_allowlist", textList (request.allowlist host)),
      (text "turn_id", .string (text "delegate-loop:" ++ digitText turn.turn)),
      (text "budgets",
        .literal
          [(text "max_output_bytes", countValue DELEGATE_LOOP_MAX_OUTPUT_BYTES),
            (text "max_tool_calls_per_turn", countValue (min 8 DELEGATE_LOOP_MAX_TOOL_CALLS)),
            (text "turn_tool_calls_so_far", countValue executedThisTurn)])]

def runIntent {world : Dependence} (turn : Turn) (index : Nat) (raw : Value) (state : TurnProgress)
    : Step world (Except Blocked TurnProgress) :=
  match normalizeIntent raw (fallbackIntentId host turn index raw) with
  | none =>
    .done
      (.error
        { stopReason := text "deny"
          decision := .string (text "deny")
          reason := .string (text "invalid_tool_intent")
          toolId := orNull (raw.get (text "tool_id"))
          authorizationRequired := none })
  | some intent =>
    (previewIntent request turn.bootstrap intent).bind (fun
      | .error blocked => .done (.error blocked)
      | .ok verdict =>
        match objection host request intent verdict state.progress.toolsExecuted with
        | some blocked => .done (.error blocked)
        | none =>
          (ask (.executeReadToolIntent
            (executionBody host request turn intent state.executedThisTurn))).bind
            (fun executed =>
              match executionObjection intent executed with
              | some blocked => .done (.error blocked)
              | none => .done (.ok (state.record intent executed))))

def runIntents {world : Dependence} (turn : Turn)
    : Nat → List Value → TurnProgress → Step world (Option Blocked × TurnProgress)
  | _, [], state => .done (none, state)
  | index, raw :: rest, state =>
    (runIntent host request turn index raw state).bind (fun
      | .error blocked => .done (some blocked, state)
      | .ok next => runIntents turn (index + 1) rest next)

def bootstrapBody (progress : Progress) (turn : Nat) : Value :=
  let task :=
    buildLoopGroundedTask request.baseTaskForBootstrap progress.loopEvidence turn request.maxTurns
  let tool (id : Text) : Value :=
    .literal
      [(text "id", .string id), (text "available", .bool true),
        (text "class", .string (text "read"))]
  .literal
    ([(text "actor_id", request.effectiveActorId), (text "task", .string task),
        (text "chain", request.chain)]
      ++ (if request.instructionsChain.truthy then
            [(text "instructions_chain", request.instructionsChain)]
          else [])
      ++ [(text "capabilities",
            .literal
              [(text "tools",
                  .array ((request.allowlist host).map (fun id => some (tool id)))),
                (text "supports_tool_calls", .bool true)]),
          (text "limits", request.limits),
          (text "include_inbox", .bool (!isFalse request.includeInbox && turn == 1))])

def routeBody (bootstrap : Value) : Value :=
  .literal
    [(text "context_package", bootstrap), (text "route", request.route),
      (text "request",
        .literal
          [(text "tools", textList (request.allowlist host)),
            (text "generation", request.generation)])]

def reportedModelCalls (routed : Value) : Number :=
  let count (version : String) : Option Number :=
    match host.toNumber ((routed.get (text version)).get (text "external_model_calls")) with
    | .finite x => some (.finite x)
    | _ => none
  (((count "v7_1_4").or (count "v7_1_3")).or ((count "v7_1_2").or (count "v7_1_1"))).getD
    (.ofNat (1 % 2 ^ 53) (mod_small 1))

def proposedIntents (routed : Value) : List Value :=
  listOf ((routed.get (text "output")).get (text "tool_intents"))

def outputText (routed : Value) : Text :=
  (((routed.get (text "output")).get (text "text")).string?).getD []

def turnRecord (turn : Turn) (executedThisTurn : Nat) (stop : Option Text) : Value :=
  .literal
    ([(text "turn", countValue turn.turn),
        (text "package_id", turn.bootstrap.get (text "package_id")),
        (text "request_ir_id", orNull (turn.routed.get (text "request_ir_id"))),
        (text "tool_intents_proposed", countValue (proposedIntents turn.routed).length),
        (text "tools_executed_this_turn", countValue executedThisTurn),
        (text "finish_reason",
          orNull ((turn.routed.get (text "output")).get (text "finish_reason")))]
      ++ stop.toList.map (fun reason => (text "stop", .string reason)))

def Progress.traced (progress : Progress) (turn : Turn) (executedThisTurn : Nat) (stop : Option Text)
    : Progress :=
  { progress with turnTrace := progress.turnTrace ++ [turnRecord turn executedThisTurn stop] }

def Progress.routed (progress : Progress) (turn : Turn) : Progress :=
  { progress with
    lastBootstrap := turn.bootstrap
    lastRouted := turn.routed
    lastText := outputText turn.routed
    externalModelCalls := host.add progress.externalModelCalls (reportedModelCalls host turn.routed) }

/-- What is left of a turn once its intents have been put to the broker: either the loop is blocked, or it
goes on.
-/
def afterIntents {world : Dependence} (turn : Turn) (next : Progress → Step world Value)
    : Option Blocked × TurnProgress → Step world Value
  | (blocked, state) =>
    let progress := state.progress.traced turn state.executedThisTurn none
    match blocked with
    | some blocked => .done (blockedResult host request turn blocked progress)
    | none => next progress

def afterRoute {world : Dependence} (turn : Turn) (progress : Progress) (next : Progress → Step world Value)
    : Step world Value :=
  let current := progress.routed host turn
  let intents := proposedIntents turn.routed
  if intents = [] then .done (finish host request .finalAnswer (current.traced turn 0 none))
  else if DELEGATE_LOOP_MAX_TOOL_CALLS ≤ current.toolsExecuted then
    .done (finish host request .budget (current.traced turn 0 (some (text "budget"))))
  else
    (runIntents host request turn 0 intents { progress := current, executedThisTurn := 0 }).bind
      (afterIntents host request turn next)

def runTurn {world : Dependence} (turn : Nat) (progress : Progress) (next : Progress → Step world Value)
    : Step world Value :=
  (ask (.agentBootstrap (bootstrapBody host request progress turn))).bind (fun bootstrap =>
    if !(bootstrap.get (text "ok")).isTrue then
      .done (bootstrapFailed host request turn bootstrap progress)
    else
      (ask (.modelRoute (routeBody host request bootstrap))).bind (fun routed =>
        if !(routed.get (text "ok")).isTrue then
          .done
            (routeFailed host request { turn, bootstrap, routed }
              { progress with lastBootstrap := bootstrap })
        else afterRoute host request { turn, bootstrap, routed } progress next))

def runTurns {world : Dependence} : Nat → Progress → Step world Value
  | 0, progress => .done (finish host request .maxTurns progress)
  | remaining + 1, progress =>
    runTurn host request (request.maxTurns - remaining) progress (runTurns remaining)

def dependenciesMissing : Value :=
  .literal
    [(text "ok", .bool false), (text "error", .string (text "delegation_dependencies_missing")),
      (text "policy",
        match request.helpers.delegationReadOnlyPolicy with
        | some policy => policy request.initialToolsExecuted
        | none => .literal (barePolicy request.initialToolsExecuted))]

def executeUnavailable : Value :=
  .literal
    [(text "ok", .bool false), (text "error", .string (text "delegate_loop_execute_unavailable")),
      (text "detail", .string (text "brokered read loop requires executeReadToolIntent")),
      (text "policy", .literal (barePolicy request.initialToolsExecuted))]

def allowlistEmpty : Value :=
  .literal
    ([(text "ok", .bool false), (text "error", .string (text "delegate_loop_allowlist_empty")),
        (text "detail", .string (text "no automatic-read tools available for brokered loop")),
        (text "actor_id", request.effectiveActorId)]
      ++ profileFields request request.grounding
      ++ [(text "chain", request.chain),
        (text "policy", .literal (barePolicy request.initialToolsExecuted))])

def runBrokeredReadLoop (world : Dependence) : Step world Value :=
  if !request.deps.agentBootstrapFromBody || !request.deps.modelRouteFromBody then
    .done (dependenciesMissing request)
  else if !request.deps.executeReadToolIntent then .done (executeUnavailable request)
  else if request.allowlist host = [] then .done (allowlistEmpty request)
  else runTurns host request request.maxTurns (.start request)

end CairnStone.Delegation
