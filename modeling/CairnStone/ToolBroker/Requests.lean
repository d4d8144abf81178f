import CairnStone.ToolBroker.Policy

/-! The two requests to the broker: the preview of a tool intent, and its execution, which invokes the
handler of an allowed tool and leaves a receipt.
-/

namespace CairnStone.ToolBroker

open JavaScript TaskRuns

variable (platform : Platform)

def intentFields (body : Value) (evaluation : Evaluation) : List (Text × Value) :=
  [(text "decision_id", .string (decisionId platform body evaluation)),
    (text "package_id", (body.get (text "context_package")).get (text "package_id")),
    (text "intent_id", textOrNull ((body.get (text "tool_intent")).get (text "intent_id"))),
    (text "tool_id", .string evaluation.toolId)]

structure Preview where
  evaluation : Evaluation
  answer : Value

def previewAnswer (body : Value) (evaluation : Evaluation) : Value :=
  let registry : Value :=
    match evaluation.entry with
    | none => .null
    | some entry =>
      .literal
        (registryFields entry
          ++ [(text "available", .bool (isAvailable entry)),
            (text "input_schema", jsonCopy (entry.get (text "input_schema")))])
  .literal
    ([(text "ok", .bool true), (text "schema", .string (text "cairnstone-tool-policy-decision-v1"))]
      ++ intentFields platform body evaluation
      ++ [(text "decision", .string evaluation.verdict.decision.text),
        (text "reason", evaluation.verdict.reason),
        (text "authorization_required", .bool evaluation.verdict.authorizationRequired),
        (text "registry", registry),
        (text "evidence",
          .literal
            [(text "capability_present", .bool evaluation.capabilityPresent),
              (text "arguments_validation", evaluation.argsValidation)])])

def toolPolicyPreviewFromBody (registry : List Value) (body : Value) : Answer Preview :=
  (readRequest platform "invalid_tool_policy_request" registry body).map (fun evaluation =>
    { evaluation, answer := previewAnswer platform body evaluation })

def DEFAULT_MAX_OUTPUT_BYTES : Int := 20000
def MIN_MAX_OUTPUT_BYTES : Int := 256
def MAX_MAX_OUTPUT_BYTES : Int := 200000
def DEFAULT_MAX_TOOL_CALLS_PER_TURN : Int := 8
def MAX_MAX_TOOL_CALLS_PER_TURN : Int := 25

def clampNumber (value : Number) (min max fallback : Int) : Int :=
  match value with
  | .finite x =>
    let truncated := if x.negative then -⌊x.magnitude⌋ else ⌊x.magnitude⌋
    Max.max min (Min.min max truncated)
  | _ => fallback

structure Budgets where
  (maxOutputBytes maxToolCallsPerTurn turnCallsSoFar : Int)

/-- What an execution depends on: `Number(value)`, the invocation of a handler, which may fail, and the
creation of a stone, which answers its hash, if it is there, succeeds and does not fail.
-/
structure Deps where
  toNumber : Value → Number
  invokeTool : Option (Value → Value → Except Unit Value)
  createStone : Option (Value → Except Unit (Option Value))

def readBudgets (deps : Deps) (body : Value) : Budgets :=
  let input := body.get (text "budgets")
  let field (key : String) : Number := deps.toNumber (input.get (text key))
  { maxOutputBytes :=
      clampNumber (field "max_output_bytes") MIN_MAX_OUTPUT_BYTES MAX_MAX_OUTPUT_BYTES
        DEFAULT_MAX_OUTPUT_BYTES
    maxToolCallsPerTurn :=
      clampNumber (field "max_tool_calls_per_turn") 1 MAX_MAX_TOOL_CALLS_PER_TURN
        DEFAULT_MAX_TOOL_CALLS_PER_TURN
    turnCallsSoFar := clampNumber (field "turn_tool_calls_so_far") 0 1000000 0 }

structure Execution where
  invoked : List (Value × Value)
  answer : Value

def executionBase (body : Value) (evaluation : Evaluation) : List (Text × Value) :=
  let model := body.get (text "model")
  [(text "ok", .bool true), (text "schema", .string (text "cairnstone-tool-execution-receipt-v1"))]
    ++ intentFields platform body evaluation
    ++ [(text "request_ir_id", textOrNull (body.get (text "request_ir_id"))),
      (text "model",
        if model.isObject then
          .literal
            [(text "provider", (model.get (text "provider")).orNullish .null),
              (text "model", (model.get (text "model")).orNullish .null)]
        else .null),
      (text "turn_id", textOrNull (body.get (text "turn_id"))),
      (text "registry",
        match evaluation.entry with
        | none => .null
        | some entry => .literal (registryFields entry))]

def deniedExecutionResult (base : List (Text × Value)) (reason : Value) (decision : String)
    (authorizationRequired : Bool)
    : Value :=
  .literal
    (base
      ++ [(text "executed", .bool false), (text "decision", .string (text decision)),
        (text "execution_denied_reason", reason),
        (text "authorization_required", .bool authorizationRequired), (text "receipt", .null)])

def isExecutable (registry : List Value) (body : Value) (toolId : Text) : Bool :=
  registry.any (fun entry => isRead entry && isAutomatic entry
    && (entry.get (text "tool_id")).strictEquals (.string toolId))
  && (!isArray (body.get (text "execution_allowlist"))
    || includes (body.get (text "execution_allowlist")) toolId)

/-- Why an evaluated intent is not executed, as it is answered. -/
def executionDenial (deps : Deps) (registry : List Value) (body : Value) (evaluation : Evaluation)
    : Option Value :=
  let base := executionBase platform body evaluation
  let budgets := readBudgets deps body
  let denied (reason : String) : Value :=
    deniedExecutionResult base (.string (text reason)) "deny" false
  match evaluation.verdict.decision with
  | .deny =>
    some (deniedExecutionResult base evaluation.verdict.reason "deny"
      evaluation.verdict.authorizationRequired)
  | .requireAuthorization =>
    some (deniedExecutionResult base evaluation.verdict.reason "require_authorization"
      evaluation.verdict.authorizationRequired)
  | .allow =>
    if !isExecutable registry body evaluation.toolId then
      some (denied "not_in_read_only_execution_allowlist")
    else if budgets.maxToolCallsPerTurn ≤ budgets.turnCallsSoFar then
      some (denied "turn_tool_call_budget_exceeded")
    else none

def executedAnswer (deps : Deps) (body : Value) (evaluation : Evaluation) (result : Value) : Value :=
  let base := executionBase platform body evaluation
  let budgets := readBudgets deps body
  let serialized := stableJson (result.orDefault .null)
  let truncated : Bool := decide (budgets.maxOutputBytes < (serialized.length : Int))
  let resultHash := text "sha256:" ++ platform.sha256Text serialized
  let packageId := (body.get (text "context_package")).get (text "package_id")
  let identity : Value :=
    .literal
      [(text "decisionId", .string (decisionId platform body evaluation)),
        (text "resultHash", .string resultHash), (text "executedAt", .string platform.now),
        (text "toolId", .string evaluation.toolId), (text "packageId", packageId)]
  let executionId := text "sha256:" ++ platform.sha256Text (stableJson identity)
  let receiptContent : Value :=
    .literal
      [(text "execution_id", .string executionId), (text "package_id", packageId),
        (text "tool_id", .string evaluation.toolId), (text "arguments", evaluation.args),
        (text "result_hash", .string resultHash), (text "output_truncated", .bool truncated),
        (text "executed_at", .string platform.now)]
  let receipt : List (Text × Value) :=
    match deps.createStone with
    | none => [(text "receipt", .null)]
    | some create =>
      match create receiptContent with
      | .error () =>
        [(text "receipt", .null),
          (text "receipt_error", .string (text "receipt_persist_failed"))]
      | .ok none => [(text "receipt", .null)]
      | .ok (some hash) =>
        [(text "receipt",
          .literal
            [(text "stone_hash", hash),
              (text "chain", .string (text "cairnstone-v7-tool-execution-receipts"))])]
  .literal
    (base
      ++ [(text "executed", .bool true), (text "decision", .string (text "allow")),
        (text "authorization_required", .bool false), (text "execution_id", .string executionId),
        (text "result_hash", .string resultHash), (text "output_truncated", .bool truncated),
        (text "result", if truncated then .null else result),
        (text "result_preview", if truncated then .string (serialized.take 2000) else .null)]
      ++ receipt)

def executeToolIntentFromBody (deps : Deps) (registry : List Value) (body : Value)
    : Answer Execution := do
  let evaluation ← readRequest platform "invalid_tool_execution_request" registry body
  match executionDenial platform deps registry body evaluation with
  | some answer => return { invoked := [], answer }
  | none =>
    match deps.invokeTool with
    | none =>
      throw
        { error := text "tool_invocation_unavailable"
          details := [(text "detail", .string (text "missing_invoke_tool_dependency"))] }
    | some invoke =>
      let handler := (evaluation.entry.getD .undefined).get (text "handler")
      let answer :=
        match invoke handler evaluation.args with
        | .error () =>
          deniedExecutionResult (executionBase platform body evaluation)
            (.string (text "tool_invocation_failed")) "error" false
        | .ok result => executedAnswer platform deps body evaluation result
      return { invoked := [(handler, evaluation.args)], answer }

end CairnStone.ToolBroker
