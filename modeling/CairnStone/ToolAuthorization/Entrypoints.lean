import CairnStone.JavaScript.TextMethods
import CairnStone.ToolAuthorization.Lifecycle

/-! The two entry points that drive an authorization: a human decision, and the execution of what
was approved. Both work over any machine that offers the lifecycle table, a clock and the
dependencies they are given.
-/

namespace CairnStone.ToolAuthorization

open JavaScript Data Concurrency

def TOOL_AUTHORIZATION_DECISION_SCHEMA : Text := text "cairnstone-tool-authorization-decision-v1"

def TOOL_AUTHORIZED_EXECUTION_RECEIPT_SCHEMA : Text :=
  text "cairnstone-tool-authorized-execution-receipt-v1"

def TOOL_AUTHORIZATION_GRANT_CHAIN : Text := text "cairnstone-v7-tool-authorization-grants"

def TOOL_AUTHORIZED_EXECUTION_CHAIN : Text := text "cairnstone-v7-tool-authorized-executions"

def DEFAULT_AUTHORIZATION_TTL_SECONDS : Int := 900

def MIN_AUTHORIZATION_TTL_SECONDS : Int := 60

def MAX_AUTHORIZATION_TTL_SECONDS : Int := 3600

def FORBIDDEN_REPLACEMENT_FIELDS : List Text :=
  [text "arguments", text "tool_id", text "tool_intent", text "context_package", text "target",
    text "replacement_arguments"]

/-- The built-in functions that the entry points call: `JSON.parse`, `sha256Text`, `Number` and
`toISOString`.
-/
structure Platform where
  parse : Text → Option Value
  sha256Text : Text → Text
  toNumber : Value → Number
  isoText : Int → Text

inductive ClockSite where
  | decision
  | expiryCheck
  | start
  | completion
  deriving DecidableEq

/-- What the entry points are given. An exception carries its message. -/
structure Deps (M : Machine) where
  loadAuthorization : Text → Program M Text (Option Row)
  transitionAuthorization : Text → Status → Status → List Assignment → Program M Text Nat
  updateAuthorization : Text → List Assignment → Program M Text Unit
  dateNow : ClockSite → Program M Text Int
  randomUUID : Program M Text Text
  (createStone linkStones : Option (Value → Program M Text Value))
  validateRegisteredMutation : Option (Value → Value → Program M Text Value)
  observeGuard : Option (Value → Program M Text Value)
  invokeTool : Option (Value → Value → Program M Text Value)
  verifyMutation : Option (Value → Value → Value → Program M Text Value)

def clampInt (value : Number) (min max fallback : Int) : Int :=
  match value with
  | .finite x =>
    let truncated := if x.negative then -⌊x.magnitude⌋ else ⌊x.magnitude⌋
    Max.max min (Min.min max truncated)
  | _ => fallback

def replacementField (body : Value) : Option Text :=
  FORBIDDEN_REPLACEMENT_FIELDS.find? body.has

/-- `typeof body.key === "string" ? body.key.trim() : ""` -/
def trimmed (body : Value) (key : String) : Text :=
  match (body.get (text key)).string? with
  | some s => trim s
  | none => []

/-- `{ ok: false, error, … }` -/
def refusal (error : Text) (details : List (Text × Value)) : Value :=
  .literal ((text "ok", .bool false) :: (text "error", .string error) :: details)

/-- `{ ok: false, error, authorization_request_id: id }` -/
def refusalFor (error : Text) (id : Text) : Value :=
  refusal error [(text "authorization_request_id", .string id)]

/-- `{ ok: false, error, status, authorization_request_id: id }` -/
def refusalIn (error : Text) (status : Value) (id : Text) : Value :=
  refusal error [(text "status", status), (text "authorization_request_id", .string id)]

variable {M : Machine} (platform : Platform) (deps : Deps M)

def argumentDigest (args : Value) : Text :=
  text "sha256:" ++ platform.sha256Text (stableJson (if args.isObject then args else .literal []))

def Authorization.toValue (authorization : Authorization) : Value :=
  let row := authorization.row
  let instant (at? : Option Int) : Value := .ofOption (at?.map platform.isoText)
  .literal
    [(text "authorization_request_id", .string row.authorizationRequestId),
      (text "request_stone_hash", .string row.requestStoneHash),
      (text "argument_digest", .string row.argumentDigest),
      (text "required_authorization", .string row.requiredAuthorization),
      (text "status", .string row.status.text),
      (text "decision", .ofOption (row.decision.map Decision.text)),
      (text "authorization_subject", .ofOption row.authorizationSubject),
      (text "authorization_method", .ofOption row.authorizationMethod),
      (text "grant_stone_hash", .ofOption row.grantStoneHash),
      (text "denial_stone_hash", .ofOption row.denialStoneHash),
      (text "issued_at", instant row.issuedAt),
      (text "expires_at", instant row.expiresAt),
      (text "consumption_id", .ofOption row.consumptionId),
      (text "consumed_at", instant row.consumedAt),
      (text "guard", authorization.guard),
      (text "tool_id", authorization.toolId),
      (text "package_id", authorization.field "package_id"),
      (text "request_ir_id", authorization.field "request_ir_id"),
      (text "decision_id", authorization.field "decision_id"),
      (text "model", authorization.field "model"),
      (text "turn_id", authorization.field "turn_id"),
      (text "justification", authorization.field "justification"),
      (text "target", authorization.field "target"),
      (text "request", authorization.request),
      (text "execution_receipt_stone_hash", .ofOption row.executionReceiptStoneHash),
      (text "execution_result_json", .ofOption row.executionResultJson),
      (text "error_type", .ofOption row.errorType)]

/-- `JSON.parse(source)`, which throws where the text is no JSON. -/
def parseOrThrow (source : Text) : Program M Text Value :=
  match platform.parse source with
  | some value => .done value
  | none => .fail (text "SyntaxError")

def checkPolicy (toolId requiredAuthorization : Value) : Program M Text Value :=
  match deps.validateRegisteredMutation with
  | none => .done (.literal [(text "ok", .bool true)])
  | some validateRegisteredMutation => validateRegisteredMutation toolId requiredAuthorization

/-- `store.load(id)` -/
def load (id : Text) : Program M Text (Option Authorization) := do
  let row ← deps.loadAuthorization id
  return row.map (rowToAuthorization platform.parse)

def createEvidenceStone (body : Value) : Program M Text (Except Text Text) :=
  match deps.createStone with
  | none => .done (.error (text "authorization_evidence_persistence_unavailable"))
  | some createStone => do
    let created ← createStone body
    match (created.get (text "ok")).isTrue, (created.get (text "stone_hash")).string? with
    | true, some hash => return .ok hash
    | _, _ => return .error (text "authorization_evidence_persist_failed")

def linkEvidence (fromHash toHash : Option Text) (note : String) : Program M Text Unit :=
  match fromHash.filter (· ≠ []), toHash.filter (· ≠ []), deps.linkStones with
  | some fromHash, some toHash, some linkStones =>
    ((linkStones (.literal
      [(text "from_hash", .string fromHash), (text "to_hash", .string toHash),
        (text "edge_type", .string (text "references")), (text "note", .string (text note))])).bind
      (fun _ => .done ())).handle (fun _ => .done ())
  | _, _, _ => .done ()

/-- The part of an identity behind its `sha256:`. -/
def withoutAlgorithm (id : Text) : Text :=
  if (text "sha256:").isPrefixOf id then id.drop (text "sha256:").length else id

structure ExecutionFields where
  startedAt : Int
  (guard downstreamResult verification : Value)
  (executed mutationPerformed : Bool)
  error : Value

def makeExecutionReceipt (authorization : Authorization) (fields : ExecutionFields)
    : Program M Text (Except Text Text) := do
  let completedAt ← deps.dateNow .completion
  let row := authorization.row
  let receiptBody : List (Text × Value) :=
    [(text "schema", .string TOOL_AUTHORIZED_EXECUTION_RECEIPT_SCHEMA),
      (text "authorization_request_id", .string row.authorizationRequestId),
      (text "request_stone_hash", .string row.requestStoneHash),
      (text "authorization_grant_stone_hash", .ofOption row.grantStoneHash),
      (text "package_id", authorization.field "package_id"),
      (text "request_ir_id", authorization.field "request_ir_id"),
      (text "model", authorization.field "model"),
      (text "turn_id", authorization.field "turn_id"),
      (text "decision_id", authorization.field "decision_id"),
      (text "tool_id", authorization.toolId),
      (text "argument_digest", .string row.argumentDigest),
      (text "consumption_id", .ofOption row.consumptionId),
      (text "started_at", .string (platform.isoText fields.startedAt)),
      (text "completed_at", .string (platform.isoText completedAt)),
      (text "guard", fields.guard),
      (text "downstream_result", fields.downstreamResult.or .null),
      (text "verification", fields.verification.or .null),
      (text "executed", .bool fields.executed),
      (text "mutation_performed", .bool fields.mutationPerformed),
      (text "replayed", .bool false),
      (text "error", fields.error.or .null)]
  let executionId :=
    text "sha256:" ++ platform.sha256Text (stableJson (.literal receiptBody))
  let evidence ← createEvidenceStone deps (.literal
    [(text "title",
        .string (text "Authorized tool execution receipt: " ++ authorization.toolId.interpolate)),
      (text "author", .string (text "cairnstone-v7-tool-broker")),
      (text "content",
        .string
          (stableJson (.literal (receiptBody ++ [(text "execution_id", .string executionId)])))),
      (text "path",
        .string
          (text "tool-authorized-executions/" ++ withoutAlgorithm executionId ++ text ".json")),
      (text "chain", .string TOOL_AUTHORIZED_EXECUTION_CHAIN),
      (text "metadata",
        .literal
          [(text "type", .string (text "tool-authorized-execution-receipt")),
            (text "schema", .string TOOL_AUTHORIZED_EXECUTION_RECEIPT_SCHEMA),
            (text "execution_id", .string executionId),
            (text "authorization_request_id", .string row.authorizationRequestId),
            (text "request_stone_hash", .string row.requestStoneHash),
            (text "authorization_grant_stone_hash", .ofOption row.grantStoneHash),
            (text "tool_id", authorization.toolId),
            (text "argument_digest", .string row.argumentDigest),
            (text "executed", .bool fields.executed),
            (text "mutation_performed", .bool fields.mutationPerformed),
            (text "error", fields.error.or .null)]),
      (text "set_as_head", .bool false)])
  match evidence with
  | .error error => return .error error
  | .ok hash => do
    linkEvidence deps (some hash) (some row.requestStoneHash)
      "Execution receipt references the exact immutable authorization request."
    linkEvidence deps (some hash) row.grantStoneHash
      "Execution receipt references the human authorization grant consumed for this mutation."
    return .ok hash

/-- `{ ...JSON.parse(execution_result_json), replayed: true, idempotent_replay: true }` -/
def replayed (result : Text) : Program M Text Value := do
  let existing ← parseOrThrow platform result
  return .literal
    (Value.setProperty (Value.setProperty existing.spread (text "replayed") (.bool true))
      (text "idempotent_replay") (.bool true))

/-- What a failing call leaves. -/
def failureFields (status : Status) (error : Text) : List Assignment :=
  [.status status, .errorType (some error)]

def guardFailedFields (receipt : Except Text Text) (result : Value) : List Assignment :=
  [.status .guardFailed, .executionReceiptStoneHash receipt.toOption,
    .executionResultJson (stableJson result),
    .errorType (some (text "authorization_guard_mismatch"))]

def outcomeFields (finalError : Option Text) (receipt : Except Text Text) (result : Value)
    : List Assignment :=
  [.status (if finalError = none then .executed else .executionFailed),
    .executionReceiptStoneHash receipt.toOption, .executionResultJson (stableJson result),
    .errorType finalError]

def receiptValue : Except Text Text → Value
  | .ok hash =>
    .literal
      [(text "stone_hash", .string hash), (text "chain", .string TOOL_AUTHORIZED_EXECUTION_CHAIN)]
  | .error _ => .null

def errorOr (value : Value) (fallback : String) : Text :=
  (((value.get (text "error")).or (.string (text fallback))).string?).getD
    (text "[object Object]")

def invoke (invokeTool : Value → Value → Program M Text Value) (authorization : Authorization)
    : Program M Text Value :=
  (invokeTool (authorization.target.get (text "handler")) authorization.arguments).handle
    (fun message =>
      .done
        (refusal (text "tool_invocation_failed") [(text "diagnostic", .string (message.take 500))]))

/-- A result that reports success is verified, where the dependencies know how. -/
def verifyOutcome (authorization : Authorization) (mutationPerformed : Bool) (downstream : Value)
    : Program M Text Value :=
  match mutationPerformed, deps.verifyMutation with
  | true, some verifyMutation =>
    verifyMutation (authorization.target.get (text "tool_id")) authorization.arguments downstream
  | _, _ => .done .null

/-- From the invocation on. `request` is the authorization as it was first read. -/
def runTool (id : Text) (request authorization : Authorization) (startedAt : Int) (guard : Value)
    (invokeTool : Value → Value → Program M Text Value)
    : Program M Text Value := do
  let downstream ← invoke invokeTool request
  let mutationPerformed := (downstream.get (text "ok")).isTrue
  let verification ← verifyOutcome deps request mutationPerformed downstream
  let verificationOk := !verification.truthy || (verification.get (text "ok")).isTrue
  let finalError :=
    if !mutationPerformed then some (errorOr downstream "tool_invocation_failed")
    else if verificationOk then none
    else some (errorOr verification "mutation_verification_failed")
  let receipt ← makeExecutionReceipt platform deps authorization
    { startedAt, guard, downstreamResult := downstream, verification
      executed := mutationPerformed, mutationPerformed, error := .ofOption finalError }
  let result : Value := .literal
    [(text "ok", .bool (finalError == none)),
      (text "schema", .string TOOL_AUTHORIZED_EXECUTION_RECEIPT_SCHEMA),
      (text "authorization_request_id", .string id),
      (text "tool_id", authorization.toolId),
      (text "argument_digest", .string authorization.row.argumentDigest),
      (text "guard", guard),
      (text "downstream_result", downstream),
      (text "verification", verification),
      (text "executed", .bool mutationPerformed),
      (text "mutation_performed", .bool mutationPerformed),
      (text "replayed", .bool false),
      (text "idempotent_replay", .bool false),
      (text "error", .ofOption finalError),
      (text "receipt", receiptValue receipt)]
  deps.updateAuthorization id (outcomeFields finalError receipt result)
  return result

def invokeGuarded (id : Text) (request authorization : Authorization) (startedAt : Int)
    (guard : Value)
    : Program M Text Value :=
  match deps.invokeTool with
  | none => do
    deps.updateAuthorization id
      (failureFields .executionFailed (text "tool_invocation_unavailable"))
    return refusalFor (text "tool_invocation_unavailable") id
  | some invokeTool => runTool platform deps id request authorization startedAt guard invokeTool

/-- `{ ...request.guard, observed_value, matched }` -/
def guardEvidence (guard observedValue : Value) (matched : Bool) : Value :=
  .literal
    (Value.setProperty (Value.setProperty guard.spread (text "observed_value") observedValue)
      (text "matched") (.bool matched))

def guardObservation (guard observed : Value) : Value × Bool :=
  let ok := (observed.get (text "ok")).isTrue
  let observedValue :=
    if ok && observed.has (text "value") then observed.get (text "value") else .null
  (observedValue, ok && observedValue.strictEquals (guard.get (text "expected_value")))

def runConsumed (id : Text) (request authorization : Authorization) (startedAt : Int)
    : Program M Text Value :=
  let guard := request.request.get (text "guard")
  if !guard.truthy then
    invokeGuarded platform deps id request authorization startedAt .null
  else
    match deps.observeGuard with
    | none => do
      deps.updateAuthorization id
        (failureFields .executionFailed (text "authorization_guard_observer_unavailable"))
      return refusalFor (text "authorization_guard_observer_unavailable") id
    | some observeGuard => do
      let observed ← observeGuard guard
      let (observedValue, matched) := guardObservation guard observed
      let evidence := guardEvidence guard observedValue matched
      if matched then
        invokeGuarded platform deps id request authorization startedAt evidence
      else do
        let receipt ← makeExecutionReceipt platform deps authorization
          { startedAt, guard := evidence, downstreamResult := .undefined
            verification := .undefined, executed := false, mutationPerformed := false
            error := .string (text "authorization_guard_mismatch") }
        let result := refusal (text "authorization_guard_mismatch")
          [(text "schema", .string TOOL_AUTHORIZED_EXECUTION_RECEIPT_SCHEMA),
            (text "authorization_request_id", .string id),
            (text "tool_id", authorization.toolId),
            (text "argument_digest", .string authorization.row.argumentDigest),
            (text "guard", evidence),
            (text "executed", .bool false),
            (text "mutation_performed", .bool false),
            (text "replayed", .bool false),
            (text "receipt", receiptValue receipt)]
        deps.updateAuthorization id (guardFailedFields receipt result)
        return result

def consume (id : Text) (request : Authorization) : Program M Text Value := do
  let nonce ← deps.randomUUID
  let consumptionId :=
    text "sha256:"
      ++ platform.sha256Text
        (stableJson (.literal
          [(text "authorization_request_id", .string id),
            (text "grant", .ofOption request.row.grantStoneHash),
            (text "nonce", .string nonce)]))
  let startedAt ← deps.dateNow .start
  let changes ← deps.transitionAuthorization id .authorized .consuming
    [.consumptionId consumptionId, .consumedAt startedAt]
  let current ← load platform deps id
  if changes = 1 then
    match current with
    -- No row is ever deleted.
    | none => .fail (text "TypeError")
    | some authorization => runConsumed platform deps id request authorization startedAt
  else
    match current with
    | none =>
      return refusalIn (text "authorization_already_consumed_or_claimed") .null id
    | some authorization =>
      match authorization.row.status, authorization.row.executionResultJson.filter (· ≠ []) with
      | .executed, some result => replayed platform result
      | status, _ =>
        return refusalIn (text "authorization_already_consumed_or_claimed")
          (.string status.text) id

def checkAndConsume (id : Text) (request : Authorization) : Program M Text Value :=
  if !(request.target.isObject && request.arguments.isObject) then do
    deps.updateAuthorization id
      (failureFields .executionFailed (text "authorization_request_corrupt"))
    return refusalFor (text "authorization_request_corrupt") id
  else if argumentDigest platform request.arguments ≠ request.row.argumentDigest
      || !(request.request.get (text "argument_digest")).strictEquals
          (.string request.row.argumentDigest) then do
    deps.updateAuthorization id
      (failureFields .executionFailed (text "authorization_argument_digest_mismatch"))
    return refusalFor (text "authorization_argument_digest_mismatch") id
  else do
    let registry ←
      checkPolicy deps (request.target.get (text "tool_id"))
        (request.request.get (text "required_authorization"))
    if !(registry.get (text "ok")).isTrue then
      return refusalFor (errorOr registry "authorized_tool_policy_changed") id
    else if request.row.requiredAuthorization = text "human_confirmation"
        ∧ !(request.request.get (text "guard")).truthy then
      return refusalFor (text "authorization_guard_required") id
    else consume platform deps id request

def executeLoaded (id : Text) (authorization : Authorization) : Program M Text Value :=
  match authorization.row.status, authorization.row.executionResultJson.filter (· ≠ []) with
  | .executed, some result => replayed platform result
  | .authorized, _ =>
    let expire : Program M Text Value := do
      let _ ← deps.transitionAuthorization id .authorized .expired
        [.errorType (some (text "authorization_expired"))]
      return refusalFor (text "authorization_expired") id
    match authorization.row.expiresAt with
    | none => expire
    | some expiresAt => do
      let now ← deps.dateNow .expiryCheck
      if expiresAt ≤ now then expire
      else checkAndConsume platform deps id authorization
  | status, _ => return refusalIn (text "authorization_not_executable") (.string status.text) id

def executeAuthorizedToolFromBody (body : Value) : Program M Text Value :=
  if !body.isObject then
    return refusal (text "invalid_authorized_execution_request") []
  else
    match replacementField body with
    | some field =>
      return refusal (text "authorization_argument_substitution_not_accepted")
        [(text "field", .string field)]
    | none =>
      let id := trimmed body "authorization_request_id"
      if id = [] then
        return refusal (text "missing_authorization_request_id") []
      else do
        let authorization ← load platform deps id
        match authorization with
        | none => return refusalFor (text "authorization_not_found") id
        | some authorization => executeLoaded platform deps id authorization

structure DecisionBody where
  id : Text
  decision : Decision
  (subject method : Text)
  ttlSeconds : Int
  execute : Bool

def readDecision (body : Value) : Except Value DecisionBody :=
  if !body.isObject then
    .error (refusal (text "invalid_tool_authorization_decision") [])
  else
    match replacementField body with
    | some field =>
      .error
        (refusal (text "authorization_argument_substitution_not_accepted")
          [(text "field", .string field)])
    | none =>
      let id := trimmed body "authorization_request_id"
      let decision : Option Decision :=
        if (body.get (text "decision")).strictEquals (.string (text "approve")) then
          some .approved
        else if (body.get (text "decision")).strictEquals (.string (text "deny")) then
          some .denied
        else none
      let subject := trimmed body "authorization_subject"
      let method := trimmed body "authorization_method"
      if id = [] then
        .error (refusal (text "missing_authorization_request_id") [])
      else
        match decision with
        | none =>
          .error
            (refusal (text "invalid_authorization_decision")
              [(text "allowed",
                .array [some (.string (text "approve")), some (.string (text "deny"))])])
        | some decision =>
          if subject = [] then
            .error (refusal (text "missing_authorization_subject") [])
          else if method = [] then
            .error (refusal (text "missing_authorization_method") [])
          else
            .ok
              { id, decision, subject, method
                ttlSeconds :=
                  clampInt (platform.toNumber (body.get (text "ttl_seconds")))
                    MIN_AUTHORIZATION_TTL_SECONDS MAX_AUTHORIZATION_TTL_SECONDS
                    DEFAULT_AUTHORIZATION_TTL_SECONDS
                execute := (body.get (text "execute")).isTrue }

def decidedFields (decision : Decision) (issuedAt : Int) (expiresAt : Option Int) (hash : Text)
    : List Assignment :=
  [.status (if decision = .approved then .authorized else .denied), .issuedAt issuedAt,
    .expiresAt expiresAt,
    .grantStoneHash (if decision = .approved then some hash else none),
    .denialStoneHash (if decision = .denied then some hash else none), .errorType none]

def repeatedDecision (authorization : Authorization) (decision : Decision)
    (more : List (Text × Value))
    : Value :=
  .literal
    ([(text "ok", .bool true), (text "schema", .string TOOL_AUTHORIZATION_DECISION_SCHEMA),
      (text "idempotent_replay", .bool true), (text "decision", .string decision.text),
      (text "authorization", authorization.toValue platform)] ++ more)

/-- The call that moved the row to `deciding` records its decision, with evidence for it. -/
def decide (body : DecisionBody) (current : Authorization) : Program M Text Value := do
  let issuedAt ← deps.dateNow .decision
  let now ← deps.dateNow .decision
  let row := current.row
  let expiresAt : Option Int :=
    if body.decision = .approved then some (now + body.ttlSeconds * 1000) else none
  let decisionIdentity : List (Text × Value) :=
    [(text "schema", .string TOOL_AUTHORIZATION_DECISION_SCHEMA),
      (text "authorization_request_id", .string body.id),
      (text "request_stone_hash", .string row.requestStoneHash),
      (text "package_id", current.field "package_id"),
      (text "request_ir_id", current.field "request_ir_id"),
      (text "decision_id", current.field "decision_id"),
      (text "tool_id", current.toolId),
      (text "argument_digest", .string row.argumentDigest),
      (text "authorization_subject", .string body.subject),
      (text "authorization_method", .string body.method),
      (text "issued_at", .string (platform.isoText issuedAt)),
      (text "expires_at", .ofOption (expiresAt.map platform.isoText)),
      (text "one_time", .bool (body.decision == .approved)),
      (text "decision", .string body.decision.text)]
  let authorizationId :=
    text "sha256:" ++ platform.sha256Text (stableJson (.literal decisionIdentity))
  let evidence ← createEvidenceStone deps (.literal
    [(text "title",
        .string
          ((if body.decision = .approved then text "Tool authorization grant: "
            else text "Tool authorization denial: ") ++ current.toolId.interpolate)),
      (text "author", .string body.subject),
      (text "content",
        .string
          (stableJson (.literal
            (decisionIdentity ++ [(text "authorization_id", .string authorizationId)])))),
      (text "path",
        .string
          (text "tool-authorization-decisions/" ++ withoutAlgorithm authorizationId
            ++ text ".json")),
      (text "chain", .string TOOL_AUTHORIZATION_GRANT_CHAIN),
      (text "metadata",
        .literal
          [(text "type",
              .string
                (if body.decision = .approved then text "tool-authorization-grant"
                  else text "tool-authorization-denial")),
            (text "schema", .string TOOL_AUTHORIZATION_DECISION_SCHEMA),
            (text "authorization_id", .string authorizationId),
            (text "authorization_request_id", .string body.id),
            (text "request_stone_hash", .string row.requestStoneHash),
            (text "tool_id", current.toolId),
            (text "argument_digest", .string row.argumentDigest),
            (text "decision", .string body.decision.text)]),
      (text "set_as_head", .bool false)])
  match evidence with
  | .error error => do
    deps.updateAuthorization body.id (failureFields .authorizationFailed error)
    return refusalFor error body.id
  | .ok hash => do
    linkEvidence deps (some hash) (some row.requestStoneHash)
      "Human authorization decision binds to this exact immutable pending request."
    deps.updateAuthorization body.id (decidedFields body.decision issuedAt expiresAt hash)
    let decided ← load platform deps body.id
    let stone : Value :=
      .literal
        [(text "stone_hash", .string hash), (text "chain", .string TOOL_AUTHORIZATION_GRANT_CHAIN)]
    let result : List (Text × Value) :=
      [(text "ok", .bool true),
        (text "schema", .string TOOL_AUTHORIZATION_DECISION_SCHEMA),
        (text "idempotent_replay", .bool false),
        (text "authorization_id", .string authorizationId),
        (text "authorization_request_id", .string body.id),
        (text "decision", .string body.decision.text),
        (text "grant", if body.decision = .approved then stone else .null),
        (text "denial", if body.decision = .denied then stone else .null),
        (text "authorization", (decided.map (·.toValue platform)).getD .null),
        (text "policy",
          .literal
            [(text "model_intent_is_execution_authority", .bool false),
              (text "human_confirmation_required", .bool true),
              (text "one_time", .bool (body.decision == .approved))])]
    if body.decision = .approved ∧ body.execute then do
      let execution ←
        executeAuthorizedToolFromBody platform deps
          (.literal [(text "authorization_request_id", .string body.id)])
      return .literal (result ++ [(text "execution", execution)])
    else
      return .literal result

def claimDecision (body : DecisionBody) (current : Authorization) : Program M Text Value := do
  let changes ← deps.transitionAuthorization body.id .pending .deciding
    [.decision body.decision, .authorizationSubject body.subject,
      .authorizationMethod body.method]
  if changes = 1 then
    decide platform deps body current
  else do
    let current ← load platform deps body.id
    return refusalIn (text "authorization_decision_race_lost")
      (.ofOption (current.map (·.row.status.text))) body.id

def decideLoaded (body : DecisionBody) (current : Authorization) : Program M Text Value :=
  match current.row.status, body.decision with
  | .executed, .approved => do
    let execution ←
      match current.row.executionResultJson.filter (· ≠ []) with
      | some result => parseOrThrow platform result
      | none => .done .null
    return repeatedDecision platform current .approved [(text "execution", execution)]
  | .authorized, .approved => return repeatedDecision platform current .approved []
  | .denied, .denied => return repeatedDecision platform current .denied []
  | .pending, _ => claimDecision platform deps body current
  | status, _ =>
    return refusalIn (text "authorization_not_pending") (.string status.text) body.id

def verifyAndDecide (body : DecisionBody) (current : Authorization) : Program M Text Value :=
  let request := current.request
  if !((request.get (text "authorization_request_id")).strictEquals (.string body.id)
      && current.target.isObject && current.arguments.isObject) then
    return refusalFor (text "authorization_request_corrupt") body.id
  else if argumentDigest platform current.arguments ≠ current.row.argumentDigest
      || !(request.get (text "argument_digest")).strictEquals
          (.string current.row.argumentDigest) then
    return refusalFor (text "authorization_argument_digest_mismatch") body.id
  else if !((request.get (text "tool_id")).strictEquals current.toolId
      && (current.target.get (text "tool_id")).strictEquals current.toolId
      && (request.get (text "required_authorization")).strictEquals
          (.string current.row.requiredAuthorization)) then
    return refusalFor (text "authorization_request_identity_mismatch") body.id
  else do
    let registry ←
      checkPolicy deps current.toolId (.string current.row.requiredAuthorization)
    if !(registry.get (text "ok")).isTrue then
      return refusalFor (errorOr registry "authorized_tool_policy_changed") body.id
    else decideLoaded platform deps body current

def authorizeToolRequestFromBody (body : Value) : Program M Text Value :=
  match readDecision platform body with
  | .error answer => return answer
  | .ok decision => do
    let current ← load platform deps decision.id
    match current with
    | none => return refusalFor (text "authorization_not_found") decision.id
    | some current => verifyAndDecide platform deps decision current

def persistPendingAuthorizationRecord
    (insertPending : PendingRecord → Program M Text Nat) (record : PendingRecord)
    : Program M Text Value := do
  let changes ← insertPending record
  let current ← load platform deps record.authorizationRequestId
  match current with
  | none => return refusal (text "authorization_lifecycle_persist_failed") []
  | some current =>
    if current.row.requestStoneHash = record.requestStoneHash
        ∧ current.row.argumentDigest = record.argumentDigest
        ∧ (current.request.get (text "authorization_request_id")).strictEquals
            (.string record.authorizationRequestId) then
      return .literal
        [(text "ok", .bool true), (text "idempotent_replay", .bool (changes == 0)),
          (text "authorization", current.toValue platform)]
    else
      return refusal (text "authorization_lifecycle_idempotency_conflict") []

end CairnStone.ToolAuthorization
