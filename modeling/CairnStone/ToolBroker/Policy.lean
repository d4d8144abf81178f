import CairnStone.JavaScript.Conversions
import CairnStone.TaskRuns.Routes
import CairnStone.ToolBroker.Catalog

/-! The broker's policy on a tool intent: the checks on its arguments, the verdict, the preview that
reports it, and the execution that follows an allowed one.
-/

namespace CairnStone.ToolBroker

open JavaScript TaskRuns

/-- `Number.isInteger(value)` -/
def isInteger : Value → Bool
  | .number n => n.toInt?.isSome
  | _ => false

/-- `typeof value === "number" && Number.isFinite(value)` -/
def isFiniteNumber : Value → Bool
  | .number (.finite _) => true
  | _ => false

def isText (value : Value) : Bool :=
  value.string?.isSome

def isBoolean : Value → Bool
  | .bool _ => true
  | _ => false

def isNull : Value → Bool
  | .null => true
  | _ => false

def brokerJsonTypeMatches (value type : Value) : Bool :=
  let is (name : String) : Bool := type.strictEquals (.string (text name))
  if is "object" then value.isObject
  else if is "array" then isArray value
  else if is "string" then isText value
  else if is "boolean" then isBoolean value
  else if is "number" then isFiniteNumber value
  else if is "integer" then isInteger value
  else if is "null" then isNull value
  else true

/-- `Object.prototype.hasOwnProperty.call(value, key)` -/
def hasOwn (value : Value) (key : Text) : Bool :=
  match value with
  | .object _ properties => properties.any (·.1 == key)
  | .array slots =>
    key == text "length"
    || slots.zipIdx.any (fun slot => slot.1.isSome && digitText slot.2 == key)
  | _ => false

/-- Why arguments do not fit a schema. -/
structure Mismatch where
  error : Text
  details : List (Text × Value)

/-- The refusals of `validateBrokerArguments(schema, args)`, if it refuses -/
def argumentsMismatch (schema args : Value) : Option Mismatch :=
  let objectType : Value := .string (text "object")
  let inputSchema := if isReference schema then schema else .literal [(text "type", objectType)]
  let type := (inputSchema.get (text "type")).or objectType
  let properties :=
    if isReference (inputSchema.get (text "properties")) then inputSchema.get (text "properties")
    else .literal []
  let missing :=
    (listOf (inputSchema.get (text "required"))).filter (fun key => !hasOwn args key.toText)
  let unknown := (args.spread.map (·.1)).filter (fun key => !hasOwn properties key)
  let invalid :=
    args.spread.filter (fun entry =>
      let expected := (properties.get entry.1).get (text "type")
      expected.truthy && !brokerJsonTypeMatches entry.2 expected)
  if !brokerJsonTypeMatches args type then
    some { error := text "arguments_type_mismatch", details := [(text "expected", type)] }
  else if !type.strictEquals objectType then none
  else if missing ≠ [] then
    some
      { error := text "arguments_missing_required"
        details := [(text "missing", .array (missing.map some))] }
  else if isFalse (inputSchema.get (text "additionalProperties")) ∧ unknown ≠ [] then
    some
      { error := text "arguments_unknown_properties"
        details := [(text "unknown", textList unknown)] }
  else if invalid ≠ [] then
    some
      { error := text "arguments_property_type_mismatch"
        details :=
          [(text "invalid",
            .array (invalid.map (fun entry =>
              some (.literal
                [(text "key", .string entry.1),
                  (text "expected", (properties.get entry.1).get (text "type"))]))))] }
  else none

/-- `validateBrokerArguments(schema, args)`, as it is reported -/
def argumentsValidation (entry : Option Value) (args : Value) : Value :=
  match entry with
  | none =>
    .literal [(text "ok", .bool false), (text "error", .string (text "tool_not_registered"))]
  | some entry =>
    match argumentsMismatch (entry.get (text "input_schema")) args with
    | none => .literal [(text "ok", .bool true)]
    | some mismatch =>
      .literal
        ((text "ok", .bool false) :: (text "error", .string mismatch.error) :: mismatch.details)

inductive Decision where
  | allow
  | deny
  | requireAuthorization
  deriving DecidableEq

def Decision.text : Decision → Text
  | .allow => JavaScript.text "allow"
  | .deny => JavaScript.text "deny"
  | .requireAuthorization => JavaScript.text "require_authorization"

structure Verdict where
  decision : Decision
  reason : Value
  authorizationRequired : Bool

def deny (reason : String) : Verdict where
  decision := .deny
  reason := .string (text reason)
  authorizationRequired := false

def isProhibited (entry : Value) : Bool :=
  (entry.get (text "risk_class")).strictEquals (.string (text "prohibited"))
  || (entry.get (text "authorization")).strictEquals (.string (text "prohibited"))

def brokerDecisionFor (entry : Option Value) (capabilityPresent : Bool) (argsValidation : Value)
    : Verdict :=
  match entry with
  | none => deny "tool_not_registered"
  | some entry =>
    if !isAvailable entry then deny "tool_unavailable"
    else if !capabilityPresent then deny "capability_not_in_context"
    else if !(argsValidation.get (text "ok")).isTrue then deny "arguments_invalid"
    else if isProhibited entry then deny "tool_prohibited"
    else if isRead entry && isAutomatic entry then
      { decision := .allow
        reason := .string (text "read_only_automatic")
        authorizationRequired := false }
    else
      { decision := .requireAuthorization
        reason := entry.get (text "authorization")
        authorizationRequired := true }

/-- An intent on a package, judged by the registry. -/
structure Evaluation where
  toolId : Text
  args : Value
  entry : Option Value
  capabilityPresent : Bool
  argsValidation : Value
  verdict : Verdict

/-- `args === undefined ? {} : args` -/
def argumentsOf (intent : Value) : Value :=
  (intent.get (text "arguments")).orDefault (.literal [])

/-- `pkg.capabilities.available_tools.includes(toolId)` -/
def offersTool (pkg : Value) (toolId : Text) : Bool :=
  includes ((pkg.get (text "capabilities")).get (text "available_tools")) toolId

def evaluateToolIntentDecision (pkg intent : Value) (registry : List Value) (toolId : Text)
    : Evaluation :=
  let args := argumentsOf intent
  let entry := findEntry registry (.string toolId)
  let capabilityPresent := offersTool pkg toolId
  let argsValidation := argumentsValidation entry args
  { toolId, args, entry, capabilityPresent, argsValidation
    verdict := brokerDecisionFor entry capabilityPresent argsValidation }

/-- What the broker calls outside: the hash of a text, the id that a package ought to have (none where
its fields are missing), and the instant.
-/
structure Platform where
  sha256Text : Text → Text
  recomputePackageId : Value → Option Text
  now : Text

variable (platform : Platform)

/-- `/^sha256:[0-9a-f]{64}$/` -/
def isPackageId (s : Text) : Bool :=
  let digits := s.drop (text "sha256:").length
  (text "sha256:").isPrefixOf s
  && digits.all (fun u => isDigit u || (0x61 ≤ u && u ≤ 0x66)) && digits.length == 64

def invalidPackage (detail : String) : Refusal where
  error := text "invalid_context_package"
  details :=
    [(text "detail", .string (text detail)), (text "stage", .string (text "context_package"))]

def isFlag (flag : Bool) (value : Value) : Bool :=
  if flag then value.isTrue else isFalse value

def validateContextPackage (pkg : Value) : Answer Unit :=
  let policy := pkg.get (text "policy")
  let id := pkg.get (text "package_id")
  let recomputed := platform.recomputePackageId pkg
  if !isReference pkg then .error (invalidPackage "not_an_object")
  else if !(pkg.get (text "schema")).strictEquals (.string (text "cairnstone-agent-context-v1")) then
    .error (invalidPackage "wrong_schema")
  else if !(pkg.get (text "ok")).isTrue then .error (invalidPackage "ok_not_true")
  else if !id.string?.any isPackageId then .error (invalidPackage "malformed_package_id")
  else if !isFlag true (policy.get (text "accepted_state_only_for_authority")) then
    .error (invalidPackage "accepted_state_only_for_authority_not_true")
  else if !isFlag false (policy.get (text "mutable_branch_is_authority")) then
    .error (invalidPackage "mutable_branch_is_authority_not_false")
  else if !isFlag false (policy.get (text "execution_authority")) then
    .error (invalidPackage "execution_authority_not_false")
  else if !isFlag false (policy.get (text "mutation_authority")) then
    .error (invalidPackage "mutation_authority_not_false")
  else if !isFlag false (policy.get (text "provider_credentials_in_package")) then
    .error (invalidPackage "provider_credentials_in_package_not_false")
  else
    match recomputed with
    | none => .error (refuse "TypeError")
    | some own =>
      if id.strictEquals (.string own) then .ok ()
      else
        .error
          { error := text "invalid_context_package"
            details :=
              [(text "detail", .string (text "package_id_hash_mismatch")),
                (text "recomputed", .string own),
                (text "stage", .string (text "context_package"))] }

def invalidIntent (detail : String) : Refusal where
  error := text "invalid_tool_intent"
  details := [(text "detail", .string (text detail))]

/-- The checks that preview and execution make on a request alike: the tool and its judgement. -/
def readRequest (requestError : String) (registry : List Value) (body : Value) : Answer Evaluation := do
  let pkg := body.get (text "context_package")
  let intent := body.get (text "tool_intent")
  if !isReference body then
    throw
      { error := text requestError
        details := [(text "detail", .string (text "body_not_an_object"))] }
  validateContextPackage platform pkg
  if !isReference intent then throw (invalidIntent "not_an_object")
  if (intent.get (text "executed")).isTrue then throw (invalidIntent "tool_intent_already_executed")
  match nonEmptyString (intent.get (text "tool_id")) with
  | none => throw (invalidIntent "missing_tool_id")
  | some toolId =>
    if !(argumentsOf intent).isObject then throw (invalidIntent "arguments_not_object")
    if !registry.all validateBrokerRegistryEntry then throw (refuse "tool_registry_invalid")
    return evaluateToolIntentDecision pkg intent registry toolId

/-- `typeof value === "string" ? value : null` -/
def textOrNull (value : Value) : Value :=
  if isText value then value else .null

def registryFields (entry : Value) : List (Text × Value) :=
  [(text "connector", entry.get (text "connector")), (text "handler", entry.get (text "handler")),
    (text "risk_class", entry.get (text "risk_class")),
    (text "authorization", entry.get (text "authorization"))]

def Verdict.value (verdict : Verdict) : Value :=
  .literal
    [(text "decision", .string verdict.decision.text), (text "reason", verdict.reason),
      (text "authorization_required", .bool verdict.authorizationRequired)]

def decisionId (body : Value) (evaluation : Evaluation) : Text :=
  let pkg := body.get (text "context_package")
  let intent := body.get (text "tool_intent")
  let registry : Value :=
    match evaluation.entry with
    | none => .null
    | some entry =>
      .literal (registryFields entry ++ [(text "available", .bool (isAvailable entry))])
  text "sha256:"
    ++ platform.sha256Text
        (stableJson (.literal
          [(text "package_id", pkg.get (text "package_id")),
            (text "intent_id", textOrNull (intent.get (text "intent_id"))),
            (text "tool_id", .string evaluation.toolId), (text "arguments", evaluation.args),
            (text "registry", registry),
            (text "capability_present", .bool evaluation.capabilityPresent),
            (text "arguments_validation", evaluation.argsValidation),
            (text "decision", evaluation.verdict.value)]))

end CairnStone.ToolBroker
