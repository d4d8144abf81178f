import CairnStone.TaskRuns.Executors

/-! The tool catalogue and the broker registry laid over it: how a definition is classified, and which
contracts discovery and hydration give for it.
-/

namespace CairnStone.ToolBroker

open JavaScript TaskRuns

/-- `typeof value === "object"` of a value that is taken for true -/
def isReference : Value → Bool
  | .object _ _ => true
  | .array _ => true
  | _ => false

/-- A refusal, or what was asked for. -/
abbrev Answer (α : Type) := Except Refusal α

def BROKER_RISK_CLASSES : List Text :=
  [text "read", text "mutation", text "execution", text "prohibited"]

def BROKER_AUTHORIZATION : List Text :=
  [text "automatic", text "scoped_grant", text "human_confirmation", text "prohibited"]

def isOneOf (texts : List Text) (value : Value) : Bool :=
  texts.any (fun s => value.strictEquals (.string s))

/-- `typeof value === "string" && value` -/
def isNonEmpty (value : Value) : Bool :=
  value.string?.any (· != [])

def validateBrokerRegistryEntry (entry : Value) : Bool :=
  isReference entry
  && isNonEmpty (entry.get (text "tool_id")) && isNonEmpty (entry.get (text "connector"))
  && isNonEmpty (entry.get (text "handler"))
  && isOneOf BROKER_RISK_CLASSES (entry.get (text "risk_class"))
  && isOneOf BROKER_AUTHORIZATION (entry.get (text "authorization"))
  && isReference (entry.get (text "input_schema"))

/-- `registry.find(item => item.tool_id === name)` -/
def findEntry (registry : List Value) (name : Value) : Option Value :=
  registry.find? (fun item => (item.get (text "tool_id")).strictEquals name)

/-- `catalog.find(item => item && item.name === name)` -/
def findDefinition (catalog : List Value) (name : Text) : Option Value :=
  catalog.find? (fun item => item.truthy && (item.get (text "name")).strictEquals (.string name))

def isRead (entry : Value) : Bool :=
  (entry.get (text "risk_class")).strictEquals (.string (text "read"))

def isAutomatic (entry : Value) : Bool :=
  (entry.get (text "authorization")).strictEquals (.string (text "automatic"))

def isAvailable (entry : Value) : Bool :=
  (entry.get (text "available")).isTrue

variable (sha256Text : Text → Text)

def schemaHashOf (inputSchema : Value) : Text :=
  text "sha256:" ++ sha256Text (stableJson (inputSchema.or (.literal [])))

inductive ClassificationStatus where
  | classified
  | unclassified
  | schemaDisagreement
  deriving DecidableEq

structure Classification where
  classificationStatus : ClassificationStatus
  (riskClass authorization : Value)
  brokerEligible : Bool
  schemaHash : Text
  registrySchemaHash : Option Text
  (connector handler : Value)

def classifyTool (toolDef : Value) (registry : List Value) : Classification :=
  let canonicalSchemaHash := schemaHashOf sha256Text (toolDef.get (text "inputSchema"))
  match findEntry registry (toolDef.get (text "name")) with
  | none =>
    { classificationStatus := .unclassified
      riskClass := .null
      authorization := .null
      brokerEligible := false
      schemaHash := canonicalSchemaHash
      registrySchemaHash := none
      connector := .null
      handler := .null }
  | some entry =>
    let registrySchemaHash := schemaHashOf sha256Text (entry.get (text "input_schema"))
    let agrees := registrySchemaHash = canonicalSchemaHash
    { classificationStatus := if agrees then .classified else .schemaDisagreement
      riskClass := if agrees then entry.get (text "risk_class") else .null
      authorization := if agrees then entry.get (text "authorization") else .null
      brokerEligible := if agrees then isAvailable entry else false
      schemaHash := canonicalSchemaHash
      registrySchemaHash := some registrySchemaHash
      connector := (entry.get (text "connector")).or .null
      handler := (entry.get (text "handler")).or .null }

structure Contract extends Classification where
  (name description inputSchema : Value)

def toolContractFromBody (catalog registry : List Value) (body : Value) : Answer Contract :=
  if !body.isObject then .error (refuse "invalid_tool_contract_request")
  else
    match nonEmptyString (body.get (text "name")) with
    | none => .error (refuse "missing_tool_name")
    | some name =>
      if catalog = [] then .error (refuse "tool_catalog_unavailable")
      else
        match findDefinition catalog name with
        | none =>
          .error { error := text "tool_not_found", details := [(text "name", .string name)] }
        | some toolDef =>
          .ok
            { classifyTool sha256Text toolDef registry with
              name := toolDef.get (text "name")
              description := (toolDef.get (text "description")).or (.string [])
              inputSchema :=
                jsonCopy
                  ((toolDef.get (text "inputSchema")).or
                    (.literal [(text "type", .string (text "object"))])) }

structure Hydrated where
  (name description inputSchema : Value)
  (schemaHash registrySchemaHash : Text)
  (riskClass authorization : Value)
  brokerEligible : Bool

/-- `catalog.find(item => item && item.name === id)` for an id of any type -/
def findById (catalog : List Value) (id : Value) : Option Value :=
  catalog.find? (fun item => item.truthy && (item.get (text "name")).strictEquals id)

def hydrateSelectedContract (catalog registry : List Value) (selected : Value) : Answer Hydrated :=
  let id := selected.get (text "id")
  let named (error : String) (details : List (Text × Value)) : Refusal :=
    { error := text error, details := (text "tool_id", id) :: details }
  if !selected.truthy || !id.truthy then .error (refuse "selected_required")
  else
    match findById catalog id with
    | none => .error (named "contract_not_found" [])
    | some toolDef =>
      let schemaHash := schemaHashOf sha256Text (toolDef.get (text "inputSchema"))
      match registry.find? (fun item =>
        item.truthy && (item.get (text "tool_id")).strictEquals id) with
      | none =>
        .error
          (named "hydrate_not_automatic_read"
            [(text "classification_status", .string (text "unclassified")),
              (text "risk_class", .null), (text "authorization", .null)])
      | some entry =>
        let registrySchemaHash := schemaHashOf sha256Text (entry.get (text "input_schema"))
        if registrySchemaHash ≠ schemaHash then
          .error
            (named "schema_disagreement"
              [(text "schema_hash", .string schemaHash),
                (text "registry_schema_hash", .string registrySchemaHash)])
        else if !isRead entry || !isAutomatic entry then
          .error
            (named "hydrate_not_automatic_read"
              [(text "classification_status", .string (text "classified")),
                (text "risk_class", entry.get (text "risk_class")),
                (text "authorization", entry.get (text "authorization"))])
        else if !isAvailable entry then .error (named "hydrate_not_broker_eligible" [])
        else
          .ok
            { name := toolDef.get (text "name")
              description := (toolDef.get (text "description")).or .null
              inputSchema := toolDef.get (text "inputSchema")
              schemaHash
              registrySchemaHash
              riskClass := entry.get (text "risk_class")
              authorization := entry.get (text "authorization")
              brokerEligible := isAvailable entry }

end CairnStone.ToolBroker
