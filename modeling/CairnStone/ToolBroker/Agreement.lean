import Mathlib.Tactic.ByContra
import CairnStone.JavaScript.Members
import CairnStone.ToolBroker.Requests

/-! Whether discovery, hydration and execution agree on a tool. Discovery and hydration compare the schema
of a definition with the one of its registry entry, while the broker's policy looks at the entry alone: a
tool whose schemas disagree is reported as not classified, and it is still executed.
-/

namespace CairnStone.ToolBroker

open JavaScript TaskRuns Bool List Value

variable {platform : Platform} {deps : Deps} {catalog registry : List Value} {body : Value} {n : Text}
  {toolDef entry : Value} {error : String} {evaluation : Evaluation}

def IsContractOf (platform : Platform) (catalog registry : List Value) (n : Text)
    (contract : Contract)
    : Prop :=
  ∃ request,
    toolContractFromBody platform.sha256Text catalog registry request = .ok contract
    ∧ contract.name = .string n

def IntendsTool (body : Value) (n : Text) : Prop :=
  nonEmptyString ((body.get (text "tool_intent")).get (text "tool_id")) = some n

/-- Discovery, hydration and execution agree on a tool: one that is not reported as classified and
eligible is neither allowed nor executed, and one is hydrated exactly if it is reported as an eligible
automatic read with the same schema.
-/
structure AgreesOn (platform : Platform) (deps : Deps) (catalog registry : List Value) (body : Value)
    (n : Text)
    : Prop where
  failsClosed
    : ∀ contract, IsContractOf platform catalog registry n contract
      → (contract.classificationStatus ≠ .classified ∨ contract.brokerEligible = false)
      → IntendsTool body n
      → (∀ preview, toolPolicyPreviewFromBody platform registry body = .ok preview
          → preview.evaluation.verdict.decision ≠ .allow)
        ∧ ∀ execution, executeToolIntentFromBody platform deps registry body = .ok execution
          → execution.invoked = []
  hydrates
    : ∀ schemaHash,
        (∃ hydrated,
          hydrateSelectedContract platform.sha256Text catalog registry
              (.literal [(text "id", .string n)])
            = .ok hydrated
          ∧ hydrated.schemaHash = schemaHash)
        ↔ ∃ contract, IsContractOf platform catalog registry n contract
          ∧ contract.classificationStatus = .classified
          ∧ contract.riskClass = .string (text "read")
          ∧ contract.authorization = .string (text "automatic")
          ∧ contract.brokerEligible = true ∧ contract.schemaHash = schemaHash

def schemasAgree (platform : Platform) (toolDef entry : Value) : Bool :=
  schemaHashOf platform.sha256Text (entry.get (text "input_schema"))
  == schemaHashOf platform.sha256Text (toolDef.get (text "inputSchema"))

def isAutomaticRead (entry : Value) : Bool :=
  isRead entry && isAutomatic entry && isAvailable entry

def isGranted (entry pkg intent : Value) (n : Text) : Bool :=
  isReference intent && !(intent.get (text "executed")).isTrue && (argumentsOf intent).isObject
  && isAutomaticRead entry && offersTool pkg n
  && (argumentsMismatch (entry.get (text "input_schema")) (argumentsOf intent)).isNone

def isUsableName (n : Text) : Bool :=
  nonEmptyString (.string n) == some n

/-- Where a definition and an entry of the tool's name disagree on its schema, the request's intent is not
granted; and where nobody can ask for a tool of that name, it is no automatic read.
-/
def joinsAlike (platform : Platform) (catalog registry : List Value) (body : Value) (n : Text) : Bool :=
  let pkg := body.get (text "context_package")
  let intent := body.get (text "tool_intent")
  match findDefinition catalog n, findEntry registry (.string n) with
  | some toolDef, some entry =>
    if isUsableName n then
      schemasAgree platform toolDef entry
      || !(nonEmptyString (intent.get (text "tool_id")) == some n && isGranted entry pkg intent n)
    else !(schemasAgree platform toolDef entry && isAutomaticRead entry)
  | _, _ => true

theorem name_of_findDefinition (found : findDefinition catalog n = some toolDef)
    : toolDef.get (text "name") = .string n := by
  have hit := find?_some found
  exact strictEquals_string_iff.mp (and_eq_true_iff.mp hit).2

theorem nonEmptyString_eq_some {value : Value} {s : Text} (named : nonEmptyString value = some s)
    : isUsableName s = true := by
  unfold nonEmptyString at named
  cases string : value.string? with
  | none =>
    rw [string] at named
    cases named
  | some t =>
    simp only [string] at named
    split at named
    · cases named
    · rename_i visible
      cases named
      unfold isUsableName nonEmptyString
      simp only [string?_string, trim_trim, if_neg visible, beq_self_eq_true]

theorem of_isContractOf {contract : Contract}
    (gives : IsContractOf platform catalog registry n contract)
    : ∃ toolDef, isUsableName n = true ∧ findDefinition catalog n = some toolDef
        ∧ contract.toClassification = classifyTool platform.sha256Text toolDef registry := by
  obtain ⟨request, said, named⟩ := gives
  unfold toolContractFromBody at said
  split at said
  · cases said
  cases asked : nonEmptyString (request.get (text "name")) with
  | none =>
    rw [asked] at said
    cases said
  | some name =>
    simp only [asked] at said
    split at said
    · cases said
    cases found : findDefinition catalog name with
    | none =>
      simp only [found] at said
      cases said
    | some toolDef =>
      simp only [found] at said
      cases said
      have same : name = n := by
        have both := (name_of_findDefinition found).symm.trans named
        exact string.inj both
      subst same
      exact ⟨toolDef, nonEmptyString_eq_some asked, found, rfl⟩

theorem exists_contract (usable : isUsableName n = true)
    (found : findDefinition catalog n = some toolDef)
    : ∃ contract, IsContractOf platform catalog registry n contract
        ∧ contract.toClassification = classifyTool platform.sha256Text toolDef registry := by
  have listed : catalog ≠ [] := by
    rintro rfl
    cases found
  have asked
      : nonEmptyString ((literal [(text "name", .string n)]).get (text "name")) = some n := by
    rw [get_literal, member_cons_self]
    exact beq_iff_eq.mp usable
  have answer
      : ∃ contract : Contract,
          toolContractFromBody platform.sha256Text catalog registry
              (.literal [(text "name", .string n)])
            = .ok contract
          ∧ contract.name = toolDef.get (text "name")
          ∧ contract.toClassification = classifyTool platform.sha256Text toolDef registry := by
    unfold toolContractFromBody
    simp only [asked, found, if_neg listed]
    exact ⟨_, rfl, rfl, rfl⟩
  obtain ⟨contract, said, named, classified⟩ := answer
  exact ⟨contract, ⟨_, said, named.trans (name_of_findDefinition found)⟩, classified⟩

theorem classifyTool_of_none {sha256Text : Text → Text}
    (named : toolDef.get (text "name") = .string n)
    (absent : findEntry registry (.string n) = none)
    : (classifyTool sha256Text toolDef registry).classificationStatus = .unclassified
      ∧ (classifyTool sha256Text toolDef registry).brokerEligible = false := by
  unfold classifyTool
  simp only [named, absent]
  exact ⟨trivial, trivial⟩

theorem classifyTool_of_disagreement (named : toolDef.get (text "name") = .string n)
    (found : findEntry registry (.string n) = some entry)
    (disagrees : schemasAgree platform toolDef entry = false)
    : (classifyTool platform.sha256Text toolDef registry).classificationStatus = .schemaDisagreement
      ∧ (classifyTool platform.sha256Text toolDef registry).brokerEligible = false := by
  unfold classifyTool
  simp only [named, found, if_neg (beq_eq_false_iff_ne.mp disagrees)]
  exact ⟨trivial, trivial⟩

theorem classifyTool_of_agreement (named : toolDef.get (text "name") = .string n)
    (found : findEntry registry (.string n) = some entry)
    (agrees : schemasAgree platform toolDef entry = true)
    : (classifyTool platform.sha256Text toolDef registry).classificationStatus = .classified
      ∧ (classifyTool platform.sha256Text toolDef registry).riskClass = entry.get (text "risk_class")
      ∧ (classifyTool platform.sha256Text toolDef registry).authorization
        = entry.get (text "authorization")
      ∧ (classifyTool platform.sha256Text toolDef registry).brokerEligible = isAvailable entry
      ∧ (classifyTool platform.sha256Text toolDef registry).schemaHash
        = schemaHashOf platform.sha256Text (toolDef.get (text "inputSchema")) := by
  unfold classifyTool
  simp only [named, found, if_pos (beq_iff_eq.mp agrees)]
  exact ⟨trivial, trivial, trivial, trivial, trivial⟩

theorem truthy_of_get {value : Value} {key s : Text}
    (named : (value.get key).strictEquals (.string s) = true)
    : value.truthy = true := by
  cases value with
  | object proto properties => rfl
  | _ => cases named

theorem find_truthy_eq (registry : List Value) (n : Text)
    : registry.find? (fun item =>
          item.truthy && (item.get (text "tool_id")).strictEquals (.string n))
      = findEntry registry (.string n) := by
  unfold findEntry
  congr 1
  funext item
  cases named : (item.get (text "tool_id")).strictEquals (.string n) with
  | false => rw [Bool.and_false]
  | true => rw [truthy_of_get named, Bool.and_true]

theorem hydrated_iff {schemaHash : Text}
    : (∃ hydrated,
          hydrateSelectedContract platform.sha256Text catalog registry
              (.literal [(text "id", .string n)])
            = .ok hydrated
          ∧ hydrated.schemaHash = schemaHash)
      ↔ n ≠ [] ∧ ∃ toolDef entry,
          findDefinition catalog n = some toolDef ∧ findEntry registry (.string n) = some entry
          ∧ schemasAgree platform toolDef entry = true ∧ isAutomaticRead entry = true
          ∧ schemaHashOf platform.sha256Text (toolDef.get (text "inputSchema")) = schemaHash := by
  have id : (literal [(text "id", .string n)]).get (text "id") = .string n := by
    rw [get_literal, member_cons_self]
  have picked : (literal [(text "id", .string n)]).truthy = true := rfl
  unfold hydrateSelectedContract
  extract_lets id' named
  rw [show id' = .string n from id]
  rw [picked, Bool.not_true, Bool.false_or]
  by_cases empty : n = []
  · subst empty
    refine iff_of_false ?_ (fun never => never.1 rfl)
    rintro ⟨hydrated, said, _⟩
    cases said
  have usable : (string n).truthy = true := by
    unfold truthy
    exact bne_iff_ne.mpr empty
  rw [usable, Bool.not_true, if_neg Bool.false_ne_true, find_truthy_eq]
  have byId : findById catalog (.string n) = findDefinition catalog n := rfl
  rw [byId]
  cases defined : findDefinition catalog n with
  | none =>
    refine iff_of_false ?_ ?_
    · rintro ⟨hydrated, said, _⟩
      cases said
    · rintro ⟨_, toolDef, entry, never, _⟩
      cases never
  | some toolDef =>
    cases found : findEntry registry (.string n) with
    | none =>
      refine iff_of_false ?_ ?_
      · rintro ⟨hydrated, said, _⟩
        cases said
      · rintro ⟨_, toolDef, entry, _, never, _⟩
        cases never
    | some entry =>
      have only (P : Value → Value → Prop)
          : (n ≠ [] ∧ ∃ toolDef' entry', some toolDef = some toolDef' ∧ some entry = some entry'
              ∧ P toolDef' entry')
            ↔ P toolDef entry := by
        constructor
        · rintro ⟨_, toolDef', entry', sameDef, sameEntry, holds⟩
          rw [Option.some.inj sameDef, Option.some.inj sameEntry]
          exact holds
        · exact fun holds => ⟨empty, _, _, rfl, rfl, holds⟩
      refine Iff.trans ?_ (only _).symm
      unfold schemasAgree isAutomaticRead
      simp only []
      by_cases agrees
        : schemaHashOf platform.sha256Text (entry.get (text "input_schema"))
          = schemaHashOf platform.sha256Text (toolDef.get (text "inputSchema"))
      · rw [if_neg (not_not_intro agrees), beq_iff_eq.mpr agrees]
        cases reads : isRead entry <;> cases automatic : isAutomatic entry
          <;> cases available : isAvailable entry
          <;> simp
      · rw [if_pos agrees, beq_eq_false_iff_ne.mpr agrees]
        simp

/-- The broker allows the available automatic reads that a package offers, with arguments that fit. -/
theorem brokerDecisionFor_allow_iff {here : Bool} {validation : Value}
    : (brokerDecisionFor (some entry) here validation).decision = .allow
      ↔ isAutomaticRead entry = true ∧ here = true
          ∧ (validation.get (text "ok")).isTrue = true := by
  have harmless (reads : isRead entry = true) (automatic : isAutomatic entry = true)
      : isProhibited entry = false := by
    unfold isProhibited
    rw [strictEquals_string_iff.mp reads, strictEquals_string_iff.mp automatic]
    decide +kernel
  unfold brokerDecisionFor isAutomaticRead
  simp only []
  cases isAvailable entry
  · simp [deny]
  cases here
  · simp [deny]
  cases (validation.get (text "ok")).isTrue
  · simp [deny]
  cases reads : isRead entry
  · cases isProhibited entry <;> simp [deny]
  cases automatic : isAutomatic entry
  · cases isProhibited entry <;> simp [deny]
  rw [harmless reads automatic]
  simp

/-- Arguments are reported as fitting if nothing is wrong with them. -/
theorem argumentsValidation_isTrue {args : Value}
    : ((argumentsValidation (some entry) args).get (text "ok")).isTrue
      = (argumentsMismatch (entry.get (text "input_schema")) args).isNone := by
  unfold argumentsValidation
  simp only []
  cases argumentsMismatch (entry.get (text "input_schema")) args with
  | none =>
    simp only []
    rw [get_literal, member_cons_self]
    rfl
  | some mismatch =>
    simp only []
    rw [get_literal, member_cons_self]
    rfl

theorem readRequest_eq_ok
    (package : validateContextPackage platform (body.get (text "context_package")) = .ok ())
    (valid : registry.all validateBrokerRegistryEntry = true) (intended : IntendsTool body n)
    : readRequest platform error registry body = .ok evaluation
      ↔ isReference body = true ∧ isReference (body.get (text "tool_intent")) = true
          ∧ ((body.get (text "tool_intent")).get (text "executed")).isTrue = false
          ∧ (argumentsOf (body.get (text "tool_intent"))).isObject = true
          ∧ evaluateToolIntentDecision (body.get (text "context_package"))
              (body.get (text "tool_intent")) registry n = evaluation := by
  unfold readRequest
  unfold IntendsTool at intended
  simp only [package, valid, intended]
  cases isReference body
  · refine iff_of_false (fun said => ?_) (fun told => absurd told.1 Bool.false_ne_true)
    cases said
  cases isReference (body.get (text "tool_intent"))
  · refine iff_of_false (fun said => ?_) (fun told => absurd told.2.1 Bool.false_ne_true)
    cases said
  cases ((body.get (text "tool_intent")).get (text "executed")).isTrue
  · cases (argumentsOf (body.get (text "tool_intent"))).isObject
    · refine iff_of_false (fun said => ?_) (fun told => absurd told.2.2.2.1 Bool.false_ne_true)
      cases said
    · exact ⟨fun said => ⟨rfl, rfl, rfl, rfl, Except.ok.inj said⟩,
        fun told => congrArg Except.ok told.2.2.2.2⟩
  · refine iff_of_false (fun said => ?_) (fun told => absurd told.2.2.1.symm Bool.false_ne_true)
    cases said

theorem isReference_of_intendsTool (intended : IntendsTool body n) : isReference body = true := by
  cases body with
  | object proto properties => rfl
  | array slots => rfl
  | _ => cases intended

theorem not_allow_of_unregistered
    (package : validateContextPackage platform (body.get (text "context_package")) = .ok ())
    (valid : registry.all validateBrokerRegistryEntry = true) (intended : IntendsTool body n)
    (absent : findEntry registry (.string n) = none)
    (judged : readRequest platform error registry body = .ok evaluation)
    : evaluation.verdict.decision ≠ .allow := by
  obtain ⟨_, _, _, _, rfl⟩ := (readRequest_eq_ok package valid intended).mp judged
  unfold evaluateToolIntentDecision
  simp only [absent]
  exact fun never => Decision.noConfusion never

theorem allow_iff
    (package : validateContextPackage platform (body.get (text "context_package")) = .ok ())
    (valid : registry.all validateBrokerRegistryEntry = true) (intended : IntendsTool body n)
    (found : findEntry registry (.string n) = some entry)
    : (∃ evaluation, readRequest platform error registry body = .ok evaluation
          ∧ evaluation.verdict.decision = .allow)
      ↔ isGranted entry (body.get (text "context_package")) (body.get (text "tool_intent")) n
          = true := by
  have verdict
      : (evaluateToolIntentDecision (body.get (text "context_package"))
            (body.get (text "tool_intent")) registry n).verdict.decision = .allow
        ↔ isAutomaticRead entry = true
          ∧ offersTool (body.get (text "context_package")) n = true
          ∧ (argumentsMismatch (entry.get (text "input_schema"))
              (argumentsOf (body.get (text "tool_intent")))).isNone = true := by
    unfold evaluateToolIntentDecision
    simp only [found]
    rw [brokerDecisionFor_allow_iff, argumentsValidation_isTrue]
  unfold isGranted
  simp only [and_eq_true, not_eq_true']
  constructor
  · rintro ⟨evaluation, judged, allowed⟩
    obtain ⟨_, reference, fresh, plain, rfl⟩ := (readRequest_eq_ok package valid intended).mp judged
    obtain ⟨reads, offered, fits⟩ := verdict.mp allowed
    exact ⟨⟨⟨⟨⟨reference, fresh⟩, plain⟩, reads⟩, offered⟩, fits⟩
  · rintro ⟨⟨⟨⟨⟨reference, fresh⟩, plain⟩, reads⟩, offered⟩, fits⟩
    refine ⟨_, (readRequest_eq_ok package valid intended).mpr ?_, verdict.mpr ⟨reads, offered, fits⟩⟩
    exact ⟨isReference_of_intendsTool intended, reference, fresh, plain, rfl⟩

theorem allow_of_invoked {execution : Execution}
    (executed : executeToolIntentFromBody platform deps registry body = .ok execution)
    (invoked : execution.invoked ≠ [])
    : ∃ evaluation,
        readRequest platform "invalid_tool_execution_request" registry body = .ok evaluation
        ∧ evaluation.verdict.decision = .allow := by
  unfold executeToolIntentFromBody at executed
  obtain ⟨evaluation, judged, rest⟩ := bind_eq_ok.mp executed
  refine ⟨evaluation, judged, ?_⟩
  cases denial : executionDenial platform deps registry body evaluation with
  | some answer =>
    simp only [denial] at rest
    cases rest
    exact absurd rfl invoked
  | none =>
    unfold executionDenial at denial
    cases decided : evaluation.verdict.decision with
    | allow => rfl
    | deny =>
      simp only [decided] at denial
      cases denial
    | requireAuthorization =>
      simp only [decided] at denial
      cases denial

theorem ne_nil_of_isUsableName (usable : isUsableName n = true) : n ≠ [] := by
  rintro rfl
  cases usable

theorem ne_nil_of_findEntry (valid : registry.all validateBrokerRegistryEntry = true)
    (found : findEntry registry (.string n) = some entry)
    : n ≠ [] := by
  rintro rfl
  have fine := all_eq_true.mp valid entry (mem_of_find?_eq_some found)
  have hit : (entry.get (text "tool_id")).strictEquals (.string []) = true :=
    find?_some (p := fun item : Value => (item.get (text "tool_id")).strictEquals (.string []))
      found
  have named := strictEquals_string_iff.mp hit
  unfold validateBrokerRegistryEntry at fine
  rw [named] at fine
  simp [isNonEmpty] at fine

theorem not_allow_of_ineligible {contract : Contract}
    (package : validateContextPackage platform (body.get (text "context_package")) = .ok ())
    (valid : registry.all validateBrokerRegistryEntry = true)
    (alike : joinsAlike platform catalog registry body n = true)
    (gives : IsContractOf platform catalog registry n contract)
    (ineligible : contract.classificationStatus ≠ .classified ∨ contract.brokerEligible = false)
    (intended : IntendsTool body n)
    (judged : readRequest platform error registry body = .ok evaluation)
    : evaluation.verdict.decision ≠ .allow := by
  obtain ⟨toolDef, usable, defined, classified⟩ := of_isContractOf gives
  have named := name_of_findDefinition defined
  cases found : findEntry registry (.string n) with
  | none => exact not_allow_of_unregistered package valid intended found judged
  | some entry =>
    intro allowed
    have granted := (allow_iff package valid intended found).mp ⟨evaluation, judged, allowed⟩
    cases agrees : schemasAgree platform toolDef entry with
    | true =>
      have told := classifyTool_of_agreement named found agrees
      rw [← classified] at told
      rcases ineligible with unclassified | closed
      · exact unclassified told.1
      · have unavailable : isAvailable entry = false := told.2.2.2.1.symm.trans closed
        unfold isGranted isAutomaticRead at granted
        rw [unavailable] at granted
        simp at granted
    | false =>
      unfold joinsAlike at alike
      simp only [defined, found, usable, agrees, if_true, Bool.false_or, granted,
        Bool.and_true] at alike
      rw [show nonEmptyString ((body.get (text "tool_intent")).get (text "tool_id")) = some n
        from intended] at alike
      simp at alike

/-- Where catalogue and registry are joined alike, hydration and discovery agree. -/
theorem hydrates_of_joinsAlike {schemaHash : Text}
    (alike : joinsAlike platform catalog registry body n = true)
    : (∃ hydrated,
          hydrateSelectedContract platform.sha256Text catalog registry
              (.literal [(text "id", .string n)])
            = .ok hydrated
          ∧ hydrated.schemaHash = schemaHash)
      ↔ ∃ contract, IsContractOf platform catalog registry n contract
          ∧ contract.classificationStatus = .classified
          ∧ contract.riskClass = .string (text "read")
          ∧ contract.authorization = .string (text "automatic")
          ∧ contract.brokerEligible = true ∧ contract.schemaHash = schemaHash := by
  rw [hydrated_iff]
  constructor
  · rintro ⟨_, toolDef, entry, defined, found, agrees, reads, hash⟩
    have usable : isUsableName n = true := by
      cases usable : isUsableName n with
      | true => rfl
      | false =>
        unfold joinsAlike at alike
        simp [defined, found, usable, agrees, reads] at alike
    obtain ⟨contract, gives, classified⟩
      : ∃ contract, IsContractOf platform catalog registry n contract
          ∧ contract.toClassification = classifyTool platform.sha256Text toolDef registry :=
      exists_contract usable defined
    have told := classifyTool_of_agreement (name_of_findDefinition defined) found agrees
    rw [← classified] at told
    unfold isAutomaticRead at reads
    simp only [and_eq_true] at reads
    have risk := strictEquals_string_iff.mp reads.1.1
    have automatic := strictEquals_string_iff.mp reads.1.2
    exact ⟨contract, gives, told.1, told.2.1.trans risk, told.2.2.1.trans automatic,
      told.2.2.2.1.trans reads.2, told.2.2.2.2.trans hash⟩
  · rintro ⟨contract, gives, status, risk, automatic, eligible, hash⟩
    obtain ⟨toolDef, usable, defined, classified⟩ := of_isContractOf gives
    have named := name_of_findDefinition defined
    refine ⟨ne_nil_of_isUsableName usable, toolDef, ?_⟩
    cases found : findEntry registry (.string n) with
    | none =>
      have told
          : (classifyTool platform.sha256Text toolDef registry).classificationStatus
            = .unclassified :=
        (classifyTool_of_none named found).1
      rw [← classified, status] at told
      exact absurd told ClassificationStatus.noConfusion
    | some entry =>
      cases agrees : schemasAgree platform toolDef entry with
      | false =>
        have told := classifyTool_of_disagreement named found agrees
        rw [← classified, status] at told
        exact absurd told.1 ClassificationStatus.noConfusion
      | true =>
        have told := classifyTool_of_agreement named found agrees
        rw [← classified] at told
        refine ⟨entry, defined, rfl, agrees, ?_, told.2.2.2.2.symm.trans hash⟩
        unfold isAutomaticRead isRead isAutomatic
        rw [← told.2.1, ← told.2.2.1, ← told.2.2.2.1, risk, automatic, eligible]
        decide +kernel

/-- A request on which discovery, hydration and execution agree is joined alike. -/
theorem joinsAlike_of_agreesOn
    (package : validateContextPackage platform (body.get (text "context_package")) = .ok ())
    (valid : registry.all validateBrokerRegistryEntry = true)
    (agree : AgreesOn platform deps catalog registry body n)
    : joinsAlike platform catalog registry body n = true := by
  unfold joinsAlike
  extract_lets pkg intent
  cases defined : findDefinition catalog n with
  | none => rfl
  | some toolDef =>
    cases found : findEntry registry (.string n) with
    | none => rfl
    | some entry =>
      simp only []
      cases usable : isUsableName n with
      | true =>
        rw [if_pos rfl]
        cases agrees : schemasAgree platform toolDef entry with
        | true => rfl
        | false =>
          rw [Bool.false_or, not_eq_true', ← not_eq_true]
          intro both
          obtain ⟨intends, granted⟩ := and_eq_true_iff.mp both
          have intended : IntendsTool body n := beq_iff_eq.mp intends
          obtain ⟨evaluation, judged, allowed⟩
            : ∃ evaluation,
                readRequest platform "invalid_tool_policy_request" registry body
                  = .ok evaluation
                ∧ evaluation.verdict.decision = .allow :=
            (allow_iff package valid intended found).mpr granted
          obtain ⟨contract, gives, classified⟩
            : ∃ contract, IsContractOf platform catalog registry n contract
                ∧ contract.toClassification
                  = classifyTool platform.sha256Text toolDef registry :=
            exists_contract usable defined
          have told :=
            classifyTool_of_disagreement (name_of_findDefinition defined) found agrees
          rw [← classified] at told
          have closed := agree.failsClosed contract gives (.inr told.2) intended
          exact closed.1 { evaluation, answer := previewAnswer platform body evaluation }
            (map_eq_ok.mpr ⟨evaluation, judged, rfl⟩) allowed
      | false =>
        rw [if_neg Bool.false_ne_true, not_eq_true', ← not_eq_true]
        intro both
        obtain ⟨agrees, reads⟩ := and_eq_true_iff.mp both
        have hydrates := (agree.hydrates _).mp
          (hydrated_iff.mpr ⟨ne_nil_of_findEntry valid found, toolDef, entry, defined, found,
            agrees, reads, rfl⟩)
        obtain ⟨contract, gives, _⟩ := hydrates
        obtain ⟨_, usable', _⟩ := of_isContractOf gives
        exact Bool.false_ne_true (usable.symm.trans usable')

/-- Discovery, hydration and execution agree on a tool, for a valid package and a valid registry,
exactly if catalogue and registry are joined alike on it.
-/
theorem agreesOn_iff
    (package : validateContextPackage platform (body.get (text "context_package")) = .ok ())
    (valid : registry.all validateBrokerRegistryEntry = true)
    : AgreesOn platform deps catalog registry body n
      ↔ joinsAlike platform catalog registry body n = true := by
  refine ⟨joinsAlike_of_agreesOn package valid,
    fun alike => ⟨?_, fun _ => hydrates_of_joinsAlike alike⟩⟩
  intro contract gives ineligible intended
  constructor
  · intro preview previewed
    obtain ⟨evaluation, judged, rfl⟩ := map_eq_ok.mp previewed
    exact not_allow_of_ineligible package valid alike gives ineligible intended judged
  · intro execution executed
    by_contra invoked
    obtain ⟨evaluation, judged, allowed⟩ := allow_of_invoked executed invoked
    exact not_allow_of_ineligible package valid alike gives ineligible intended judged allowed

namespace Sample

def zeros : Text := List.replicate 64 0x30

def host : Platform where
  sha256Text := id
  recomputePackageId := fun _ => some (text "sha256:" ++ zeros)
  now := text "2026-01-01T00:00:00.000Z"

def tools : Deps where
  toNumber := fun _ => .nan
  invokeTool := some (fun _ _ => .ok (.string (text "the board")))
  createStone := none

def schema (properties : List (Text × Value)) : Value :=
  .literal [(text "type", .string (text "object")), (text "properties", .literal properties)]

/-- A catalogue of one tool, with the schema. -/
def listed (inputSchema : Value) : List Value :=
  [.literal [(text "name", .string (text "read_board")), (text "inputSchema", inputSchema)]]

/-- A registry of one automatic read, with the schema. -/
def registered (inputSchema : Value) : List Value :=
  [.literal
    [(text "tool_id", .string (text "read_board")), (text "connector", .string (text "cairnstone")),
      (text "handler", .string (text "readBoard")), (text "risk_class", .string (text "read")),
      (text "authorization", .string (text "automatic")), (text "available", .bool true),
      (text "input_schema", inputSchema)]]

def contextPackage : Value :=
  .literal
    [(text "schema", .string (text "cairnstone-agent-context-v1")), (text "ok", .bool true),
      (text "package_id", .string (text "sha256:" ++ zeros)),
      (text "policy",
        .literal
          [(text "accepted_state_only_for_authority", .bool true),
            (text "mutable_branch_is_authority", .bool false),
            (text "execution_authority", .bool false), (text "mutation_authority", .bool false),
            (text "provider_credentials_in_package", .bool false)]),
      (text "capabilities",
        .literal [(text "available_tools", textList [text "read_board"])])]

/-- The intent to read the board. -/
def request : Value :=
  .literal
    [(text "context_package", contextPackage),
      (text "tool_intent",
        .literal [(text "tool_id", .string (text "read_board")), (text "arguments", .literal [])])]

/-- The schema of the definition names the board; that of the entry is the former one. -/
def current : Value := schema [(text "board", .literal [(text "type", .string (text "string"))])]

def former : Value := schema []

/-- What the execution invoked. -/
def invoked (inputSchema : Value) : Nat :=
  match executeToolIntentFromBody host tools (registered inputSchema) request with
  | .ok execution => execution.invoked.length
  | .error _ => 0

/-- How the tool is reported. -/
def reported (inputSchema : Value) : Option ClassificationStatus :=
  match toolContractFromBody host.sha256Text (listed current) (registered inputSchema)
    (.literal [(text "name", .string (text "read_board"))]) with
  | .ok contract => some contract.classificationStatus
  | .error _ => none

def isValidPackage : Bool :=
  match validateContextPackage host contextPackage with
  | .ok _ => true
  | .error _ => false

theorem validPackage
    : validateContextPackage host (request.get (text "context_package")) = .ok () := by
  have valid : isValidPackage = true := by decide +kernel
  have same : request.get (text "context_package") = contextPackage := by
    unfold request
    rw [get_literal, member_cons_self]
  rw [same]
  unfold isValidPackage at valid
  cases fine : validateContextPackage host contextPackage with
  | ok done => rfl
  | error why =>
    rw [fine] at valid
    cases valid

end Sample

open Sample in
/-- On a tool whose entry has its schema, the three agree. -/
theorem agreesOn_sample
    : joinsAlike host (listed current) (registered current) request (text "read_board") = true
      ∧ AgreesOn host tools (listed current) (registered current) request (text "read_board") := by
  have alike
      : joinsAlike host (listed current) (registered current) request (text "read_board")
        = true := by
    decide +kernel
  have valid : (registered current).all validateBrokerRegistryEntry = true := by decide +kernel
  exact ⟨alike, (agreesOn_iff validPackage valid).mpr alike⟩

open Sample in
/-- A tool whose entry has a former schema is reported as disagreeing, and it is executed. -/
theorem disagreementIsExecuted
    : (registered former).all validateBrokerRegistryEntry = true
      ∧ validateContextPackage host (request.get (text "context_package")) = .ok ()
      ∧ reported former = some .schemaDisagreement ∧ invoked former = 1
      ∧ ¬ AgreesOn host tools (listed current) (registered former) request (text "read_board") := by
  have valid : (registered former).all validateBrokerRegistryEntry = true := by decide +kernel
  have status : reported former = some .schemaDisagreement := by decide +kernel
  have executed : invoked former = 1 := by decide +kernel
  have apart
      : joinsAlike host (listed current) (registered former) request (text "read_board")
        = false := by
    decide +kernel
  refine ⟨valid, validPackage, status, executed, fun agree => ?_⟩
  exact Bool.false_ne_true (apart.symm.trans (joinsAlike_of_agreesOn validPackage valid agree))

end CairnStone.ToolBroker
