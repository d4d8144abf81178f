import Mathlib.Data.List.Find
import CairnStone.Gateway.CallerIdentity
import CairnStone.JavaScript.Members

/-! The dispatch of a tool call: what it comes to before its handler, and the calls that handlers make in
turn. A nested call has its context from the environment, where only a part of it is carried: the home
workspace and the home code session are left out, so a nested call that selects one of them is denied.
-/

namespace CairnStone.Gateway

open JavaScript TaskRuns ToolBroker List Option Value

/-- The environment of a call: `AC1_REALM_GUARD`, and `CORE_AUTH_CONTEXT` once it is set. -/
structure Env where
  (realmGuard coreAuthContext : Value)

def Env.ofBindings (realmGuard : Value) : Env :=
  { realmGuard, coreAuthContext := .undefined }

/-- What a call comes to before its handler: a denial, or what the handler is given. -/
inductive Gate where
  | denied (answer : Value)
  | passed (args : Value) (env : Env)

/-- The denial, or the arguments that the handler is given. -/
def Gate.decision : Gate → Except Value Value
  | .denied answer => .error answer
  | .passed args _ => .ok args

def projectContext (context : Value) : Value :=
  let field (key : String) : Text × Value := (text key, context.get (text key))
  .literal
    [field "account_id", field "tenant_id", field "connection_id", field "principal_id",
      field "token_family_id", field "authz_version", field "client_family", field "resource",
      field "scopes", field "authenticator_assurance"]

def Denial.answer (denial : Denial) (authContext : Value) : Value :=
  .literal
    [(text "ok", .bool false), (text "error", .string denial.error),
      (text "field", .string denial.field), (text "status", countValue 403),
      (text "hint", .string denial.hint),
      (text "auth_context_principal_id", authContext.get (text "principal_id"))]

variable (toLowerCase : Text → Text)

/-- `callMcpTool(name, args, env, { authContext })`, up to the handler -/
def callMcpTool (name : Text) (args : Value) (env : Env) (authContext : Value) : Gate :=
  match applyRealmGuard toLowerCase name args env.realmGuard authContext with
  | some answer => .denied answer
  | none =>
    if !authContext.truthy then .passed args env
    else
      match assertCallerIdentity args authContext with
      | some denial => .denied (denial.answer authContext)
      | none =>
        match assertResourceSelectors args authContext name with
        | some denial => .denied (denial.answer authContext)
        | none =>
          .passed (injectServerDerivedCaller args authContext)
            { env with coreAuthContext := projectContext authContext }

/-- The nested call of `cairnstone_tool_execute`, which was called with the context -/
def executeInvokeTool (authContext : Value) (handlerName : Text) (handlerArgs : Value)
    (handlerEnv : Env)
    : Gate :=
  callMcpTool toLowerCase handlerName handlerArgs handlerEnv
    (if handlerEnv.coreAuthContext.truthy then projectContext handlerEnv.coreAuthContext
    else authContext)

/-- The nested call of the read executor of `cairnstone_delegate`, which was called with the context -/
def delegateInvokeTool (authContext : Value) (env : Env) (handlerName : Text) (handlerArgs : Value)
    (handlerEnv : Env)
    : Gate :=
  callMcpTool toLowerCase handlerName handlerArgs handlerEnv
    (if handlerEnv.coreAuthContext.truthy then handlerEnv.coreAuthContext
    else env.coreAuthContext.or authContext)

/-- The context with which `cairnstone_run_task_request` calls `cairnstone_delegate` -/
def taskRequestContext (authContext : Value) (env : Env) : Value :=
  env.coreAuthContext.or authContext

/-- The call is decided alike if it is made directly and if it is nested in a call, with the same context,
that executes an intent, delegates, or runs a task request that delegates.
-/
structure DecidedAlike (setting authContext : Value) (name : Text) (args : Value) : Prop where
  byExecute
    : ∀ outer args' env,
        callMcpTool toLowerCase (text "cairnstone_tool_execute") outer (.ofBindings setting)
            authContext
          = .passed args' env
        → (executeInvokeTool toLowerCase authContext name args env).decision
          = (callMcpTool toLowerCase name args (.ofBindings setting) authContext).decision
  byDelegate
    : ∀ outer args' env,
        callMcpTool toLowerCase (text "cairnstone_delegate") outer (.ofBindings setting) authContext
          = .passed args' env
        → (delegateInvokeTool toLowerCase authContext env name args env).decision
          = (callMcpTool toLowerCase name args (.ofBindings setting) authContext).decision
  byTaskRequest
    : ∀ outer args' env delegated args'' env',
        callMcpTool toLowerCase (text "cairnstone_run_task_request") outer (.ofBindings setting)
            authContext
          = .passed args' env
        → callMcpTool toLowerCase (text "cairnstone_delegate") delegated env
            (taskRequestContext authContext env)
          = .passed args'' env'
        → (delegateInvokeTool toLowerCase (taskRequestContext authContext env) env' name args
              env').decision
          = (callMcpTool toLowerCase name args (.ofBindings setting) authContext).decision

/-- The caller's identity is denied, or neither the home workspace nor, without a workspace, the home code
session is selected.
-/
def selectsNoHome (authContext args : Value) : Bool :=
  (assertCallerIdentity args authContext).isSome
  || (!((selectedWorkspace args).isSome && !isForeignWorkspace args authContext)
    && ((selectedWorkspace args).isSome
      || !((selectedSession args).isSome && !isForeignSession args authContext)))

variable {toLowerCase} {setting authContext args : Value} {name : Text}

def CARRIED_FIELDS : List Text :=
  [text "account_id", text "tenant_id", text "connection_id", text "principal_id",
    text "token_family_id", text "authz_version", text "client_family", text "resource",
    text "scopes", text "authenticator_assurance"]

theorem get_projectContext {key : Text}
    : (projectContext authContext).get key
      = if key ∈ CARRIED_FIELDS then authContext.get key else .undefined := by
  have carried (keys : List Text)
      : member (keys.map (fun known => (known, authContext.get known))) key
        = if key ∈ keys then authContext.get key else .undefined := by
    induction keys with
    | nil => rfl
    | cons first rest ih =>
      rw [map_cons]
      by_cases same : first = key
      · subst same
        rw [member_cons_self, if_pos mem_cons_self]
      · rw [member_cons_of_ne same, ih]
        by_cases later : key ∈ rest
        · rw [if_pos later, if_pos (mem_cons_of_mem _ later)]
        · rw [if_neg later, if_neg (fun mem => by
            rcases mem_cons.mp mem with first | other
            · exact same first.symm
            · exact later other)]
  exact carried CARRIED_FIELDS

theorem projectContext_projectContext
    : projectContext (projectContext authContext) = projectContext authContext := by
  have kept (key : String) (carried : text key ∈ CARRIED_FIELDS)
      : (projectContext authContext).get (text key) = authContext.get (text key) := by
    rw [get_projectContext, if_pos carried]
  show projectContext _ = _
  unfold projectContext at kept ⊢
  simp only [] at kept ⊢
  rw [kept "account_id" (by decide), kept "tenant_id" (by decide), kept "connection_id" (by decide),
    kept "principal_id" (by decide), kept "token_family_id" (by decide),
    kept "authz_version" (by decide), kept "client_family" (by decide), kept "resource" (by decide),
    kept "scopes" (by decide), kept "authenticator_assurance" (by decide)]

theorem truthy_projectContext : (projectContext authContext).truthy = true := rfl

/-- The identity is checked alike. -/
theorem assertCallerIdentity_projectContext (context : authContext.truthy = true)
    : assertCallerIdentity args (projectContext authContext)
      = assertCallerIdentity args authContext := by
  have kept (field : Text) (carried : field ∈ CARRIED_FIELDS)
      : (projectContext authContext).get field = authContext.get field := by
    rw [get_projectContext, if_pos carried]
  have strict : ∀ field ∈ STRICT_CALLER_IDENTITY_FIELDS, field ∈ CARRIED_FIELDS := by decide
  have mismatched
      : STRICT_CALLER_IDENTITY_FIELDS.find? (fun field =>
          (presented? args field).any (fun presented =>
            !((projectContext authContext).get field).strictEquals (.string presented)))
        = STRICT_CALLER_IDENTITY_FIELDS.find? (fun field =>
          (presented? args field).any (fun presented =>
            !(authContext.get field).strictEquals (.string presented))) := by
    apply find?_congr
    intro field mem
    rw [kept field (strict field mem)]
  unfold assertCallerIdentity
  simp only [mismatched, kept (text "principal_id") (by decide), truthy_projectContext, context]

theorem isVisible_projectContext {home visible : String} {s : Text}
    (homeDropped : text home ∉ CARRIED_FIELDS) (visibleDropped : text visible ∉ CARRIED_FIELDS)
    : isVisible (projectContext authContext) home visible s = false := by
  unfold isVisible
  rw [get_projectContext, get_projectContext, if_neg homeDropped, if_neg visibleDropped]
  rfl

theorem isForeignWorkspace_projectContext
    : isForeignWorkspace args (projectContext authContext) = (selectedWorkspace args).isSome := by
  unfold isForeignWorkspace
  cases selectedWorkspace args with
  | none => rfl
  | some s =>
    rw [any_some, isVisible_projectContext (by decide) (by decide)]
    rfl

theorem isForeignSession_projectContext
    : isForeignSession args (projectContext authContext) = (selectedSession args).isSome := by
  unfold isForeignSession
  cases selectedSession args with
  | none => rfl
  | some s =>
    rw [any_some, isVisible_projectContext (by decide) (by decide)]
    rfl

/-- What is filled in is the same. -/
theorem injectServerDerivedCaller_projectContext (context : authContext.truthy = true)
    : injectServerDerivedCaller args (projectContext authContext)
      = injectServerDerivedCaller args authContext := by
  have principal
      : (projectContext authContext).get (text "principal_id")
        = authContext.get (text "principal_id") := by
    rw [get_projectContext, if_pos (by decide)]
  unfold injectServerDerivedCaller
  rw [truthy_projectContext, context, principal]

theorem answer_projectContext {denial : Denial}
    : denial.answer (projectContext authContext) = denial.answer authContext := by
  unfold Denial.answer
  rw [get_projectContext, if_pos (by decide)]

theorem error_of_answer_eq {denial other : Denial}
    (same : denial.answer authContext = other.answer authContext)
    : denial.error = other.error := by
  have told := congrArg (fun answer : Value => answer.get (text "error")) same
  unfold Denial.answer at told
  simp only [get_literal] at told
  rw [member_cons_of_ne (by decide), member_cons_self,
    member_cons_of_ne (by decide), member_cons_self] at told
  exact string.inj told

def outcome (authContext args : Value) : Option Denial → Except Value Value
  | some denial => .error (denial.answer authContext)
  | none => .ok (injectServerDerivedCaller args authContext)

def decisionOn (name : Text) (args authContext : Value) : Except Value Value :=
  outcome authContext args
    ((assertCallerIdentity args authContext).or (assertResourceSelectors args authContext name))

theorem decision_callMcpTool {env : Env} (context : authContext.truthy = true)
    : (callMcpTool toLowerCase name args env authContext).decision
      = decisionOn name args authContext := by
  unfold callMcpTool decisionOn applyRealmGuard
  simp only [context, if_true, Bool.not_true, Bool.false_eq_true, if_false]
  cases assertCallerIdentity args authContext with
  | some denial => rfl
  | none =>
    cases assertResourceSelectors args authContext name with
    | some denial => rfl
    | none => rfl

theorem outcome_projectContext {denial : Option Denial} (context : authContext.truthy = true)
    : outcome (projectContext authContext) args denial = outcome authContext args denial := by
  cases denial with
  | some denial => exact congrArg Except.error answer_projectContext
  | none => exact congrArg Except.ok (injectServerDerivedCaller_projectContext context)

theorem error_of_outcome_eq {denial denial' : Option Denial}
    (same : outcome authContext args denial = outcome authContext args denial')
    : denial.map (·.error) = denial'.map (·.error) := by
  cases denial with
  | some denial =>
    cases denial' with
    | some denial' => exact congrArg some (error_of_answer_eq (Except.error.inj same))
    | none => cases same
  | none =>
    cases denial' with
    | some denial' => cases same
    | none => rfl

theorem context_of_passed {env env' : Env} {args' : Value} (context : authContext.truthy = true)
    (passed : callMcpTool toLowerCase name args env authContext = .passed args' env')
    : env'.coreAuthContext = projectContext authContext := by
  unfold callMcpTool at passed
  cases safe : applyRealmGuard toLowerCase name args env.realmGuard authContext with
  | some answer =>
    rw [safe] at passed
    cases passed
  | none =>
    simp only [safe, context, Bool.not_true, Bool.false_eq_true, if_false] at passed
    cases identity : assertCallerIdentity args authContext with
    | some denial =>
      rw [identity] at passed
      cases passed
    | none =>
      simp only [identity] at passed
      cases resources : assertResourceSelectors args authContext name with
      | some denial =>
        rw [resources] at passed
        cases passed
      | none =>
        simp only [resources] at passed
        rw [← (Gate.passed.inj passed).2]

theorem get_of_not_isObject {key : Text} (plain : args.isObject = false)
    : args.get key = .undefined := by
  cases args with
  | object proto properties => cases plain
  | _ => rfl

theorem selectedWorkspace_of_not_isObject (plain : args.isObject = false)
    : selectedWorkspace args = none := by
  unfold selectedWorkspace
  rw [get_of_not_isObject plain]
  rfl

theorem selectedSession_of_not_isObject (plain : args.isObject = false)
    : selectedSession args = none := by
  unfold selectedSession
  rw [get_of_not_isObject plain, get_of_not_isObject plain]
  rfl

theorem error_assertResourceSelectors (context : authContext.truthy = true)
    (plain : args.isObject = true)
    : (assertResourceSelectors args authContext name).map (·.error)
      = if isForeignWorkspace args authContext then some (text "workspace_idor_denied")
        else if isForeignSession args authContext then some (text "code_session_idor_denied")
        else if claimsInvite args name then some (text "invite_confused_deputy")
        else none := by
  unfold assertResourceSelectors
  rw [context, plain]
  cases isForeignWorkspace args authContext
  · cases isForeignSession args authContext
    · cases claimsInvite args name <;> rfl
    · rfl
  · rfl

/-- Where the same selector fails first for two contexts, so does the check. -/
theorem assertResourceSelectors_congr {authContext' : Value} (context : authContext.truthy = true)
    (context' : authContext'.truthy = true)
    (workspace : isForeignWorkspace args authContext = isForeignWorkspace args authContext')
    (session
      : isForeignWorkspace args authContext' = true
        ∨ isForeignSession args authContext = isForeignSession args authContext')
    : assertResourceSelectors args authContext name
      = assertResourceSelectors args authContext' name := by
  unfold assertResourceSelectors
  rw [context, context', workspace]
  rcases session with foreign | same
  · rw [foreign]
    rfl
  · rw [same]

/-- The resources are checked alike by a carried context exactly if no home is selected. -/
theorem outcome_resources_iff (context : authContext.truthy = true)
    : outcome authContext args (assertResourceSelectors args (projectContext authContext) name)
        = outcome authContext args (assertResourceSelectors args authContext name)
      ↔ (!((selectedWorkspace args).isSome && !isForeignWorkspace args authContext)
          && ((selectedWorkspace args).isSome
            || !((selectedSession args).isSome && !isForeignSession args authContext)))
        = true := by
  have carried : (projectContext authContext).truthy = true := truthy_projectContext
  cases plain : args.isObject with
  | false =>
    refine iff_of_true ?_ ?_
    · unfold assertResourceSelectors
      rw [plain, Bool.not_false, Bool.or_true, Bool.or_true]
      rfl
    · rw [selectedWorkspace_of_not_isObject plain, selectedSession_of_not_isObject plain]
      rfl
  | true =>
    have projected
        : (assertResourceSelectors args (projectContext authContext) name).map (·.error) = _ :=
      error_assertResourceSelectors carried plain
    have direct : (assertResourceSelectors args authContext name).map (·.error) = _ :=
      error_assertResourceSelectors context plain
    rw [isForeignWorkspace_projectContext, isForeignSession_projectContext] at projected
    cases workspace : selectedWorkspace args with
    | some w =>
      rw [workspace] at projected
      cases foreign : isForeignWorkspace args authContext with
      | true =>
        refine iff_of_true (congrArg _ ?_) rfl
        refine assertResourceSelectors_congr carried context ?_ (.inl foreign)
        rw [isForeignWorkspace_projectContext, workspace, foreign]
        rfl
      | false =>
        refine iff_of_false (fun same => ?_) Bool.false_ne_true
        -- the nested call is denied for its workspace, the direct one is not
        have told := error_of_outcome_eq same
        rw [projected, direct, foreign, isSome_some, if_pos rfl,
          if_neg Bool.false_ne_true] at told
        revert told
        cases isForeignSession args authContext <;> cases claimsInvite args name <;> decide
    | none =>
      have home : isForeignWorkspace args authContext = false := by
        unfold isForeignWorkspace
        rw [workspace]
        rfl
      rw [workspace] at projected
      have alike
          : isForeignWorkspace args (projectContext authContext)
            = isForeignWorkspace args authContext := by
        rw [isForeignWorkspace_projectContext, workspace, home]
        rfl
      cases session : selectedSession args with
      | none =>
        refine iff_of_true (congrArg _ ?_) rfl
        refine assertResourceSelectors_congr carried context alike (.inr ?_)
        unfold isForeignSession
        rw [session]
        rfl
      | some s =>
        rw [session] at projected
        cases foreign : isForeignSession args authContext with
        | true =>
          refine iff_of_true (congrArg _ ?_) rfl
          refine assertResourceSelectors_congr carried context alike (.inr ?_)
          rw [isForeignSession_projectContext, session, foreign]
          rfl
        | false =>
          refine iff_of_false (fun same => ?_) Bool.false_ne_true
          have told := error_of_outcome_eq same
          rw [projected, direct, home, foreign, isSome_none, isSome_some,
            if_neg Bool.false_ne_true, if_pos rfl, if_neg Bool.false_ne_true,
            if_neg Bool.false_ne_true] at told
          revert told
          cases claimsInvite args name <;> decide

/-- A carried context decides alike exactly if no home is selected. -/
theorem decisionOn_projectContext_iff (context : authContext.truthy = true)
    : decisionOn name args (projectContext authContext) = decisionOn name args authContext
      ↔ selectsNoHome authContext args = true := by
  unfold decisionOn selectsNoHome
  rw [assertCallerIdentity_projectContext context, outcome_projectContext context]
  cases identity : assertCallerIdentity args authContext with
  | some denial => exact iff_of_true rfl rfl
  | none => exact outcome_resources_iff context

theorem truthy_buildAuthContext {rows : TokenRows} : (buildAuthContext rows).truthy = true := rfl

theorem passed_of_empty {tool : Text} (context : authContext.truthy = true)
    (harmless : (tool == text "cairnstone_workspace_invite_claim") = false)
    (env : Env)
    : ∃ args', callMcpTool toLowerCase tool (.literal []) env authContext
        = .passed args' { env with coreAuthContext := projectContext authContext } := by
  have silent (field : Text) : presented? (.literal []) field = none := rfl
  have identity : assertCallerIdentity (.literal []) authContext = none := by
    have nobody (expected : Text → Value) (fields : List Text)
        : fields.find? (fun field =>
            (presented? (.literal []) field).any (fun presented =>
              !(expected field).strictEquals (.string presented)))
          = none :=
      find?_eq_none.mpr (fun field _ => by
        rw [silent field]
        exact Bool.false_ne_true)
    unfold assertCallerIdentity
    simp only [nobody (fun field => authContext.get field),
      nobody (fun _ => authContext.get (text "principal_id")), context]
    rfl
  have unclaimed : claimsInvite (.literal []) tool = false := by
    unfold claimsInvite
    rw [harmless]
    rfl
  have resources : assertResourceSelectors (.literal []) authContext tool = none := by
    have workspace : isForeignWorkspace (.literal []) authContext = false := rfl
    have session : isForeignSession (.literal []) authContext = false := rfl
    unfold assertResourceSelectors
    rw [context, workspace, session, unclaimed]
    rfl
  refine ⟨injectServerDerivedCaller (.literal []) authContext, ?_⟩
  unfold callMcpTool applyRealmGuard
  simp only [context, if_true, Bool.not_true, Bool.false_eq_true, if_false, identity, resources]

theorem decidedAlike_iff_selectsNoHome (context : authContext.truthy = true)
    : DecidedAlike toLowerCase setting authContext name args
      ↔ selectsNoHome authContext args = true := by
  have direct
      : (callMcpTool toLowerCase name args (.ofBindings setting) authContext).decision
        = decisionOn name args authContext :=
    decision_callMcpTool context
  have carried
      : decisionOn name args (projectContext authContext) = decisionOn name args authContext
        ↔ selectsNoHome authContext args = true :=
    decisionOn_projectContext_iff context
  rw [← carried]
  constructor
  · intro alike
    obtain ⟨args', passed⟩
      : ∃ args', callMcpTool toLowerCase (text "cairnstone_delegate") (.literal [])
          (.ofBindings setting) authContext
        = .passed args'
            { Env.ofBindings setting with coreAuthContext := projectContext authContext } :=
      passed_of_empty context (by decide) _
    have told := alike.byDelegate _ _ _ passed
    rw [direct] at told
    rw [← told]
    exact (decision_callMcpTool truthy_projectContext).symm
  · intro same
    refine ⟨?_, ?_, ?_⟩
    · intro outer args' env passed
      have carried := context_of_passed context passed
      unfold executeInvokeTool
      rw [carried, truthy_projectContext, if_pos rfl, projectContext_projectContext,
        decision_callMcpTool truthy_projectContext, direct]
      exact same
    · intro outer args' env passed
      have carried := context_of_passed context passed
      unfold delegateInvokeTool
      rw [carried, truthy_projectContext, if_pos rfl, decision_callMcpTool truthy_projectContext,
        direct]
      exact same
    · intro outer args' env delegated args'' env' passed nested
      have carried := context_of_passed context passed
      have handed : taskRequestContext authContext env = projectContext authContext := by
        unfold taskRequestContext
        rw [carried]
        rfl
      rw [handed] at nested ⊢
      have carried' := context_of_passed truthy_projectContext nested
      rw [projectContext_projectContext] at carried'
      unfold delegateInvokeTool
      rw [carried', truthy_projectContext, if_pos rfl, decision_callMcpTool truthy_projectContext,
        direct]
      exact same

/-- A call without a context that passes changes nothing. -/
theorem env_of_passed {env env' : Env} {args' : Value}
    (passed : callMcpTool toLowerCase name args env .null = .passed args' env')
    : env' = env := by
  unfold callMcpTool at passed
  cases safe : applyRealmGuard toLowerCase name args env.realmGuard .null with
  | some answer =>
    rw [safe] at passed
    cases passed
  | none =>
    rw [safe] at passed
    exact (Gate.passed.inj passed).2.symm

/-- Nested calls without a context are decided alike. -/
theorem decidedAlike_null : DecidedAlike toLowerCase setting .null name args := by
  refine ⟨?_, ?_, ?_⟩
  · intro outer args' env passed
    rw [env_of_passed passed]
    rfl
  · intro outer args' env passed
    rw [env_of_passed passed]
    rfl
  · intro outer args' env delegated args'' env' passed nested
    have handed : taskRequestContext .null env = .null := by
      rw [env_of_passed passed]
      rfl
    rw [handed] at nested ⊢
    rw [env_of_passed nested, env_of_passed passed]
    rfl

/-- For the context of any token, a call is decided alike directly and nested exactly if its arguments
select no home of the account; without a context it always is.
-/
theorem decidedAlike_iff (toLowerCase : Text → Text) (setting : Value) (rows : TokenRows)
    (name : Text) (args : Value)
    : (DecidedAlike toLowerCase setting (buildAuthContext rows) name args
        ↔ selectsNoHome (buildAuthContext rows) args = true)
      ∧ DecidedAlike toLowerCase setting .null name args :=
  ⟨decidedAlike_iff_selectsNoHome truthy_buildAuthContext, decidedAlike_null⟩

namespace Sample

/-- An account with a home workspace. -/
def rows : TokenRows where
  account :=
    .literal
      [(text "account_id", .string (text "acct_1")),
        (text "home_workspace_id", .string (text "ws:home"))]
  connection := .literal [(text "principal_id", .string (text "prin_1"))]
  tokenFamily := .literal []
  authenticator := .null
  scopes := .array []
  resource := .undefined

/-- Arguments that select it. -/
def arguments : Value := .literal [(text "workspace_id", .string (text "ws:home"))]

def reading : Text := text "cairnstone_workspace_ls"

/-- Whether the call passes directly, and whether it does within `cairnstone_tool_execute`. -/
def passes : Bool × Bool :=
  let context := buildAuthContext rows
  let isPassed (gate : Gate) : Bool :=
    match gate with
    | .passed _ _ => true
    | .denied _ => false
  (isPassed (callMcpTool id reading arguments (.ofBindings .undefined) context),
    match callMcpTool id (text "cairnstone_tool_execute") (.literal []) (.ofBindings .undefined)
      context with
    | .denied _ => false
    | .passed _ env => isPassed (executeInvokeTool id context reading arguments env))

end Sample

open Sample in
/-- The account's home workspace is open to a direct call and closed to a nested one. -/
theorem homeIsClosedToNestedCalls
    : passes = (true, false)
      ∧ ¬ DecidedAlike id .undefined (buildAuthContext rows) reading arguments := by
  have told : passes = (true, false) := by decide +kernel
  have selected : selectsNoHome (buildAuthContext rows) arguments = false := by decide +kernel
  refine ⟨told, fun alike => ?_⟩
  have none' := (decidedAlike_iff_selectsNoHome truthy_buildAuthContext).mp alike
  exact Bool.false_ne_true (selected.symm.trans none')

end CairnStone.Gateway
