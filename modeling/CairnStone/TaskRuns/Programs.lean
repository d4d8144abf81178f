import CairnStone.TaskRuns.Rows

/-! Proposing, dispatching and cancelling a task run, cut at every statement and at the invocation of
the executor's adapter.
-/

namespace CairnStone.TaskRuns

open JavaScript Data Concurrency

def TASK_RUN_MAX_DELEGATION_DEPTH : Nat := 2

def TASK_RUN_MAX_FANOUT : Nat := 3

def MAX_NOTE : Nat := 2000

/-- What an operation answers. -/
inductive Answer where
  | refused (refusal : Refusal)
  | accepted (taskRun : TaskRun) (details : List (Text × Value))

/-- `{ ok: true, … }` -/
def Answer.isOk : Answer → Bool
  | .refused _ => false
  | .accepted _ _ => true

/-- What an adapter is invoked with. `options` holds what the caller passes on to it. -/
structure AdapterRequest where
  executorId : Value
  taskRun : TaskRun
  (routeReceipt options : Value)
  now : Text

structure AdapterReport where
  (jobId receiptId resultSummary : Text)

structure AdapterResult extends AdapterReport where
  taskStatus : Status
  dispatchState : DispatchState

/-- `invokeExecutorAdapter(request)`, given what its envelope, its tool and its random ids come to. The
deterministic executor has read its tool when it answers; any other has queued a job.
-/
def invokeExecutorAdapter (report : Except Text AdapterReport) (request : AdapterRequest)
    : Except Text AdapterResult :=
  match getExecutorProfile request.executorId with
  | .error error => .error error
  | .ok _ =>
    match report with
    | .error error => .error error
    | .ok report =>
      if request.executorId.strictEquals (.string (text "exec:deterministic-mcp")) then
        .ok { report with taskStatus := .completed, dispatchState := .completed }
      else
        .ok { report with taskStatus := .queued, dispatchState := .dispatched }

/-- The two tables, and the number of steps taken so far. -/
structure Database where
  taskRuns : List Row
  routeReceipts : List ReceiptRow
  steps : Nat

inductive Command where
  | insertRun (row : Row)
  | setChildren (id : Text) (childTaskRunIds : List Text) (updatedAt : Text)
  | persistRouteReceipt (receipt : Value) (taskRunId now : Text)
  | invokeAdapter (request : AdapterRequest)
  | recordDispatch (id : Text) (update : DispatchUpdate)
  | recordCancel (id reason now : Text)

def Command.Reply : Command → Type
  | .insertRun _ => Bool
  | .setChildren _ _ _ => Unit
  | .persistRouteReceipt _ _ _ => Unit
  | .invokeAdapter _ => Except Text AdapterResult
  | .recordDispatch _ _ => Except Text Unit
  | .recordCancel _ _ _ => Unit

/-- What the outside contributes to the invocations, by the number of steps taken so far. -/
abbrev Adapters := Nat → AdapterRequest → Except Text AdapterReport

def exec (adapters : Adapters) : (cmd : Command) → Database → cmd.Reply × Database
  | .insertRun row, db =>
    ((insertRun db.taskRuns row).1,
      { db with taskRuns := (insertRun db.taskRuns row).2, steps := db.steps + 1 })
  | .setChildren id childTaskRunIds updatedAt, db =>
    ((),
      { db with
        taskRuns := setChildren db.taskRuns id childTaskRunIds updatedAt
        steps := db.steps + 1 })
  | .persistRouteReceipt receipt taskRunId now, db =>
    ((),
      { db with
        routeReceipts := persistRouteReceipt db.routeReceipts receipt taskRunId now
        steps := db.steps + 1 })
  | .invokeAdapter request, db =>
    (invokeExecutorAdapter (adapters db.steps request) request,
      { db with steps := db.steps + 1 })
  | .recordDispatch id update, db =>
    ((recordDispatch db.taskRuns id update).1,
      { db with taskRuns := (recordDispatch db.taskRuns id update).2, steps := db.steps + 1 })
  | .recordCancel id reason now, db =>
    ((), { db with taskRuns := recordCancel db.taskRuns id reason now, steps := db.steps + 1 })

@[reducible] def store (adapters : Adapters) : Machine where
  State := Database
  Command := Command
  Reply := Command.Reply
  exec := exec adapters
  Event := Empty
  disturb := fun event => nomatch event

/-- A call of one of the operations. An exception carries its message. -/
abbrev Operation (adapters : Adapters) (α : Type) := Program (store adapters) Text α

variable {adapters : Adapters}

def selectTaskRun (id : Text) : Operation adapters (Option Row) :=
  Program.select (M := store adapters) (fun db => find (Database.taskRuns db) id)

def perform (cmd : Command) : Operation adapters cmd.Reply :=
  Program.perform (M := store adapters) cmd

structure ProposeArguments where
  (taskRunId requestedBy assigneeActorId conversationId parentTurnId attachmentRefs : Value)
  (objectRefs note requestedIntent parentTaskRunId requiredCapabilities policyPreset : Value)
  budgetEnvelope : Value
  ambient : Ambient

structure Proposal where
  (id requester : Text)
  (assignee conversationId parentTurnId : Option Text)
  (attachmentRefs objectRefs requiredCapabilities : List Text)
  note : Option Text
  intent : Text
  parentId : Option Text
  (policyPreset budgetEnvelope : Value)
  now : Text

/-- `value !== undefined && value !== null && value !== ""` -/
def isGiven : Value → Bool
  | .undefined => false
  | .null => false
  | .string s => s != []
  | _ => true

/-- Whether `value.length` is taken for true. -/
def hasLength : Value → Bool
  | .string s => s != []
  | .array slots => !slots.isEmpty
  | .object proto properties => ((Value.object proto properties).get (text "length")).truthy
  | _ => false

def refuseThrown {α : Type} (error : String) : Except Text α → Except Refusal α
  | .ok value => .ok value
  | .error message =>
    .error { error := text error, details := [(text "detail", .string message)] }

theorem ok_of_refuseThrown {error : String} {result : Except Text α} {value : α}
    (ok : refuseThrown error result = .ok value)
    : result = .ok value := by
  cases result with
  | ok other =>
    cases ok
    rfl
  | error message => cases ok

def refuseEntry {α : Type} : Except Text α → Except Refusal α
  | .ok value => .ok value
  | .error error => .error { error, details := [] }

/-- An id that may be missing. -/
def optionalName (mark error : String) (value : Value) : Except Refusal (Option Text) :=
  if !value.truthy then .ok none
  else if isMarkedName mark (trim value.interpolate) then .ok (some (trim value.interpolate))
  else .error (refuse error)

def proposedId (args : ProposeArguments) : Except Refusal Text :=
  if args.taskRunId.truthy then
    refuseThrown "invalid_task_run_propose" (taskRunId args.taskRunId "task_run_id")
  else .ok (text "tr:" ++ args.ambient.uuid)

def proposedAssignee (args : ProposeArguments) : Except Refusal (Option Text) :=
  if isGiven args.assigneeActorId then
    refuseThrown "invalid_assignee_actor_id"
      ((actorId args.assigneeActorId "assignee_actor_id").map some)
  else .ok none

def proposedNote (args : ProposeArguments) : Except Refusal (Option Text) :=
  if isGiven args.note then
    match nonEmptyString args.note with
    | some note => .ok (some (note.take MAX_NOTE))
    | none => .error (refuse "invalid_note")
  else .ok none

def proposedParent (args : ProposeArguments) : Except Refusal (Option Text) :=
  if args.parentTaskRunId.truthy then
    refuseThrown "invalid_parent_task_run_id"
      ((taskRunId args.parentTaskRunId "parent_task_run_id").map some)
  else .ok none

def requireRefs (attachmentRefs objectRefs : List Text) : Except Refusal Unit :=
  if attachmentRefs = [] ∧ objectRefs = [] then .error (refuse "attachment_refs_required")
  else .ok ()

/-- `list.length ? list : other` -/
def orElse (list other : List Text) : List Text :=
  if list = [] then other else list

def readProposal (args : ProposeArguments) : Except Refusal Proposal := do
  let requester ← refuseThrown "invalid_task_run_propose"
    (actorId args.requestedBy "requested_by")
  let id ← proposedId args
  let assignee ← proposedAssignee args
  let conversationId ← optionalName "cvs:" "invalid_conversation_id" args.conversationId
  let parentTurnId ← optionalName "turn:" "invalid_parent_turn_id" args.parentTurnId
  let attachmentRefs ← refuseEntry (normalizeRefList args.attachmentRefs "attachment_refs")
  let objectRefs ← refuseEntry
    (normalizeRefList
      (if hasLength args.objectRefs then args.objectRefs else args.attachmentRefs)
      "object_refs")
  requireRefs attachmentRefs objectRefs
  let requiredCapabilities ← refuseEntry (normalizeCapabilityList args.requiredCapabilities)
  let note ← proposedNote args
  let parentId ← proposedParent args
  .ok
    { id, requester, assignee, conversationId, parentTurnId
      attachmentRefs := orElse attachmentRefs objectRefs
      objectRefs, requiredCapabilities, note
      intent :=
        match nonEmptyString args.requestedIntent with
        | some intent => intent.take 64
        | none => text "ask-to-work"
      parentId
      policyPreset :=
        if args.policyPreset.truthy then
          .string ((trim args.policyPreset.interpolate).take 32)
        else .null
      budgetEnvelope :=
        if args.budgetEnvelope.isObject then args.budgetEnvelope else .null
      now := args.ambient.now }

/-- The row that a proposal inserts. -/
def Proposal.row (proposal : Proposal) (delegationDepth : Nat) : Row where
  taskRunId := proposal.id
  status := .proposed
  conversationId := proposal.conversationId
  parentTurnId := proposal.parentTurnId
  requestedBy := proposal.requester
  assigneeActorId := proposal.assignee
  requestedIntent := proposal.intent
  attachmentRefs := proposal.attachmentRefs
  objectRefs := proposal.objectRefs
  note := proposal.note
  dispatchState := .notDispatched
  selectedExecutorId := .null
  executorRouteReason := .null
  requiredCapabilities := textList proposal.requiredCapabilities
  policyPreset := proposal.policyPreset
  budgetEnvelope := jsonCopy proposal.budgetEnvelope
  parentTaskRunId := proposal.parentId
  childTaskRunIds := []
  delegationDepth
  routeReceiptId := .null
  routeReceipt := .null
  adapterJobId := none
  receiptRefs := []
  resultSummary := none
  failureReason := none
  humanCommittedBy := none
  humanCommittedAt := none
  startedAt := none
  completedAt := none
  createdAt := proposal.now
  updatedAt := proposal.now
  cancelledAt := none

def codePointTexts : Text → List Text
  | [] => []
  | [u] => [[u]]
  | u :: v :: rest =>
    if 0xD800 ≤ u && u ≤ 0xDBFF && 0xDC00 ≤ v && v ≤ 0xDFFF then
      [u, v] :: codePointTexts rest
    else
      [u] :: codePointTexts (v :: rest)

/-- The elements of `new Set(value || [])`, `none` where the value is not iterable. -/
def setElements (value : Value) : Option (List Value) :=
  if !value.truthy then some []
  else
    match value with
    | .array slots => some (slots.map (·.getD .undefined))
    | .string s => some ((codePointTexts s).map .string)
    | _ => none

/-- `capsSubset(childCaps, parentCaps)`, `none` where it throws -/
def capsSubset (childCaps : List Text) (parentCaps : Value) : Option Bool :=
  (setElements parentCaps).map (fun elements =>
    childCaps.all (fun capability => elements.any (·.strictEquals (.string capability))))

/-- The checks of a proposal against its parent, `none` where they throw. -/
def checkCeilings (proposal : Proposal) (parent : TaskRun) : Option (Except Refusal Unit) :=
  let active :=
    [DispatchState.dispatched, .running].contains parent.dispatchState
      || [Status.queued, .running].contains parent.status
  if !active then
    some (.error
      { error := text "parent_task_run_not_dispatchable_for_subdelegation"
        details :=
          [(text "parent_dispatch_state", .string parent.dispatchState.text),
            (text "parent_status", .string parent.status.text)] })
  else if TASK_RUN_MAX_DELEGATION_DEPTH < parent.delegationDepth + 1 then
    some (.error
      { error := text "delegation_depth_exceeded"
        details :=
          [(text "max", countValue TASK_RUN_MAX_DELEGATION_DEPTH),
            (text "attempted", countValue (parent.delegationDepth + 1))] })
  else if TASK_RUN_MAX_FANOUT ≤ parent.childTaskRunIds.length then
    some (.error
      { error := text "delegation_fanout_exceeded"
        details :=
          [(text "max", countValue TASK_RUN_MAX_FANOUT),
            (text "parent_task_run_id", .string parent.taskRunId)] })
  else if !refsSubset proposal.attachmentRefs (orElse parent.attachmentRefs parent.objectRefs) then
    some (.error (refuse "child_attachment_ceiling_violation"))
  else if !refsSubset proposal.objectRefs (orElse parent.objectRefs parent.attachmentRefs) then
    some (.error (refuse "child_object_ref_ceiling_violation"))
  else
    (capsSubset proposal.requiredCapabilities parent.requiredCapabilities).map (fun within =>
      if within then .ok () else .error (refuse "child_capability_ceiling_violation"))

def appendToParent (proposal : Proposal) : Operation adapters Unit :=
  match proposal.parentId with
  | none => .done ()
  | some parentId => do
    let parent ← selectTaskRun parentId
    match parent with
    | none => return ()
    | some parent =>
      perform (.setChildren parentId (parent.childTaskRunIds ++ [proposal.id]) proposal.now)

def answerWith (id : Text) (details : List (Text × Value)) : Operation adapters Answer := do
  let row ← selectTaskRun id
  match row with
  -- No row is ever deleted.
  | none => .fail (text "TypeError")
  | some row => return .accepted (rowToTaskRun row) details

def insertProposal (proposal : Proposal) (delegationDepth : Nat) : Operation adapters Answer := do
  let inserted : Bool ← perform (.insertRun (proposal.row delegationDepth))
  if inserted then do
    appendToParent proposal
    answerWith proposal.id []
  else
    return .refused
      { error := text "task_run_already_exists"
        details := [(text "task_run_id", .string proposal.id)] }

def proposeTaskRun (args : ProposeArguments) : Operation adapters Answer :=
  match readProposal args with
  | .error refusal => return .refused refusal
  | .ok proposal =>
    match proposal.parentId with
    | none => insertProposal proposal 0
    | some parentId => do
      let row ← selectTaskRun parentId
      match row with
      | none =>
        return .refused
          { error := text "parent_task_run_not_found"
            details := [(text "parent_task_run_id", .string parentId)] }
      | some row =>
        match checkCeilings proposal (rowToTaskRun row) with
        | none => .fail (text "TypeError")
        | some (.error refusal) => return .refused refusal
        | some (.ok ()) => insertProposal proposal (row.delegationDepth + 1)

structure DispatchArguments where
  (taskRunId humanCommit committedBy preferredExecutor policyPreset budgetEnvelope : Value)
  (requiredCapabilities routeReceipt adapterOptions : Value)
  ambient : Ambient

namespace DispatchArguments

variable (args : DispatchArguments) (taskRun : TaskRun)

def policy : Value :=
  (args.policyPreset.or taskRun.policyPreset).or (.string (text "balanced"))

def budget : Value :=
  (args.budgetEnvelope.or taskRun.budgetEnvelope).or .null

def capabilities : Value :=
  if isArray args.requiredCapabilities then args.requiredCapabilities
  else taskRun.requiredCapabilities.or (.array [])

/-- What the run asks of a route. -/
def routeRequest (committer : Text) : RouteRequest where
  requiredCapabilities := args.capabilities taskRun
  attachmentRefs := taskRun.attachmentRefs
  objectRefs := taskRun.objectRefs
  workHint := taskRun.note
  policyPreset := args.policy taskRun
  preferredExecutor :=
    (args.preferredExecutor.or taskRun.selectedExecutorId).or .null
  budgetEnvelope := args.budget taskRun
  parentTaskRunId := taskRun.parentTaskRunId
  actorId := committer

def suppliesRoute : Bool :=
  args.routeReceipt.isObject
    && (args.routeReceipt.get (text "selected_executor_id")).truthy

def route (committer : Text) : Except Refusal Value :=
  if args.suppliesRoute then .ok (enrichRouteReceiptContext args.routeReceipt)
  else routeExecutor args.ambient (args.routeRequest taskRun committer)

def update (committer : Text) (receipt : Value) (result : AdapterResult) : DispatchUpdate where
  status := result.taskStatus
  dispatchState := result.dispatchState
  selectedExecutorId := receipt.get (text "selected_executor_id")
  executorRouteReason := receipt.get (text "selection_reason")
  requiredCapabilities :=
    (receipt.get (text "required_capabilities")).or (args.capabilities taskRun)
  policyPreset := args.policy taskRun
  budgetEnvelope := args.budget taskRun
  routeReceiptId := receipt.get (text "route_receipt_id")
  routeReceipt := receipt
  adapterJobId := result.jobId
  receiptRefs := [result.receiptId]
  resultSummary := some result.resultSummary
  failureReason := none
  humanCommittedBy := committer
  now := args.ambient.now

end DispatchArguments

/-- A run that may be dispatched, by whom. -/
structure DispatchTarget where
  (id committer : Text)

/-- The checks on the args of a dispatch. -/
def readDispatch (args : DispatchArguments) : Except Refusal DispatchTarget :=
  if !args.humanCommit.isTrue then .error (refuse "human_commit_required")
  else do
    let id ← refuseThrown "invalid_task_run_dispatch" (taskRunId args.taskRunId "task_run_id")
    let committer ← refuseThrown "invalid_task_run_dispatch"
      (actorId args.committedBy "committed_by")
    return { id, committer }

def actorMayInspect (taskRun : TaskRun) (actor : Text) : Bool :=
  taskRun.requestedBy == actor || taskRun.assigneeActorId == some actor
    || taskRun.humanCommittedBy == some actor

def actorMayDispatch (taskRun : TaskRun) (committedBy : Text) : Bool :=
  taskRun.requestedBy == committedBy || taskRun.assigneeActorId == some committedBy

def checkDispatch (args : DispatchArguments) (target : DispatchTarget) (taskRun : TaskRun)
    : Except Refusal Value :=
  if !actorMayDispatch taskRun target.committer then .error (refuse "dispatch_actor_forbidden")
  else if !taskRun.dispatchable then
    .error
      { error := text "task_run_not_dispatchable"
        details :=
          [(text "status", .string taskRun.status.text),
            (text "dispatch_state", .string taskRun.dispatchState.text)] }
  else
    match args.route taskRun target.committer with
    | .ok receipt => .ok receipt
    | .error refusal =>
      .error
        { error := text "executor_route_failed"
          details :=
            [(text "detail", .literal ((text "error", .string refusal.error) :: refusal.details))] }

/-- What a dispatch invokes its adapter with. -/
def DispatchArguments.request (args : DispatchArguments) (taskRun : TaskRun) (receipt : Value)
    : AdapterRequest where
  executorId := receipt.get (text "selected_executor_id")
  taskRun
  routeReceipt := receipt
  options := args.adapterOptions
  now := args.ambient.now

def writeDispatch (args : DispatchArguments) (target : DispatchTarget) (taskRun : TaskRun)
    (receipt : Value) (result : AdapterResult)
    : Operation adapters Answer := do
  let written ← perform
    (.recordDispatch target.id (args.update taskRun target.committer receipt result))
  match written with
  | .error error =>
    return .refused
      { error := text "task_run_dispatch_persist_failed"
        details := [(text "detail", .string error)] }
  | .ok () => answerWith target.id [(text "route_receipt", receipt)]

def dispatchAlong (args : DispatchArguments) (target : DispatchTarget) (taskRun : TaskRun)
    (receipt : Value)
    : Operation adapters Answer := do
  perform (.persistRouteReceipt receipt target.id args.ambient.now)
  let result ← perform (.invokeAdapter (args.request taskRun receipt))
  match result with
  | .error error =>
    return .refused { error, details := [(text "route_receipt", receipt)] }
  | .ok result => writeDispatch args target taskRun receipt result

def dispatchTaskRun (args : DispatchArguments) : Operation adapters Answer :=
  match readDispatch args with
  | .error refusal => return .refused refusal
  | .ok target => do
    let row ← selectTaskRun target.id
    match row with
    | none =>
      return .refused
        { error := text "task_run_not_found"
          details := [(text "task_run_id", .string target.id)] }
    | some row =>
      match checkDispatch args target (rowToTaskRun row) with
      | .error refusal => return .refused refusal
      | .ok receipt => dispatchAlong args target (rowToTaskRun row) receipt

structure CancelArguments where
  (taskRunId actorId reason : Value)
  now : Text

def readCancel (args : CancelArguments) : Except Refusal (Text × Text) := do
  let id ← refuseThrown "invalid_task_run_cancel" (taskRunId args.taskRunId "task_run_id")
  let actor ← refuseThrown "invalid_task_run_cancel" (actorId args.actorId "actor_id")
  return (id, actor)

def cancelReason (args : CancelArguments) : Text :=
  if args.reason.truthy then (trim args.reason.interpolate).take MAX_NOTE
  else text "cancelled_by_actor"

def cancelObjection (taskRun : TaskRun) (actor : Text) : Option Refusal :=
  if !actorMayInspect taskRun actor then some (refuse "task_run_actor_forbidden")
  else if taskRun.status.isTerminal then
    some
      { error := text "task_run_already_terminal"
        details := [(text "status", .string taskRun.status.text)] }
  else none

def cancelTaskRun (args : CancelArguments) : Operation adapters Answer :=
  match readCancel args with
  | .error refusal => return .refused refusal
  | .ok (id, actor) => do
    let row ← selectTaskRun id
    match row with
    | none =>
      return .refused
        { error := text "task_run_not_found"
          details := [(text "task_run_id", .string id)] }
    | some row =>
      match cancelObjection (rowToTaskRun row) actor with
      | some refusal => return .refused refusal
      | none => do
        perform (.recordCancel id (cancelReason args) args.now)
        answerWith id []

inductive Call where
  | propose (args : ProposeArguments)
  | dispatch (args : DispatchArguments)
  | cancel (args : CancelArguments)

def Call.body (adapters : Adapters) : Call → Operation adapters Answer
  | .propose args => proposeTaskRun args
  | .dispatch args => dispatchTaskRun args
  | .cancel args => cancelTaskRun args

def Database.empty : Database where
  taskRuns := []
  routeReceipts := []
  steps := 0

/-- A run of calls from empty tables. -/
def taskRunsAfter (adapters : Adapters) (schedule : List (Action (store adapters) Call))
    : Config (store adapters) Call Text Answer :=
  (Config.init (M := store adapters) Database.empty).run (Call.body adapters) schedule

end CairnStone.TaskRuns
