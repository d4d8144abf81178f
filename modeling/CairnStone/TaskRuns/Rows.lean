import CairnStone.Concurrency.Program
import CairnStone.TaskRuns.Routes

/-! The `task_runs` table: its rows, and the statements that proposals, dispatches and cancellations
issue.
-/

namespace CairnStone.TaskRuns

open JavaScript Data

inductive Status where
  | proposed
  | queued
  | running
  | completed
  | failed
  | cancelled
  deriving DecidableEq

def Status.text : Status → Text
  | .proposed => JavaScript.text "proposed"
  | .queued => JavaScript.text "queued"
  | .running => JavaScript.text "running"
  | .completed => JavaScript.text "completed"
  | .failed => JavaScript.text "failed"
  | .cancelled => JavaScript.text "cancelled"

/-- `["completed", "failed", "cancelled"].includes(status)` -/
def Status.isTerminal (status : Status) : Bool :=
  [Status.completed, .failed, .cancelled].contains status

inductive DispatchState where
  | notDispatched
  | dispatched
  | running
  | completed
  | failed
  | cancelled
  deriving DecidableEq

def DispatchState.text : DispatchState → Text
  | .notDispatched => JavaScript.text "not_dispatched"
  | .dispatched => JavaScript.text "dispatched"
  | .running => JavaScript.text "running"
  | .completed => JavaScript.text "completed"
  | .failed => JavaScript.text "failed"
  | .cancelled => JavaScript.text "cancelled"

/-- A row of `task_runs`. Lists are stored as JSON; what a caller may supply with any type is the
value that is bound or read back. Columns that nothing sets but the insertion are left out.
-/
structure Row where
  taskRunId : Text
  status : Status
  (conversationId parentTurnId : Option Text)
  requestedBy : Text
  assigneeActorId : Option Text
  requestedIntent : Text
  (attachmentRefs objectRefs : List Text)
  note : Option Text
  dispatchState : DispatchState
  (selectedExecutorId executorRouteReason requiredCapabilities policyPreset : Value)
  budgetEnvelope : Value
  parentTaskRunId : Option Text
  childTaskRunIds : List Text
  delegationDepth : Nat
  (routeReceiptId routeReceipt : Value)
  adapterJobId : Option Text
  receiptRefs : List Text
  (resultSummary failureReason humanCommittedBy humanCommittedAt startedAt : Option Text)
  completedAt : Option Text
  (createdAt updatedAt : Text)
  cancelledAt : Option Text

structure TaskRun extends Row where
  (dispatched executorInvoked dispatchable : Bool)

def rowToTaskRun (row : Row) : TaskRun where
  toRow := row
  dispatched := row.dispatchState != .notDispatched
  executorInvoked := row.selectedExecutorId.truthy && row.dispatchState != .notDispatched
  dispatchable := row.status == .proposed && row.dispatchState == .notDispatched

/-- `SELECT … FROM task_runs WHERE task_run_id = ?` -/
def find (rows : List Row) (id : Text) : Option Row :=
  rows.find? (·.taskRunId == id)

def isBindable : Value → Bool
  | .null => true
  | .bool _ => true
  | .number _ => true
  | .string _ => true
  | _ => false

def isUndefined : Value → Bool
  | .undefined => true
  | _ => false

/-- `INSERT INTO task_runs`: whether the id was free, and the rows afterwards. -/
def insertRun (rows : List Row) (row : Row) : Bool × List Row :=
  match find rows row.taskRunId with
  | none => (true, rows ++ [row])
  | some _ => (false, rows)

/-- `UPDATE task_runs SET child_task_run_ids_json = ?, updated_at = ? WHERE task_run_id = ?` -/
def setChildren (rows : List Row) (id : Text) (childTaskRunIds : List Text) (updatedAt : Text)
    : List Row :=
  updateWhere (·.taskRunId == id) (fun row => { row with childTaskRunIds, updatedAt }) rows

structure DispatchUpdate where
  status : Status
  dispatchState : DispatchState
  (selectedExecutorId executorRouteReason requiredCapabilities policyPreset : Value)
  (budgetEnvelope routeReceiptId routeReceipt : Value)
  adapterJobId : Text
  receiptRefs : List Text
  (resultSummary failureReason : Option Text)
  (humanCommittedBy now : Text)

namespace DispatchUpdate

/-- Whether the statement accepts all parameters. A value that is stored as JSON has no parameter if
it has no JSON text.
-/
def accepted (update : DispatchUpdate) : Bool :=
  [update.selectedExecutorId, update.executorRouteReason, update.policyPreset,
    update.routeReceiptId].all isBindable
  && !isUndefined (jsonCopy update.requiredCapabilities)

def apply (update : DispatchUpdate) (row : Row) : Row :=
  { row with
    status := update.status
    dispatchState := update.dispatchState
    selectedExecutorId := update.selectedExecutorId
    executorRouteReason := update.executorRouteReason
    requiredCapabilities := jsonCopy update.requiredCapabilities
    policyPreset := update.policyPreset
    budgetEnvelope := jsonCopy update.budgetEnvelope
    routeReceiptId := update.routeReceiptId
    routeReceipt := jsonCopy update.routeReceipt
    adapterJobId := some update.adapterJobId
    receiptRefs := update.receiptRefs
    resultSummary := update.resultSummary
    failureReason := update.failureReason
    humanCommittedBy := some update.humanCommittedBy
    humanCommittedAt := some update.now
    startedAt := some update.now
    completedAt := if update.status.isTerminal then some update.now else none
    updatedAt := update.now }

end DispatchUpdate

/-- `UPDATE task_runs SET status = ?, … WHERE task_run_id = ?`, an error where a parameter is not
accepted.
-/
def recordDispatch (rows : List Row) (id : Text) (update : DispatchUpdate)
    : Except Text Unit × List Row :=
  if update.accepted then (.ok (), updateWhere (·.taskRunId == id) update.apply rows)
  else (.error (text "D1_TYPE_ERROR"), rows)

def Row.cancel (row : Row) (reason now : Text) : Row :=
  { row with
    status := .cancelled
    dispatchState :=
      if row.dispatchState = .notDispatched then .notDispatched else .cancelled
    failureReason := some reason
    cancelledAt := some now
    completedAt := some now
    updatedAt := now }

/-- `UPDATE task_runs SET status = 'cancelled', … WHERE task_run_id = ?` -/
def recordCancel (rows : List Row) (id reason now : Text) : List Row :=
  updateWhere (·.taskRunId == id) (·.cancel reason now) rows

structure ReceiptRow where
  routeReceiptId : Value
  taskRunId : Text
  (actorId selectedExecutorId selectionReason policyPreset receipt createdAt : Value)

/-- `persistRouteReceipt`, whose failure is not reported: a receipt without an id is not stored, and
one with a known id replaces the other.
-/
def persistRouteReceipt (rows : List ReceiptRow) (receipt : Value) (taskRunId now : Text)
    : List ReceiptRow :=
  let field (key : String) : Value := (receipt.get (text key)).or .null
  let row : ReceiptRow :=
    { routeReceiptId := field "route_receipt_id"
      taskRunId
      actorId := field "actor_id"
      selectedExecutorId := field "selected_executor_id"
      selectionReason := field "selection_reason"
      policyPreset := field "policy_preset"
      receipt := jsonCopy receipt
      createdAt := (receipt.get (text "created_at")).or (.string now) }
  if row.routeReceiptId.truthy
      && [row.routeReceiptId, row.actorId, row.selectedExecutorId, row.selectionReason,
        row.policyPreset, row.createdAt].all isBindable then
    rows.filter (fun other => !other.routeReceiptId.strictEquals row.routeReceiptId) ++ [row]
  else
    rows

end CairnStone.TaskRuns
