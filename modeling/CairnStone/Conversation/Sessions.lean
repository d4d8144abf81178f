import CairnStone.Conversation.Values
import CairnStone.JavaScript.Conversions

/-! Conversation sessions and their turns: the rows of both tables, and the statements that create,
update and append to a session.
-/

namespace CairnStone.Conversation

open JavaScript Data
open TaskRuns (Refusal refuse nonEmptyString actorId refuseThrown)

/-- A row of `conversation_turns`. JSON columns hold the value that is read back. -/
structure TurnRow where
  (turnId conversationId messageId : Text)
  seq : Nat
  role : Role
  turnType : Text
  (contentRef contentPreview : Option Text)
  responseIds : List Text
  contextPackId : Option Text
  (toolReceiptRefs attachmentRefs accessGrantIds objectRefs taskRunIds : List Text)
  routingEnvelope : Value
  intentMode : IntentMode
  (actorId createdAt : Text)

/-- An entry of a session's `message_log`. -/
structure TurnStub where
  (turnId messageId : Text)
  seq : Nat
  role : Role
  turnType : Text
  (contentRef contentPreview : Option Text)
  responseIds : List Text
  contextPackId : Option Text
  (toolReceiptRefs attachmentRefs accessGrantIds objectRefs taskRunIds : List Text)
  intentMode : IntentMode
  (actorId createdAt : Text)

/-- `turnStubFromRecord(turn)` -/
def TurnRow.stub (turn : TurnRow) : TurnStub where
  turnId := turn.turnId
  messageId := turn.messageId
  seq := turn.seq
  role := turn.role
  turnType := turn.turnType
  contentRef := turn.contentRef
  contentPreview := turn.contentPreview
  responseIds := turn.responseIds
  contextPackId := turn.contextPackId
  toolReceiptRefs := turn.toolReceiptRefs
  attachmentRefs := turn.attachmentRefs
  accessGrantIds := turn.accessGrantIds
  objectRefs := turn.objectRefs
  taskRunIds := turn.taskRunIds
  intentMode := turn.intentMode
  actorId := turn.actorId
  createdAt := turn.createdAt

/-- A row of `conversation_sessions`. JSON columns hold the value that is read back. -/
structure SessionRow where
  conversationId : Text
  status : Status
  messageLog : List TurnStub
  attachmentSet : List Value
  activeScope : Value
  selectedActors : List Text
  (selectedRepo selectedChain codeSessionId : Option Text)
  lastResponseIds : List Text
  routingEnvelope : Value
  toolReceipts : List Value
  intentMode : IntentMode
  (accessGrantIds taskRunIds : List Text)
  workspaceId : Option Text
  sessionRevision : Nat
  (createdBy createdAt updatedAt : Text)

def actorMayAccessSession (session : SessionRow) (actor : Text) : Bool :=
  session.createdBy == actor || session.selectedActors.contains actor

/-- `SELECT … FROM conversation_sessions WHERE conversation_id = ?` -/
def findSession (sessions : List SessionRow) (id : Text) : Option SessionRow :=
  sessions.find? (·.conversationId == id)

/-- `INSERT INTO conversation_sessions`: whether the id was free, and the rows afterwards. -/
def insertSession (sessions : List SessionRow) (row : SessionRow) : Bool × List SessionRow :=
  match findSession sessions row.conversationId with
  | none => (true, sessions ++ [row])
  | some _ => (false, sessions)

/-- Whether the table already holds a turn with one of the ids that must be unique. -/
def holdsTurn (turns : List TurnRow) (row : TurnRow) : Bool :=
  turns.any (fun turn => turn.turnId == row.turnId || turn.messageId == row.messageId)

/-- `INSERT INTO conversation_turns`: both ids must be free, and the session must be there. -/
def insertTurn (sessions : List SessionRow) (turns : List TurnRow) (row : TurnRow)
    : Bool × List TurnRow :=
  if holdsTurn turns row || (findSession sessions row.conversationId).isNone then (false, turns)
  else (true, turns ++ [row])

/-- What `updateConversationSession` writes. -/
structure FieldUpdate where
  status : Status
  attachmentSet : List Value
  activeScope : Value
  selectedActors : List Text
  (selectedRepo selectedChain codeSessionId : Option Text)
  lastResponseIds : List Text
  routingEnvelope : Value
  toolReceipts : List Value
  intentMode : IntentMode
  (accessGrantIds taskRunIds : List Text)
  workspaceId : Option Text
  updatedAt : Text

/-- What `appendConversationTurn` writes. -/
structure LogUpdate where
  messageLog : List TurnStub
  lastResponseIds : List Text
  toolReceipts : List Value
  routingEnvelope : Value
  (accessGrantIds taskRunIds : List Text)
  intentMode : IntentMode
  updatedAt : Text

inductive SessionChange where
  | fields (update : FieldUpdate)
  | log (update : LogUpdate)

/-- The columns that `UPDATE conversation_sessions` sets, the revision apart. -/
def SessionChange.apply : SessionChange → SessionRow → SessionRow
  | .fields update, row =>
    { row with
      status := update.status
      attachmentSet := update.attachmentSet
      activeScope := update.activeScope
      selectedActors := update.selectedActors
      selectedRepo := update.selectedRepo
      selectedChain := update.selectedChain
      codeSessionId := update.codeSessionId
      lastResponseIds := update.lastResponseIds
      routingEnvelope := update.routingEnvelope
      toolReceipts := update.toolReceipts
      intentMode := update.intentMode
      accessGrantIds := update.accessGrantIds
      taskRunIds := update.taskRunIds
      workspaceId := update.workspaceId
      updatedAt := update.updatedAt }
  | .log update, row =>
    { row with
      messageLog := update.messageLog
      lastResponseIds := update.lastResponseIds
      toolReceipts := update.toolReceipts
      routingEnvelope := update.routingEnvelope
      accessGrantIds := update.accessGrantIds
      taskRunIds := update.taskRunIds
      intentMode := update.intentMode
      updatedAt := update.updatedAt
      status := if row.status = .paused then .active else row.status }

/-- `WHERE conversation_id = ? AND session_revision = ?` -/
def matchesRevision (id : Text) (base : Nat) (row : SessionRow) : Bool :=
  row.conversationId == id && row.sessionRevision == base

/-- `UPDATE conversation_sessions SET …, session_revision = base + 1 WHERE …`: whether a row matched,
and the rows afterwards.
-/
def swapSession (sessions : List SessionRow) (id : Text) (base : Nat) (change : SessionChange)
    : Bool × List SessionRow :=
  (sessions.any (matchesRevision id base),
    updateWhere (matchesRevision id base)
      (fun row => { change.apply row with sessionRevision := base + 1 }) sessions)

structure CreateArguments where
  (conversationId createdBy status attachmentSet activeScope selectedActors : Value)
  (selectedRepo selectedChain codeSessionId lastResponseIds routingEnvelope : Value)
  (toolReceipts intentMode accessGrantIds taskRunIds workspaceId messageLog : Value)
  now : Text

def requireEmptyLog (messageLog : Value) : Except Refusal Unit :=
  match messageLog with
  | .undefined => .ok ()
  | .null => .ok ()
  | .array slots =>
    if slots.isEmpty then .ok ()
    else
      .error
        { error := text "message_log_must_start_empty"
          details := [(text "detail", .string (text "use_append_turn"))] }
  | _ => .error (refuse "invalid_message_log")

def readCreate (localeLe : Text → Text → Bool) (args : CreateArguments)
    : Except Refusal SessionRow := do
  let sessionId ← refuseThrown "invalid_conversation_session_create"
    (conversationId args.conversationId)
  let creator ← refuseThrown "invalid_conversation_session_create"
    (actorId args.createdBy "created_by")
  let status ← readStatus (args.status.orDefault (.string (text "active")))
  let intentMode ← readIntentMode (args.intentMode.orDefault (.string (text "read")))
  let selectedActors ← normalizeSelectedActors localeLe args.selectedActors creator
  let attachmentSet ← normalizeAttachmentSet args.attachmentSet
  let activeScope ← normalizeActiveScope args.activeScope
  let routingEnvelope ← normalizeRoutingEnvelope args.routingEnvelope
  let toolReceipts ← normalizeToolReceipts args.toolReceipts
  let lastResponseIds ←
    normalizeOpaqueIdList args.lastResponseIds "last_response_ids" MAX_RESPONSE_IDS
  let accessGrantIds ←
    normalizeOpaqueIdList args.accessGrantIds "access_grant_ids" MAX_ACCESS_GRANT_IDS
  let taskRunIds ← normalizeOpaqueIdList args.taskRunIds "task_run_ids" MAX_TASK_RUN_IDS
  let codeSessionId ← optionalId "cs:" "invalid_code_session_id" args.codeSessionId
  let workspaceId ← optionalId "ws:" "invalid_workspace_id" args.workspaceId
  requireEmptyLog args.messageLog
  .ok
    { conversationId := sessionId
      status
      messageLog := []
      attachmentSet := attachmentSet.map jsonCopy
      activeScope := jsonCopy activeScope
      selectedActors
      selectedRepo := shortText 256 args.selectedRepo
      selectedChain := shortText 256 args.selectedChain
      codeSessionId
      lastResponseIds
      routingEnvelope := jsonCopy routingEnvelope
      toolReceipts := toolReceipts.map jsonCopy
      intentMode
      accessGrantIds
      taskRunIds
      workspaceId
      sessionRevision := 1
      createdBy := creator
      createdAt := args.now
      updatedAt := args.now }

def notMember (id : Text) : Refusal where
  error := text "conversation_session_actor_not_member"
  details := [(text "conversation_id", .string id)]

def notFound (id : Text) : Refusal where
  error := text "conversation_session_not_found"
  details := [(text "conversation_id", .string id)]

def conflictError : Text :=
  text "conversation_session_conflict"

/-- A call that has based its change on another revision than the current one. -/
def conflict (id : Text) (expected : Value) (provided : Nat) (detail : List (Text × Value))
    : Refusal where
  error := conflictError
  details :=
    [(text "conversation_id", .string id), (text "expected_session_revision", expected),
      (text "provided_base_revision", TaskRuns.countValue provided)]
      ++ detail

/-- The args of `updateConversationSession`. `undefined` leaves a field as it is. -/
structure UpdateArguments where
  (conversationId actorId baseRevision status attachmentSet activeScope selectedActors : Value)
  (selectedRepo selectedChain codeSessionId lastResponseIds routingEnvelope : Value)
  (toolReceipts intentMode accessGrantIds taskRunIds workspaceId : Value)
  now : Text

structure Target where
  (sessionId actor : Text)
  base : Nat

def requireRevision (base : Option Nat) : Except Refusal Nat :=
  match base with
  | some base => .ok base
  | none => .error (refuse "conversation_session_base_revision_required")

def readUpdate (args : UpdateArguments) : Except Refusal Target := do
  let sessionId ← refuseThrown "invalid_conversation_session_update"
    (conversationId args.conversationId)
  let actor ← refuseThrown "invalid_conversation_session_update"
    (actorId args.actorId "actor_id")
  let base ← requireRevision (revisionOf args.baseRevision)
  .ok { sessionId, actor, base }

/-- A field that a call may change: what it is now, unless something is given for it. -/
def updated {α : Type} (current : α) (read : Value → Except Refusal α) (given : Value)
    : Except Refusal α :=
  match given with
  | .undefined => .ok current
  | value => read value

def updatedId (mark error : String) (value : Value) : Except Refusal (Option Text) :=
  if !TaskRuns.isGiven value then .ok none
  else if TaskRuns.isMarkedName mark (trim value.toText) then .ok (some (trim value.toText))
  else .error (refuse error)

/-- The first checks of an update and of an append on the session that they have found. -/
def requireMember (session : SessionRow) (target : Target) : Except Refusal Unit :=
  if actorMayAccessSession session target.actor then .ok ()
  else .error (notMember target.sessionId)

def requireBase (session : SessionRow) (target : Target) : Except Refusal Unit :=
  if session.sessionRevision = target.base then .ok ()
  else
    .error
      (conflict target.sessionId (TaskRuns.countValue session.sessionRevision) target.base [])

def checkUpdate (localeLe : Text → Text → Bool) (args : UpdateArguments) (target : Target)
    (session : SessionRow)
    : Except Refusal FieldUpdate := do
  requireMember session target
  requireBase session target
  let status ← updated session.status readStatus args.status
  let intentMode ← updated session.intentMode readIntentMode args.intentMode
  let attachmentSet ← updated session.attachmentSet normalizeAttachmentSet args.attachmentSet
  let activeScope ← updated session.activeScope normalizeActiveScope args.activeScope
  let selectedActors ← updated session.selectedActors
    (fun given => normalizeSelectedActors localeLe given session.createdBy) args.selectedActors
  let routingEnvelope ← updated session.routingEnvelope normalizeRoutingEnvelope
    args.routingEnvelope
  let toolReceipts ← updated session.toolReceipts normalizeToolReceipts args.toolReceipts
  let lastResponseIds ← updated session.lastResponseIds
    (fun given => normalizeOpaqueIdList given "last_response_ids" MAX_RESPONSE_IDS)
    args.lastResponseIds
  let accessGrantIds ← updated session.accessGrantIds
    (fun given => normalizeOpaqueIdList given "access_grant_ids" MAX_ACCESS_GRANT_IDS)
    args.accessGrantIds
  let taskRunIds ← updated session.taskRunIds
    (fun given => normalizeOpaqueIdList given "task_run_ids" MAX_TASK_RUN_IDS) args.taskRunIds
  let selectedRepo ← updated session.selectedRepo (fun given => .ok (shortText 256 given))
    args.selectedRepo
  let selectedChain ← updated session.selectedChain (fun given => .ok (shortText 256 given))
    args.selectedChain
  let codeSessionId ← updated session.codeSessionId (updatedId "cs:" "invalid_code_session_id")
    args.codeSessionId
  let workspaceId ← updated session.workspaceId (updatedId "ws:" "invalid_workspace_id")
    args.workspaceId
  .ok
    { status
      attachmentSet := attachmentSet.map jsonCopy
      activeScope := jsonCopy activeScope
      selectedActors, selectedRepo, selectedChain, codeSessionId, lastResponseIds
      routingEnvelope := jsonCopy routingEnvelope
      toolReceipts := toolReceipts.map jsonCopy
      intentMode, accessGrantIds, taskRunIds, workspaceId
      updatedAt := args.now }

/-- The args of `appendConversationTurn`, its base revision apart. -/
structure AppendArguments where
  (conversationId actorId turnId messageId role turnType contentRef contentPreview : Value)
  (responseIds contextPackId toolReceiptRefs attachmentRefs accessGrantIds objectRefs : Value)
  (taskRunIds routingEnvelope intentMode : Value)
  now : Text

structure AppendTarget extends Target where
  (turnId messageId : Text)
  role : Role
  intentMode : Option IntentMode

def turnIntent (value : Value) : Except Refusal (Option IntentMode) :=
  if TaskRuns.isGiven value then (readIntentMode value).map some else .ok none

def readAppend (args : AppendArguments) (base : Option Nat) : Except Refusal AppendTarget := do
  let sessionId ← refuseThrown "invalid_conversation_turn_append"
    (conversationId args.conversationId)
  let actor ← refuseThrown "invalid_conversation_turn_append" (actorId args.actorId "actor_id")
  let turnId ← refuseThrown "invalid_conversation_turn_append" (turnId args.turnId)
  let messageId ← refuseThrown "invalid_conversation_turn_append" (messageId args.messageId)
  let base ← requireRevision base
  let role ← readRole args.role
  let intentMode ← turnIntent args.intentMode
  .ok { sessionId, actor, base, turnId, messageId, role, intentMode }

def requireAppendable (session : SessionRow) : Except Refusal Unit :=
  if session.status = .closed ∨ session.status = .superseded then
    .error
      { error := text "conversation_session_not_appendable"
        details := [(text "status", .string session.status.text)] }
  else .ok ()

def requireRoom (seq : Nat) : Except Refusal Unit :=
  if MAX_MESSAGE_LOG < seq then
    .error (tooLarge (text "conversation_message_log_full") MAX_MESSAGE_LOG)
  else .ok ()

def checkAppend (args : AppendArguments) (target : AppendTarget) (session : SessionRow)
    : Except Refusal TurnRow := do
  requireMember session target.toTarget
  requireAppendable session
  requireBase session target.toTarget
  let responseIds ← normalizeOpaqueIdList args.responseIds "response_ids" MAX_RESPONSE_IDS
  let toolReceiptRefs ←
    normalizeOpaqueIdList args.toolReceiptRefs "tool_receipt_refs" MAX_TOOL_RECEIPTS
  let attachmentRefs ←
    normalizeOpaqueIdList args.attachmentRefs "attachment_refs" MAX_ATTACHMENT_SET
  let accessGrantIds ←
    normalizeOpaqueIdList args.accessGrantIds "access_grant_ids" MAX_ACCESS_GRANT_IDS
  let objectRefs ← normalizeOpaqueIdList args.objectRefs "object_refs" MAX_OBJECT_REFS
  let taskRunIds ← normalizeOpaqueIdList args.taskRunIds "task_run_ids" MAX_TASK_RUN_IDS
  let routingEnvelope ← normalizeRoutingEnvelope args.routingEnvelope
  requireRoom (session.messageLog.length + 1)
  .ok
    { turnId := target.turnId
      conversationId := target.sessionId
      messageId := target.messageId
      seq := session.messageLog.length + 1
      role := target.role
      turnType := (shortText 64 args.turnType).getD (text "message")
      contentRef := shortText MAX_REF_LEN args.contentRef
      contentPreview := shortText MAX_CONTENT_PREVIEW args.contentPreview
      responseIds
      contextPackId := shortText 128 args.contextPackId
      toolReceiptRefs, attachmentRefs, accessGrantIds, objectRefs, taskRunIds
      routingEnvelope := jsonCopy routingEnvelope
      intentMode := target.intentMode.getD session.intentMode
      actorId := target.actor
      createdAt := args.now }

/-- `list.slice(-max)` -/
def takeLast {α : Type} (max : Nat) (list : List α) : List α :=
  list.drop (list.length - max)

/-- `[...new Set([...list, ...added])].slice(-max)` -/
def mergedIds (max : Nat) (list added : List Text) : List Text :=
  takeLast max (list ++ added).eraseDups

def logUpdate (session : SessionRow) (turn : TurnRow) : LogUpdate where
  messageLog := takeLast MAX_MESSAGE_LOG (session.messageLog ++ [turn.stub])
  lastResponseIds := mergedIds MAX_RESPONSE_IDS session.lastResponseIds turn.responseIds
  toolReceipts :=
    takeLast MAX_TOOL_RECEIPTS
      (session.toolReceipts
        ++ turn.toolReceiptRefs.map (fun ref =>
            .literal [(text "ref", .string ref), (text "kind", .string (text "tool_receipt"))]))
  routingEnvelope := turn.routingEnvelope.or session.routingEnvelope
  accessGrantIds := mergedIds MAX_ACCESS_GRANT_IDS session.accessGrantIds turn.accessGrantIds
  taskRunIds := mergedIds MAX_TASK_RUN_IDS session.taskRunIds turn.taskRunIds
  intentMode := turn.intentMode
  updatedAt := turn.createdAt

end CairnStone.Conversation
