import CairnStone.Conversation.Policies
import CairnStone.Data.SqlText

/-! The shared state of conversations and their policies, and the calls on it, cut at every statement.
-/

namespace CairnStone.Conversation

open JavaScript Data Concurrency
open TaskRuns (Refusal refuse isActorId textList countValue)

/-- A row of `auth_connection_principals`, with the aliases that its JSON column holds. -/
structure ConnectionRow where
  (connectionId principalId : Text)
  owner : Owner
  isActive : Bool
  routingAliases : List Text

/-- The tables, and the number of steps taken so far. -/
structure Database where
  sessions : List SessionRow
  turns : List TurnRow
  policies : List PolicyRow
  connections : List ConnectionRow
  steps : Nat

inductive Command where
  | insertSession (row : SessionRow)
  | insertTurn (row : TurnRow)
  | swapSession (id : Text) (base : Nat) (change : SessionChange)
  | insertPolicy (row : PolicyRow)
  | swapPolicy (id : Text) (revision : Nat) (update : PolicyUpdate)

def exec : Command → Database → Bool × Database
  | .insertSession row, db =>
    ((insertSession db.sessions row).1,
      { db with sessions := (insertSession db.sessions row).2, steps := db.steps + 1 })
  | .insertTurn row, db =>
    ((insertTurn db.sessions db.turns row).1,
      { db with turns := (insertTurn db.sessions db.turns row).2, steps := db.steps + 1 })
  | .swapSession id base change, db =>
    ((swapSession db.sessions id base change).1,
      { db with
        sessions := (swapSession db.sessions id base change).2
        steps := db.steps + 1 })
  | .insertPolicy row, db =>
    ((insertPolicy db.policies row).1,
      { db with policies := (insertPolicy db.policies row).2, steps := db.steps + 1 })
  | .swapPolicy id revision update, db =>
    ((swapPolicy db.policies id revision update).1,
      { db with
        policies := (swapPolicy db.policies id revision update).2
        steps := db.steps + 1 })

/-- Every statement answers whether it has changed a row. -/
@[reducible] def store : Machine where
  State := Database
  Command := Command
  Reply := fun _ => Bool
  exec := exec
  Event := Empty
  disturb := fun event => nomatch event

/-- A call of one of the operations. An exception carries its message. -/
abbrev Operation (α : Type) := Program store Text α

def select {α : Type} (f : Database → α) : Operation α :=
  Program.select (M := store) f

def perform (cmd : Command) : Operation Bool :=
  Program.perform (M := store) cmd

def selectSession (id : Text) : Operation (Option SessionRow) :=
  select (fun db => findSession db.sessions id)

/-- What a call answers. -/
inductive Answer where
  | refused (refusal : Refusal)
  | session (record : Option SessionRow)
  | appended (turn : TurnRow) (session : Option SessionRow)
  | replayed (turn : TurnRow) (session : Option SessionRow)
  | synced (turn : TurnRow) (session : Option SessionRow) (retryCount : Nat)
  | policy (row : Option PolicyRow) (created : Bool)

/-- `{ ok: true, … }` -/
def Answer.isOk : Answer → Bool
  | .refused _ => false
  | _ => true

def createConversationSession (localeLe : Text → Text → Bool) (args : CreateArguments)
    : Operation Answer :=
  match readCreate localeLe args with
  | .error refusal => return .refused refusal
  | .ok row => do
    let inserted ← perform (.insertSession row)
    if inserted then do
      let record ← selectSession row.conversationId
      return .session record
    else
      return .refused
        { error := text "conversation_session_already_exists"
          details := [(text "conversation_id", .string row.conversationId)] }

/-- The revision that a lost race has left, `null` where the session is gone. -/
def racedRevision (session : Option SessionRow) : Value :=
  match session with
  | some session => countValue session.sessionRevision
  | none => .null

def updateConversationSession (localeLe : Text → Text → Bool) (args : UpdateArguments)
    : Operation Answer :=
  match readUpdate args with
  | .error refusal => return .refused refusal
  | .ok target => do
    let found ← selectSession target.sessionId
    match found with
    | none => return .refused (notFound target.sessionId)
    | some session =>
      match checkUpdate localeLe args target session with
      | .error refusal => return .refused refusal
      | .ok update => do
        let changed ←
          perform (.swapSession target.sessionId session.sessionRevision (.fields update))
        let record ← selectSession target.sessionId
        if changed then return .session record
        else
          return .refused (conflict target.sessionId (racedRevision record) target.base [])

def existsError : Text :=
  text "conversation_turn_already_exists"

structure Appended where
  turn : TurnRow
  session : Option SessionRow

def commitTurn (session : SessionRow) (turn : TurnRow) : Operation (Except Refusal Appended) := do
  let inserted ← perform (.insertTurn turn)
  if inserted then do
    let changed ← perform
      (.swapSession turn.conversationId session.sessionRevision (.log (logUpdate session turn)))
    let record ← selectSession turn.conversationId
    if changed then return .ok { turn, session := record }
    else
      return .error
        (conflict turn.conversationId (racedRevision record) session.sessionRevision
          [(text "detail", .string (text "turn_inserted_session_cas_failed"))])
  else
    return .error
      { error := existsError
        details :=
          [(text "turn_id", .string turn.turnId), (text "message_id", .string turn.messageId)] }

/-- `appendConversationTurn` at a base revision, `none` where that is no positive integer. -/
def appendConversationTurn (args : AppendArguments) (base : Option Nat)
    : Operation (Except Refusal Appended) :=
  match readAppend args base with
  | .error refusal => return .error refusal
  | .ok target => do
    let found ← selectSession target.sessionId
    match found with
    | none => return .error (notFound target.sessionId)
    | some session =>
      match checkAppend args target session with
      | .error refusal => return .error refusal
      | .ok turn => commitTurn session turn

def appendAnswer : Except Refusal Appended → Answer
  | .ok appended => .appended appended.turn appended.session
  | .error refusal => .refused refusal

/-- `CORE_AUTH_CONTEXT` -/
structure AuthContext where
  (principalId connectionId : Text)
  owner : Owner

/-- `SELECT … FROM auth_connection_principals WHERE …` -/
def findConnection (connections : List ConnectionRow) (auth : AuthContext) : Option ConnectionRow :=
  connections.find? (fun row => row.connectionId == auth.connectionId && row.owner == auth.owner)

def contextRequired : Refusal :=
  refuse "authenticated_account_context_required"

def activeContext (context : Option AuthContext) : Operation (Except Refusal AuthContext) :=
  match context with
  | none => return .error contextRequired
  | some auth =>
    if auth.owner.accountId = [] ∨ auth.owner.tenantId = [] ∨ auth.principalId = []
        ∨ auth.connectionId = [] then
      return .error contextRequired
    else do
      let row ← select (fun db => findConnection db.connections auth)
      match row.filter (·.principalId == auth.principalId) with
      | some row =>
        if row.isActive then return .ok auth
        else return .error (refuse "authenticated_connection_not_active")
      | none => return .error (refuse "authenticated_connection_not_active")

/-- `readStoredPolicies(db, auth, scope)`: one statement for each candidate -/
def readPolicies (owner : Owner) : List ScopeRef → Operation (List PolicyRow)
  | [] => return []
  | candidate :: rest => do
    let row ← select (fun db => findPolicy db.policies owner candidate)
    let rows ← readPolicies owner rest
    return row.toList ++ rows

def getEffectiveTurnSyncPolicy (context : Option AuthContext) (scope : SyncScope)
    : Operation (Except Refusal (Option PolicyRow)) := do
  let active ← activeContext context
  match active with
  | .error refusal => return .error refusal
  | .ok auth => do
    let rows ← readPolicies auth.owner (policyScopeCandidates scope)
    return .ok (effectivePolicyFromRows rows scope)

def policyConflict (expected actual : Option Nat) : Refusal where
  error := text "turnsync_policy_conflict"
  details :=
    [(text "expected_base_revision", (expected.map countValue).getD .null),
      (text "actual_revision", (actual.map countValue).getD .null)]

def insertNewPolicy (write : PolicyWrite) (auth : AuthContext) (ambient : TaskRuns.Ambient)
    : Operation Answer := do
  let id := text "tsp:" ++ ambient.uuid
  let inserted ← perform
    (.insertPolicy
      { policyId := id
        owner := auth.owner
        scope := write.scope
        mode := write.mode
        payloadMode := write.payloadMode
        revision := 1
        updatedByPrincipalId := auth.principalId
        updatedByConnectionId := auth.connectionId
        createdAt := ambient.now
        updatedAt := ambient.now })
  if inserted then do
    let created ← select (fun db => findPolicyById db.policies id)
    return .policy created true
  else
    .fail (text "UNIQUE constraint failed")

def updatePolicy (write : PolicyWrite) (existing : PolicyRow) (auth : AuthContext)
    (ambient : TaskRuns.Ambient)
    : Operation Answer :=
  match write.baseRevision with
  | none =>
    return .refused
      { error := text "turnsync_policy_revision_required"
        details := [(text "current_revision", countValue existing.revision)] }
  | some base =>
    if base ≠ existing.revision then
      return .refused (policyConflict (some base) (some existing.revision))
    else do
      let changed ← perform
        (.swapPolicy existing.policyId existing.revision
          { mode := write.mode
            payloadMode := write.payloadMode
            updatedByPrincipalId := auth.principalId
            updatedByConnectionId := auth.connectionId
            updatedAt := ambient.now })
      let latest ← select (fun db => findPolicyById db.policies existing.policyId)
      if changed then return .policy latest false
      else
        return .refused (policyConflict (some existing.revision) (latest.map PolicyRow.revision))

def turnSyncPolicySetFromBody (args : PolicyArguments) (context : Option AuthContext)
    : Operation Answer :=
  if !args.humanCommit.isTrue then
    return .refused
      { error := text "human_confirmation_required"
        details := [(text "human_confirmation_required", .bool true)] }
  else
    match normalizePolicyWrite args with
    | .error refusal => return .refused refusal
    | .ok write => do
      let active ← activeContext context
      match active with
      | .error refusal => return .refused refusal
      | .ok auth => do
        let existing ← select (fun db => findPolicy db.policies auth.owner write.scope)
        match existing with
        | some existing => updatePolicy write existing auth args.ambient
        | none =>
          if write.baseRevision.isSome then return .refused (policyConflict none none)
          else insertNewPolicy write auth args.ambient

def parseAliases (aliases : List Text) : List Text :=
  ((aliases.map trim).filter isActorId).eraseDups

def selectTurnSyncActor (auth : AuthContext) (connection : Option ConnectionRow)
    (requestedActorId : Value)
    : Except Refusal Text :=
  let requested := trim (givenText requestedActorId)
  if trim auth.principalId = [] ∨ trim auth.connectionId = [] ∨ trim auth.owner.accountId = []
      ∨ trim auth.owner.tenantId = [] then
    .error contextRequired
  else
    match connection with
    | none => .error (refuse "authenticated_connection_not_active")
    | some row =>
      if !row.isActive || row.connectionId != trim auth.connectionId
          || row.owner.accountId != trim auth.owner.accountId
          || row.owner.tenantId != trim auth.owner.tenantId
          || row.principalId != trim auth.principalId then
        .error (refuse "authenticated_connection_not_active")
      else
        let aliases := parseAliases row.routingAliases
        let allowed := ((trim auth.principalId :: aliases).filter isActorId).eraseDups
        if requested ≠ [] then
          if isActorId requested && allowed.contains requested then .ok requested
          else
            .error
              { error := text "turnsync_actor_not_owned_by_connection"
                details :=
                  [(text "requested_actor_id", .string requested),
                    (text "allowed_actor_ids", textList allowed)] }
        else
          match aliases with
          | [only] => .ok only
          | _ =>
            if aliases = [] ∧ isActorId (trim auth.principalId) then .ok (trim auth.principalId)
            else
              .error
                { error := text "turnsync_actor_id_required_for_connection"
                  details := [(text "allowed_actor_ids", textList allowed)] }

def resolveTurnSyncActor (context : Option AuthContext) (requestedActorId : Value)
    : Operation (Except Refusal Text) :=
  match context with
  | none => return .error contextRequired
  | some auth => do
    let row ← select (fun db => findConnection db.connections auth)
    return selectTurnSyncActor auth row requestedActorId

structure Identity where
  (conversationId turnId messageId actorId : Text)
  role : Role
  deriving DecidableEq

def TurnRow.identity (turn : TurnRow) : Identity where
  conversationId := turn.conversationId
  turnId := turn.turnId
  messageId := turn.messageId
  actorId := turn.actorId
  role := turn.role

def findTurnIdentity (turns : List TurnRow) (expected : Identity) : List TurnRow :=
  ((turns.filter (fun turn =>
      turn.turnId == expected.turnId || turn.messageId == expected.messageId)).insertionSort
    (fun a b => binaryLe a.createdAt b.createdAt)).take 2

def isProjected (session : Option SessionRow) (expected : Identity) : Bool :=
  session.any (fun session =>
    session.messageLog.any (fun entry =>
      entry.turnId == expected.turnId && entry.messageId == expected.messageId))

inductive Existing where
  | missing
  | conflict (refusal : Refusal)
  | replay (turn : TurnRow)

def existingTurn (turn : TurnRow) : Value :=
  .literal
    [(text "turn_id", .string turn.turnId), (text "message_id", .string turn.messageId),
      (text "conversation_id", .string turn.conversationId),
      (text "actor_id", .string turn.actorId), (text "role", .string turn.role.text)]

def classifyExisting (rows : List TurnRow) (expected : Identity) (session : Option SessionRow)
    : Existing :=
  match rows with
  | [] => .missing
  | [row] =>
    if row.identity ≠ expected then
      .conflict
        { error := text "turnsync_turn_identity_conflict"
          details := [(text "existing", existingTurn row)] }
    else if isProjected session expected then .replay row
    else
      .conflict
        { error := text "turnsync_turn_projection_incomplete"
          details :=
            [(text "detail",
                .string (text
                  ("Durable turn exists but Conversation Session message_log does not include it; "
                    ++ "fail closed instead of reporting a replay success."))),
              (text "existing", existingTurn row)] }
  | _ =>
    .conflict
      { error := text "turnsync_turn_identity_conflict"
        details :=
          [(text "detail",
              .string (text "turn_id and message_id resolve to different durable turns")),
            (text "existing", .null)] }

/-- `getConversationSession(db, conversation_id)`: nothing is found under an id that is none. -/
def getConversationSession (id : Text) : Operation (Option SessionRow) :=
  match conversationId (.string id) with
  | .ok id => selectSession id
  | .error _ => return none

def replayOrConflict (expected : Identity) : Operation (Option Answer) := do
  let session ← getConversationSession expected.conversationId
  let rows ← select (fun db => findTurnIdentity db.turns expected)
  match classifyExisting rows expected session with
  | .missing => return none
  | .conflict refusal => return some (.refused refusal)
  | .replay turn => return some (.replayed turn session)

/-- The args of `turnSyncAppendFromBody`: what is handed on to the append, with the instant of a
second attempt.
-/
structure SyncRequest where
  context : Option AuthContext
  append : AppendArguments
  syncConfirmed : Value
  retryNow : Text

/-- `String(value || "").trim()` -/
def orEmpty (value : Value) : Text :=
  trim (value.or (.string [])).toText

def requireIdentity (args : AppendArguments) (actorId : Text) (role : Role)
    : Except Refusal Identity :=
  let expected : Identity :=
    { conversationId := orEmpty args.conversationId
      turnId := orEmpty args.turnId
      messageId := orEmpty args.messageId
      actorId, role }
  if expected.conversationId = [] ∨ expected.turnId = [] ∨ expected.messageId = [] then
    .error (refuse "turnsync_turn_identity_required")
  else .ok expected

structure Gatekeeping where
  scope : SyncScope
  effective : Option PolicyRow
  confirmed : Bool

def scopeDetails (scope : SyncScope) : List (Text × Value) :=
  [(text "sync_policy_evaluated", .bool true),
    (text "sync_scope",
      .literal
        [(text "workspace_id", .ofOption scope.workspaceId), (text "chain", .ofOption scope.chain)])]

def Gatekeeping.policyDetails (gatekeeping : Gatekeeping) : List (Text × Value) :=
  let policy := gatekeeping.effective
  scopeDetails gatekeeping.scope
    ++ [(text "sync_policy",
        .literal
          [(text "mode", .string (effectiveMode policy).text),
            (text "payload_mode", .string (effectivePayloadMode policy).text),
            (text "scope_kind",
              .string ((policy.map (fun row => row.scope.kind.text)).getD (text "default"))),
            (text "scope_key", .string ((policy.map (fun row => row.scope.key)).getD (text "*"))),
            (text "revision", countValue ((policy.map PolicyRow.revision).getD 0)),
            (text "defaulted", .bool policy.isNone),
            (text "one_time_confirmation", .bool gatekeeping.confirmed)])]

/-- A refusal that says which policy was in effect. -/
def Gatekeeping.refused (gatekeeping : Gatekeeping) (refusal : Refusal) : Answer :=
  .refused
    { refusal with
      details :=
        refusal.details ++ gatekeeping.policyDetails
          ++ [(text "sync_confirmation_recorded", .bool gatekeeping.confirmed)] }

/-- What is found of a turn after an attempt has failed, with the policy that was in effect. -/
def Gatekeeping.found (gatekeeping : Gatekeeping) : Answer → Answer
  | .refused refusal => gatekeeping.refused refusal
  | answer => answer

def syncAttempt (args : AppendArguments) (expected : Identity) (gatekeeping : Gatekeeping)
    (attempt : Nat) (session : SessionRow) (lost : Refusal → Operation Answer)
    : Operation Answer := do
  let result ← appendConversationTurn args (some session.sessionRevision)
  match result with
  | .ok appended => return .synced appended.turn appended.session attempt
  | .error refusal =>
    if refusal.error = existsError ∨ refusal.error = conflictError then do
      let replay ← replayOrConflict expected
      match replay with
      | some answer => return gatekeeping.found answer
      | none =>
        if refusal.error = conflictError then lost refusal
        else return gatekeeping.refused refusal
    else
      return gatekeeping.refused refusal

def retryAppend (request : SyncRequest) (args : AppendArguments) (expected : Identity)
    (gatekeeping : Gatekeeping) (refusal : Refusal)
    : Operation Answer := do
  let session ← getConversationSession expected.conversationId
  match session with
  | none => return .refused refusal
  | some session =>
    syncAttempt { args with now := request.retryNow } expected gatekeeping 1 session
      (fun refusal => return gatekeeping.refused refusal)

def Gatekeeping.denied (gatekeeping : Gatekeeping) : Refusal :=
  match evaluateTurnSyncStandingPolicy gatekeeping.effective with
  | .allowed =>
    { error := text "turnsync_policy_denied", details := gatekeeping.policyDetails }
  | .denied error required =>
    { error
      details :=
        (text "requires_human_confirmation", .bool required) :: gatekeeping.policyDetails }

/-- The part of a call after the turn has been found to be new: the policy of the session's scope
decides, once, over both attempts.
-/
def syncNew (request : SyncRequest) (expected : Identity) : Operation Answer := do
  let session ← getConversationSession expected.conversationId
  match session with
  | none => return .refused (notFound expected.conversationId)
  | some session => do
    let scope := turnSyncScopeFromSession session
    let resolved ← getEffectiveTurnSyncPolicy request.context scope
    match resolved with
    | .error refusal =>
      return .refused { refusal with details := refusal.details ++ scopeDetails scope }
    | .ok effective =>
      let gatekeeping : Gatekeeping :=
        { scope, effective, confirmed := oneTimeConfirmed effective request.syncConfirmed }
      let args := { request.append with actorId := .string expected.actorId }
      if letsIn effective request.syncConfirmed then
        syncAttempt args expected gatekeeping 0 session
          (retryAppend request args expected gatekeeping)
      else
        return .refused gatekeeping.denied

/-- The part of a call after its args have been read. -/
def syncIdentified (request : SyncRequest) (expected : Identity) : Operation Answer := do
  let existing ← replayOrConflict expected
  match existing with
  | some answer => return answer
  | none => syncNew request expected

def turnSyncAppendFromBody (request : SyncRequest) : Operation Answer :=
  match readRole request.append.role with
  | .error refusal => return .refused refusal
  | .ok role => do
    let selected ← resolveTurnSyncActor request.context (request.append.actorId.or .null)
    match selected with
    | .error refusal => return .refused refusal
    | .ok actor =>
      match requireIdentity request.append actor role with
      | .error refusal => return .refused refusal
      | .ok expected => syncIdentified request expected

end CairnStone.Conversation
