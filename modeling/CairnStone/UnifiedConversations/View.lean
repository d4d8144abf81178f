import CairnStone.Conversation.IdentityScope
import CairnStone.Correspondence.Mailbox
import CairnStone.Data.Newest

/-! What the unified view reads for one identity: its conversation sessions, its task runs and its mailbox
threads. An answer carries its rows in a list with a name.
-/

namespace CairnStone.UnifiedConversations

open JavaScript Data List
open Conversation (SessionRow actorMayAccessSession)
open Correspondence (DeliveryRow MessageStone ThreadSummary)
open TaskRuns (Refusal refuse refuseThrown TaskRun rowToTaskRun)

variable {rows : List TaskRuns.Row}

/-- `a.localeCompare(b) <= 0` orders all texts. -/
structure Collation where
  le : Text → Text → Bool
  total : ∀ a b, le a b = true ∨ le b a = true
  trans : ∀ a b c, le a b = true → le b c = true → le a c = true

/-- The tables that the view reads. Connections are in the order of their creation. -/
structure Database where
  connections : List CoreAuth.ConnectionRow
  sessions : List SessionRow
  taskRuns : List TaskRuns.Row
  deliveries : List DeliveryRow
  stones : List MessageStone
  keyedRuns : Keyed (·.taskRunId) taskRuns
  namedRuns : ∀ row ∈ taskRuns, row.taskRunId ≠ []

structure Listing (α : Type) where
  lists : List (Text × List α)

/-- `listed.name || []` -/
def Listing.get {α : Type} (listed : Listing α) (name : String) : List α :=
  ((listed.lists.find? (·.1 == text name)).map (·.2)).getD []

def MAX_LIST : Nat := 100

def DEFAULT_LIST : Nat := 20

/-- `status ? session.status === status : true` -/
def hasRequestedStatus (status : Option Text) (session : SessionRow) : Bool :=
  match status with
  | none => true
  | some status => status == [] || session.status.text == status

def listConversationSessions (sessions : List SessionRow) (actorId : Value) (status : Option Text)
    (limit : Nat)
    : Except Refusal (Listing SessionRow) :=
  match refuseThrown "invalid_actor_id" (TaskRuns.actorId actorId "actor_id") with
  | .error refusal => .error refusal
  | .ok actor =>
    let capped := min (max (if limit = 0 then DEFAULT_LIST else limit) 1) MAX_LIST
    let rows :=
      (sessions.insertionSort (fun a b => binaryLe b.updatedAt a.updatedAt)).take
        (min (capped * 20) 500)
    .ok
      { lists :=
          [(text "conversations",
            ((rows.filter (fun session => actorMayAccessSession session actor)).filter
              (hasRequestedStatus status)).take capped)] }

def TASK_RUN_STATUSES : List TaskRuns.Status :=
  [.proposed, .queued, .running, .completed, .failed, .cancelled]

/-- `requested_by = ? OR assignee_actor_id = ? OR human_committed_by = ?` -/
def isRunOf (row : TaskRuns.Row) (actor : Text) : Bool :=
  row.requestedBy == actor || row.assigneeActorId == some actor || row.humanCommittedBy == some actor

/-- `? IS NULL OR status = ?` -/
def hasStatus (status : Option Text) (row : TaskRuns.Row) : Bool :=
  match status with
  | none => true
  | some status => row.status.text == status

def latestRuns (rows : List TaskRuns.Row) (actor : Text) (status : Option Text) (limit : Nat)
    : List TaskRun :=
  (((rows.filter (fun row => isRunOf row actor && hasStatus status row)).insertionSort
      (fun a b => binaryLe b.createdAt a.createdAt)).take limit).map rowToTaskRun

def listTaskRuns (rows : List TaskRuns.Row) (actorId : Value) (status : Option Text) (limit : Nat)
    : Except Refusal (Listing TaskRun) :=
  match refuseThrown "invalid_actor_id" (TaskRuns.actorId actorId "actor_id") with
  | .error refusal => .error refusal
  | .ok actor =>
    let lim := max 1 (min MAX_LIST limit)
    if status.any (fun status =>
        status != [] && !(TASK_RUN_STATUSES.map TaskRuns.Status.text).contains status) then
      .error (refuse "invalid_status")
    else
      .ok { lists := [(text "task_runs", latestRuns rows actor status lim)] }

theorem exists_of_mem_latestRuns {actor : Text} {status : Option Text} {limit : Nat}
    {run : TaskRun} (mem : run ∈ latestRuns rows actor status limit)
    : ∃ row ∈ rows, isRunOf row actor = true ∧ hasStatus status row = true
      ∧ run = rowToTaskRun row := by
  obtain ⟨row, taken, rfl⟩ := mem_map.mp mem
  have filtered := (mem_insertionSort _).mp (mem_of_mem_take taken)
  obtain ⟨here, hit⟩ := mem_filter.mp filtered
  rw [Bool.and_eq_true] at hit
  exact ⟨row, here, hit.1, hit.2, rfl⟩

theorem keyed_latestRuns (keyed : Keyed (·.taskRunId) rows) {actor : Text}
    {status : Option Text} {limit : Nat}
    : Keyed (fun run : TaskRun => run.taskRunId) (latestRuns rows actor status limit) := by
  unfold latestRuns
  refine Keyed.sublist ?_ ((take_sublist limit _).map rowToTaskRun)
  refine Keyed.perm ?_ ((perm_insertionSort _ _).map rowToTaskRun)
  have matching := keyed.sublist (filter_sublist
    (p := fun row => isRunOf row actor && hasStatus status row))
  unfold Keyed at matching ⊢
  rw [map_map]
  exact matching

/-- `listThreads({ recipient_id, limit }, env)`, with the message that it throws -/
def listThreads (collation : Collation) (db : Database) (actorId : Value) (limit : Nat)
    : Except Text (Listing ThreadSummary) :=
  match Correspondence.listThreads collation.le db.deliveries db.stones actorId limit with
  | .error message => .error message
  | .ok threads => .ok { lists := [(text "threads", threads)] }

end CairnStone.UnifiedConversations

/-! The unified view: what an account's selected identities may read, merged over these identities with
the identities that each record is visible through, and cut to the newest.
-/

namespace CairnStone.UnifiedConversations

open JavaScript Data List
open Conversation (AuthContext IdentityScope OwnedIdentity SessionRow addTo
  compileOwnedIdentityScope contextRequired isActiveRowOf MAX_IDENTITIES)
open Correspondence (ThreadSummary)
open TaskRuns (Refusal refuse refuseThrown TaskRun)

def MAX_LIMIT : Int := 100

def DEFAULT_LIMIT : Nat := 50

/-- What the platform does: `localeCompare`, and `Number(value)`. -/
structure Host where
  collation : Collation
  toNumber : Value → Number

def clampLimit (host : Host) (value : Value) : Nat :=
  match host.toNumber value with
  | .finite x => (max 1 (min MAX_LIMIT ⌊x.value⌋)).toNat
  | _ => DEFAULT_LIMIT

/-- The items of a list in their order, the empty ones and the ones seen before left out. -/
def collectItems (maxItems : Nat) (out : List Text) : List (Option Value) → Except Text (List Text)
  | [] => .ok out
  | slot :: rest =>
    let item := slot.getD .undefined
    let name := trim (if item.truthy then item.toText else [])
    if name = [] ∨ out.contains name = true then collectItems maxItems out rest
    else if maxItems < out.length + 1 then .error (text "too_many_items")
    else collectItems maxItems (out ++ [name]) rest

/-- `normalizeStringList(value, maxItems)`, with the message that it throws -/
def normalizeStringList (value : Value) (maxItems : Nat) : Except Text (List Text) :=
  match value with
  | .undefined => .ok []
  | .null => .ok []
  | .array slots => collectItems maxItems [] slots
  | _ => .error (text "expected_array")

/-- `value == null ? null : String(value)` -/
def requestedStatus (value : Value) : Option Text :=
  match value with
  | .undefined => none
  | .null => none
  | given => some given.toText

structure Request where
  (actorIds clientFamilies : List Text)
  (conversationStatus taskStatus : Option Text)
  limit : Nat

def checkStatus (error : String) (known : List Text) (status : Option Text) : Except Refusal Unit :=
  if status.any (fun status => status != [] && !known.contains status) then .error (refuse error)
  else .ok ()

/-- The filters and the limit of a body, checked. -/
def readRequest (host : Host) (body : Value) : Except Refusal Request := do
  let actorIds ←
    refuseThrown "invalid_identity_filter"
      (normalizeStringList (body.get (text "actor_ids")) MAX_IDENTITIES)
  let clientFamilies ←
    refuseThrown "invalid_identity_filter"
      (normalizeStringList (body.get (text "client_families")) 32)
  let conversationStatus := requestedStatus (body.get (text "conversation_status"))
  let taskStatus := requestedStatus (body.get (text "task_status"))
  checkStatus "invalid_conversation_status"
    (Conversation.CONVERSATION_SESSION_STATUSES.map Conversation.Status.text) conversationStatus
  checkStatus "invalid_task_status" (TASK_RUN_STATUSES.map TaskRuns.Status.text) taskStatus
  .ok
    { actorIds
      clientFamilies
      conversationStatus
      taskStatus
      limit := clampLimit host (body.get (text "limit")) }

def Request.selects (request : Request) (identity : OwnedIdentity) : Bool :=
  (request.actorIds.isEmpty || request.actorIds.contains identity.actorId)
  && (request.clientFamilies.isEmpty
    || identity.clientFamilies.any (fun family => request.clientFamilies.contains family))

structure Provenance where
  actorId : Text
  (clientFamilies connectionIds identityKinds : List Text)
  deriving DecidableEq

def Provenance.sorted (item : Provenance) : Provenance :=
  { item with
    clientFamilies := item.clientFamilies.insertionSort (fun a b => a ≤ b)
    connectionIds := item.connectionIds.insertionSort (fun a b => a ≤ b)
    identityKinds := item.identityKinds.insertionSort (fun a b => a ≤ b) }

def visibleVia (identity : OwnedIdentity) : Provenance :=
  Provenance.sorted
    { actorId := identity.actorId
      clientFamilies := identity.clientFamilies
      connectionIds := identity.connectionIds
      identityKinds := identity.identityKinds }

/-- What is known of an actor, with what else is known. -/
def Provenance.absorb (prior next : Provenance) : Provenance :=
  { prior with
    clientFamilies := next.clientFamilies.foldl addTo prior.clientFamilies
    connectionIds := next.connectionIds.foldl addTo prior.connectionIds
    identityKinds := next.identityKinds.foldl addTo prior.identityKinds }

def mergeVisibility (collation : Collation) (existing : List Provenance) (next : Provenance)
    : List Provenance :=
  let byActor :=
    if existing.any (fun item => item.actorId == next.actorId) then
      existing.map (fun item => if item.actorId == next.actorId then item.absorb next else item)
    else
      existing
      ++ [Provenance.absorb
          { actorId := next.actorId, clientFamilies := [], connectionIds := [], identityKinds := [] }
          next]
  (byActor.map Provenance.sorted).insertionSort (fun a b => collation.le a.actorId b.actorId)

structure Entry (α : Type) where
  record : α
  visibleVia : List Provenance

def mergeRecord {α : Type} (collation : Collation) (key : α → Text) (identity : OwnedIdentity)
    (entries : List (Entry α)) (record : α)
    : List (Entry α) :=
  if key record = [] then entries
  else if entries.any (fun entry => key entry.record == key record) then
    entries.map (fun entry =>
      if key entry.record == key record then
        { entry with
          visibleVia := mergeVisibility collation entry.visibleVia (visibleVia identity) }
      else entry)
  else entries ++ [{ record, visibleVia := [visibleVia identity] }]

structure RecipientView where
  actorId : Text
  summary : ThreadSummary

structure ThreadEntry where
  threadId : Text
  latestAt : Option Text
  summary : ThreadSummary
  visibleVia : List Provenance
  recipientViews : List RecipientView

def mergeThread (collation : Collation) (identity : OwnedIdentity) (entries : List ThreadEntry)
    (thread : ThreadSummary)
    : List ThreadEntry :=
  let id := trim thread.threadId
  let view : RecipientView := { actorId := identity.actorId, summary := thread }
  if id = [] then entries
  else if entries.any (fun entry => entry.threadId == id) then
    entries.map (fun entry =>
      if entry.threadId == id then
        let newer := decide (entry.latestAt.getD [] < thread.latestAt.getD [])
        { entry with
          visibleVia := mergeVisibility collation entry.visibleVia (visibleVia identity)
          recipientViews := entry.recipientViews ++ [view]
          latestAt := if newer then thread.latestAt else entry.latestAt
          summary := if newer then thread else entry.summary }
      else entry)
  else
    entries
    ++ [{ threadId := id
          latestAt := thread.latestAt
          summary := thread
          visibleVia := [visibleVia identity]
          recipientViews := [view] }]

structure ReadError where
  (actorId source error : Text)

structure Aggregates where
  sessions : List (Entry SessionRow)
  taskRuns : List (Entry TaskRun)
  threads : List ThreadEntry
  readErrors : List ReadError

def rowsOf {ε α : Type} (listed : Except ε (Listing α)) (name : String) : List α :=
  match listed with
  | .ok listed => listed.get name
  | .error _ => []

def errorsOf {ε α : Type} (identity : OwnedIdentity) (source : String) (error : ε → Text)
    (listed : Except ε (Listing α))
    : List ReadError :=
  match listed with
  | .ok _ => []
  | .error failure =>
    [{ actorId := identity.actorId, source := text source, error := error failure }]

def readIdentity (host : Host) (db : Database) (request : Request) (found : Aggregates)
    (identity : OwnedIdentity)
    : Aggregates :=
  let actor : Value := .string identity.actorId
  let sessions :=
    listConversationSessions db.sessions actor request.conversationStatus request.limit
  let runs := listTaskRuns db.taskRuns actor request.taskStatus request.limit
  let threads := listThreads host.collation db actor request.limit
  { sessions :=
      (rowsOf sessions "sessions").foldl
        (mergeRecord host.collation (·.conversationId) identity) found.sessions
    taskRuns :=
      (rowsOf runs "task_runs").foldl
        (mergeRecord host.collation (·.taskRunId) identity) found.taskRuns
    threads := (rowsOf threads "threads").foldl (mergeThread host.collation identity) found.threads
    readErrors :=
      found.readErrors ++ errorsOf identity "conversation_sessions" Refusal.error sessions
      ++ errorsOf identity "task_runs" Refusal.error runs
      ++ errorsOf identity "mailbox_threads" id threads }

def firstGiven (times : List Text) : Text :=
  (times.find? (· != [])).getD []

def sessionTime (session : SessionRow) : Text :=
  firstGiven [session.updatedAt, session.createdAt]

/-- `updated_at || completed_at || started_at || created_at || ""` -/
def runTime (run : TaskRun) : Text :=
  firstGiven [run.updatedAt, run.completedAt.getD [], run.startedAt.getD [], run.createdAt]

inductive EventType where
  | proposed
  | dispatched
  | status
  | completed
  | failed
  deriving DecidableEq

def eventTypeFromTaskRun (run : TaskRun) : EventType :=
  if run.status = .failed ∨ run.dispatchState = .failed then .failed
  else if run.status = .completed ∨ run.dispatchState = .completed then .completed
  else if run.status = .proposed ∧ run.dispatchState = .notDispatched then .proposed
  else if run.dispatchState = .dispatched ∨ run.status = .queued then .dispatched
  else .status

structure Event where
  eventType : EventType
  taskRunId : Text
  parentTaskRunId : Option Text
  status : TaskRuns.Status
  dispatchState : TaskRuns.DispatchState
  occurredAt : Text
  visibleVia : List Provenance

def eventFromTaskRun (entry : Entry TaskRun) : Event where
  eventType := eventTypeFromTaskRun entry.record
  taskRunId := entry.record.taskRunId
  parentTaskRunId := entry.record.parentTaskRunId
  status := entry.record.status
  dispatchState := entry.record.dispatchState
  occurredAt := runTime entry.record
  visibleVia := entry.visibleVia

/-- Later events come first; of two at one time the one with the greater id. -/
def eventBefore (collation : Collation) (a b : Event) : Bool :=
  if b.occurredAt < a.occurredAt then true
  else if a.occurredAt < b.occurredAt then false
  else collation.le b.taskRunId a.taskRunId

def listEventsFromTaskRuns (collation : Collation) (runs : List (Entry TaskRun)) (limit : Nat)
    : List Event :=
  ((runs.map eventFromTaskRun).insertionSort (fun a b => eventBefore collation a b)).take
    (max 1 (min MAX_LIST limit))

def atLeastAsNew {α : Type} (collation : Collation) (time : α → Text) (a b : α) : Prop :=
  collation.le (time b) (time a) = true

instance decidableAtLeastAsNew {α : Type} (collation : Collation) (time : α → Text)
    : DecidableRel (atLeastAsNew collation time) :=
  fun a b => inferInstanceAs (Decidable (collation.le (time b) (time a) = true))

/-- `values.sort(newestFirst(fields)).slice(0, limit)` -/
def newestOf {α β : Type} (collation : Collation) (record : β → α) (time : α → Text) (limit : Nat)
    (values : List β)
    : List β :=
  (values.insertionSort
    (fun a b => atLeastAsNew collation time (record a) (record b))).take limit

structure View where
  scope : IdentityScope
  identities : List Provenance
  request : Request
  conversations : List (Entry SessionRow)
  mailboxThreads : List ThreadEntry
  taskRuns : List (Entry TaskRun)
  events : List Event
  isPartial : Bool
  readErrors : List ReadError

def viewOf (host : Host) (db : Database) (scope : IdentityScope) (request : Request) : View :=
  let identities := scope.identities.filter request.selects
  let found :=
    identities.foldl (readIdentity host db request)
      { sessions := [], taskRuns := [], threads := [], readErrors := [] }
  let taskRuns :=
    newestOf host.collation (fun entry : Entry TaskRun => entry.record) runTime request.limit
      found.taskRuns
  { scope
    identities := identities.map visibleVia
    request
    conversations :=
      newestOf host.collation (fun entry : Entry SessionRow => entry.record) sessionTime
        request.limit found.sessions
    mailboxThreads :=
      newestOf host.collation (fun entry : ThreadEntry => entry.latestAt.getD []) id request.limit
        found.threads
    taskRuns
    events := listEventsFromTaskRuns host.collation taskRuns request.limit
    isPartial := !found.readErrors.isEmpty
    readErrors := found.readErrors }

def resolveOwnedIdentityScope (host : Host) (context : Option AuthContext) (db : Database)
    : Except Refusal IdentityScope :=
  match context with
  | none => .error contextRequired
  | some auth =>
    compileOwnedIdentityScope host.collation.le auth
      (db.connections.filter (isActiveRowOf auth.owner.accountId auth.owner.tenantId))

/-- `unifiedConversationsFromBody(body, env, { listThreads })` -/
def unifiedConversations (host : Host) (context : Option AuthContext) (body : Value) (db : Database)
    : Except Refusal View := do
  let scope ← resolveOwnedIdentityScope host context db
  let request ← readRequest host body
  .ok (viewOf host db scope request)

end CairnStone.UnifiedConversations
