import CairnStone.CodeSession.Checkpoints

/-! Transitions of a task of a session and of its lifecycle, cut at every statement. -/

namespace CairnStone.CodeSession

open JavaScript Data Concurrency
open TaskRuns (Refusal refuse nonEmptyString countValue textList refuseThrown)
open Conversation (shortText named)

/-- The args of `transitionCodeSessionTask`, with the time that is recorded. -/
structure TaskArguments where
  (codeSessionId actorId taskId toState baseRevision note title authorId : Value)
  now : Text

structure TaskTarget where
  (sessionId actor taskId : Text)
  toState : TaskState
  base : Nat
  author : Text

/-- `author_id`, or the actor for none -/
def readAuthor (authorId : Value) (actor : Text) : Except Refusal Text :=
  match nonEmptyString authorId with
  | none => .ok actor
  | some _ => refuseThrown "invalid_code_session_task_author" (TaskRuns.actorId authorId "author_id")

def readTask (args : TaskArguments) : Except Refusal TaskTarget := do
  let sessionId ← refuseThrown "invalid_code_session_task_transition"
    (codeSessionId args.codeSessionId)
  let actor ← refuseThrown "invalid_code_session_task_transition"
    (TaskRuns.actorId args.actorId "actor_id")
  match nonEmptyString args.taskId with
  | none => .error (refuse "task_id_required")
  | some taskId =>
    match named CODE_TASK_STATES TaskState.text args.toState with
    | none =>
      .error
        { error := text "invalid_code_session_task_state"
          details :=
            (text "state", args.toState) :: allowedTexts (CODE_TASK_STATES.map TaskState.text) }
    | some toState => do
      let base ← readBase args.baseRevision
      let author ← readAuthor args.authorId actor
      .ok { sessionId, actor, taskId := taskId.take 128, toState, base, author }

/-- `task_ledger.find(task => task.task_id === taskId)` -/
def findTask (ledger : List TaskEntry) (taskId : Text) : Option TaskEntry :=
  ledger.find? (·.taskId == taskId)

def putTask (ledger : List TaskEntry) (entry : TaskEntry) : List TaskEntry :=
  match ledger.findIdx? (·.taskId == entry.taskId) with
  | some index => ledger.set index entry
  | none => ledger ++ [entry]

def checkTask (args : TaskArguments) (target : TaskTarget) (existing : Option TaskEntry)
    : Except Refusal Unit :=
  match existing with
  | some task =>
    if isLegalTaskTransition (some task.state) target.toState then .ok ()
    else
      .error
        { error := text "code_session_task_transition_illegal"
          details :=
            [(text "task_id", .string target.taskId), (text "from_state", .string task.state.text),
              (text "to_state", .string target.toState.text),
              (text "allowed", textList ((CODE_TASK_TRANSITIONS task.state).map TaskState.text))] }
  | none =>
    match nonEmptyString args.title with
    | some _ => .ok ()
    | none => .error (refuse "task_title_required_for_create")

/-- `text || fallback` -/
def orElse (s : Option Text) (fallback : Text) : Text :=
  (s.filter (· != [])).getD fallback

def nextEntry (args : TaskArguments) (target : TaskTarget) (existing : Option TaskEntry)
    : TaskEntry where
  taskId := target.taskId
  title := (shortText 500 args.title).getD (orElse (existing.map (·.title)) target.taskId)
  state := target.toState
  actorId := some target.actor
  authorId := some (orElse (existing.bind (·.authorId)) target.author)
  notes := (shortText 2000 args.note).or ((existing.bind (·.notes)).filter (· != []))
  updatedAt := some args.now

section

variable (sha256Text : Text → Digest)

def eventBody (event : TaskEventRow) : Value :=
  .literal
    [(text "schema", .string (text "cairnstone-code-session-task-ledger-event-v1")),
      (text "code_session_id", .string event.codeSessionId),
      (text "task_id", .string event.taskId),
      (text "from_state", .ofOption (event.fromState.map TaskState.text)),
      (text "to_state", .string event.toState.text),
      (text "actor_id", .string event.actorId),
      (text "author_id", .string event.authorId),
      (text "note", .ofOption event.note),
      (text "session_revision", countValue event.sessionRevision),
      (text "created_at", .string event.createdAt)]

def identified (event : TaskEventRow) : TaskEventRow :=
  { event with
    eventId := text "tle:" ++ (sha256Text (stableJson (scrubSecretsDeep (eventBody event)))).text }

def taskEvent (args : TaskArguments) (target : TaskTarget) (session : SessionRow) : TaskEventRow :=
  let existing := findTask session.taskLedger target.taskId
  identified sha256Text
    { eventId := []
      codeSessionId := target.sessionId
      taskId := target.taskId
      fromState := existing.map (·.state)
      toState := target.toState
      actorId := target.actor
      authorId := orElse (existing.bind (·.authorId)) target.author
      note := (nextEntry args target existing).notes
      sessionRevision := session.sessionRevision + 1
      createdAt := args.now }

variable (localeLe : Text → Text → Bool)

def seenAt (session : SessionRow) (actor : Text) : List ActorEntry :=
  touchActor localeLe session.actors actor (fun entry =>
    { entry with lastSessionRevision := some (session.sessionRevision + 1 : Nat) })

def taskChange (entry : TaskEntry) (session : SessionRow) (actor now : Text) : SessionChange :=
  .task (putTask session.taskLedger entry) (seenAt localeLe session actor) now

def appendEvent (event : TaskEventRow) (entry : TaskEntry) (session : SessionRow) (base : Nat)
    : Operation SessionAnswer := do
  let inserted ← perform (.insertEvent event)
  if inserted then do
    let swapped ← perform
      (.swapSession event.codeSessionId base
        (taskChange localeLe entry session event.actorId event.createdAt))
    if swapped then do
      let record ← getCodeSession event.codeSessionId
      match record with
      | none => .fail (text "Cannot read properties of null (reading 'task_ledger')")
      | some session =>
        return .transitioned { event := event, baseRevision := base, task := entry } session
    else do
      let raced ← getCodeSession event.codeSessionId
      return .refused (revisionConflict event.codeSessionId (racedRevision raced) base [])
  else
    return .refused
      { error := text "code_session_task_event_already_exists"
        details := [(text "event_id", .string event.eventId)] }

def transitionCodeSessionTask (args : TaskArguments) : Operation SessionAnswer :=
  match readTask args with
  | .error refusal => return .refused refusal
  | .ok target => do
    let current ← getCodeSession target.sessionId
    match current with
    | none => return .refused (sessionNotFound target.sessionId)
    | some session =>
      if session.sessionRevision ≠ target.base then
        return .refused
          (revisionConflict target.sessionId (countValue session.sessionRevision) target.base [])
      else
        let existing := findTask session.taskLedger target.taskId
        match checkTask args target existing with
        | .error refusal => return .refused refusal
        | .ok _ =>
          appendEvent localeLe (taskEvent sha256Text args target session)
            (nextEntry args target existing) session target.base

end

/-- The args of `transitionCodeSessionLifecycle`, with the time that is recorded. -/
structure LifecycleArguments where
  (codeSessionId actorId targetLifecycle baseRevision note : Value)
  now : Text

structure LifecycleTarget where
  (sessionId actor : Text)
  lifecycle : Lifecycle
  base : Nat

def readLifecycle (args : LifecycleArguments) : Except Refusal LifecycleTarget := do
  let sessionId ← refuseThrown "invalid_code_session_transition" (codeSessionId args.codeSessionId)
  let actor ← refuseThrown "invalid_code_session_transition"
    (TaskRuns.actorId args.actorId "actor_id")
  match named CODE_SESSION_LIFECYCLES Lifecycle.text args.targetLifecycle with
  | none =>
    .error
      { error := text "invalid_code_session_lifecycle"
        details := allowedTexts (CODE_SESSION_LIFECYCLES.map Lifecycle.text) }
  | some lifecycle => do
    let base ← readBase args.baseRevision
    .ok { sessionId, actor, lifecycle, base }

def lifecycleRefusal (error : String) (lifecycle : Lifecycle) : Refusal where
  error := text error
  details := [(text "lifecycle", .string lifecycle.text)]

def checkLifecycle (source target : Lifecycle) : Except Refusal Unit :=
  match target with
  | .paused =>
    if source ≠ .active ∧ source ≠ .blocked then
      .error (lifecycleRefusal "code_session_pause_invalid_lifecycle" source)
    else .ok ()
  | .active =>
    if source ≠ .paused ∧ source ≠ .blocked then
      .error (lifecycleRefusal "code_session_resume_invalid_lifecycle" source)
    else .ok ()
  | _ => .ok ()

def lifecycleConflict (sessionId : Text) (found : Option SessionRow) (base : Nat) : Refusal where
  error := text "code_session_conflict"
  details :=
    (revisionConflict sessionId (racedRevision found) base []).details
      ++ [(text "lifecycle", .ofOption (found.map (fun session => session.lifecycle.text)))]

section

variable (localeLe : Text → Text → Bool)

def swapLifecycle (args : LifecycleArguments) (target : LifecycleTarget) (session : SessionRow)
    : Operation SessionAnswer := do
  let swapped ← perform
    (.swapSession target.sessionId target.base
      (.lifecycle target.lifecycle (seenAt localeLe session target.actor) args.now))
  let record ← getCodeSession target.sessionId
  if swapped then
    return .moved session.lifecycle target.lifecycle target.actor (shortText 500 args.note)
      target.base record
  else return .refused (lifecycleConflict target.sessionId record target.base)

def transitionCodeSessionLifecycle (args : LifecycleArguments) : Operation SessionAnswer :=
  match readLifecycle args with
  | .error refusal => return .refused refusal
  | .ok target => do
    let current ← getCodeSession target.sessionId
    match current with
    | none => return .refused (sessionNotFound target.sessionId)
    | some session =>
      if session.sessionRevision ≠ target.base then
        return .refused (lifecycleConflict target.sessionId (some session) target.base)
      else
        match checkLifecycle session.lifecycle target.lifecycle with
        | .error refusal => return .refused refusal
        | .ok _ => swapLifecycle localeLe args target session

end

end CairnStone.CodeSession
