import CairnStone.CodeSession.LeaseCalls
import CairnStone.JavaScript.Conversions

/-! Checkpoints: what one records of its session and of the call, and its creation, cut at every
statement.
-/

namespace CairnStone.CodeSession

open JavaScript Data Concurrency
open TaskRuns (Refusal refuse isGiven nonEmptyString listOf countValue textList actorId
  refuseThrown)
open Conversation (revisionOf shortText tooLarge named)
open Workspace (TipEntry buildTipVector computeTipVectorDigest tipVectorsEqual)

def MAX_CHANGED_PATHS : Nat := 500
def MAX_ARTIFACT_REFS : Nat := 100

/-- An entry of `changed_paths`. -/
def changedPath (path : Text) (revisionId contentHash : Value) (change : Text) : Value :=
  .literal
    [(text "path", .string path), (text "revision_id", revisionId), (text "content_hash", contentHash),
      (text "change", .string change)]

def TipEntry.changed (tip : TipEntry) : Value :=
  changedPath tip.path ((Value.string tip.revisionId).or .null) ((Value.string tip.contentHash).or .null)
    (text "present")

/-- A text, or an object with one under the key; `none` for anything else. -/
def textOrMember (key : String) (item : Value) : Option Text :=
  match item with
  | .string s => nonEmptyString (.string s)
  | .object proto properties => nonEmptyString ((Value.object proto properties).get (text key))
  | _ => none

def readChangedPath (item : Value) : Except Refusal Value :=
  match textOrMember "path" item with
  | none => .error (refuse "invalid_code_checkpoint_changed_path")
  | some path =>
    .ok (changedPath (path.take 512) (.ofOption (nonEmptyString (item.get (text "revision_id"))))
      (.ofOption (nonEmptyString (item.get (text "content_hash"))))
      ((shortText 32 (item.get (text "change"))).getD (text "present")))

def normalizeChangedPathsInput (input : Value) (tipVector : List TipEntry)
    : Except Refusal (List Value) :=
  if !isGiven input then .ok ((tipVector.map TipEntry.changed).take MAX_CHANGED_PATHS)
  else
    match input with
    | .array _ =>
      if MAX_CHANGED_PATHS < (listOf input).length then
        .error (tooLarge (text "code_checkpoint_changed_paths_too_large") MAX_CHANGED_PATHS)
      else (listOf input).mapM readChangedPath
    | _ => .error (refuse "invalid_code_checkpoint_changed_paths")

def readReference (error kind : String) (more : Value → List (Text × Value)) (item : Value)
    : Except Refusal Value :=
  match item with
  | .string s =>
    match nonEmptyString (.string s) with
    | none => .error (refuse error)
    | some ref => .ok (.literal [(text "ref", .string (ref.take 256)), (text "kind", .string (text kind))])
  | item =>
    match (if item.isObject then nonEmptyString (item.get (text "ref")) else none) with
    | none => .error (refuse error)
    | some ref =>
      .ok (.literal
        ([(text "ref", .string (ref.take 256)),
            (text "kind",
              .string ((shortText 64 (item.get (text "kind"))).getD (text kind)))]
          ++ more item))

def normalizeReferences (name kind : String) (more : Value → List (Text × Value)) (input : Value)
    : Except Refusal (List Value) :=
  if !isGiven input then .ok []
  else
    match input with
    | .array _ =>
      if MAX_ARTIFACT_REFS < (listOf input).length then
        .error (tooLarge (text (name ++ "s_too_large")) MAX_ARTIFACT_REFS)
      else (listOf input).mapM (readReference ("invalid_" ++ name) kind more)
    | _ => .error (refuse ("invalid_" ++ name ++ "s"))

def normalizeArtifactRefs (input : Value) : Except Refusal (List Value) :=
  normalizeReferences "code_checkpoint_artifact_ref" "artifact" (fun _ => []) input

def normalizeReceiptRefs (input : Value) : Except Refusal (List Value) :=
  normalizeReferences "code_session_execution_receipt_ref" "receipt"
    (fun item => [(text "status", .ofOption (shortText 64 (item.get (text "status"))))]) input

def optionalMember (key : String) (item : Value) : List (Text × Value) :=
  ((nonEmptyString (item.get (text key))).map (fun s => (text key, .string s))).toList

/-- An entry of `active_task_leases`, as a checkpoint takes it. -/
def leaseStubOf (entry : Value) : Value :=
  scrubSecretsDeep
    (if entry.isObject then entry
      else .literal [(text "stub", .string (entry.toText.take 128))])

/-- An entry of `known_concurrent_actors`, as a checkpoint takes it. -/
def actorStubOf (entry : Value) : Value :=
  match nonEmptyString entry with
  | some actor => .literal [(text "actor_id", .string actor)]
  | none =>
    match (if entry.isObject then nonEmptyString (entry.get (text "actor_id")) else none) with
    | none => scrubSecretsDeep entry
    | some actor =>
      scrubSecretsDeep
        (.literal
          ([(text "actor_id", .string actor),
              (text "role", .ofOption (shortText 64 (entry.get (text "role"))))]
            ++ optionalMember "task_id" entry
            ++ (match entry.get (text "path_prefixes") with
                | .array slots =>
                  [(text "path_prefixes", .array (slots.take MAX_LEASE_PATH_PREFIXES))]
                | _ => [])
            ++ optionalMember "lease_id" entry
            ++ optionalMember "expires_at" entry))

def normalizeLeaseStubs (activeTaskLeases knownConcurrentActors : Value) : Except Refusal Awareness :=
  let leases := listOf activeTaskLeases
  let actors := listOf knownConcurrentActors
  if MAX_LEASE_STUBS < leases.length ∨ MAX_LEASE_STUBS < actors.length then
    .error (tooLarge (text "code_checkpoint_lease_stubs_too_large") MAX_LEASE_STUBS)
  else
    .ok
      { activeTaskLeases := leases.map leaseStubOf
        knownConcurrentActors := actors.map actorStubOf }

/-- An entry of `task_ledger`, as an object. -/
def TaskEntry.toValue (entry : TaskEntry) : Value :=
  .literal
    [(text "task_id", .string entry.taskId), (text "title", .string entry.title),
      (text "state", .string entry.state.text), (text "actor_id", .ofOption entry.actorId),
      (text "author_id", .ofOption entry.authorId), (text "notes", .ofOption entry.notes),
      (text "updated_at", .ofOption entry.updatedAt)]

def TaskState.isOpen (state : TaskState) : Bool :=
  [TaskState.queued, .claimed, .active, .blocked, .review].contains state

/-- The args of `createCodeCheckpoint`, with the instant at which live leases are listed and the
time that is recorded.
-/
structure CheckpointArguments where
  (codeSessionId actorId boundary baseRevision expectedTipVectorDigest changedPaths : Value)
  (currentTask completedWork nextAction blockers testBuildExecutionReceipts : Value)
  (artifactRefs activeTaskLeases knownConcurrentActors safeToContinue knownCaveats : Value)
  (workspaceSnapshotId note observedCommits : Value)
  listedAt : Nat
  now : Text

/-- What a checkpoint is about, as the args and the workspace are read. -/
structure CheckpointTarget where
  (sessionId actor : Text)
  boundary : Boundary
  base : Nat

structure CheckpointParts where
  tipVector : List TipEntry
  tipVectorDigest : Text
  (changedPaths artifactRefs receiptRefs : List Value)
  awareness : Awareness

/-- `Array.isArray(value) && value.length` -/
def hasEntries : Value → Bool
  | .array slots => !slots.isEmpty
  | _ => false

/-- `entry.repo` and `entry.commit_sha` of a base commit, as an observed one -/
def observedCommit (entry : Value) : Value :=
  .literal
    [(text "repo", entry.get (text "repo")), (text "commit_sha", entry.get (text "commit_sha")),
      (text "authority_class", .string (text "immutable_git_base"))]

def observedCommits (given : Value) (session : SessionRow) : Value :=
  if hasEntries given then given else valueList (session.baseCommits.map observedCommit)

/-- `current_task`, or the first open task of the session -/
def currentTask (given : Value) (session : SessionRow) : Value :=
  (given.or
    (((session.taskLedger.find? (·.state.isOpen)).map TaskEntry.toValue).getD .null)).or .null

/-- `blockers`, or the unresolved issues of the session where something else is given -/
def blockersOf (given : Value) (session : SessionRow) : Value :=
  match given.orDefault (.array []) with
  | .array slots => .array (slots.take 100)
  | _ => valueList session.unresolvedIssues

/-- What a payload is built of, before its secrets are scrubbed. -/
def checkpointBody (args : CheckpointArguments) (target : CheckpointTarget) (session : SessionRow)
    (parts : CheckpointParts)
    : Value :=
  .literal
    [(text "schema", .string (text "cairnstone-code-checkpoint-v1")),
      (text "code_session_id", .string target.sessionId),
      (text "actor_id", .string target.actor),
      (text "boundary", .string target.boundary.text),
      (text "session_revision", countValue session.sessionRevision),
      (text "lifecycle", .string session.lifecycle.text),
      (text "repo",
        .literal
          [(text "source_repos", textList session.sourceRepos),
            (text "base_commits", valueList session.baseCommits),
            (text "observed_commits", observedCommits args.observedCommits session),
            (text "working_transport", session.workingTransport)]),
      (text "workspace",
        .literal
          [(text "workspace_id", .string session.workspaceId),
            (text "tip_vector", tipVectorValue parts.tipVector),
            (text "tip_vector_digest", .string parts.tipVectorDigest),
            (text "workspace_snapshot_id",
              (args.workspaceSnapshotId.or (.ofOption session.workspaceSnapshotId)).or .null)]),
      (text "changed_paths", valueList parts.changedPaths),
      (text "task",
        .literal
          [(text "current_task", currentTask args.currentTask session),
            (text "task_ledger", valueList (session.taskLedger.map TaskEntry.toValue)),
            (text "completed_work", valueList ((listOf args.completedWork).take 100)),
            (text "next_action", .ofOption (shortText 1000 args.nextAction)),
            (text "blockers", blockersOf args.blockers session)]),
      (text "test_build_execution_receipts", valueList (parts.receiptRefs.take MAX_ARTIFACT_REFS)),
      (text "artifact_refs", valueList parts.artifactRefs),
      (text "active_task_leases", valueList parts.awareness.activeTaskLeases),
      (text "known_concurrent_actors", valueList parts.awareness.knownConcurrentActors),
      (text "safe_to_continue", .bool (args.safeToContinue.orDefault (.bool true)).truthy),
      (text "known_caveats",
        valueList
          (((listOf args.knownCaveats).map (fun item => .string (item.toText.take 500))).take 50)),
      (text "capability_policy_profile_id", .ofOption session.capabilityPolicyProfileId),
      (text "environment_manifest_id", .ofOption session.environmentManifestId),
      (text "note", .ofOption (shortText 1000 args.note)),
      (text "resumability",
        .literal
          [(text "sufficient_without_predecessor_transcript", .bool true),
            (text "currentness_basis",
              .string (text "checkpoint_id+session_revision+tip_vector_digest"))]),
      (text "accepted_state_authority", .bool false)]

section

variable (sha256Text : Text → Digest)

structure BuiltCheckpoint where
  (checkpointId payloadDigest : Text)
  payload : Value

def buildCodeCheckpointPayload (args : CheckpointArguments) (target : CheckpointTarget)
    (session : SessionRow) (parts : CheckpointParts)
    : BuiltCheckpoint :=
  let body := scrubSecretsDeep (checkpointBody args target session parts)
  let digest := (sha256Text (stableJson body)).text
  let id := text "cp:" ++ digest
  { checkpointId := id
    payloadDigest := digest
    payload :=
      .literal
        (Value.setProperty (Value.setProperty body.spread (text "checkpoint_id") (.string id))
          (text "payload_digest") (.string digest)) }

structure TaskTransition where
  event : TaskEventRow
  baseRevision : Nat
  task : TaskEntry

inductive SessionAnswer where
  | refused (refusal : Refusal)
  | checkpointed (checkpoint : Option CheckpointRow) (session : SessionRow)
  | transitioned (transition : TaskTransition) (session : SessionRow)
  | moved (source target : Lifecycle) (actor : Text) (note : Option Text) (baseRevision : Nat)
      (session : Option SessionRow)

/-- `{ ok: true, … }` -/
def SessionAnswer.isOk : SessionAnswer → Bool
  | .refused _ => false
  | _ => true

def revisionConflict (sessionId : Text) (expected : Value) (base : Nat)
    (more : List (Text × Value))
    : Refusal where
  error := text "code_session_conflict"
  details :=
    (text "code_session_id", .string sessionId) :: more
      ++ [(text "expected_session_revision", expected),
        (text "provided_base_revision", countValue base)]

/-- `raced?.session_revision || null` -/
def racedRevision (raced : Option SessionRow) : Value :=
  (raced.map (fun session => countValue session.sessionRevision)).getD .null

/-- `Number.isInteger(base_revision) && base_revision >= 1` -/
def readBase (value : Value) : Except Refusal Nat :=
  match revisionOf value with
  | none => .error (refuse "code_session_base_revision_required")
  | some base => .ok base

def allowedTexts (texts : List Text) : List (Text × Value) :=
  [(text "allowed", textList texts)]

def readCheckpoint (args : CheckpointArguments) : Except Refusal CheckpointTarget := do
  let sessionId ← refuseThrown "invalid_code_checkpoint_create" (codeSessionId args.codeSessionId)
  let actor ← refuseThrown "invalid_code_checkpoint_create"
    (TaskRuns.actorId args.actorId "actor_id")
  match named CODE_CHECKPOINT_BOUNDARIES Boundary.text args.boundary with
  | none =>
    .error
      { error := text "invalid_code_checkpoint_boundary"
        details := allowedTexts (CODE_CHECKPOINT_BOUNDARIES.map Boundary.text) }
  | some boundary => do
    let base ← readBase args.baseRevision
    .ok { sessionId, actor, boundary, base }

/-- `summarizeLeaseAwareness` of the live leases of a session -/
def loadLiveLeaseAwareness (toISOString : Nat → Text) (sessionId viewer : Text) (now : Nat)
    : Operation Awareness := do
  let leases ← listLeases sessionId false MAX_LEASE_LIST now
  return summarizeLeaseAwareness toISOString leases (some viewer)

def leaseStubsFor (toISOString : Nat → Text) (args : CheckpointArguments)
    (target : CheckpointTarget)
    : Operation (Value × Value) := do
  let active := args.activeTaskLeases
  let actors := args.knownConcurrentActors
  if (!hasEntries active && !hasEntries actors) || target.boundary = .conflictRebase then
    let awareness ← loadLiveLeaseAwareness toISOString target.sessionId target.actor args.listedAt
    return (if hasEntries active then active else valueList awareness.activeTaskLeases,
      if hasEntries actors then actors else valueList awareness.knownConcurrentActors)
  else
    return (active, actors)

variable (localeLe : Text → Text → Bool)

/-- `refreshWorkspaceTipState(db, workspace_id)`: the tips, read twice -/
def refreshWorkspaceTipState (workspaceId : Text) : Operation (Except Refusal (List TipEntry × Text)) := do
  let read := select (fun db => (db.tips.filter (·.1 == workspaceId)).map (·.2))
  let tips ← read
  let tipVector := buildTipVector localeLe tips
  let digest := computeTipVectorDigest (fun s => (sha256Text s).text) workspaceId tipVector
  let again ← read
  if tipVectorsEqual localeLe tipVector (buildTipVector localeLe again) then
    return .ok (tipVector, digest)
  else
    return .error
      { error := text "code_session_tip_race"
        details :=
          [(text "workspace_id", .string workspaceId), (text "tip_vector_digest", .string digest)] }

/-- The entry of an actor after a call: those that are known get the new values, and another one is
added.
-/
def touchActor (actors : List ActorEntry) (actor : Text) (touch : ActorEntry → ActorEntry)
    : List ActorEntry :=
  let touched := actors.map (fun entry => if entry.actorId = actor then touch entry else entry)
  let known :=
    if touched.any (·.actorId == actor) then touched
    else
      touched
        ++ [touch
          { actorId := actor
            role := text "participant"
            lastCheckpointId := none
            lastSessionRevision := none }]
  known.insertionSort (fun a b => localeLe a.actorId b.actorId)

def checkpointRow (args : CheckpointArguments) (target : CheckpointTarget) (session : SessionRow)
    (parts : CheckpointParts)
    : CheckpointRow :=
  let built := buildCodeCheckpointPayload sha256Text args target session parts
  { checkpointId := built.checkpointId
    codeSessionId := target.sessionId
    workspaceId := session.workspaceId
    actorId := target.actor
    boundary := target.boundary
    sessionRevision := session.sessionRevision
    tipVector := parts.tipVector
    tipVectorDigest := parts.tipVectorDigest
    workspaceSnapshotId :=
      (nonEmptyString args.workspaceSnapshotId).or session.workspaceSnapshotId
    payload := built.payload
    payloadDigest := built.payloadDigest
    createdAt := args.now }

def checkpointChange (row : CheckpointRow) (session : SessionRow) : SessionChange :=
  .checkpoint row.checkpointId row.tipVector row.tipVectorDigest
    (touchActor localeLe session.actors row.actorId (fun entry =>
      { entry with
        lastCheckpointId := some row.checkpointId
        lastSessionRevision := some (session.sessionRevision + 1 : Nat) }))
    row.createdAt

def appendCheckpoint (row : CheckpointRow) (session : SessionRow) (base : Nat)
    : Operation SessionAnswer := do
  let inserted ← perform (.insertCheckpoint row)
  if inserted then do
    let swapped ← perform
      (.swapSession row.codeSessionId base (checkpointChange localeLe row session))
    if swapped then do
      let record ← select (fun db => db.checkpoints.find? (·.checkpointId == row.checkpointId))
      let current ← getCodeSession row.codeSessionId
      match current with
      | none => .fail (text "Cannot read properties of null (reading 'code_session_id')")
      | some session => return .checkpointed record session
    else do
      let raced ← getCodeSession row.codeSessionId
      return .refused (revisionConflict row.codeSessionId (racedRevision raced) base
        [(text "checkpoint_id", .string row.checkpointId)])
  else
    return .refused
      { error := text "code_checkpoint_already_exists"
        details := [(text "checkpoint_id", .string row.checkpointId)] }

variable (toISOString : Nat → Text)

def readParts (args : CheckpointArguments) (tips : List TipEntry × Text) (stubs : Value × Value)
    : Except Refusal CheckpointParts := do
  let changedPaths ← normalizeChangedPathsInput args.changedPaths tips.1
  let artifactRefs ← normalizeArtifactRefs args.artifactRefs
  let awareness ← normalizeLeaseStubs stubs.1 stubs.2
  let receiptRefs ← normalizeReceiptRefs args.testBuildExecutionReceipts
  .ok { tipVector := tips.1, tipVectorDigest := tips.2, changedPaths, artifactRefs, receiptRefs, awareness }

def checkLists (args : CheckpointArguments) (tips : List TipEntry) : Except Refusal Unit := do
  let _ ← normalizeChangedPathsInput args.changedPaths tips
  let _ ← normalizeArtifactRefs args.artifactRefs
  .ok ()

/-- `expected_tip_vector_digest`, where one is given -/
def checkTips (args : CheckpointArguments) (sessionId digest : Text) : Except Refusal Unit :=
  match nonEmptyString args.expectedTipVectorDigest with
  | none => .ok ()
  | some expected =>
    if digest = expected then .ok ()
    else
      .error
        { error := text "code_session_tip_race"
          details :=
            [(text "code_session_id", .string sessionId),
              (text "expected_tip_vector_digest", .string expected),
              (text "observed_tip_vector_digest", .string digest)] }

def checkpointFrom (args : CheckpointArguments) (target : CheckpointTarget) (session : SessionRow)
    : Operation SessionAnswer := do
  let tipState ← refreshWorkspaceTipState sha256Text localeLe session.workspaceId
  match tipState with
  | .error refusal => return .refused refusal
  | .ok tips =>
    match (checkTips args target.sessionId tips.2 >>= fun _ => checkLists args tips.1) with
    | .error refusal => return .refused refusal
    | .ok _ => do
      let stubs ← leaseStubsFor toISOString args target
      match readParts args tips stubs with
      | .error refusal => return .refused refusal
      | .ok parts =>
        appendCheckpoint localeLe (checkpointRow sha256Text args target session parts) session
          target.base

def createCodeCheckpoint (args : CheckpointArguments) : Operation SessionAnswer :=
  match readCheckpoint args with
  | .error refusal => return .refused refusal
  | .ok target => do
    let current ← getCodeSession target.sessionId
    match current with
    | none => return .refused (sessionNotFound target.sessionId)
    | some session =>
      if session.sessionRevision ≠ target.base then
        return .refused
          (revisionConflict target.sessionId (countValue session.sessionRevision) target.base [])
      else checkpointFrom sha256Text localeLe toISOString args target session

end

end CairnStone.CodeSession
