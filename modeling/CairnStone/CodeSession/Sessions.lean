import Mathlib.Data.List.Infix
import CairnStone.Conversation.Values

/-! What is taken for a secret in the values of a code session, and how it is redacted. -/

namespace CairnStone.CodeSession

open JavaScript List
open TaskRuns (startsWithIgnoringCase isNameUnit lowerAscii)
open Conversation (REDACTED_SECRET protoKey)

variable {s : Text}

/-- `/^bearer\s+[a-z0-9._-]{16,}/i` -/
def startsWithBearer (s : Text) : Bool :=
  let rest := s.drop (text "bearer").length
  startsWithIgnoringCase "bearer" s && rest.head?.any isWhiteSpace
    && 16 ≤ ((trimStart rest).takeWhile isNameUnit).length

def somewhere (starts : Text → Bool) (s : Text) : Bool :=
  s.tails.any starts

/-- `/workspace_capability|bearer\s+[a-z0-9._-]{16,}/i` -/
def isSecretText (s : Text) : Bool :=
  somewhere (fun rest => startsWithIgnoringCase "workspace_capability" rest || startsWithBearer rest) s

/-- `SECRET_KEY_RE`, or `/workspace_capability|mailbox_capability/i` -/
def isSecretKey (key : Text) : Bool :=
  Conversation.isSecretKey key
    || somewhere (fun rest =>
      startsWithIgnoringCase "workspace_capability" rest
        || startsWithIgnoringCase "mailbox_capability" rest) key

/-- A text as `scrubSecretsDeep` leaves it. -/
def scrubText (s : Text) : Text :=
  if isSecretText s then text "[REDACTED]" else s

/-- `scrubSecretsDeep(value, depth)` with `12 - depth` levels left -/
def scrubWithin : Nat → Value → Value
  | left, value =>
    match left, value with
    | _, .string s => .string (scrubText s)
    | 0, .array slots => .array (slots.map (Option.map (fun _ => REDACTED_SECRET)))
    | 0, .object _ properties =>
      .literal ((properties.filter (·.1 != protoKey)).map (fun entry => (entry.1, REDACTED_SECRET)))
    | left + 1, .array slots => .array (slots.map (Option.map (scrubWithin left)))
    | left + 1, .object _ properties =>
      .literal ((properties.filter (·.1 != protoKey)).map (fun entry =>
        if isSecretKey entry.1 then (entry.1, REDACTED_SECRET)
        else (entry.1, scrubWithin left entry.2)))
    | _, primitive => primitive

def scrubSecretsDeep (value : Value) : Value :=
  scrubWithin 12 value

theorem not_startsWith_of_lacks {mark : String} {u : CodeUnit} (needed : u ∈ text mark)
    (lacks : u ∉ lowerAscii s)
    : startsWithIgnoringCase mark s = false := by
  refine eq_false_of_ne_true (fun starts => lacks ?_)
  exact ( isPrefixOf_iff_prefix.mp starts).subset needed

theorem lacks_of_suffix {rest : Text} {u : CodeUnit} (lacks : u ∉ lowerAscii s)
    (le : rest <:+ s)
    : u ∉ lowerAscii rest :=
  fun mem => lacks ((map_subset _ le.subset) mem)

/-- A text without a `w` and without an `r` is no secret: it spells neither mark. -/
theorem not_isSecretText (noW : (0x77 : CodeUnit) ∉ lowerAscii s)
    (noR : (0x72 : CodeUnit) ∉ lowerAscii s)
    : isSecretText s = false := by
  unfold isSecretText somewhere
  refine any_eq_false.mpr (fun rest mem => ?_)
  have le : rest <:+ s := (mem_tails _ _).mp mem
  have capability : startsWithIgnoringCase "workspace_capability" rest = false :=
    not_startsWith_of_lacks (by decide) (lacks_of_suffix noW le)
  have bearer : startsWithIgnoringCase "bearer" rest = false :=
    not_startsWith_of_lacks (by decide) (lacks_of_suffix noR le)
  simp [startsWithBearer, capability, bearer]

theorem scrubText_of_not_secret (plain : isSecretText s = false) : scrubText s = s := by
  unfold scrubText
  rw [plain]
  rfl

end CairnStone.CodeSession

/-! The `code_sessions` table: the durable state of a session under one revision. -/

namespace CairnStone.CodeSession

open JavaScript
open Conversation (markedId)

inductive Lifecycle where
  | active
  | paused
  | blocked
  | proposed
  | closed
  | superseded
  deriving DecidableEq

def Lifecycle.text : Lifecycle → Text
  | .active => JavaScript.text "active"
  | .paused => JavaScript.text "paused"
  | .blocked => JavaScript.text "blocked"
  | .proposed => JavaScript.text "proposed"
  | .closed => JavaScript.text "closed"
  | .superseded => JavaScript.text "superseded"

def CODE_SESSION_LIFECYCLES : List Lifecycle :=
  [.active, .paused, .blocked, .proposed, .closed, .superseded]

inductive TaskState where
  | queued
  | claimed
  | active
  | blocked
  | review
  | done
  | abandoned
  deriving DecidableEq

def TaskState.text : TaskState → Text
  | .queued => JavaScript.text "queued"
  | .claimed => JavaScript.text "claimed"
  | .active => JavaScript.text "active"
  | .blocked => JavaScript.text "blocked"
  | .review => JavaScript.text "review"
  | .done => JavaScript.text "done"
  | .abandoned => JavaScript.text "abandoned"

def CODE_TASK_STATES : List TaskState :=
  [.queued, .claimed, .active, .blocked, .review, .done, .abandoned]

def CODE_TASK_TRANSITIONS : TaskState → List TaskState
  | .queued => [.claimed, .active, .abandoned]
  | .claimed => [.active, .queued, .blocked, .abandoned]
  | .active => [.blocked, .review, .done, .abandoned, .claimed]
  | .blocked => [.active, .queued, .review, .abandoned]
  | .review => [.done, .active, .blocked, .abandoned]
  | .done => [.queued]
  | .abandoned => [.queued]

def isLegalTaskTransition (fromState : Option TaskState) (toState : TaskState) : Bool :=
  match fromState with
  | none => true
  | some state => (CODE_TASK_TRANSITIONS state).contains toState

/-- An entry of `task_ledger_json`. -/
structure TaskEntry where
  (taskId title : Text)
  state : TaskState
  (actorId authorId notes updatedAt : Option Text)
  deriving DecidableEq

/-- An entry of `actors_json`. -/
structure ActorEntry where
  (actorId role : Text)
  lastCheckpointId : Option Text
  lastSessionRevision : Option Int
  deriving DecidableEq

/-- A row of `code_sessions`. A JSON column holds what is read back from it. -/
structure SessionRow where
  (codeSessionId workspaceId : Text)
  projectChain : Option Text
  scope : Value
  sourceRepos : List Text
  baseCommits : List Value
  (workingTransport tipVector : Value)
  (tipVectorDigest workspaceSnapshotId : Option Text)
  taskLedger : List TaskEntry
  unresolvedIssues : List Value
  actors : List ActorEntry
  environmentManifestId : Option Text
  latestExecutionReceiptRefs : List Value
  (latestCheckpointId checkpointTipVectorDigest capabilityPolicyProfileId : Option Text)
  lifecycle : Lifecycle
  sessionRevision : Nat
  (createdBy createdAt updatedAt : Text)
  latestSandboxAttachmentId : Option Text

def codeSessionId (value : Value) : Except Text Text :=
  markedId "cs:" "code session" value "code_session_id"

def checkpointId (value : Value) : Except Text Text :=
  markedId "cp:" "checkpoint" value "checkpoint_id"

def leaseId (value : Value) : Except Text Text :=
  markedId "lease:" "lease" value "lease_id"

/-- `SELECT … FROM code_sessions WHERE code_session_id = ?` -/
def findSession (sessions : List SessionRow) (id : Text) : Option SessionRow :=
  sessions.find? (·.codeSessionId == id)

namespace Sample

/-- A new session without tasks. -/
def session : SessionRow where
  codeSessionId := text "cs:one"
  workspaceId := text "ws:one"
  projectChain := none
  scope := .literal []
  sourceRepos := []
  baseCommits := []
  workingTransport := .literal []
  tipVector := .array []
  tipVectorDigest := none
  workspaceSnapshotId := none
  taskLedger := []
  unresolvedIssues := []
  actors := []
  environmentManifestId := none
  latestExecutionReceiptRefs := []
  latestCheckpointId := none
  checkpointTipVectorDigest := none
  capabilityPolicyProfileId := none
  lifecycle := .active
  sessionRevision := 1
  createdBy := text "user:ann"
  createdAt := text "1970-01-01T00:00:00.000Z"
  updatedAt := text "1970-01-01T00:00:00.000Z"
  latestSandboxAttachmentId := none

end Sample

end CairnStone.CodeSession
