import CairnStone.CodeSession.Sessions
import CairnStone.Data.SqlText

/-! The `code_session_leases` table: scopes that an actor works on for a while, and the statements that
lease calls issue. Instants are milliseconds; their ISO texts are ordered as they are.
-/

namespace CairnStone.CodeSession

open JavaScript Data
open TaskRuns (Refusal refuse isGiven nonEmptyString listOf countValue textList)

def MAX_LEASE_PATH_PREFIXES : Nat := 32
def MAX_LEASE_LIST : Nat := 100
def DEFAULT_LEASE_LIST : Nat := 50
def DEFAULT_LEASE_TTL_SECONDS : Int := 600
def MIN_LEASE_TTL_SECONDS : Int := 30
def MAX_LEASE_TTL_SECONDS : Int := 3600

structure LeaseScope where
  taskId : Option Text
  pathPrefixes : List Text
  deriving DecidableEq

def clampLeaseTtlSeconds (n : Number) : Nat :=
  match n with
  | .finite x =>
    (min MAX_LEASE_TTL_SECONDS (max MIN_LEASE_TTL_SECONDS x.value.floor)).toNat
  | _ => DEFAULT_LEASE_TTL_SECONDS.toNat

/-- A path with `/` for `\`, as far as it is kept. -/
def leasePath (path : Text) : Text :=
  (path.map (fun u => if u = 0x5C then 0x2F else u)).take 512

def normalizeLeasePathPrefix (item : Value) : Except Refusal Text :=
  match nonEmptyString item with
  | none => .error (refuse "invalid_code_session_lease_path_prefix")
  | some path =>
    if (leasePath path).contains 0 then
      .error (refuse "invalid_code_session_lease_path_prefix")
    else .ok (leasePath path)

/-- The order of `sort()`. -/
def textLe (a b : Text) : Bool :=
  a ≤ b

def normalizeLeasePathPrefixes (input : Value) : Except Refusal (List Text) :=
  if !isGiven input then .ok []
  else
    let list :=
      match input with
      | .array _ => listOf input
      | single => [single]
    if MAX_LEASE_PATH_PREFIXES < list.length then
      .error
        { error := text "code_session_lease_path_prefixes_too_large"
          details := [(text "max", countValue MAX_LEASE_PATH_PREFIXES)] }
    else
      (list.mapM normalizeLeasePathPrefix).map
        (fun prefixes => prefixes.eraseDups.insertionSort (fun a b => textLe a b))

def normalizeLeaseTaskId (input : Value) : Except Refusal (Option Text) :=
  if !isGiven input then .ok none
  else
    match nonEmptyString input with
    | none => .error (refuse "invalid_code_session_lease_task_id")
    | some taskId => .ok (some (taskId.take 128))

def pathPrefixOverlap (a b : Text) : Bool :=
  a != [] && b != [] && (a.isPrefixOf b || b.isPrefixOf a)

/-- `scope.task_id || null` -/
def LeaseScope.task (scope : LeaseScope) : Option Text :=
  scope.taskId.filter (· != [])

def LeaseScope.isWide (scope : LeaseScope) : Bool :=
  scope.task.isNone && scope.pathPrefixes.isEmpty

def leaseScopesOverlap (left right : LeaseScope) : Bool :=
  left.isWide || right.isWide
    || (left.task.isSome && left.task == right.task)
    || left.pathPrefixes.any (fun a => right.pathPrefixes.any (pathPrefixOverlap a))

inductive LeaseStatus where
  | active
  | released
  | expired
  deriving DecidableEq

def LeaseStatus.text : LeaseStatus → Text
  | .active => JavaScript.text "active"
  | .released => JavaScript.text "released"
  | .expired => JavaScript.text "expired"

structure LeaseRow where
  (leaseId codeSessionId workspaceId actorId : Text)
  scope : LeaseScope
  (acquiredAt renewedAt expiresAt : Nat)
  checkpointId : Option Text
  sessionRevision : Option Nat
  status : LeaseStatus
  (createdAt updatedAt : Nat)
  deriving DecidableEq

/-- Active, and not yet at its end. -/
def LeaseRow.isLive (row : LeaseRow) (now : Nat) : Bool :=
  row.status == .active && now < row.expiresAt

structure LeaseRecord where
  (leaseId codeSessionId workspaceId actorId : Text)
  scope : LeaseScope
  (acquiredAt renewedAt expiresAt : Nat)
  checkpointId : Option Text
  sessionRevision : Option Nat
  status : LeaseStatus
  live : Bool
  (createdAt updatedAt : Nat)
  deriving DecidableEq

def LeaseScope.scrub (scope : LeaseScope) : LeaseScope where
  taskId := scope.task.map scrubText
  pathPrefixes := scope.pathPrefixes.map scrubText

def rowToLeaseRecord (row : LeaseRow) (now : Nat) : LeaseRecord where
  leaseId := scrubText row.leaseId
  codeSessionId := scrubText row.codeSessionId
  workspaceId := scrubText row.workspaceId
  actorId := scrubText row.actorId
  scope := row.scope.scrub
  acquiredAt := row.acquiredAt
  renewedAt := row.renewedAt
  expiresAt := row.expiresAt
  checkpointId := row.checkpointId.map scrubText
  sessionRevision := row.sessionRevision
  status := if row.status = .active ∧ row.expiresAt ≤ now then .expired else row.status
  live := row.isLive now
  createdAt := row.createdAt
  updatedAt := row.updatedAt

section

variable (toISOString : Nat → Text)

/-- `rowToLeaseRecord`, as an object -/
def LeaseRecord.toValue (lease : LeaseRecord) : Value :=
  .literal
    [(text "schema", .string (text "cairnstone-code-session-lease-v1")),
      (text "lease_id", .string lease.leaseId),
      (text "code_session_id", .string lease.codeSessionId),
      (text "workspace_id", .string lease.workspaceId),
      (text "actor_id", .string lease.actorId),
      (text "task_id", .ofOption lease.scope.taskId),
      (text "path_prefixes", textList lease.scope.pathPrefixes),
      (text "acquired_at", .string (toISOString lease.acquiredAt)),
      (text "renewed_at", .string (toISOString lease.renewedAt)),
      (text "expires_at", .string (toISOString lease.expiresAt)),
      (text "checkpoint_id", .ofOption lease.checkpointId),
      (text "session_revision", (lease.sessionRevision.map countValue).getD .null),
      (text "status", .string lease.status.text),
      (text "live", .bool lease.live),
      (text "accepted_state_authority", .bool false),
      (text "coordination_hint_only", .bool true),
      (text "created_at", .string (toISOString lease.createdAt)),
      (text "updated_at", .string (toISOString lease.updatedAt))]

def MAX_LEASE_STUBS : Nat := 50

def firstOfActors (viewer : Option Text) (leases : List LeaseRecord) : List LeaseRecord :=
  leases.foldl (fun known lease =>
    if some lease.actorId == viewer || known.any (·.actorId == lease.actorId) then known
    else known ++ [lease]) []

/-- An entry of `known_concurrent_actors`. -/
def LeaseRecord.actorStub (lease : LeaseRecord) : Value :=
  .literal
    [(text "actor_id", .string lease.actorId),
      (text "task_id", .ofOption lease.scope.taskId),
      (text "path_prefixes", textList lease.scope.pathPrefixes),
      (text "lease_id", .string lease.leaseId),
      (text "expires_at", .string (toISOString lease.expiresAt))]

/-- An entry of `active_task_leases`. -/
def LeaseRecord.leaseStub (lease : LeaseRecord) : Value :=
  scrubSecretsDeep
    (.literal
      [(text "lease_id", .string lease.leaseId),
        (text "actor_id", .string lease.actorId),
        (text "task_id", .ofOption lease.scope.taskId),
        (text "path_prefixes", textList lease.scope.pathPrefixes),
        (text "acquired_at", .string (toISOString lease.acquiredAt)),
        (text "renewed_at", .string (toISOString lease.renewedAt)),
        (text "expires_at", .string (toISOString lease.expiresAt)),
        (text "checkpoint_id", .ofOption lease.checkpointId),
        (text "session_revision", (lease.sessionRevision.map countValue).getD .null),
        (text "status", .string lease.status.text),
        (text "coordination_hint_only", .bool true),
        (text "accepted_state_authority", .bool false)])

/-- What others are working on, as a session shows it. -/
structure Awareness where
  (activeTaskLeases knownConcurrentActors : List Value)

def summarizeLeaseAwareness (leases : List LeaseRecord) (viewer : Option Text) : Awareness :=
  let live := leases.filter (fun lease => lease.live || lease.status == .active)
  { activeTaskLeases := (live.take MAX_LEASE_STUBS).map (LeaseRecord.leaseStub toISOString)
    knownConcurrentActors :=
      ((firstOfActors viewer live).take MAX_LEASE_STUBS).map (LeaseRecord.actorStub toISOString) }

end

/-- `SELECT … FROM code_session_leases WHERE lease_id = ?` -/
def findLease (leases : List LeaseRow) (id : Text) : Option LeaseRow :=
  leases.find? (·.leaseId == id)

/-- `INSERT INTO code_session_leases`: whether the id was free. -/
def insertLease (leases : List LeaseRow) (row : LeaseRow) : Bool × List LeaseRow :=
  match findLease leases row.leaseId with
  | none => (true, leases ++ [row])
  | some _ => (false, leases)

/-- `WHERE code_session_id = ? AND status = 'active' AND expires_at <= ?` -/
def isStale (sessionId : Text) (now : Nat) (row : LeaseRow) : Bool :=
  row.codeSessionId == sessionId && row.status == .active && row.expiresAt ≤ now

/-- `UPDATE code_session_leases SET status = …, updated_at = ?` -/
def LeaseRow.settle (status : LeaseStatus) (now : Nat) (row : LeaseRow) : LeaseRow :=
  { row with status, updatedAt := now }

/-- `WHERE lease_id = ? AND actor_id = ? AND code_session_id = ? AND status = 'active'` -/
def isHeld (id actor sessionId : Text) (row : LeaseRow) : Bool :=
  row.leaseId == id && row.actorId == actor && row.codeSessionId == sessionId
    && row.status == .active

structure Renewal where
  (now expiresAt sessionRevision : Nat)

/-- `SET renewed_at = ?, expires_at = ?, session_revision = ?, status = 'active', updated_at = ?` -/
def LeaseRow.renew (renewal : Renewal) (row : LeaseRow) : LeaseRow :=
  { row with
    renewedAt := renewal.now
    expiresAt := renewal.expiresAt
    sessionRevision := some renewal.sessionRevision
    status := .active
    updatedAt := renewal.now }

/-- The same, with `task_id = ?, path_prefix_json = ?` and `checkpoint_id = ?` -/
def LeaseRow.rescope (scope : LeaseScope) (checkpointId : Option Text) (renewal : Renewal)
    (row : LeaseRow)
    : LeaseRow :=
  { row.renew renewal with scope, checkpointId }

/-- `ORDER BY expires_at DESC, acquired_at DESC` -/
def laterFirst (a b : LeaseRow) : Bool :=
  b.expiresAt < a.expiresAt || (a.expiresAt == b.expiresAt && b.acquiredAt ≤ a.acquiredAt)

/-- `SELECT … WHERE code_session_id = ? ORDER BY … LIMIT ?` -/
def selectLeases (leases : List LeaseRow) (sessionId : Text) (limit : Nat) : List LeaseRow :=
  ((leases.filter (·.codeSessionId == sessionId)).insertionSort
    (fun a b => laterFirst a b)).take limit

end CairnStone.CodeSession
