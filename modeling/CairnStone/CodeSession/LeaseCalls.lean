import CairnStone.CodeSession.Store

/-! Acquiring, renewing, releasing and listing leases, cut at every statement. -/

namespace CairnStone.CodeSession

open JavaScript Data Concurrency List TaskRuns Conversation
open TaskRuns (Refusal refuse isGiven nonEmptyString countValue actorId refuseThrown)
open Conversation (revisionOf)

/-- A SHA-256 digest in hexadecimal. -/
structure Digest where
  text : Text
  hex : text.all (fun u => isDigit u || (0x61 ≤ u && u ≤ 0x66)) = true
  length : text.length = 64

def hexDigits : Text :=
  text "0123456789abcdef"

theorem mem_hexDigits {u : CodeUnit} (hex : (isDigit u || (0x61 ≤ u && u ≤ 0x66)) = true)
    : u ∈ hexDigits := by
  obtain ⟨n, bound⟩ := u
  simp only [isDigit, Bool.or_eq_true, Bool.and_eq_true, decide_eq_true_eq, Fin.le_def] at hex
  change (48 ≤ n ∧ n ≤ 57) ∨ (97 ≤ n ∧ n ≤ 102) at hex
  have listed : n ∈ [48, 49, 50, 51, 52, 53, 54, 55, 56, 57, 97, 98, 99, 100, 101, 102] := by
    simp only [mem_cons, not_mem_nil, or_false]
    omega
  have spelled : (⟨n, bound⟩ : CodeUnit) = Fin.ofNat 65536 n :=
    Fin.ext (Nat.mod_eq_of_lt bound).symm
  rw [spelled]
  exact mem_map_of_mem (f := Fin.ofNat 65536) listed

def startsName (u : CodeUnit) : Bool :=
  TaskRuns.isNameUnit u && (TaskRuns.isLetter u || isDigit u)

theorem hexDigits_startName : hexDigits.all startsName = true := by
  decide +kernel

/-- A unit that is not trimmed, changed by its case, or part of a secret's mark. -/
def isPlainUnit (u : CodeUnit) : Bool :=
  !isWhiteSpace u && (if 0x41 ≤ u && u ≤ 0x5A then u + 0x20 else u) == u && u != 0x77 && u != 0x72

theorem isPlainUnit_iff {u : CodeUnit}
    : isPlainUnit u = true
      ↔ isWhiteSpace u = false ∧ (if 0x41 ≤ u && u ≤ 0x5A then u + 0x20 else u) = u
        ∧ u ≠ 0x77 ∧ u ≠ 0x72 := by
  simp only [isPlainUnit, Bool.and_eq_true, Bool.not_eq_true', beq_iff_eq, bne_iff_ne, and_assoc]

theorem lowerAscii_of_plain {s : Text} (plain : s.all isPlainUnit = true)
    : lowerAscii s = s := by
  refine (map_congr_left (fun u mem => ?_)).trans (map_id _)
  exact (isPlainUnit_iff.mp (all_eq_true.mp plain u mem)).2.1

theorem markedId_of_hex {mark kind field : String} {s : Text}
    (plain : (text mark ++ s).all isPlainUnit = true) (hex : ∀ u ∈ s, u ∈ hexDigits)
    (some : 0 < s.length) (short : s.length ≤ 128)
    : markedId mark kind (.string (text mark ++ s)) field = .ok (text mark ++ s) := by
  have starts : ∀ u ∈ s, isNameUnit u = true ∧ (isLetter u || isDigit u) = true :=
    fun u mem => Bool.and_eq_true_iff.mp (all_eq_true.mp hexDigits_startName u (hex u mem))
  have visible : trim (text mark ++ s) = text mark ++ s :=
    trim_of_visible (fun u mem => (isPlainUnit_iff.mp (all_eq_true.mp plain u mem)).1)
  have named : isName 127 s = true := by
    cases s with
    | nil => cases some
    | cons first rest =>
      simp only [length_cons] at short
      simp only [isName, Bool.and_eq_true, all_eq_true, decide_eq_true_eq]
      exact ⟨⟨(starts first (.head _)).2,
        fun u mem => (starts u (.tail _ mem)).1⟩, by omega⟩
  have nonempty : text mark ++ s ≠ [] := by
    intro empty
    rw [(append_eq_nil_iff.mp empty).2] at some
    cases some
  have given : nonEmptyString (.string (text mark ++ s)) = Option.some (text mark ++ s) := by
    simp only [nonEmptyString, Value.string?, visible, if_neg nonempty]
  have marked : isMarkedName mark (text mark ++ s) = true := by
    unfold isMarkedName startsWithIgnoringCase
    rw [lowerAscii_of_plain plain, drop_left, named,
      isPrefixOf_iff_prefix.mpr (prefix_append _ _)]
    rfl
  simp only [markedId, given, marked, if_true]

def expireStaleLeases (sessionId : Text) (now : Nat) : Operation Bool :=
  perform (.expireStale sessionId now)

def listedLeases (rows : List LeaseRow) (includeExpired : Bool) (now : Nat) : List LeaseRecord :=
  (rows.map (fun row => rowToLeaseRecord row now)).filter
    (fun lease => includeExpired || lease.live)

/-- `listCodeSessionLeaseRows(db, { … })` of a session id that has been read, with the bounded limit -/
def listLeases (sessionId : Text) (includeExpired : Bool) (bounded now : Nat)
    : Operation (List LeaseRecord) := do
  let _ ← expireStaleLeases sessionId now
  let rows ← select (fun db =>
    selectLeases db.leases sessionId (min (bounded * 4) (MAX_LEASE_LIST * 2)))
  return (listedLeases rows includeExpired now).take bounded

/-- The bound of a listing: `limit`, or a default for none. -/
def boundedLimit (limit : Nat) : Nat :=
  min (max (if limit = 0 then DEFAULT_LEASE_LIST else limit) 1) MAX_LEASE_LIST

inductive LeaseAnswer where
  | refused (refusal : Refusal)
  | listed (leases : List LeaseRecord)
  | acquired (lease : Option LeaseRecord) (ttlSeconds : Nat)
  | renewedExisting (lease : Option LeaseRecord) (ttlSeconds : Nat)
  | renewed (lease : Option LeaseRecord) (ttlSeconds : Nat)
  | alreadyReleased (lease : LeaseRecord)
  | released (lease : Option LeaseRecord)

/-- `{ ok: true, … }` -/
def LeaseAnswer.isOk : LeaseAnswer → Bool
  | .refused _ => false
  | _ => true

structure ListArguments where
  codeSessionId : Value
  includeExpired : Bool
  (limit now : Nat)

def listCodeSessionLeaseRows (args : ListArguments) : Operation LeaseAnswer :=
  match refuseThrown "invalid_code_session_id" (codeSessionId args.codeSessionId) with
  | .error refusal => return .refused refusal
  | .ok sessionId => do
    let leases ← listLeases sessionId args.includeExpired (boundedLimit args.limit)
      args.now
    return .listed leases

/-- The args of `acquireCodeSessionLease`, with the instant of the call and the random part of a
new id. `ttlSeconds` is `Number(ttl_seconds)`.
-/
structure AcquireArguments where
  (codeSessionId actorId taskId pathPrefixes : Value)
  ttlSeconds : Number
  allowOverlap : Bool
  (baseRevision checkpointId : Value)
  now : Nat
  nonce : Text

structure LeaseTarget where
  (sessionId actor : Text)

structure AcquireTarget extends LeaseTarget where
  scope : LeaseScope
  ttlSeconds : Nat

def readAcquire (args : AcquireArguments) : Except Refusal AcquireTarget := do
  let sessionId ← refuseThrown "invalid_code_session_lease_acquire"
    (codeSessionId args.codeSessionId)
  let actor ← refuseThrown "invalid_code_session_lease_acquire"
    (actorId args.actorId "actor_id")
  let taskId ← normalizeLeaseTaskId args.taskId
  let pathPrefixes ← normalizeLeasePathPrefixes args.pathPrefixes
  .ok
    { sessionId, actor
      scope := { taskId, pathPrefixes }
      ttlSeconds := clampLeaseTtlSeconds args.ttlSeconds }

def sessionNotFound (sessionId : Text) : Refusal where
  error := text "code_session_not_found"
  details := [(text "code_session_id", .string sessionId)]

def checkBase (baseRevision : Value) (session : SessionRow) : Except Refusal Unit :=
  if !isGiven baseRevision then .ok ()
  else
    match revisionOf baseRevision with
    | none => .error (refuse "code_session_base_revision_required")
    | some base =>
      if session.sessionRevision = base then .ok ()
      else
        .error
          { error := text "code_session_conflict"
            details :=
              [(text "code_session_id", .string session.codeSessionId),
                (text "expected_session_revision", countValue session.sessionRevision),
                (text "provided_base_revision", countValue base)] }

def leaseCheckpoint (given : Value) (session : SessionRow) : Except Refusal (Option Text) :=
  match nonEmptyString given with
  | some _ => (refuseThrown "invalid_checkpoint_id" (checkpointId given)).map some
  | none => .ok session.latestCheckpointId

def foreignOverlap (target : AcquireTarget) (leases : List LeaseRecord) : List LeaseRecord :=
  leases.filter (fun lease =>
    lease.actorId != target.actor && leaseScopesOverlap target.scope lease.scope)

def ownOverlap (target : AcquireTarget) (leases : List LeaseRecord) : List LeaseRecord :=
  leases.filter (fun lease =>
    lease.actorId == target.actor && leaseScopesOverlap target.scope lease.scope)

def latestEnd (leases : List LeaseRecord) : Option LeaseRecord :=
  (leases.insertionSort (fun a b => b.expiresAt ≤ a.expiresAt)).head?

def valueList (values : List Value) : Value :=
  .array (values.map some)

def leaseConflict (toISOString : Nat → Text) (sessionId : Text) (overlapping : List LeaseRecord)
    : Refusal where
  error := text "code_session_lease_conflict"
  details :=
    [(text "code_session_id", .string sessionId),
      (text "overlapping_leases", valueList (overlapping.map (LeaseRecord.toValue toISOString))),
      (text "known_concurrent_actors",
        valueList (summarizeLeaseAwareness toISOString overlapping none).knownConcurrentActors),
      (text "hint",
        .string (text
          ("Pass allow_overlap=true to intentionally share scope; "
            ++ "workspace CAS remains authoritative for path writes.")))]

/-- `getLeaseRow(db, lease_id)`: nothing is found under an id that is none. -/
def getLeaseRow (id : Text) : Operation (Option LeaseRow) :=
  match leaseId (.string id) with
  | .ok id => select (fun db => findLease db.leases id)
  | .error _ => return none

def readBack (id : Text) (now : Nat) : Operation (Option LeaseRecord) := do
  let row ← getLeaseRow id
  return row.map (fun row => rowToLeaseRecord row now)

/-- `Date.parse(now) + ttl * 1000` -/
def expiryOf (now ttlSeconds : Nat) : Nat :=
  now + ttlSeconds * 1000

def renewExisting (target : AcquireTarget) (session : SessionRow) (checkpoint : Option Text)
    (own : LeaseRecord) (now : Nat)
    : Operation LeaseAnswer := do
  let _ ← perform
    (.rescopeLease own.leaseId target.actor target.sessionId target.scope checkpoint
      { now
        expiresAt := expiryOf now target.ttlSeconds
        sessionRevision := session.sessionRevision })
  let lease ← readBack own.leaseId now
  return .renewedExisting lease target.ttlSeconds

section

variable (sha256Text : Text → Digest)

def leaseBody (target : AcquireTarget) (session : SessionRow) (checkpoint : Option Text) (now : Text)
    (nonce : Text)
    : Value :=
  .literal
    [(text "schema", .string (text "cairnstone-code-session-lease-v1")),
      (text "code_session_id", .string target.sessionId),
      (text "workspace_id", .string session.workspaceId),
      (text "actor_id", .string target.actor),
      (text "task_id", .ofOption target.scope.taskId),
      (text "path_prefixes",
        .array (target.scope.pathPrefixes.map (fun path => some (.string path)))),
      (text "acquired_at", .string now),
      (text "session_revision", countValue session.sessionRevision),
      (text "checkpoint_id", .ofOption checkpoint),
      (text "nonce", .string (now ++ text ":" ++ nonce))]

/-- `lease:` and half a digest -/
def newLeaseId (body : Value) : Text :=
  text "lease:" ++ (sha256Text (stableJson body)).text.take 32

variable (toISOString : Nat → Text)

def newLease (target : AcquireTarget) (session : SessionRow) (checkpoint : Option Text)
    (args : AcquireArguments)
    : LeaseRow where
  leaseId :=
    newLeaseId sha256Text
      (leaseBody target session checkpoint (toISOString args.now) args.nonce)
  codeSessionId := target.sessionId
  workspaceId := session.workspaceId
  actorId := target.actor
  scope := target.scope
  acquiredAt := args.now
  renewedAt := args.now
  expiresAt := expiryOf args.now target.ttlSeconds
  checkpointId := checkpoint
  sessionRevision := some session.sessionRevision
  status := .active
  createdAt := args.now
  updatedAt := args.now

def createLease (target : AcquireTarget) (row : LeaseRow) : Operation LeaseAnswer := do
  let inserted ← perform (.insertLease row)
  if inserted then do
    let lease ← readBack row.leaseId row.acquiredAt
    return .acquired lease target.ttlSeconds
  else
    return .refused
      { error := text "code_session_lease_create_failed"
        details := [(text "detail", .string (text "UNIQUE constraint failed"))] }

def acquireAgainst (live : List LeaseRecord) (args : AcquireArguments) (target : AcquireTarget)
    (session : SessionRow) (checkpoint : Option Text)
    : Operation LeaseAnswer :=
  if foreignOverlap target live ≠ [] ∧ !args.allowOverlap then
    return .refused (leaseConflict toISOString target.sessionId (foreignOverlap target live))
  else
    match latestEnd (ownOverlap target live) with
    | some own => renewExisting target session checkpoint own args.now
    | none => createLease target (newLease sha256Text toISOString target session checkpoint args)

def acquireChecked (args : AcquireArguments) (target : AcquireTarget) (session : SessionRow)
    (checkpoint : Option Text)
    : Operation LeaseAnswer := do
  let _ ← expireStaleLeases target.sessionId args.now
  let live ← listLeases target.sessionId false MAX_LEASE_LIST args.now
  acquireAgainst sha256Text toISOString live args target session checkpoint

def checkAcquire (args : AcquireArguments) (session : SessionRow)
    : Except Refusal (Option Text) := do
  checkBase args.baseRevision session
  leaseCheckpoint args.checkpointId session

def acquireCodeSessionLease (args : AcquireArguments) : Operation LeaseAnswer :=
  match readAcquire args with
  | .error refusal => return .refused refusal
  | .ok target => do
    let current ← getCodeSession target.sessionId
    match current with
    | none => return .refused (sessionNotFound target.sessionId)
    | some session =>
      match checkAcquire args session with
      | .error refusal => return .refused refusal
      | .ok checkpoint =>
        acquireChecked sha256Text toISOString args target session checkpoint

end

structure HoldArguments where
  (codeSessionId actorId leaseId : Value)
  now : Nat

structure RenewArguments extends HoldArguments where
  ttlSeconds : Number
  baseRevision : Value

structure HoldTarget extends LeaseTarget where
  id : Text

def readHold (error : String) (args : HoldArguments) : Except Refusal HoldTarget := do
  let sessionId ← refuseThrown error (codeSessionId args.codeSessionId)
  let actor ← refuseThrown error (actorId args.actorId "actor_id")
  let id ← refuseThrown error (leaseId args.leaseId)
  .ok { sessionId, actor, id }

def leaseRefusal (error : String) (id : Text) : Refusal where
  error := text error
  details := [(text "lease_id", .string id)]

def notLive (id : Text) (status : LeaseStatus) : Refusal where
  error := text "code_session_lease_not_live"
  details := [(text "lease_id", .string id), (text "status", .string status.text)]

def requireOwn (target : HoldTarget) (row : Option LeaseRow) (now : Nat)
    : Except Refusal LeaseRecord :=
  match row.filter (·.codeSessionId == target.sessionId) with
  | none => .error (leaseRefusal "code_session_lease_not_found" target.id)
  | some row =>
    if (rowToLeaseRecord row now).actorId ≠ target.actor then
      .error (leaseRefusal "code_session_lease_actor_mismatch" target.id)
    else .ok (rowToLeaseRecord row now)

def renewHeld (target : HoldTarget) (session : SessionRow) (ttlSeconds now : Nat)
    : Operation LeaseAnswer := do
  let changed ← perform
    (.renewLease target.id target.actor target.sessionId
      { now
        expiresAt := expiryOf now ttlSeconds
        sessionRevision := session.sessionRevision })
  if changed then do
    let lease ← readBack target.id now
    return .renewed lease ttlSeconds
  else
    return .refused (leaseRefusal "code_session_lease_renew_failed" target.id)

def renewChecked (target : HoldTarget) (session : SessionRow) (ttlSeconds now : Nat)
    : Operation LeaseAnswer := do
  let _ ← expireStaleLeases target.sessionId now
  let row ← getLeaseRow target.id
  match requireOwn target row now with
  | .error refusal => return .refused refusal
  | .ok record =>
    if record.live then renewHeld target session ttlSeconds now
    else return .refused (notLive target.id record.status)

def renewCodeSessionLease (args : RenewArguments) : Operation LeaseAnswer :=
  match readHold "invalid_code_session_lease_renew" args.toHoldArguments with
  | .error refusal => return .refused refusal
  | .ok target => do
    let current ← getCodeSession target.sessionId
    match current with
    | none => return .refused (sessionNotFound target.sessionId)
    | some session =>
      match checkBase args.baseRevision session with
      | .error refusal => return .refused refusal
      | .ok _ =>
        renewChecked target session (clampLeaseTtlSeconds args.ttlSeconds) args.now

def releaseHeld (target : HoldTarget) (now : Nat) : Operation LeaseAnswer := do
  let changed ← perform (.releaseLease target.id target.actor target.sessionId now)
  if changed then do
    let lease ← readBack target.id now
    return .released lease
  else
    return .refused (leaseRefusal "code_session_lease_release_failed" target.id)

def releaseChecked (target : HoldTarget) (now : Nat) : Operation LeaseAnswer := do
  let _ ← expireStaleLeases target.sessionId now
  let row ← getLeaseRow target.id
  match requireOwn target row now with
  | .error refusal => return .refused refusal
  | .ok record =>
    if record.status = .released then return .alreadyReleased record
    else if record.live then releaseHeld target now
    else do
      let _ ← perform (.expireLease target.id target.sessionId now)
      return .refused (notLive target.id .expired)

def releaseCodeSessionLease (args : HoldArguments) : Operation LeaseAnswer :=
  match readHold "invalid_code_session_lease_release" args with
  | .error refusal => return .refused refusal
  | .ok target => do
    let current ← getCodeSession target.sessionId
    match current with
    | none => return .refused (sessionNotFound target.sessionId)
    | some _ => releaseChecked target args.now

namespace Sample

theorem evenDigits_hex
    : (List.replicate 64 0x61 : Text).all (fun u => isDigit u || (0x61 ≤ u && u ≤ 0x66)) = true := by
  decide +kernel

theorem oddDigits_hex
    : (List.replicate 64 0x62 : Text).all (fun u => isDigit u || (0x61 ≤ u && u ≤ 0x66)) = true := by
  decide +kernel

theorem digits_length (digit : CodeUnit) : (List.replicate 64 digit : Text).length = 64 :=
  length_replicate

def evenDigest : Digest where
  text := List.replicate 64 0x61
  hex := evenDigits_hex
  length := digits_length 0x61

def oddDigest : Digest where
  text := List.replicate 64 0x62
  hex := oddDigits_hex
  length := digits_length 0x62

/-- Two digests, by the length of the text. -/
def digest (s : Text) : Digest :=
  if s.length % 2 = 0 then evenDigest else oddDigest

/-- The text of the two instants of the samples. -/
def toISOString (now : Nat) : Text :=
  if now = 1000 then text "1970-01-01T00:00:01.000Z" else text "1970-01-01T00:00:02.000Z"

end Sample

end CairnStone.CodeSession
