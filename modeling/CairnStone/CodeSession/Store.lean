import CairnStone.CodeSession.Leases
import CairnStone.Workspace.Snapshots

/-! The shared state of code sessions with their leases, checkpoints and task events, and the statements
on it.
-/

namespace CairnStone.CodeSession

open JavaScript Data Concurrency
open Workspace (TipEntry)

inductive Boundary where
  | handoff
  | pause
  | taskCompletion
  | conflictRebase
  | testGate
  | proposal
  | userRequested
  deriving DecidableEq

def Boundary.text : Boundary → Text
  | .handoff => JavaScript.text "handoff"
  | .pause => JavaScript.text "pause"
  | .taskCompletion => JavaScript.text "task_completion"
  | .conflictRebase => JavaScript.text "conflict_rebase"
  | .testGate => JavaScript.text "test_gate"
  | .proposal => JavaScript.text "proposal"
  | .userRequested => JavaScript.text "user_requested"

def CODE_CHECKPOINT_BOUNDARIES : List Boundary :=
  [.handoff, .pause, .taskCompletion, .conflictRebase, .testGate, .proposal, .userRequested]

structure CheckpointRow where
  (checkpointId codeSessionId workspaceId actorId : Text)
  boundary : Boundary
  sessionRevision : Nat
  tipVector : List TipEntry
  tipVectorDigest : Text
  workspaceSnapshotId : Option Text
  payload : Value
  (payloadDigest createdAt : Text)

structure TaskEventRow where
  (eventId codeSessionId taskId : Text)
  fromState : Option TaskState
  toState : TaskState
  (actorId authorId : Text)
  note : Option Text
  sessionRevision : Nat
  createdAt : Text
  deriving DecidableEq

inductive SessionChange where
  | checkpoint (checkpointId : Text) (tipVector : List TipEntry) (tipVectorDigest : Text)
      (actors : List ActorEntry) (updatedAt : Text)
  | task (taskLedger : List TaskEntry) (actors : List ActorEntry) (updatedAt : Text)
  | lifecycle (target : Lifecycle) (actors : List ActorEntry) (updatedAt : Text)

def tipVectorValue (tipVector : List TipEntry) : Value :=
  .array (tipVector.map (fun entry => some entry.toValue))

def SessionChange.apply : SessionChange → SessionRow → SessionRow
  | .checkpoint checkpointId tipVector tipVectorDigest actors updatedAt, row =>
    { row with
      latestCheckpointId := some checkpointId
      checkpointTipVectorDigest := some tipVectorDigest
      tipVector := tipVectorValue tipVector
      tipVectorDigest := some tipVectorDigest
      actors, updatedAt }
  | .task taskLedger actors updatedAt, row => { row with taskLedger, actors, updatedAt }
  | .lifecycle target actors updatedAt, row => { row with lifecycle := target, actors, updatedAt }

/-- `WHERE code_session_id = ? AND session_revision = ?` -/
def matchesRevision (id : Text) (base : Nat) (row : SessionRow) : Bool :=
  row.codeSessionId == id && row.sessionRevision == base

/-- `UPDATE code_sessions SET …, session_revision = base + 1 WHERE …`: whether a row matched, and the
rows afterwards.
-/
def swapSession (sessions : List SessionRow) (id : Text) (base : Nat) (change : SessionChange)
    : Bool × List SessionRow :=
  (sessions.any (matchesRevision id base),
    updateWhere (matchesRevision id base)
      (fun row => { change.apply row with sessionRevision := base + 1 }) sessions)

/-- `INSERT INTO code_checkpoints`: whether the id was free. -/
def insertCheckpoint (checkpoints : List CheckpointRow) (row : CheckpointRow)
    : Bool × List CheckpointRow :=
  match checkpoints.find? (·.checkpointId == row.checkpointId) with
  | none => (true, checkpoints ++ [row])
  | some _ => (false, checkpoints)

/-- `INSERT INTO code_session_task_ledger_events`: whether the id was free. -/
def insertEvent (events : List TaskEventRow) (row : TaskEventRow) : Bool × List TaskEventRow :=
  match events.find? (·.eventId == row.eventId) with
  | none => (true, events ++ [row])
  | some _ => (false, events)

/-- The tables, with the tips of each workspace, and the number of statements executed so far. -/
structure Database where
  sessions : List SessionRow
  leases : List LeaseRow
  checkpoints : List CheckpointRow
  events : List TaskEventRow
  tips : List (Text × TipEntry)
  steps : Nat

def Database.initial (sessions : List SessionRow) (tips : List (Text × TipEntry)) : Database where
  sessions := sessions
  leases := []
  checkpoints := []
  events := []
  tips := tips
  steps := 0

inductive Command where
  | expireStale (sessionId : Text) (now : Nat)
  | insertLease (row : LeaseRow)
  | rescopeLease (id actor sessionId : Text) (scope : LeaseScope) (checkpointId : Option Text)
      (renewal : Renewal)
  | renewLease (id actor sessionId : Text) (renewal : Renewal)
  | releaseLease (id actor sessionId : Text) (now : Nat)
  | expireLease (id sessionId : Text) (now : Nat)
  | insertCheckpoint (row : CheckpointRow)
  | insertEvent (row : TaskEventRow)
  | swapSession (id : Text) (base : Nat) (change : SessionChange)

/-- `UPDATE code_session_leases SET … WHERE …`: whether a row matched. -/
def Database.updateLeases (db : Database) (p : LeaseRow → Bool) (f : LeaseRow → LeaseRow)
    : Bool × Database :=
  (db.leases.any p, { db with leases := updateWhere p f db.leases, steps := db.steps + 1 })

/-- `WHERE lease_id = ? AND … AND status = 'active' AND expires_at > ?` -/
def isRenewable (id actor sessionId : Text) (now : Nat) (row : LeaseRow) : Bool :=
  isHeld id actor sessionId row && now < row.expiresAt

/-- `WHERE lease_id = ? AND code_session_id = ?` -/
def isNamed (id sessionId : Text) (row : LeaseRow) : Bool :=
  row.leaseId == id && row.codeSessionId == sessionId

def exec : Command → Database → Bool × Database
  | .expireStale sessionId now, db =>
    db.updateLeases (isStale sessionId now) (LeaseRow.settle .expired now)
  | .insertLease row, db =>
    ((insertLease db.leases row).1,
      { db with leases := (insertLease db.leases row).2, steps := db.steps + 1 })
  | .rescopeLease id actor sessionId scope checkpointId renewal, db =>
    db.updateLeases (isHeld id actor sessionId) (LeaseRow.rescope scope checkpointId renewal)
  | .renewLease id actor sessionId renewal, db =>
    db.updateLeases (isRenewable id actor sessionId renewal.now) (LeaseRow.renew renewal)
  | .releaseLease id actor sessionId now, db =>
    db.updateLeases (isHeld id actor sessionId) (LeaseRow.settle .released now)
  | .expireLease id sessionId now, db =>
    db.updateLeases (isNamed id sessionId) (LeaseRow.settle .expired now)
  | .insertCheckpoint row, db =>
    ((insertCheckpoint db.checkpoints row).1,
      { db with
        checkpoints := (insertCheckpoint db.checkpoints row).2
        steps := db.steps + 1 })
  | .insertEvent row, db =>
    ((insertEvent db.events row).1,
      { db with events := (insertEvent db.events row).2, steps := db.steps + 1 })
  | .swapSession id base change, db =>
    ((swapSession db.sessions id base change).1,
      { db with
        sessions := (swapSession db.sessions id base change).2
        steps := db.steps + 1 })

/-- Every statement answers whether it has changed a row. -/
@[reducible] def store : Machine where
  State := Database
  Command := Command
  Reply := fun _ => Bool
  exec := exec
  Event := Empty
  disturb := fun event => nomatch event

/-- A call of one of the operations. An exception carries its message. -/
abbrev Operation (α : Type) := Program store Text α

def select {α : Type} (f : Database → α) : Operation α :=
  Program.select (M := store) f

def perform (cmd : Command) : Operation Bool :=
  Program.perform (M := store) cmd

def getCodeSession (id : Text) : Operation (Option SessionRow) :=
  select (fun db => findSession db.sessions id)

end CairnStone.CodeSession
