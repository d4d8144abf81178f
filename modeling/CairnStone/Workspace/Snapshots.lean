import CairnStone.Concurrency.Instants
import CairnStone.JavaScript.Objects
import CairnStone.Workspace.Listing

/-! Snapshots: an immutable record of the tips that were selected, by a list of paths or by a prefix.
The selection is read three times, and the snapshot is given up when the readings differ.
-/

namespace CairnStone.Workspace

open JavaScript Data Concurrency

structure TipEntry where
  (path revisionId contentHash : Text)
  deriving DecidableEq

def TipRow.entry (tip : TipRow) : TipEntry where
  path := tip.path
  revisionId := tip.revisionId
  contentHash := tip.contentHash

structure SnapshotRow where
  (snapshotId workspaceId tipVectorJson tipVectorDigest createdBy : Text)
  createdAt : Int
  deriving DecidableEq

/-- The draft tables and the snapshots beside them. -/
structure SnapshotWorld where
  drafts : World
  snapshots : List SnapshotRow

inductive SnapshotCommand where
  | draft (cmd : Command)
  | insertSnapshot (row : SnapshotRow)

def SnapshotCommand.Reply : SnapshotCommand → Type
  | .draft cmd => cmd.Reply
  | .insertSnapshot _ => Except SqlError Unit

namespace SnapshotWorld

/-- `INSERT OR IGNORE INTO workspace_snapshots` -/
def insertSnapshot (world : SnapshotWorld) (row : SnapshotRow)
    : Except SqlError Unit × SnapshotWorld :=
  if world.snapshots.any (·.snapshotId == row.snapshotId) then
    (.ok (), world)
  else if world.drafts.workspaces.any (·.1 == row.workspaceId) then
    (.ok (), { world with snapshots := world.snapshots ++ [row] })
  else
    (.error .foreignKey, world)

def exec : (cmd : SnapshotCommand) → SnapshotWorld → cmd.Reply × SnapshotWorld
  | .draft cmd, world =>
    ((World.exec cmd world.drafts).1,
      { world with drafts := (World.exec cmd world.drafts).2 })
  | .insertSnapshot row, world => world.insertSnapshot row

end SnapshotWorld

/-- The draft plane with its snapshots. -/
abbrev snapshotPlane : Machine where
  State := SnapshotWorld
  Command := SnapshotCommand
  Reply := SnapshotCommand.Reply
  exec := SnapshotWorld.exec
  Event := Disturbance
  disturb := fun (.bucket storing) (world : SnapshotWorld) =>
    { world with drafts := { world.drafts with storing } }

def draftPart : Embedding draftPlane snapshotPlane where
  view := SnapshotWorld.drafts
  command := .draft
  reply _ reply := reply
  replies _ _ := rfl
  views _ _ := rfl

/-- How a call ends without success: as a draft operation does, or for want of a snapshot. -/
inductive SnapshotFailure where
  | draft (failure : Failure)
  | pathNotFound (path : Text)
  | empty (wsId : Text)
  | race (wsId tipVectorDigest : Text) (snapshotId : Option Text)
  deriving DecidableEq

abbrev Snapshot := Program snapshotPlane SnapshotFailure

def ofDraft {α : Type} (draft : Draft α) : Snapshot α :=
  draft.embed draftPart .draft

variable (sha256Text : Text → Text) (localeLe : Text → Text → Bool)

/-- `buildTipVector(tips)`, where `localeLe a b` is `a.localeCompare(b) <= 0`. -/
def buildTipVector (tips : List TipEntry) : List TipEntry :=
  tips.insertionSort (fun a b => localeLe a.path b.path)

def TipEntry.toValue (entry : TipEntry) : Value :=
  .object .objectPrototype
    [(text "path", .string entry.path), (text "revision_id", .string entry.revisionId),
      (text "content_hash", .string entry.contentHash)]

def WORKSPACE_TIP_VECTOR_SCHEMA : Text :=
  text "cairnstone-workspace-tip-vector-v1"

def tipVectorDigestPayload (wsId : Text) (tipVector : List TipEntry) : Value :=
  .object .objectPrototype
    [(text "schema", .string WORKSPACE_TIP_VECTOR_SCHEMA), (text "workspace_id", .string wsId),
      (text "tips", .array (tipVector.map (fun entry => some entry.toValue)))]

def computeTipVectorDigest (wsId : Text) (tipVector : List TipEntry) : Text :=
  sha256Text (stableJson (tipVectorDigestPayload wsId tipVector))

def WORKSPACE_SNAPSHOT_SCHEMA : Text :=
  text "cairnstone-workspace-snapshot-v1"

def snapshotIdentity (wsId tipVectorDigest : Text) : Value :=
  .object .objectPrototype
    [(text "schema", .string WORKSPACE_SNAPSHOT_SCHEMA), (text "workspace_id", .string wsId),
      (text "tip_vector_digest", .string tipVectorDigest)]

def tipVectorsEqual (left right : List TipEntry) : Bool :=
  buildTipVector localeLe left == buildTipVector localeLe right

structure FreezeArgs where
  (workspaceId createdBy paths pathPrefix : Value)

/-- `paths`, if it is an array that is not empty. -/
def FreezeArgs.listedPaths (args : FreezeArgs) : Option (List Value) :=
  match args.paths with
  | .array (slot :: slots) => some ((slot :: slots).map (·.getD .undefined))
  | _ => none

/-- `actorId(created_by, "created_by")` -/
def creatorId (value : Value) : Except String Text :=
  requireId isActorId "Missing required string: created_by" "Invalid actor id for created_by" value

def selectPaths (wsId : Text) : List Value → Snapshot (List TipRow)
  | [] => .done []
  | rawPath :: rest => do
    let path ← ofDraft (refuse (canonicalizeWorkspacePath rawPath))
    let tip ← ofDraft (getWorkspaceTip (wsId, path))
    match tip with
    | none => .fail (.pathNotFound path)
    | some tip =>
      let selected ← selectPaths wsId rest
      .done (tip :: selected)

def selectTipsForSnapshot (wsId : Text) (args : FreezeArgs) : Snapshot (List TipRow) :=
  match args.listedPaths with
  | some paths => selectPaths wsId paths
  | none => do
    let given ← ofDraft (refuse (listingPrefix args.pathPrefix))
    Program.select (fun world : SnapshotWorld =>
      selectTips world.drafts wsId (fun path => given.all (listedUnder · path)))

structure FrozenSnapshot where
  (workspaceId workspaceSnapshotId : Text)
  tipVector : List TipEntry
  (tipVectorDigest createdBy : Text)
  createdAt : Int
  deriving DecidableEq

/-- `try { workspaceId(…); actorId(…) } catch { … }` -/
def workspaceAndCreator (workspace creator : Value) : Except Refused (Text × Text) :=
  match workspaceId workspace, creatorId creator with
  | .error detail, _ => .error (.request "invalid_workspace_snapshot" detail)
  | .ok _, .error detail => .error (.request "invalid_workspace_snapshot" detail)
  | .ok wsId, .ok creator => .ok (wsId, creator)

def recheck (wsId : Text) (args : FreezeArgs) (tipVector : List TipEntry)
    (race : SnapshotFailure)
    : Snapshot Unit := do
  let tips ← selectTipsForSnapshot wsId args
  if tipVectorsEqual localeLe tipVector (tips.map TipRow.entry) then .done () else .fail race

def insertSnapshotRow (row : SnapshotRow) : Snapshot Unit := do
  let inserted : Except SqlError Unit ← Program.perform (M := snapshotPlane) (.insertSnapshot row)
  match inserted with
  | .ok _ => .done ()
  | .error error => .fail (.draft (.sqlError error))

def requireTips (wsId : Text) (tips : List TipRow) : Snapshot Unit :=
  if tips = [] then .fail (.empty wsId) else .done ()

def freezeWorkspaceSnapshot (args : FreezeArgs) (now : Int) : Snapshot FrozenSnapshot := do
  let (wsId, creator) ← ofDraft (refuse (workspaceAndCreator args.workspaceId args.createdBy))
  let first ← selectTipsForSnapshot wsId args
  requireTips wsId first
  let tipVector := buildTipVector localeLe (first.map TipRow.entry)
  let tipVectorDigest := computeTipVectorDigest sha256Text wsId tipVector
  let snapshotId := sha256Text (stableJson (snapshotIdentity wsId tipVectorDigest))
  recheck localeLe wsId args tipVector (.race wsId tipVectorDigest none)
  insertSnapshotRow
    { snapshotId, workspaceId := wsId
      tipVectorJson := stableJson (tipVectorDigestPayload wsId tipVector)
      tipVectorDigest, createdBy := creator, createdAt := now }
  recheck localeLe wsId args tipVector (.race wsId tipVectorDigest (some snapshotId))
  .done
    { workspaceId := wsId, workspaceSnapshotId := snapshotId, tipVector, tipVectorDigest
      createdBy := creator, createdAt := now }

/-- A draft operation, or the freezing of a snapshot. -/
inductive SnapshotCall where
  | draft (call : Call)
  | freeze (args : FreezeArgs) (now : Int)

def SnapshotCall.body : SnapshotCall → Snapshot (Recorded ⊕ FrozenSnapshot)
  | .draft call => do
    let recorded ← ofDraft (call.body sha256Text)
    .done (.inl recorded)
  | .freeze args now => do
    let frozen ← freezeWorkspaceSnapshot sha256Text localeLe args now
    .done (.inr frozen)

end CairnStone.Workspace
