import CairnStone.Concurrency.Program
import CairnStone.Data.Table
import CairnStone.Workspace.Paths

/-! The tables of the workspace draft plane and the statements that change them. A tip names the
current revision of a path; revisions are only ever appended.
-/

namespace CairnStone.Workspace

open JavaScript Data Concurrency

inductive ContentEncoding where
  | utf8Text
  | contentRef
  | tombstone
  deriving DecidableEq

inductive RevisionOp where
  | write
  | delete
  | rename
  deriving DecidableEq

structure TipRow where
  (workspaceId path revisionId contentHash : Text)
  updatedAt : Int
  contentEncoding : ContentEncoding
  (contentRef gitBlobSha : Option Text)
  deriving DecidableEq

structure RevisionRow where
  (revisionId workspaceId path : Text)
  parentRevisionId : Option Text
  contentHash : Text
  contentBytes : Nat
  actorId : Text
  createdAt : Int
  op : RevisionOp
  contentEncoding : ContentEncoding
  (contentRef gitBlobSha renameToPath : Option Text)
  deriving DecidableEq

/-- A row of `workspace_tree_ops`, without its detail. -/
structure TreeOpRow where
  workspaceId : Text
  op : String
  actorId : Text
  (fromPath toPath baseRevisionId resultRevisionId : Option Text)
  createdAt : Int
  deriving DecidableEq

/-- What the calls share: the rows of `workspaces` with their `updated_at`, the draft tables,
and the bucket. While `storing` is false, `put` rejects.
-/
structure World where
  workspaces : List (Text × Int)
  revisions : List RevisionRow
  tips : List TipRow
  treeOps : List TreeOpRow
  blobs : List (Text × Text)
  storing : Bool

/-- The primary key of a tip. -/
def TipRow.key (row : TipRow) : Text × Text :=
  (row.workspaceId, row.path)

namespace World

/-- `SELECT … FROM workspace_tips WHERE workspace_id = ? AND path = ?` -/
def tipAt (world : World) (key : Text × Text) : Option TipRow :=
  world.tips.find? (·.key == key)

def matchesTip (key : Text × Text) (base : Text) (row : TipRow) : Bool :=
  row.key == key && row.revisionId == base

end World

/-- The statements of the draft operations, and the one bucket call. -/
inductive Command where
  | putBlob (key content : Text)
  | insertRevision (row : RevisionRow)
  | insertTip (row : TipRow)
  | overwriteTip (key : Text × Text) (base revisionId contentHash : Text) (updatedAt : Int)
  | updateTipCas (base : Text) (row : TipRow)
  | deleteTipCas (key : Text × Text) (base : Text)
  | touchWorkspace (workspaceId : Text) (updatedAt : Int)
  | insertTreeOp (row : TreeOpRow)

inductive SqlError where
  | foreignKey
  | unique
  deriving DecidableEq

/-- What a command answers: whether the bucket stored, whether a row could be inserted, or how
many rows changed.
-/
def Command.Reply : Command → Type
  | .putBlob _ _ => Bool
  | .insertRevision _ => Except SqlError Unit
  | .insertTip _ => Except SqlError Unit
  | .overwriteTip _ _ _ _ _ => Nat
  | .updateTipCas _ _ => Nat
  | .deleteTipCas _ _ => Nat
  | .touchWorkspace _ _ => Unit
  | .insertTreeOp _ => Unit

namespace World

/-- `INSERT OR IGNORE INTO workspace_revisions`. A known revision id is ignored; a new row must
name a workspace and, if it has a parent, a revision.
-/
def insertRevision (world : World) (row : RevisionRow) : Except SqlError Unit × World :=
  if world.revisions.any (·.revisionId == row.revisionId) then
    (.ok (), world)
  else if world.workspaces.any (·.1 == row.workspaceId)
      && row.parentRevisionId.all
        (fun parent => parent == row.revisionId
          || world.revisions.any (·.revisionId == parent)) then
    (.ok (), { world with revisions := world.revisions ++ [row] })
  else
    (.error .foreignKey, world)

/-- `INSERT INTO workspace_tips` -/
def insertTip (world : World) (row : TipRow) : Except SqlError Unit × World :=
  if (world.tipAt row.key).isSome then
    (.error .unique, world)
  else if world.workspaces.any (·.1 == row.workspaceId)
      && world.revisions.any (·.revisionId == row.revisionId) then
    (.ok (), { world with tips := world.tips ++ [row] })
  else
    (.error .foreignKey, world)

/-- The `UPDATE workspace_tips` of `writeDraft`. It leaves the encoding, the pointer and the Git
blob of the tip as they are.
-/
def overwriteTip (world : World) (key : Text × Text) (base revisionId contentHash : Text)
    (updatedAt : Int)
    : Nat × World :=
  (world.tips.countP (matchesTip key base),
    { world with
      tips :=
        updateWhere (matchesTip key base)
          (fun row => { row with revisionId, contentHash, updatedAt }) world.tips })

/-- The `UPDATE workspace_tips` of `updateTipCas`, which sets every column but the key. -/
def updateTipCas (world : World) (base : Text) (row : TipRow) : Nat × World :=
  (world.tips.countP (matchesTip row.key base),
    { world with
      tips :=
        updateWhere (matchesTip row.key base)
          (fun old => { row with workspaceId := old.workspaceId, path := old.path })
          world.tips })

/-- `DELETE FROM workspace_tips WHERE … AND revision_id = ?` -/
def deleteTipCas (world : World) (key : Text × Text) (base : Text) : Nat × World :=
  (world.tips.countP (matchesTip key base),
    { world with tips := world.tips.filter (fun row => !matchesTip key base row) })

def exec : (cmd : Command) → World → cmd.Reply × World
  | .putBlob key content, world =>
    if world.storing then (true, { world with blobs := (key, content) :: world.blobs })
    else (false, world)
  | .insertRevision row, world => world.insertRevision row
  | .insertTip row, world => world.insertTip row
  | .overwriteTip key base revisionId contentHash updatedAt, world =>
    world.overwriteTip key base revisionId contentHash updatedAt
  | .updateTipCas base row, world => world.updateTipCas base row
  | .deleteTipCas key base, world => world.deleteTipCas key base
  | .touchWorkspace workspaceId updatedAt, world =>
    ((), { world with
      workspaces :=
        updateWhere (·.1 == workspaceId) (fun row => (row.1, updatedAt)) world.workspaces })
  | .insertTreeOp row, world => ((), { world with treeOps := world.treeOps ++ [row] })

end World

inductive Disturbance where
  | bucket (storing : Bool)

/-- The draft plane as a machine. -/
abbrev draftPlane : Machine where
  State := World
  Command := Command
  Reply := Command.Reply
  exec := World.exec
  Event := Disturbance
  disturb := fun (.bucket storing) (world : World) => { world with storing }

def World.initial (workspaces : List (Text × Int)) : World where
  workspaces := workspaces
  revisions := []
  tips := []
  treeOps := []
  blobs := []
  storing := true

end CairnStone.Workspace
