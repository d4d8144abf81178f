import CairnStone.Workspace.Tips

/-! The draft operations: write, write by reference, delete, rename, and hydration from Git. Each
reads the tip early and changes it later under a compare-and-swap.
-/

namespace CairnStone.Workspace

open JavaScript Concurrency

/-- How a call ends without success: with a result `{ ok: false, … }`, or by an exception. -/
inductive Failure where
  | refused (reason : Refused)
  | conflict (current : Option TipRow)
  | destinationExists (toPath : Text) (current : Option TipRow)
  | bucketRejected
  | sqlError (error : SqlError)
  deriving DecidableEq

structure Recorded where
  (workspaceId path revisionId : Text)
  parentRevisionId : Option Text
  contentHash : Text
  contentEncoding : ContentEncoding
  (contentRef gitBlobSha : Option Text)
  actorId : Text
  createdAt : Int
  deriving DecidableEq

abbrev Draft := Program draftPlane Failure

/-- One statement, or one call of the bucket. -/
def perform (cmd : Command) : Draft cmd.Reply :=
  Program.perform (M := draftPlane) cmd

def refuse {α : Type} : Except Refused α → Draft α
  | .ok value => .done value
  | .error reason => .fail (.refused reason)

def getWorkspaceTip (key : Text × Text) : Draft (Option TipRow) :=
  Program.select (fun world : World => world.tipAt key)

def conflictResult {α : Type} (key : Text × Text) : Draft α := do
  let raced ← getWorkspaceTip key
  .fail (.conflict raced)

def checkBase (tip : Option TipRow) (base : Option Text) : Draft Unit :=
  match tip, base with
  | none, none => .done ()
  | none, some _ => .fail (.conflict none)
  | some tip, none => .fail (.conflict (some tip))
  | some tip, some base =>
    if tip.revisionId = base then .done () else .fail (.conflict (some tip))

def putWorkspaceBlob (key content : Text) : Draft Unit := do
  let stored : Bool ← perform (.putBlob key content)
  if stored then .done () else .fail .bucketRejected

def insertRevisionRow (row : RevisionRow) : Draft Unit := do
  let inserted : Except SqlError Unit ← perform (.insertRevision row)
  match inserted with
  | .ok _ => .done ()
  | .error error => .fail (.sqlError error)

/-- The `INSERT` of a path's first tip. Whatever it throws becomes a conflict. -/
def createTip (row : TipRow) : Draft Unit := do
  let inserted : Except SqlError Unit ← perform (.insertTip row)
  match inserted with
  | .ok _ => .done ()
  | .error _ => conflictResult row.key

def requireChange (key : Text × Text) (changes : Nat) : Draft Unit :=
  if changes = 0 then conflictResult key else .done ()

def touchWorkspace (workspaceId : Text) (now : Int) : Draft Unit :=
  perform (.touchWorkspace workspaceId now)

def insertTreeOp (row : TreeOpRow) : Draft Unit :=
  perform (.insertTreeOp row)

def WORKSPACE_REVISION_SCHEMA : Text :=
  text "cairnstone-workspace-revision-v1"

def workspaceBlobKey (contentHash : Text) : Text :=
  text "workspace-blobs/" ++ contentHash ++ text ".txt"

def revisionEnvelope (workspaceId path : Text) (parentRevisionId : Option Text)
    (contentHash actorId : Text)
    : List (Text × Option Text) :=
  [(text "actor_id", some actorId), (text "content_hash", some contentHash),
    (text "parent_revision_id", parentRevisionId.filter (· ≠ [])), (text "path", some path),
    (text "schema", some WORKSPACE_REVISION_SCHEMA), (text "workspace_id", some workspaceId)]

variable (sha256Text : Text → Text)

def computeRevisionId (workspaceId path : Text) (parentRevisionId : Option Text)
    (contentHash actorId : Text)
    : Text :=
  sha256Text
    (stableRecord (revisionEnvelope workspaceId path parentRevisionId contentHash actorId))

structure WriteDraftArgs where
  (workspaceId path content baseRevision actorId : Value)

def writeDraft (args : WriteDraftArgs) (now : Int) : Draft Recorded := do
  let (wsId, actor) ←
    refuse (workspaceAndActor "invalid_workspace_write" args.workspaceId args.actorId)
  let path ← refuse (canonicalizeWorkspacePath args.path)
  let (content, contentBytes) ← refuse (assertBoundedUtf8Text args.content)
  let base ← refuse (writeBaseRevision args.baseRevision)
  let tip ← getWorkspaceTip (wsId, path)
  checkBase tip base
  let contentHash := sha256Text content
  putWorkspaceBlob (workspaceBlobKey contentHash) content
  let parent := tip.map (·.revisionId)
  let revisionId := computeRevisionId sha256Text wsId path parent contentHash actor
  insertRevisionRow
    { revisionId, workspaceId := wsId, path, parentRevisionId := parent, contentHash, contentBytes
      actorId := actor, createdAt := now, op := .write, contentEncoding := .utf8Text
      contentRef := none, gitBlobSha := none, renameToPath := none }
  match base with
  | none =>
    createTip
      { workspaceId := wsId, path, revisionId, contentHash, updatedAt := now
        contentEncoding := .utf8Text, contentRef := none, gitBlobSha := none }
  | some base =>
    let changes : Nat ←
      perform (.overwriteTip (wsId, path) base revisionId contentHash now)
    requireChange (wsId, path) changes
  touchWorkspace wsId now
  .done
    { workspaceId := wsId, path, revisionId, parentRevisionId := parent, contentHash
      contentEncoding := .utf8Text, contentRef := none, gitBlobSha := none, actorId := actor
      createdAt := now }

structure DeleteDraftArgs where
  (workspaceId path baseRevision actorId : Value)

def deleteDraft (args : DeleteDraftArgs) (now : Int) : Draft Recorded := do
  let (wsId, actor) ←
    refuse (workspaceAndActor "invalid_workspace_delete" args.workspaceId args.actorId)
  let path ← refuse (canonicalizeWorkspacePath args.path)
  let base ← refuse (normalizeBaseRevision args.baseRevision)
  match base with
  | none => .fail (.refused (.invalid "base_revision_required_for_delete"))
  | some base =>
    let tip ← getWorkspaceTip (wsId, path)
    match tip with
    | none => .fail (.conflict none)
    | some tip =>
      if tip.revisionId ≠ base then
        .fail (.conflict (some tip))
      else
        let contentHash := sha256Text []
        let revisionId := computeRevisionId sha256Text wsId path (some base) contentHash actor
        insertRevisionRow
          { revisionId, workspaceId := wsId, path, parentRevisionId := some base, contentHash
            contentBytes := 0, actorId := actor, createdAt := now, op := .delete
            contentEncoding := .tombstone, contentRef := none, gitBlobSha := none
            renameToPath := none }
        let changes : Nat ← perform (.deleteTipCas (wsId, path) base)
        requireChange (wsId, path) changes
        touchWorkspace wsId now
        insertTreeOp
          { workspaceId := wsId, op := "delete", actorId := actor, fromPath := some path
            toPath := none, baseRevisionId := some base, resultRevisionId := some revisionId
            createdAt := now }
        .done
          { workspaceId := wsId, path, revisionId, parentRevisionId := some base, contentHash
            contentEncoding := .tombstone, contentRef := none, gitBlobSha := none
            actorId := actor, createdAt := now }

structure RenameDraftArgs where
  (workspaceId fromPath toPath baseRevision actorId : Value)

/-- The second half of a rename: the `INSERT` of the destination, after the source is gone. -/
def insertDestination (row : TipRow) : Draft Unit := do
  let inserted : Except SqlError Unit ← perform (.insertTip row)
  match inserted with
  | .ok _ => .done ()
  | .error _ => do
    let raced ← getWorkspaceTip row.key
    .fail (.destinationExists row.path raced)

def renameDraft (args : RenameDraftArgs) (now : Int) : Draft Recorded := do
  let (wsId, actor) ←
    refuse (workspaceAndActor "invalid_workspace_rename" args.workspaceId args.actorId)
  let fromPath ← refuse (canonicalizeWorkspacePath args.fromPath)
  let toPath ← refuse (canonicalizeWorkspacePath args.toPath)
  if fromPath = toPath then
    .fail (.refused (.samePath fromPath))
  else
    let base ← refuse (normalizeBaseRevision args.baseRevision)
    match base with
    | none => .fail (.refused (.invalid "base_revision_required_for_rename"))
    | some base =>
      let sourceTip ← getWorkspaceTip (wsId, fromPath)
      match sourceTip with
      | none => .fail (.conflict none)
      | some source =>
        if source.revisionId ≠ base then
          .fail (.conflict (some source))
        else
          let destTip ← getWorkspaceTip (wsId, toPath)
          match destTip with
          | some dest => .fail (.destinationExists toPath (some dest))
          | none =>
            let contentHash := source.contentHash
            let revisionId :=
              computeRevisionId sha256Text wsId toPath (some base) contentHash actor
            insertRevisionRow
              { revisionId, workspaceId := wsId, path := fromPath
                parentRevisionId := some base, contentHash, contentBytes := 0
                actorId := actor, createdAt := now, op := .rename
                contentEncoding := source.contentEncoding, contentRef := source.contentRef
                gitBlobSha := source.gitBlobSha, renameToPath := some toPath }
            let changes : Nat ← perform (.deleteTipCas (wsId, fromPath) base)
            requireChange (wsId, fromPath) changes
            insertDestination
              { workspaceId := wsId, path := toPath, revisionId, contentHash
                updatedAt := now, contentEncoding := source.contentEncoding
                contentRef := source.contentRef, gitBlobSha := source.gitBlobSha }
            touchWorkspace wsId now
            insertTreeOp
              { workspaceId := wsId, op := "rename", actorId := actor
                fromPath := some fromPath, toPath := some toPath
                baseRevisionId := some base, resultRevisionId := some revisionId
                createdAt := now }
            .done
              { workspaceId := wsId, path := toPath, revisionId
                parentRevisionId := some base, contentHash
                contentEncoding := source.contentEncoding
                contentRef := source.contentRef, gitBlobSha := source.gitBlobSha
                actorId := actor, createdAt := now }

/-- `contentBytes` is `Number(content_bytes)`. -/
structure ContentRefArgs where
  (workspaceId path contentRef : Value)
  contentBytes : Number
  (contentSha256 gitBlobSha baseRevision actorId : Value)

def writeDraftFromContentRef (args : ContentRefArgs) (now : Int) : Draft Recorded := do
  let (wsId, actor) ←
    refuse (workspaceAndActor "invalid_workspace_content_ref_write" args.workspaceId args.actorId)
  let path ← refuse (canonicalizeWorkspacePath args.path)
  let contentRef ← refuse (validateContentRef args.contentRef)
  let contentHash ← refuse (validateContentSha args.contentSha256)
  let contentBytes ← refuse (validateContentBytes args.contentBytes)
  let gitBlobSha ← refuse (validateGitBlobSha args.gitBlobSha)
  let base ← refuse (normalizeBaseRevision args.baseRevision)
  let tip ← getWorkspaceTip (wsId, path)
  checkBase tip base
  let parent := tip.map (·.revisionId)
  let revisionId := computeRevisionId sha256Text wsId path parent contentHash actor
  insertRevisionRow
    { revisionId, workspaceId := wsId, path, parentRevisionId := parent, contentHash, contentBytes
      actorId := actor, createdAt := now, op := .write, contentEncoding := .contentRef
      contentRef := some contentRef, gitBlobSha, renameToPath := none }
  let row : TipRow :=
    { workspaceId := wsId, path, revisionId, contentHash, updatedAt := now
      contentEncoding := .contentRef, contentRef := some contentRef, gitBlobSha }
  match base with
  | none => createTip row
  | some base =>
    let changes : Nat ← perform (.updateTipCas base row)
    requireChange (wsId, path) changes
  touchWorkspace wsId now
  insertTreeOp
    { workspaceId := wsId, op := "content_ref", actorId := actor, fromPath := some path
      toPath := none, baseRevisionId := parent, resultRevisionId := some revisionId
      createdAt := now }
  .done
    { workspaceId := wsId, path, revisionId, parentRevisionId := parent, contentHash
      contentEncoding := .contentRef, contentRef := some contentRef, gitBlobSha, actorId := actor
      createdAt := now }

/-- One of the four draft operations, with its clock reading. -/
inductive Call where
  | writeDraft (args : WriteDraftArgs) (now : Int)
  | deleteDraft (args : DeleteDraftArgs) (now : Int)
  | renameDraft (args : RenameDraftArgs) (now : Int)
  | writeDraftFromContentRef (args : ContentRefArgs) (now : Int)

def Call.body : Call → Draft Recorded
  | .writeDraft args now => Workspace.writeDraft sha256Text args now
  | .deleteDraft args now => Workspace.deleteDraft sha256Text args now
  | .renameDraft args now => Workspace.renameDraft sha256Text args now
  | .writeDraftFromContentRef args now => Workspace.writeDraftFromContentRef sha256Text args now

end CairnStone.Workspace
