import CairnStone.CodeSession.Checkpoints
import CairnStone.Concurrency.Sequences
import CairnStone.Data.FirstOccurrences
import CairnStone.Data.Newest
import CairnStone.Workspace.TreeDiff

/-! What a session is told has changed since its last checkpoint. The digest, the row and the pointer of a checkpoint
are kept apart, and a creator may supply two of them.
-/

namespace CairnStone.CodeSession

open JavaScript Data Concurrency Program
open TaskRuns (Refusal nonEmptyString)
open Workspace (TipEntry buildTipVector computeTipVectorDigest tipVectorDigestPayload)

def tipEntryKey (entry : TipEntry) : Text :=
  entry.path ++ 0 :: (entry.revisionId ++ 0 :: entry.contentHash)

/-- An entry of `changed_path_details`, with the tip that it shows. -/
structure PathChange where
  tip : TipEntry
  change : Text
  deriving DecidableEq

/-- `new Map(tips.map(tip => [tip.path, tip]))`, in the order of its keys -/
def mapByPath (tips : List TipEntry) : List TipEntry :=
  (firstOccurrences TipEntry.path [] tips).filterMap
    (fun tip => lastOf TipEntry.path tips tip.path)

section

variable (localeLe : Text → Text → Bool)

def changeOf (prevByPath : List TipEntry) (tip : TipEntry) : Option PathChange :=
  match prevByPath.find? (·.path == tip.path) with
  | none => some ⟨tip, text "added"⟩
  | some prior => if tipEntryKey prior = tipEntryKey tip then none else some ⟨tip, text "modified"⟩

/-- The changes of `diffTipVectors(previousTips, currentTips)`, before they are sorted and cut. -/
def tipChanges (previousTips currentTips : List TipEntry) : List PathChange :=
  let prevByPath := mapByPath previousTips
  let currByPath := mapByPath currentTips
  currByPath.filterMap (changeOf prevByPath)
    ++ (prevByPath.filter (fun tip => !currByPath.any (·.path == tip.path))).map
        (fun tip => ⟨tip, text "removed"⟩)

def diffTipVectors (previousTips currentTips : List TipEntry) : List PathChange :=
  ((tipChanges previousTips currentTips).insertionSort
    (fun a b => localeLe a.tip.path b.tip.path)).take MAX_CHANGED_PATHS

/-- `changes_since_last_checkpoint` -/
structure ChangeSet where
  checkpointTipVectorDigest : Option Text
  digestMatch : Option Bool
  pathsChanged : List Text
  changedPathDetails : List PathChange

def allPresent (change : String) (currentTips : List TipEntry) : List PathChange :=
  (currentTips.map (fun tip => ⟨tip, text change⟩)).take MAX_CHANGED_PATHS

def pathsChangedSinceCheckpoint (currentTips : List TipEntry) (checkpointDigest : Text)
    (storedCheckpointDigest : Option Text) (previousTips : Option (List TipEntry))
    : ChangeSet :=
  if checkpointDigest = [] ∧ storedCheckpointDigest = none then
    { checkpointTipVectorDigest := none
      digestMatch := none
      pathsChanged := currentTips.map (·.path)
      changedPathDetails := allPresent "present" currentTips }
  else
    let same := storedCheckpointDigest == some checkpointDigest
    let details :=
      if same then []
      else
        match previousTips with
        | some previousTips => diffTipVectors localeLe previousTips currentTips
        | none => allPresent "present_or_changed" currentTips
    { checkpointTipVectorDigest := storedCheckpointDigest
      digestMatch := storedCheckpointDigest.map (fun _ => same)
      pathsChanged := details.map (·.tip.path)
      changedPathDetails := details }

variable (sha256Text : Text → Digest)

def getCodeCheckpoint (db : Database) (id : Text) : Option CheckpointRow :=
  match checkpointId (.string id) with
  | .error _ => none
  | .ok id => db.checkpoints.find? (·.checkpointId == id)

def tipsOf (db : Database) (workspaceId : Text) : List TipEntry :=
  (db.tips.filter (·.1 == workspaceId)).map (·.2)

/-- `UPDATE code_sessions SET tip_vector_json = ?, tip_vector_digest = ?, updated_at = ? WHERE …` -/
def observeTips (db : Database) (session : SessionRow) (tips : List TipEntry × Text) (now : Text)
    : Database :=
  if session.tipVectorDigest = some tips.2 then db
  else
    { db with
      sessions :=
        updateWhere (matchesRevision session.codeSessionId session.sessionRevision)
          (fun row =>
            { row with
              tipVector := tipVectorValue tips.1
              tipVectorDigest := some tips.2
              updatedAt := now })
          db.sessions }

/-- `compileCodeSessionContext(db, { code_session_id, … })`, as far as it tells what has changed: the session that it
read last with the changes, or nothing if it is refused, and the database afterwards.
-/
def compileCodeSessionContext (db : Database) (codeSessionId : Value) (now : Text)
    : Option (SessionRow × ChangeSet) × Database :=
  match CodeSession.codeSessionId codeSessionId with
  | .error _ => (none, db)
  | .ok id =>
    match findSession db.sessions id with
    | none => (none, db)
    | some session =>
      match ((refreshWorkspaceTipState sha256Text localeLe session.workspaceId).run db).1 with
      | .ok (.ok tips) =>
        let after := observeTips db session tips now
        match findSession after.sessions id with
        | none => (none, after)
        | some fresh =>
          if fresh.sessionRevision ≠ session.sessionRevision then (none, after)
          else
            let latestCheckpoint := fresh.latestCheckpointId.bind (getCodeCheckpoint after)
            (some (fresh,
              pathsChangedSinceCheckpoint localeLe tips.1 tips.2
                fresh.checkpointTipVectorDigest (latestCheckpoint.map (·.tipVector))),
              after)
      | _ => (none, db)

variable (toISOString : Nat → Text)

/-- What happens to the sessions and their workspaces. A session is created with the columns of an accepted body, a
draft is written as a revision of its own, and a rename removes one tip and writes another one.
-/
inductive Step where
  | create (row : SessionRow) (latestCheckpointId checkpointTipVectorDigest : Value)
  | checkpoint (args : CheckpointArguments)
  | compile (codeSessionId : Value) (now : Text)
  | writeTip (workspaceId path : Text) (revision : Digest) (contentHash : Text)
  | removeTip (workspaceId path : Text)

def createdRow (row : SessionRow) (latestCheckpointId checkpointTipVectorDigest : Value)
    : SessionRow :=
  { row with
    latestCheckpointId := nonEmptyString latestCheckpointId
    checkpointTipVectorDigest := nonEmptyString checkpointTipVectorDigest
    lifecycle := .active
    sessionRevision := 1 }

def withoutTip (tips : List (Text × TipEntry)) (workspaceId path : Text) : List (Text × TipEntry) :=
  tips.filter (fun tip => !(tip.1 == workspaceId && tip.2.path == path))

def Step.next : Step → Database → Database
  | .create row latestCheckpointId checkpointTipVectorDigest, db =>
    { db with
      sessions :=
        addNew SessionRow.codeSessionId db.sessions
          (createdRow row latestCheckpointId checkpointTipVectorDigest) }
  | .checkpoint args, db =>
    ((createCodeCheckpoint sha256Text localeLe toISOString args).run db).2
  | .compile codeSessionId now, db =>
    (compileCodeSessionContext localeLe sha256Text db codeSessionId now).2
  | .writeTip workspaceId path revision contentHash, db =>
    { db with
      tips :=
        (withoutTip db.tips workspaceId path
            ++ [(workspaceId, TipEntry.mk path revision.text contentHash)]).insertionSort
          (fun a b => binaryLe a.2.path b.2.path) }
  | .removeTip workspaceId path, db => { db with tips := withoutTip db.tips workspaceId path }

/-- The database after the steps, from an empty one. -/
def afterSteps (steps : List Step) : Database :=
  steps.foldl (fun db step => step.next localeLe sha256Text toISOString db) (.initial [] [])

end

def versionAt (tips : List TipEntry) (path : Text) : Option (Text × Text) :=
  (tips.find? (·.path == path)).map (fun tip => (tip.revisionId, tip.contentHash))

def differingPaths (previous current : List TipEntry) : List Text :=
  ((previous ++ current).map (·.path)).dedup.filter
    (fun path => versionAt previous path != versionAt current path)

/-- The paths that have changed since the latest checkpoint of a session, or all of them if there is none. -/
def changedSince (db : Database) (session : SessionRow) : List Text :=
  match db.checkpoints.find? (fun row => session.latestCheckpointId == some row.checkpointId
      && row.codeSessionId == session.codeSessionId) with
  | some checkpoint => differingPaths checkpoint.tipVector (tipsOf db session.workspaceId)
  | none => (tipsOf db session.workspaceId).map (·.path)

/-- The changes are the paths that differ from the latest checkpoint, and there are none exactly if the digests match.
Without a checkpoint they are all the paths.
-/
structure TellsTheTruth (db : Database) (session : SessionRow) (changes : ChangeSet) : Prop where
  since
    : ∀ checkpoint ∈ db.checkpoints, session.latestCheckpointId = some checkpoint.checkpointId
      → checkpoint.codeSessionId = session.codeSessionId
      → (∀ path, path ∈ changes.pathsChanged
          ↔ versionAt checkpoint.tipVector path ≠ versionAt (tipsOf db session.workspaceId) path)
        ∧ (changes.pathsChanged = [] ↔ changes.digestMatch = some true)
  all
    : (∀ checkpoint ∈ db.checkpoints, checkpoint.codeSessionId ≠ session.codeSessionId)
      → ∀ path, path ∈ changes.pathsChanged
          ↔ path ∈ (tipsOf db session.workspaceId).map (·.path)

section Checkpoint

variable {localeLe : Text → Text → Bool} {sha256Text : Text → Digest}

def vectorDigest (sha256Text : Text → Digest) (workspaceId : Text) (tips : List TipEntry) : Text :=
  computeTipVectorDigest (fun s => (sha256Text s).text) workspaceId tips

/-- Alone, both readings of the tips agree. -/
theorem run_refreshWorkspaceTipState (db : Database) (workspaceId : Text)
    : (refreshWorkspaceTipState sha256Text localeLe workspaceId).run db
      = (.ok (.ok
          (buildTipVector localeLe (tipsOf db workspaceId),
            vectorDigest sha256Text workspaceId
              (buildTipVector localeLe (tipsOf db workspaceId)))), db) := by
  have twice : Workspace.tipVectorsEqual localeLe (buildTipVector localeLe (tipsOf db workspaceId))
      (buildTipVector localeLe (tipsOf db workspaceId)) = true :=
    beq_self_eq_true _
  unfold refreshWorkspaceTipState
  exact congrArg (fun p : Operation (Except Refusal (List TipEntry × Text)) => p.run db) (if_pos twice)

structure KeepsSessions (db after : Database) : Prop where
  sessions : after.sessions = db.sessions
  checkpoints : after.checkpoints = db.checkpoints
  tips : after.tips = db.tips

theorem keepsSessions_leaseStubsFor (toISOString : Nat → Text) (args : CheckpointArguments)
    (target : CheckpointTarget) (db : Database)
    : KeepsSessions db ((leaseStubsFor toISOString args target).run db).2 := by
  unfold leaseStubsFor
  dsimp only
  split
  · exact ⟨rfl, rfl, rfl⟩
  · exact ⟨rfl, rfl, rfl⟩

structure Takes (localeLe : Text → Text → Bool) (sha256Text : Text → Digest) (db after : Database)
    (session : SessionRow) (row : CheckpointRow)
    : Prop where
  found : findSession db.sessions row.codeSessionId = some session
  workspace : row.workspaceId = session.workspaceId
  vector : row.tipVector = buildTipVector localeLe (tipsOf db session.workspaceId)
  digest : row.tipVectorDigest = vectorDigest sha256Text row.workspaceId row.tipVector
  id : ∃ digest : Digest, row.checkpointId = text "cp:" ++ digest.text
  fresh : db.checkpoints.find? (·.checkpointId == row.checkpointId) = none
  checkpoints : after.checkpoints = db.checkpoints ++ [row]
  sessions
    : after.sessions
      = (swapSession db.sessions row.codeSessionId session.sessionRevision
          (checkpointChange localeLe row session)).2
  tips : after.tips = db.tips

theorem run_select_bind {α β : Type} (f : Database → β) (g : β → Operation α) (db : Database)
    : ((select f).bind g).run db = (g (f db)).run db :=
  rfl

theorem run_getCodeSession_bind {α : Type} (id : Text) (g : Option SessionRow → Operation α)
    (db : Database)
    : ((getCodeSession id).bind g).run db = (g (findSession db.sessions id)).run db :=
  rfl

/-- Whatever it answers, an append whose id is free is followed by its swap. -/
theorem run_appendCheckpoint (db : Database) (session : SessionRow) (row : CheckpointRow) (base : Nat)
    : ((appendCheckpoint localeLe row session base).run db).2
      = if (insertCheckpoint db.checkpoints row).1 then
          (exec (.swapSession row.codeSessionId base (checkpointChange localeLe row session))
            (exec (.insertCheckpoint row) db).2).2
        else (exec (.insertCheckpoint row) db).2 := by
  change ((if (insertCheckpoint db.checkpoints row).1 then _ else _ : Operation SessionAnswer).run
    (exec (.insertCheckpoint row) db).2).2 = _
  split
  · change ((if _ then _ else _ : Operation SessionAnswer).run _).2 = _
    split
    · simp only [bind_eq]
      rw [run_select_bind, run_getCodeSession_bind]
      cases findSession _ row.codeSessionId <;> rfl
    · rfl
  · rfl

theorem takes_appendCheckpoint {db before : Database} {session : SessionRow} {row : CheckpointRow}
    (keeps : KeepsSessions before db)
    (found : findSession before.sessions row.codeSessionId = some session)
    (workspace : row.workspaceId = session.workspaceId)
    (vector : row.tipVector = buildTipVector localeLe (tipsOf before session.workspaceId))
    (digest : row.tipVectorDigest = vectorDigest sha256Text row.workspaceId row.tipVector)
    (id : ∃ digest : Digest, row.checkpointId = text "cp:" ++ digest.text)
    : KeepsSessions before ((appendCheckpoint localeLe row session session.sessionRevision).run db).2
      ∨ Takes localeLe sha256Text before
          ((appendCheckpoint localeLe row session session.sessionRevision).run db).2 session row := by
  rw [run_appendCheckpoint]
  cases free : db.checkpoints.find? (·.checkpointId == row.checkpointId) with
  | some old =>
    have kept : insertCheckpoint db.checkpoints row = (false, db.checkpoints) := by
      rw [insertCheckpoint, free]
    rw [kept]
    refine .inl ⟨keeps.sessions, ?_, keeps.tips⟩
    change (insertCheckpoint db.checkpoints row).2 = _
    rw [kept]
    exact keeps.checkpoints
  | none =>
    have added : insertCheckpoint db.checkpoints row = (true, db.checkpoints ++ [row]) := by
      rw [insertCheckpoint, free]
    rw [added]
    refine .inr ⟨found, workspace, vector, digest, id, keeps.checkpoints ▸ free, ?_, ?_,
      keeps.tips⟩
    · change (insertCheckpoint db.checkpoints row).2 = _
      rw [added, keeps.checkpoints]
    · change (swapSession db.sessions _ _ _).2 = _
      rw [keeps.sessions]

theorem readParts_tips {args : CheckpointArguments} {tips : List TipEntry × Text}
    {stubs : Value × Value} {parts : CheckpointParts}
    (read : readParts args tips stubs = .ok parts)
    : parts.tipVector = tips.1 ∧ parts.tipVectorDigest = tips.2 := by
  unfold readParts at read
  iterate 4 obtain ⟨_, -, read⟩ := bind_eq_ok.mp read
  cases read
  exact ⟨rfl, rfl⟩

theorem run_createCodeCheckpoint (toISOString : Nat → Text) (args : CheckpointArguments)
    (db : Database)
    : KeepsSessions db
          ((createCodeCheckpoint sha256Text localeLe toISOString args).run db).2
      ∨ ∃ session row, Takes localeLe sha256Text db
          ((createCodeCheckpoint sha256Text localeLe toISOString args).run db).2 session row := by
  have same : KeepsSessions db db := ⟨rfl, rfl, rfl⟩
  unfold createCodeCheckpoint
  split
  · exact .inl same
  case h_2 target read =>
    simp only [bind_eq]
    rw [run_getCodeSession_bind]
    cases found : findSession db.sessions target.sessionId with
    | none => exact .inl same
    | some session =>
      dsimp only
      split
      · exact .inl same
      case isFalse current =>
        have base := not_not.mp current
        unfold checkpointFrom
        simp only [bind_eq]
        rw [run_bind, run_refreshWorkspaceTipState]
        dsimp only
        split
        · exact .inl same
        · rw [run_bind]
          have keeps := keepsSessions_leaseStubsFor toISOString args target db
          rcases ran : (leaseStubsFor toISOString args target).run db with ⟨stubs | stubs, after⟩
            <;> rw [ran] at keeps
          · exact .inl keeps
          · dsimp only at keeps ⊢
            split
            · exact .inl keeps
            case h_2 _ parts normalized =>
              obtain ⟨vector, digest⟩ := readParts_tips normalized
              have own
                  : parts.tipVectorDigest
                    = vectorDigest sha256Text session.workspaceId parts.tipVector := by
                rw [digest, vector]
              rw [← base]
              have taken
                  : KeepsSessions db
                      ((appendCheckpoint localeLe
                        (checkpointRow sha256Text args target session parts) session
                        session.sessionRevision).run after).2
                    ∨ Takes localeLe sha256Text db _ session
                        (checkpointRow sha256Text args target session parts) :=
                takes_appendCheckpoint keeps found rfl vector own ⟨_, rfl⟩
              exact taken.imp_right (fun takes => ⟨session, _, takes⟩)

end Checkpoint

end CairnStone.CodeSession
