import CairnStone.Workspace.DraftObligations

/-! Every draft operation keeps its promises. A successful one has moved its paths from the base
revision it was given; a failed one has moved none, unless it is a rename whose destination was
taken.
-/

namespace CairnStone.Workspace

open JavaScript Data Concurrency World

variable {Call : Type} {sha256Text : Text → Text} {t : Nat} {call : Call}
  {moves : List Move} {h : History draftPlane}
  {given : Value} {now : Int}

theorem ids_of_workspaceAndActor {error : String} {workspace actor : Value} {wsId actorId : Text}
    (valid : workspaceAndActor error workspace actor = .ok (wsId, actorId))
    : workspaceId workspace = .ok wsId := by
  unfold workspaceAndActor at valid
  split at valid
  · cases valid
  · cases valid
  · rename_i found _
    obtain ⟨rfl, rfl⟩ := Prod.mk.inj (Except.ok.inj valid)
    exact found

theorem named_of_nonEmptyString {s : Text} (found : nonEmptyString? given = some s)
    : trim s ≠ [] := by
  unfold nonEmptyString? at found
  split at found
  · split at found
    · cases found
    · rename_i named
      cases found
      exact named
  · cases found

theorem named_of_normalizeBaseRevision {base : Text}
    (valid : normalizeBaseRevision given = .ok (some base))
    : base ≠ [] := by
  unfold normalizeBaseRevision at valid
  split at valid
  · cases valid
  · cases valid
  · cases valid
  · split at valid
    · cases valid
    · rename_i s found
      cases valid
      exact named_of_nonEmptyString found

theorem named_of_writeBaseRevision {base : Text}
    (valid : writeBaseRevision given = .ok (some base))
    : base ≠ [] := by
  unfold writeBaseRevision at valid
  split at valid
  · cases valid
  · cases valid
  · split at valid
    · cases valid
    · rename_i s found
      cases valid
      exact named_of_nonEmptyString found

/-- A postcondition of an operation: what its success says, and that its failure moved nothing.
-/
def Swaps (t : Nat) (moves : List Move) (R : Recorded → List Move → Prop)
    : Except Failure Recorded → History draftPlane → Prop
  | .ok recorded, h => ∃ own, R recorded own ∧ Moved t (own ++ moves) h
  | .error _, h => Moved t moves h

def WriteMoves (args : WriteDraftArgs) (recorded : Recorded) (moves : List Move) : Prop :=
  ∃ base, workspaceId args.workspaceId = .ok recorded.workspaceId
    ∧ canonicalizeWorkspacePath args.path = .ok recorded.path
    ∧ writeBaseRevision args.baseRevision = .ok base
    ∧ moves = [⟨(recorded.workspaceId, recorded.path), base, some recorded.revisionId⟩]

theorem owes_writeDraft {args : WriteDraftArgs} (moved : Moved t moves h)
    (fresh : moves = [] ∨ writeBaseRevision args.baseRevision = .ok none)
    : Obliged Call sha256Text t call (writeDraft sha256Text args now)
        (Swaps t moves (WriteMoves args)) h := by
  have denied (reason : Refused) (h' : History draftPlane) (later : Later t h h')
      : Swaps t moves (WriteMoves args) (.error (.refused reason)) h' := moved.later later
  refine owes_refuse_bind (fun ids validIds => ?_) denied
  obtain ⟨wsId, actor⟩ := ids
  refine owes_refuse_bind (fun path validPath => ?_) denied
  refine owes_refuse_bind (fun content _ => ?_) denied
  obtain ⟨content, contentBytes⟩ := content
  refine owes_refuse_bind (fun base validBase => ?_) denied
  refine owes_getWorkspaceTip_bind (fun h1 later1 => ?_)
  have moved1 := moved.later later1
  refine owes_checkBase_bind (fun parentIsBase => ?_)
    (fun current h' later => moved1.later later)
  refine owes_putWorkspaceBlob_bind moved1 (fun h2 _ moved2 => ?_) (fun h' moved' => moved')
  refine owes_insertRevisionRow_bind moved2 (fun _ _ => ⟨rfl, .inl (fun _ => rfl)⟩)
    (fun h3 _ saves => ?_) (fun _ h' moved' => moved')
  have wsIdValid := ids_of_workspaceAndActor validIds
  cases base with
  | none =>
    refine owes_createTip_bind saves ⟨rfl, rfl, rfl, rfl, rfl, rfl, rfl⟩ ⟨rfl, ?_⟩ ?_ ?_
    · exact parentIsBase
    · intro h4 moved4
      refine owes_touchWorkspace_bind moved4 (fun h5 moved5 => ?_)
      refine owes_done (fun h6 later6 => ?_)
      exact ⟨_, ⟨none, wsIdValid, validPath, validBase, rfl⟩, moved5.later later6⟩
    · exact fun current h' moved' => moved'
  | some base =>
    have none : moves = [] := fresh.resolve_right (by simp [validBase])
    subst none
    refine owes_perform_bind (fun h4 later4 => ?_)
    have here := saves.later later4
    have promise
        : Promise sha256Text t h4 (.overwriteTip (wsId, path) base _ _ now) :=
      ⟨here.known, here.moves, _, here.records,
        ⟨rfl, rfl, parentIsBase, named_of_writeBaseRevision validBase⟩, rfl, rfl, rfl, rfl, rfl⟩
    refine ⟨promise, ?_⟩
    refine owes_requireChange_bind here.toMoved (lawful_exec sha256Text later4.lawful promise)
      (overwriteTip_spec later4.lawful.tips _ _ _ _ _) (fun moved5 => ?_)
      (fun current h' moved' => moved')
    refine owes_touchWorkspace_bind moved5 (fun h6 moved6 => ?_)
    refine owes_done (fun h7 later7 => ?_)
    exact ⟨_, ⟨some base, wsIdValid, validPath, validBase, rfl⟩, moved6.later later7⟩

def DeleteMoves (args : DeleteDraftArgs) (recorded : Recorded) (moves : List Move) : Prop :=
  ∃ base, workspaceId args.workspaceId = .ok recorded.workspaceId
    ∧ canonicalizeWorkspacePath args.path = .ok recorded.path
    ∧ normalizeBaseRevision args.baseRevision = .ok (some base)
    ∧ moves = [⟨(recorded.workspaceId, recorded.path), some base, none⟩]

theorem owes_deleteDraft {args : DeleteDraftArgs} (moved : Moved t moves h)
    : Obliged Call sha256Text t call (deleteDraft sha256Text args now)
        (Swaps t moves (DeleteMoves args)) h := by
  have denied (failure : Failure) (h' : History draftPlane) (later : Later t h h')
      : Swaps t moves (DeleteMoves args) (.error failure) h' := moved.later later
  refine owes_refuse_bind (fun ids validIds => ?_) (fun _ => denied _)
  obtain ⟨wsId, actor⟩ := ids
  refine owes_refuse_bind (fun path validPath => ?_) (fun _ => denied _)
  refine owes_refuse_bind (fun base validBase => ?_) (fun _ => denied _)
  cases base with
  | none => exact owes_fail (denied _)
  | some base =>
    refine owes_getWorkspaceTip_bind (fun h1 later1 => ?_)
    have moved1 := moved.later later1
    cases tipAt h1.state (wsId, path) with
    | none => exact owes_fail (fun h' later => moved1.later later)
    | some tip =>
      simp only
      split
      · exact owes_fail (fun h' later => moved1.later later)
      · refine owes_insertRevisionRow_bind moved1
          (fun _ _ => ⟨rfl, .inl (fun _ => rfl)⟩) (fun h2 _ saves => ?_)
          (fun _ h' moved' => moved')
        refine owes_perform_bind (fun h3 later3 => ⟨trivial, ?_⟩)
        have here := saves.toMoved.later later3
        refine owes_requireChange_bind here
          (lawful_exec sha256Text later3.lawful trivial)
          (deleteTipCas_spec later3.lawful.tips _ _) (fun moved4 => ?_)
          (fun current h' moved' => moved')
        refine owes_touchWorkspace_bind moved4 (fun h5 moved5 => ?_)
        refine owes_insertTreeOp_bind moved5 (fun h6 moved6 => ?_)
        refine owes_done (fun h7 later7 => ?_)
        exact ⟨_, ⟨base, ids_of_workspaceAndActor validIds, validPath, validBase, rfl⟩,
          moved6.later later7⟩

def ContentRefMoves (args : ContentRefArgs) (recorded : Recorded) (moves : List Move) : Prop :=
  ∃ base, workspaceId args.workspaceId = .ok recorded.workspaceId
    ∧ canonicalizeWorkspacePath args.path = .ok recorded.path
    ∧ normalizeBaseRevision args.baseRevision = .ok base
    ∧ moves = [⟨(recorded.workspaceId, recorded.path), base, some recorded.revisionId⟩]

theorem owes_writeDraftFromContentRef {args : ContentRefArgs} (moved : Moved t moves h)
    (fresh : moves = [] ∨ normalizeBaseRevision args.baseRevision = .ok none)
    : Obliged Call sha256Text t call (writeDraftFromContentRef sha256Text args now)
        (Swaps t moves (ContentRefMoves args)) h := by
  have denied (reason : Refused) (h' : History draftPlane) (later : Later t h h')
      : Swaps t moves (ContentRefMoves args) (.error (.refused reason)) h' := moved.later later
  refine owes_refuse_bind (fun ids validIds => ?_) denied
  obtain ⟨wsId, actor⟩ := ids
  refine owes_refuse_bind (fun path validPath => ?_) denied
  refine owes_refuse_bind (fun contentRef _ => ?_) denied
  refine owes_refuse_bind (fun contentHash _ => ?_) denied
  refine owes_refuse_bind (fun contentBytes _ => ?_) denied
  refine owes_refuse_bind (fun gitBlobSha _ => ?_) denied
  refine owes_refuse_bind (fun base validBase => ?_) denied
  refine owes_getWorkspaceTip_bind (fun h1 later1 => ?_)
  have moved1 := moved.later later1
  refine owes_checkBase_bind (fun parentIsBase => ?_)
    (fun current h' later => moved1.later later)
  refine owes_insertRevisionRow_bind moved1
    (fun _ _ => ⟨rfl, .inl (fun isText => nomatch isText)⟩) (fun h2 _ saves => ?_)
    (fun _ h' moved' => moved')
  cases base with
  | none =>
    refine owes_createTip_bind saves (by constructor <;> rfl) ⟨rfl, ?_⟩ ?_ ?_
    · exact parentIsBase
    · intro h3 moved3
      refine owes_touchWorkspace_bind moved3 (fun h4 moved4 => ?_)
      refine owes_insertTreeOp_bind moved4 (fun h5 moved5 => ?_)
      refine owes_done (fun h6 later6 => ?_)
      exact ⟨_, ⟨none, ids_of_workspaceAndActor validIds, validPath, validBase, rfl⟩,
        moved5.later later6⟩
    · exact fun current h' moved' => moved'
  | some base =>
    have none : moves = [] := fresh.resolve_right (by simp [validBase])
    subst none
    refine owes_perform_bind (fun h3 later3 => ?_)
    have here := saves.later later3
    have promise
        : Promise sha256Text t h3
            (.updateTipCas base
              { workspaceId := wsId, path, revisionId := _, contentHash, updatedAt := now
                contentEncoding := .contentRef, contentRef := some contentRef, gitBlobSha }) :=
      ⟨here.known, here.moves, _, here.records,
        ⟨rfl, rfl, parentIsBase, named_of_normalizeBaseRevision validBase⟩,
        rfl, rfl, rfl, rfl, rfl, rfl, rfl⟩
    refine ⟨promise, ?_⟩
    refine owes_requireChange_bind here.toMoved (lawful_exec sha256Text later3.lawful promise)
      (updateTipCas_spec later3.lawful.tips _ _) (fun moved4 => ?_)
      (fun current h' moved' => moved')
    refine owes_touchWorkspace_bind moved4 (fun h5 moved5 => ?_)
    refine owes_insertTreeOp_bind moved5 (fun h6 moved6 => ?_)
    refine owes_done (fun h7 later7 => ?_)
    exact ⟨_, ⟨some base, ids_of_workspaceAndActor validIds, validPath, validBase, rfl⟩,
      moved6.later later7⟩

/-- What a successful rename has moved: first its source to nothing, then its destination from
nothing to the answered revision.
-/
def RenameMoves (args : RenameDraftArgs) (recorded : Recorded) (moves : List Move) : Prop :=
  ∃ fromPath base, workspaceId args.workspaceId = .ok recorded.workspaceId
    ∧ canonicalizeWorkspacePath args.fromPath = .ok fromPath
    ∧ canonicalizeWorkspacePath args.toPath = .ok recorded.path
    ∧ normalizeBaseRevision args.baseRevision = .ok (some base)
    ∧ moves
      = [⟨(recorded.workspaceId, recorded.path), none, some recorded.revisionId⟩,
        ⟨(recorded.workspaceId, fromPath), some base, none⟩]

/-- A rename that failed moved nothing, unless its destination had a tip when it was inserted. -/
def RenameSwaps (t : Nat) (args : RenameDraftArgs)
    : Except Failure Recorded → History draftPlane → Prop
  | .ok recorded, h => ∃ own, RenameMoves args recorded own ∧ Moved t own h
  | .error _, h => Moved t [] h ∨ Collided t h

theorem owes_renameDraft {args : RenameDraftArgs} (moved : Moved t [] h)
    : Obliged Call sha256Text t call (renameDraft sha256Text args now)
        (RenameSwaps t args) h := by
  have denied (failure : Failure) (h' : History draftPlane) (later : Later t h h')
      : RenameSwaps t args (.error failure) h' := .inl (moved.later later)
  refine owes_refuse_bind (fun ids validIds => ?_) (fun _ => denied _)
  obtain ⟨wsId, actor⟩ := ids
  refine owes_refuse_bind (fun fromPath validFrom => ?_) (fun _ => denied _)
  refine owes_refuse_bind (fun toPath validTo => ?_) (fun _ => denied _)
  split
  · exact owes_fail (denied _)
  refine owes_refuse_bind (fun base validBase => ?_) (fun _ => denied _)
  cases base with
  | none => exact owes_fail (denied _)
  | some base =>
    refine owes_getWorkspaceTip_bind (fun h1 later1 => ?_)
    have moved1 := moved.later later1
    cases found : tipAt h1.state (wsId, fromPath) with
    | none => exact owes_fail (fun h' later => .inl (moved1.later later))
    | some source =>
      simp only
      split
      · exact owes_fail (fun h' later => .inl (moved1.later later))
      refine owes_getWorkspaceTip_bind (fun h2 later2 => ?_)
      have moved2 := moved1.later later2
      cases tipAt h2.state (wsId, toPath) with
      | some dest => exact owes_fail (fun h' later => .inl (moved2.later later))
      | none =>
        obtain ⟨mem, atKey⟩ := (tipAt_eq_some later1.lawful.tips).mp found
        have ever : EverTip h2 source := later2.tips _ (.inl mem)
        have workspace : HasWorkspace h2.state wsId := by
          have same : source.workspaceId = wsId := (Prod.mk.inj atKey).1
          exact later2.grows.workspaces _ (same ▸ later1.lawful.workspaces _ mem)
        refine owes_insertRevisionRow_bind moved2
          (fun h' later => ⟨rfl, .inr ⟨source, later.tips _ ever, rfl, rfl⟩⟩)
          (fun h3 onward3 saves => ?_) (fun _ h' moved' => .inl moved')
        refine owes_perform_bind (fun h4 later4 => ⟨trivial, ?_⟩)
        have here := saves.later later4
        have grows5 := grows_exec (.deleteTipCas (wsId, fromPath) base) h4.state
        refine owes_requireChange_bind here.toMoved
          (lawful_exec sha256Text later4.lawful trivial)
          (deleteTipCas_spec later4.lawful.tips _ _) (fun moved5 => ?_)
          (fun current h' moved' => .inl moved')
        have records := here.records
        refine owes_insertDestination_bind
          { toMoved := moved5
            records := by rw [History.own_exec_self]; exact records.cons _
            known := grows5.revisions _ here.known }
          (by constructor <;> rfl) rfl rfl (named_of_normalizeBaseRevision validBase)
          (grows5.workspaces _ (later4.grows.workspaces _ (onward3.grows.workspaces _ workspace)))
          (fun h6 moved6 => ?_) (fun current h' collided => .inr collided)
        refine owes_touchWorkspace_bind moved6 (fun h7 moved7 => ?_)
        refine owes_insertTreeOp_bind moved7 (fun h8 moved8 => ?_)
        refine owes_done (fun h9 later9 => ?_)
        exact ⟨_, ⟨fromPath, base, ids_of_workspaceAndActor validIds, validFrom, validTo,
          validBase, rfl⟩, moved8.later later9⟩

end CairnStone.Workspace
