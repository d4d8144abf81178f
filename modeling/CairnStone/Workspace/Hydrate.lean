import CairnStone.Workspace.DraftMethods

/-! Hydration: the blobs of a Git commit become tips of a workspace, inline where a file is small
and by reference otherwise. Paths that have a tip are skipped.
-/

namespace CairnStone.Workspace

open JavaScript Data Concurrency Protocol Meets

variable {clock : Nat → Int}

/-- An entry of a Git tree; `size` is `Number(entry.size ?? entry.bytes ?? 0)`. -/
structure TreeEntry where
  (kind path : Text)
  size : Number
  sha : Option Text

inductive Fetched where
  | failed
  | file (content : Option Text)

/-- The two readers of a repository that hydration is given, both of one commit. -/
structure GitHub where
  fetchGitHubRepoTree
    : Option ((owner repo commitSha : Text) → (rootPath : Option Text)
        → Except Refused (List TreeEntry))
  fetchGitHubFile : Option ((owner repo commitSha path : Text) → Fetched)

def WORKSPACE_HYDRATE_MAX_FILES : Nat := 200

def WORKSPACE_HYDRATE_INLINE_MAX_BYTES : Nat := 262144

def clampInt (value : Number) (min max fallback : Nat) : Nat :=
  match value.toInt? with
  | some n => Nat.max min (Nat.min max n.toNat)
  | none => fallback

def normalizeSize (size : Number) : Number :=
  match size with
  | .finite x => if 0 ≤ x.value then size else .zero
  | _ => .zero

def normalizeHydrateTreeEntries (entries : List TreeEntry) : List TreeEntry :=
  entries.filterMap (fun entry =>
    let kind := lower entry.kind
    let path := entry.path.dropWhile (· == 0x2F)
    if kind ≠ [] ∧ kind ≠ text "blob" ∧ kind ≠ text "file" then none
    else if path = [] then none
    else
      some
        { kind, path, size := normalizeSize entry.size
          sha := (entry.sha.filter (isHex 40)).map lower })

def mapGitPathToWorkspacePath (gitPath : Text) (rootPath pathPrefix : Option Text)
    : Option Text :=
  let relative : Option Text :=
    match rootPath with
    | none => some gitPath
    | some root =>
      if (root ++ [0x2F]).isPrefixOf gitPath then some (gitPath.drop (root.length + 1)) else none
  match relative with
  | none => none
  | some [] => none
  | some relative =>
    match canonicalizeWorkspacePath
        (.string (match pathPrefix with
          | none => relative
          | some front => front ++ [0x2F] ++ relative)) with
    | .ok path => some path
    | .error _ => none

structure Selected where
  entry : TreeEntry
  workspacePath : Text

def selectEntries (maxFiles : Nat) (rootPath pathPrefix : Option Text)
    (entries : List TreeEntry)
    : List Selected :=
  (entries.filterMap (fun entry =>
    (mapGitPathToWorkspacePath entry.path rootPath pathPrefix).map
      (fun workspacePath => { entry, workspacePath }))).take maxFiles

/-- `GITHUB_NAME_RE` -/
def isGitHubName (s : Text) : Bool :=
  s ≠ [] && s.all isIdUnit

def buildGitContentRef (owner repo commitSha path : Text) : Text :=
  text "git:" ++ owner ++ text "/" ++ repo ++ text "@" ++ commitSha ++ text ":" ++ path

/-- What became of one entry. An inline write that fails is followed by one by reference. -/
inductive Outcome where
  | written (recorded : Recorded)
  | contentRef (recorded : Recorded)
  | tipExists (revisionId : Text)
  | tipRace
  | fetchFailed
  | failed (failure : Failure)

/-- The arguments; `owner`, `repo` and `commitSha` are `String(x || "")`, the bounds are
`Number(x)`.
-/
structure HydrateArgs where
  (workspaceId actorId : Value)
  (owner repo commitSha : Text)
  rootPath : Value
  (maxFiles inlineMaxBytes : Number)
  pathPrefix : Value

structure Hydration where
  (wsId actor owner repo commitSha : Text)
  inlineMax : Nat
  fetchGitHubFile : Option ((owner repo commitSha path : Text) → Fetched)

/-- `size > 0 && size <= inlineMax` -/
def isInlineSize (size : Number) (inlineMax : Nat) : Bool :=
  match size with
  | .finite x => 0 < x.value && x.value ≤ inlineMax
  | _ => false

variable (sha256Text : Text → Text)

def hydrateInline (hydration : Hydration) (selected : Selected) (now : Int)
    : Draft (Bool × List Outcome) :=
  let entry := selected.entry
  match hydration.fetchGitHubFile with
  | none => .done (false, [])
  | some fetch =>
    if !isInlineSize entry.size hydration.inlineMax then .done (false, [])
    else
      match fetch hydration.owner hydration.repo hydration.commitSha entry.path with
      | .failed => .done (false, [.fetchFailed])
      | .file none => .done (false, [])
      | .file (some content) =>
        if hydration.inlineMax < utf8ByteLength content then .done (false, [])
        else do
          let wrote ←
            (writeDraft sha256Text
              { workspaceId := .string hydration.wsId, path := .string selected.workspacePath
                content := .string content, baseRevision := .null
                actorId := .string hydration.actor } now).attempt
          match wrote with
          | .ok recorded => .done (true, [.written recorded])
          | .error (.conflict _) => .done (true, [.tipRace])
          | .error failure => .done (false, [.failed failure])

def hydrateByReference (hydration : Hydration) (selected : Selected) (now : Int)
    : Draft Outcome := do
  let entry := selected.entry
  let contentRef :=
    buildGitContentRef hydration.owner hydration.repo hydration.commitSha entry.path
  let contentSha :=
    match entry.sha with
    | some sha => sha256Text (text "git-blob:" ++ sha)
    | none => sha256Text contentRef
  let wrote ←
    (writeDraftFromContentRef sha256Text
      { workspaceId := .string hydration.wsId, path := .string selected.workspacePath
        contentRef := .string contentRef, contentBytes := entry.size
        contentSha256 := .string contentSha
        gitBlobSha := (entry.sha.map Value.string).getD .null, baseRevision := .null
        actorId := .string hydration.actor } now).attempt
  match wrote with
  | .ok recorded => .done (.contentRef recorded)
  | .error (.conflict _) => .done .tipRace
  | .error (.sqlError error) => .fail (.sqlError error)
  | .error .bucketRejected => .fail .bucketRejected
  | .error failure => .done (.failed failure)

def hydrateEntry (hydration : Hydration) (selected : Selected) (clock : Nat → Int)
    : Draft (List Outcome) := do
  let existing ← getWorkspaceTip (hydration.wsId, selected.workspacePath)
  match existing with
  | some tip => .done [.tipExists tip.revisionId]
  | none => do
    let (settled, outcomes) ← hydrateInline sha256Text hydration selected (clock 0)
    if settled then .done outcomes
    else do
      let outcome ← hydrateByReference sha256Text hydration selected (clock 1)
      .done (outcomes ++ [outcome])

def hydrateEntries (hydration : Hydration) (clock : Nat → Int)
    : List Selected → Draft (List (Text × Outcome))
  | [] => .done []
  | selected :: rest => do
    let outcomes ← hydrateEntry sha256Text hydration selected clock
    let later ← hydrateEntries hydration (fun n => clock (n + 2)) rest
    .done (outcomes.map (fun outcome => (selected.workspacePath, outcome)) ++ later)

def optionalPath (error : String) (path : Value) : Except Refused (Option Text) :=
  match path with
  | .undefined => .ok none
  | .null => .ok none
  | .string [] => .ok none
  | given =>
    match canonicalizeWorkspacePath given with
    | .ok path => .ok (some path)
    | .error _ => .error (.invalid error)

structure HydrateReport where
  (wsId commitSha : Text)
  outcomes : List (Text × Outcome)

def hydrateWorkspaceFromGit (github : GitHub) (args : HydrateArgs) (clock : Nat → Int)
    : Draft HydrateReport := do
  let (wsId, actor) ←
    refuse (workspaceAndActor "invalid_workspace_hydrate" args.workspaceId args.actorId)
  let owner := trim args.owner
  let repo := trim args.repo
  if !isGitHubName owner || !isGitHubName repo then
    .fail (.refused (.invalid "invalid_github_owner_repo"))
  else
    let commitSha := lower (trim args.commitSha)
    if !isHex 40 commitSha then
      .fail (.refused (.request "immutable_commit_sha_required" "commit_sha_must_be_40_hex"))
    else
      match github.fetchGitHubRepoTree with
      | none => .fail (.refused (.invalid "fetchGitHubRepoTree_required"))
      | some fetchTree => do
        let rootPath ← refuse (optionalPath "invalid_hydrate_root_path" args.rootPath)
        let pathPrefix ← refuse (optionalPath "invalid_hydrate_path_prefix" args.pathPrefix)
        let maxFiles :=
          clampInt args.maxFiles 1 WORKSPACE_HYDRATE_MAX_FILES WORKSPACE_HYDRATE_MAX_FILES
        let inlineMax :=
          clampInt args.inlineMaxBytes 0 WORKSPACE_HYDRATE_INLINE_MAX_BYTES
            WORKSPACE_HYDRATE_INLINE_MAX_BYTES
        let entries ← refuse (fetchTree owner repo commitSha rootPath)
        let selected :=
          selectEntries maxFiles rootPath pathPrefix (normalizeHydrateTreeEntries entries)
        let hydration : Hydration :=
          { wsId, actor, owner, repo, commitSha, inlineMax
            fetchGitHubFile := github.fetchGitHubFile }
        let outcomes ← hydrateEntries sha256Text hydration (fun n => clock (n + 1)) selected
        insertTreeOp
          { workspaceId := wsId, op := "hydrate", actorId := actor, fromPath := rootPath
            toPath := pathPrefix, baseRevisionId := none, resultRevisionId := none
            createdAt := clock 0 }
        .done { wsId, commitSha, outcomes }

/-- Any operation that writes tips: one of the four draft operations, or a hydration. -/
inductive TreeCall where
  | draft (call : Call)
  | hydrate (github : GitHub) (args : HydrateArgs) (clock : Nat → Int)

def TreeCall.body : TreeCall → Draft (Recorded ⊕ HydrateReport)
  | .draft call => do
    let recorded ← call.body sha256Text
    .done (.inl recorded)
  | .hydrate github args clock => do
    let report ← hydrateWorkspaceFromGit sha256Text github args clock
    .done (.inr report)

variable {sha256Text} {Call : Type} {t : Nat} {call : Call} {h : History draftPlane}

def Standing (t : Nat) (h : History draftPlane) : Prop :=
  ∃ moves, Moved t moves h

theorem Standing.later {h' : History draftPlane} (standing : Standing t h) (later : Later t h h')
    : Standing t h' := by
  obtain ⟨moves, moved⟩ := standing
  exact ⟨moves, moved.later later⟩

theorem Swaps.standing {moves : List Move} {R : Recorded → List Move → Prop}
    {answer : Except Failure Recorded} (swaps : Swaps t moves R answer h)
    : Standing t h := by
  cases answer with
  | ok saved =>
    obtain ⟨own, _, moved⟩ := swaps
    exact ⟨_, moved⟩
  | error failure => exact ⟨_, swaps⟩

/-- A hydration keeps the promises of the draft operations whatever it answers. -/
abbrev StandingAnswer {α : Type} (t : Nat) : Except Failure α → History draftPlane → Prop :=
  fun _ h => Standing t h

variable {hydration : Hydration} {selected : Selected}

theorem owes_hydrateInline {now : Int} (standing : Standing t h)
    : Obliged Call sha256Text t call (hydrateInline sha256Text hydration selected now)
        (StandingAnswer t) h := by
  have stays (value : Bool × List Outcome)
      : Obliged Call sha256Text t call (.done value) (StandingAnswer t) h :=
    owes_done (fun h' later => standing.later later)
  unfold hydrateInline
  cases hydration.fetchGitHubFile with
  | none => exact stays _
  | some fetch =>
    simp only
    split
    · exact stays _
    split
    · exact stays _
    · exact stays _
    split
    · exact stays _
    obtain ⟨moves, moved⟩ := standing
    refine attempt_bind
      ((owes_writeDraft moved (.inr rfl)).consequence (fun answer h' _ swaps => ?_))
    have standing' := swaps.standing
    split <;> exact owes_done (fun h'' later => standing'.later later)

theorem owes_hydrateByReference {now : Int} (standing : Standing t h)
    : Obliged Call sha256Text t call (hydrateByReference sha256Text hydration selected now)
        (StandingAnswer t) h := by
  obtain ⟨moves, moved⟩ := standing
  refine attempt_bind
    ((owes_writeDraftFromContentRef moved (.inr rfl)).consequence
      (fun answer h' _ swaps => ?_))
  have standing' := swaps.standing
  split
  · exact owes_done (fun h'' later => standing'.later later)
  · exact owes_done (fun h'' later => standing'.later later)
  · exact owes_fail (fun h'' later => standing'.later later)
  · exact owes_fail (fun h'' later => standing'.later later)
  · exact owes_done (fun h'' later => standing'.later later)

theorem owes_hydrateEntry (standing : Standing t h)
    : Obliged Call sha256Text t call (hydrateEntry sha256Text hydration selected clock)
        (StandingAnswer t) h := by
  refine owes_getWorkspaceTip_bind (fun h1 later1 => ?_)
  have standing1 := standing.later later1
  cases World.tipAt h1.state (hydration.wsId, selected.workspacePath) with
  | some tip => exact owes_done (fun h' later => standing1.later later)
  | none =>
    refine seq (owes_hydrateInline standing1) (fun inline h2 _ standing2 => ?_)
      (fun _ _ _ stands => stands)
    obtain ⟨settled, outcomes⟩ := inline
    cases settled with
    | true => exact owes_done (fun h' later => standing2.later later)
    | false =>
      refine seq (owes_hydrateByReference standing2)
        (fun res h3 _ standing3 => ?_) (fun _ _ _ stands => stands)
      exact owes_done (fun h' later => Standing.later standing3 later)

/-- Witness: induction on the selected entries. -/
theorem owes_hydrateEntries {entries : List Selected} (standing : Standing t h)
    : Obliged Call sha256Text t call (hydrateEntries sha256Text hydration clock entries)
        (StandingAnswer t) h := by
  induction entries generalizing clock h with
  | nil => exact owes_done (fun h' later => standing.later later)
  | cons selected rest ih =>
    refine seq (owes_hydrateEntry standing) (fun outcomes h1 _ standing1 => ?_)
      (fun _ _ _ stands => stands)
    refine seq (ih standing1) (fun later h2 _ standing2 => ?_)
      (fun _ _ _ stands => stands)
    exact owes_done (fun h' later => Standing.later standing2 later)

theorem owes_hydrateWorkspaceFromGit {github : GitHub} {args : HydrateArgs}
    (standing : Standing t h)
    : Obliged Call sha256Text t call (hydrateWorkspaceFromGit sha256Text github args clock)
        (StandingAnswer t) h := by
  have denied (reason : Refused) (h' : History draftPlane) (later : Later t h h')
      : Standing t h' := standing.later later
  refine owes_refuse_bind (fun ids _ => ?_) denied
  obtain ⟨wsId, actor⟩ := ids
  simp only
  split
  · exact owes_fail (denied (.invalid ""))
  split
  · exact owes_fail (denied (.invalid ""))
  cases github.fetchGitHubRepoTree with
  | none => exact owes_fail (denied (.invalid ""))
  | some fetchTree =>
    refine owes_refuse_bind (fun rootPath _ => ?_) denied
    refine owes_refuse_bind (fun pathPrefix _ => ?_) denied
    refine owes_refuse_bind (fun entries _ => ?_) denied
    refine seq (owes_hydrateEntries standing)
      (fun outcomes h1 _ standing1 => ?_) (fun _ _ _ stands => stands)
    obtain ⟨moves, moved⟩ : Standing t h1 := standing1
    refine owes_insertTreeOp_bind moved (fun h2 moved2 => ?_)
    exact owes_done (fun h' later => ⟨moves, moved2.later later⟩)

end CairnStone.Workspace
