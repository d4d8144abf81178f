import CairnStone.Vault.Stones

/-! Ingestion of a GitHub repository: a stone for every file that changed, the stone of last time for
every file that did not, and a path head for each.
-/

namespace CairnStone.Vault

open JavaScript Data Concurrency

variable {env : Env}

structure PriorStone where
  path : Value
  stoneHash : Text
  sha : Value

structure PriorIndex where
  (previousHeadHash previousOrientation : Option Text)
  byPath : List PriorStone

/-- The metadata of a stored stone, `stone?.metadata || {}`. -/
def StoneRow.metadata (row : StoneRow) : Value :=
  (row.stoneJson.get (text "metadata")).or (.literal [])

def isIngested (metadata : Value) (repoFull : Text) (kind : String) : Bool :=
  (metadata.get (text "repo")).strictEquals (.string repoFull)
  && (metadata.get (text "repo_stones_operation")).isTrue
  && (metadata.get (text "kind")).strictEquals (.string (text kind))

/-- The entry that a stone of the chain makes in the index, if it makes one. -/
def priorStone (repoFull : Text) (row : StoneRow) : Option PriorStone :=
  let metadata := row.metadata
  let path := metadata.get (text "path")
  if isIngested metadata repoFull "repo_file" && path.truthy then
    some { path, stoneHash := row.hash, sha := (metadata.get (text "sha")).or .null }
  else none

/-- `SELECT … FROM stones WHERE chain_hash = ? ORDER BY created_at ASC` -/
def stonesOfChain (tables : Tables) (chain : Text) : List StoneRow :=
  (tables.stones.filter (·.chainHash == some chain)).insertionSort
    (fun a b => binaryLe a.createdAt b.createdAt)

def loadPriorRepoStoneIndex (chain repoFull : Text) : Operation env PriorIndex := do
  let previousHeadHash ← select (·.headAt (.chain chain))
  let rows ← select (stonesOfChain · chain)
  return {
    previousHeadHash
    previousOrientation :=
      ((rows.filter (fun row => isIngested row.metadata repoFull "repo_orientation")).getLast?).map
        (·.hash)
    byPath := rows.filterMap (priorStone repoFull) }

/-- `by_path.get(path)`, where the last entry of a path counts. -/
def PriorIndex.get (index : PriorIndex) (path : Value) : Option PriorStone :=
  index.byPath.reverse.find? (·.path.strictEquals path)

/-- What the file filter and the patterns of the review select. -/
structure Selection where
  includes : TreeFile → Bool
  observed : Text → Bool

structure CurrentStone where
  path : Value
  stoneHash : Text

structure Ingestion where
  (owner repo ref author chain : Text)
  (reuseUnchanged linkSupersedes autoLink : Bool)

def Ingestion.repoFull (ingestion : Ingestion) : Text :=
  ingestion.owner ++ text "/" ++ ingestion.repo

def StoneBody.blank : StoneBody :=
  .ofValue .undefined

def linkQuietly (fromHash toHash : Text) (edgeType : String) (note : Text) : Operation env Unit := do
  let _ ← linkStones (.string fromHash) (.string toHash) (.string (text edgeType)) (.string note)
  .done ()

def linkEach (fromHash : Text) (edgeType : String) : List (Text × Text) → Operation env Unit
  | [] => .done ()
  | (toHash, note) :: rest => do
    linkQuietly fromHash toHash edgeType note
    linkEach fromHash edgeType rest

def fileMetadata (ingestion : Ingestion) (file : TreeFile) (prior : Option PriorStone) : Value :=
  .literal
    [(text "kind", .string (text "repo_file")), (text "repo", .string ingestion.repoFull),
      (text "path", file.path), (text "sha", file.sha),
      (text "previous_sha", (prior.map (·.sha)).getD .null),
      (text "previous_stone_hash", .ofOption (prior.map (·.stoneHash))),
      (text "repo_stones_operation", .bool true)]

/-- Whether the stone of last time is kept for the file. -/
def keeps (ingestion : Ingestion) (file : TreeFile) (prior : PriorStone) : Bool :=
  ingestion.reuseUnchanged && prior.sha.truthy && prior.sha.strictEquals file.sha

/-- `value || fallback` as a text -/
def textOr (env : Env) (value : Value) (fallback : Text) : Text :=
  if value.truthy then env.string value else fallback

def fileBody (env : Env) (ingestion : Ingestion) (file : TreeFile) (prior : Option PriorStone)
    : StoneBody :=
  { StoneBody.blank with
    owner := .string ingestion.owner
    repo := .string ingestion.repo
    ref := .string ingestion.ref
    path := file.path
    author := .string ingestion.author
    chain := .string ingestion.chain
    title := .string (ingestion.repoFull ++ text " " ++ env.string file.path)
    metadata := fileMetadata ingestion file prior }

def supersede (ingestion : Ingestion) (file : TreeFile) (stoneHash : Text)
    : Option PriorStone → Operation env Unit
  | some prior =>
    whenever (prior.stoneHash != stoneHash && ingestion.linkSupersedes)
      (linkQuietly stoneHash prior.stoneHash "supersedes"
        (env.string file.path ++ text " supersedes previous SHA "
          ++ textOr env prior.sha (text "unknown")))
  | none => .done ()

def stoneFile (ingestion : Ingestion) (file : TreeFile) (prior : Option PriorStone)
    : Operation env (Option Text) := do
  let result ← createStoneFromGitHubBody (fileBody env ingestion file prior)
  match result with
  | .error _ => return none
  | .ok created => do
    supersede ingestion file created.stoneHash prior
    return some created.stoneHash

def stoneFiles (ingestion : Ingestion) (index : PriorIndex)
    : List TreeFile → Operation env (List CurrentStone × List CurrentStone)
  | [] => .done ([], [])
  | file :: rest =>
    match (index.get file.path).filter (keeps ingestion file) with
    | some prior => do
      let (created, reused) ← stoneFiles ingestion index rest
      .done (created, ⟨file.path, prior.stoneHash⟩ :: reused)
    | none => do
      let stone ← stoneFile ingestion file (index.get file.path)
      let (created, reused) ← stoneFiles ingestion index rest
      .done ((stone.map (⟨file.path, ·⟩)).toList ++ created, reused)

def upsertPathHeads (chain updatedAt : Text) : List CurrentStone → Operation env Unit
  | [] => .done ()
  | item :: rest => do
    upsertPathHead chain item.path item.stoneHash updatedAt
    upsertPathHeads chain updatedAt rest

/-- A stone about the repository: its orientation, architecture, lint report or review. -/
def reportStone (ingestion : Ingestion) (title kind : String)
    (metadata : Value → List (Text × Value)) (setAsHead : Bool)
    : Operation env Text := do
  let (content, counted) : Text × Value ← perform .report
  let created ← createStoneFromBody
    { StoneBody.blank with
      title := .string (ingestion.repoFull ++ text title)
      author := .string ingestion.author
      chain := .string ingestion.chain
      content := .string content
      metadata :=
        .literal
          ([(text "kind", .string (text kind)), (text "repo", .string ingestion.repoFull),
              (text "ref", .string ingestion.ref)]
            ++ metadata counted ++ [(text "repo_stones_operation", .bool true)])
      setAsHead := .bool setAsHead }
  return created.stoneHash

def notesTo (env : Env) (opening : String) (files : List CurrentStone) : List (Text × Text) :=
  files.map (fun item => (item.stoneHash, text opening ++ env.string item.path))

def supersedeOrientation (ingestion : Ingestion) (orientation : Text)
    : Option Text → Operation env Unit
  | some prior =>
    whenever (ingestion.linkSupersedes && prior != orientation)
      (linkQuietly orientation prior "supersedes"
        (text "Orientation for " ++ ingestion.repoFull ++ text "@" ++ ingestion.ref
          ++ text " supersedes previous"))
  | none => .done ()

def orientationStone (ingestion : Ingestion) (index : PriorIndex) (current : List CurrentStone)
    (setHead : Bool)
    : Operation env Text := do
  let orientation ←
    reportStone ingestion " repository orientation" "repo_orientation"
      (fun fingerprint =>
        [(text "previous_head_hash", .ofOption index.previousHeadHash),
          (text "previous_orientation_hash", .ofOption index.previousOrientation),
          (text "fingerprint", fingerprint)]) setHead
  supersedeOrientation ingestion orientation (index.previousOrientation.or index.previousHeadHash)
  whenever ingestion.autoLink
    (linkEach orientation "documents" (notesTo env "Orientation documents " current))
  return orientation

def furtherReport (ingestion : Ingestion) (title kind edgeType : String)
    (metadata : Value → List (Text × Value)) (orientation : Option Text) (note : Text)
    (files : List (Text × Text))
    : Operation env Text := do
  let report ← reportStone ingestion title kind metadata false
  linkEach report edgeType ((orientation.map (·, note)).toList ++ files)
  return report

def canonicalChain (owner repo : Text) (override : Value) : Text :=
  match override with
  | .string s => if trim s = [] then owner ++ text "/" ++ repo else trim s
  | _ => owner ++ text "/" ++ repo

def maxFiles (env : Env) (value : Value) : Nat :=
  if value.truthy then (clamp (env.toNumber value) 1 500).toNat else 200

variable (env) in
def openIngestion (body : Value) : Operation env Ingestion := do
  let flag (key : String) : Bool := !isFalse (body.get (text key))
  match safeGitHubPart (textOr env (body.get (text "owner")) []),
    safeGitHubPart (textOr env (body.get (text "repo")) []),
    safeGitHubRef (textOr env (body.get (text "ref")) DEFAULT_GITHUB_REF) with
  | some owner, some repo, some ref => do
    let author ← requiredString (body.get (text "author")) "author"
    return {
      owner, repo, ref, author, chain := canonicalChain owner repo (body.get (text "chain"))
      reuseUnchanged := flag "reuse_unchanged", linkSupersedes := flag "link_supersedes"
      autoLink := flag "auto_link" }
  | _, _, _ => .fail (text "Invalid GitHub owner")

/-- `condition ? report : null` -/
def optionally (condition : Bool) (report : Operation env Text) : Operation env (Option Text) :=
  if condition then do
    let hash ← report
    return some hash
  else
    return none

def createRepoStonesFromBody (selection : Selection) (body : Value) : Operation env Value := do
  let flag (key : String) : Bool := !isFalse (body.get (text key))
  let ingestion ← openIngestion env body
  let index ← loadPriorRepoStoneIndex ingestion.chain ingestion.repoFull
  let tree : Except Text (List TreeFile) ←
    perform (.fetchTree ingestion.owner ingestion.repo ingestion.ref)
  match tree with
  | .error error => return refusal error
  | .ok files => do
    let candidates :=
      (files.filter selection.includes).take (maxFiles env (body.get (text "max_files")))
    let (created, reused) ← stoneFiles ingestion index candidates
    let current := created ++ reused
    let pathHeadUpdatedAt ← clock
    upsertPathHeads ingestion.chain pathHeadUpdatedAt current
    let orientation ←
      optionally (flag "create_orientation")
        (orientationStone ingestion index current (flag "set_head"))
    let repoFull := ingestion.repoFull
    let architecture ←
      optionally (flag "create_architecture" && orientation.isSome)
        (furtherReport ingestion " architecture" "repo_architecture" "documents"
          (fun _ => [(text "orientation_hash", .ofOption orientation)]) orientation
          (text "Architecture documents repository orientation for " ++ repoFull)
          (if ingestion.autoLink then notesTo env "Architecture documents " (current.take 50)
            else []))
    let lint ←
      optionally (flag "create_lint" && !current.isEmpty)
        (furtherReport ingestion " lint report" "repo_lint" "reviews"
          (fun issues => [(text "issue_count", issues)]) orientation
          (text "Lint report reviews " ++ repoFull ++ text " orientation") [])
    let review ←
      optionally (flag "create_review" && !current.isEmpty)
        (furtherReport ingestion " code review" "repo_review" "reviews"
          (fun observations => [(text "observation_count", observations)]) orientation
          (text "Review reviews " ++ repoFull ++ text " orientation")
          (notesTo env "Review reviews "
            (((created.take 30).filter (fun item => selection.observed item.stoneHash)).take 20)))
    return .literal
      [(text "ok", .bool true), (text "owner", .string ingestion.owner),
        (text "repo", .string ingestion.repo), (text "ref", .string ingestion.ref),
        (text "chain", .string ingestion.chain),
        (text "previous_head_hash", .ofOption index.previousHeadHash),
        (text "created_count", count created.length), (text "reused_count", count reused.length),
        (text "orientation_hash", .ofOption orientation),
        (text "architecture_hash", .ofOption architecture),
        (text "lint_hash", .ofOption lint), (text "review_hash", .ofOption review),
        (text "head_hash", .ofOption orientation)]

end CairnStone.Vault
