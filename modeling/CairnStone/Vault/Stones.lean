import CairnStone.Vault.Tables
import CairnStone.Workspace.Paths

/-! How stones come to be and how heads are moved: creating a stone from a text or a GitHub file,
linking stones, setting a head, and the commit that does all of it in one call.
-/

namespace CairnStone.Vault

open JavaScript Data Concurrency
open Workspace (isHex lower)

variable {env : Env}

structure StoneBody where
  (title author content path filePath repo repository owner org commit parent chain : Value)
  (setAsHead related metadata github ref branch sha maxBytes : Value)

def StoneBody.ofValue (body : Value) : StoneBody where
  title := body.get (text "title")
  author := body.get (text "author")
  content := body.get (text "content")
  path := body.get (text "path")
  filePath := body.get (text "file_path")
  repo := body.get (text "repo")
  repository := body.get (text "repository")
  owner := body.get (text "owner")
  org := body.get (text "org")
  commit := body.get (text "commit")
  parent := body.get (text "parent")
  chain := body.get (text "chain")
  setAsHead := body.get (text "set_as_head")
  related := body.get (text "related")
  metadata := body.get (text "metadata")
  github := body.get (text "github")
  ref := body.get (text "ref")
  branch := body.get (text "branch")
  sha := body.get (text "sha")
  maxBytes := body.get (text "max_bytes")

def DEFAULT_GITHUB_REF : Text := text "main"

def MAX_FETCH_BYTES : Int := 900000

def clamp (value : Number) (min max : Int) : Int :=
  match value with
  | .finite x =>
    let floored := if x.negative then -⌈x.magnitude⌉ else ⌊x.magnitude⌋
    Max.max min (Min.min max floored)
  | _ => min

structure GitHubSpec where
  (owner repo path ref : Text)
  maxBytes : Int

def firstOf (values : List Value) (fallback : Value) : Value :=
  (values.find? Value.truthy).getD fallback

variable (env) in
def fetchLimit (limits : List Value) : Int :=
  match limits.find? Value.truthy with
  | some limit => clamp (env.toNumber limit) 1 MAX_FETCH_BYTES
  | none => MAX_FETCH_BYTES

variable (env) in
/-- `owner && repo && path`, with what else a specification holds. -/
def completeSpec (owner repo path ref : Value) (maxBytes : Int) : Option GitHubSpec :=
  if owner.truthy && repo.truthy && path.truthy then
    some
      { owner := env.string owner, repo := env.string repo, path := env.string path
        ref := env.string ref, maxBytes }
  else none

variable (env) in
def githubSpecFromBody (body : StoneBody) : Option GitHubSpec :=
  let nested : Option GitHubSpec :=
    if body.github.isObject then
      let github (key : String) := body.github.get (text key)
      completeSpec env ((github "owner").or (github "org"))
        ((github "repo").or (github "repository")) ((github "path").or (github "file_path"))
        (firstOf [github "ref", github "branch", github "sha", body.ref] (.string DEFAULT_GITHUB_REF))
        (fetchLimit env [github "max_bytes", body.maxBytes])
    else none
  nested.or
    (completeSpec env (body.owner.or body.org) (body.repo.or body.repository)
      (body.path.or body.filePath)
      (firstOf [body.ref, body.branch, body.sha] (.string DEFAULT_GITHUB_REF))
      (fetchLimit env [body.maxBytes]))

/-- `[A-Za-z0-9_.-]` -/
def isPartUnit (u : CodeUnit) : Bool :=
  isWord u || u == 0x2E

def hasInfix (fragment s : Text) : Bool :=
  s.tails.any fragment.isPrefixOf

def safeGitHubPart (value : Text) : Option Text :=
  let s := trim value
  if s ≠ [] && s.all isPartUnit then some s else none

def safeGitHubRef (value : Text) : Option Text :=
  let s := trim (if value = [] then DEFAULT_GITHUB_REF else value)
  if s ≠ [] && s.all (fun u => isPartUnit u || u == 0x2F) && !hasInfix (text "..") s then some s
  else none

def safeGitHubPath (value : Text) : Option Text :=
  let s := (trim value).dropWhile (· == 0x2F)
  if s = [] || hasInfix (text "..") s || s.contains 0x5C then none else some s

def safeFile (spec : GitHubSpec) : Option GitHubFile :=
  match safeGitHubPart spec.owner, safeGitHubPart spec.repo, safeGitHubRef spec.ref,
    safeGitHubPath spec.path with
  | some owner, some repo, some ref, some path =>
    -- `encodeURIComponent` throws on a lone surrogate.
    if toWellFormed path = path then some { owner, repo, ref, path } else none
  | _, _, _, _ => none

structure GitHubContent where
  github : GitHubFile
  content : Text
  fetch : Value

variable (env) in
def fetchRecord (content : Text) : Value :=
  .literal
    [(text "bytes", count (utf8ByteLength content)), (text "sha256", .string (env.sha256 content)),
      (text "git_blob_sha", .string (env.gitBlobSha1 content))]

def fetchGitHubFile (spec : GitHubSpec) : Operation env (Except Text GitHubContent) :=
  match safeFile spec with
  | none => .fail (text "Invalid GitHub path")
  | some file => do
    let fetched : Fetched ← perform (.fetchFile file)
    match fetched with
    | .threw message => .fail message
    | .refused error => return .error error
    | .text content =>
      if spec.maxBytes < utf8ByteLength content then
        return .error (text "github_file_too_large_after_read")
      else
        return .ok { github := file, content, fetch := fetchRecord env content }

def fetchGitHubFileFromBody (body : StoneBody) : Operation env (Except Text GitHubContent) :=
  match githubSpecFromBody env body with
  | none => .fail (text "Missing GitHub source. Required: owner, repo, path. Optional: ref, max_bytes, return_content.")
  | some spec => fetchGitHubFile spec

def resolveGitHubCommit (file : GitHubFile) : Operation env (Option Text) :=
  if isHex 40 file.ref then return some (lower file.ref)
  else perform (.resolveCommit file.owner file.repo file.ref)

/-- `owner/repo` -/
def GitHubFile.fullName (file : GitHubFile) : Text :=
  file.owner ++ text "/" ++ file.repo

/-- `owner/repo/path@revision` -/
def GitHubFile.titleAt (file : GitHubFile) (revision : Text) : Text :=
  file.fullName ++ text "/" ++ file.path ++ text "@" ++ revision

def GitHubFile.members (file : GitHubFile) : List (Text × Value) :=
  [(text "owner", .string file.owner), (text "repo", .string file.repo),
    (text "path", .string file.path), (text "ref", .string file.ref)]

def GitHubFile.resolved (file : GitHubFile) (sha : Option Text) : List (Text × Value) :=
  file.members
    ++ [(text "requested_ref", .string file.ref), (text "commit_resolved", .bool sha.isSome)]

/-- `{ ...metadata, source_type: "github_file", github, fetch }` -/
def githubMetadata (metadata : Value) (github : List (Text × Value)) (fetch : Value) : Value :=
  let given := if metadata.isObject then metadata.spread else []
  let typed := Value.setProperty given (text "source_type") (.string (text "github_file"))
  let sourced := Value.setProperty typed (text "github") (.literal github)
  .literal (Value.setProperty sourced (text "fetch") fetch)

/-- What `normalizeStoneInput` makes of a body. -/
structure StoneInput where
  title : Value
  (author content : Text)
  (path repo commit metadata : Value)

/-- `typeof content === "string" && content.length > 0` -/
def inlineContent (content : Value) : Option Text :=
  match content with
  | .string [] => none
  | .string s => some s
  | _ => none

def normalizeStoneInput (body : StoneBody) : Operation env StoneInput := do
  let author ← requiredString body.author "author"
  match inlineContent body.content with
  | some content =>
    return {
      title := body.title.or (.string (text "Inline CairnStone")), author, content
      path := body.path.or (.string (text "content.txt")), repo := body.repo.or .null
      commit := body.commit.or .null
      metadata := if body.metadata.isObject then body.metadata else .literal [] }
  | none =>
    match githubSpecFromBody env body with
    | none => .fail (text "Missing content or GitHub source. Pass content, or pass owner+repo+path+optional ref.")
    | some spec => do
      let fetched ← fetchGitHubFile spec
      match fetched with
      | .error _ => .fail (text "TypeError")
      | .ok fetched =>
        return {
          title := body.title.or (.string (fetched.github.titleAt fetched.github.ref)), author
          content := fetched.content, path := .string fetched.github.path
          repo := .string fetched.github.fullName, commit := .string fetched.github.ref
          metadata := githubMetadata body.metadata fetched.github.members fetched.fetch }

structure Created where
  (stoneHash rawKey : Text)
  refs : Nat

def rawKeyOf (env : Env) (content : Text) : Text :=
  text "raw/" ++ env.sha256 content ++ text ".txt"

structure BuiltStone where
  (hash rawKey : Text)
  refs : List Ref
  receipt : Receipt
  stone : Value

variable (env) in
def buildStone (input : StoneInput) (created : Text) (related parent chain : Value) : BuiltStone :=
  let rawKey := rawKeyOf env input.content
  let hash :=
    env.sha256
      (stableJson (.literal
        [(text "title", input.title), (text "author", .string input.author),
          (text "created", .string created), (text "rawHash", .string (env.sha256 input.content)),
          (text "repo", input.repo), (text "commit", input.commit), (text "parent", parent),
          (text "chain", chain)]))
  let refs := buildRefs env.toBuiltins hash input.path rawKey input.content
  let receipt := buildReceipt env.toBuiltins input.content refs created
  let layers :=
    buildLayers env.toBuiltins input.title input.author input.repo input.commit input.content refs
      receipt rawKey
  let border : Value :=
    .literal
      [(text "hash", .string hash), (text "author", .string input.author),
        (text "created", .string created), (text "title", input.title), (text "repo", input.repo),
        (text "commit", input.commit), (text "path", input.path), (text "parent", parent),
        (text "chain", chain), (text "signature", .null)]
  { hash, rawKey, refs, receipt
    stone :=
      .literal
        [(text "border", border), (text "layers", layers), (text "related", related),
          (text "metadata", input.metadata)] }

def stoneRow (input : StoneInput) (created : Text) (parent chain : Value) (built : BuiltStone)
    : Operation env StoneRow := do
  let title ← boundText input.title
  let repo ← bound input.repo
  let commitSha ← bound input.commit
  let parentHash ← bound parent
  let chainHash ← bound chain
  let path ← boundText input.path
  return {
    hash := built.hash, title, author := input.author, createdAt := created, repo, commitSha
    parentHash, chainHash, rawKey := built.rawKey, stoneJson := jsonCopy built.stone
    path := some path }

/-- The row of a chunk, whose path column holds what the path of its stone is stored as. -/
def Ref.row (path : Text) (ref : Ref) : RefRow where
  refId := ref.refId
  stoneHash := ref.stoneHash
  path := path
  lineStart := ref.lineStart
  lineEnd := ref.lineEnd
  keywords := [0x20].intercalate ref.keywords
  preview := ref.preview
  rawKey := ref.rawKey

def Ref.ftsRow (chain path : Text) (ref : Ref) : FtsRow where
  refId := ref.refId
  stoneHash := ref.stoneHash
  chain := chain
  path := path
  keywords := [0x20].intercalate ref.keywords
  preview := ref.preview

variable (env) in
def receiptRow (built : BuiltStone) : ReceiptRow where
  id := env.sha256 (built.hash ++ text ":" ++ built.receipt.createdAt ++ text ":receipt")
  stoneHash := built.hash
  originalBytes := built.receipt.originalBytes
  compressedBytes := built.receipt.compressedBytes
  ratio := built.receipt.ratio
  strategy := built.receipt.strategy
  createdAt := built.receipt.createdAt

def requireEach : List Write → Operation env Unit
  | [] => .done ()
  | statement :: rest => do
    require statement
    requireEach rest

/-- `ftsIndexRefs(env, stoneHash, chain, refs)`: a failure is not reported. -/
def ftsIndexRefs (rows : List FtsRow) : Operation env Unit :=
  (requireEach (rows.map .insertFts)).handle (fun _ => .done ())

/-- The statements that store a stone: its row, its chunks, its search index, and last its receipt. -/
def storeStone (row : StoneRow) (built : BuiltStone) : Operation env Unit := do
  let path := row.path.getD []
  require (.insertStone row)
  requireEach ((built.refs.map (Ref.row path)).map .insertRef)
  ftsIndexRefs (built.refs.map (Ref.ftsRow (row.chainHash.getD []) path))
  require (.insertReceipt (receiptRow env built))

def createStoneFromBody (body : StoneBody) : Operation env Created := do
  let input ← normalizeStoneInput body
  let created ← clock
  let parent := body.parent.or .null
  let chain := body.chain.or .null
  let related : Value :=
    match body.related with
    | .array slots => .array slots
    | _ => .array []
  require (.putRaw (rawKeyOf env input.content) input.content)
  let built := buildStone env input created related parent chain
  let row ← stoneRow input created parent chain built
  storeStone row built
  whenever (chain.truthy && body.setAsHead.truthy) (upsertHead chain built.hash created)
  return { stoneHash := built.hash, rawKey := built.rawKey, refs := built.refs.length }

def gitHubStoneBody (body : StoneBody) (fetched : GitHubContent) (sha : Option Text) : StoneBody :=
  let revision := sha.getD fetched.github.ref
  { body with
    title := body.title.or (.string (fetched.github.titleAt revision))
    content := .string fetched.content
    path := .string fetched.github.path
    repo := .string fetched.github.fullName
    commit := .string revision
    metadata := githubMetadata body.metadata (fetched.github.resolved sha) fetched.fetch }

def createStoneFromGitHubBody (body : StoneBody) : Operation env (Except Text Created) := do
  let fetched ← fetchGitHubFileFromBody body
  match fetched with
  | .error error => return .error error
  | .ok fetched => do
    let sha ← resolveGitHubCommit fetched.github
    let created ← createStoneFromBody (gitHubStoneBody body fetched sha)
    return .ok created

def EDGE_TYPES : List Text :=
  ["supersedes", "patches", "documents", "reviews", "references"].map text

/-- `linkStonesFromBody({ from_hash, to_hash, edge_type, note }, env)` -/
def linkStones (fromHash toHash edgeType note : Value) : Operation env (Except Text Unit) := do
  let fromHash ← requiredString fromHash "from_hash"
  let toHash ← requiredString toHash "to_hash"
  let edgeType ← requiredString edgeType "edge_type"
  if edgeType ∉ EDGE_TYPES then
    return .error (text "invalid_edge_type")
  else do
    let fromRow ← select (·.stoneAt fromHash)
    if fromRow.isNone then
      return .error (text "from_stone_not_found")
    else do
      let toRow ← select (·.stoneAt toHash)
      if toRow.isNone then
        return .error (text "to_stone_not_found")
      else do
        let createdAt ← clock
        let note ← bound (note.or .null)
        let id :=
          env.sha256
            (fromHash ++ text ":" ++ toHash ++ text ":" ++ edgeType ++ text ":" ++ createdAt)
        require (.insertEdge { id, fromHash, toHash, edgeType, note, createdAt })
        return .ok ()

def resolveStoneHash (input : Value) : Operation env (Except Text Text) := do
  let value ← requiredString input "hash"
  if value.length = 64 then do
    let row ← select (·.stoneAt value)
    return match row with
      | some row => .ok row.hash
      | none => .error (text "stone_not_found")
  else if value.length < 8 then
    return .error (text "hash_prefix_too_short")
  else do
    let safe := value.filter (fun u => u ≠ 0x25 && u ≠ 0x5F)
    let rows ← select (fun tables =>
      (tables.stones.filter (fun row => like (safe ++ text "%") row.hash)).take 3)
    return match rows with
      | [] => .error (text "stone_not_found")
      | [row] => .ok row.hash
      | _ => .error (text "ambiguous_hash_prefix")

/-- `{ ok: false, error }` -/
def refusal (error : Text) : Value :=
  .literal [(text "ok", .bool false), (text "error", .string error)]

def setHeadFromBody (body : Value) : Operation env Value := do
  let chain ← requiredString (body.get (text "chain")) "chain"
  let hash ← requiredString (body.get (text "hash")) "hash"
  let row ← select (·.stoneAt hash)
  match row with
  | none => return refusal (text "stone_not_found")
  | some row =>
    if row.chainHash ≠ some chain then
      return refusal (text "chain_mismatch")
    else do
      let updated ← clock
      upsertHead (.string chain) hash updated
      return .literal
        [(text "ok", .bool true), (text "chain", .string chain),
          (text "head_hash", .string hash), (text "updated_at", .string updated)]

def setPathHeadFromBody (body : Value) : Operation env Value := do
  let chain ← requiredString (body.get (text "chain")) "chain"
  let path ← requiredString (body.get (text "path")) "path"
  let resolved ← resolveStoneHash (body.get (text "hash"))
  match resolved with
  | .error error => return refusal error
  | .ok hash => do
    let row ← select (·.stoneAt hash)
    match row with
    | none => return refusal (text "stone_not_found")
    | some row =>
      if row.chainHash ≠ some chain then
        return refusal (text "stone_chain_mismatch")
      else if row.path ≠ some path then
        return refusal (text "stone_path_mismatch")
      else do
        let updatedAt ← clock
        upsertPathHead chain (.string path) hash updatedAt
        return .literal
          [(text "ok", .bool true), (text "chain", .string chain),
            (text "path", .string path), (text "head_hash", .string hash),
            (text "updated_at", .string updatedAt)]

/-- `value === false` -/
def isFalse : Value → Bool
  | .bool b => !b
  | _ => false

def commitSource (body : StoneBody) (chain author : Text)
    : Operation env (Except Text (StoneBody × Text)) :=
  match inlineContent body.content with
  | some content =>
    return .ok ({ body with chain := .string chain, author := .string author }, content)
  | none => do
    let fetched ← fetchGitHubFileFromBody body
    match fetched with
    | .error error => return .error error
    | .ok fetched => do
      let sha : Option Text ← resolveGitHubCommit fetched.github
      match sha with
      | none => return .error (text "github_commit_resolution_failed")
      | some sha =>
        return .ok
          ({ body with
              chain := .string chain
              author := .string author
              title := body.title.or (.string (fetched.github.titleAt sha))
              content := .string fetched.content
              path := .string fetched.github.path
              repo := .string fetched.github.fullName
              commit := .string sha
              metadata :=
                githubMetadata body.metadata (fetched.github.resolved (some sha)) fetched.fetch },
            fetched.content)

def commitEdge (stoneHash : Text) (edge : Value) : Operation env Value := do
  let to? := edge.get (text "to")
  let refused (error : Text) : Value :=
    .literal [(text "to", to?), (text "ok", .bool false), (text "error", .string error)]
  match to?.string?, (edge.get (text "type")).string? with
  | some _, some edgeType => do
    let target ← resolveStoneHash to?
    match target with
    | .error error => return refused error
    | .ok hash =>
      if hash = stoneHash then
        return refused (text "self_edge_skipped")
      else do
        let linked ←
          linkStones (.string stoneHash) (.string hash) (.string edgeType)
            (edge.get (text "note"))
        let report : List (Text × Value) :=
          [(text "to", .string (hash.take 12)), (text "type", .string edgeType)]
        return match linked with
          | .ok _ => .literal (report ++ [(text "ok", .bool true)])
          | .error error =>
            .literal (report ++ [(text "ok", .bool false), (text "error", .string error)])
  | _, _ => return refused (text "invalid_edge_spec")

def commitEdges (stoneHash : Text) : List Value → Operation env (List Value)
  | [] => .done []
  | edge :: rest => do
    let result ← commitEdge stoneHash edge
    let results ← commitEdges stoneHash rest
    .done (result :: results)

def elements : Value → List Value
  | .array slots => slots.map (·.getD .undefined)
  | _ => []

/-- `delete stoneBody.set_as_head` -/
def StoneBody.withoutHead (body : StoneBody) : StoneBody :=
  { body with setAsHead := .undefined }

def findExisting (stoneBody : StoneBody) (chain content : Text) (dedupe : Bool)
    : Operation env (Option Text) :=
  if dedupe then do
    let path ← bound (stoneBody.path.or (.string (text "content.txt")))
    perform (.selectExisting chain path (rawKeyOf env content))
  else
    .done none

def commitStone (stoneBody : StoneBody) (chain content : Text) (dedupe : Bool)
    : Operation env (Text × Bool × Option Nat) := do
  let existing ← findExisting stoneBody chain content dedupe
  match existing with
  | some hash => return (hash, true, none)
  | none => do
    let created ← createStoneFromBody stoneBody
    return (created.stoneHash, false, some created.refs)

def commitV2FromBody (body : Value) : Operation env Value := do
  let chain ← requiredString (body.get (text "chain")) "chain"
  let author ← requiredString (body.get (text "author")) "author"
  let source ← commitSource (StoneBody.ofValue body) chain author
  match source with
  | .error error => return refusal error
  | .ok (sourced, content) => do
    let stoneBody := sourced.withoutHead
    let (stoneHash, deduped, refs) ←
      commitStone stoneBody chain content (!isFalse (body.get (text "dedupe")))
    let now ← clock
    let path := stoneBody.path
    let movesPath := path.truthy && !isFalse (body.get (text "set_path_head"))
    let movesChain := (body.get (text "set_as_head")).isTrue
    whenever movesPath (upsertPathHead chain path stoneHash now)
    whenever movesChain (upsertHead (.string chain) stoneHash now)
    let edges ← commitEdges stoneHash (elements (body.get (text "edges")))
    let actions : List Text :=
      (if deduped then [text "deduped_to_existing_stone"] else [])
        ++ (if movesPath then [text "path_head:" ++ env.string path] else [])
        ++ (if movesChain then [text "chain_head"] else [])
    return .literal
      ([(text "ok", .bool true), (text "stone", .string (stoneHash.take 12)),
          (text "stone_hash", .string stoneHash), (text "deduped", .bool deduped),
          (text "actions", .array (actions.map (fun action => some (.string action))))]
        ++ (refs.map (fun n => (text "refs", count n))).toList
        ++ (if edges = [] then []
            else [(text "edges", .array (edges.map some))]))

end CairnStone.Vault
