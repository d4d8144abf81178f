import CairnStone.Vault.Stones

/-! Orientation in a chain: its accepted head, its path heads, and the manifest that commits to all of
them. A card and a context package are read twice and refused if the heads moved in between.
-/

namespace CairnStone.Vault

open JavaScript Data Concurrency

variable {env : Env}

def MAX_ORIENTATION_PATHS : Nat := 50

inductive Detail where
  | full
  | compact
  | startHere
  deriving DecidableEq

/-- `value === undefined || value === null || value === ""` -/
def isBlank (value : Value) : Bool :=
  match value with
  | .undefined => true
  | .null => true
  | .string s => s == []
  | _ => false

variable (env) in
def detailOf (value : Value) : Option Detail :=
  let detail := if isBlank value then text "full" else env.string value
  if detail = text "full" then some .full
  else if detail = text "compact" then some .compact
  else if detail = text "start_here" then some .startHere
  else none

def normalizeOrientationPaths (value : Value) : Except Text (List Text) :=
  match value with
  | .undefined => .ok []
  | .null => .ok []
  | .array slots =>
    let paths :=
      (((slots.filterMap (·.bind Value.string?)).map trim).filter (fun path => path != [])).eraseDups
    if MAX_ORIENTATION_PATHS < paths.length then .error (text "too_many_paths") else .ok paths
  | _ => .error (text "invalid_paths")

variable (env) in
def normalizeOrientationSince (value : Value) : Except Text (Option Text) :=
  if isBlank value then .ok none
  else
    match env.isoDate (env.string value) with
    | some since => .ok (some since)
    | none => .error (text "invalid_since")

variable (env) in
/-- The paths and the time that a compact orientation is asked for; any other one is asked for none. -/
def orientationFilter (detail : Detail) (body : Value) : Except Text (List Text × Option Text) :=
  match detail with
  | .compact => do
    let paths ← normalizeOrientationPaths (body.get (text "paths"))
    let since ← normalizeOrientationSince env (body.get (text "since"))
    .ok (paths, since)
  | _ => .ok ([], none)

def selectOrientationPathHeads (pathHeads : List OrientedHead) (paths : List Text)
    (since : Option Text)
    : List OrientedHead :=
  pathHeads.filter (fun item =>
    paths.contains item.path || since.any (fun since => since ≤ item.updatedAt))

def latestAcceptedStateCursor (headUpdatedAt : Text) (pathHeads : List OrientedHead) : Option Text :=
  (((headUpdatedAt :: pathHeads.map (·.updatedAt)).filter (fun stamp => stamp != [])).insertionSort
    (· ≤ ·)).getLast?

def SPARSE_AUTHORITY_SCHEMA : Text := text "cairnstone-sparse-authority-v1"

structure Pointer where
  (path stoneHash : Text)
  deriving DecidableEq

def OrientedHead.pointer (item : OrientedHead) : Pointer where
  path := item.path
  stoneHash := item.stoneHash

variable (env) in
/-- `a.path.localeCompare(b.path) || a.stone_hash.localeCompare(b.stone_hash)`, as an order. -/
def pointerLe (a b : Pointer) : Bool :=
  env.localeLe a.path b.path && (!env.localeLe b.path a.path || env.localeLe a.stoneHash b.stoneHash)

variable (env) in
def canonicalPathHeadPointers (pathHeads : List OrientedHead) : List Pointer :=
  (pathHeads.map (·.pointer)).insertionSort (fun a b => pointerLe env a b)

def Pointer.value (pointer : Pointer) : Value :=
  .literal [(text "path", .string pointer.path), (text "stone_hash", .string pointer.stoneHash)]

/-- What is committed to of an accepted state. -/
structure Manifest where
  (authorityManifestId pathHeadsDigest : Text)
  fullPathHeadCount : Nat
  deriving DecidableEq

variable (env) in
/-- `"sha256:" + sha256Text(stableJson(value))` -/
def digestOf (value : Value) : Text :=
  text "sha256:" ++ env.sha256 (stableJson value)

variable (env) in
def computeAcceptedAuthorityManifest (chain chainHead : Text) (pathHeads : List OrientedHead)
    : Manifest :=
  let pointers := canonicalPathHeadPointers env pathHeads
  let pathHeadsDigest := digestOf env (.array (pointers.map (fun pointer => some pointer.value)))
  { pathHeadsDigest
    fullPathHeadCount := pointers.length
    authorityManifestId :=
      digestOf env
        (.literal
          [(text "schema", .string SPARSE_AUTHORITY_SCHEMA), (text "chain", .string chain),
            (text "chain_head", .string chainHead),
            (text "path_head_count", count pointers.length),
            (text "path_heads_digest", .string pathHeadsDigest)]) }

/-- An answer of `resume_chain`. `authority` and `nextCursor` are absent from a full one. -/
structure Resumed where
  chain : Text
  canonicalHead : StoneRow
  pathHeads : List OrientedHead
  missingPaths : List Text
  (outbound inbound : List EdgeRow)
  authority : Option Manifest
  nextCursor : Option Text

/-- `${edge.edge_type}|${edge.from_hash}|${edge.to_hash}` -/
def edgeSortKey (edge : EdgeRow) : Text :=
  edge.edgeType ++ text "|" ++ edge.fromHash ++ text "|" ++ edge.toHash

def sortEdges (edges : List EdgeRow) : List EdgeRow :=
  edges.insertionSort (fun a b => edgeSortKey a ≤ edgeSortKey b)

/-- The answer with everything in it. -/
def Resumed.full (chain : Text) (stone : StoneRow) (pathHeads : List OrientedHead)
    (outbound inbound : List EdgeRow)
    : Resumed where
  chain := chain
  canonicalHead := stone
  pathHeads := pathHeads
  missingPaths := []
  outbound := outbound
  inbound := inbound
  authority := none
  nextCursor := none

variable (env) in
/-- The answer that leaves out what was not asked for. -/
def Resumed.compact (full : Resumed) (paths : List Text) (since : Option Text) (headUpdatedAt : Text)
    : Resumed :=
  { full with
    pathHeads := selectOrientationPathHeads full.pathHeads paths since
    missingPaths := paths.filter (fun path => !full.pathHeads.any (·.path == path))
    authority :=
      some (computeAcceptedAuthorityManifest env full.chain full.canonicalHead.hash full.pathHeads)
    nextCursor := latestAcceptedStateCursor headUpdatedAt full.pathHeads }

def startHere (full : Resumed) : Operation env (Except Text Resumed) := do
  let manifest :=
    computeAcceptedAuthorityManifest env full.chain full.canonicalHead.hash full.pathHeads
  let verifyHeadRow : Option ChainHeadRow ← perform (.readChainHead full.chain)
  match verifyHeadRow with
  | none => return .error (text "start_here_orientation_race")
  | some verifyHeadRow =>
    if verifyHeadRow.headHash ≠ full.canonicalHead.hash then
      return .error (text "start_here_orientation_race")
    else do
      let verifyPathHeads : List OrientedHead ← perform (.readPathHeads full.chain)
      let verifyManifest :=
        computeAcceptedAuthorityManifest env full.chain verifyHeadRow.headHash verifyPathHeads
      if verifyManifest.authorityManifestId ≠ manifest.authorityManifestId
          || verifyManifest.pathHeadsDigest ≠ manifest.pathHeadsDigest then
        return .error (text "start_here_orientation_race")
      else
        return .ok
          { full with
            pathHeads := []
            outbound := []
            inbound := []
            authority := some manifest
            nextCursor := latestAcceptedStateCursor verifyHeadRow.updatedAt verifyPathHeads }

/-- `resume_chain` once its args are checked. -/
def resumeChain (chain : Text) (detail : Detail) (paths : List Text) (since : Option Text)
    : Operation env (Except Text Resumed) := do
  let headRow : Option ChainHeadRow ← perform (.readChainHead chain)
  match headRow with
  | none => do
    let anyStone ← select (fun tables => tables.stones.any (·.chainHash == some chain))
    return .error (if anyStone then text "chain_head_missing" else text "chain_not_found")
  | some headRow => do
    let stone ← select (·.stoneAt headRow.headHash)
    match stone with
    | none => return .error (text "head_stone_missing")
    | some stone =>
      if stone.chainHash ≠ some chain then
        return .error (text "head_chain_mismatch")
      else do
        let pathHeads : List OrientedHead ← perform (.readPathHeads chain)
        let outbound ← select (fun tables => tables.edges.filter (·.fromHash == stone.hash))
        let inbound ← select (fun tables => tables.edges.filter (·.toHash == stone.hash))
        let full := Resumed.full chain stone pathHeads (sortEdges outbound) (sortEdges inbound)
        match detail with
        | .full => return .ok full
        | .compact => return .ok (full.compact env paths since headRow.updatedAt)
        | .startHere => startHere full

def resumeChainFromBody (body : Value) : Operation env (Except Text Resumed) := do
  let chain ← requiredString (body.get (text "chain")) "chain"
  match detailOf env (body.get (text "detail")) with
  | none => return .error (text "invalid_resume_detail")
  | some detail =>
    match orientationFilter env detail body with
    | .error error => return .error error
    | .ok (paths, since) => resumeChain chain detail paths since

/-- The accepted state of a chain, with what two such states are compared by. -/
structure AuthoritySnapshot where
  resume : Resumed
  fingerprint : Text

/-- `stableJson({ chain_head, path_heads })` -/
def fingerprintOf (resume : Resumed) : Text :=
  let pointers :=
    (resume.pathHeads.map (fun item => item.path ++ text ":" ++ item.stoneHash)).insertionSort (· ≤ ·)
  stableJson
    (.literal
      [(text "chain_head", .string resume.canonicalHead.hash),
        (text "path_heads", .array (pointers.map (fun pointer => some (.string pointer))))])

def captureAuthoritySnapshot (chain : Text) : Operation env (Except Text AuthoritySnapshot) := do
  let resume ← resumeChainFromBody (.literal [(text "chain", .string chain)])
  return match resume with
    | .error error => .error error
    | .ok resume => .ok { resume, fingerprint := fingerprintOf resume }

structure BootstrapRequest where
  (chain instructionsChain : Text)
  sparse : Bool

structure CompiledSections where
  sections : Value
  selectedPaths : List Text

/-- What is left open of the compiler: the other checks of a request, the sections of its package, and
the skills, which are compared once more at the end. They may do whatever a call may do.
-/
structure Compiler (env : Env) where
  checked : Value → Except Text Bool
  compile : BootstrapRequest → (resume instructions : Resumed)
    → Operation env (Except Text CompiledSections)
  skillsUnchanged : CompiledSections → Operation env Bool

/-- A context package. `sparse` commits to path heads that it leaves out. -/
structure ContextPackage where
  chain : Text
  chainHead : StoneRow
  pathHeads : List OrientedHead
  sparse : Option Manifest
  sections : Value

/-- `requiredText(value, name, 300)` -/
def requiredChain (value : Value) : Option Text :=
  match value with
  | .string s => if trim s = [] ∨ 300 < (trim s).length then none else some (trim s)
  | _ => none

def bootstrapRequest (compiler : Compiler env) (body : Value) : Except Text BootstrapRequest := do
  let sparse ← compiler.checked body
  match requiredChain (body.get (text "chain")) with
  | none => .error (text "chain_not_found")
  | some chain =>
    match body.get (text "instructions_chain") with
    | .string s =>
      if trim s = [] then .ok { chain, instructionsChain := chain, sparse }
      else
        match requiredChain (.string s) with
        | none => .error (text "chain_not_found")
        | some instructionsChain => .ok { chain, instructionsChain, sparse }
    | _ => .ok { chain, instructionsChain := chain, sparse }

variable (env) in
def compileAuthorityEnvelope (request : BootstrapRequest) (resume : Resumed)
    (compiled : CompiledSections)
    : ContextPackage :=
  if request.sparse then
    { chain := request.chain
      chainHead := resume.canonicalHead
      pathHeads :=
        (resume.pathHeads.filter (fun item => compiled.selectedPaths.contains item.path)).insertionSort
          (fun a b => env.localeLe a.path b.path)
      sparse :=
        some
          (computeAcceptedAuthorityManifest env request.chain resume.canonicalHead.hash resume.pathHeads)
      sections := compiled.sections }
  else
    { chain := request.chain
      chainHead := resume.canonicalHead
      pathHeads := resume.pathHeads
      sparse := none
      sections := compiled.sections }

def instructionsSnapshot (request : BootstrapRequest) (snapshot : AuthoritySnapshot)
    : Operation env (Except Text AuthoritySnapshot) :=
  if request.instructionsChain = request.chain then return .ok snapshot
  else captureAuthoritySnapshot request.instructionsChain

/-- The accepted state of that chain is read once more, unless it is the chain of the package. -/
def instructionsUnchanged (request : BootstrapRequest) (snapshot : AuthoritySnapshot)
    : Operation env Bool :=
  if request.instructionsChain = request.chain then return true
  else do
    let again ← captureAuthoritySnapshot request.instructionsChain
    return match again with
      | .error _ => false
      | .ok again => again.fingerprint == snapshot.fingerprint

/-- The accepted state is compared with that at the beginning, and the package made of the latter. -/
def finishPackage (compiler : Compiler env) (request : BootstrapRequest)
    (snapshot instructions : AuthoritySnapshot) (compiled : CompiledSections)
    : Operation env (Except Text ContextPackage) := do
  let again ← captureAuthoritySnapshot request.chain
  match again with
  | .error error => return .error error
  | .ok again =>
    if again.fingerprint ≠ snapshot.fingerprint then
      return .error (text "context_compile_race")
    else do
      let unchanged ← instructionsUnchanged request instructions
      if !unchanged then
        return .error (text "context_compile_race")
      else do
        let skills ← compiler.skillsUnchanged compiled
        if !skills then
          return .error (text "context_compile_race")
        else
          return .ok (compileAuthorityEnvelope env request snapshot.resume compiled)

def compilePackage (compiler : Compiler env) (request : BootstrapRequest)
    : Operation env (Except Text ContextPackage) := do
  let snapshot ← captureAuthoritySnapshot request.chain
  match snapshot with
  | .error error => return .error error
  | .ok snapshot => do
    let instructions ← instructionsSnapshot request snapshot
    match instructions with
    | .error _ => return .error (text "canonical_instructions_chain_unavailable")
    | .ok instructions => do
      let compiled ← compiler.compile request snapshot.resume instructions.resume
      match compiled with
      | .error error => return .error error
      | .ok compiled => finishPackage compiler request snapshot instructions compiled

def agentBootstrapFromBody (compiler : Compiler env) (body : Value)
    : Operation env (Except Text ContextPackage) :=
  match bootstrapRequest compiler body with
  | .error error => return .error error
  | .ok request => (compilePackage compiler request).handle (fun error => .done (.error error))

end CairnStone.Vault
