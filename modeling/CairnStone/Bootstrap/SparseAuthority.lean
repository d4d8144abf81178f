import CairnStone.Bootstrap.SizeDiscipline
import CairnStone.Vault.Orientation

/-! The path heads that a sparse context package shows. They are chosen from four sources in turn until
the cap is reached.
-/

namespace CairnStone.Bootstrap

open JavaScript Data List Nat
open Vault (Env Resumed OrientedHead BootstrapRequest ContextPackage CompiledSections pointerLe
  canonicalPathHeadPointers compileAuthorityEnvelope computeAcceptedAuthorityManifest quietEnv)

def SPARSE_PATH_HEAD_CAP : Nat := 24

def DEFAULT_INSTRUCTIONS_PATH : Text := text "docs/AI_OPERATING_GUIDE.md"

def DEFAULT_RUNTIME_BRIEF_PATH : Text := text "docs/AI_RUNTIME_BRIEF.json"

inductive AuthorityClass where
  | chainHead
  | pathHead
  | historical
  deriving DecidableEq

structure MemoryRow where
  (path stoneHash : Text)

/-- `${path}|${stone_hash}` -/
def pointerKey (path stoneHash : Text) : Text :=
  path ++ 0x7C :: stoneHash

def authorityClass (resume : Resumed) (row : MemoryRow) : AuthorityClass :=
  if row.stoneHash = resume.canonicalHead.hash then .chainHead
  else if (resume.pathHeads.map fun item => pointerKey item.path item.stoneHash).contains
      (pointerKey row.path row.stoneHash) then
    .pathHead
  else .historical

def addPath (full : List OrientedHead) (selected : List Text) (path : Option Text) : List Text :=
  match path with
  | none => selected
  | some path =>
    if !(full.map (·.path)).contains path || SPARSE_PATH_HEAD_CAP ≤ selected.length
        || selected.contains path then
      selected
    else selected ++ [path]

section

variable (env : Env) (request : BootstrapRequest) (resume : Resumed) (runtimeBrief : Bool)
  (memory : List MemoryRow) (terms : List Text)

/-- The accepted paths that name a term of the task, those with more terms first. -/
def rankedPaths : List Text :=
  let scored := resume.pathHeads.map fun item =>
    (item.path, terms.countP fun term => term <:+: env.toLowerCase item.path)
  ((scored.filter fun entry => 0 < entry.2).insertionSort fun a b =>
    b.2 < a.2 || (a.2 == b.2 && env.localeLe a.1 b.1)).map (·.1)

/-- The paths that direct authority and the evidence ask for; `runtimeBrief` says whether the
instructions are in that form.
-/
def mandatoryPaths : List (Option Text) :=
  resume.canonicalHead.path
    :: (if request.instructionsChain = request.chain then some DEFAULT_INSTRUCTIONS_PATH else none)
    :: (if request.instructionsChain = request.chain && runtimeBrief then
          some DEFAULT_RUNTIME_BRIEF_PATH
        else none)
    :: memory.map fun row => if authorityClass resume row = .historical then none else some row.path

def selectSparsePaths : List Text :=
  (mandatoryPaths request resume runtimeBrief memory ++ (rankedPaths env resume terms).map some).foldl
    (addPath resume.pathHeads) []

/-- The envelope of a package in the mode `optimized_sparse` -/
def sparseEnvelope (sections : Value) : ContextPackage :=
  compileAuthorityEnvelope env { request with sparse := true } resume
    { sections, selectedPaths := selectSparsePaths env request resume runtimeBrief memory terms }

end

def omittedPathHeadCount (package : ContextPackage) (full : Nat) : Nat :=
  full - package.pathHeads.length

/-- A path is shown if it is accepted. -/
def Shows (resume : Resumed) (package : ContextPackage) (path : Text) : Prop :=
  path ∈ resume.pathHeads.map (·.path) → path ∈ package.pathHeads.map (·.path)

/-- What a sparse envelope shows of an accepted state and of the evidence, and what it counts. -/
structure RepresentsEvidence (env : Env) (request : BootstrapRequest) (resume : Resumed)
    (runtimeBrief : Bool) (memory : List MemoryRow) (package : ContextPackage)
    : Prop where
  accepted : ∀ item ∈ package.pathHeads, item ∈ resume.pathHeads
  capped : package.pathHeads.length ≤ SPARSE_PATH_HEAD_CAP
  canonicalHead : ∀ path, resume.canonicalHead.path = some path → Shows resume package path
  instructions : request.instructionsChain = request.chain
    → Shows resume package DEFAULT_INSTRUCTIONS_PATH
  brief : request.instructionsChain = request.chain → runtimeBrief = true
    → Shows resume package DEFAULT_RUNTIME_BRIEF_PATH
  evidence : ∀ row ∈ memory, authorityClass resume row = .pathHead
    → row.path ∈ package.pathHeads.map (·.path)
  counted : ∃ manifest, package.sparse = some manifest
    ∧ manifest.fullPathHeadCount = resume.pathHeads.length
    ∧ package.pathHeads.length + omittedPathHeadCount package manifest.fullPathHeadCount
      = manifest.fullPathHeadCount
  ordered : ∀ pathHeads : List OrientedHead, pathHeads.Perm resume.pathHeads
    → package.sparse
      = some (computeAcceptedAuthorityManifest env request.chain resume.canonicalHead.hash pathHeads)

/-- What a vault holds: one head for each path of a chain, and hashes of one length. -/
structure Stocked (resume : Resumed) (memory : List MemoryRow) : Prop where
  distinct : (resume.pathHeads.map (·.path)).Nodup
  heads : ∀ item ∈ resume.pathHeads, item.stoneHash.length = 64
  rows : ∀ row ∈ memory, row.stoneHash.length = 64

/-- What is documented of `localeCompare`: it is a consistent comparison. -/
structure Collates (env : Env) : Prop where
  total : ∀ a b, env.localeLe a b = true ∨ env.localeLe b a = true
  trans : ∀ a b c, env.localeLe a b = true → env.localeLe b c = true → env.localeLe a c = true

/-- No two pointers compare as equal. -/
def Distinguished (env : Env) (resume : Resumed) : Prop :=
  ∀ a ∈ resume.pathHeads, ∀ b ∈ resume.pathHeads, pointerLe env a.pointer b.pointer = true
    → pointerLe env b.pointer a.pointer = true → a.pointer = b.pointer

variable {full : List OrientedHead} {selected : List Text} {wanted : List (Option Text)} {path : Text}

theorem mem_addPath (mem : path ∈ selected) (other : Option Text)
    : path ∈ addPath full selected other := by
  unfold addPath
  split
  · exact mem
  · split
    · exact mem
    · exact mem_append_left _ mem

theorem mem_foldl_addPath (mem : path ∈ selected) : path ∈ wanted.foldl (addPath full) selected := by
  induction wanted generalizing selected with
  | nil => exact mem
  | cons other wanted ih => exact ih (mem_addPath mem other)

/-- A step adds at most one path, an accepted one, and none beyond the cap. -/
theorem addPath_spec (other : Option Text)
    (within : selected.Nodup ∧ selected ⊆ full.map (·.path)
      ∧ selected.length ≤ SPARSE_PATH_HEAD_CAP)
    : (addPath full selected other).Nodup ∧ addPath full selected other ⊆ full.map (·.path)
      ∧ (addPath full selected other).length ≤ SPARSE_PATH_HEAD_CAP
      ∧ (addPath full selected other).length ≤ selected.length + 1 := by
  obtain ⟨distinct, inside, few⟩ := within
  unfold addPath
  split
  · exact ⟨distinct, inside, few, le_succ _⟩
  · next path =>
      split
      · exact ⟨distinct, inside, few, le_succ _⟩
      · next free =>
          simp only [Bool.or_eq_true, Bool.not_eq_true', decide_eq_true_eq, not_or,
            Bool.not_eq_false, contains_iff_mem, not_le] at free
          obtain ⟨⟨there, room⟩, fresh⟩ := free
          refine ⟨?_, ?_, ?_, ?_⟩
          · exact nodup_append.mpr ⟨distinct, nodup_singleton path,
              fun a old b new same => fresh (by
                rw [← mem_singleton.mp new, ← same]
                exact old)⟩
          · exact append_subset.mpr ⟨inside, fun other mem => by
              rw [mem_singleton.mp mem]
              exact there⟩
          · simpa using room
          · simp

theorem foldl_addPath_spec
    (within : selected.Nodup ∧ selected ⊆ full.map (·.path)
      ∧ selected.length ≤ SPARSE_PATH_HEAD_CAP)
    : (wanted.foldl (addPath full) selected).Nodup
      ∧ wanted.foldl (addPath full) selected ⊆ full.map (·.path)
      ∧ (wanted.foldl (addPath full) selected).length ≤ SPARSE_PATH_HEAD_CAP := by
  induction wanted generalizing selected with
  | nil => exact within
  | cons other wanted ih =>
    obtain ⟨distinct, inside, few, -⟩ := addPath_spec other within
    exact ih ⟨distinct, inside, few⟩

/-- As long as few paths were asked for before it, an accepted path is taken. -/
theorem mem_foldl_of_early (there : path ∈ full.map (·.path)) (asked : some path ∈ wanted)
    (early : selected.length + wanted.length ≤ SPARSE_PATH_HEAD_CAP)
    (within : selected.Nodup ∧ selected ⊆ full.map (·.path)
      ∧ selected.length ≤ SPARSE_PATH_HEAD_CAP)
    : path ∈ wanted.foldl (addPath full) selected := by
  induction wanted generalizing selected with
  | nil => cases asked
  | cons other wanted ih =>
    obtain ⟨distinct, inside, few, one⟩ := addPath_spec other within
    rw [length_cons] at early
    rw [foldl_cons]
    rcases mem_cons.mp asked with rfl | asked
    · refine mem_foldl_addPath ?_
      by_cases known : path ∈ selected
      · exact mem_addPath known _
      · have room : ¬ SPARSE_PATH_HEAD_CAP ≤ selected.length := by omega
        simp [addPath, there, room, known]
    · exact ih asked (by omega) ⟨distinct, inside, few⟩

theorem exists_head_of_authorityClass {resume : Resumed} {row : MemoryRow}
    (heads : ∀ item ∈ resume.pathHeads, item.stoneHash.length = 64)
    (hash : row.stoneHash.length = 64) (current : authorityClass resume row = .pathHead)
    : row.path ∈ resume.pathHeads.map (·.path) := by
  unfold authorityClass at current
  split at current
  · cases current
  · split at current
    · next known =>
        obtain ⟨item, mem, same⟩ := mem_map.mp (contains_iff_mem.mp known)
        have parts := append_inj' same (by simp [heads item mem, hash])
        exact mem_map.mpr ⟨item, mem, parts.1⟩
    · cases current

section

variable {env : Env}

theorem total_pointerLe (collates : Collates env)
    : Std.Total (fun a b => pointerLe env a b = true) where
  total a b := by
    have paths := collates.total a.path b.path
    have hashes := collates.total a.stoneHash b.stoneHash
    unfold pointerLe
    cases le : env.localeLe a.path b.path <;> cases le' : env.localeLe b.path a.path <;>
      simp_all

theorem trans_pointerLe (collates : Collates env)
    : IsTrans Vault.Pointer (fun a b => pointerLe env a b = true) where
  trans a b c ab bc := by
    simp only [pointerLe, Bool.and_eq_true, Bool.or_eq_true, Bool.not_eq_true'] at ab bc ⊢
    refine ⟨collates.trans _ _ _ ab.1 bc.1, ?_⟩
    by_cases back : env.localeLe c.path a.path = true
    · have b_a := collates.trans _ _ _ bc.1 back
      have c_b := collates.trans _ _ _ back ab.1
      have first := ab.2.resolve_left (by simp [b_a])
      have second := bc.2.resolve_left (by simp [c_b])
      exact .inr (collates.trans _ _ _ first second)
    · exact .inl (Bool.eq_false_iff.mpr back)

/-- Pointers that compare as different are put in one order, whatever order they come in. -/
theorem canonicalPathHeadPointers_eq {resume : Resumed} {pathHeads : List OrientedHead}
    (collates : Collates env) (distinguished : Distinguished env resume)
    (perm : pathHeads.Perm resume.pathHeads)
    : canonicalPathHeadPointers env pathHeads = canonicalPathHeadPointers env resume.pathHeads := by
  have total := total_pointerLe collates
  have trans := trans_pointerLe collates
  have sorted (pathHeads : List OrientedHead)
      : (canonicalPathHeadPointers env pathHeads).Pairwise (fun a b => pointerLe env a b = true) :=
    pairwise_insertionSort _ _
  have listed {pathHeads : List OrientedHead} {pointer : Vault.Pointer}
      (mem : pointer ∈ canonicalPathHeadPointers env pathHeads)
      : ∃ item ∈ pathHeads, item.pointer = pointer :=
    mem_map.mp ((perm_insertionSort _ _).mem_iff.mp mem)
  refine List.Perm.eq_of_pairwise (fun a b left right le le' => ?_) (sorted _) (sorted _)
    ((perm_insertionSort _ _).trans
      ((perm.map _).trans (perm_insertionSort _ _).symm))
  obtain ⟨item, mem, rfl⟩ := listed left
  obtain ⟨item', mem', rfl⟩ := listed right
  exact distinguished item (perm.mem_iff.mp mem) item' mem' le le'

variable {request : BootstrapRequest} {resume : Resumed} {runtimeBrief : Bool}
  {memory : List MemoryRow} {terms : List Text}

theorem selectSparsePaths_spec
    : (selectSparsePaths env request resume runtimeBrief memory terms).Nodup
      ∧ selectSparsePaths env request resume runtimeBrief memory terms
        ⊆ resume.pathHeads.map (·.path)
      ∧ (selectSparsePaths env request resume runtimeBrief memory terms).length
        ≤ SPARSE_PATH_HEAD_CAP :=
  foldl_addPath_spec ⟨nodup_nil, nil_subset _, zero_le _⟩

theorem mem_selectSparsePaths (few : memory.length ≤ 15)
    (there : path ∈ resume.pathHeads.map (·.path))
    (asked : some path ∈ mandatoryPaths request resume runtimeBrief memory)
    : path ∈ selectSparsePaths env request resume runtimeBrief memory terms := by
  unfold selectSparsePaths
  rw [foldl_append]
  refine mem_foldl_addPath (mem_foldl_of_early there asked ?_
    ⟨nodup_nil, nil_subset _, zero_le _⟩)
  simp only [mandatoryPaths, length_cons, length_map, length_nil,
    SPARSE_PATH_HEAD_CAP]
  omega

variable (env request resume runtimeBrief memory terms)

end

def headStone (path : Text) : Vault.StoneRow where
  hash := List.replicate 64 0x61
  title := text "Operating state"
  author := text "owner"
  createdAt := text "2026-01-01T00:00:00.000Z"
  repo := none
  commitSha := none
  parentHash := none
  chainHash := some (text "project")
  rawKey := text "raw"
  stoneJson := .null
  path := some path

def headOf (path : Text) : OrientedHead where
  path := path
  stoneHash := List.replicate 64 0x62
  repo := none
  commitSha := none
  updatedAt := text "2026-01-01T00:00:00.000Z"

/-- A chain whose operating guide is accepted. -/
def guided : Resumed :=
  .full (text "project") (headStone (text "README.md")) [headOf DEFAULT_INSTRUCTIONS_PATH] [] []

/-- A request by the instructions of a chain. -/
def instructedBy (chain : Text) : BootstrapRequest :=
  { chain := text "project", instructionsChain := chain, sparse := true }

def guideRow : MemoryRow where
  path := DEFAULT_INSTRUCTIONS_PATH
  stoneHash := List.replicate 64 0x62

/-- An `e` with a combining acute accent, as the one unit that it compares as equal to -/
def composed : Text → Text
  | 0x65 :: 0x301 :: s => 0xE9 :: composed s
  | u :: s => u :: composed s
  | [] => []

/-- A `localeCompare` to which canonically equivalent texts are equal. -/
def accentedEnv : Env :=
  { quietEnv with localeLe := fun a b => composed a ≤ composed b }

end CairnStone.Bootstrap
