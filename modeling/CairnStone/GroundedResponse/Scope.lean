import CairnStone.TaskRuns.Executors
import CairnStone.Vault.Statements

/-! Scopes: the chains that a scope request takes part in, and the snapshot of their heads that an answer
is bound to.
-/

namespace CairnStone.GroundedResponse

open JavaScript Data List Bool
open TaskRuns (Refusal refuse)
open Vault (Tables StoneRow ChainHeadRow Env)

variable {chain : Text}

inductive ScopeMode where
  | singleChain
  | repo
  | multi
  | vault
  deriving DecidableEq

def ScopeMode.text : ScopeMode → Text
  | .singleChain => JavaScript.text "single_chain"
  | .repo => JavaScript.text "repo"
  | .multi => JavaScript.text "multi"
  | .vault => JavaScript.text "vault"

def SCOPE_MODES : List ScopeMode :=
  [.singleChain, .repo, .multi, .vault]

def DEFAULT_VAULT_MAX_CHAINS : Int := 100

def MAX_VAULT_MAX_CHAINS : Int := 500

def SCOPE_REQUEST_SCHEMA : Text := text "cairnstone-scope-v1"

structure ScopeRequest where
  mode : ScopeMode
  (repos chains : List Text)
  maxChains : Nat
  deriving DecidableEq

def sortedTexts (texts : List Text) : List Text :=
  texts.eraseDups.insertionSort (fun a b => a ≤ b)

def dedupSortStrings (list : Value) : List Text :=
  match list with
  | .array slots =>
    sortedTexts
      (slots.filterMap (fun slot =>
        match slot with
        | some (.string s) => if s = [] then none else some s
        | _ => none))
  | _ => []

/-- `Number.isFinite(value) ? Math.trunc(value) : fallback`, within bounds -/
def clampTruncated (value : Value) (fallback most : Int) : Nat :=
  match value with
  | .number (.finite x) =>
    let truncated := if x.negative then -⌊x.magnitude⌋ else ⌊x.magnitude⌋
    (max 1 (min most truncated)).toNat
  | _ => (max 1 (min most fallback)).toNat

def normalizeScopeRequest (body : Value) : Except Refusal ScopeRequest :=
  match SCOPE_MODES.find? (fun mode => (body.get (text "mode")).strictEquals (.string mode.text)) with
  | none => .error (refuse "invalid_scope_mode")
  | some mode =>
    .ok
      { mode
        repos := dedupSortStrings (body.get (text "repos"))
        chains := dedupSortStrings (body.get (text "chains"))
        maxChains :=
          clampTruncated (body.get (text "max_chains")) DEFAULT_VAULT_MAX_CHAINS
            MAX_VAULT_MAX_CHAINS }

def chainExists (tables : Tables) (chain : Text) : Bool :=
  (tables.chainHead chain).isSome || tables.stones.any (·.chainHash == some chain)

def chainsForRepo (tables : Tables) (repo : Text) : List Text :=
  ((tables.stones.filter (·.repo == some repo)).filterMap (·.chainHash)).eraseDups.insertionSort
    (fun a b => binaryLe a b)

/-- The chains of `listAllKnownChains(env)`: those with a head, and those with stones. -/
def knownChains (tables : Tables) : List Text :=
  sortedTexts (tables.chainHeads.map (·.chain) ++ tables.stones.filterMap (·.chainHash))

/-- The chains that take part in a scope. `fullCount` is given for the whole vault only. -/
structure Resolution where
  resolved : List Text
  truncated : Bool
  fullCount : Option Nat

def chainNotFound (chain : Text) : Refusal where
  error := text "chain_not_found"
  details := [(text "chain", .string chain)]

def repoNotFound (repo : Text) : Refusal where
  error := text "repo_not_found"
  details := [(text "repo", .string repo)]

/-- A query of a resolution. -/
inductive ScopeRead where
  | chainExists (chain : Text)
  | chainsForRepo (repo : Text)
  | knownChains
  | firstHead (chain : Text)
  | secondHead (chain : Text)

abbrev Moments :=
  ScopeRead → Tables

def Moments.knows (moment : Moments) (chain : Text) : Bool :=
  chainExists (moment (.chainExists chain)) chain

def Moments.chainsOf (moment : Moments) (repo : Text) : List Text :=
  chainsForRepo (moment (.chainsForRepo repo)) repo

def resolveChainSet (moment : Moments) (request : ScopeRequest) : Except Refusal Resolution :=
  match request.mode with
  | .singleChain =>
    match request.chains with
    | [chain] =>
      if moment.knows chain then .ok { resolved := [chain], truncated := false, fullCount := none }
      else .error (chainNotFound chain)
    | _ => .error (refuse "single_chain_requires_exactly_one_chain")
  | .repo =>
    match request.repos with
    | [repo] =>
      if moment.chainsOf repo = [] then .error (repoNotFound repo)
      else
        .ok { resolved := sortedTexts (moment.chainsOf repo), truncated := false, fullCount := none }
    | _ => .error (refuse "repo_mode_requires_exactly_one_repo")
  | .multi =>
    if request.repos = [] ∧ request.chains = [] then
      .error (refuse "multi_requires_repos_or_chains")
    else
      match request.chains.find? (fun chain => !moment.knows chain) with
      | some chain => .error (chainNotFound chain)
      | none =>
        match request.repos.find? (fun repo => (moment.chainsOf repo).isEmpty) with
        | some repo => .error (repoNotFound repo)
        | none =>
          .ok
            { resolved := sortedTexts (request.chains ++ request.repos.flatMap moment.chainsOf)
              truncated := false
              fullCount := none }
  | .vault =>
    let names := knownChains (moment .knownChains)
    .ok
      { resolved := names.take request.maxChains
        truncated := decide (request.maxChains < names.length)
        fullCount := some names.length }

structure ChainHead where
  chain : Text
  headHash : Option Text
  deriving DecidableEq

def headOf (tables : Tables) (chain : Text) : Option Text :=
  ((tables.chainHead chain).map (·.headHash)).filter (· != [])

def readHeadsSnapshot (found : Text → Tables) (chains : List Text) : List ChainHead :=
  chains.map (fun chain => { chain, headHash := headOf (found chain) chain })

/-- How much of the vault takes part. -/
structure ScopeCoverage where
  truncated : Bool
  (resolvedCount fullCount maxChains : Nat)

structure ScopeSnapshot where
  mode : ScopeMode
  chains : List ChainHead
  (scopeId authorityDigest : Text)
  coverage : Option ScopeCoverage

def textArray (texts : List Text) : Value :=
  .array (texts.map (fun s => some (.string s)))

def selectorPayload (request : ScopeRequest) (resolved : List Text) : Value :=
  .literal
    [(text "schema", .string SCOPE_REQUEST_SCHEMA), (text "mode", .string request.mode.text),
      (text "repos", textArray request.repos), (text "chains", textArray request.chains),
      (text "resolved_chains", textArray resolved)]

def authorityPayload (localeLe : Text → Text → Bool) (chains : List ChainHead) : Value :=
  .array
    ((chains.insertionSort (fun a b => localeLe a.chain b.chain)).map (fun item =>
      some
        (.literal
          [(text "chain", .string item.chain), (text "head_hash", .ofOption item.headHash)])))

/-- `"sha256:" + await sha256Text(stableJson(payload))` -/
def digestOf (env : Env) (payload : Value) : Text :=
  text "sha256:" ++ env.sha256 (stableJson payload)

def snapshotOf (env : Env) (request : ScopeRequest) (resolution : Resolution)
    (chains : List ChainHead)
    : ScopeSnapshot where
  mode := request.mode
  chains
  scopeId := digestOf env (selectorPayload request resolution.resolved)
  authorityDigest := digestOf env (authorityPayload env.localeLe chains)
  coverage :=
    resolution.fullCount.map (fun fullCount =>
      { truncated := resolution.truncated
        resolvedCount := resolution.resolved.length
        fullCount
        maxChains := request.maxChains })

def scopeCompileRace (chain : Text) : Refusal where
  error := text "scope_compile_race"
  details := [(text "chain", .string chain)]

/-- `resolveScopeFromBody(body, env)` of a normalized request. Normalizing it again changes nothing. -/
def resolveScope (env : Env) (moment : Moments) (request : ScopeRequest)
    : Except Refusal ScopeSnapshot :=
  match resolveChainSet moment request with
  | .error refusal => .error refusal
  | .ok resolution =>
    let first := readHeadsSnapshot (fun chain => moment (.firstHead chain)) resolution.resolved
    let second := readHeadsSnapshot (fun chain => moment (.secondHead chain)) resolution.resolved
    if resolution.resolved = [] then .error (refuse "scope_resolves_no_chains")
    else
      match (first.zip second).find? (fun pair => pair.1.headHash != pair.2.headHash) with
      | some pair => .error (scopeCompileRace pair.1.chain)
      | none => .ok (snapshotOf env request resolution second)

def resolveScopeFromBody (env : Env) (moment : Moments) (body : Value)
    : Except Refusal ScopeSnapshot :=
  match normalizeScopeRequest body with
  | .error refusal => .error refusal
  | .ok request => resolveScope env moment request

def sameAuthoritySnapshot (left right : ScopeSnapshot) : Bool :=
  left.scopeId == right.scopeId && left.authorityDigest == right.authorityDigest
  && left.chains == right.chains

variable {env : Env} {request : ScopeRequest} {snapshot : ScopeSnapshot}

theorem exists_of_resolveScope {moment : Moments}
    (resolved : resolveScope env moment request = .ok snapshot)
    : ∃ got, resolveChainSet moment request = .ok got
      ∧ got.resolved ≠ []
      ∧ snapshot
        = snapshotOf env request got
            (readHeadsSnapshot (fun chain => moment (.secondHead chain)) got.resolved) := by
  unfold resolveScope at resolved
  split at resolved
  · cases resolved
  · rename_i got found
    extract_lets first second at resolved
    split at resolved
    · cases resolved
    · rename_i some'
      split at resolved
      · cases resolved
      · exact ⟨got, found, some', (Except.ok.inj resolved).symm⟩

theorem resolveScope_instant {tables : Tables} {got : Resolution}
    (found : resolveChainSet (fun _ => tables) request = .ok got)
    (some' : got.resolved ≠ [])
    : resolveScope env (fun _ => tables) request
      = .ok
          (snapshotOf env request got (readHeadsSnapshot (fun _ => tables) got.resolved)) := by
  have settled (heads : List ChainHead)
      : (heads.zip heads).find? (fun pair => pair.1.headHash != pair.2.headHash) = none := by
    rw [find?_eq_none]
    intro pair mem
    rw [zip_eq_zipWith, zipWith_self, mem_map] at mem
    obtain ⟨head, _, rfl⟩ := mem
    simp
  unfold resolveScope
  simp only [found, some', if_false, settled]

theorem map_chain_readHeadsSnapshot (found : Text → Tables) (chains : List Text)
    : (readHeadsSnapshot found chains).map (·.chain) = chains := by
  unfold readHeadsSnapshot
  rw [map_map]
  exact map_id' chains

theorem sameAuthoritySnapshot_iff {left right : Resolution} {heads heads' : List ChainHead}
    (leftChains : heads.map (·.chain) = left.resolved)
    (rightChains : heads'.map (·.chain) = right.resolved)
    : sameAuthoritySnapshot (snapshotOf env request left heads) (snapshotOf env request right heads')
        = true
      ↔ heads = heads' := by
  unfold sameAuthoritySnapshot snapshotOf
  simp only [and_eq_true, beq_iff_eq]
  constructor
  · exact fun same => same.2
  · rintro rfl
    rw [← leftChains, ← rightChains]
    exact ⟨⟨rfl, rfl⟩, rfl⟩

structure Continues (before after : Tables) : Prop where
  stones : before.stones <+: after.stones
  heads : ∀ chain, (before.chainHead chain).isSome = true → (after.chainHead chain).isSome = true

theorem Continues.refl (tables : Tables) : Continues tables tables :=
  ⟨prefix_refl _, fun _ headed => headed⟩

theorem Continues.trans {a b c : Tables} (first : Continues a b) (second : Continues b c)
    : Continues a c :=
  ⟨first.stones.trans second.stones, fun chain headed =>
    second.heads chain (first.heads chain headed)⟩

variable {before after : Tables}

theorem Continues.chainExists (goes : Continues before after)
    (here : chainExists before chain = true)
    : GroundedResponse.chainExists after chain = true := by
  unfold GroundedResponse.chainExists at here ⊢
  rw [or_eq_true] at here ⊢
  refine here.imp (goes.heads chain) (fun stoned => ?_)
  obtain ⟨stone, mem, named⟩ := any_eq_true.mp stoned
  exact any_eq_true.mpr ⟨stone, goes.stones.subset mem, named⟩

theorem mem_chainsForRepo {tables : Tables} {repo : Text}
    : chain ∈ chainsForRepo tables repo
      ↔ ∃ stone ∈ tables.stones, stone.repo = some repo ∧ stone.chainHash = some chain := by
  unfold chainsForRepo
  rw [mem_insertionSort, mem_eraseDups, mem_filterMap]
  constructor
  · rintro ⟨stone, picked, named⟩
    obtain ⟨mem, matched⟩ := mem_filter.mp picked
    exact ⟨stone, mem, beq_iff_eq.mp matched, named⟩
  · rintro ⟨stone, mem, matched, named⟩
    exact ⟨stone, mem_filter.mpr ⟨mem, beq_iff_eq.mpr matched⟩, named⟩

theorem Continues.chainsForRepo (goes : Continues before after) {repo : Text}
    (some' : chainsForRepo before repo ≠ [])
    : GroundedResponse.chainsForRepo after repo ≠ [] := by
  obtain ⟨chain, mem⟩ := exists_mem_of_ne_nil _ some'
  obtain ⟨stone, here, source, named⟩ := mem_chainsForRepo.mp mem
  exact ne_nil_of_mem
    (mem_chainsForRepo.mpr ⟨stone, goes.stones.subset here, source, named⟩)

theorem mem_sortedTexts {texts : List Text} {s : Text} : s ∈ sortedTexts texts ↔ s ∈ texts := by
  unfold sortedTexts
  rw [mem_insertionSort, mem_eraseDups]

theorem sortedTexts_ne_nil {texts : List Text} : sortedTexts texts ≠ [] ↔ texts ≠ [] := by
  constructor
  · intro some' none
    subst none
    exact some' rfl
  · intro some'
    obtain ⟨s, mem⟩ := exists_mem_of_ne_nil _ some'
    exact ne_nil_of_mem (mem_sortedTexts.mpr mem)

theorem Continues.knownChains (goes : Continues before after)
    (mem : chain ∈ knownChains before)
    : chain ∈ GroundedResponse.knownChains after := by
  unfold GroundedResponse.knownChains at mem ⊢
  rw [mem_sortedTexts, mem_append] at mem ⊢
  rcases mem with headed | stoned
  · obtain ⟨row, here, rfl⟩ := mem_map.mp headed
    have found : (before.chainHead row.chain).isSome = true := by
      unfold Tables.chainHead
      rw [find?_isSome]
      exact ⟨row, here, beq_self_eq_true _⟩
    obtain ⟨row', found'⟩ := Option.isSome_iff_exists.mp (goes.heads row.chain found)
    unfold Tables.chainHead at found'
    have named := find?_some found'
    rw [beq_iff_eq] at named
    exact .inl (mem_map.mpr ⟨row', mem_of_find?_eq_some found', named⟩)
  · obtain ⟨stone, here, named⟩ := mem_filterMap.mp stoned
    exact .inr (mem_filterMap.mpr ⟨stone, goes.stones.subset here, named⟩)

/-- A request that resolved to chains resolves to chains later. Witness: its chains and repositories stay
known. Case analysis on the mode.
-/
theorem resolveChainSet_of_continues {moment later : Moments} {got : Resolution}
    (goes : ∀ read, Continues (moment read) (later read)) (bounded : 0 < request.maxChains)
    (found : resolveChainSet moment request = .ok got) (some' : got.resolved ≠ [])
    : ∃ resolution', resolveChainSet later request = .ok resolution' ∧ resolution'.resolved ≠ [] := by
  have known {chain : Text} (here : moment.knows chain = true) : later.knows chain = true :=
    (goes (.chainExists chain)).chainExists here
  have sourced {repo : Text} (here : moment.chainsOf repo ≠ []) : later.chainsOf repo ≠ [] :=
    (goes (.chainsForRepo repo)).chainsForRepo here
  unfold resolveChainSet at found ⊢
  cases mode : request.mode with
  | singleChain =>
    simp only [mode] at found ⊢
    split at found
    · split at found
      · rename_i here
        rw [if_pos (known here)]
        exact ⟨_, rfl, cons_ne_nil _ _⟩
      · cases found
    · cases found
  | repo =>
    simp only [mode] at found ⊢
    split at found
    · split at found
      · cases found
      · rename_i here
        rw [if_neg (sourced here)]
        exact ⟨_, rfl, sortedTexts_ne_nil.mpr (sourced here)⟩
    · cases found
  | multi =>
    simp only [mode] at found ⊢
    split at found
    · cases found
    · rename_i requested
      split at found
      · cases found
      · rename_i allKnown
        split at found
        · cases found
        · rename_i allSourced
          have allKnown' : request.chains.find? (fun chain => !later.knows chain) = none := by
            rw [find?_eq_none] at allKnown ⊢
            intro chain mem unknown
            have here := allKnown chain mem
            rw [not_eq_true'] at unknown
            rw [not_eq_true, not_eq_false'] at here
            rw [known here] at unknown
            cases unknown
          have allSourced' : request.repos.find? (fun repo => (later.chainsOf repo).isEmpty) = none := by
            rw [find?_eq_none] at allSourced ⊢
            intro repo mem none
            have here := allSourced repo mem
            rw [List.isEmpty_iff] at none here
            exact sourced here none
          rw [if_neg requested, allKnown', allSourced']
          refine ⟨_, rfl, sortedTexts_ne_nil.mpr ?_⟩
          cases chains : request.chains with
          | cons chain rest => exact cons_ne_nil _ _
          | nil =>
            obtain ⟨repo, mem⟩ :=
              exists_mem_of_ne_nil request.repos (fun none => requested ⟨none, chains⟩)
            rw [find?_eq_none] at allSourced'
            have here := allSourced' repo mem
            rw [List.isEmpty_iff] at here
            obtain ⟨chain, named⟩ := exists_mem_of_ne_nil _ here
            exact ne_nil_of_mem (mem_flatMap.mpr ⟨repo, mem, named⟩)
  | vault =>
    simp only [mode] at found ⊢
    cases found
    refine ⟨_, rfl, ?_⟩
    obtain ⟨chain, mem⟩ := exists_mem_of_ne_nil _ some'
    have here := (goes .knownChains).knownChains (mem_of_mem_take mem)
    cases names : knownChains (later .knownChains) with
    | nil =>
      rw [names] at here
      cases here
    | cons first rest =>
      obtain ⟨most, pos⟩ := Nat.exists_eq_succ_of_ne_zero bounded.ne'
      rw [pos, take_succ_cons]
      exact cons_ne_nil _ _

end CairnStone.GroundedResponse
