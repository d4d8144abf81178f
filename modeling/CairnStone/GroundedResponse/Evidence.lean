import CairnStone.Data.Lookup
import CairnStone.Data.Newest
import CairnStone.GroundedResponse.Scope

/-! Evidence of a grounded answer: the orientation of each chain head of a scope, and what a search of the
scope expands, each with the authority it had when it was found.
-/

namespace CairnStone.GroundedResponse

open JavaScript Data List Except Prod ScopeSnapshot
open TaskRuns (Refusal refuse)
open Vault (Tables StoneRow Env splitLines joinLines isTermUnit STOP_WORDS)

/-- What accepted a stone when it was found. -/
inductive AuthorityClass where
  | chainHead
  | pathHead
  | historical
  deriving DecidableEq

def AuthorityClass.text : AuthorityClass → Text
  | .chainHead => JavaScript.text "CHAIN_HEAD"
  | .pathHead => JavaScript.text "PATH_HEAD"
  | .historical => JavaScript.text "HISTORICAL"

/-- `authority_rank` -/
def AuthorityClass.rank : AuthorityClass → Nat
  | .chainHead => 0
  | .pathHead => 1
  | .historical => 2

structure Evidence where
  stoneHash : Text
  refId : Option Text
  chain : Text
  (repo path commitSha : Option Text)
  authorityClass : AuthorityClass
  lines : Option (Nat × Nat)
  text : Text
  orientationOnly : Bool

structure Hit where
  (refId stoneHash chain path : Text)
  (repo commitSha : Option Text)
  score : ℚ

structure Candidate where
  hit : Hit
  chain : Text
  authorityClass : AuthorityClass
  chainRank : Nat

/-- What is outside the code: the full-text index with its rows in the order of their scores, the decoding
of the first bytes of a text, and the model with what is made of its answer.
-/
structure Host where
  hits : Tables → (query expression chain : Text) → (repos : List Text) → (limit : Nat) → List Hit
  decodedStart : (bytes : Nat) → Text → Text
  skeleton : (model prompt : Text) → (maxTokens : Int) → List Evidence → Except Refusal Value

inductive MatchMode where
  | any
  | all
  | phrase
  deriving DecidableEq

def MatchMode.ofValue (value : Value) : MatchMode :=
  if value.strictEquals (.string (text "all")) then .all
  else if value.strictEquals (.string (text "phrase")) then .phrase
  else .any

structure SearchOptions where
  (topK perChainK maxTotalCandidates : Nat)
  matchMode : MatchMode
  (maxExpansions maxExpandedBytes contextLines : Nat)

variable (env : Env)

def clampInteger (value : Value) (fallback least most : Int) : Int :=
  match env.toNumber value with
  | .finite x =>
    let truncated := if x.negative then -⌊x.magnitude⌋ else ⌊x.magnitude⌋
    max least (min most truncated)
  | _ => fallback

def searchOptions (args : Value) : SearchOptions where
  topK := (clampInteger env (args.get (text "top_k")) 12 1 20).toNat
  perChainK := (clampInteger env (args.get (text "per_chain_k")) 4 1 10).toNat
  maxTotalCandidates := (clampInteger env (args.get (text "max_total_candidates")) 120 1 250).toNat
  matchMode := .ofValue (args.get (text "match_mode"))
  maxExpansions := (clampInteger env (args.get (text "max_expansions")) 8 1 10).toNat
  maxExpandedBytes := (clampInteger env (args.get (text "max_expanded_bytes")) 30000 1 60000).toNat
  contextLines := (clampInteger env (args.get (text "context_lines")) 12 0 100).toNat

def quoted (s : Text) : Text :=
  text "\"" ++ s.flatMap (fun u => if u = 0x22 then [u, u] else [u]) ++ text "\""

def tokenizeScopeQuery (query : Text) : List Text :=
  distinct id
    ((((env.toLowerCase query).splitOnP (fun u => !isTermUnit u)).filter (fun run =>
      2 ≤ run.length)).filter (· ∉ STOP_WORDS))

def buildScopeMatchExpr (query : Text) (mode : MatchMode) : Except Refusal Text :=
  let enclosed := decide (2 < query.length) && query.head? == some 0x22 && query.getLast? == some 0x22
  if enclosed || mode == .phrase then
    let phrase := trim (if enclosed then query.tail.dropLast else query)
    if phrase = [] then .error (refuse "empty_query_terms") else .ok (quoted phrase)
  else
    let terms := tokenizeScopeQuery env query
    if terms = [] then .error (refuse "empty_query_terms")
    else if mode = .all then .ok ((text " AND ").intercalate (terms.map quoted))
    else .ok ((text " OR ").intercalate (terms.map quoted))

/-- A query of a create call, in the order in which they are made. -/
inductive Read where
  | initial (read : ScopeRead)
  | search (read : ScopeRead)
  | hits (chain : Text)
  | pathHead (hit : Text)
  | expansion (hit : Text)
  | finalHead (chain : Text)
  | orientation (chain : Text)
  | preModel (chain : Text)
  | postModel (chain : Text)

def ScopeSnapshot.headOf (snapshot : ScopeSnapshot) (chain : Text) : Option Text :=
  (snapshot.chains.find? (·.chain == chain)).bind (·.headHash)

def scopeAuthorityClass (tables : Tables) (hit : Hit) (chainHeadHash : Option Text) : AuthorityClass :=
  if chainHeadHash = some hit.stoneHash then .chainHead
  else if tables.headAt (.path hit.chain hit.path) = some hit.stoneHash then .pathHead
  else .historical

/-- `a.localeCompare(b)` of one pair of texts after the other, the first that differs -/
def localesLe (localeLe : Text → Text → Bool) : List (Text × Text) → Bool
  | [] => true
  | (a, b) :: rest =>
    if localeLe a b && localeLe b a then localesLe localeLe rest else localeLe a b

/-- `scopeCandidateCompare(a, b)` -/
def candidateLe (localeLe : Text → Text → Bool) (a b : Candidate) : Bool :=
  if a.chainRank ≠ b.chainRank then a.chainRank < b.chainRank
  else if a.authorityClass.rank ≠ b.authorityClass.rank then
    a.authorityClass.rank < b.authorityClass.rank
  else if a.hit.score ≠ b.hit.score then a.hit.score < b.hit.score
  else
    localesLe localeLe
      [(a.chain, b.chain), (a.hit.stoneHash, b.hit.stoneHash), (a.hit.refId, b.hit.refId)]

variable (host : Host) (moment : Read → Tables)

def repoFiltersForChain (request : ScopeRequest) (chain : Text) : List Text :=
  match request.mode with
  | .repo => request.repos
  | .multi => if chain ∈ request.chains then [] else request.repos
  | _ => []

def chainCandidates (request : ScopeRequest) (snapshot : ScopeSnapshot) (query expression : Text)
    (limit : Nat) (chain : Text)
    : List Candidate :=
  (host.hits (moment (.hits chain)) query expression chain (repoFiltersForChain request chain)
      limit).mapIdx (fun index hit =>
    { hit, chain
      authorityClass :=
        scopeAuthorityClass (moment (.pathHead hit.refId)) hit (snapshot.headOf chain)
      chainRank := index + 1 })

/-- What an expansion gives: an item, the bytes it takes, and whether some are left out. -/
structure Expanded where
  item : Evidence
  bytes : Nat
  truncated : Bool

def expandScopeCandidate (candidate : Candidate) (contextLines maxBytes : Nat)
    : Except Refusal Expanded :=
  let tables := moment (.expansion candidate.hit.refId)
  match tables.refs.find? (·.refId == candidate.hit.refId) with
  | none => .error (refuse "ref_not_found")
  | some ref =>
    match tables.rawAt ref.rawKey with
    | none => .error (refuse "raw_not_found")
    | some raw =>
      let lines := splitLines raw
      let start := max 1 (ref.lineStart - contextLines)
      let final := min lines.length (ref.lineEnd + contextLines)
      let full := joinLines ((lines.take final).drop (start - 1))
      let bytes := utf8ByteLength full
      .ok
        { item :=
            { stoneHash := candidate.hit.stoneHash
              refId := some candidate.hit.refId
              chain := candidate.chain
              repo := candidate.hit.repo.filter (· != [])
              path := some candidate.hit.path |>.filter (· != [])
              commitSha := candidate.hit.commitSha.filter (· != [])
              authorityClass := candidate.authorityClass
              lines := some (start, final)
              text := host.decodedStart maxBytes full
              orientationOnly := false }
          bytes := min bytes maxBytes
          truncated := decide (maxBytes < bytes) }

def expandMatches (contextLines : Nat) : (room : Nat) → List Candidate
    → Except Refusal (List Evidence × Bool)
  | _, [] => .ok ([], false)
  | room, candidate :: rest =>
    if room = 0 then .ok ([], true)
    else
      match expandScopeCandidate host moment candidate contextLines room with
      | .error refusal => .error refusal
      | .ok expanded =>
        if expanded.truncated then .ok ([expanded.item], true)
        else
          match expandMatches contextLines (room - expanded.bytes) rest with
          | .error refusal => .error refusal
          | .ok (items, cut) => .ok (expanded.item :: items, cut)

def movedChain (found : Text → Tables) (snapshot : ScopeSnapshot) : Option ChainHead :=
  snapshot.chains.find? (fun item => headOf (found item.chain) item.chain != item.headHash)

structure Searched where
  snapshot : ScopeSnapshot
  expanded : List Evidence
  complete : Bool

def findScopeFromBody (query : Text) (scope : Value) (options : SearchOptions)
    : Except Refusal Searched := do
  let expression ← buildScopeMatchExpr env query options.matchMode
  let request ← normalizeScopeRequest scope
  let snapshot ← resolveScope env (fun read => moment (.search read)) request
  let allChains := snapshot.chains.map (·.chain)
  let queried := allChains.take options.maxTotalCandidates
  let perChain :=
    max 1 (min options.perChainK (options.maxTotalCandidates / max 1 queried.length))
  let found := queried.map (chainCandidates host moment request snapshot query expression perChain)
  let matches' :=
    (found.flatten.insertionSort (fun a b => candidateLe env.localeLe a b)).take options.topK
  let (expanded, cut) ←
    expandMatches host moment options.contextLines options.maxExpandedBytes
      (matches'.take options.maxExpansions)
  match movedChain (fun chain => moment (.finalHead chain)) snapshot with
  | some item => .error (scopeCompileRace item.chain)
  | none =>
    let scopeTruncated := snapshot.coverage.any (·.truncated)
    let limitReached := found.any (fun rows => decide (perChain ≤ rows.length))
    let expansionTruncated :=
      cut || (decide (expanded.length < matches'.length)
        && decide (options.maxExpansions ≤ expanded.length))
    .ok
      { snapshot, expanded
        complete :=
          !scopeTruncated && decide (allChains.length ≤ queried.length) && !limitReached
            && !expansionTruncated }

variable {env} {host} {moment} {request : ScopeRequest} {snapshot : ScopeSnapshot} {item : Evidence}

def ScopeSnapshot.Heads (snapshot : ScopeSnapshot) (item : Evidence) : Prop :=
  { chain := item.chain, headHash := some item.stoneHash } ∈ snapshot.chains

theorem ScopeSnapshot.mem_of_headOf {chain head : Text} (found : snapshot.headOf chain = some head)
    : { chain, headHash := some head } ∈ snapshot.chains := by
  unfold headOf at found
  obtain ⟨named, located, headed⟩ := Option.bind_eq_some_iff.mp found
  have same := find?_some located
  rw [beq_iff_eq] at same
  rw [← same, ← headed]
  exact mem_of_find?_eq_some located

theorem headOf_of_mem_chainCandidates {query expression chain : Text} {limit : Nat}
    {cand : Candidate}
    (mem
      : cand ∈ chainCandidates host moment request snapshot query expression limit chain)
    (class' : cand.authorityClass = .chainHead)
    : snapshot.headOf cand.chain = some cand.hit.stoneHash := by
  unfold chainCandidates at mem
  obtain ⟨index, bound, rfl⟩ := mem_mapIdx.mp mem
  simp only [scopeAuthorityClass] at class'
  split at class'
  · assumption
  · split at class'
    · cases class'
    · cases class'

/-- What is expanded keeps the chain, the stone and the authority of a candidate. Witness: induction on
the candidates.
-/
theorem exists_of_mem_expandMatches {contextLines room : Nat} {candidates : List Candidate}
    {items : List Evidence} {cut : Bool}
    (done : expandMatches host moment contextLines room candidates = .ok (items, cut))
    (mem : item ∈ items)
    : ∃ cand ∈ candidates, item.chain = cand.chain
      ∧ item.stoneHash = cand.hit.stoneHash
      ∧ item.authorityClass = cand.authorityClass := by
  induction candidates generalizing room items cut with
  | nil =>
    obtain ⟨rfl, _⟩ := mk.inj (ok.inj done)
    cases mem
  | cons cand rest ih =>
    have traced {room : Nat} {expanded : Expanded}
        (found : expandScopeCandidate host moment cand contextLines room = .ok expanded)
        : expanded.item.chain = cand.chain
          ∧ expanded.item.stoneHash = cand.hit.stoneHash
          ∧ expanded.item.authorityClass = cand.authorityClass := by
      unfold expandScopeCandidate at found
      extract_lets tables at found
      split at found
      · cases found
      · split at found
        · cases found
        · cases found
          exact ⟨rfl, rfl, rfl⟩
    unfold expandMatches at done
    split at done
    · obtain ⟨rfl, _⟩ := mk.inj (ok.inj done)
      cases mem
    · split at done
      · cases done
      · rename_i expanded found
        split at done
        · obtain ⟨rfl, _⟩ := mk.inj (ok.inj done)
          cases mem_singleton.mp mem
          exact ⟨cand, .head _, traced found⟩
        · split at done
          · cases done
          · rename_i later _ more
            obtain ⟨rfl, _⟩ := mk.inj (ok.inj done)
            rcases mem_cons.mp mem with rfl | deeper
            · exact ⟨cand, .head _, traced found⟩
            · obtain ⟨other, here, same⟩ := ih more deeper
              exact ⟨other, .tail _ here, same⟩

theorem exists_of_findScope {query : Text} {scope : Value} {options : SearchOptions}
    {searched : Searched}
    (done : findScopeFromBody env host moment query scope options = .ok searched)
    : ∃ request, normalizeScopeRequest scope = .ok request
      ∧ resolveScope env (fun read => moment (.search read)) request = .ok searched.snapshot
      ∧ ∀ item ∈ searched.expanded,
          item.authorityClass = .chainHead → searched.snapshot.Heads item := by
  unfold findScopeFromBody at done
  obtain ⟨expression, _, done⟩ := bind_eq_ok.mp done
  obtain ⟨request, requested, done⟩ := bind_eq_ok.mp done
  obtain ⟨snapshot, got, done⟩ := bind_eq_ok.mp done
  extract_lets allChains queried perChain found matches' at done
  obtain ⟨⟨expanded, cut⟩, expands, done⟩ := bind_eq_ok.mp done
  simp only [] at done
  split at done
  · cases done
  · cases done
    refine ⟨request, requested, got, fun item mem class' => ?_⟩
    obtain ⟨cand, here, chain, stone, same⟩ := exists_of_mem_expandMatches expands mem
    have sorted := mem_of_mem_take (mem_of_mem_take here)
    rw [mem_insertionSort] at sorted
    obtain ⟨rows, listed, inside⟩ := mem_flatten.mp sorted
    obtain ⟨queriedChain, _, rfl⟩ := mem_map.mp listed
    have headed := headOf_of_mem_chainCandidates inside (same.symm.trans class')
    unfold Heads
    rw [chain, stone]
    exact mem_of_headOf headed

end CairnStone.GroundedResponse
