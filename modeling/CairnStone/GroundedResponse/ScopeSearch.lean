import CairnStone.GroundedResponse.Evidence

/-! The search of a scope by itself. Its answer is complete where nothing was cut before the matches were;
that the matches are cut as well is not looked at.
-/

namespace CairnStone.GroundedResponse

open JavaScript Data List Except Bool
open TaskRuns (Refusal refuse)
open Vault (Tables Env)

variable {localeLe : Text → Text → Bool} {chain refId : Text}

/-- The full-text index: the references that satisfy an expression, best score first. A query may throw. -/
structure FullText where
  found : Tables → (expression : Text) → List Hit
  throws : Tables → (expression chain : Text) → Bool
  once : ∀ tables expression, ((found tables expression).map (·.refId)).Nodup

/-- `s.repo IN (…)`, where there are filters -/
def inRepos (repos : List Text) (repo : Option Text) : Bool :=
  repos.isEmpty || repo.any (fun repo => decide (repo ∈ repos))

def FullText.satisfying (index : FullText) (tables : Tables) (expression chain : Text)
    (repos : List Text)
    : List Hit :=
  (index.found tables expression).filter (fun hit => hit.chain == chain && inRepos repos hit.repo)

variable (env : Env)

/-- The references of a chain with the query in their keywords or their preview. `LOWER` changes nothing, as
`LIKE` ignores the case of ASCII letters.
-/
def likeHits (tables : Tables) (query chain : Text) (repos : List Text) : List Hit :=
  let pattern := text "%" ++ (env.toLowerCase query).filter (fun u => u ≠ 0x25 && u ≠ 0x5F) ++ text "%"
  let rows :=
    tables.refs.filterMap (fun ref =>
      ((tables.stoneAt ref.stoneHash).filter (fun stone =>
        (like pattern ref.keywords || like pattern ref.preview) && stone.chainHash == some chain
          && inRepos repos stone.repo)).map (fun stone =>
        { refId := ref.refId, stoneHash := ref.stoneHash, chain, path := ref.path
          repo := stone.repo, commitSha := stone.commitSha, score := 0 }))
  rows.insertionSort (fun a b => binaryLe a.refId b.refId)

def queryScopeChainCandidates (index : FullText) (tables : Tables)
    (query expression chain : Text) (repos : List Text) (limit : Nat)
    : List Hit :=
  if index.throws tables expression chain then (likeHits env tables query chain repos).take limit
  else (index.satisfying tables expression chain repos).take limit

/-- A host whose rows come from the index. -/
def Host.on (host : Host) (index : FullText) : Host :=
  { host with hits := queryScopeChainCandidates env index }

def scopeOptions (args : Value) : SearchOptions where
  topK := (clampInteger env (args.get (text "top_k")) 10 1 50).toNat
  perChainK := (clampInteger env (args.get (text "per_chain_k")) 5 1 25).toNat
  maxTotalCandidates := (clampInteger env (args.get (text "max_total_candidates")) 200 1 500).toNat
  matchMode := .ofValue (args.get (text "match_mode"))
  maxExpansions := (clampInteger env (args.get (text "max_expansions")) 3 0 10).toNat
  maxExpandedBytes := (clampInteger env (args.get (text "max_expanded_bytes")) 20000 1 100000).toNat
  contextLines := (clampInteger env (args.get (text "context_lines")) 20 0 200).toNat

structure ScopeSearch where
  expression : Text
  request : ScopeRequest
  snapshot : ScopeSnapshot
  options : SearchOptions

namespace ScopeSearch

variable (search : ScopeSearch)

def allChains : List Text :=
  search.snapshot.chains.map (·.chain)

def queriedChains : List Text :=
  search.allChains.take search.options.maxTotalCandidates

def effectivePerChain : Nat :=
  max 1
    (min search.options.perChainK
      (search.options.maxTotalCandidates / max 1 search.queriedChains.length))

variable (host : Host) (moment : Read → Tables) (query : Text)

def chainResults : List (List Candidate) :=
  search.queriedChains.map
    (chainCandidates host moment search.request search.snapshot query search.expression
      search.effectivePerChain)

def topMatches : List Candidate :=
  (((search.chainResults host moment query).flatten).insertionSort (fun a b =>
    candidateLe env.localeLe a b)).take search.options.topK

/-- Neither the scope is cut, nor its chains, nor what is read of one. -/
def isWhole : Bool :=
  !search.snapshot.coverage.any (·.truncated)
  && decide (search.allChains.length ≤ search.queriedChains.length)
  && !(search.chainResults host moment query).any (fun rows =>
      decide (search.effectivePerChain ≤ rows.length))

end ScopeSearch

/-- What a search answers. `expanded` is empty where no expansion is asked for. -/
structure ScopeAnswer where
  search : ScopeSearch
  topMatches : List Candidate
  expanded : List Evidence
  complete : Bool

variable (host : Host) (moment : Read → Tables)

/-- `args.expand === true && matches.length && maxExpansions > 0`, and what is expanded then -/
def expandTop (options : SearchOptions) (expand : Bool) (topMatches : List Candidate)
    : Except Refusal (List Evidence × Bool) :=
  if expand && !topMatches.isEmpty && decide (0 < options.maxExpansions) then do
    let (expanded, cut) ←
      expandMatches host moment options.contextLines options.maxExpandedBytes
        (topMatches.take options.maxExpansions)
    .ok
      (expanded,
        cut || (decide (expanded.length < topMatches.length)
          && decide (options.maxExpansions ≤ expanded.length)))
  else .ok ([], false)

def runSearch (search : ScopeSearch) (query : Text) (expand : Bool) : Except Refusal ScopeAnswer := do
  let topMatches := search.topMatches env host moment query
  let (expanded, expansionTruncated) ← expandTop host moment search.options expand topMatches
  match movedChain (fun chain => moment (.finalHead chain)) search.snapshot with
  | some item => .error (scopeCompileRace item.chain)
  | none =>
    .ok
      { search, topMatches, expanded
        complete := search.isWhole host moment query && !expansionTruncated }

/-- The query of a body, trimmed; empty if it is no text. -/
def queryOf (args : Value) : Text :=
  match args.get (text "query") with
  | .string query => trim query
  | _ => []

/-- `findScopeFromBody(body, env)` of any body -/
def findScope (args : Value) : Except Refusal ScopeAnswer :=
  if queryOf args = [] then .error (refuse "missing_query")
  else if !(args.get (text "scope")).isObject then .error (refuse "missing_scope")
  else do
    let options := scopeOptions env args
    let expression ← buildScopeMatchExpr env (queryOf args) options.matchMode
    let request ← normalizeScopeRequest (args.get (text "scope"))
    let snapshot ← resolveScope env (fun read => moment (.search read)) request
    runSearch env host moment { expression, request, snapshot, options } (queryOf args)
      (args.get (text "expand")).isTrue

variable {env host moment}

section

variable {α κ : Type} [LinearOrder κ] (key : α → κ) (rest : α → α → Bool)

def keyLe (a b : α) : Bool :=
  if key a ≠ key b then key a < key b else rest a b

variable {key rest} {a b c : α}

theorem keyLe_total (total : rest a b = true ∨ rest b a = true)
    : keyLe key rest a b = true ∨ keyLe key rest b a = true := by
  unfold keyLe
  rcases lt_trichotomy (key a) (key b) with less | same | greater
  · simp [less.ne, less]
  · simpa [same] using total
  · simp [greater.ne, greater]

theorem keyLe_trans (trans : rest a b = true → rest b c = true → rest a c = true)
    (first : keyLe key rest a b = true) (second : keyLe key rest b c = true)
    : keyLe key rest a c = true := by
  unfold keyLe at first second ⊢
  split at first
  · have less : key a < key b := of_decide_eq_true first
    have later : key b ≤ key c := by
      split at second
      · exact (of_decide_eq_true second).le
      · exact le_of_eq (not_not.mp ‹_›)
    have through := less.trans_le later
    simp [through.ne, through]
  · rename_i same
    rw [not_not.mp same]
    split at second
    · rename_i apart
      rw [if_pos apart]
      exact second
    · rename_i equal
      rw [if_neg equal]
      exact trans first second

end

/-- `localeCompare` orders all texts. -/
structure Orders (localeLe : Text → Text → Bool) : Prop where
  total : ∀ a b, localeLe a b = true ∨ localeLe b a = true
  trans : ∀ a b c, localeLe a b = true → localeLe b c = true → localeLe a c = true

theorem localesLe_total (orders : Orders localeLe) (xs ys : List Text)
    : localesLe localeLe (xs.zip ys) = true ∨ localesLe localeLe (ys.zip xs) = true := by
  induction xs generalizing ys with
  | nil => exact .inl rfl
  | cons x xs ih =>
    cases ys with
    | nil => exact .inl rfl
    | cons y ys =>
      have heads := orders.total x y
      have tails := ih ys
      simp only [zip_cons_cons, localesLe]
      cases first : localeLe x y <;> cases second : localeLe y x <;> simp_all

theorem localesLe_trans (orders : Orders localeLe) {xs ys zs : List Text}
    (same : xs.length = ys.length) (same' : ys.length = zs.length)
    (first : localesLe localeLe (xs.zip ys) = true)
    (second : localesLe localeLe (ys.zip zs) = true)
    : localesLe localeLe (xs.zip zs) = true := by
  induction xs generalizing ys zs with
  | nil => rfl
  | cons x xs ih =>
    obtain ⟨y, ys, rfl⟩ := exists_cons_of_length_eq_add_one same.symm
    obtain ⟨z, zs, rfl⟩ := exists_cons_of_length_eq_add_one same'.symm
    have tails := @ih ys zs (Nat.succ.inj same) (Nat.succ.inj same')
    have through := orders.trans x y z
    have back := orders.trans z y x
    have left := orders.trans z x y
    have right := orders.trans y z x
    simp only [zip_cons_cons, localesLe] at first second ⊢
    cases xy : localeLe x y <;> cases yx : localeLe y x <;> cases yz : localeLe y z
      <;> cases zy : localeLe z y <;> cases zx : localeLe z x <;> simp_all

/-- `scopeCandidateCompare` orders the candidates. -/
theorem candidateLe_eq (localeLe : Text → Text → Bool)
    : candidateLe localeLe
      = keyLe (·.chainRank)
          (keyLe (·.authorityClass.rank)
            (keyLe (·.hit.score) (fun a b =>
              localesLe localeLe
                ([a.chain, a.hit.stoneHash, a.hit.refId].zip
                  [b.chain, b.hit.stoneHash, b.hit.refId])))) :=
  rfl

theorem candidateLe_total (orders : Orders localeLe) (a b : Candidate)
    : candidateLe localeLe a b = true ∨ candidateLe localeLe b a = true := by
  rw [candidateLe_eq]
  exact keyLe_total (keyLe_total (keyLe_total (localesLe_total orders _ _)))

theorem candidateLe_trans (orders : Orders localeLe) {a b c : Candidate}
    (first : candidateLe localeLe a b = true) (second : candidateLe localeLe b c = true)
    : candidateLe localeLe a c = true := by
  rw [candidateLe_eq] at first second ⊢
  refine keyLe_trans (keyLe_trans (keyLe_trans ?_)) first second
  exact localesLe_trans orders rfl rfl

theorem nodup_eraseDups (texts : List Text) : texts.eraseDups.Nodup := by
  induction size : texts.length using Nat.strong_induction_on generalizing texts with
  | _ n ih =>
    cases texts with
    | nil => exact nodup_nil
    | cons first rest =>
      have fewer := length_filter_le (fun other => !other == first) rest
      rw [length_cons] at size
      rw [eraseDups_cons, nodup_cons]
      refine ⟨fun mem => ?_, ih _ (by omega) _ rfl⟩
      rw [mem_eraseDups, mem_filter] at mem
      simp at mem

theorem nodup_sortedTexts (texts : List Text) : (sortedTexts texts).Nodup :=
  (perm_insertionSort _ _).nodup_iff.mpr (nodup_eraseDups texts)

theorem nodup_resolved {moments : Moments} {request : ScopeRequest} {got : Resolution}
    (found : resolveChainSet moments request = .ok got)
    : got.resolved.Nodup := by
  unfold resolveChainSet at found
  split at found
  · split at found
    · split at found
      · cases found
        exact nodup_singleton _
      · cases found
    · cases found
  · split at found
    · split at found
      · cases found
      · cases found
        exact nodup_sortedTexts _
    · cases found
  · split at found
    · cases found
    · split at found
      · cases found
      · split at found
        · cases found
        · cases found
          exact nodup_sortedTexts _
  · cases found
    exact (nodup_sortedTexts _).sublist (take_sublist _ _)

variable {index : FullText} {tables : Tables} {query : Text} {search : ScopeSearch}

def ScopeSearch.Asks (index : FullText) (tables : Tables) (search : ScopeSearch)
    (chain refId : Text)
    : Prop :=
  chain ∈ search.allChains
  ∧ refId ∈ (index.satisfying tables search.expression chain
      (repoFiltersForChain search.request chain)).map (·.refId)

/-- Where the index throws, the search by `LIKE` finds the same references. -/
def LikeAgrees (env : Env) (index : FullText) (tables : Tables) (search : ScopeSearch)
    (query : Text)
    : Prop :=
  ∀ chain ∈ search.allChains, index.throws tables search.expression chain = true →
    ((likeHits env tables query chain (repoFiltersForChain search.request chain)).map (·.refId)).Perm
      ((index.satisfying tables search.expression chain
        (repoFiltersForChain search.request chain)).map (·.refId))

/-- The references that the search of a chain finds are the first of those asked for, in some order. -/
theorem refIds_chainCandidates (host : Host)
    (agrees : LikeAgrees env index tables search query) (known : chain ∈ search.allChains)
    : ∃ refIds : List Text,
        refIds.Perm ((index.satisfying tables search.expression chain
          (repoFiltersForChain search.request chain)).map (·.refId))
        ∧ (chainCandidates (host.on env index) (fun _ => tables) search.request search.snapshot query
            search.expression search.effectivePerChain chain).map (·.hit.refId)
          = refIds.take search.effectivePerChain := by
  have hits {rows : List Hit} {f : Nat → Hit → Candidate} (kept : ∀ index hit, (f index hit).hit = hit)
      : (rows.mapIdx f).map (·.hit.refId) = rows.map (·.refId) := by
    refine ext_getElem (by simp) (fun index _ _ => ?_)
    simp [kept]
  unfold chainCandidates Host.on queryScopeChainCandidates
  dsimp only
  rw [hits (fun _ _ => rfl)]
  split
  · rename_i throws
    exact ⟨_, agrees chain known throws, map_take⟩
  · exact ⟨_, .refl _, map_take⟩

theorem chain_of_satisfying {expression chain' : Text} {repos repos' : List Text}
    (first : refId ∈ (index.satisfying tables expression chain repos).map (·.refId))
    (second : refId ∈ (index.satisfying tables expression chain' repos').map (·.refId))
    : chain = chain' := by
  obtain ⟨hit, mem, rfl⟩ := mem_map.mp first
  obtain ⟨hit', mem', same⟩ := mem_map.mp second
  obtain ⟨found, holds⟩ := mem_filter.mp mem
  obtain ⟨found', holds'⟩ := mem_filter.mp mem'
  cases inj_on_of_nodup_map (index.once tables expression) found' found same
  rw [and_eq_true, beq_iff_eq] at holds holds'
  exact holds.1.symm.trans holds'.1

theorem asks_of_mem (agrees : LikeAgrees env index tables search query)
    (known : chain ∈ search.allChains)
    (found
      : refId ∈ (chainCandidates (host.on env index) (fun _ => tables) search.request search.snapshot
          query search.expression search.effectivePerChain chain).map (·.hit.refId))
    : search.Asks index tables chain refId := by
  obtain ⟨refIds, same, taken⟩ := refIds_chainCandidates host agrees known
  rw [taken] at found
  exact ⟨known, same.mem_iff.mp (mem_of_mem_take found)⟩

/-- No reference is found twice. Witness: the index has it once, and in one chain. -/
theorem nodup_candidates (agrees : LikeAgrees env index tables search query)
    (distinct : search.allChains.Nodup)
    : ((search.chainResults (host.on env index) (fun _ => tables) query).flatten.map
        (·.hit.refId)).Nodup := by
  have known {chain : Text} (queried : chain ∈ search.queriedChains) : chain ∈ search.allChains :=
    mem_of_mem_take queried
  unfold ScopeSearch.chainResults
  rw [map_flatten, map_map, nodup_flatten]
  constructor
  · intro refIds mem
    obtain ⟨chain, queried, rfl⟩ := mem_map.mp mem
    obtain ⟨all, same, taken⟩ := refIds_chainCandidates host agrees (known queried)
    have once : all.Nodup :=
      same.nodup_iff.mpr ((index.once tables search.expression).sublist (filter_sublist.map _))
    rw [Function.comp_apply, taken]
    exact once.sublist (take_sublist _ _)
  · refine pairwise_map.mpr ((distinct.sublist (take_sublist _ _)).imp_of_mem ?_)
    intro chain chain' queried queried' apart refId first second
    have asked := (asks_of_mem agrees (known queried) first).2
    have asked' := (asks_of_mem agrees (known queried') second).2
    exact apart (chain_of_satisfying asked asked')

theorem chain_of_mem {moment : Read → Tables} {cand : Candidate}
    (mem
      : cand ∈ chainCandidates host moment search.request search.snapshot query
          search.expression search.effectivePerChain chain)
    : cand.chain = chain := by
  obtain ⟨position, bound, rfl⟩ := mem_mapIdx.mp mem
  rfl

theorem asks_of_candidate (agrees : LikeAgrees env index tables search query)
    {cand : Candidate}
    (mem
      : cand ∈ (search.chainResults (host.on env index) (fun _ => tables) query).flatten)
    : search.Asks index tables cand.chain cand.hit.refId := by
  obtain ⟨rows, listed, inside⟩ := mem_flatten.mp mem
  obtain ⟨chain, queried, rfl⟩ := mem_map.mp listed
  rw [chain_of_mem inside]
  exact asks_of_mem agrees (mem_of_mem_take queried) (mem_map_of_mem inside)

/-- Where nothing is cut, whatever is asked for is a candidate. -/
theorem exists_candidate (agrees : LikeAgrees env index tables search query)
    (whole : search.isWhole (host.on env index) (fun _ => tables) query = true)
    (asks : search.Asks index tables chain refId)
    : ∃ cand ∈ (search.chainResults (host.on env index) (fun _ => tables) query).flatten,
        cand.chain = chain ∧ cand.hit.refId = refId := by
  unfold ScopeSearch.isWhole at whole
  simp only [and_eq_true, decide_eq_true_eq, not_eq_true'] at whole
  obtain ⟨⟨-, through⟩, unlimited⟩ := whole
  obtain ⟨known, satisfies⟩ := asks
  have queried : chain ∈ search.queriedChains := by
    unfold ScopeSearch.queriedChains at through ⊢
    rw [length_take] at through
    rwa [take_of_length_le (by omega)]
  have listed : chainCandidates (host.on env index) (fun _ => tables) search.request search.snapshot
      query search.expression search.effectivePerChain chain
        ∈ search.chainResults (host.on env index) (fun _ => tables) query :=
    mem_map_of_mem queried
  have short := any_eq_false.mp unlimited _ listed
  obtain ⟨refIds, same, taken⟩ := refIds_chainCandidates host agrees known
  have counted := congrArg List.length taken
  rw [length_map, length_take] at counted
  have whole : refIds.take search.effectivePerChain = refIds := by
    refine take_of_length_le ?_
    simp only [decide_eq_true_eq] at short
    omega
  have found := same.mem_iff.mpr satisfies
  rw [← whole, ← taken] at found
  obtain ⟨cand, inside, named⟩ := mem_map.mp found
  exact ⟨cand, mem_flatten.mpr ⟨_, listed, inside⟩, chain_of_mem inside, named⟩

def InFull (host : Host) (moment : Read → Tables) (contextLines : Nat) (candidate : Candidate)
    (item : Evidence)
    : Prop :=
  ∃ room expanded, expandScopeCandidate host moment candidate contextLines room = .ok expanded
    ∧ expanded.truncated = false ∧ expanded.item = item

/-- Expansions that are not cut are those of all candidates. Witness: induction on the candidates. -/
theorem inFull_of_expandMatches {moment : Read → Tables} {contextLines room : Nat}
    {candidates : List Candidate} {items : List Evidence}
    (done : expandMatches host moment contextLines room candidates = .ok (items, false))
    : List.Forall₂ (InFull host moment contextLines) candidates items := by
  induction candidates generalizing room items with
  | nil =>
    obtain ⟨rfl, -⟩ := Prod.mk.inj (ok.inj done)
    exact .nil
  | cons cand rest ih =>
    unfold expandMatches at done
    split at done
    · obtain ⟨-, never⟩ := Prod.mk.inj (ok.inj done)
      cases never
    · split at done
      · cases done
      · rename_i expanded found
        split at done
        · obtain ⟨-, never⟩ := Prod.mk.inj (ok.inj done)
          cases never
        · rename_i whole
          split at done
          · cases done
          · rename_i later cut more
            obtain ⟨rfl, rfl⟩ := Prod.mk.inj (ok.inj done)
            exact .cons ⟨room, expanded, found, eq_false_of_ne_true whole, rfl⟩ (ih more)

theorem inFull_of_expandTop {moment : Read → Tables} {options : SearchOptions}
    {candidates : List Candidate} {items : List Evidence} (some' : 0 < options.maxExpansions)
    (done : expandTop host moment options true candidates = .ok (items, false))
    : List.Forall₂ (InFull host moment options.contextLines) candidates items := by
  unfold expandTop at done
  cases candidates with
  | nil =>
    obtain ⟨rfl, -⟩ := Prod.mk.inj (ok.inj done)
    exact .nil
  | cons first rest =>
    rw [if_pos (by simpa using some')] at done
    obtain ⟨⟨expanded, cut⟩, expands, done⟩ := bind_eq_ok.mp done
    obtain ⟨rfl, uncut⟩ := Prod.mk.inj (ok.inj done)
    simp only [or_eq_false_iff, and_eq_false_iff, decide_eq_false_iff_not] at uncut
    obtain ⟨rfl, all⟩ := uncut
    have each := inFull_of_expandMatches expands
    have counted := each.length_eq
    rw [length_take] at counted
    rwa [take_of_length_le (by omega)] at each

variable (env host index tables) in
/-- The answer is honest about what is in the scope. -/
structure Honest (query : Text) (expand : Bool) (answer : ScopeAnswer) : Prop where
  covers
    : answer.complete = true → ∀ chain refId, answer.search.Asks index tables chain refId →
        ∃ candidate ∈ answer.topMatches, candidate.chain = chain ∧ candidate.hit.refId = refId
  inFull
    : answer.complete = true → expand = true → 0 < answer.search.options.maxExpansions →
        List.Forall₂
          (InFull (host.on env index) (fun _ => tables) answer.search.options.contextLines)
          answer.topMatches answer.expanded
  asked
    : ∀ candidate ∈ answer.topMatches,
        answer.search.Asks index tables candidate.chain candidate.hit.refId
  once : (answer.topMatches.map (·.hit.refId)).Nodup
  ordered : answer.topMatches.Pairwise (fun a b => candidateLe env.localeLe a b = true)

variable (env) in
/-- Where nothing else is cut, there is room for all candidates. -/
def Fits (host : Host) (moment : Read → Tables) (query : Text) (expand : Bool)
    (search : ScopeSearch)
    : Prop :=
  search.isWhole host moment query = true
  → (∀ expanded, expandTop host moment search.options expand
        (search.topMatches env host moment query) ≠ .ok (expanded, true))
  → (search.chainResults host moment query).flatten.length ≤ search.options.topK

variable {answer : ScopeAnswer}

theorem exists_of_runSearch {moment : Read → Tables} {expand : Bool}
    (ran : runSearch env host moment search query expand = .ok answer)
    : answer.search = search ∧ answer.topMatches = search.topMatches env host moment query
      ∧ ∃ cut, expandTop host moment search.options expand answer.topMatches
            = .ok (answer.expanded, cut)
          ∧ answer.complete = (search.isWhole host moment query && !cut) := by
  unfold runSearch at ran
  obtain ⟨⟨expanded, cut⟩, expands, ran⟩ := bind_eq_ok.mp ran
  dsimp only at ran
  split at ran
  · cases ran
  · cases ran
    exact ⟨rfl, rfl, cut, expands, rfl⟩

theorem exists_of_findScope_body {moment : Read → Tables} {args : Value}
    (found : findScope env host moment args = .ok answer)
    : ∃ search, search.allChains.Nodup
        ∧ runSearch env host moment search (queryOf args) (args.get (text "expand")).isTrue
          = .ok answer := by
  unfold findScope at found
  split at found
  · cases found
  · split at found
    · cases found
    · obtain ⟨expression, -, found⟩ := bind_eq_ok.mp found
      obtain ⟨request, -, found⟩ := bind_eq_ok.mp found
      obtain ⟨snapshot, got, found⟩ := bind_eq_ok.mp found
      refine ⟨_, ?_, found⟩
      obtain ⟨resolution, resolves, -, rfl⟩ := exists_of_resolveScope got
      change ((readHeadsSnapshot _ resolution.resolved).map (·.chain)).Nodup
      rw [map_chain_readHeadsSnapshot]
      exact nodup_resolved resolves

/-- An index with two references in one chain. -/
def twoReferences : FullText where
  found _ _ :=
    [{ refId := text "r1", stoneHash := text "s", chain := text "c", path := text "p", repo := none
       commitSha := none, score := 0 },
      { refId := text "r2", stoneHash := text "s", chain := text "c", path := text "p", repo := none
        commitSha := none, score := 1 }]
  throws _ _ _ := false
  once _ _ := by decide

/-- A vault with one chain. -/
def oneChain : Tables :=
  { Tables.empty with chainHeads := [{ chain := text "c", headHash := text "s", updatedAt := [] }] }

/-- A world that reads numbers. -/
def numberEnv : Env :=
  { Vault.quietEnv with
    toNumber := fun value =>
      match value with
      | .number n => n
      | _ => .nan }

def silentHost : Host where
  hits _ _ _ _ _ _ := []
  decodedStart _ s := s
  skeleton _ _ _ _ := .error (refuse "model_unavailable")

/-- A search of the chain for at most `topK` matches. -/
def searchFor (topK : Nat) : Value :=
  .literal
    [(text "query", .string (text "alpha")), (text "top_k", Vault.count topK),
      (text "scope",
        .literal
          [(text "mode", .string (text "single_chain")),
            (text "chains", .array [some (.string (text "c"))])])]

def answerFor (topK : Nat) : Except Refusal ScopeAnswer :=
  findScope numberEnv (silentHost.on numberEnv twoReferences) (fun _ => oneChain) (searchFor topK)

end CairnStone.GroundedResponse
