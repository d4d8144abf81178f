import CairnStone.GroundedResponse.Evidence

/-! Grounded responses: how one is created from the evidence of a scope, what is stored of it, and how an
expand call checks that its authority is still the accepted one.
-/

namespace CairnStone.GroundedResponse

open JavaScript Data List
open TaskRuns (Refusal refuse)
open Vault (Tables StoneRow Env)

def QUESTION_CHAR_LIMIT : Nat := 4000

def PROMPT_CHAR_BUDGET : Nat := 42000

def ORIENTATION_CHAR_LIMIT : Nat := 700

def MAX_CHAINS : Nat := 25

/-- An entry of `GROUNDED_RESPONSE_ENVELOPE_CATALOG`. -/
structure CatalogEntry where
  (provider model : Text)
  generation : Bool
  transport : Text
  deriving DecidableEq

def MODEL_DEFAULT : Text := text "@cf/meta/llama-3.3-70b-instruct-fp8-fast"

def GROUNDED_RESPONSE_ENVELOPE_CATALOG : List CatalogEntry :=
  [{ provider := text "workers_ai", model := MODEL_DEFAULT, generation := true
     transport := text "workers-ai-binding" },
    { provider := text "openai", model := text "gpt-4o-mini", generation := false
      transport := text "openai-rest-chat" },
    { provider := text "anthropic", model := text "claude-sonnet-4-20250514", generation := false
      transport := text "anthropic-messages" },
    { provider := text "deepseek", model := text "deepseek-chat", generation := false
      transport := text "openai-rest-chat" }]

/-- `typeof value === "string" && value.trim() ? value.trim() : null` -/
def trimmedText (value : Value) : Option Text :=
  (value.string?.map trim).filter (· != [])

def resolveEnvelopeRoute (model provider : Option Text) (generationRequired : Bool)
    : Except Refusal CatalogEntry :=
  let byModel :=
    GROUNDED_RESPONSE_ENVELOPE_CATALOG.filter (·.model == model.getD MODEL_DEFAULT)
  match byModel with
  | [] => .error (refuse "model_not_allowed")
  | first :: _ =>
    match byModel.find? (·.provider == provider.getD first.provider) with
    | none => .error (refuse "provider_model_mismatch")
    | some entry =>
      if generationRequired && !entry.generation then
        .error (refuse "model_not_generation_capable")
      else .ok entry

structure EnvelopeSwap where
  (provider model : Text)
  transport : Option Text
  swappedAt : Text
  responseLod : Nat

structure ProviderEnvelope where
  (provider model : Text)
  transport : Option Text
  history : List EnvelopeSwap

def applyEnvelopeSwap (current : ProviderEnvelope) (entry : CatalogEntry) (instant : Text) (lod : Nat)
    : ProviderEnvelope × Bool :=
  if current.provider = entry.provider ∧ current.model = entry.model then (current, false)
  else
    ({ provider := entry.provider
       model := entry.model
       transport := some entry.transport
       history :=
         current.history
           ++ [{ provider := current.provider, model := current.model
                 transport := current.transport, swappedAt := instant, responseLod := lod }] },
      true)

variable (env : Env)

def scopeHeadFailure (error : String) (item : ChainHead) : Refusal where
  error := text error
  details := [(text "chain", .string item.chain), (text "head_hash", .ofOption item.headHash)]

def loadHeadOrientation (tables : Tables) (item : ChainHead) : Except Refusal Evidence :=
  match item.headHash with
  | none => .error (scopeHeadFailure "scope_chain_head_missing" item)
  | some head =>
    match tables.stoneAt head with
    | none => .error (scopeHeadFailure "scope_head_stone_missing" item)
    | some row =>
      let layers := row.stoneJson.get (text "layers")
      let orientation :=
        trim
          (env.string
            (((layers.get (text "lod4")).or (layers.get (text "lod5"))).or (.string row.title)))
      if orientation = [] then .error (scopeHeadFailure "scope_head_orientation_missing" item)
      else
        .ok
          { stoneHash := row.hash
            refId := none
            chain := item.chain
            repo := row.repo.filter (· != [])
            path := row.path.filter (· != [])
            commitSha := row.commitSha.filter (· != [])
            authorityClass := .chainHead
            lines := none
            text := orientation.take ORIENTATION_CHAR_LIMIT
            orientationOnly := true }

def dedupeEvidence (orientations expanded : List Evidence) : List Evidence :=
  distinct (·.stoneHash) ((orientations ++ expanded).filter (·.stoneHash != []))

variable (host : Host) (moment : Read → Tables)

structure Collected where
  snapshot : ScopeSnapshot
  evidence : List Evidence
  complete : Bool

def collectGroundedEvidence (question : Text) (scope : Value) (options : SearchOptions)
    : Except Refusal Collected := do
  let initial ← resolveScopeFromBody env (fun read => moment (.initial read)) scope
  if MAX_CHAINS < initial.chains.length then .error (refuse "scope_too_broad_for_synthesis")
  else
    match initial.chains.find? (·.headHash.isNone) with
    | some item => .error (scopeHeadFailure "scope_chain_head_missing" item)
    | none => do
      let searched ← findScopeFromBody env host moment question scope options
      if !sameAuthoritySnapshot initial searched.snapshot then .error (refuse "scope_compile_race")
      else do
        let orientations ←
          searched.snapshot.chains.mapM (fun item =>
            loadHeadOrientation env (moment (.orientation item.chain)) item)
        .ok
          { snapshot := searched.snapshot
            evidence := dedupeEvidence orientations searched.expanded
            complete := searched.complete }

def recheckScopeHeads (found : Text → Tables) (snapshot : ScopeSnapshot) : Except Refusal Unit :=
  match movedChain found snapshot with
  | some item => .error (scopeCompileRace item.chain)
  | none => .ok ()

/-- `value || "n/a"` -/
def orNotAvailable (value : Option Text) : Text :=
  value.getD (text "n/a")

def blockHeader (block : Evidence) : Text :=
  let location :=
    match block.refId, block.lines with
    | some refId, some (first, last) =>
      text "ref=" ++ refId ++ text " lines=" ++ digitText first ++ text "-" ++ digitText last
    | _, _ => text "orientation=lod"
  text "===== STONE " ++ block.stoneHash ++ text " " ++ location ++ text " chain=" ++ block.chain
  ++ text " repo=" ++ orNotAvailable block.repo ++ text " authority=" ++ block.authorityClass.text
  ++ text " path=" ++ orNotAvailable block.path ++ text " commit=" ++ orNotAvailable block.commitSha
  ++ text " =====\n"

def includedBlocks : (used : Nat) → List Evidence → List (Evidence × Text)
  | _, [] => []
  | used, block :: rest =>
    let header := blockHeader block
    let remaining := PROMPT_CHAR_BUDGET - (used + header.length + 2)
    let shown := block.text.take remaining
    if remaining = 0 then []
    else if shown = [] then includedBlocks used rest
    else if shown.length < block.text.length then [(block, shown)]
    else (block, shown) :: includedBlocks (used + header.length + shown.length + 2) rest

def promptPrefix (question : Text) (collected : Collected) : Text :=
  (text "\n").intercalate
    ([text "Question: " ++ question, text "scope_id=" ++ collected.snapshot.scopeId,
        text "authority_digest=" ++ collected.snapshot.authorityDigest,
        text "coverage_complete=" ++ (if collected.complete then text "true" else text "false"),
        text "Participating chain HEAD snapshot:",
        (text "\n").intercalate
          (collected.snapshot.chains.map (fun item =>
            item.chain ++ text "@" ++ item.headHash.getD (text "null"))),
        [], text "Compile one JSON answer skeleton only from the supplied evidence.", []])

def buildSkeletonPrompt (question : Text) (collected : Collected) : Text × List Evidence :=
  let start := promptPrefix question collected
  let blocks := includedBlocks start.length collected.evidence
  (start ++ blocks.flatMap (fun block => blockHeader block.1 ++ block.2 ++ text "\n\n"),
    blocks.map (·.1))

/-- A row of `grounded_responses`. -/
structure Record where
  (responseId question questionDigest : Text)
  scopeRequest : Value
  (scopeId authorityDigest evidenceSetDigest answerSkeletonDigest : Text)
  scopeSnapshot : ScopeSnapshot
  evidence : List Evidence
  skeleton : Value
  materializedLods : List (Nat × Value)
  highestMaterializedLod : Nat
  model : Text
  providerEnvelope : ProviderEnvelope
  (actorId threadId codeSessionId parentResponseId : Option Text)
  (createdAt updatedAt : Text)

def digestGroundedValue (value : Value) : Text :=
  digestOf env value

def evidenceSetIdentityPayload (evidence : List Evidence) : Value :=
  let identity (item : Evidence) :=
    item.chain ++ text "|" ++ item.stoneHash ++ text "|" ++ item.refId.getD []
  .array
    ((evidence.insertionSort (fun a b => env.localeLe (identity a) (identity b))).map (fun item =>
      some
        (.literal
          [(text "stone_hash", .string item.stoneHash), (text "ref_id", .ofOption item.refId),
            (text "chain", .string item.chain), (text "path", .ofOption item.path),
            (text "authority_class", .string item.authorityClass.text)])))

def skeletonIdentityPayload (skeleton : Value) : Value :=
  let list (name : String) :=
    match skeleton.get (text name) with
    | .array slots => Value.array slots
    | _ => .array []
  .literal
    [(text "conclusion", (skeleton.get (text "conclusion")).or (.string [])),
      (text "claims", list "claims"), (text "uncertainty", list "uncertainty"),
      (text "next_action", (skeleton.get (text "next_action")).orNullish .null),
      (text "caveats", list "caveats")]

def computeResponseId (questionDigest scopeId authorityDigest evidenceSetDigest answerSkeletonDigest : Text)
    (refreshNonce : Option Text)
    : Text :=
  text "gr:"
  ++ (env.sha256
      (stableJson
        (.literal
          [(text "schema", .string (text "cairnstone-grounded-response-v1")),
            (text "question_digest", .string questionDigest), (text "scope_id", .string scopeId),
            (text "authority_digest", .string authorityDigest),
            (text "evidence_set_digest", .string evidenceSetDigest),
            (text "answer_skeleton_digest", .string answerSkeletonDigest),
            (text "refresh_nonce", .ofOption refreshNonce)]))).take 48

/-- What is stored of a piece of evidence. -/
def Evidence.stored (item : Evidence) : Evidence :=
  { item with
    lines := none
    text := item.text.take (if item.orientationOnly then ORIENTATION_CHAR_LIMIT else 4000) }

/-- `renderResponseLod(…)` of what a record holds, at a depth -/
abbrev Renderer :=
  (lod : Nat) → (question : Text) → (skeleton : Value) → List Evidence → ScopeSnapshot → Value

/-- `requiredText(args.question, "question", QUESTION_CHAR_LIMIT)`, then `normalizeQuestion` -/
def requiredQuestion (value : Value) : Except Refusal Text :=
  match trimmedText value with
  | none => .error (refuse "question_required")
  | some question =>
    if QUESTION_CHAR_LIMIT < question.length then .error (refuse "question_too_long")
    else .ok (Vault.collapseFrom false question)

def requiredScope (value : Value) : Except Refusal Unit :=
  if value.isObject then .ok () else .error (refuse "missing_scope")

def clampResponseLod (value : Value) : Nat :=
  (clampInteger env value 1 1 5).toNat

def materialized (render : Nat → Value) (lods : List Nat) : List (Nat × Value) :=
  lods.map (fun lod => (lod, render lod))

def createGroundedResponseFromBody (render : Renderer) (args : Value) (now : Text)
    : Except Refusal Record := do
  let question ← requiredQuestion (args.get (text "question"))
  let scope := args.get (text "scope")
  requiredScope scope
  let route ←
    resolveEnvelopeRoute (trimmedText (args.get (text "model")))
      (trimmedText (args.get (text "provider"))) true
  let lod := clampResponseLod env (args.get (text "response_lod"))
  let maxTokens := clampInteger env (args.get (text "max_tokens")) 900 128 1600
  let collected ← collectGroundedEvidence env host moment question scope (searchOptions env args)
  recheckScopeHeads (fun chain => moment (.preModel chain)) collected.snapshot
  let (prompt, included) := buildSkeletonPrompt question collected
  if included = [] then .error (refuse "no_relevant_stones")
  else do
    let skeleton ← host.skeleton route.model prompt maxTokens included
    recheckScopeHeads (fun chain => moment (.postModel chain)) collected.snapshot
    let snapshot := collected.snapshot
    let questionDigest := digestGroundedValue env (.string question)
    let evidenceSetDigest := digestGroundedValue env (evidenceSetIdentityPayload env included)
    let answerSkeletonDigest := digestGroundedValue env (skeletonIdentityPayload skeleton)
    let refreshOf := trimmedText (args.get (text "refresh_of"))
    .ok
      { responseId :=
          computeResponseId env questionDigest snapshot.scopeId snapshot.authorityDigest
            evidenceSetDigest answerSkeletonDigest
            (refreshOf.map (fun parent => text "refresh:" ++ parent ++ text ":" ++ now))
        question, questionDigest
        scopeRequest := scope
        scopeId := snapshot.scopeId
        authorityDigest := snapshot.authorityDigest
        evidenceSetDigest, answerSkeletonDigest
        scopeSnapshot := snapshot
        evidence := included.map Evidence.stored
        skeleton
        materializedLods :=
          materialized (fun depth => render depth question skeleton (included.map Evidence.stored) snapshot)
            ((List.range lod).map (· + 1))
        highestMaterializedLod := lod
        model := route.model
        providerEnvelope :=
          { provider := route.provider, model := route.model, transport := some route.transport
            history := [] }
        actorId := (args.get (text "actor_id")).string?
        threadId := (args.get (text "thread_id")).string?
        codeSessionId := (args.get (text "code_session_id")).string?
        parentResponseId := refreshOf
        createdAt := now
        updatedAt := now }

def Record.updatedBy (old new : Record) : Record :=
  { old with
    materializedLods := new.materializedLods
    highestMaterializedLod := new.highestMaterializedLod
    model := new.model
    providerEnvelope := new.providerEnvelope
    updatedAt := new.updatedAt }

def persistGroundedResponse (responses : List Record) (record : Record) : List Record :=
  if responses.any (·.responseId == record.responseId) then
    updateWhere (·.responseId == record.responseId) (·.updatedBy record) responses
  else responses ++ [record]

def loadGroundedResponse (responses : List Record) (responseId : Text) : Option Record :=
  responses.find? (·.responseId == responseId)

def Record.boundSnapshot (record : Record) : ScopeSnapshot :=
  { record.scopeSnapshot with scopeId := record.scopeId, authorityDigest := record.authorityDigest }

def checkAuthorityFreshness (moment : Moments) (record : Record)
    : Except Refusal (Bool × ScopeSnapshot) :=
  match resolveScopeFromBody env moment record.scopeRequest with
  | .error refusal => .error refusal
  | .ok current =>
    .ok
      (current.authorityDigest != record.authorityDigest
          || !sameAuthoritySnapshot record.boundSnapshot current,
        current)

/-- What an expand call asks for, after its first checks. -/
structure ExpandRequest where
  targetLod : Nat
  viewOriginal : Bool
  swapRoute : Option CatalogEntry

def swapRoute (record : Record) (args : Value) : Except Refusal (Option CatalogEntry) :=
  let model := trimmedText (args.get (text "model"))
  let provider := trimmedText (args.get (text "provider"))
  if model.isNone && provider.isNone then .ok none
  else
    (resolveEnvelopeRoute (trimmedText ((args.get (text "model")).or (.string record.model))) provider
      false).map some

def responseNotFound (responseId : Text) : Refusal where
  error := text "response_not_found"
  details := [(text "response_id", .string responseId)]

/-- The checks of an expand call before that of freshness. -/
def readExpand (responses : List Record) (args : Value) : Except Refusal (Record × ExpandRequest) :=
  match trimmedText (args.get (text "response_id")) with
  | none => .error (refuse "response_id_required")
  | some responseId =>
    if !(env.toNumber (args.get (text "response_lod"))).isFinite then
      .error (refuse "response_lod_required")
    else
      match loadGroundedResponse responses responseId with
      | none => .error (responseNotFound responseId)
      | some record =>
        match swapRoute record args with
        | .error refusal => .error refusal
        | .ok route =>
          .ok
            (record,
              { targetLod := clampResponseLod env (args.get (text "response_lod"))
                viewOriginal := (args.get (text "view_original")).isTrue
                swapRoute := route })

inductive ExpandAnswer where
  | refused (refusal : Refusal)
  | stale (record : Record) (current : ScopeSnapshot)
  | view (record : Record) (targetLod : Nat) (authorityChanged envelopeSwapped : Bool)

/-- The error of an answer. -/
def ExpandAnswer.error : ExpandAnswer → Option Text
  | .refused refusal => some refusal.error
  | .stale _ _ => some (text "stale_response")
  | .view _ _ _ _ => none

def swappedEnvelope (record : Record) (request : ExpandRequest) (now : Text) : ProviderEnvelope × Bool :=
  match request.swapRoute with
  | none => (record.providerEnvelope, false)
  | some entry => applyEnvelopeSwap record.providerEnvelope entry now request.targetLod

def Record.deepened (render : Renderer) (record : Record) (targetLod : Nat) : Record :=
  let missing :=
    ((List.range targetLod).map (· + 1)).filter (fun lod =>
      !record.materializedLods.any (·.1 == lod))
  if missing.contains targetLod then
    { record with
      materializedLods :=
        record.materializedLods
          ++ materialized (fun lod =>
              render lod record.question record.skeleton record.evidence record.scopeSnapshot) missing
      highestMaterializedLod := max record.highestMaterializedLod targetLod }
  else record

def Record.expanded (render : Renderer) (record : Record) (request : ExpandRequest) (now : Text)
    : Record :=
  let (envelope, swapped) := swappedEnvelope record request now
  let deepened := record.deepened render request.targetLod
  let known := record.materializedLods.any (·.1 == request.targetLod)
  { deepened with
    providerEnvelope := envelope
    model := if swapped then envelope.model else record.model
    updatedAt := if swapped || !known then now else record.updatedAt }

def freshnessCheckFailed (refusal : Refusal) : Refusal where
  error := text "authority_freshness_check_failed"
  details := [(text "detail", .string refusal.error)]

def expandGroundedResponseFromBody (render : Renderer) (moment : Moments) (responses : List Record)
    (args : Value) (now : Text)
    : ExpandAnswer × Option Record :=
  match readExpand env responses args with
  | .error refusal => (.refused refusal, none)
  | .ok (record, request) =>
    match checkAuthorityFreshness env moment record with
    | .error refusal => (.refused (freshnessCheckFailed refusal), none)
    | .ok (changed, current) =>
      if changed && !request.viewOriginal then (.stale record current, none)
      else
        let shown := record.expanded render request now
        let swapped := (swappedEnvelope record request now).2
        let known := record.materializedLods.any (·.1 == request.targetLod)
        (.view shown request.targetLod changed swapped,
          if swapped || !known then some shown else none)

variable {env} {host} {moment} {snapshot : ScopeSnapshot}

theorem heads_loadHeadOrientation {tables : Tables} {item : ChainHead} {evidence : Evidence}
    (loaded : loadHeadOrientation env tables item = .ok evidence)
    : item = { chain := evidence.chain, headHash := some evidence.stoneHash } := by
  unfold loadHeadOrientation at loaded
  split at loaded
  · cases loaded
  · rename_i head headed
    split at loaded
    · cases loaded
    · rename_i row found
      extract_lets layers orientation at loaded
      split at loaded
      · cases loaded
      · cases loaded
        have same := find?_some found
        rw [beq_iff_eq] at same
        cases item
        simp only at headed ⊢
        rw [headed, same]

theorem mem_of_mapM_ok {α β : Type} {f : α → Except Refusal β} {rows : List α} {results : List β}
    (done : rows.mapM f = .ok results) {result : β} (mem : result ∈ results)
    : ∃ row ∈ rows, f row = .ok result := by
  induction rows generalizing results with
  | nil =>
    rw [mapM_nil] at done
    cases done
    cases mem
  | cons row rest ih =>
    rw [mapM_cons] at done
    obtain ⟨first, found, done⟩ := bind_eq_ok.mp done
    obtain ⟨later, more, done⟩ := bind_eq_ok.mp done
    cases done
    rcases mem_cons.mp mem with rfl | deeper
    · exact ⟨row, .head _, found⟩
    · obtain ⟨other, here, same⟩ := ih more deeper
      exact ⟨other, .tail _ here, same⟩

theorem exists_of_collected {question : Text} {scope : Value} {options : SearchOptions}
    {collected : Collected}
    (done : collectGroundedEvidence env host moment question scope options = .ok collected)
    : ∃ request, normalizeScopeRequest scope = .ok request
      ∧ resolveScope env (fun read => moment (.search read)) request = .ok collected.snapshot
      ∧ ∀ item ∈ collected.evidence,
          item.authorityClass = .chainHead → collected.snapshot.Heads item := by
  unfold collectGroundedEvidence at done
  obtain ⟨initial, _, done⟩ := bind_eq_ok.mp done
  split at done
  · cases done
  · split at done
    · cases done
    · obtain ⟨searched, found, done⟩ := bind_eq_ok.mp done
      split at done
      · cases done
      · obtain ⟨orientations, loaded, done⟩ := bind_eq_ok.mp done
        cases done
        obtain ⟨request, requested, got, shown⟩ := exists_of_findScope found
        refine ⟨request, requested, got, fun item mem class' => ?_⟩
        have kept := (mem_filter.mp (mem_of_mem_distinct mem)).1
        rcases mem_append.mp kept with oriented | expanded
        · obtain ⟨head, here, loads⟩ := mem_of_mapM_ok loaded oriented
          cases heads_loadHeadOrientation loads
          exact here
        · exact shown item expanded class'

theorem mem_of_mem_includedBlocks {used : Nat} {evidence : List Evidence} {block : Evidence × Text}
    (mem : block ∈ includedBlocks used evidence)
    : block.1 ∈ evidence := by
  induction evidence generalizing used with
  | nil => cases mem
  | cons first rest ih =>
    unfold includedBlocks at mem
    extract_lets header remaining shown at mem
    split at mem
    · cases mem
    · split at mem
      · exact .tail _ (ih mem)
      · split at mem
        · cases mem_singleton.mp mem
          exact .head _
        · rcases mem_cons.mp mem with rfl | deeper
          · exact .head _
          · exact .tail _ (ih deeper)

theorem readHeadsSnapshot_of_rechecked {found : Text → Tables}
    (rechecked : recheckScopeHeads found snapshot = .ok ())
    : readHeadsSnapshot found (snapshot.chains.map (·.chain)) = snapshot.chains := by
  unfold recheckScopeHeads at rechecked
  split at rechecked
  · cases rechecked
  · rename_i unmoved
    unfold movedChain at unmoved
    rw [find?_eq_none] at unmoved
    unfold readHeadsSnapshot
    rw [map_map]
    refine (map_congr_left (fun item mem => ?_)).trans (map_id _)
    have same := unmoved item mem
    rw [Bool.not_eq_true, bne_eq_false_iff_eq] at same
    simp only [Function.comp_apply, id_eq, same]

theorem exists_of_created {render : Renderer} {args : Value} {now : Text} {record : Record}
    (done : createGroundedResponseFromBody env host moment render args now = .ok record)
    : ∃ request got, normalizeScopeRequest record.scopeRequest = .ok request
      ∧ resolveChainSet (fun read => moment (.search read)) request = .ok got
      ∧ got.resolved ≠ []
      ∧ record.scopeSnapshot
        = snapshotOf env request got
            (readHeadsSnapshot (fun chain => moment (.postModel chain)) got.resolved)
      ∧ record.boundSnapshot = record.scopeSnapshot
      ∧ ∀ item ∈ record.evidence,
          item.authorityClass = .chainHead → record.scopeSnapshot.Heads item := by
  unfold createGroundedResponseFromBody at done
  obtain ⟨question, _, done⟩ := bind_eq_ok.mp done
  extract_lets scope lod maxTokens questionDigest refreshOf at done
  obtain ⟨_, _, done⟩ := bind_eq_ok.mp done
  obtain ⟨route, _, done⟩ := bind_eq_ok.mp done
  obtain ⟨collected, collects, done⟩ := bind_eq_ok.mp done
  obtain ⟨_, _, done⟩ := bind_eq_ok.mp done
  simp only [] at done
  split at done
  · cases done
  · obtain ⟨skeleton, _, done⟩ := bind_eq_ok.mp done
    obtain ⟨_, rechecked, done⟩ := bind_eq_ok.mp done
    cases done
    obtain ⟨request, requested, got, shown⟩ := exists_of_collected collects
    obtain ⟨got, chains, some', same⟩ := exists_of_resolveScope got
    have heads := readHeadsSnapshot_of_rechecked rechecked
    refine ⟨request, got, requested, chains, some', ?_, rfl, ?_⟩
    · have named : collected.snapshot.chains.map (·.chain) = got.resolved := by
        rw [same]
        exact map_chain_readHeadsSnapshot _ _
      rw [named] at heads
      rw [heads]
      simp only
      rw [same]
      rfl
    · intro item mem class'
      obtain ⟨block, here, rfl⟩ := mem_map.mp mem
      obtain ⟨pair, inside, rfl⟩ := mem_map.mp here
      exact shown pair.1 (mem_of_mem_includedBlocks inside) class'

end CairnStone.GroundedResponse
