import CairnStone.GroundedResponse.Responses
import CairnStone.Vault.Stones

/-! Freshness of grounded responses over a run: head-moving calls of the vault, create calls and expand calls
in any order. A stored response stays bound to the snapshot of its scope, and an expand call without
`view_original` is refused as stale exactly when the scope has other chains or other chain heads by then.
-/

namespace CairnStone.GroundedResponse

open JavaScript Data Concurrency List Except Bool Continues
open TaskRuns (Refusal)
open Vault (Tables Env Command vault Operation)

/-- A key that an upsert or an insert finds stays. -/
theorem isSome_chainHead {tables tables' : Tables} {chain : Text}
    (kept : ∀ row ∈ tables.chainHeads, ∃ row' ∈ tables'.chainHeads, row'.chain = row.chain)
    (headed : (tables.chainHead chain).isSome = true)
    : (tables'.chainHead chain).isSome = true := by
  unfold Tables.chainHead at headed ⊢
  rw [find?_isSome] at headed ⊢
  obtain ⟨row, mem, named⟩ := headed
  obtain ⟨row', mem', same⟩ := kept row mem
  exact ⟨row', mem', by rw [same]; exact named⟩

/-- No command takes back a stone or a chain's head. Witness: case analysis on the command. -/
theorem continues_exec (env : Env) (tables : Tables) (cmd : Command)
    : Continues tables (Tables.exec env cmd tables).2 := by
  refine ⟨(Tables.grows_exec env tables cmd).stones, fun chain headed => ?_⟩
  rcases Tables.exec_cases env tables cmd with ⟨stmt, put, rfl, _, done, after⟩ | after
  · rw [after]
    refine isSome_chainHead (fun row mem => ?_) headed
    rcases Tables.chainHeads_write done with ⟨added, _, same⟩ | ⟨added, _, adds⟩ | same
    · rw [show ({ put with steps := tables.steps + 1 } : Tables).chainHeads
        = Tables.upserted (·.chain) tables.chainHeads added from same]
      exact Tables.exists_key_upserted ⟨row, mem, rfl⟩
    · have grown := (Tables.inserted_eq adds).1
      exact ⟨row, by rw [grown]; exact mem_append_left _ mem, rfl⟩
    · exact ⟨row, by rw [same]; exact mem, rfl⟩
  · rw [after]
    exact headed

inductive HeadMove where
  | commitV2 (body : Value)
  | setPathHead (body : Value)
  | setHead (body : Value)

variable {env : Env}

def moveHead : HeadMove → Operation env Value
  | .commitV2 body => Vault.commitV2FromBody body
  | .setPathHead body => Vault.setPathHeadFromBody body
  | .setHead body => Vault.setHeadFromBody body

theorem continues_act (config : Config (vault env) HeadMove Text Value)
    (action : Action (vault env) HeadMove)
    : Continues config.state (config.act moveHead action).state := by
  have run := Config.run_state_induction moveHead config (Continues config.state)
    (fun tables cmd continues => continues.trans (continues_exec env tables cmd))
    (fun tables event _ => isEmptyElim event) (refl config.state) [action]
  exact run

variable {past : List Tables} {record : Record} {request : ScopeRequest} {resolution : Resolution}
  {moment : Moments} {accepted : Text → Tables}

structure BoundBy (env : Env) (past : List Tables) (record : Record) (request : ScopeRequest)
    (resolution : Resolution) (moment : Moments) (accepted : Text → Tables)
    : Prop where
  requested : normalizeScopeRequest record.scopeRequest = .ok request
  resolved : resolveChainSet moment request = .ok resolution
  nonempty : resolution.resolved ≠ []
  snapshot
    : record.boundSnapshot
      = snapshotOf env request resolution (readHeadsSnapshot accepted resolution.resolved)
  moments : ∀ read, moment read ∈ past
  heads : ∀ chain, accepted chain ∈ past
  shown
    : ∀ item ∈ record.evidence,
        item.authorityClass = .chainHead → record.scopeSnapshot.Heads item

def Bound (env : Env) (past : List Tables) (record : Record) : Prop :=
  ∃ request resolution moment accepted, BoundBy env past record request resolution moment accepted

theorem Bound.mono {past' : List Tables} (bound : Bound env past record) (subset : past ⊆ past')
    : Bound env past' record := by
  obtain ⟨request, resolution, moment, accepted, by'⟩ := bound
  exact
    ⟨request, resolution, moment, accepted,
      { by' with
        moments := fun read => subset (by'.moments read)
        heads := fun chain => subset (by'.heads chain) }⟩

theorem Bound.updatedBy {new : Record} (bound : Bound env past record)
    : Bound env past (record.updatedBy new) := by
  obtain ⟨request, resolution, moment, accepted, by'⟩ := bound
  exact
    ⟨request, resolution, moment, accepted, by'.requested, by'.resolved, by'.nonempty, by'.snapshot,
      by'.moments, by'.heads, by'.shown⟩

theorem Bound.expanded {render : Renderer} {asked : ExpandRequest} {now : Text}
    (bound : Bound env past record)
    : Bound env past (record.expanded render asked now) := by
  obtain ⟨request, resolution, moment, accepted, by'⟩ := bound
  have same : (record.deepened render asked.targetLod).evidence = record.evidence
      ∧ (record.deepened render asked.targetLod).scopeSnapshot = record.scopeSnapshot
      ∧ (record.deepened render asked.targetLod).scopeRequest = record.scopeRequest
      ∧ (record.deepened render asked.targetLod).boundSnapshot = record.boundSnapshot := by
    unfold Record.deepened
    extract_lets lost
    split
    · exact ⟨rfl, rfl, rfl, rfl⟩
    · exact ⟨rfl, rfl, rfl, rfl⟩
  refine ⟨request, resolution, moment, accepted, ?_, by'.resolved, by'.nonempty, ?_, by'.moments,
    by'.heads, ?_⟩
  · exact (congrArg normalizeScopeRequest same.2.2.1).trans by'.requested
  · exact same.2.2.2.trans by'.snapshot
  · intro item mem
    have shown := by'.shown item (same.1 ▸ mem)
    exact fun class' => same.2.1.symm ▸ shown class'

/-- The vault with the tables it went through, and the stored responses. -/
structure World (env : Env) where
  vault : Config (vault env) HeadMove Text Value
  past : List Tables
  responses : List Record

/-- What happens next. A create call finds the tables of each of its queries among those that the vault
went through.
-/
inductive Event (env : Env) where
  | move (action : Action (vault env) HeadMove)
  | create (args : Value) (reads : Read → Nat)
  | expand (args : Value)

namespace World

variable {args : Value}

def init (tables : Tables) : World env where
  vault := Config.init tables
  past := [tables]
  responses := []

/-- The tables at this time. -/
def now (world : World env) : Tables :=
  world.vault.state

/-- The tables that a query finds. -/
def found (world : World env) (instant : Nat) : Tables :=
  (world.past[instant]?).getD world.now

/-- The time that a call stamps. -/
def clock (world : World env) : Text :=
  env.now world.now.steps

variable (host : Host) (render : Renderer)

/-- An expand call at this time. -/
def expand (world : World env) (args : Value) : ExpandAnswer × Option Record :=
  expandGroundedResponseFromBody env render (fun _ => world.now) world.responses args world.clock

def step (world : World env) : Event env → World env
  | .move action =>
    let vault := world.vault.act moveHead action
    { world with vault, past := world.past ++ [vault.state] }
  | .create args reads =>
    match createGroundedResponseFromBody env host (fun read => world.found (reads read)) render args
        world.clock with
    | .error _ => world
    | .ok record => { world with responses := persistGroundedResponse world.responses record }
  | .expand args =>
    match (world.expand render args).2 with
    | none => world
    | some record => { world with responses := persistGroundedResponse world.responses record }

/-- Any events, from left to right. -/
def run (world : World env) (events : List (Event env)) : World env :=
  events.foldl (step host render) world

/-- The vault went on since each earlier time, and every stored response is bound to a snapshot. -/
structure Sound (world : World env) : Prop where
  present : world.now ∈ world.past
  continues : ∀ tables ∈ world.past, Continues tables world.now
  bound : ∀ record ∈ world.responses, Bound env world.past record

variable {host} {render} {world : World env}

theorem Sound.found (sound : world.Sound) (when : Nat) : world.found when ∈ world.past := by
  unfold World.found
  cases known : world.past[when]? with
  | none => exact sound.present
  | some tables => exact mem_of_getElem? known

theorem Sound.created {reads : Read → Nat} {now : Text} {record : Record} (sound : world.Sound)
    (done
      : createGroundedResponseFromBody env host (fun read => world.found (reads read)) render args now
        = .ok record)
    : Bound env world.past record := by
  obtain ⟨request, resolution, requested, resolved, some', snapshot, own, shown⟩ :=
    exists_of_created done
  exact
    ⟨request, resolution, _, _, requested, resolved, some', own.trans snapshot,
      fun read => sound.found _, fun chain => sound.found _, shown⟩

/-- A stored record stays bound when another one is stored. -/
theorem bound_persisted {past : List Tables} {responses : List Record} {record : Record}
    (bound : ∀ old ∈ responses, Bound env past old) (new : Bound env past record)
    : ∀ old ∈ persistGroundedResponse responses record, Bound env past old := by
  intro old mem
  unfold persistGroundedResponse at mem
  split at mem
  · obtain ⟨before, present, rfl⟩ := mem_updateWhere.mp mem
    split
    · exact (bound before present).updatedBy
    · exact bound before present
  · rcases mem_append.mp mem with kept | added
    · exact bound old kept
    · cases mem_singleton.mp added
      exact new

theorem mem_of_readExpand {responses : List Record} {record : Record} {request : ExpandRequest}
    (found : readExpand env responses args = .ok (record, request))
    : record ∈ responses := by
  unfold readExpand at found
  split at found
  · cases found
  · split at found
    · cases found
    · split at found
      · cases found
      · rename_i stored located
        split at found
        · cases found
        · obtain ⟨rfl, _⟩ := Prod.mk.inj (ok.inj found)
          exact mem_of_find?_eq_some located

theorem Sound.expanded {record : Record} (sound : world.Sound)
    (persisted : (world.expand render args).2 = some record)
    : Bound env world.past record := by
  unfold World.expand expandGroundedResponseFromBody at persisted
  split at persisted
  · cases persisted
  · rename_i stored request found
    split at persisted
    · cases persisted
    · split at persisted
      · cases persisted
      · extract_lets shown swapped known at persisted
        split at persisted
        · obtain rfl := Option.some.inj persisted
          exact (sound.bound stored (mem_of_readExpand found)).expanded
        · cases persisted

theorem Sound.step (sound : world.Sound) (event : Event env)
    : (world.step host render event).Sound := by
  cases event with
  | move action =>
    have onward := continues_act world.vault action
    refine ⟨?_, fun tables mem => ?_, fun record mem => ?_⟩
    · exact mem_append_right _ (mem_singleton.mpr rfl)
    · rcases mem_append.mp mem with prior | last
      · exact (sound.continues tables prior).trans onward
      · cases mem_singleton.mp last
        exact refl _
    · exact (sound.bound record mem).mono (subset_append_left _ _)
  | create args reads =>
    simp only [World.step]
    split
    · exact sound
    · rename_i record done
      exact ⟨sound.present, sound.continues, bound_persisted sound.bound (sound.created done)⟩
  | expand args =>
    simp only [World.step]
    split
    · exact sound
    · rename_i record persisted
      exact
        ⟨sound.present, sound.continues,
          bound_persisted sound.bound (sound.expanded persisted)⟩

theorem sound_init (tables : Tables) : (init tables : World env).Sound where
  present := mem_singleton.mpr rfl
  continues := by
    intro prior mem
    cases mem_singleton.mp mem
    exact refl _
  bound := by
    intro record mem
    cases mem

/-- Witness: induction on the events. -/
theorem Sound.run (sound : world.Sound) (events : List (Event env))
    : (world.run host render events).Sound := by
  induction events generalizing world with
  | nil => exact sound
  | cons event rest ih => exact ih (sound.step event)

end World

def scopeHeads (tables : Tables) (scope : Value) : Except Refusal (List ChainHead) := do
  let request ← normalizeScopeRequest scope
  let resolution ← resolveChainSet (fun _ => tables) request
  .ok (readHeadsSnapshot (fun _ => tables) resolution.resolved)

theorem maxChains_pos {scope : Value} (requested : normalizeScopeRequest scope = .ok request)
    : 0 < request.maxChains := by
  unfold normalizeScopeRequest at requested
  split at requested
  · cases requested
  · cases requested
    have bounds (value : Value) : 0 < clampTruncated value DEFAULT_VAULT_MAX_CHAINS MAX_VAULT_MAX_CHAINS := by
      unfold clampTruncated DEFAULT_VAULT_MAX_CHAINS MAX_VAULT_MAX_CHAINS
      split
      · extract_lets truncated
        omega
      · omega
    exact bounds _

theorem freshness_of_bound {now : Tables} (bound : Bound env past record)
    (continues : ∀ tables ∈ past, Continues tables now)
    : ∃ heads current, scopeHeads now record.scopeRequest = .ok heads
      ∧ checkAuthorityFreshness env (fun _ => now) record
        = .ok (decide (heads ≠ record.scopeSnapshot.chains), current) := by
  obtain ⟨request, resolution, moment, accepted, by'⟩ := bound
  have onward (read : ScopeRead) : Continues (moment read) ((fun _ => now : Moments) read) :=
    continues (moment read) (by'.moments read)
  obtain ⟨resolution', resolved', some'⟩ :=
    resolveChainSet_of_continues onward (maxChains_pos by'.requested) by'.resolved by'.nonempty
  let heads := readHeadsSnapshot (fun _ => now) resolution'.resolved
  have current : resolveScope env (fun _ => now) request
      = .ok (snapshotOf env request resolution' heads) :=
    resolveScope_instant resolved' some'
  refine ⟨heads, snapshotOf env request resolution' heads, ?_, ?_⟩
  · exact
      bind_eq_ok.mpr ⟨request, by'.requested, bind_eq_ok.mpr ⟨resolution', resolved', rfl⟩⟩
  · have same : sameAuthoritySnapshot
          (snapshotOf env request resolution (readHeadsSnapshot accepted resolution.resolved))
          (snapshotOf env request resolution' heads) = true
        ↔ readHeadsSnapshot accepted resolution.resolved = heads :=
      sameAuthoritySnapshot_iff (map_chain_readHeadsSnapshot accepted resolution.resolved)
        (map_chain_readHeadsSnapshot (fun _ => now) resolution'.resolved)
    rw [← by'.snapshot] at same
    have chains : record.scopeSnapshot.chains = readHeadsSnapshot accepted resolution.resolved :=
      congrArg ScopeSnapshot.chains by'.snapshot
    have digest : record.authorityDigest
        = digestOf env (authorityPayload env.localeLe record.scopeSnapshot.chains) := by
      rw [chains]
      exact congrArg ScopeSnapshot.authorityDigest by'.snapshot
    unfold checkAuthorityFreshness resolveScopeFromBody
    simp only [by'.requested, current]
    congr 2
    by_cases fresh : heads = record.scopeSnapshot.chains
    · rw [same.mpr (chains.symm.trans fresh.symm)]
      have own : (snapshotOf env request resolution' heads).authorityDigest
          = record.authorityDigest := by
        rw [digest, ← fresh]
        rfl
      rw [own]
      simp [fresh]
    · have differs : sameAuthoritySnapshot record.boundSnapshot
          (snapshotOf env request resolution' heads) = false := by
        rw [eq_false_iff]
        exact fun agrees => fresh (chains.trans (same.mp agrees)).symm
      rw [differs]
      simp [fresh]

namespace Sample

def numberOf : Value → Number
  | .number n => n
  | _ => .nan

def sampleEnv : Env :=
  { Vault.quietEnv with toNumber := numberOf }

def stone (hash path : String) : Vault.StoneRow where
  hash := text hash
  title := text "Notes"
  author := text "agent"
  createdAt := text "2026-01-01T00:00:00.000Z"
  repo := none
  commitSha := none
  parentHash := none
  chainHash := some (text "notes")
  rawKey := text "raw"
  stoneJson := .null
  path := some (text path)

/-- A chain with an accepted head, an accepted path, and a newer stone for that path. -/
def tables : Tables where
  raw := [(text "raw", text "fact")]
  stones := [stone "head0001" "head.md", stone "fact0001" "facts.md", stone "fact0002" "facts.md"]
  refs :=
    [{ refId := text "ref:1", stoneHash := text "fact0001", path := text "facts.md", lineStart := 1
       lineEnd := 1, keywords := [], preview := [], rawKey := text "raw" }]
  refsFts := []
  receipts := []
  edges := []
  pathHeads :=
    [{ chain := text "notes", path := text "facts.md", headHash := text "fact0001", updatedAt := [] }]
  chainHeads := [{ chain := text "notes", headHash := text "head0001", updatedAt := [] }]
  steps := 0

def hit : Hit where
  refId := text "ref:1"
  stoneHash := text "fact0001"
  chain := text "notes"
  path := text "facts.md"
  repo := none
  commitSha := none
  score := 0

def host : Host where
  hits _ _ _ _ _ _ := [hit]
  decodedStart bytes s := s.take bytes
  skeleton _ _ _ _ := .ok .null

def render : Renderer :=
  fun _ _ _ _ _ => .null

def question : Value :=
  .literal
    [(text "question", .string (text "facts")),
      (text "scope",
        .literal
          [(text "mode", .string (text "single_chain")),
            (text "chains", .array [some (.string (text "notes"))])])]

def created : World sampleEnv :=
  (World.init tables).run host render [.create question (fun _ => 0)]

def responseId : Text :=
  (created.responses.head?.map (·.responseId)).getD []

def expandCall : Value :=
  .literal
    [(text "response_id", .string responseId),
      (text "response_lod", .number (.ofNat 2 (by norm_num)))]

def headCall (path hash : String) : Value :=
  .literal
    [(text "chain", .string (text "notes")), (text "path", .string (text path)),
      (text "hash", .string (text hash))]

/-- The response, then a call that moves a head. -/
def events (move : HeadMove) : List (Event sampleEnv) :=
  .create question (fun _ => 0) :: .move (.spawn move)
    :: List.replicate 5 (.move (.step 0))

def moved (move : HeadMove) : World sampleEnv :=
  (World.init tables).run host render (events move)

def answers (world : World sampleEnv) (test : Record → ExpandRequest → ExpandAnswer → Bool) : Bool :=
  match readExpand sampleEnv world.responses expandCall with
  | .error _ => false
  | .ok (record, request) => test record request (world.expand render expandCall).1

theorem exists_of_answers {world : World sampleEnv} {test : Record → ExpandRequest → ExpandAnswer → Bool}
    (holds : answers world test = true)
    : ∃ record request, readExpand sampleEnv world.responses expandCall = .ok (record, request)
      ∧ test record request (world.expand render expandCall).1 = true := by
  unfold answers at holds
  split at holds
  · cases holds
  · rename_i record request found
    exact ⟨record, request, found, holds⟩

def showsChainHead (record : Record) (request : ExpandRequest) : Bool :=
  !request.viewOriginal
  && record.evidence.any (fun item =>
    item.authorityClass = .chainHead ∧ item.chain = text "notes" ∧ item.stoneHash = text "head0001")

def showsPathHead (record : Record) (request : ExpandRequest) (answer : ExpandAnswer) : Bool :=
  !request.viewOriginal && answer.error == none
  && record.evidence.any (fun item =>
    item.authorityClass = .pathHead ∧ item.chain = text "notes" ∧ item.path = some (text "facts.md")
      ∧ item.stoneHash = text "fact0001")

end Sample

open Sample

end CairnStone.GroundedResponse
