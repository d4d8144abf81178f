import CairnStone.JavaScript.Members
import CairnStone.Vault.Obligations
import CairnStone.Vault.RepoStones

/-! What the creation of a stone and a commit keep to, for any promise: the row is made from the input,
its content was stored before it, and a head is moved to what was created or found.
-/

namespace CairnStone.Vault

open JavaScript Data Concurrency List Tables Option Prod

variable {env : Env} {promise : Nat → Command → History (vault env) → Prop} {Call : Type} {t : Nat}
  {call : Call} {α β : Type} {R : α → History (vault env) → Prop} {h h' h'' : History (vault env)}
  {content : Text} {input : StoneInput}

/-- A content is put under its own key. -/
def Keyed (env : Env) : Command → Prop
  | .write (.putRaw rawKey content) => rawKey = rawKeyOf env content
  | _ => True

/-- Without collisions, content under one key is one content. -/
theorem toWellFormed_eq_of_rawKey (strong : CollisionFree env.sha256) {a b : Text}
    (same : rawKeyOf env a = rawKeyOf env b)
    : toWellFormed a = toWellFormed b := by
  unfold rawKeyOf at same
  rw [append_assoc, append_assoc] at same
  exact strong a b (append_cancel_right (append_cancel_left same))

theorem rawAt_keyed (strong : CollisionFree env.sha256) {tables : Tables}
    (stored : tables.rawAt (rawKeyOf env content) = some (toWellFormed content))
    {cmd : Command} (keyed : Keyed env cmd)
    : (exec env cmd tables).2.rawAt (rawKeyOf env content)
      = some (toWellFormed content) := by
  refine rawAt_exec stored (fun stmt issued => ?_)
  subst issued
  cases stmt with
  | putRaw rawKey other =>
    intro same
    obtain rfl : rawKey = rawKeyOf env other := keyed
    exact toWellFormed_eq_of_rawKey strong same
  | _ => trivial

/-- It stays from one instant to a later one. -/
theorem rawAt_kept (strong : CollisionFree env.sha256)
    (keyed : ∀ {u cmd g}, promise u cmd g → Keyed env cmd)
    (lives : Lives promise h) (lives' : Lives promise h') (le : h.log <:+ h'.log)
    (stored : h.state.rawAt (rawKeyOf env content) = some (toWellFormed content))
    : h'.state.rawAt (rawKeyOf env content) = some (toWellFormed content) := by
  let Stored (g : History (vault env)) : Prop :=
    g.state.rawAt (rawKeyOf env content) = some (toWellFormed content)
  exact lives.grow (J := Stored) lives' le (Kept.respects_true h') stored
    (fun _ _ due _ stored => rawAt_keyed strong stored (keyed due))

def inlineInput (body : StoneBody) (author content : Text) : StoneInput where
  title := body.title.or (.string (text "Inline CairnStone"))
  author := author
  content := content
  path := body.path.or (.string (text "content.txt"))
  repo := body.repo.or .null
  commit := body.commit.or .null
  metadata := if body.metadata.isObject then body.metadata else .literal []

def fetchedInput (body : StoneBody) (author : Text) (fetched : GitHubContent) : StoneInput where
  title := body.title.or (.string (fetched.github.titleAt fetched.github.ref))
  author := author
  content := fetched.content
  path := .string fetched.github.path
  repo := .string fetched.github.fullName
  commit := .string fetched.github.ref
  metadata := githubMetadata body.metadata fetched.github.members fetched.fetch

def FetchedFor (env : Env) (spec : GitHubSpec) (fetched : GitHubContent) : Prop :=
  safeFile spec = some fetched.github ∧ fetched.fetch = fetchRecord env fetched.content

/-- What `normalizeStoneInput` makes of a body. -/
inductive Normalizes (env : Env) (body : StoneBody) : StoneInput → Prop where
  | inline (author content : Text) (given : inlineContent body.content = some content)
      : Normalizes env body (inlineInput body author content)
  | fetched (author : Text) (spec : GitHubSpec) (fetched : GitHubContent)
      (blank : inlineContent body.content = none) (asked : githubSpecFromBody env body = some spec)
      (fetches : FetchedFor env spec fetched)
      : Normalizes env body (fetchedInput body author fetched)

structure Stores (env : Env) (input : StoneInput) (created : Text) (parent chain : Value)
    (built : BuiltStone) (row : StoneRow)
    : Prop where
  hash : row.hash = built.hash
  rawKey : row.rawKey = built.rawKey
  stoneJson : row.stoneJson = jsonCopy built.stone
  createdAt : row.createdAt = created
  chain : columnOf env chain = some row.chainHash
  path : columnOf env input.path = some row.path
  pathStored : row.path.isSome

theorem keeps_fetch_bind {spec : GitHubSpec} {g : Except Text GitHubContent → Operation env α}
    (free : ∀ cmd h, Harmless cmd → promise t cmd h)
    (refused : ∀ error h', Onward promise Call h h' → Keeps promise t call (g (.error error)) R h')
    (next
      : ∀ fetched h1, FetchedFor env spec fetched → Later promise Call t h h1
        → env.fetchFile h1.state.steps fetched.github = .text fetched.content
        → Keeps promise t call (g (.ok fetched)) R (h1.exec t (.fetchFile fetched.github)))
    : Keeps promise t call ((fetchGitHubFile spec).bind g) R h := by
  unfold fetchGitHubFile
  cases safe : safeFile spec with
  | none => exact keeps_fail
  | some file =>
    have harmless (h : History (vault env)) : promise t (.fetchFile file) h :=
      free (.fetchFile file) h trivial
    refine keeps_fetchFile_bind (fun h1 later => ⟨harmless h1, ?_⟩)
    have onward := later.step (harmless h1)
    cases fetched : env.fetchFile h1.state.steps file with
    | threw message => exact keeps_fail
    | refused error => exact refused error _ onward
    | text content =>
      by_cases large : spec.maxBytes < utf8ByteLength content
      · simp only [Program.done_bind, large, if_true]
        exact refused _ _ onward
      · simp only [Program.done_bind, large, if_false]
        exact next ⟨file, content, fetchRecord env content⟩ h1 ⟨safe, rfl⟩ later fetched

variable {body : StoneBody}

theorem keeps_normalizeStoneInput (free : ∀ cmd h, Harmless cmd → promise t cmd h)
    : Keeps promise t call (normalizeStoneInput body) (fun input _ => Normalizes env body input) h := by
  unfold normalizeStoneInput
  refine keeps_requiredString_bind (fun author _ _ => ?_)
  cases given : inlineContent body.content with
  | some content => exact keeps_done (fun _ _ => .inline author content given)
  | none =>
    cases asked : githubSpecFromBody env body with
    | none => exact keeps_fail
    | some spec =>
      refine keeps_fetch_bind free (fun _ _ _ => keeps_fail) (fun fetched h1 fetches _ _ => ?_)
      exact keeps_done (fun _ _ => .fetched author spec fetched given asked fetches)

theorem keeps_stoneRow {made : Text} {parent chain : Value} {built : BuiltStone}
    : Keeps promise t call (stoneRow input made parent chain built)
        (fun row _ => Stores env input made parent chain built row) h := by
  unfold stoneRow
  refine keeps_boundText_bind (fun title _ => ?_)
  refine keeps_bound_bind (fun repo _ => ?_)
  refine keeps_bound_bind (fun commitSha _ => ?_)
  refine keeps_bound_bind (fun parentHash _ => ?_)
  refine keeps_bound_bind (fun chainHash chainColumn => ?_)
  refine keeps_boundText_bind (fun path pathColumn => ?_)
  exact keeps_done (fun _ _ => ⟨rfl, rfl, rfl, rfl, chainColumn, pathColumn, rfl⟩)

theorem keeps_requireEach {statements : List Write}
    (due : ∀ stmt ∈ statements, ∀ h1, promise t (.write stmt) h1)
    : Keeps promise t call (requireEach statements) (fun _ _ => True) h := by
  induction statements generalizing h with
  | nil => exact keeps_done (fun _ _ => trivial)
  | cons stmt rest ih =>
    refine keeps_require_bind (fun h1 _ =>
      ⟨due stmt (.head _) h1, fun _ => ?_⟩)
    exact ih (fun other mem => due other (.tail _ mem))

theorem keeps_storeStone_present {row : StoneRow} {built : BuiltStone}
    (free : ∀ cmd h, Harmless cmd → promise t cmd h)
    (insert : ∀ h1, Later promise Call t h h1 → promise t (.write (.insertStone row)) h1)
    (chunk : ∀ ref h1, promise t (.write (.insertRef ref)) h1)
    (receipt : ∀ receipt h1, promise t (.write (.insertReceipt receipt)) h1)
    : Keeps promise t call (storeStone row built) (fun _ h' => row ∈ h'.state.stones) h := by
  unfold storeStone
  refine keeps_require_bind (fun h1 later1 => ⟨insert h1 later1, fun works => ?_⟩)
  have onward1 := later1.step (insert h1 later1)
  have here : row ∈ (h1.exec t (.write (.insertStone row))).state.stones := by
    obtain ⟨written, done, run⟩ := exec_write_of_succeeds works
    have appends := appends_write done
    rw [History.exec_state, show _ = _ from congrArg snd run]
    change row ∈ written.stones
    rw [appends.stones]
    exact mem_append_right _ (mem_singleton.mpr rfl)
  have stays (h2 : History (vault env))
      (onward : Onward promise Call (h1.exec t (.write (.insertStone row))) h2)
      : row ∈ h2.state.stones :=
    (onward.grows onward1.lives).stones.subset here
  refine keeps_bind (keeps_requireEach (fun stmt mem h2 => ?_)) (fun _ h2 onward2 _ => ?_)
  · obtain ⟨ref, _, rfl⟩ := mem_map.mp mem
    exact chunk ref h2
  refine keeps_harmless_bind (harmless_ftsIndexRefs _) free (fun _ h3 onward3 => ?_)
  refine keeps_require (fun h4 later4 => ⟨receipt _ h4, fun _ h5 later5 => ?_⟩)
  have onward4 := later4.step (receipt (receiptRow env built) h4)
  exact stays h5 (((onward2.trans onward3).trans onward4).trans later5.onward)

def StoneBody.related? (body : StoneBody) : Value :=
  match body.related with
  | .array slots => .array slots
  | _ => .array []

def madeStone (env : Env) (body : StoneBody) (input : StoneInput) (created : Text) : BuiltStone :=
  buildStone env input created body.related? (body.parent.or .null) (body.chain.or .null)

theorem Normalizes.isObject_metadata (normalizes : Normalizes env body input)
    : input.metadata.isObject := by
  cases normalizes with
  | inline author content given =>
    unfold inlineInput
    split
    · assumption
    · rfl
  | fetched author spec fetched blank asked fetches => rfl

theorem Stores.metadata {made : Text} {parent chain : Value} {row : StoneRow}
    (stores : Stores env input made parent chain (madeStone env body input made) row)
    (normalizes : Normalizes env body input)
    : row.metadata = jsonCopy input.metadata := by
  have held : row.stoneJson.get (text "metadata") = jsonCopy input.metadata := by
    rw [stores.stoneJson]
    refine (get_jsonCopy_literal (text "metadata") ?_).trans ?_
    · change ([text "border", text "layers", text "related", text "metadata"] : List Text).Nodup
      decide
    · rfl
  unfold StoneRow.metadata
  rw [held]
  have isObject := normalizes.isObject_metadata
  cases metadata : input.metadata with
  | object proto properties => rfl
  | _ =>
    rw [metadata] at isObject
    cases isObject

theorem keeps_createStoneFromBody {S : StoneRow → History (vault env) → Prop}
    (free : ∀ cmd h, Harmless cmd → promise t cmd h)
    (put : ∀ content h, promise t (.write (.putRaw (rawKeyOf env content) content)) h)
    (store
      : ∀ input made row h1 h2, Onward promise Call h h1 → Lives promise h1
        → Normalizes env body input
        → Stores env input made (body.parent.or .null) (body.chain.or .null)
            (madeStone env body input made) row
        → h1.state.rawAt (rawKeyOf env input.content) = some (toWellFormed input.content)
        → Onward promise Call h1 h2
        → Keeps promise t call (storeStone row (madeStone env body input made))
            (fun _ h' => S row h') h2)
    (stable : ∀ row h1 h2, S row h1 → Onward promise Call h1 h2 → S row h2)
    (head
      : ∀ row stamp h1, S row h1 → Clocked env stamp
        → columnOf env (body.chain.or .null) = some row.chainHash → body.setAsHead.truthy
        → ∀ chain, row.chainHash = some chain
        → promise t (.write (.upsertHead ⟨chain, row.hash, stamp⟩)) h1)
    : Keeps promise t call (createStoneFromBody body)
        (fun made h' => ∃ row, row.hash = made.stoneHash ∧ S row h') h := by
  unfold createStoneFromBody
  refine keeps_bind (keeps_normalizeStoneInput free) (fun input h1 onward1 normalizes => ?_)
  refine keeps_clock_bind (fun h => free .now h trivial) (fun made h2 onward2 clocked => ?_)
  refine keeps_require_bind (fun h3 later3 => ⟨put input.content h3, fun works => ?_⟩)
  have onward3 := later3.step (put input.content h3)
  have stored : (h3.exec t (.write (.putRaw (rawKeyOf env input.content) input.content))).state.rawAt
      (rawKeyOf env input.content) = some (toWellFormed input.content) := by
    obtain ⟨written, done, run⟩ := exec_write_of_succeeds works
    cases done
    rw [History.exec_state, show _ = _ from congrArg snd run]
    have put := rawAt_putRaw h3.state (rawKeyOf env input.content)
      (toWellFormed input.content) (rawKeyOf env input.content)
    rw [if_pos rfl] at put
    exact put
  refine keeps_bind keeps_stoneRow (fun row h4 onward4 stores => ?_)
  have before := (onward1.trans onward2).trans onward3
  refine keeps_bind (store input made row _ h4 before onward3.lives normalizes stores stored onward4)
    (fun _ h5 onward5 holds => ?_)
  have hash : row.hash = (madeStone env body input made).hash := stores.hash
  have moved : Keeps promise t call
      (whenever ((body.chain.or .null).truthy && body.setAsHead.truthy)
        (upsertHead (body.chain.or .null) (madeStone env body input made).hash made))
      (fun _ _ => True) h5 := by
    refine keeps_whenever (fun moves => keeps_upsertHead (fun column h6 bound later6 => ?_))
    have chain : row.chainHash = some column := some.inj (stores.chain.symm.trans bound)
    rw [← hash]
    exact head row made h6 (stable row _ _ holds later6.onward) clocked stores.chain
      (Bool.and_eq_true_iff.mp moves).2 column chain
  refine keeps_bind moved (fun _ h6 onward6 _ => ?_)
  exact keeps_done (fun h7 later7 =>
    ⟨row, hash, stable row _ _ holds (onward6.trans later7.onward)⟩)

def fetchedBody (body : StoneBody) (chain author : Text) (fetched : GitHubContent) (sha : Text)
    : StoneBody :=
  { body with
    chain := .string chain
    author := .string author
    title := body.title.or (.string (fetched.github.titleAt sha))
    content := .string fetched.content
    path := .string fetched.github.path
    repo := .string fetched.github.fullName
    commit := .string sha
    metadata := githubMetadata body.metadata (fetched.github.resolved (some sha)) fetched.fetch }

inductive Sourced (env : Env) (body : StoneBody) (chain author : Text) : StoneBody → Text → Prop where
  | inline (content : Text) (given : inlineContent body.content = some content)
      : Sourced env body chain author
          { body with chain := .string chain, author := .string author } content
  | fetched (spec : GitHubSpec) (fetched : GitHubContent) (sha : Text)
      (blank : inlineContent body.content = none) (asked : githubSpecFromBody env body = some spec)
      (fetches : FetchedFor env spec fetched)
      : Sourced env body chain author (fetchedBody body chain author fetched sha) fetched.content

theorem keeps_commitSource {chain author : Text}
    (free : ∀ cmd h, Harmless cmd → promise t cmd h)
    : Keeps promise t call (commitSource body chain author)
        (fun source _ =>
          ∀ sourced content, source = .ok (sourced, content)
            → Sourced env body chain author sourced content) h := by
  unfold commitSource
  cases given : inlineContent body.content with
  | some content =>
    refine keeps_done (fun _ _ sourced content' same => ?_)
    obtain ⟨rfl, rfl⟩ := mk.inj (Except.ok.inj same)
    exact .inline content given
  | none =>
    unfold fetchGitHubFileFromBody
    cases asked : githubSpecFromBody env body with
    | none => exact keeps_fail
    | some spec =>
      refine keeps_fetch_bind free (fun error _ _ => ?_) (fun fetched h1 fetches _ _ => ?_)
      · refine keeps_done (fun _ _ sourced content same => ?_)
        cases same
      · refine keeps_harmless_bind (harmless_resolveGitHubCommit fetched.github) free
          (fun sha h2 _ => ?_)
        cases sha with
        | none =>
          refine keeps_done (fun _ _ sourced content same => ?_)
          cases same
        | some sha =>
          refine keeps_done (fun _ _ sourced content' same => ?_)
          obtain ⟨rfl, rfl⟩ := mk.inj (Except.ok.inj same)
          exact .fetched spec fetched sha given asked fetches

/-- A search answers a stone that was there. -/
theorem keeps_findExisting {stoneBody : StoneBody} {chain : Text} {dedupe : Bool}
    {S : Text → History (vault env) → Prop}
    (free : ∀ cmd h, Harmless cmd → promise t cmd h)
    (find
      : ∀ path stone h1, columnOf env (stoneBody.path.or (.string (text "content.txt"))) = some path
        → existingStone h1.state chain path (rawKeyOf env content) = some stone
        → Later promise Call t h h1
        → S stone.hash (h1.exec t (.selectExisting chain path (rawKeyOf env content))))
    (stable : ∀ hash h1 h2, S hash h1 → Onward promise Call h1 h2 → S hash h2)
    : Keeps promise t call (findExisting stoneBody chain content dedupe)
        (fun existing h' => ∀ hash, existing = some hash → S hash h') h := by
  unfold findExisting
  cases dedupe with
  | false =>
    refine keeps_done (fun _ _ hash none => ?_)
    cases none
  | true =>
    refine keeps_bound_bind (fun path column => ?_)
    intro h1 later1
    refine ⟨free (.selectExisting chain path (rawKeyOf env content)) h1 trivial, ?_⟩
    refine keeps_done (fun h2 later2 hash answer => ?_)
    obtain ⟨stone, found, rfl⟩ := map_eq_some_iff.mp answer
    exact stable _ _ _ (find path stone h1 column found later1) later2.onward

theorem keeps_commitV2FromBody {body : Value}
    (Accepts : Text → Value → Text → History (vault env) → Prop)
    (free : ∀ cmd h, Harmless cmd → promise t cmd h)
    (create
      : ∀ chain author sourced content h1, Onward promise Call h h1
        → Sourced env (StoneBody.ofValue body) chain author sourced content
        → Keeps promise t call (createStoneFromBody sourced.withoutHead)
            (fun made h' => Accepts chain sourced.path made.stoneHash h') h1)
    (find
      : ∀ chain (sourced : StoneBody) path content stone h1,
        columnOf env (sourced.path.or (.string (text "content.txt"))) = some path
        → existingStone h1.state chain path (rawKeyOf env content) = some stone
        → Onward promise Call h h1
        → Accepts chain sourced.path stone.hash
            (h1.exec t (.selectExisting chain path (rawKeyOf env content))))
    (stable
      : ∀ chain path hash h1 h2, Accepts chain path hash h1 → Onward promise Call h1 h2
        → Accepts chain path hash h2)
    (movesPath
      : ∀ chain path hash column stamp h1, Accepts chain path hash h1 → Clocked env stamp
        → path.truthy → columnOf env path = some (some column)
        → promise t (.write (.upsertPathHead ⟨chain, column, hash, stamp⟩)) h1)
    (movesHead
      : ∀ chain path hash stamp h1, Accepts chain path hash h1 → Clocked env stamp
        → promise t (.write (.upsertHead ⟨chain, hash, stamp⟩)) h1)
    : Keeps promise t call (commitV2FromBody body) (fun _ _ => True) h := by
  unfold commitV2FromBody
  refine keeps_requiredString_bind (fun chain _ _ => ?_)
  refine keeps_requiredString_bind (fun author _ _ => ?_)
  refine keeps_bind (keeps_commitSource free) (fun source h1 onward1 sourcedAs => ?_)
  cases source with
  | error error => exact keeps_done (fun _ _ => trivial)
  | ok source =>
    obtain ⟨sourced, content⟩ := source
    have sourcing := sourcedAs sourced content rfl
    have taken : Keeps promise t call
        (commitStone sourced.withoutHead chain content (!isFalse (body.get (text "dedupe"))))
        (fun stone h' => Accepts chain sourced.path stone.1 h') h1 := by
      unfold commitStone
      refine keeps_bind (keeps_findExisting (S := Accepts chain sourced.path) free
        (fun path stone h2 column found later2 =>
          find chain sourced path content stone h2 column found (onward1.trans later2.onward))
        (stable chain sourced.path)) (fun existing h2 onward2 known => ?_)
      cases existing with
      | some hash =>
        exact keeps_done (fun h3 later3 => stable _ _ _ _ _ (known hash rfl) later3.onward)
      | none =>
        refine keeps_bind (create chain author sourced content h2 (onward1.trans onward2) sourcing)
          (fun made h3 _ accepts => ?_)
        exact keeps_done (fun h4 later4 => stable _ _ _ _ _ accepts later4.onward)
    refine keeps_bind taken (fun stone h2 onward2 accepts => ?_)
    obtain ⟨stoneHash, deduped, refs⟩ := stone
    refine keeps_clock_bind (fun h => free .now h trivial) (fun now h3 onward3 clocked => ?_)
    have accepts3 := stable _ _ _ _ _ accepts onward3
    have path : Keeps promise t call
        (whenever (sourced.path.truthy && !isFalse (body.get (text "set_path_head")))
          (upsertPathHead chain sourced.path stoneHash now)) (fun _ _ => True) h3 := by
      refine keeps_whenever (fun moves => keeps_upsertPathHead (fun column h4 bound later4 => ?_))
      exact movesPath chain _ _ _ _ _ (stable _ _ _ _ _ accepts3 later4.onward) clocked
        (Bool.and_eq_true_iff.mp moves).1 bound
    refine keeps_bind path (fun _ h4 onward4 _ => ?_)
    have accepts4 := stable _ _ _ _ _ accepts3 onward4
    have head : Keeps promise t call
        (whenever (body.get (text "set_as_head")).isTrue
          (upsertHead (.string chain) stoneHash now)) (fun _ _ => True) h4 := by
      refine keeps_whenever (fun _ => keeps_upsertHead (fun column h5 bound later5 => ?_))
      cases (some.inj bound)
      exact movesHead chain _ _ _ _ (stable _ _ _ _ _ accepts4 later5.onward) clocked
    refine keeps_bind head (fun _ h5 _ _ => ?_)
    refine keeps_harmless_bind (harmless_commitEdges stoneHash _) free (fun edges h6 _ => ?_)
    exact keeps_done (fun _ _ => trivial)

theorem keeps_setPathHeadFromBody {body : Value}
    (free : ∀ cmd h, Harmless cmd → promise t cmd h)
    (moves
      : ∀ chain path stamp (row : StoneRow) h1 h2, Lives promise h1 → row ∈ h1.state.stones
        → row.chainHash = some chain → row.path = some path → Onward promise Call h1 h2
        → Clocked env stamp
        → promise t (.write (.upsertPathHead ⟨chain, path, row.hash, stamp⟩)) h2)
    : Keeps promise t call (setPathHeadFromBody body) (fun _ _ => True) h := by
  unfold setPathHeadFromBody
  refine keeps_requiredString_bind (fun chain _ _ => ?_)
  refine keeps_requiredString_bind (fun path _ _ => ?_)
  refine keeps_harmless_bind (harmless_resolveStoneHash _) free (fun got h1 _ => ?_)
  cases got with
  | error error => exact keeps_done (fun _ _ => trivial)
  | ok hash =>
    refine keeps_select_bind (fun h2 later2 => ?_)
    cases stored : h2.state.stoneAt hash with
    | none => exact keeps_done (fun _ _ => trivial)
    | some row =>
      by_cases otherChain : row.chainHash ≠ some chain
      · simpa [otherChain] using keeps_done (fun _ _ => trivial)
      · by_cases otherPath : row.path ≠ some path
        · simpa [otherChain, otherPath] using keeps_done (fun _ _ => trivial)
        · simp only [otherChain, otherPath, if_false]
          have same := find?_some stored
          obtain rfl : row.hash = hash := eq_of_beq same
          refine keeps_clock_bind (fun h => free .now h trivial)
            (fun stamp h3 onward3 clocked => ?_)
          refine keeps_bind (keeps_upsertPathHead (fun column h4 bound later4 => ?_))
            (fun _ _ _ _ => keeps_done (fun _ _ => trivial))
          cases (some.inj bound)
          exact moves chain path stamp row h2 h4 later2.inv (mem_of_find?_eq_some stored)
            (not_not.mp otherChain) (not_not.mp otherPath) (onward3.trans later4.onward) clocked

end CairnStone.Vault
