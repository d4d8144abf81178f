import CairnStone.Vault.Ingestion

/-! Which content an ingestion accepts. The tree of a repository and each of its files are requested
apart, by a ref that may move in between; a later ingestion keeps a stone by the object id that the tree
gave its file.
-/

namespace CairnStone.Vault

open JavaScript Data Concurrency List Bool Tables History Option Config Value

variable {env : Env} {h h' : History (vault env)} {t : Nat} {sha : Value} {content : Text}
  {ingestion : Ingestion} {row : StoneRow} {spec : GitHubSpec} {file : TreeFile}
  {prior : Option PriorStone}

def entriesOf (env : Env) (issued : Issued (vault env)) : List TreeFile :=
  match issued.command with
  | .fetchTree owner repo ref =>
    match env.fetchTree issued.before.steps owner repo ref with
    | .ok files => files
    | .error _ => []
  | _ => []

/-- The files that the thread has listed. -/
def listed (env : Env) (t : Nat) (h : History (vault env)) : List TreeFile :=
  (h.own t).flatMap (entriesOf env)

def Command.lists : Command → Bool
  | .fetchTree _ _ _ => true
  | _ => false

/-- The fetch brought this content, or none. -/
def Fetched.agrees (fetched : Fetched) (content : Text) : Bool :=
  match fetched with
  | .text brought => brought == content
  | _ => true

variable (objects : Value → Text)

/-- A fetch of a file that the thread has listed brings the object that was listed. -/
def FetchesListed (t : Nat) (cmd : Command) (h : History (vault env)) : Prop :=
  match cmd with
  | .fetchFile file =>
    ∀ entry ∈ listed env t h, safeGitHubPath (env.string entry.path) = some file.path
      → (env.fetchFile h.state.steps file).agrees (objects entry.sha) = true
  | _ => True

instance decidableFetchesListed (t : Nat) (cmd : Command) (h : History (vault env))
    : Decidable (FetchesListed objects t cmd h) :=
  match cmd with
  | .fetchFile file =>
    inferInstanceAs
      (Decidable (∀ entry ∈ listed env t h, safeGitHubPath (env.string entry.path) = some file.path
        → (env.fetchFile h.state.steps file).agrees (objects entry.sha) = true))
  | .write _ | .now | .selectExisting _ _ _ | .observeHead _ | .readChainHead _ | .readPathHeads _
  | .fetchTree _ _ _ | .resolveCommit _ _ _ | .report =>
    inferInstanceAs (Decidable True)

/-- What a run accepts is one tree: it lists once, and each path head that it writes names a listed
file, and a stone that records the object of the file and holds its content.
-/
structure OneSnapshot (t : Nat) (h : History (vault env)) : Prop where
  listing : ((h.own t).filter (·.command.lists)).length ≤ 1
  heads
    : ∀ issued ∈ h.own t, ∀ head, issued.command = .write (.upsertPathHead head)
      → ∃ entry ∈ listed env t h, columnOf env entry.path = some (some head.path)
        ∧ ∃ stone ∈ h.state.stones, stone.hash = head.headHash
          ∧ stone.metadata.get (text "sha") = jsonCopy entry.sha
          ∧ h.state.rawAt stone.rawKey = some (toWellFormed (objects entry.sha))

variable {objects}

def Brought (env : Env) (sha : Value) (content : Text) (h : History (vault env)) : Prop :=
  ∃ fetch earlier file entry, fetch :: earlier <:+ h.log ∧ fetch.command = .fetchFile file
    ∧ env.fetchFile fetch.before.steps file = .text content
    ∧ entry ∈ listed env fetch.thread ⟨fetch.before, earlier⟩
    ∧ safeGitHubPath (env.string entry.path) = some file.path ∧ entry.sha = sha

def Records (env : Env) (row : StoneRow) (sha : Value) (h : History (vault env)) : Prop :=
  row.metadata.get (text "sha") = jsonCopy sha
  ∧ ∃ content, Brought env sha content h ∧ row.rawKey = rawKeyOf env content
    ∧ h.state.rawAt (rawKeyOf env content) = some (toWellFormed content)

def Labelled (row : StoneRow) : Prop :=
  ∃ repoFull prior, priorStone repoFull row = some prior

/-- What an ingestion knows of every command that it issues: a stone that can be found again records
what was fetched for it, and a path head names such a stone of a file that was listed.
-/
def IngestionPromise (env : Env) (t : Nat) (cmd : Command) (h : History (vault env)) : Prop :=
  match cmd with
  | .write (.putRaw rawKey content) => rawKey = rawKeyOf env content
  | .write (.insertStone row) => Labelled row → ∃ sha, Records env row sha h
  | .write (.upsertPathHead head) =>
    ∃ entry ∈ listed env t h, columnOf env entry.path = some (some head.path)
      ∧ ∃ stone ∈ h.state.stones, stone.hash = head.headHash ∧ Records env stone entry.sha h
  | .write (.insertHead _) => False
  | .write (.batch _) => False
  | .write (.rebuildFts _ _) => False
  | .fetchTree _ _ _ => (h.own t).filter (·.command.lists) = []
  | _ => True

theorem ingestionPromise_of_harmless (t : Nat) (cmd : Command) (h : History (vault env))
    (harmless : Harmless cmd)
    : IngestionPromise env t cmd h := by
  cases cmd with
  | write stmt => cases stmt <;> trivial
  | fetchTree owner repo ref => exact harmless.elim
  | _ => trivial

theorem keyed_of_ingestion {u : Nat} {cmd : Command} (due : IngestionPromise env u cmd h)
    : Keyed env cmd := by
  cases cmd with
  | write stmt =>
    cases stmt with
    | putRaw rawKey content => exact due
    | _ => trivial
  | _ => trivial

theorem Brought.eq (brought : Brought env sha content h) (respects : h.Respects (FetchesListed objects))
    : content = objects sha := by
  obtain ⟨fetch, earlier, file, entry, le, cmd, reply, mem, path, rfl⟩ := brought
  have now := (respects.earlier (h := ⟨fetch.before, fetch :: earlier⟩) le).1
  rw [cmd] at now
  have agrees := now entry mem path
  rw [reply] at agrees
  exact eq_of_beq agrees

theorem Brought.later (brought : Brought env sha content h) (le : h.log <:+ h'.log)
    : Brought env sha content h' := by
  obtain ⟨fetch, earlier, file, entry, within, rest⟩ := brought
  exact ⟨fetch, earlier, file, entry, within.trans le, rest⟩

theorem listed_later (le : h.log <:+ h'.log) {entry : TreeFile} (mem : entry ∈ listed env t h)
    : entry ∈ listed env t h' := by
  obtain ⟨issued, here, within⟩ := mem_flatMap.mp mem
  exact mem_flatMap.mpr ⟨issued, (own_suffix le t).subset here, within⟩

theorem Lists.listed {files : List TreeFile} {entry : TreeFile}
    (lists : Lists env t ingestion files h) (mem : entry ∈ files)
    : entry ∈ listed env t h := by
  obtain ⟨issued, own, cmd, reply⟩ := lists
  refine mem_flatMap.mpr ⟨issued, own, ?_⟩
  simp only [entriesOf, cmd, reply]
  exact mem

theorem Records.later (strong : CollisionFree env.sha256)
    (records : Records env row sha h) (lives : Lives (IngestionPromise env) h)
    (lives' : Lives (IngestionPromise env) h') (le : h.log <:+ h'.log)
    : Records env row sha h' := by
  obtain ⟨saved, content, brought, key, stored⟩ := records
  exact ⟨saved, content, brought.later le, key,
    rawAt_kept strong keyed_of_ingestion lives lives' le stored⟩

theorem slash_mem_fullName (file : GitHubFile) : (0x2F : CodeUnit) ∈ file.fullName :=
  mem_append_left _ (mem_append_right _ (by decide))

theorem safeGitHubPart_fullName (file : GitHubFile) : safeGitHubPart file.fullName = none := by
  have slash : (0x2F : CodeUnit) ∈ trim file.fullName := mem_trim (by decide) (slash_mem_fullName file)
  unfold safeGitHubPart
  rw [if_neg]
  intro safe
  have all := (and_eq_true_iff.mp safe).2
  have part := all_eq_true.mp all _ slash
  exact absurd part (by decide)

theorem githubSpecFromBody_flat {body : StoneBody} (flat : body.github.isObject = false)
    (asked : githubSpecFromBody env body = some spec)
    : (body.owner.or body.org).truthy ∧ (body.repo.or body.repository).truthy
      ∧ (body.path.or body.filePath).truthy
      ∧ spec.owner = env.string (body.owner.or body.org)
      ∧ spec.repo = env.string (body.repo.or body.repository)
      ∧ spec.path = env.string (body.path.or body.filePath) := by
  unfold githubSpecFromBody at asked
  simp only [flat, false_eq_true, if_false, none_or] at asked
  unfold completeSpec at asked
  split at asked
  · rename_i complete
    cases asked
    simp only [and_eq_true] at complete
    exact ⟨complete.1.1, complete.1.2, complete.2, rfl, rfl, rfl⟩
  · cases asked

theorem safe_of_safeFile {file : GitHubFile} (safe : safeFile spec = some file)
    : safeGitHubPart spec.repo = some file.repo ∧ safeGitHubPath spec.path = some file.path := by
  unfold safeFile at safe
  split at safe
  · rename_i owner repo ref path _ safeRepo _ safePath
    split at safe
    · cases safe
      exact ⟨safeRepo, safePath⟩
    · cases safe
  · cases safe

theorem nodup_fileMetadata (ingestion : Ingestion) (file : TreeFile) (prior : Option PriorStone)
    : ((fileMetadata ingestion file prior).spread.map (·.1)).Nodup := by
  change ([text "kind", text "repo", text "path", text "sha", text "previous_sha",
    text "previous_stone_hash", text "repo_stones_operation"] : List Text).Nodup
  decide

/-- The source of a file is recorded beside what is recorded of the file. -/
theorem get_jsonCopy_githubMetadata {metadata fetch : Value} {github : List (Text × Value)}
    {key : Text} (isObject : metadata.isObject) (nodup : (metadata.spread.map (·.1)).Nodup)
    (others : text "source_type" ≠ key ∧ text "github" ≠ key ∧ text "fetch" ≠ key)
    : (jsonCopy (githubMetadata metadata github fetch)).get key = jsonCopy (metadata.get key) := by
  obtain ⟨type, source, got⟩ := others
  unfold githubMetadata
  simp only [isObject, if_true]
  rw [get_jsonCopy_literal key
    (nodup_setProperty (nodup_setProperty (nodup_setProperty nodup))),
    member_setProperty_of_ne got, member_setProperty_of_ne source,
    member_setProperty_of_ne type]
  cases metadata with
  | object proto properties => rfl
  | _ => cases isObject

theorem normalizes_file {got : GitHubContent} {commit : Option Text} {input : StoneInput}
    (normalizes
      : Normalizes env (gitHubStoneBody (fileBody env ingestion file prior) got commit) input)
    : input.content = got.content
      ∧ input.metadata
        = githubMetadata (fileMetadata ingestion file prior) (got.github.resolved commit)
            got.fetch := by
  cases normalizes with
  | inline author content given =>
    refine ⟨?_, rfl⟩
    change inlineContent (.string got.content) = some content at given
    unfold inlineContent at given
    split at given
    · cases given
    · rename_i same
      exact (some.inj given).symm.trans (string.inj same).symm
    · cases given
  | fetched author spec again blank asked fetches =>
    have flat := githubSpecFromBody_flat rfl asked
    obtain ⟨_, _, _, _, repo, _⟩ := flat
    have named : spec.repo = got.github.fullName := by
      rw [repo]
      change env.string (Value.or (.string got.github.fullName) _) = _
      rw [Value.or, if_pos]
      · rfl
      · exact bne_iff_ne.mpr (ne_nil_of_mem (slash_mem_fullName got.github))
    have safe := (safe_of_safeFile fetches.1).1
    rw [named, safeGitHubPart_fullName] at safe
    cases safe

theorem safePath_of_file {got : GitHubContent}
    (asked : githubSpecFromBody env (fileBody env ingestion file prior) = some spec)
    (fetches : FetchedFor env spec got)
    : safeGitHubPath (env.string file.path) = some got.github.path := by
  obtain ⟨_, _, truthy, _, _, path⟩ := githubSpecFromBody_flat rfl asked
  have given : file.path.or (.undefined : Value) = file.path := by
    unfold Value.or
    split
    · rfl
    · rename_i blank
      change (file.path.or .undefined).truthy = true at truthy
      rw [Value.or, if_neg blank] at truthy
      cases truthy
  have safe := (safe_of_safeFile fetches.1).2
  rw [path] at safe
  change safeGitHubPath (env.string (file.path.or .undefined)) = _ at safe
  rw [given] at safe
  exact safe

variable {Call : Type} {call : Call} {path : Value} {hash : Text}

def Stoned (env : Env) (row : StoneRow) (sha : Value) (h : History (vault env)) : Prop :=
  Lives (IngestionPromise env) h ∧ row ∈ h.state.stones ∧ Records env row sha h

def AcceptsListed (env : Env) (t : Nat) (path : Value) (hash : Text) (h : History (vault env))
    : Prop :=
  ∃ entry ∈ listed env t h, entry.path = path ∧ ∃ row, row.hash = hash ∧ Stoned env row entry.sha h

theorem Stoned.onward (strong : CollisionFree env.sha256)
    (stoned : Stoned env row sha h) (onward : Onward (IngestionPromise env) Call h h')
    : Stoned env row sha h' := by
  obtain ⟨lives, here, records⟩ := stoned
  exact ⟨onward.lives, (onward.grows lives).stones.subset here,
    records.later strong lives onward.lives onward.le⟩

theorem AcceptsListed.onward (strong : CollisionFree env.sha256)
    (accepts : AcceptsListed env t path hash h) (onward : Onward (IngestionPromise env) Call h h')
    : AcceptsListed env t path hash h' := by
  obtain ⟨entry, mem, of, row, same, stoned⟩ := accepts
  exact ⟨entry, listed_later onward.le mem, of, row, same, stoned.onward strong onward⟩

/-- A new stone for a listed file records the object of the file, and holds what was fetched. -/
theorem keeps_listedFile (strong : CollisionFree env.sha256)
    (mem : file ∈ listed env t h)
    : Keeps (IngestionPromise env) t call (stoneFile ingestion file prior)
        (fun stone h' => ∀ hash, stone = some hash → AcceptsListed env t file.path hash h') h := by
  refine keeps_stoneFile (AcceptsListed env t file.path) (ingestionPromise_of_harmless t) ?_
    (fun _ _ _ accepts onward => accepts.onward strong onward)
  intro spec got commit h1 h2 asked fetches later1 reply onward2
  have brought : Brought env file.sha got.content h2 := by
    refine ⟨⟨t, .fetchFile got.github, h1.state⟩, h1.log, got.github, file, onward2.le, rfl,
      reply, listed_later later1.le mem, safePath_of_file asked fetches, rfl⟩
  have listedNow : file ∈ listed env t h2 :=
    listed_later (later1.le.trans ((suffix_cons _ _).trans onward2.le)) mem
  have made : Keeps (IngestionPromise env) t call
      (createStoneFromBody (gitHubStoneBody (fileBody env ingestion file prior) got commit))
      (fun made h' => ∃ row : StoneRow, row.hash = made.stoneHash
        ∧ (file ∈ listed env t h' ∧ Stoned env row file.sha h')) h2 := by
    refine keeps_createStoneFromBody (ingestionPromise_of_harmless t) (fun _ _ => rfl) ?_ ?_
      (fun _ _ _ _ _ _ _ _ _ => trivial)
    · intro input made row h3 h4 onward3 lives3 normalizes stores raw onward4
      obtain ⟨content, metadata⟩ := normalizes_file normalizes
      have saved : row.metadata.get (text "sha") = jsonCopy file.sha := by
        rw [stores.metadata normalizes, metadata,
          get_jsonCopy_githubMetadata rfl (nodup_fileMetadata ingestion file prior) (by decide)]
        rfl
      have key : row.rawKey = rawKeyOf env got.content := by
        rw [← content]
        exact stores.rawKey
      rw [content] at raw
      have records (h5 : History (vault env)) (onward : Onward (IngestionPromise env) Call h3 h5)
          : Records env row file.sha h5 :=
        ⟨saved, got.content, brought.later (onward3.le.trans onward.le), key,
          rawAt_kept strong keyed_of_ingestion lives3 onward.lives onward.le raw⟩
      refine Keeps.weaken (keeps_storeStone_present (ingestionPromise_of_harmless t)
        (fun h5 later5 _ => ⟨file.sha, records h5 (onward4.trans later5.onward)⟩)
        (fun _ _ => trivial) (fun _ _ => trivial)) (fun _ h5 onward5 here => ?_)
      have onward := onward4.trans onward5
      exact ⟨listed_later (onward3.le.trans onward.le) listedNow, onward5.lives, here,
        records h5 onward⟩
    · exact fun row h3 h4 stoned onward =>
        ⟨listed_later onward.le stoned.1, stoned.2.onward strong onward⟩
  refine made.weaken (fun value h3 _ holds => ?_)
  obtain ⟨row, same, still, stoned⟩ := holds
  exact ⟨file, still, rfl, row, same, stoned⟩

/-- A report is not found as the stone of a file. -/
theorem not_labelled_of_kind {kind : Text}
    (kindOf : row.metadata.get (text "kind") = .string kind) (other : kind ≠ text "repo_file")
    : ¬Labelled row := by
  rintro ⟨repoFull, prior, found⟩
  have ingested := (priorStone_some found).1
  simp only [isIngested, and_eq_true, kindOf] at ingested
  exact other (eq_of_beq ingested.2)

theorem keeps_reportStone {title kind : String} {metadata : Value → List (Text × Value)}
    {setAsHead : Bool} (other : text kind ≠ text "repo_file")
    : Keeps (IngestionPromise env) t call (reportStone ingestion title kind metadata setAsHead)
        (fun _ _ => True) h := by
  unfold reportStone
  refine keeps_free_bind (fun _ => trivial) (fun report h1 _ => ?_)
  obtain ⟨content, counted⟩ := report
  refine keeps_bind (keeps_createStoneFromBody (S := fun _ _ => True)
    (ingestionPromise_of_harmless t) (fun _ _ => rfl) ?_ (fun _ _ _ _ _ => trivial)
    (fun _ _ _ _ _ _ _ _ _ => trivial)) (fun _ _ _ _ => keeps_done (fun _ _ => trivial))
  intro input made row h2 h3 _ _ normalizes stores _ _
  have kindOf : row.metadata.get (text "kind") = .string (text kind) := by
    rw [stores.metadata normalizes]
    cases normalizes with
    | inline author content given => rfl
    | fetched author spec got blank asked fetches =>
      obtain ⟨owner, _⟩ := githubSpecFromBody_flat rfl asked
      cases owner
  refine Keeps.weaken (keeps_storeStone_present (ingestionPromise_of_harmless t)
    (fun _ _ labelled => absurd labelled (not_labelled_of_kind kindOf other))
    (fun _ _ => trivial) (fun _ _ => trivial)) (fun _ _ _ _ => trivial)

/-- Every stone that can be found again records what was fetched for it. -/
theorem records_of_labelled (strong : CollisionFree env.sha256)
    (lives : Lives (IngestionPromise env) h)
    : ∀ row ∈ h.state.stones, Labelled row → ∃ sha, Records env row sha h := by
  let Recorded (g : History (vault env)) : Prop :=
    ∀ row ∈ g.state.stones, Labelled row → ∃ sha, Records env row sha g
  refine lives.invariant (J := Recorded) (fun row mem => (by cases mem)) ?_
  intro g u cmd livesNow due saved row mem labelled
  have stays (known : ∃ sha, Records env row sha g)
      : ∃ sha, Records env row sha (g.exec u cmd) := by
    obtain ⟨sha, records⟩ := known
    exact ⟨sha,
      records.later strong livesNow (livesNow.exec due) (suffix_cons _ _)⟩
  rw [exec_state] at mem
  rcases appends_exec env g.state cmd with ⟨stmt, rfl, _, appends⟩ | after
  · rw [appends.stones] at mem
    rcases mem_append.mp mem with old | added
    · exact stays (saved row old labelled)
    · cases stmt with
      | insertStone row' =>
        cases mem_singleton.mp added
        exact stays (due labelled)
      | batch rows => exact due.elim
      | _ => cases added
  · rw [after] at mem
    exact stays (saved row mem labelled)

theorem listing_once (lives : Lives (IngestionPromise env) h) (t : Nat)
    : ((h.own t).filter (·.command.lists)).length ≤ 1 := by
  let Once (g : History (vault env)) : Prop := ((g.own t).filter (·.command.lists)).length ≤ 1
  refine lives.invariant (J := Once) (Nat.zero_le 1) ?_
  intro g u cmd _ due once
  by_cases itself : u = t
  · subst itself
    change ((History.own _ u).filter _).length ≤ 1
    rw [own_exec_self, filter_cons]
    split
    · rename_i again
      cases cmd with
      | fetchTree owner repo ref =>
        have unlisted : (g.own u).filter (·.command.lists) = [] := due
        rw [unlisted]
        exact Nat.le_refl 1
      | _ => cases again
    · exact once
  · change ((History.own _ t).filter _).length ≤ 1
    rw [own_exec_of_ne g itself]
    exact once

theorem keeps_ingestion (strong : CollisionFree env.sha256) (selection : Selection)
    (body : Value) (lives : Lives (IngestionPromise env) h) (fresh : h.own t = [])
    : Keeps (IngestionPromise env) t call (createRepoStonesFromBody selection body)
        (fun _ _ => True) h := by
  let Accepts (_ : Text) (path : Value) (hash : Text) (h : History (vault env)) : Prop :=
    AcceptsListed env t path hash h
  refine keeps_createRepoStonesFromBody Accepts (ingestionPromise_of_harmless t) ?_ ?_ ?_
    (fun _ _ _ _ _ accepts onward => accepts.onward strong onward) ?_
    (fun _ _ _ _ _ _ _ other => keeps_reportStone other) lives
  · intro ingestion h1 _ own
    change (h1.own t).filter _ = []
    rw [own, fresh]
    rfl
  · exact fun ingestion files file prior h1 _ lists mem =>
      keeps_listedFile strong (lists.listed mem)
  · intro ingestion files file prior h1 lives1 lists mem indexed _ unchanged
    obtain ⟨row, here, _, entry⟩ := indexed
    obtain ⟨sha, records⟩ :=
      records_of_labelled strong lives1 row here ⟨_, prior, entry⟩
    obtain ⟨_, _, _, hash, saved⟩ := priorStone_some entry
    simp only [keeps, and_eq_true] at unchanged
    obtain ⟨⟨_, truthy⟩, same⟩ := unchanged
    have known : prior.sha = jsonCopy sha := by
      rw [saved, ← records.1, Value.or]
      split
      · rfl
      · rename_i blank
        rw [saved, Value.or, if_neg blank] at truthy
        cases truthy
    rw [known] at truthy same
    cases eq_of_strictEquals_jsonCopy truthy same
    exact ⟨file, lists.listed mem, rfl, row, hash.symm, lives1, here, records⟩
  · intro chain path hash column stamp h1 accepts bound
    obtain ⟨entry, mem, rfl, row, same, _, here, records⟩ := accepts
    exact ⟨entry, mem, bound, row, here, same, records⟩

/-- An ingestion with the selection of its files. -/
def ingest (call : Selection × Value) : Operation env Value :=
  createRepoStonesFromBody call.1 call.2

/-- Two objects: the old content of a file, and the new one. -/
def twoObjects (id : Value) : Text :=
  if id.strictEquals (.string (text "a")) then text "old" else text "new"

/-- A branch with one file, to which a push moves the new content before the given step. -/
def pushedEnv (pushed : Nat) : Env :=
  let object (steps : Nat) : Value := .string (text (if steps < pushed then "a" else "b"))
  { quietEnv with
    fetchTree := fun steps _ _ _ => .ok [⟨.string (text "p"), .null, object steps⟩]
    fetchFile := fun steps _ => .text (twoObjects (object steps)) }

def plainIngestion : Selection × Value :=
  (⟨fun _ => true, fun _ => false⟩,
    .literal
      [(text "owner", .string (text "o")), (text "repo", .string (text "r")),
        (text "author", .string (text "a")), (text "create_orientation", .bool false),
        (text "create_architecture", .bool false), (text "create_lint", .bool false),
        (text "create_review", .bool false)])

/-- One ingestion, and then another one. -/
def twoIngestions (env : Env) : List (Action (vault env) (Selection × Value)) :=
  .spawn plainIngestion :: List.replicate 13 (.step 0)
    ++ .spawn plainIngestion :: List.replicate 6 (.step 1)

def Command.movesPathHead : Command → Bool
  | .write (.upsertPathHead _) => true
  | _ => false

theorem Command.eq_of_movesPathHead {cmd : Command} (moves : cmd.movesPathHead = true)
    : ∃ row, cmd = .write (.upsertPathHead row) := by
  unfold movesPathHead at moves
  split at moves
  · exact ⟨_, rfl⟩
  · cases moves

theorem collisionFree_pushedEnv (pushed : Nat) : CollisionFree (pushedEnv pushed).sha256 :=
  fun _ _ same => congrArg toWellFormed same

end CairnStone.Vault
