import CairnStone.Vault.Creation

/-! What an ingestion keeps to, for any promise: it moves the path head of a listed file to the stone
that it made for the file, or to one of its chain that an earlier ingestion made.
-/

namespace CairnStone.Vault

open JavaScript Data Concurrency List

variable {env : Env} {promise : Nat → Command → History (vault env) → Prop} {Call : Type} {t : Nat}
  {call : Call} {α β : Type} {R : α → History (vault env) → Prop} {h h' h'' : History (vault env)}
  {ingestion : Ingestion}

theorem harmless_linkQuietly (fromHash toHash : Text) (edgeType : String) (note : Text)
    : (linkQuietly fromHash toHash edgeType note : Operation env Unit).Issues Harmless :=
  (harmless_linkStones _ _ _ _).bind (fun _ => trivial)

theorem harmless_linkEach (fromHash : Text) (edgeType : String) (targets : List (Text × Text))
    : (linkEach fromHash edgeType targets : Operation env Unit).Issues Harmless := by
  induction targets with
  | nil => trivial
  | cons target rest ih => exact (harmless_linkQuietly _ _ _ _).bind (fun _ => ih)

theorem harmless_whenever {cond : Bool} {p : Operation env Unit} (harmless : p.Issues Harmless)
    : (whenever cond p).Issues Harmless := by
  cases cond with
  | true => exact harmless
  | false => trivial

theorem harmless_supersede (ingestion : Ingestion) (file : TreeFile) (stoneHash : Text)
    (prior : Option PriorStone)
    : (supersede ingestion file stoneHash prior : Operation env Unit).Issues Harmless := by
  cases prior with
  | none => trivial
  | some prior => exact harmless_whenever (harmless_linkQuietly _ _ _ _)

theorem harmless_supersedeOrientation (ingestion : Ingestion) (orientation : Text)
    (prior : Option Text)
    : (supersedeOrientation ingestion orientation prior : Operation env Unit).Issues Harmless := by
  cases prior with
  | none => trivial
  | some prior => exact harmless_whenever (harmless_linkQuietly _ _ _ _)

theorem keeps_stoneFile {file : TreeFile} {prior : Option PriorStone}
    (S : Text → History (vault env) → Prop)
    (free : ∀ cmd h, Harmless cmd → promise t cmd h)
    (create
      : ∀ spec got sha h1 h2,
        githubSpecFromBody env (fileBody env ingestion file prior) = some spec
        → FetchedFor env spec got → Later promise Call t h h1
        → env.fetchFile h1.state.steps got.github = .text got.content
        → Onward promise Call (h1.exec t (.fetchFile got.github)) h2
        → Keeps promise t call
            (createStoneFromBody (gitHubStoneBody (fileBody env ingestion file prior) got sha))
            (fun created h' => S created.stoneHash h') h2)
    (stable : ∀ hash h1 h2, S hash h1 → Onward promise Call h1 h2 → S hash h2)
    : Keeps promise t call (stoneFile ingestion file prior)
        (fun stone h' => ∀ hash, stone = some hash → S hash h') h := by
  have made : Keeps promise t call (createStoneFromGitHubBody (fileBody env ingestion file prior))
      (fun result h' => ∀ created, result = .ok created → S created.stoneHash h') h := by
    unfold createStoneFromGitHubBody fetchGitHubFileFromBody
    cases asked : githubSpecFromBody env (fileBody env ingestion file prior) with
    | none => exact keeps_fail
    | some spec =>
      refine keeps_fetch_bind free (fun error h1 _ => ?_) (fun got h1 fetches later1 content => ?_)
      · refine keeps_done (fun _ _ created same => ?_)
        cases same
      · refine keeps_harmless_bind (harmless_resolveGitHubCommit got.github) free
          (fun sha h2 onward2 => ?_)
        refine keeps_bind (create spec got sha h1 h2 asked fetches later1 content onward2)
          (fun created h3 _ holds => ?_)
        refine keeps_done (fun h4 later4 other same => ?_)
        cases same
        exact stable _ _ _ holds later4.onward
  unfold stoneFile
  refine keeps_bind made (fun result h1 onward1 holds => ?_)
  cases result with
  | error error =>
    refine keeps_done (fun _ _ hash same => ?_)
    cases same
  | ok created =>
    refine keeps_harmless_bind (harmless_supersede ingestion file created.stoneHash prior) free
      (fun _ h2 onward2 => ?_)
    refine keeps_done (fun h3 later3 hash same => ?_)
    cases same
    exact stable _ _ _ (holds created rfl) (onward2.trans later3.onward)

def Lists (env : Env) (t : Nat) (ingestion : Ingestion) (files : List TreeFile)
    (h : History (vault env))
    : Prop :=
  ∃ issued ∈ h.own t, issued.command = .fetchTree ingestion.owner ingestion.repo ingestion.ref
    ∧ env.fetchTree issued.before.steps ingestion.owner ingestion.repo ingestion.ref = .ok files

theorem Lists.later {files : List TreeFile} (lists : Lists env t ingestion files h)
    (le : h.log <:+ h'.log)
    : Lists env t ingestion files h' := by
  obtain ⟨issued, mem, listed⟩ := lists
  exact ⟨issued, (History.own_suffix le t).subset mem, listed⟩

def Indexed (tables : Tables) (ingestion : Ingestion) (prior : PriorStone) : Prop :=
  ∃ row ∈ tables.stones, row.chainHash = some ingestion.chain
    ∧ priorStone ingestion.repoFull row = some prior

/-- What the label of a stone says that makes an entry of the index. -/
theorem priorStone_some {repoFull : Text} {row : StoneRow} {prior : PriorStone}
    (entry : priorStone repoFull row = some prior)
    : isIngested row.metadata repoFull "repo_file" ∧ (row.metadata.get (text "path")).truthy
      ∧ prior.path = row.metadata.get (text "path") ∧ prior.stoneHash = row.hash
      ∧ prior.sha = (row.metadata.get (text "sha")).or .null := by
  simp only [priorStone, Option.ite_none_right_eq_some, Bool.and_eq_true] at entry
  obtain ⟨⟨ingested, truthy⟩, made⟩ := entry
  cases made
  exact ⟨ingested, truthy, rfl, rfl, rfl⟩

def AcceptsItem (Accepts : Text → Value → Text → History (vault env) → Prop) (ingestion : Ingestion)
    (item : CurrentStone) (h : History (vault env))
    : Prop :=
  Accepts ingestion.chain item.path item.stoneHash h

theorem mem_of_priorIndex_get {index : PriorIndex} {path : Value} {prior : PriorStone}
    (found : index.get path = some prior)
    : prior ∈ index.byPath ∧ prior.path.strictEquals path := by
  have mem := mem_of_find?_eq_some found
  have same := find?_some found
  exact ⟨mem_reverse.mp mem, same⟩

/-- Every file gets a stone that is accepted for it, or none. Witness: induction on the files. -/
theorem keeps_stoneFiles {index : PriorIndex} {files : List TreeFile}
    (Accepts : Text → Value → Text → History (vault env) → Prop) (rest : List TreeFile)
    (of : ∀ file ∈ rest, file ∈ files)
    (create
      : ∀ file prior h1, Onward promise Call h h1 → file ∈ files
        → Keeps promise t call (stoneFile ingestion file prior)
            (fun stone h' => ∀ hash, stone = some hash → Accepts ingestion.chain file.path hash h') h1)
    (reuse
      : ∀ file prior h1, Onward promise Call h h1 → file ∈ files → prior ∈ index.byPath
        → prior.path.strictEquals file.path → keeps ingestion file prior
        → Accepts ingestion.chain file.path prior.stoneHash h1)
    (stable
      : ∀ chain path hash h1 h2, Accepts chain path hash h1 → Onward promise Call h1 h2
        → Accepts chain path hash h2) (onward : Onward promise Call h h')
    : Keeps promise t call (stoneFiles ingestion index rest)
        (fun stones h'' =>
          ∀ item ∈ stones.1 ++ stones.2, AcceptsItem Accepts ingestion item h'') h' := by
  induction rest generalizing h' with
  | nil =>
    refine keeps_done (fun _ _ item mem => ?_)
    cases mem
  | cons file rest ih =>
    have listed := of file (.head _)
    have later (h1 : History (vault env)) (onward1 : Onward promise Call h h1) :=
      ih (fun other mem => of other (.tail _ mem)) onward1
    unfold stoneFiles
    cases kept : (index.get file.path).filter (keeps ingestion file) with
    | some prior =>
      obtain ⟨found, stays⟩ := Option.filter_eq_some_iff.mp kept
      obtain ⟨indexed, same⟩ := mem_of_priorIndex_get found
      refine keeps_bind (later h' onward) (fun stones h1 onward1 accepts => ?_)
      obtain ⟨created, reused⟩ := stones
      refine keeps_done (fun h2 later2 item mem => ?_)
      rcases mem_append.mp mem with new | old
      · exact stable _ _ _ _ _ (accepts item (mem_append_left _ new)) later2.onward
      · rcases mem_cons.mp old with rfl | other
        · exact reuse file prior h2 ((onward.trans onward1).trans later2.onward) listed indexed
            same stays
        · exact stable _ _ _ _ _ (accepts item (mem_append_right _ other)) later2.onward
    | none =>
      refine keeps_bind (create file _ h' onward listed) (fun stone h1 onward1 made => ?_)
      refine keeps_bind (later h1 (onward.trans onward1)) (fun stones h2 onward2 accepts => ?_)
      obtain ⟨created, reused⟩ := stones
      refine keeps_done (fun h3 later3 item mem => ?_)
      rcases mem_append.mp mem with new | old
      · rcases mem_append.mp new with first | other
        · cases stone with
          | none => cases first
          | some hash =>
            cases mem_singleton.mp first
            exact stable _ _ _ _ _ (made hash rfl) (onward2.trans later3.onward)
        · exact stable _ _ _ _ _ (accepts item (mem_append_left _ other)) later3.onward
      · exact stable _ _ _ _ _ (accepts item (mem_append_right _ old)) later3.onward

/-- Witness: induction on the items. -/
theorem keeps_upsertPathHeads {stamp : Text} {items : List CurrentStone}
    (Accepts : Text → Value → Text → History (vault env) → Prop)
    (stable
      : ∀ chain path hash h1 h2, Accepts chain path hash h1 → Onward promise Call h1 h2
        → Accepts chain path hash h2)
    (movesPath
      : ∀ chain path hash column stamp h1, Accepts chain path hash h1
        → columnOf env path = some (some column)
        → promise t (.write (.upsertPathHead ⟨chain, column, hash, stamp⟩)) h1)
    (accepts : ∀ item ∈ items, AcceptsItem Accepts ingestion item h)
    : Keeps promise t call (upsertPathHeads ingestion.chain stamp items) (fun _ _ => True) h := by
  induction items generalizing h with
  | nil => exact keeps_done (fun _ _ => trivial)
  | cons item rest ih =>
    have moved : Keeps promise t call
        (upsertPathHead ingestion.chain item.path item.stoneHash stamp) (fun _ _ => True) h :=
      keeps_upsertPathHead (fun column h1 bound later1 =>
        movesPath _ _ _ _ _ _ (stable _ _ _ _ _ (accepts item (.head _)) later1.onward) bound)
    refine keeps_bind moved (fun _ h1 onward1 _ => ?_)
    exact ih (fun other mem =>
      stable _ _ _ _ _ (accepts other (.tail _ mem)) onward1)

/-- Nothing is issued before the repository is listed. -/
theorem issues_openIngestion (body : Value)
    : (openIngestion env body : Operation env Ingestion).Issues (fun _ => False) := by
  unfold openIngestion requiredString
  split
  · cases body.get (text "author") with
    | string s =>
      simp only [Program.bind_eq]
      split <;> trivial
    | _ => trivial
  · trivial

theorem keeps_loadPriorRepoStoneIndex
    : Keeps promise t call (loadPriorRepoStoneIndex ingestion.chain ingestion.repoFull)
        (fun index h' =>
          h'.own t = h.own t ∧ ∀ prior ∈ index.byPath, Indexed h'.state ingestion prior) h := by
  unfold loadPriorRepoStoneIndex
  refine keeps_select_bind (fun h1 later1 => ?_)
  refine keeps_select_bind (fun h2 later2 => ?_)
  refine keeps_done (fun h3 later3 => ⟨?_, fun prior mem => ?_⟩)
  · exact later3.own.trans (later2.own.trans later1.own)
  obtain ⟨row, here, entry⟩ := mem_filterMap.mp mem
  have here := (mem_insertionSort _).mp here
  obtain ⟨stored, of⟩ := mem_filter.mp here
  have grows := Onward.grows later3.onward later2.inv
  exact ⟨row, grows.stones.subset stored, eq_of_beq of, entry⟩

theorem keeps_optionally {cond : Bool} {report : Operation env Text}
    (keeps : Keeps promise t call report (fun _ _ => True) h)
    : Keeps promise t call (optionally cond report) (fun _ _ => True) h := by
  cases cond with
  | true => exact keeps_bind keeps (fun _ _ _ _ => keeps_done (fun _ _ => trivial))
  | false => exact keeps_done (fun _ _ => trivial)

theorem keeps_createRepoStonesFromBody {selection : Selection} {body : Value}
    (Accepts : Text → Value → Text → History (vault env) → Prop)
    (free : ∀ cmd h, Harmless cmd → promise t cmd h)
    (list
      : ∀ (ingestion : Ingestion) h1, Lives promise h1 → h1.own t = h.own t
        → promise t (.fetchTree ingestion.owner ingestion.repo ingestion.ref) h1)
    (create
      : ∀ ingestion files file prior h1, Lives promise h1 → Lists env t ingestion files h1
        → file ∈ files
        → Keeps promise t call (stoneFile ingestion file prior)
            (fun stone h' => ∀ hash, stone = some hash → Accepts ingestion.chain file.path hash h') h1)
    (reuse
      : ∀ ingestion files file prior h1, Lives promise h1 → Lists env t ingestion files h1
        → file ∈ files → Indexed h1.state ingestion prior → prior.path.strictEquals file.path
        → keeps ingestion file prior → Accepts ingestion.chain file.path prior.stoneHash h1)
    (stable
      : ∀ chain path hash h1 h2, Accepts chain path hash h1 → Onward promise Call h1 h2
        → Accepts chain path hash h2)
    (movesPath
      : ∀ chain path hash column stamp h1, Accepts chain path hash h1
        → columnOf env path = some (some column)
        → promise t (.write (.upsertPathHead ⟨chain, column, hash, stamp⟩)) h1)
    (report
      : ∀ ingestion title kind metadata setAsHead h1, Lives promise h1 → text kind ≠ text "repo_file"
        → Keeps promise t call (reportStone ingestion title kind metadata setAsHead)
            (fun _ _ => True) h1)
    (lives : Lives promise h)
    : Keeps promise t call (createRepoStonesFromBody selection body) (fun _ _ => True) h := by
  have furtherReports (ingestion : Ingestion) (title kind edgeType : String)
      (metadata : Value → List (Text × Value)) (orientation : Option Text) (note : Text)
      (files : List (Text × Text)) (h1 : History (vault env)) (lives1 : Lives promise h1)
      (other : text kind ≠ text "repo_file")
      : Keeps promise t call
          (furtherReport ingestion title kind edgeType metadata orientation note files)
          (fun _ _ => True) h1 := by
    refine keeps_bind (report ingestion title kind metadata false h1 lives1 other) (fun hash h2 _ _ => ?_)
    refine keeps_harmless_bind (harmless_linkEach _ _ _) free (fun _ h3 _ => ?_)
    exact keeps_done (fun _ _ => trivial)
  unfold createRepoStonesFromBody
  have opening : Keeps promise t call (openIngestion env body) (fun _ h' => h'.own t = h.own t) h :=
    keeps_through (issues_openIngestion body) (fun _ _ never => never.elim)
      (fun _ _ _ later same => later.own.trans same) (fun _ _ _ never => never.elim) lives rfl
  refine keeps_bind opening (fun ingestion h1 onward1 own1 => ?_)
  refine keeps_bind keeps_loadPriorRepoStoneIndex (fun index h2 onward2 loaded => ?_)
  obtain ⟨own2, indexed⟩ := loaded
  refine keeps_fetchTree_bind (fun h3 later3 => ?_)
  have listing : promise t (.fetchTree ingestion.owner ingestion.repo ingestion.ref) h3 :=
    list ingestion h3 later3.inv (later3.own.trans (own2.trans own1))
  refine ⟨listing, ?_⟩
  have onward3 := later3.step listing
  cases tree : env.fetchTree h3.state.steps ingestion.owner ingestion.repo ingestion.ref with
  | error error => exact keeps_done (fun _ _ => trivial)
  | ok files =>
    have lists : Lists env t ingestion files
        (h3.exec t (.fetchTree ingestion.owner ingestion.repo ingestion.ref)) := by
      refine ⟨⟨t, .fetchTree ingestion.owner ingestion.repo ingestion.ref, h3.state⟩, ?_, rfl, tree⟩
      rw [History.own_exec_self]
      exact .head _
    let candidates :=
      (files.filter selection.includes).take (maxFiles env (body.get (text "max_files")))
    have of (file : TreeFile) (mem : file ∈ candidates) : file ∈ files :=
      (mem_filter.mp (mem_of_mem_take mem)).1
    have current := keeps_stoneFiles Accepts candidates of
      (fun file prior h4 onward4 listed =>
        create ingestion files file prior h4 onward4.lives (lists.later onward4.le) listed)
      (fun file prior h4 onward4 listed mem same stays => by
        obtain ⟨row, here, entry⟩ := indexed prior mem
        have grows := Onward.grows (onward3.trans onward4) onward2.lives
        exact reuse ingestion files file prior h4 onward4.lives (lists.later onward4.le) listed
          ⟨row, grows.stones.subset here, entry⟩ same stays)
      stable (Protocol.After.refl onward3.lives)
    refine keeps_bind current (fun stones h4 onward4 accepts => ?_)
    obtain ⟨created, reused⟩ := stones
    refine keeps_clock_bind (fun h => free .now h trivial) (fun stamp h5 onward5 _ => ?_)
    refine keeps_bind (keeps_upsertPathHeads Accepts stable movesPath (fun item mem =>
      stable _ _ _ _ _ (accepts item mem) onward5)) (fun _ h6 onward6 _ => ?_)
    have orientations : Keeps promise t call
        (orientationStone ingestion index (created ++ reused)
          (!isFalse (body.get (text "set_head")))) (fun _ _ => True) h6 := by
      refine keeps_bind (report ingestion _ _ _ _ h6 onward6.lives (by decide)) (fun hash h7 _ _ => ?_)
      refine keeps_harmless_bind (harmless_supersedeOrientation ingestion hash _) free
        (fun _ h8 _ => ?_)
      refine keeps_harmless_bind (harmless_whenever (harmless_linkEach _ _ _)) free
        (fun _ h9 _ => ?_)
      exact keeps_done (fun _ _ => trivial)
    refine keeps_bind (keeps_optionally orientations) (fun orientation h7 onward7 _ => ?_)
    refine keeps_bind
      (keeps_optionally (furtherReports _ _ _ _ _ _ _ _ h7 onward7.lives (by decide)))
      (fun architecture h8 onward8 _ => ?_)
    refine keeps_bind
      (keeps_optionally (furtherReports _ _ _ _ _ _ _ _ h8 onward8.lives (by decide)))
      (fun lint h9 onward9 _ => ?_)
    refine keeps_bind
      (keeps_optionally (furtherReports _ _ _ _ _ _ _ _ h9 onward9.lives (by decide)))
      (fun review h10 _ _ => ?_)
    exact keeps_done (fun _ _ => trivial)

end CairnStone.Vault
