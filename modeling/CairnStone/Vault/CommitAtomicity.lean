import CairnStone.Concurrency.Sequences
import CairnStone.Vault.Obligations

/-! A commit moves its heads before it links its edges. Where an edge, or a statement after the first head, throws, the
heads stay moved.
-/

namespace CairnStone.Vault

open JavaScript Data Concurrency Tables Program Prod

variable {env : Env} {α : Type}
  {p : Operation env α} {β : Type} {tables after : Tables} {error : Text}

def heads (tables : Tables) : List ChainHeadRow × List PathHeadRow :=
  (tables.chainHeads, tables.pathHeads)

def LeavesHeads : Command → Prop
  | .write (.insertHead _) => False
  | .write (.upsertHead _) => False
  | .write (.upsertPathHead _) => False
  | .write (.batch _) => False
  | _ => True

theorem heads_exec {cmd : Command} (leaves : LeavesHeads cmd) (tables : Tables)
    : heads (Tables.exec env cmd tables).2 = heads tables := by
  rcases exec_cases env tables cmd with ⟨stmt, put, rfl, -, done, after⟩ | after
  · rw [after]
    refine Prod.ext ?_ ?_
    · rcases chainHeads_write done with ⟨row, rfl, -⟩ | ⟨row, rfl, -⟩ | same
      · exact leaves.elim
      · exact leaves.elim
      · exact same
    · rcases pathHeads_write done with ⟨row, rfl, -⟩ | ⟨rows, rfl, -⟩ | ⟨-, same⟩
      · exact leaves.elim
      · exact leaves.elim
      · exact same
  · rw [after]
    rfl

/-- A program that writes no head leaves the heads, however it ends. -/
theorem heads_run (leaves : p.Issues LeavesHeads) (tables : Tables)
    : heads (p.run tables).2 = heads tables := by
  have alone : p.Alone (fun after => heads after = heads tables)
      (fun _ after => heads after = heads tables) tables :=
    Program.Alone.of_issues leaves
      (fun cmd state quiet same => (heads_exec quiet state).trans same) rfl
  exact alone.of_run.2

theorem leaves_of_harmless (harmless : p.Issues Harmless)
    : p.Issues LeavesHeads := by
  refine harmless.imp (fun cmd quiet => ?_)
  cases cmd with
  | write stmt => cases stmt <;> first | exact quiet.elim | trivial
  | _ => trivial

theorem leaves_require {stmt : Write} (leaves : LeavesHeads (.write stmt))
    : (require stmt : Operation env Unit).Issues LeavesHeads := by
  have first : (perform (.write stmt) : Operation env Bool).Issues LeavesHeads :=
    ⟨leaves, fun _ => trivial⟩
  refine first.bind (fun succeeded => ?_)
  cases succeeded <;> trivial

theorem leaves_requireEach {statements : List Write}
    (leaves : ∀ stmt ∈ statements, LeavesHeads (.write stmt))
    : (requireEach statements : Operation env Unit).Issues LeavesHeads := by
  induction statements with
  | nil => trivial
  | cons stmt rest ih =>
    refine (leaves_require (leaves stmt (.head _))).bind (fun _ => ?_)
    exact ih (fun later mem => leaves later (.tail _ mem))

theorem harmless_fetchGitHubFile (spec : GitHubSpec)
    : (fetchGitHubFile spec : Operation env _).Issues Harmless := by
  unfold fetchGitHubFile
  split
  · trivial
  · refine ⟨trivial, fun got => ?_⟩
    cases got with
    | text content =>
      simp only [done_bind]
      split <;> trivial
    | _ => trivial

theorem harmless_boundText (value : Value) : (boundText value : Operation env _).Issues Harmless := by
  refine (harmless_bound value).bind (fun stored => ?_)
  cases stored <;> trivial

theorem harmless_normalizeStoneInput (body : StoneBody)
    : (normalizeStoneInput body : Operation env _).Issues Harmless := by
  refine (harmless_requiredString _ _).bind (fun author => ?_)
  split
  · trivial
  · split
    · trivial
    · refine (harmless_fetchGitHubFile _).bind (fun got => ?_)
      cases got <;> trivial

/-- The creation of a stone that is not to become a head writes none. -/
theorem leaves_createStoneFromBody {body : StoneBody} (plain : body.setAsHead = .undefined)
    : (createStoneFromBody body : Operation env _).Issues LeavesHeads := by
  have clocked : (clock : Operation env Text).Issues LeavesHeads := ⟨trivial, fun _ => trivial⟩
  refine (leaves_of_harmless (harmless_normalizeStoneInput body)).bind (fun input => ?_)
  refine clocked.bind (fun made => ?_)
  refine (leaves_require (by trivial)).bind (fun _ => ?_)
  have bounds (value : Value) : (bound value : Operation env _).Issues LeavesHeads :=
    leaves_of_harmless (harmless_bound value)
  have texts (value : Value) : (boundText value : Operation env _).Issues LeavesHeads :=
    leaves_of_harmless (harmless_boundText value)
  have row (parent chain : Value) (built : BuiltStone)
      : (stoneRow input made parent chain built : Operation env _).Issues LeavesHeads := by
    refine (texts _).bind (fun _ => (bounds _).bind (fun _ => (bounds _).bind (fun _ => ?_)))
    exact (bounds _).bind (fun _ => (bounds _).bind (fun _ => (texts _).bind (fun _ => trivial)))
  refine (row _ _ _).bind (fun row => ?_)
  have stored (built : BuiltStone) : (storeStone row built : Operation env Unit).Issues LeavesHeads := by
    refine (leaves_require (by trivial)).bind (fun _ => ?_)
    refine Program.Issues.bind (leaves_requireEach (fun stmt mem => ?_)) (fun _ => ?_)
    · obtain ⟨ref, -, rfl⟩ := List.mem_map.mp mem
      trivial
    · refine (leaves_of_harmless (harmless_ftsIndexRefs _)).bind (fun _ => ?_)
      exact leaves_require (by trivial)
  refine (stored _).bind (fun _ => ?_)
  rw [plain]
  simp only [Value.truthy, Bool.and_false, whenever, Bool.false_eq_true, if_false]
  trivial

structure Commit where
  chain : Text
  path : Value
  stoneHash : Text
  deduped : Bool
  refs : Option Nat
  now : Text

/-- `commitV2FromBody(body, env)`, up to its heads. -/
def commitPart (body : Value) : Operation env (Except Text Commit) := do
  let chain ← requiredString (body.get (text "chain")) "chain"
  let author ← requiredString (body.get (text "author")) "author"
  let source ← commitSource (StoneBody.ofValue body) chain author
  match source with
  | .error error => return .error error
  | .ok (sourced, content) => do
    let (stoneHash, deduped, refs) ←
      commitStone sourced.withoutHead chain content (!isFalse (body.get (text "dedupe")))
    let now ← clock
    return .ok { chain, path := sourced.path, stoneHash, deduped, refs, now }

def Commit.movesPath (commit : Commit) (body : Value) : Bool :=
  commit.path.truthy && !isFalse (body.get (text "set_path_head"))

def Commit.movePath (commit : Commit) (body : Value) : Operation env Unit :=
  whenever (commit.movesPath body)
    (upsertPathHead commit.chain commit.path commit.stoneHash commit.now)

def Commit.moveChain (commit : Commit) (body : Value) : Operation env Unit :=
  whenever (body.get (text "set_as_head")).isTrue
    (upsertHead (.string commit.chain) commit.stoneHash commit.now)

def edgesOf (body : Value) : List Value :=
  elements (body.get (text "edges"))

variable (env) in
/-- The answer of a commit that is through. -/
def Commit.answer (commit : Commit) (body : Value) (edges : List Value) : Value :=
  let actions : List Text :=
    (if commit.deduped then [text "deduped_to_existing_stone"] else [])
      ++ (if commit.movesPath body then [text "path_head:" ++ env.string commit.path] else [])
      ++ (if (body.get (text "set_as_head")).isTrue then [text "chain_head"] else [])
  .literal
    ([(text "ok", .bool true), (text "stone", .string (commit.stoneHash.take 12)),
        (text "stone_hash", .string commit.stoneHash), (text "deduped", .bool commit.deduped),
        (text "actions", .array (actions.map (fun action => some (.string action))))]
      ++ (commit.refs.map (fun n => (text "refs", count n))).toList
      ++ (if edges = [] then [] else [(text "edges", .array (edges.map some))]))

/-- `commitV2FromBody(body, env)`, from its heads on. -/
def afterStone (body : Value) : Except Text Commit → Operation env Value
  | .error error => .done (refusal error)
  | .ok commit =>
    (commit.movePath body).bind (fun _ =>
      (commit.moveChain body).bind (fun _ =>
        (commitEdges commit.stoneHash (edgesOf body)).bind (fun edges =>
          .done (commit.answer env body edges))))

theorem commitV2FromBody_eq (body : Value)
    : (commitV2FromBody body : Operation env Value) = (commitPart body).bind (afterStone body) := by
  unfold commitPart commitV2FromBody
  simp only [bind_eq, bind_assoc]
  congr 1
  funext chain
  congr 1
  funext author
  congr 1
  funext source
  cases source with
  | error error => rfl
  | ok source =>
    simp only [bind_assoc]
    rfl

theorem harmless_commitSource (body : StoneBody) (chain author : Text)
    : (commitSource body chain author : Operation env _).Issues Harmless := by
  unfold commitSource
  split
  · trivial
  · have fetches : (fetchGitHubFileFromBody body : Operation env _).Issues Harmless := by
      unfold fetchGitHubFileFromBody
      split
      · trivial
      · exact harmless_fetchGitHubFile _
    refine fetches.bind (fun got => ?_)
    cases got with
    | error error => trivial
    | ok got =>
      refine (harmless_resolveGitHubCommit _).bind (fun sha => ?_)
      cases sha <;> trivial

theorem leaves_commitPart (body : Value)
    : (commitPart body : Operation env _).Issues LeavesHeads := by
  refine (leaves_of_harmless (harmless_requiredString _ _)).bind (fun chain => ?_)
  refine (leaves_of_harmless (harmless_requiredString _ _)).bind (fun author => ?_)
  refine (leaves_of_harmless (harmless_commitSource _ _ _)).bind (fun source => ?_)
  cases source with
  | error error => trivial
  | ok source =>
    have existing (path : StoneBody) (chain content : Text) (dedupe : Bool)
        : (findExisting path chain content dedupe : Operation env _).Issues LeavesHeads := by
      unfold findExisting
      split
      · refine (leaves_of_harmless (harmless_bound _)).bind (fun column => ?_)
        exact ⟨trivial, fun _ => trivial⟩
      · trivial
    have stone (chain content : Text) (dedupe : Bool)
        : (commitStone source.1.withoutHead chain content dedupe : Operation env _).Issues
            LeavesHeads := by
      refine (existing _ _ _ _).bind (fun found => ?_)
      cases found with
      | some hash => trivial
      | none => exact (leaves_createStoneFromBody rfl).bind (fun _ => trivial)
    exact (stone _ _ _).bind (fun stored => ⟨trivial, fun _ => trivial⟩)

def namedStone (tables : Tables) (value : Text) : Option Text :=
  if value.length = 64 then (tables.stoneAt value).map (·.hash)
  else if value.length < 8 then none
  else
    match (tables.stones.filter (fun row =>
      like (value.filter (fun u => u ≠ 0x25 && u ≠ 0x5F) ++ text "%") row.hash)).take 3 with
    | [row] => some row.hash
    | _ => none

variable (env) in
/-- A link is refused with an exception: a part of it is blank, its note cannot be bound, or the statement fails, as it does
where the link is there already.
-/
def linkThrows (tables : Tables) (fromHash toHash edgeType : Text) (note : Value) : Bool :=
  decide (trim fromHash = [] ∨ trim toHash = [] ∨ trim edgeType = [])
  || (decide (edgeType ∈ EDGE_TYPES) && (tables.stoneAt fromHash).isSome
      && (tables.stoneAt toHash).isSome
      && (columnOf env (note.or .null)).all (fun _ =>
        env.fails (tables.steps + 1)
        || tables.edges.any (fun edge =>
            edge.id
              == env.sha256 (fromHash ++ text ":" ++ toHash ++ text ":" ++ edgeType ++ text ":"
                ++ env.now tables.steps))))

variable (env) in
def edgeThrows (stoneHash : Text) (tables : Tables) (edge : Value) : Bool :=
  match (edge.get (text "to")).string?, (edge.get (text "type")).string? with
  | some target, some edgeType =>
    decide (trim target = [])
    || (namedStone tables target).any (fun hash =>
        hash != stoneHash && linkThrows env tables stoneHash hash edgeType (edge.get (text "note")))
  | _, _ => false

variable (env) in
def edgesThrow (stoneHash : Text) : Tables → List Value → Bool
  | _, [] => false
  | tables, edge :: rest =>
    edgeThrows env stoneHash tables edge
    || edgesThrow stoneHash ((commitEdge stoneHash edge : Operation env Value).run tables).2 rest

/-- The program ends with an exception. -/
def throws (p : Operation env α) (tables : Tables) : Bool :=
  !(p.run tables).1.isOk

theorem throws_bind (p : Operation env α) (g : α → Operation env β) (tables : Tables)
    : throws (p.bind g) tables
      = (throws p tables || (p.run tables).1.toOption.any (fun value => throws (g value) (p.run tables).2)) := by
  unfold throws
  rw [run_bind]
  rcases p.run tables with ⟨error | value, after⟩ <;> rfl

theorem throws_requiredString_bind (s : Text) (name : String) (g : Text → Operation env β)
    (tables : Tables)
    : throws ((requiredString (.string s) name).bind g) tables
      = (decide (trim s = []) || throws (g s) tables) := by
  unfold requiredString
  dsimp only
  split
  case isTrue blank => simp [blank, throws, Except.isOk, Except.toBool]
  case isFalse given => simp [given]

theorem run_require (stmt : Write) (tables : Tables)
    : (require stmt : Operation env Unit).run tables
      = (if (Tables.exec env (.write stmt) tables).1 = true then .ok ()
          else .error (text "D1_ERROR"), (Tables.exec env (.write stmt) tables).2) := by
  change ((if (Tables.exec env (.write stmt) tables).1 = true then .done ()
    else .fail (text "D1_ERROR") : Operation env Unit).run _) = _
  split <;> rfl

theorem throws_require_bind (stmt : Write) (g : Unit → Operation env β) (tables : Tables)
    : throws ((require stmt).bind g) tables
      = (!(Tables.exec env (.write stmt) tables).1
        || throws (g ()) (Tables.exec env (.write stmt) tables).2) := by
  rw [throws_bind]
  unfold throws
  rw [run_require]
  cases (Tables.exec env (.write stmt) tables).1 <;> rfl

theorem reply_insertEdge (tables : Tables) (row : EdgeRow)
    : (Tables.exec env (.write (.insertEdge row)) tables).1
      = !(env.fails tables.steps || tables.edges.any (·.id == row.id)) := by
  simp only [Tables.exec, answer, write, inserted]
  cases env.fails tables.steps with
  | true => rfl
  | false =>
    cases tables.edges.any (·.id == row.id) with
    | true => rfl
    | false => rfl

theorem throws_linkStones (tables : Tables) (fromHash toHash edgeType : Text) (note : Value)
    : throws (linkStones (.string fromHash) (.string toHash) (.string edgeType) note : Operation env _)
        tables
      = linkThrows env tables fromHash toHash edgeType note := by
  unfold linkStones linkThrows
  simp only [bind_eq]
  rw [throws_requiredString_bind, throws_requiredString_bind, throws_requiredString_bind,
    Bool.decide_or, Bool.decide_or, Bool.or_assoc, Bool.or_assoc]
  congr 3
  by_cases known : edgeType ∈ EDGE_TYPES
  · rw [if_neg (not_not.mpr known), decide_eq_true known, Bool.true_and]
    change throws (if (tables.stoneAt fromHash).isNone then _ else _) tables = _
    cases tables.stoneAt fromHash with
    | none => rfl
    | some first =>
      change throws (if (tables.stoneAt toHash).isNone then _ else _) tables = _
      cases tables.stoneAt toHash with
      | none => rfl
      | some second =>
        let later : Tables := { tables with steps := tables.steps + 1 }
        change throws ((bound (note.or .null)).bind _) later = _
        unfold bound
        cases columnOf env (note.or .null) with
        | none => rfl
        | some note =>
          let row : EdgeRow :=
            { id :=
                env.sha256 (fromHash ++ text ":" ++ toHash ++ text ":" ++ edgeType ++ text ":"
                  ++ env.now tables.steps)
              fromHash, toHash, edgeType, note, createdAt := env.now tables.steps }
          change throws ((require (.insertEdge row) : Operation env Unit).bind _) later = _
          rw [throws_require_bind, reply_insertEdge, Bool.not_not]
          exact Bool.or_false _
  · rw [if_pos known, decide_eq_false known, Bool.false_and, Bool.false_and, Bool.false_and]
    rfl

/-- A hash that is not blank is resolved without an exception. -/
theorem throws_resolveStoneHash_bind (s : Text) (tables : Tables)
    : ∃ answer : Except Text Text, answer.toOption = namedStone tables s
      ∧ ∀ g : Except Text Text → Operation env α,
          throws ((resolveStoneHash (.string s)).bind g) tables
            = (decide (trim s = []) || throws (g answer) tables) := by
  unfold resolveStoneHash namedStone
  simp only [bind_eq, bind_assoc, throws_requiredString_bind]
  split
  · refine ⟨_, ?_, fun g => rfl⟩
    dsimp only
    cases tables.stoneAt s <;> rfl
  · split
    · exact ⟨_, rfl, fun g => rfl⟩
    · refine ⟨_, ?_, fun g => rfl⟩
      dsimp only
      generalize (tables.stones.filter _).take 3 = rows
      rcases rows with - | ⟨row, - | ⟨next, rest⟩⟩ <;> rfl

theorem throws_commitEdge (stoneHash : Text) (tables : Tables) (edge : Value)
    : throws (commitEdge stoneHash edge : Operation env Value) tables
      = edgeThrows env stoneHash tables edge := by
  unfold commitEdge edgeThrows
  dsimp only
  generalize edge.get (text "to") = target
  cases target with
  | string s =>
    cases (edge.get (text "type")).string? with
    | none => rfl
    | some edgeType =>
      obtain ⟨answer, named, resolves⟩ := @throws_resolveStoneHash_bind env _ s tables
      simp only [Value.string?]
      rw [← named]
      refine (resolves _).trans (congrArg _ ?_)
      cases answer with
      | error error => rfl
      | ok hash =>
        dsimp only
        split
        case isTrue same => simp [same, throws, Except.isOk, Except.toBool, Except.toOption]
        case isFalse other =>
          simp only [bind_eq]
          rw [throws_bind, throws_linkStones]
          have answers (linked : Option (Except Text Unit)) (tables : Tables)
              (g : Except Text Unit → Value)
              : linked.any (fun linked => throws (.done (g linked) : Operation env Value) tables)
                = false := by
            cases linked <;> rfl
          have apart : (hash != stoneHash) = true := bne_iff_ne.mpr other
          change (_ || Option.any (fun linked => throws (.done _ : Operation env Value) _) _)
            = (hash != stoneHash && _)
          rw [answers, Bool.or_false, apart, Bool.true_and]
  | _ => rfl

theorem throws_commitEdges (stoneHash : Text) (tables : Tables) (edges : List Value)
    : throws (commitEdges stoneHash edges : Operation env _) tables
      = edgesThrow env stoneHash tables edges := by
  induction edges generalizing tables with
  | nil => rfl
  | cons edge rest ih =>
    rw [commitEdges, edgesThrow, ← throws_commitEdge, ← ih]
    simp only [bind_eq]
    rw [throws_bind]
    unfold throws
    rcases (commitEdge stoneHash edge : Operation env Value).run tables with ⟨error | result, after⟩
    · rfl
    · change (false || throws _ after) = (false || throws _ after)
      rw [throws_bind]
      unfold throws
      rcases (commitEdges stoneHash rest : Operation env _).run after with ⟨error | results, last⟩
        <;> rfl

theorem heads_of_require_error {stmt : Write}
    (failed : (require stmt : Operation env Unit).run tables = (.error error, after))
    : heads after = heads tables := by
  rw [run_require] at failed
  rcases exec_write_cases env tables stmt with ⟨put, -, -, run⟩ | run
  · rw [run] at failed
    cases failed
  · rw [run] at failed
    obtain ⟨-, rfl⟩ := mk.inj failed
    rfl

/-- A head that cannot be written leaves the heads. -/
theorem heads_of_upsert_error {value : Value} {stmt : Text → Write}
    (failed
      : ((boundText value).bind (fun column => require (stmt column)) : Operation env Unit).run
          tables
        = (.error error, after))
    : heads after = heads tables := by
  unfold boundText bound at failed
  generalize columnOf env value = column at failed
  rcases column with - | - | column
  · obtain ⟨-, rfl⟩ := mk.inj failed
    rfl
  · obtain ⟨-, rfl⟩ := mk.inj failed
    rfl
  · exact heads_of_require_error failed

theorem heads_of_whenever_error {cond : Bool} {p : Operation env Unit}
    (upserts : ∀ error after, p.run tables = (.error error, after) → heads after = heads tables)
    (failed : (whenever cond p).run tables = (.error error, after))
    : heads after = heads tables := by
  unfold whenever at failed
  split at failed
  · exact upserts _ _ failed
  · cases failed

def isFailure : Except Text Value → Bool
  | .error _ => true
  | .ok answer => isFalse (answer.get (text "ok"))

variable (env) in
/-- A commit that fails leaves the heads. -/
def Atomic (body : Value) (tables : Tables) : Prop :=
  isFailure ((commitV2FromBody body : Operation env Value).run tables).1 = true
    → heads ((commitV2FromBody body : Operation env Value).run tables).2 = heads tables

variable (env) in
def chainThrows (body : Value) (tables : Tables) : Bool :=
  (body.get (text "set_as_head")).isTrue && env.fails tables.steps

theorem throws_moveChain (commit : Commit) (body : Value) (tables : Tables)
    : throws (commit.moveChain body : Operation env Unit) tables = chainThrows env body tables := by
  unfold Commit.moveChain chainThrows whenever
  cases (body.get (text "set_as_head")).isTrue with
  | false => rfl
  | true =>
    let row : ChainHeadRow :=
      { chain := commit.chain, headHash := commit.stoneHash, updatedAt := commit.now }
    have reply : (Tables.exec env (.write (.upsertHead row)) tables).1 = !env.fails tables.steps := by
      simp only [Tables.exec, answer, write]
      cases env.fails tables.steps <;> rfl
    change throws (require (.upsertHead row) : Operation env Unit) tables = _
    unfold throws
    rw [run_require, reply]
    cases env.fails tables.steps <;> rfl

variable (env) in
/-- Where the stone of a commit is stored: nothing throws after a head has changed, neither the second head nor an edge. -/
def ThrowsBeforeMoves (body : Value) (commit : Commit) (stored : Tables) : Prop :=
  ∀ first, (commit.movePath body : Operation env Unit).run stored = (.ok (), first) →
    (chainThrows env body first = true → heads first = heads stored)
    ∧ ∀ moved, (commit.moveChain body : Operation env Unit).run first = (.ok (), moved)
      → edgesThrow env commit.stoneHash moved (edgesOf body) = true → heads moved = heads stored

theorem isFailure_answer (commit : Commit) (body : Value) (edges : List Value)
    : isFailure (.ok (commit.answer env body edges)) = false :=
  rfl

theorem atomic_afterStone (body : Value) (commit : Commit) (stored : Tables)
    : (isFailure ((afterStone body (.ok commit) : Operation env Value).run stored).1 = true
        → heads ((afterStone body (.ok commit) : Operation env Value).run stored).2 = heads stored)
      ↔ ThrowsBeforeMoves env body commit stored := by
  unfold afterStone ThrowsBeforeMoves
  rw [run_bind]
  rcases path : (commit.movePath body : Operation env Unit).run stored with ⟨error | _, first⟩
  · have same : heads first = heads stored :=
      heads_of_whenever_error (fun _ _ failed => heads_of_upsert_error failed) path
    exact iff_of_true (fun _ => same) (fun _ never => by cases never)
  · dsimp only
    rw [run_bind]
    rcases chain : (commit.moveChain body : Operation env Unit).run first with ⟨error | _, moved⟩
    · have same : heads moved = heads first :=
        heads_of_whenever_error (fun _ _ failed => heads_of_upsert_error failed) chain
      have thrown : chainThrows env body first = true := by
        rw [← throws_moveChain commit, throws, chain]
        rfl
      dsimp only
      rw [same]
      constructor
      · intro kept other found
        cases found
        exact ⟨fun _ => kept rfl, fun _ never => by rw [chain] at never; cases never⟩
      · intro safe _
        exact (safe first rfl).1 thrown
    · dsimp only
      rw [run_bind]
      have harmless : (commitEdges commit.stoneHash (edgesOf body) : Operation env _).Issues Harmless :=
        harmless_commitEdges commit.stoneHash (edgesOf body)
      have same := heads_run (leaves_of_harmless harmless) moved
      have thrown : throws (commitEdges commit.stoneHash (edgesOf body) : Operation env _) moved
          = edgesThrow env commit.stoneHash moved (edgesOf body) :=
        throws_commitEdges commit.stoneHash moved (edgesOf body)
      have quiet : chainThrows env body first = false := by
        rw [← throws_moveChain commit, throws, chain]
        rfl
      unfold throws at thrown
      rcases linked : (commitEdges commit.stoneHash (edgesOf body) : Operation env _).run moved
        with ⟨error | edges, last⟩
      · rw [linked] at same thrown
        dsimp only at same ⊢
        rw [same]
        constructor
        · intro kept other found
          cases found
          refine ⟨fun late => absurd late (ne_true_of_eq_false quiet), fun other found _ => ?_⟩
          rw [chain] at found
          cases found
          exact kept rfl
        · intro safe _
          exact (safe first rfl).2 moved chain thrown.symm
      · rw [linked] at thrown
        dsimp only
        refine iff_of_true (fun failed => ?_) (fun other found => ?_)
        · rw [Program.run, isFailure_answer] at failed
          cases failed
        · cases found
          refine ⟨fun late => absurd late (ne_true_of_eq_false quiet), fun other found late => ?_⟩
          rw [chain] at found
          cases found
          rw [← thrown] at late
          cases late

/-- A commit is atomic exactly if nothing throws after it has changed a head. -/
theorem commitV2_atomic_iff (env : Env) (body : Value) (tables : Tables)
    : Atomic env body tables
      ↔ ∀ commit stored,
          (commitPart body : Operation env _).run tables = (.ok (.ok commit), stored)
          → ThrowsBeforeMoves env body commit stored := by
  unfold Atomic
  rw [commitV2FromBody_eq, run_bind]
  have leaves : (commitPart body : Operation env _).Issues LeavesHeads := leaves_commitPart body
  have kept := heads_run leaves tables
  rcases ran : (commitPart body : Operation env _).run tables with ⟨error | part, stored⟩
    <;> rw [ran] at kept
  · exact iff_of_true (fun _ => kept) (fun _ _ same => by cases same)
  · cases part with
    | error error => exact iff_of_true (fun _ => kept) (fun _ _ same => by cases same)
    | ok commit =>
      dsimp only at kept ⊢
      rw [← kept, atomic_afterStone]
      constructor
      · intro safe commit' stored' same
        cases same
        exact safe
      · intro safe
        exact safe commit stored rfl

/-- A commit of one line whose edge names nothing. -/
def linkedToNothing : Value :=
  .literal
    [(text "chain", .string (text "c")), (text "author", .string (text "a")),
      (text "path", .string (text "p")), (text "content", .string (text "x")),
      (text "edges",
        .array [some (.literal [(text "to", .string []), (text "type", .string (text "documents"))])])]

/-- The edge throws when the head of the path has moved. -/
theorem head_of_failed_commit : ¬Atomic quietEnv linkedToNothing Tables.empty := by
  intro atomic
  have fails
      : isFailure ((commitV2FromBody linkedToNothing : Operation quietEnv Value).run empty).1
        = true := by
    decide +kernel
  have moved
      : (heads ((commitV2FromBody linkedToNothing : Operation quietEnv Value).run empty).2).2.length
        = 1 := by
    decide +kernel
  rw [atomic fails] at moved
  cases moved

end CairnStone.Vault
