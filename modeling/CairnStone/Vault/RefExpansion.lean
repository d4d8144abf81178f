import CairnStone.Vault.FullyIndexed
import CairnStone.Vault.Orientation

/-! Refs and the lines they stand for: a stone's chunks make up its content, and expanding one shows the
lines around it.
-/

namespace CairnStone.Vault

open JavaScript Data Concurrency List Tables Nat

/-- `content.replace(/\r\n/g, "\n")` -/
def replaceCrlf : Text → Text
  | 0x0D :: 0x0A :: s => 0x0A :: replaceCrlf s
  | u :: s => u :: replaceCrlf s
  | [] => []

structure Expansion where
  (refId stoneHash path : Text)
  (lineStart lineEnd : Nat)
  lines : List (Nat × Text)

def Expansion.text (expansion : Expansion) : Text :=
  joinLines (expansion.lines.map (·.2))

def windowOf (row : RefRow) (content : Text) (context : Nat) : Expansion :=
  let lines := splitLines content
  let start := max 1 (row.lineStart - context)
  let end_ := min lines.length (row.lineEnd + context)
  { refId := row.refId
    stoneHash := row.stoneHash
    path := row.path
    lineStart := start
    lineEnd := end_
    lines := (((lines.take end_).drop (start - 1)).zipIdx start).map (fun line => (line.2, line.1)) }

def expandRefRow (tables : Tables) (context : Nat) (row : RefRow) : Except Text Expansion :=
  match tables.rawAt row.rawKey with
  | none => .error (text "raw_not_found: " ++ row.rawKey)
  | some content => .ok (windowOf row content context)

section

variable (env : Env) (tables : Tables) (body : Value)

/-- `clamp(optionalNumber(body.context_lines, 0), 0, 200)` -/
def contextLines : Nat :=
  let given := body.get (text "context_lines")
  if isBlank given then 0 else (clamp (env.toNumber given) 0 200).toNat

/-- `line_start <= ? AND line_end >= ?` -/
def coversLine (line : Number) (row : RefRow) : Bool :=
  match line with
  | .finite x => row.lineStart ≤ x.value && x.value ≤ row.lineEnd
  | _ => false

def presentString (value : Value) (name : String) : Except Text Text :=
  match value with
  | .string s => if trim s = [] then .error (text ("Missing required string: " ++ name)) else .ok s
  | _ => .error (text ("Missing required string: " ++ name))

/-- The row that `expandRefFromBody` reads, by its id or by a stone and a line. -/
def locateRef : Except Text (Option RefRow) := do
  let refId := body.get (text "ref_id")
  if refId.truthy then
    match columnOf env refId with
    | none => .error (text "D1_TYPE_ERROR")
    | some id => .ok (tables.refs.find? (fun row => some row.refId == id))
  else
    let requested ← presentString (body.get (text "stone_hash")) "stone_hash"
    let stoneHash ← (← ((resolveStoneHash (.string requested) : Operation env _).run tables).1)
    match columnOf env ((body.get (text "path")).or (.string (text "content.txt"))) with
    | none => .error (text "D1_TYPE_ERROR")
    | some path =>
      let line := env.toNumber ((body.get (text "line_start")).or (count 1))
      .ok
        (tables.refs.find? (fun row =>
          row.stoneHash == stoneHash && some row.path == path && coversLine line row))

def expandRefFromBody : Except Text Expansion := do
  match ← locateRef env tables body with
  | none => .error (text "ref_not_found")
  | some row =>
    match tables.rawAt row.rawKey with
    | none => .error (text "raw_not_found")
    | some content => .ok (windowOf row content (contextLines env body))

def tokenizeQuery (query : Text) : List Text :=
  ((((env.toLowerCase query).splitOnP (fun u => !isTermUnit u)).filter
    (fun run => 2 ≤ run.length)).filter (· ∉ STOP_WORDS)).eraseDups

def scoreRowForTerms (row : RefRow) (terms : List Text) : Nat :=
  let haystack := env.toLowerCase (row.keywords ++ text " " ++ row.preview ++ text " " ++ row.path)
  terms.countP (· <:+: haystack)

def queryAndExpandFromBody : Except Text (List Expansion) := do
  let stoneHash ← presentString (body.get (text "stone_hash")) "stone_hash"
  let query ← presentString (body.get (text "query")) "query"
  let terms := tokenizeQuery env query
  if terms = [] then .error (text "empty_query_terms")
  else
    let topK := clamp (env.toNumber ((body.get (text "top_k")).or (count 1))) 1 10
    let scored :=
      (tables.refs.filter (·.stoneHash == stoneHash)).map (fun row =>
        (row, scoreRowForTerms env row terms))
    let ranked :=
      (((scored.filter (0 < ·.2)).insertionSort (fun a b =>
        b.2 < a.2 || (a.2 == b.2 && a.1.lineStart ≤ b.1.lineStart))).take topK.toNat).map (·.1)
    if ranked = [] then .error (text "no_matching_ref")
    else ranked.mapM (expandRefRow tables (contextLines env body))

end

/-- The expansion shows exactly the lines of the content from `context` lines before the ref to
`context` lines after it, as far as there are any.
-/
structure ShowsLines (content : Text) (row : RefRow) (context : Nat) (shown : Expansion) : Prop where
  refId : shown.refId = row.refId
  lineStart : shown.lineStart = max 1 (row.lineStart - context)
  lineEnd : shown.lineEnd = min (splitLines content).length (row.lineEnd + context)
  numbers : shown.lines.map (·.1) = List.range' shown.lineStart (shown.lineEnd + 1 - shown.lineStart)
  lines : ∀ line ∈ shown.lines, (splitLines content)[line.1 - 1]? = some line.2

/-- The ranges of the rows follow each other from the line after `before` to the line `last`. -/
def Partition : Nat → List RefRow → Nat → Prop
  | before, [], last => before = last
  | before, row :: rows, last =>
    row.lineStart = before + 1 ∧ before < row.lineEnd ∧ Partition row.lineEnd rows last

def refsOf (tables : Tables) (stone : StoneRow) : List RefRow :=
  tables.refs.filter (·.stoneHash == stone.hash)

/-- The refs of a stone make up its content, and each can be expanded with the lines around it. -/
structure Reconstructs (env : Env) (tables : Tables) (stone : StoneRow) (content : Text) : Prop where
  partition : Partition 0 (refsOf tables stone) (splitLines content).length
  covered : ∀ line, 1 ≤ line → line ≤ (splitLines content).length
    → ∃! row, row ∈ tables.refs ∧ row.stoneHash = stone.hash ∧ row.lineStart ≤ line
      ∧ line ≤ row.lineEnd
  joined : ∃ shown, (refsOf tables stone).mapM (expandRefRow tables 0) = .ok shown
    ∧ joinLines (shown.map (·.text)) = replaceCrlf content
  byId : ∀ row ∈ refsOf tables stone, ∀ body, body.get (text "ref_id") = .string row.refId
    → locateRef env tables body = .ok (some row)
  expanded : ∀ row ∈ refsOf tables stone, ∀ body, locateRef env tables body = .ok (some row)
    → ∃ shown, expandRefFromBody env tables body = .ok shown
      ∧ ShowsLines content row (contextLines env body) shown
  queried : ∀ body, body.get (text "stone_hash") = .string stone.hash
    → ∀ selected, queryAndExpandFromBody env tables body = .ok selected
    → ∀ shown ∈ selected, ∃ row ∈ refsOf tables stone,
        ShowsLines content row (contextLines env body) shown

-- Lines

theorem splitAtUnit_ne_nil (mark : CodeUnit) (s : Text) : splitAtUnit mark s ≠ [] := by
  cases s with
  | nil => exact cons_ne_nil _ _
  | cons u s =>
    rw [splitAtUnit]
    split
    · exact cons_ne_nil _ _
    · split <;> exact cons_ne_nil _ _

theorem splitLines_newline (s : Text) : splitLines (0x0A :: s) = [] :: splitLines s := by
  obtain ⟨first, later, pieces⟩ := exists_cons_of_ne_nil (splitAtUnit_ne_nil 0x0A s)
  simp [splitLines, splitAtUnit, pieces]

theorem splitLines_crlf (s : Text) : splitLines (0x0D :: 0x0A :: s) = [] :: splitLines s := by
  obtain ⟨first, later, pieces⟩ := exists_cons_of_ne_nil (splitAtUnit_ne_nil 0x0A s)
  simp [splitLines, splitAtUnit, pieces]

theorem exists_of_splitAtUnit {mark : CodeUnit} {s : Text} {later : List Text}
    (pieces : splitAtUnit mark s = [] :: later) (more : later ≠ [])
    : ∃ rest, s = mark :: rest := by
  cases s with
  | nil => exact absurd (cons.inj pieces).2.symm more
  | cons u s =>
    rw [splitAtUnit] at pieces
    split at pieces
    · next same => exact ⟨s, by rw [same]⟩
    · split at pieces <;> cases pieces

theorem splitLines_cons {u : CodeUnit} {s : Text} (other : u ≠ 0x0A)
    (apart : ∀ rest, u = 0x0D → s ≠ 0x0A :: rest)
    : ∃ first later, splitLines s = first :: later ∧ splitLines (u :: s) = (u :: first) :: later := by
  obtain ⟨first, later, pieces⟩ := exists_cons_of_ne_nil (splitAtUnit_ne_nil 0x0A s)
  cases later with
  | nil =>
    refine ⟨first, [], by simp [splitLines, pieces], ?_⟩
    simp [splitLines, splitAtUnit, other, pieces]
  | cons second later =>
    cases first with
    | nil =>
      obtain ⟨rest, rfl⟩ := exists_of_splitAtUnit pieces (cons_ne_nil _ _)
      have plain : u ≠ 0x0D := fun same => apart rest same rfl
      rw [splitAtUnit, if_pos rfl] at pieces
      simp [splitLines, splitAtUnit, other, (cons.inj pieces).2, plain]
    | cons v first =>
      simp only [splitLines, splitAtUnit, other, pieces, if_false]
      by_cases ends : (v :: first).getLast? = some 0x0D
      · simp [ends]
      · simp [ends]

theorem joinLines_cons (line : Text) {lines : List Text} (more : lines ≠ [])
    : joinLines (line :: lines) = line ++ 0x0A :: joinLines lines := by
  obtain ⟨next, lines, rfl⟩ := exists_cons_of_ne_nil more
  rw [joinLines, intercalate_cons_cons, append_assoc]
  rfl

theorem splitLines_ne_nil (s : Text) : splitLines s ≠ [] := by
  intro empty
  have counted := length_splitLines s
  rw [empty] at counted
  cases counted

/-- Lines joined again are the text with line feeds for all line ends. Witness: induction on the
replacement.
-/
theorem joinLines_splitLines (s : Text) : joinLines (splitLines s) = replaceCrlf s := by
  induction s using replaceCrlf.induct with
  | case1 s ih =>
    rw [splitLines_crlf, joinLines_cons [] (splitLines_ne_nil s), ih, replaceCrlf]
    rfl
  | case2 u s other ih =>
    rw [replaceCrlf]
    · rw [← ih]
      by_cases newline : u = 0x0A
      · rw [newline, splitLines_newline, joinLines_cons [] (splitLines_ne_nil s)]
        rfl
      · obtain ⟨first, later, lines, whole⟩ := splitLines_cons newline (fun rest cr follows =>
          other rest cr follows)
        rw [lines, whole]
        cases later with
        | nil => rfl
        | cons next later =>
          rw [joinLines_cons _ (cons_ne_nil _ _), joinLines_cons _ (cons_ne_nil _ _)]
          rfl
    · exact other
  | case3 => rfl

theorem joinLines_append {lines more : List Text} (some : lines ≠ []) (some' : more ≠ [])
    : joinLines (lines ++ more) = joinLines lines ++ 0x0A :: joinLines more := by
  induction lines with
  | nil => exact absurd rfl some
  | cons line lines ih =>
    cases lines with
    | nil =>
      rw [singleton_append, joinLines_cons line some',
        show joinLines [line] = line from intercalate_singleton]
    | cons next lines =>
      rw [cons_append, joinLines_cons _ (by simp), ih (cons_ne_nil _ _),
        joinLines_cons line (cons_ne_nil _ _), append_assoc]
      rfl

-- Chunks

theorem chunksFrom_cons {fuel before : Nat} {lines : List Text} (more : lines ≠ [])
    : chunksFrom (fuel + 1) before lines
      = (before, lines.take DEFAULT_LINES_PER_REF)
        :: chunksFrom fuel (before + DEFAULT_LINES_PER_REF) (lines.drop DEFAULT_LINES_PER_REF) := by
  obtain ⟨first, rest, rfl⟩ := exists_cons_of_ne_nil more
  rfl

theorem length_drop_le {fuel : Nat} {lines : List Text} (enough : lines.length ≤ fuel + 1)
    : (lines.drop DEFAULT_LINES_PER_REF).length ≤ fuel := by
  have pos : 0 < DEFAULT_LINES_PER_REF := by decide
  rw [length_drop]
  omega

theorem joinLines_chunksFrom {fuel before : Nat} {lines : List Text} (enough : lines.length ≤ fuel)
    (more : lines ≠ [])
    : joinLines ((chunksFrom fuel before lines).map (fun chunk => joinLines chunk.2))
      = joinLines lines := by
  induction fuel generalizing before lines with
  | zero => exact absurd (length_eq_zero_iff.mp (le_zero.mp enough)) more
  | succ fuel ih =>
    have short := length_drop_le enough
    rw [chunksFrom_cons more, map_cons]
    by_cases last : lines.drop DEFAULT_LINES_PER_REF = []
    · have whole : lines.take DEFAULT_LINES_PER_REF = lines :=
        take_of_length_le (drop_eq_nil_iff.mp last)
      have none : chunksFrom fuel (before + DEFAULT_LINES_PER_REF) [] = [] := by
        cases fuel <;> rfl
      rw [last, none, whole]
      exact intercalate_singleton
    · have first : lines.take DEFAULT_LINES_PER_REF ≠ [] := by
        simpa [DEFAULT_LINES_PER_REF] using more
      have later : (chunksFrom fuel (before + DEFAULT_LINES_PER_REF)
          (lines.drop DEFAULT_LINES_PER_REF)).map (fun chunk => joinLines chunk.2) ≠ [] := by
        cases fuel with
        | zero => exact absurd (length_eq_zero_iff.mp (le_zero.mp short)) last
        | succ fuel => simp [chunksFrom_cons last]
      rw [joinLines_cons _ later, ih short last, ← joinLines_append first last,
        take_append_drop]

theorem lines_of_mem_chunksFrom {fuel before : Nat} {lines : List Text} {chunk : Nat × List Text}
    (mem : chunk ∈ chunksFrom fuel before lines)
    : (lines.drop (chunk.1 - before)).take chunk.2.length = chunk.2 := by
  induction fuel generalizing before lines with
  | zero => cases mem
  | succ fuel ih =>
    by_cases none : lines = []
    · subst none
      cases mem
    · rw [chunksFrom_cons none] at mem
      rcases mem_cons.mp mem with rfl | later
      · simp only [Nat.sub_self, drop_zero, length_take]
        rw [← take_eq_take_min]
      · have starts := le_of_mem_chunksFrom later
        have chunkLines := ih later
        rwa [drop_drop, show DEFAULT_LINES_PER_REF
          + (chunk.1 - (before + DEFAULT_LINES_PER_REF)) = chunk.1 - before by omega] at chunkLines

theorem partition_chunksFrom {row : Nat × List Text → RefRow}
    (starts : ∀ chunk, (row chunk).lineStart = chunk.1 + 1)
    (ends : ∀ chunk, (row chunk).lineEnd = chunk.1 + chunk.2.length) {fuel before : Nat}
    {lines : List Text} (enough : lines.length ≤ fuel)
    : Partition before ((chunksFrom fuel before lines).map row) (before + lines.length) := by
  induction fuel generalizing before lines with
  | zero =>
    rw [le_zero.mp enough]
    rfl
  | succ fuel ih =>
    by_cases none : lines = []
    · subst none
      rfl
    · have pos := length_pos_of_ne_nil none
      have step := @ih (before + DEFAULT_LINES_PER_REF) _ (length_drop_le enough)
      rw [chunksFrom_cons none, map_cons]
      refine ⟨starts _, ?_, ?_⟩
      · rw [ends, length_take]
        simp only [DEFAULT_LINES_PER_REF]
        omega
      · rw [ends, length_take]
        by_cases long : DEFAULT_LINES_PER_REF ≤ lines.length
        · rw [min_eq_left long]
          rwa [length_drop, show before + DEFAULT_LINES_PER_REF
            + (lines.length - DEFAULT_LINES_PER_REF) = before + lines.length by omega] at step
        · have last : lines.drop DEFAULT_LINES_PER_REF = [] :=
            drop_eq_nil_iff.mpr (by omega)
          rw [min_eq_right (by omega), last]
          cases fuel <;> rfl

-- Windows

theorem showsLines_windowOf (row : RefRow) (content : Text) (context : Nat)
    : ShowsLines content row context (windowOf row content context) := by
  refine ⟨rfl, rfl, rfl, ?_, ?_⟩
  · simp only [windowOf, map_map]
    refine (map_congr_left (fun _ _ => rfl)).trans ((zipIdx_map_snd _ _).trans ?_)
    rw [length_drop, length_take]
    congr 1
    omega
  · intro line mem
    obtain ⟨⟨content', n⟩, within, rfl⟩ := mem_map.mp mem
    obtain ⟨low, found⟩ := mk_mem_zipIdx_iff_le_and_getElem?_sub.mp within
    rw [getElem?_drop, getElem?_take] at found
    split at found
    · have place : max 1 (row.lineStart - context) - 1 + (n - max 1 (row.lineStart - context))
          = n - 1 := by
        omega
      rwa [place] at found
    · cases found

section

variable {env : Env} {tables : Tables} {stone : StoneRow} {path : Value} {content : Text}

theorem rawKey_of_mem_chunkRows {row : RefRow} (mem : row ∈ chunkRows env stone path content)
    : row.rawKey = stone.rawKey := by
  rw [chunkRows_eq] at mem
  obtain ⟨chunk, _, rfl⟩ := mem_map.mp mem
  rfl

/-- Without context a chunk shows its own lines. -/
theorem text_windowOf_chunk {chunk : Nat × List Text}
    (mem : chunk ∈ chunksOf (splitLines content))
    : (windowOf ((chunkRef env.toBuiltins stone.hash path stone.rawKey chunk).row
        (stone.path.getD [])) content 0).text = joinLines chunk.2 := by
  have own := lines_of_mem_chunksFrom mem
  obtain ⟨filled, ends⟩ := bounds_of_mem_chunksFrom mem
  have texts (lines : List Text) (start : Nat)
      : ((lines.zipIdx start).map (fun line => (line.2, line.1))).map (·.2) = lines := by
    rw [map_map]
    exact zipIdx_map_fst start lines
  unfold Expansion.text windowOf
  simp only [Ref.row, chunkRef, texts]
  have start : max 1 (chunk.1 + 1 - 0) - 1 = chunk.1 := by omega
  have end_ : min (splitLines content).length (chunk.1 + chunk.2.length + 0)
      = chunk.1 + chunk.2.length := by
    omega
  rw [start, end_, drop_take, Nat.add_sub_cancel_left]
  exact congrArg joinLines own

theorem mapM_eq_ok {α β : Type} {f : α → Except Text β} {g : α → β} {list : List α}
    (each : ∀ a ∈ list, f a = .ok (g a))
    : list.mapM f = .ok (list.map g) := by
  induction list with
  | nil => rfl
  | cons a list ih =>
    rw [mapM_cons, each a mem_cons_self,
      ih (fun b mem => each b (.tail _ mem))]
    rfl

theorem truthy_refId {row : RefRow} (mem : row ∈ chunkRows env stone path content)
    : (Value.string row.refId).truthy = true := by
  rw [chunkRows_eq] at mem
  obtain ⟨chunk, _, rfl⟩ := mem_map.mp mem
  rfl

theorem exists_ranked {body : Value} {picked : List Expansion}
    (named : body.get (text "stone_hash") = .string stone.hash)
    (queried : queryAndExpandFromBody env tables body = .ok picked)
    : ∃ ranked, ranked ⊆ refsOf tables stone
      ∧ ranked.mapM (expandRefRow tables (contextLines env body)) = .ok picked := by
  unfold queryAndExpandFromBody at queried
  rw [named] at queried
  simp only [presentString, bind, Except.bind] at queried
  split at queried
  · cases queried
  · next stoneHash here =>
      split at here
      · cases here
      · cases here
        split at queried
        · cases queried
        · split at queried
          · cases queried
          · split at queried
            · cases queried
            · refine ⟨_, ?_, queried⟩
              intro row mem
              obtain ⟨scored, ranked, rfl⟩ := mem_map.mp mem
              have sorted := (perm_insertionSort _ _).mem_iff.mp (mem_of_mem_take ranked)
              obtain ⟨own, listed, rfl⟩ := mem_map.mp (mem_filter.mp sorted).1
              exact listed

/-- What is chunked can be put together again, and read around each chunk. -/
theorem Chunked.reconstructs (chunked : Chunked env tables stone path content)
    (receipt : receipted tables stone.hash) (keyed : Data.Keyed (·.refId) tables.refs)
    (wellFormed : WellFormed content)
    : Reconstructs env tables stone content := by
  have raw : tables.rawAt stone.rawKey = some content := by
    rw [chunked.raw, wellFormed]
  have rows : refsOf tables stone = chunkRows env stone path content := chunked.refs
  have expand (context : Nat) (row : RefRow) (mem : row ∈ refsOf tables stone)
      : expandRefRow tables context row = .ok (windowOf row content context) := by
    rw [rows] at mem
    rw [expandRefRow, rawKey_of_mem_chunkRows mem, raw]
  refine
    { partition := ?_
      covered := ?_
      joined := ⟨(refsOf tables stone).map (windowOf · content 0), ?_, ?_⟩
      byId := ?_
      expanded := ?_
      queried := ?_ }
  · let row chunk :=
      (chunkRef env.toBuiltins stone.hash path stone.rawKey chunk).row (stone.path.getD [])
    have whole : Partition 0 (List.map row _) (0 + _) :=
      partition_chunksFrom (fun _ => rfl) (fun _ => rfl) (le_refl (splitLines content).length)
    rw [zero_add] at whole
    rw [rows, chunkRows_eq]
    exact whole
  · exact (chunked.fullyIndexed receipt).lines content raw
  · exact mapM_eq_ok (expand 0)
  · have texts : ((refsOf tables stone).map (windowOf · content 0)).map (·.text)
        = (chunksOf (splitLines content)).map (fun chunk => joinLines chunk.2) := by
      rw [rows, chunkRows_eq, map_map, map_map]
      exact map_congr_left (fun chunk mem => text_windowOf_chunk mem)
    rw [texts, chunksOf, joinLines_chunksFrom (le_refl _) (splitLines_ne_nil content),
      joinLines_splitLines]
  · intro row mem body named
    have truthy := truthy_refId (rows ▸ mem)
    have found := keyed.find_eq (mem_filter.mp mem).1
    simp only [locateRef, named, truthy, if_true, columnOf, Option.some_beq_some]
    exact congrArg Except.ok found
  · intro row mem body located
    refine ⟨windowOf row content (contextLines env body), ?_, showsLines_windowOf _ _ _⟩
    have own : row.rawKey = stone.rawKey := rawKey_of_mem_chunkRows (rows ▸ mem)
    simp only [expandRefFromBody, located, own, raw, bind, Except.bind]
  · intro body named picked queried shown mem
    obtain ⟨ranked, own, shows⟩ := exists_ranked named queried
    rw [mapM_eq_ok (fun row mem => expand _ row (own mem))] at shows
    cases shows
    obtain ⟨row, within, rfl⟩ := mem_map.mp mem
    exact ⟨row, own within, showsLines_windowOf _ _ _⟩

end

-- Creations

/-- No two refs have one id. Witness: an insertion is refused where the id is taken. -/
theorem keyed_refs {env : Env} {h : History (vault env)} (lives : Lives (CommitPromise env) h)
    : Data.Keyed (·.refId) h.state.refs := by
  refine lives.invariant (J := fun (g : History (vault env)) => Data.Keyed (·.refId) g.state.refs)
    nodup_nil ?_
  intro g t cmd _ due keyed
  rw [History.exec_state]
  rcases exec_cases env g.state cmd with ⟨stmt, put, rfl, _, done, after⟩ | after
  · rw [after]
    cases stmt with
    | insertRef row =>
      obtain ⟨refs, added, rfl⟩ := Option.map_eq_some_iff.mp done
      obtain ⟨rfl, fresh⟩ := inserted_eq added
      exact keyed.append_singleton fresh
    | batch rows => exact due.elim
    | insertStone row | insertReceipt row | insertEdge row | insertHead row =>
      obtain ⟨rows, _, rfl⟩ := Option.map_eq_some_iff.mp done
      exact keyed
    | _ =>
      cases done
      exact keyed
  · rw [after]
    exact keyed

/-- A byte order mark, which decoding takes off a text. -/
def BOM : CodeUnit := 0xFEFF

/-- Every stone whose creation was completed has the chunks of its content as refs, which reconstruct
a content that is read back as it was written.
-/
def AllReconstruct (env : Env) (tables : Tables) : Prop :=
  ∀ receipt ∈ tables.receipts, ∃ stone ∈ tables.stones, stone.hash = receipt.stoneHash
    ∧ ∃ path content, Chunked env tables stone path content
      ∧ (WellFormed content → content.head? ≠ some BOM → Reconstructs env tables stone content)

def createdOnce : List (Action (vault quietEnv) StoneBody) :=
  .spawn (StoneBody.ofValue oneLine) :: List.replicate 9 (.step 0)

end CairnStone.Vault
