import CairnStone.Vault.Creation

/-! Whether every line of an accepted file can be expanded. A stone is stored by one statement after
the other, its receipt last, and a commit may accept a stone that another one has stored.
-/

namespace CairnStone.Vault

open JavaScript Data Concurrency List Tables History Config

variable {env : Env} {h h' : History (vault env)} {t u : Nat} {hash : Text} {stone : StoneRow}
  {path : Value} {content : Text}
  {tables : Tables} {cmd : Command} {row : StoneRow}
  {promise : Nat → Command → History (vault env) → Prop}

-- What it is to be indexed

def chunkRows (env : Env) (stone : StoneRow) (path : Value) (content : Text) : List RefRow :=
  (buildRefs env.toBuiltins stone.hash path stone.rawKey content).map (Ref.row (stone.path.getD []))

/-- The content of a stone is stored, and its `refs` rows are exactly the chunks of it. -/
structure Chunked (env : Env) (tables : Tables) (stone : StoneRow) (path : Value) (content : Text)
    : Prop where
  key : stone.rawKey = rawKeyOf env content
  raw : tables.rawAt stone.rawKey = some (toWellFormed content)
  column : columnOf env path = some stone.path
  refs : tables.refs.filter (·.stoneHash == stone.hash) = chunkRows env stone path content

/-- The stone has a row in `receipts`. -/
def receipted (tables : Tables) (hash : Text) : Bool :=
  tables.receipts.any (·.stoneHash == hash)

/-- Every line of the stone's content lies in exactly one of its `refs` rows, none of which reaches
beyond the content; the rows are the chunks of the content, and the receipt is there.
-/
structure FullyIndexed (env : Env) (tables : Tables) (stone : StoneRow) : Prop where
  chunked : ∃ path content, Chunked env tables stone path content
  lines
    : ∀ raw, tables.rawAt stone.rawKey = some raw → ∀ line, 1 ≤ line → line ≤ (splitLines raw).length
      → ∃! row, row ∈ tables.refs ∧ row.stoneHash = stone.hash ∧ row.lineStart ≤ line
        ∧ line ≤ row.lineEnd
  ranges
    : ∀ raw, tables.rawAt stone.rawKey = some raw → ∀ row ∈ tables.refs, row.stoneHash = stone.hash
      → 1 ≤ row.lineStart ∧ row.lineStart ≤ row.lineEnd ∧ row.lineEnd ≤ (splitLines raw).length
  receipt : receipted tables stone.hash

theorem map_row_markGroup (column : Text) (refs : List Ref) (ids : List Text)
    : (markGroup refs ids).map (Ref.row column) = refs.map (Ref.row column) := by
  unfold markGroup
  split
  · rfl
  · rw [map_map]
    refine map_congr_left (fun ref _ => ?_)
    simp only [Function.comp_apply]
    split <;> rfl

/-- The rows are those of the single chunks. Witness: induction on the groups of duplicates. -/
theorem chunkRows_eq (env : Env) (stone : StoneRow) (path : Value) (content : Text)
    : chunkRows env stone path content
      = (chunksOf (splitLines content)).map (fun chunk =>
          (chunkRef env.toBuiltins stone.hash path stone.rawKey chunk).row (stone.path.getD [])) := by
  have marked (refs : List Ref) (groups : List (List Text))
      : (groups.foldl markGroup refs).map (Ref.row (stone.path.getD []))
        = refs.map (Ref.row (stone.path.getD [])) := by
    induction groups generalizing refs with
    | nil => rfl
    | cons ids rest ih => rw [foldl_cons, ih, map_row_markGroup]
  rw [chunkRows, buildRefs, marked, map_map]
  rfl

theorem stoneHash_of_mem_chunkRows {row : RefRow} (mem : row ∈ chunkRows env stone path content)
    : row.stoneHash = stone.hash := by
  rw [chunkRows_eq] at mem
  obtain ⟨chunk, _, rfl⟩ := mem_map.mp mem
  rfl

/-- A chunk holds at least one line, and no line beyond the text. Witness: induction on the fuel. -/
theorem bounds_of_mem_chunksFrom {fuel before : Nat} {lines : List Text} {chunk : Nat × List Text}
    (mem : chunk ∈ chunksFrom fuel before lines)
    : 0 < chunk.2.length ∧ chunk.1 + chunk.2.length ≤ before + lines.length := by
  induction fuel generalizing before lines with
  | zero => cases mem
  | succ fuel ih =>
    cases lines with
    | nil => cases mem
    | cons line rest =>
      have pos : 0 < DEFAULT_LINES_PER_REF := by decide
      rcases mem_cons.mp mem with rfl | later
      · simp only [length_take, length_cons]
        omega
      · obtain ⟨filled, ends⟩ := ih later
        have starts := le_of_mem_chunksFrom later
        simp only [length_drop, length_cons] at ends ⊢
        omega

/-- Exact chunks and a receipt make a stone fully indexed. Witness: every line lies in one chunk. -/
theorem Chunked.fullyIndexed (chunked : Chunked env tables stone path content)
    (receipt : receipted tables stone.hash)
    : FullyIndexed env tables stone := by
  have mem_iff (row : RefRow)
      : row ∈ tables.refs ∧ row.stoneHash = stone.hash ↔ row ∈ chunkRows env stone path content := by
    rw [← chunked.refs, mem_filter, beq_iff_eq]
  have same (raw : Text) (found : tables.rawAt stone.rawKey = some raw)
      : (splitLines raw).length = (splitLines content).length := by
    cases (chunked.raw.symm.trans found)
    rw [length_splitLines, length_splitLines, count_newline_toWellFormed]
  refine ⟨⟨path, content, chunked⟩, fun raw found line low high => ?_, fun raw found row mem of => ?_,
    receipt⟩
  · rw [same raw found] at high
    have within : line ≤ 0 + (splitLines content).length := by omega
    obtain ⟨chunk, ⟨mem, starts, ends⟩, only⟩ :=
      existsUnique_chunk (Nat.le_refl (splitLines content).length) low within
    have row_mem (other : Nat × List Text) (mem : other ∈ chunksOf (splitLines content))
        : (chunkRef env.toBuiltins stone.hash path stone.rawKey other).row (stone.path.getD [])
          ∈ chunkRows env stone path content := by
      rw [chunkRows_eq]
      exact mem_map.mpr ⟨other, mem, rfl⟩
    obtain ⟨present, of⟩ := (mem_iff _).mpr (row_mem chunk mem)
    refine ⟨_, ⟨present, of, starts, ends⟩, ?_⟩
    rintro other ⟨present', of', starts', ends'⟩
    have listed := (mem_iff other).mp ⟨present', of'⟩
    rw [chunkRows_eq] at listed
    obtain ⟨chunk', mem', rfl⟩ := mem_map.mp listed
    rw [only chunk' ⟨mem', starts', ends'⟩]
  · rw [same raw found]
    have listed := (mem_iff row).mp ⟨mem, of⟩
    rw [chunkRows_eq] at listed
    obtain ⟨chunk, within, rfl⟩ := mem_map.mp listed
    obtain ⟨filled, ends⟩ := bounds_of_mem_chunksFrom within
    simp only [Ref.row, chunkRef]
    omega

-- What a commit promises

def StoresStone (env : Env) (hash : Text) (issued : Issued (vault env)) : Prop :=
  ∃ row, issued.command = .write (.insertStone row) ∧ row.hash = hash
    ∧ issued.before.Succeeds env (.insertStone row)

def Owns (env : Env) (t : Nat) (hash : Text) (h : History (vault env)) : Prop :=
  ∃ issued ∈ h.own t, StoresStone env hash issued

def FindsStone (env : Env) (hash : Text) (issued : Issued (vault env)) : Prop :=
  ∃ chain path rawKey stone, issued.command = .selectExisting chain path rawKey
    ∧ issued.before.existingStone chain path rawKey = some stone ∧ stone.hash = hash

/-- What the thread knows of every command that it issues. Only the thread that stored a stone adds
its chunks, and its receipt last; a path head names a stone with a receipt, or one that was found.
-/
def CommitPromise (env : Env) (t : Nat) (cmd : Command) (h : History (vault env)) : Prop :=
  match cmd with
  | .write (.putRaw rawKey content) => rawKey = rawKeyOf env content
  | .write (.insertRef row) => Owns env t row.stoneHash h ∧ receipted h.state row.stoneHash = false
  | .write (.insertReceipt row) =>
    Owns env t row.stoneHash h
    ∧ ∃ stone ∈ h.state.stones, stone.hash = row.stoneHash
      ∧ ∃ path content, Chunked env h.state stone path content
  | .write (.upsertPathHead row) =>
    receipted h.state row.headHash ∨ ∃ issued ∈ h.own t, FindsStone env row.headHash issued
  | .write (.insertHead _) => False
  | .write (.batch _) => False
  | .write (.rebuildFts _ _) => False
  | _ => True

theorem commitPromise_of_harmless (t : Nat) (cmd : Command) (h : History (vault env))
    (harmless : Harmless cmd)
    : CommitPromise env t cmd h := by
  cases cmd with
  | write stmt => cases stmt <;> trivial
  | _ => trivial

theorem keyed_of_promised (promised : CommitPromise env u cmd h)
    : Keyed env cmd := by
  cases cmd with
  | write stmt =>
    cases stmt with
    | putRaw rawKey content => exact promised
    | _ => trivial
  | _ => trivial

-- One owner for each stone

theorem Owns.later (owns : Owns env t hash h) (le : h.log <:+ h'.log) : Owns env t hash h' := by
  obtain ⟨issued, mem, stores⟩ := owns
  exact ⟨issued, (own_suffix le t).subset mem, stores⟩

theorem owns_exec (owns : Owns env t hash (h.exec u cmd))
    : Owns env t hash h ∨ t = u ∧ StoresStone env hash ⟨u, cmd, h.state⟩ := by
  obtain ⟨issued, mem, stores⟩ := owns
  obtain ⟨noted, thread⟩ := mem_own.mp mem
  rcases mem_cons.mp noted with rfl | prior
  · exact .inr ⟨thread.symm, stores⟩
  · exact .inl ⟨issued, mem_own.mpr ⟨prior, thread⟩, stores⟩

theorem stones_of_stores (works : tables.Succeeds env (.insertStone row))
    : (Tables.exec env (.write (.insertStone row)) tables).2.stones = tables.stones ++ [row]
      ∧ ∀ other ∈ tables.stones, other.hash ≠ row.hash := by
  obtain ⟨put, done, run⟩ := exec_write_of_succeeds works
  obtain ⟨stones, added, rfl⟩ := Option.map_eq_some_iff.mp done
  obtain ⟨rfl, fresh⟩ := inserted_eq added
  exact ⟨by rw [run], fresh⟩

structure Owned (env : Env) (h : History (vault env)) : Prop where
  present : ∀ {t hash}, Owns env t hash h → ∃ stone ∈ h.state.stones, stone.hash = hash
  unique : ∀ {t u hash}, Owns env t hash h → Owns env u hash h → t = u

/-- Witness: a stone whose hash is taken is not stored again. -/
theorem owned (lives : Lives promise h)
    : Owned env h := by
  refine lives.invariant (J := Owned env) ⟨?_, ?_⟩ ?_
  · rintro t hash ⟨issued, mem, _⟩
    cases mem
  · rintro t u hash ⟨issued, mem, _⟩
    cases mem
  · rintro g u cmd _ _ ⟨present, unique⟩
    have stores_fresh {hash : Text} (stores : StoresStone env hash ⟨u, cmd, g.state⟩)
        : (∃ stone ∈ (g.exec u cmd).state.stones, stone.hash = hash)
          ∧ ∀ other ∈ g.state.stones, other.hash ≠ hash := by
      obtain ⟨row, rfl, rfl, works⟩ := stores
      obtain ⟨stones, fresh⟩ := stones_of_stores works
      refine ⟨⟨row, ?_, rfl⟩, fresh⟩
      rw [exec_state, stones]
      exact mem_append_right _ (mem_singleton.mpr rfl)
    have grows := (grows_exec env g.state cmd).stones
    refine ⟨fun owns => ?_, fun owns owns' => ?_⟩
    · rcases owns_exec owns with old | ⟨_, stores⟩
      · obtain ⟨stone, mem, same⟩ := present old
        exact ⟨stone, grows.subset mem, same⟩
      · exact (stores_fresh stores).1
    · rcases owns_exec owns with old | ⟨rfl, stores⟩
      · rcases owns_exec owns' with old' | ⟨rfl, stores'⟩
        · exact unique old old'
        · obtain ⟨stone, mem, same⟩ := present old
          exact absurd same ((stores_fresh stores').2 stone mem)
      · rcases owns_exec owns' with old' | ⟨rfl, _⟩
        · obtain ⟨stone, mem, same⟩ := present old'
          exact absurd same ((stores_fresh stores).2 stone mem)
        · rfl

-- What stays stored

/-- A command adds no chunk to a stone that it adds none to. -/
theorem refs_promised (promised : CommitPromise env u cmd h)
    (other : ∀ row, cmd = .write (.insertRef row) → row.stoneHash ≠ hash)
    : (Tables.exec env cmd tables).2.refs.filter (·.stoneHash == hash)
      = tables.refs.filter (·.stoneHash == hash) := by
  rcases appends_exec env tables cmd with ⟨stmt, rfl, _, appends⟩ | after
  · rw [appends.refs, filter_append]
    cases stmt with
    | insertRef row => simp [addedRefs, other row rfl]
    | batch rows => exact absurd promised id
    | _ => simp [addedRefs]
  · rw [after]

theorem receipted_exec (known : receipted tables hash)
    : receipted (Tables.exec env cmd tables).2 hash := by
  obtain ⟨receipt, mem, same⟩ := any_eq_true.mp known
  exact any_eq_true.mpr
    ⟨receipt, (grows_exec env tables cmd).receipts.subset mem, same⟩

theorem unreceipted_promised (unknown : receipted tables hash = false)
    (promised : CommitPromise env u cmd h)
    (other : ∀ row, cmd = .write (.insertReceipt row) → row.stoneHash ≠ hash)
    : receipted (Tables.exec env cmd tables).2 hash = false := by
  unfold receipted at unknown ⊢
  rcases appends_exec env tables cmd with ⟨stmt, rfl, _, appends⟩ | after
  · rw [appends.receipts, any_append, unknown, Bool.false_or]
    cases stmt with
    | insertReceipt row => simp [addedReceipts, other row rfl]
    | batch rows => exact absurd promised id
    | _ => rfl
  · rw [after]
    exact unknown

theorem Chunked.promised (strong : CollisionFree env.sha256)
    (chunked : Chunked env tables stone path content)
    (promised : CommitPromise env u cmd h)
    (other : ∀ row, cmd = .write (.insertRef row) → row.stoneHash ≠ stone.hash)
    : Chunked env (Tables.exec env cmd tables).2 stone path content where
  key := chunked.key
  raw := by
    rw [chunked.key]
    exact rawAt_keyed strong (chunked.key ▸ chunked.raw) (keyed_of_promised promised)
  column := chunked.column
  refs := (refs_promised promised other).trans chunked.refs

-- Receipts come last

structure ReceiptsLast (env : Env) (tables : Tables) : Prop where
  refs : ∀ row ∈ tables.refs, ∃ stone ∈ tables.stones, stone.hash = row.stoneHash
  receipts
    : ∀ receipt ∈ tables.receipts, ∃ stone ∈ tables.stones, stone.hash = receipt.stoneHash
      ∧ ∃ path content, Chunked env tables stone path content

/-- Witness: only a stone's owner adds chunks to it, and none after the receipt. -/
theorem receiptsLast (strong : CollisionFree env.sha256) (lives : Lives (CommitPromise env) h)
    : ReceiptsLast env h.state := by
  refine lives.invariant (J := fun g => ReceiptsLast env g.state) ⟨?_, ?_⟩ ?_
  · intro row mem
    cases mem
  · intro receipt mem
    cases mem
  · rintro g u cmd keptNow promised ⟨refs, receipts⟩
    have owned := owned keptNow
    have grows := grows_exec env g.state cmd
    have kept (receipt : ReceiptRow) (mem : receipt ∈ g.state.receipts)
        : ∃ stone ∈ (Tables.exec env cmd g.state).2.stones, stone.hash = receipt.stoneHash
          ∧ ∃ path content, Chunked env (Tables.exec env cmd g.state).2 stone path content := by
      obtain ⟨stone, present, same, path, content, chunked⟩ := receipts receipt mem
      refine ⟨stone, grows.stones.subset present, same, path, content,
        chunked.promised strong promised ?_⟩
      rintro row rfl of
      have absent : receipted g.state row.stoneHash = false := promised.2
      rw [of] at absent
      have known : receipted g.state stone.hash = true :=
        any_eq_true.mpr ⟨receipt, mem, by simp [same]⟩
      rw [absent] at known
      cases known
    constructor
    · intro row mem
      rw [exec_state] at mem ⊢
      have old (known : row ∈ g.state.refs)
          : ∃ stone ∈ (Tables.exec env cmd g.state).2.stones, stone.hash = row.stoneHash := by
        obtain ⟨stone, present, same⟩ := refs row known
        exact ⟨stone, grows.stones.subset present, same⟩
      rcases appends_exec env g.state cmd with ⟨stmt, rfl, _, appends⟩ | after
      · rw [appends.refs] at mem
        rcases mem_append.mp mem with known | added
        · exact old known
        · cases stmt with
          | insertRef row' =>
            cases mem_singleton.mp added
            obtain ⟨stone, present, same⟩ := owned.present promised.1
            exact ⟨stone, grows.stones.subset present, same⟩
          | batch rows => exact absurd promised id
          | _ => cases added
      · rw [after] at mem
        exact old mem
    · intro receipt mem
      rw [exec_state] at mem ⊢
      rcases appends_exec env g.state cmd with ⟨stmt, rfl, _, appends⟩ | after
      · rw [appends.receipts] at mem
        rcases mem_append.mp mem with known | added
        · exact kept receipt known
        · cases stmt with
          | insertReceipt row =>
            cases mem_singleton.mp added
            have promised' : CommitPromise env u (.write (.insertReceipt receipt)) g := promised
            obtain ⟨_, stone, present, same, path, content, chunked⟩ := promised
            exact ⟨stone, grows.stones.subset present, same, path, content,
              chunked.promised strong promised' (fun row issued => by cases issued)⟩
          | batch rows => exact absurd promised id
          | _ => cases added
      · rw [after] at mem
        exact kept receipt mem

-- Storing a stone

variable {Call : Type} {call : Call} {done : List RefRow}

/-- The thread is storing the stone: its row is there, and so far these chunks of it. -/
structure Building (env : Env) (t : Nat) (stone : StoneRow) (content : Text) (done : List RefRow)
    (h : History (vault env))
    : Prop where
  owns : Owns env t stone.hash h
  present : stone ∈ h.state.stones
  raw : h.state.rawAt (rawKeyOf env content) = some (toWellFormed content)
  refs : h.state.refs.filter (·.stoneHash == stone.hash) = done
  unreceipted : receipted h.state stone.hash = false

/-- Other threads leave the stone alone. -/
theorem Building.later (strong : CollisionFree env.sha256)
    (building : Building env t stone content done h) (lives : Lives (CommitPromise env) h)
    (later : Later (CommitPromise env) Call t h h')
    : Building env t stone content done h' := by
  refine lives.undisturbed (J := Building env t stone content done) later.inv later.le later.own
    building ?_
  rintro g u cmd keptNow promised apart _ _ ⟨owns, present, raw, refs, unreceipted⟩
  have foreign (owned? : Owns env u stone.hash g) : False :=
    apart ((owned keptNow).unique owned? owns)
  refine ⟨owns.later (suffix_cons _ _),
    (grows_exec env g.state cmd).stones.subset present,
    rawAt_keyed strong raw (keyed_of_promised promised), ?_, ?_⟩
  · refine (refs_promised promised ?_).trans refs
    rintro row rfl same
    exact foreign (same ▸ promised.1)
  · refine unreceipted_promised unreceipted promised ?_
    rintro row rfl same
    exact foreign (same ▸ promised.1)

/-- So does a statement of its own that stores nothing of it. -/
theorem Building.harmless (strong : CollisionFree env.sha256)
    (building : Building env t stone content done h) (harmless : Harmless cmd)
    : Building env t stone content done (h.exec t cmd) := by
  have promised := commitPromise_of_harmless t cmd h harmless
  refine ⟨building.owns.later (suffix_cons _ _),
    (grows_exec env h.state cmd).stones.subset building.present,
    rawAt_keyed strong building.raw (keyed_of_promised promised), ?_, ?_⟩
  · refine (refs_promised promised ?_).trans building.refs
    rintro row rfl
    cases harmless
  · refine unreceipted_promised building.unreceipted promised ?_
    rintro row rfl
    cases harmless

/-- The chunks are added one after the other. Witness: induction on the chunks that are left. -/
theorem keeps_chunks (strong : CollisionFree env.sha256) (rest : List RefRow)
    (of : ∀ row ∈ rest, row.stoneHash = stone.hash) (lives : Lives (CommitPromise env) h)
    (building : Building env t stone content done h)
    : Keeps (CommitPromise env) t call (requireEach (rest.map .insertRef))
        (fun _ h' => Building env t stone content (done ++ rest) h') h := by
  induction rest generalizing done h with
  | nil =>
    refine keeps_done (fun h1 later => ?_)
    rw [append_nil]
    exact building.later strong lives later
  | cons row rest ih =>
    have ofRow := of row (.head _)
    refine keeps_require_bind (fun h1 later => ?_)
    have now := building.later strong lives later
    have promised : CommitPromise env t (.write (.insertRef row)) h1 := by
      refine ⟨ofRow ▸ now.owns, ?_⟩
      rw [ofRow]
      exact now.unreceipted
    refine ⟨promised, fun works => ?_⟩
    have lives1 : Lives (CommitPromise env) h1 := later.inv
    obtain ⟨put, wrote, run⟩ := exec_write_of_succeeds works
    have appends := appends_write wrote
    have added : Building env t stone content (done ++ [row])
        (h1.exec t (.write (.insertRef row))) := by
      refine ⟨now.owns.later (suffix_cons _ _),
        (grows_exec env h1.state _).stones.subset now.present,
        rawAt_keyed strong now.raw (keyed_of_promised promised), ?_, ?_⟩
      · rw [exec_state, show _ = _ from congrArg Prod.snd run]
        change put.refs.filter _ = _
        rw [appends.refs, filter_append, now.refs]
        simp [addedRefs, ofRow]
      · exact unreceipted_promised now.unreceipted promised (fun row issued => by cases issued)
    have later' := ih (fun other mem => of other (.tail _ mem)) (lives1.exec promised) added
    rw [append_assoc] at later'
    exact later'

theorem rows_buildStone {input : StoneInput} {made : Text} {related parent chain : Value}
    (stores
      : Stores env input made parent chain (buildStone env input made related parent chain)
          row)
    : (buildStone env input made related parent chain).refs.map (Ref.row (row.path.getD []))
      = chunkRows env row input.path input.content := by
  have hash := stores.hash
  have rawKey := stores.rawKey
  unfold chunkRows
  rw [hash, rawKey]
  rfl

theorem receipted_of_succeeds {row : ReceiptRow}
    (works : tables.Succeeds env (.insertReceipt row))
    : receipted (Tables.exec env (.write (.insertReceipt row)) tables).2 row.stoneHash := by
  obtain ⟨put, wrote, run⟩ := exec_write_of_succeeds works
  have appends := appends_write wrote
  rw [run]
  refine any_eq_true.mpr ⟨row, ?_, beq_iff_eq.mpr rfl⟩
  change row ∈ put.receipts
  rw [appends.receipts]
  exact mem_append_right _ (mem_singleton.mpr rfl)

theorem receipted_onward (onward : Onward promise Call h h') (lives : Lives promise h)
    (known : receipted h.state hash)
    : receipted h'.state hash := by
  obtain ⟨receipt, mem, same⟩ := any_eq_true.mp known
  exact any_eq_true.mpr ⟨receipt, (onward.grows lives).receipts.subset mem, same⟩

theorem keeps_storeStone (strong : CollisionFree env.sha256) {input : StoneInput}
    {made : Text} {related parent chain : Value} (lives : Lives (CommitPromise env) h)
    (stores
      : Stores env input made parent chain (buildStone env input made related parent chain)
          row)
    (raw : h.state.rawAt (rawKeyOf env input.content) = some (toWellFormed input.content))
    : Keeps (CommitPromise env) t call
        (storeStone row (buildStone env input made related parent chain))
        (fun _ h' => receipted h'.state row.hash) h := by
  unfold storeStone
  refine keeps_require_bind (fun h1 later => ⟨trivial, fun works => ?_⟩)
  have lives1 : Lives (CommitPromise env) h1 := later.inv
  have last := receiptsLast strong lives1
  obtain ⟨stones, fresh⟩ := stones_of_stores works
  have promised : CommitPromise env t (.write (.insertStone row)) h1 := trivial
  have raw1 := rawAt_kept strong keyed_of_promised lives lives1 later.le raw
  have building : Building env t row input.content [] (h1.exec t (.write (.insertStone row))) := by
    refine ⟨⟨⟨t, .write (.insertStone row), h1.state⟩, ?_, row, rfl, rfl, works⟩, ?_,
      rawAt_keyed strong raw1 (keyed_of_promised promised), ?_, ?_⟩
    · rw [own_exec_self]
      exact .head _
    · rw [exec_state, stones]
      exact mem_append_right _ (mem_singleton.mpr rfl)
    · refine (refs_promised promised (fun row issued => by cases issued)).trans ?_
      rw [filter_eq_nil_iff]
      intro ref mem same
      obtain ⟨stone, present, of⟩ := last.refs ref mem
      exact fresh stone present (of.trans (eq_of_beq same))
    · refine unreceipted_promised ?_ promised (fun row issued => by cases issued)
      refine any_eq_false.mpr (fun receipt mem same => ?_)
      obtain ⟨stone, present, of, _⟩ := last.receipts receipt mem
      exact fresh stone present (of.trans (eq_of_beq same))
  rw [rows_buildStone stores]
  refine keeps_bind (keeps_chunks strong _ (fun ref mem => stoneHash_of_mem_chunkRows mem)
    (lives1.exec promised) building) (fun _ h2 onward2 building2 => ?_)
  refine keeps_bind (keeps_through (harmless_ftsIndexRefs _) (commitPromise_of_harmless t)
    (fun h h' lives later building => building.later strong lives later)
    (fun cmd h _ harmless building => building.harmless strong harmless) onward2.lives
    building2) (fun _ h3 onward3 building3 => ?_)
  refine keeps_require (fun h4 later4 => ?_)
  have building4 := building3.later strong onward3.lives later4
  have chunked : Chunked env h4.state row input.path input.content :=
    ⟨stores.rawKey, stores.rawKey ▸ building4.raw, stores.path, building4.refs⟩
  have same : (receiptRow env (buildStone env input made related parent chain)).stoneHash
      = row.hash := stores.hash.symm
  refine ⟨⟨same ▸ building4.owns, row, building4.present, same.symm, _, _, chunked⟩,
    fun works h5 later5 => ?_⟩
  have now := receipted_of_succeeds works
  rw [same] at now
  exact receipted_onward later5.onward (later4.inv.exec
    ⟨same ▸ building4.owns, row, building4.present, same.symm, _, _, chunked⟩) now

-- Commits and their runs

/-- What a commit may move a path head to: a stone with a receipt, or one that its search found. -/
def Acceptable (env : Env) (t : Nat) (hash : Text) (h : History (vault env)) : Prop :=
  Lives (CommitPromise env) h
  ∧ (receipted h.state hash ∨ ∃ issued ∈ h.own t, FindsStone env hash issued)

theorem Acceptable.onward (fit : Acceptable env t hash h)
    (onward : Onward (CommitPromise env) Call h h')
    : Acceptable env t hash h' := by
  obtain ⟨lives, known | ⟨issued, mem, finds⟩⟩ := fit
  · exact ⟨onward.lives, .inl (receipted_onward onward lives known)⟩
  · exact ⟨onward.lives, .inr ⟨issued, (own_suffix onward.le t).subset mem, finds⟩⟩

theorem keeps_create (strong : CollisionFree env.sha256) (body : StoneBody)
    : Keeps (CommitPromise env) t call (createStoneFromBody body)
        (fun made h' => Acceptable env t made.stoneHash h') h := by
  have made : Keeps (CommitPromise env) t call (createStoneFromBody body)
      (fun made h' =>
        ∃ row : StoneRow, row.hash = made.stoneHash ∧ Acceptable env t row.hash h') h := by
    refine keeps_createStoneFromBody (commitPromise_of_harmless t) (fun _ _ => rfl) ?_
      (fun row _ _ fit onward => fit.onward onward) (fun _ _ _ _ _ _ _ _ _ => trivial)
    intro input made row h1 h2 onward1 lives1 normalizes stores raw onward2
    have raw2 := rawAt_kept strong keyed_of_promised lives1 onward2.lives onward2.le raw
    refine Keeps.weaken (keeps_storeStone strong onward2.lives stores raw2) ?_
    exact fun _ h3 onward3 known => ⟨onward3.lives, .inl known⟩
  refine made.weaken (fun value h1 _ holds => ?_)
  obtain ⟨row, same, fit⟩ := holds
  exact same ▸ fit

theorem keeps_commit (strong : CollisionFree env.sha256) (body : Value)
    : Keeps (CommitPromise env) t call (commitV2FromBody body) (fun _ _ => True) h := by
  let Accepts (_ : Text) (_ : Value) (hash : Text) (h : History (vault env)) : Prop :=
    Acceptable env t hash h
  refine keeps_commitV2FromBody Accepts (commitPromise_of_harmless t)
    (fun _ _ sourced _ h1 _ _ => keeps_create strong sourced.withoutHead) ?_
    (fun _ _ _ _ _ fit onward => fit.onward onward)
    (fun _ _ _ _ _ _ fit _ _ _ => fit.2) (fun _ _ _ _ _ _ _ => trivial)
  intro chain sourced path content stone h1 _ found onward
  have promised : CommitPromise env t (.selectExisting chain path (rawKeyOf env content)) h1 := trivial
  have lives := onward.lives.exec promised
  let issued : Issued (vault env) :=
    ⟨t, .selectExisting chain path (rawKeyOf env content), h1.state⟩
  have finds : FindsStone env stone.hash issued := ⟨chain, path, _, stone, rfl, found, rfl⟩
  have own : issued ∈ (h1.exec t issued.command).own t := by
    rw [own_exec_self]
    exact .head _
  exact ⟨lives, .inr ⟨issued, own, finds⟩⟩

/-- A search for an existing stone, at an instant at which the stone that it finds has its receipt. -/
def FindsReceipted (_ : Nat) (cmd : Command) (h : History (vault env)) : Prop :=
  match cmd with
  | .selectExisting chain path rawKey =>
    (Tables.existingStone h.state chain path rawKey).all (fun stone =>
      receipted h.state stone.hash) = true
  | _ => True

instance decidableFindsReceipted (t : Nat) (cmd : Command) (h : History (vault env))
    : Decidable (FindsReceipted t cmd h) :=
  match cmd with
  | .selectExisting _ _ _ => inferInstanceAs (Decidable (_ = true))
  | .write _ | .now | .observeHead _ | .readChainHead _ | .readPathHeads _ | .fetchFile _
  | .fetchTree _ _ _ | .resolveCommit _ _ _ | .report =>
    inferInstanceAs (Decidable True)

/-- Path heads and the stones that searches found have receipts. -/
structure Accepted (env : Env) (h : History (vault env)) : Prop where
  heads : ∀ head ∈ h.state.pathHeads, receipted h.state head.headHash
  found : ∀ issued ∈ h.log, ∀ hash, FindsStone env hash issued → receipted h.state hash

theorem pathHeads_exec {head : PathHeadRow} (promised : CommitPromise env t cmd h)
    (mem : head ∈ (Tables.exec env cmd tables).2.pathHeads)
    : head ∈ tables.pathHeads ∨ cmd = .write (.upsertPathHead head) := by
  rcases pathHeads_exec_cases env tables cmd with
    ⟨row, rfl, _, upserts⟩ | ⟨rows, rfl, _⟩ | ⟨_, same⟩
  · rw [upserts] at mem
    rcases mem_upserted mem with rfl | ⟨old, _⟩
    · exact .inr rfl
    · exact .inl old
  · exact promised.elim
  · rw [same] at mem
    exact .inl mem

/-- Witness: a path head is moved to a stone with a receipt, or to one that was found, which had one.
-/
theorem Accepted.exec (taken : Accepted env h) (promised : CommitPromise env t cmd h)
    (ready : FindsReceipted t cmd h)
    : Accepted env (h.exec t cmd) := by
  have found (issued : Issued (vault env)) (noted : issued ∈ (h.exec t cmd).log) (hash : Text)
      (finds : FindsStone env hash issued)
      : receipted (h.exec t cmd).state hash := by
    rcases mem_cons.mp noted with rfl | prior
    · obtain ⟨chain, path, rawKey, stone, rfl, exists_, rfl⟩ := finds
      have now := ready
      rw [FindsReceipted, exists_] at now
      exact receipted_exec now
    · exact receipted_exec (taken.found issued prior hash finds)
  refine ⟨fun head mem => ?_, found⟩
  rcases pathHeads_exec promised mem with old | rfl
  · exact receipted_exec (taken.heads head old)
  · rcases promised with known | ⟨issued, own, finds⟩
    · exact receipted_exec known
    · exact receipted_exec (taken.found issued (mem_own.mp own).1 head.headHash finds)

/-- However commits are interleaved and wherever their statements fail, every path head names a stone
of which every line can be expanded, as long as no search finds a stone that is half stored.
-/
theorem fullyIndexed_heads (collisionFree : CollisionFree env.sha256)
    (schedule : List (Action (vault env) Value))
    (ready
      : ((Config.init Tables.empty).run commitV2FromBody schedule).history.Respects FindsReceipted)
    : ∀ head ∈ ((Config.init Tables.empty).run commitV2FromBody schedule).state.pathHeads,
        ∃ stone ∈ ((Config.init Tables.empty).run commitV2FromBody schedule).state.stones,
          stone.hash = head.headHash
          ∧ FullyIndexed env ((Config.init Tables.empty).run commitV2FromBody schedule).state stone := by
  have lives : Lives (CommitPromise env)
      ((init empty).run commitV2FromBody schedule).history :=
    lives_run (fun _ body _ _ _ => keeps_commit collisionFree body) schedule
  have accepted : Accepted env ((init empty).run commitV2FromBody schedule).history :=
    lives.run ready ⟨fun head member => (by cases member), fun issued member => (by cases member)⟩
      (fun _ _ promised now accepted => accepted.exec promised now)
  intro head member
  have receipt := accepted.heads head member
  obtain ⟨row, present, same⟩ := any_eq_true.mp receipt
  obtain ⟨stone, stored, of, path, content, chunked⟩ :=
    (receiptsLast collisionFree lives).receipts row present
  have hash : stone.hash = head.headHash := of.trans (eq_of_beq same)
  exact ⟨stone, stored, hash, chunked.fullyIndexed (hash ▸ receipt)⟩

def oneLine : Value :=
  .literal
    [(text "chain", .string (text "c")), (text "author", .string (text "a")),
      (text "path", .string (text "p")), (text "content", .string (text "x"))]

/-- A world in which the fifth step fails, which stores the first chunk of the first stone. -/
def interruptedEnv : Env :=
  { quietEnv with fails := (· == 4) }

theorem collisionFree_quietEnv : CollisionFree quietEnv.sha256 :=
  fun _ _ same => congrArg toWellFormed same

/-- A commit that fails between the row of its stone and its first chunk, and the same commit again. -/
def retriedCommit : List (Action (vault interruptedEnv) Value) :=
  .spawn oneLine :: List.replicate 5 (.step 0) ++ .spawn oneLine :: List.replicate 3 (.step 1)

/-- The second commit accepts the stone that has neither chunks nor a receipt. -/
theorem halfStored_head
    : ¬∀ head ∈ ((Config.init Tables.empty).run commitV2FromBody retriedCommit).state.pathHeads,
        ∃ stone ∈ ((Config.init Tables.empty).run commitV2FromBody retriedCommit).state.stones,
          stone.hash = head.headHash
          ∧ FullyIndexed interruptedEnv
              ((Config.init Tables.empty).run commitV2FromBody retriedCommit).state stone := by
  intro all
  have heads : ((init empty).run commitV2FromBody retriedCommit).state.pathHeads
      ≠ [] := by
    decide +kernel
  have receipts : ((init empty).run commitV2FromBody
      retriedCommit).state.receipts.isEmpty = true := by
    decide +kernel
  obtain ⟨head, member⟩ := exists_mem_of_ne_nil _ heads
  obtain ⟨stone, _, _, indexed⟩ := all head member
  have receipt := indexed.receipt
  unfold receipted at receipt
  rw [List.isEmpty_iff.mp receipts] at receipt
  cases receipt

/-- Two uninterrupted commits of the same line. -/
def repeatedCommit : List (Action (vault quietEnv) Value) :=
  .spawn oneLine :: List.replicate 9 (.step 0) ++ .spawn oneLine :: List.replicate 3 (.step 1)

theorem fullyIndexed_repeatedCommit
    : ((Config.init Tables.empty).run commitV2FromBody repeatedCommit).state.pathHeads ≠ []
      ∧ ∀ head ∈ ((Config.init Tables.empty).run commitV2FromBody repeatedCommit).state.pathHeads,
          ∃ stone ∈ ((Config.init Tables.empty).run commitV2FromBody repeatedCommit).state.stones,
            stone.hash = head.headHash
            ∧ FullyIndexed quietEnv
                ((Config.init Tables.empty).run commitV2FromBody repeatedCommit).state stone := by
  refine ⟨by decide +kernel, ?_⟩
  exact fullyIndexed_heads collisionFree_quietEnv repeatedCommit (by decide +kernel)

end CairnStone.Vault
