import CairnStone.Concurrency.Replay
import CairnStone.Vault.Tables

/-! What one statement does to the tables, and what no statement of a call undoes. -/

namespace CairnStone.Vault

open JavaScript Data Concurrency List Option

variable {env : Env} {tables tables' : Tables} {statement : Write}

instance vaultEventIsEmpty : IsEmpty (vault env).Event :=
  inferInstanceAs (IsEmpty Empty)

namespace Tables

variable {written : Tables}

def Succeeds (env : Env) (tables : Tables) (statement : Write) : Prop :=
  env.fails tables.steps = false ∧ (tables.write statement).isSome

/-- What a statement leaves: its rows and one step more, or one step more. -/
theorem exec_write_cases (env : Env) (tables : Tables) (statement : Write)
    : (∃ written, tables.Succeeds env statement ∧ tables.write statement = some written
        ∧ exec env (.write statement) tables = (true, { written with steps := tables.steps + 1 }))
      ∨ exec env (.write statement) tables = (false, { tables with steps := tables.steps + 1 }) := by
  unfold exec answer Succeeds
  cases failing : env.fails tables.steps with
  | true =>
    right
    simp only [if_true]
  | false =>
    cases written : tables.write statement with
    | none =>
      right
      simp only [written]
      rfl
    | some after =>
      refine .inl ⟨after, by simp, rfl, ?_⟩
      simp only [written]
      rfl

theorem exec_write_of_succeeds (succeeds : tables.Succeeds env statement)
    : ∃ written, tables.write statement = some written
      ∧ exec env (.write statement) tables = (true, { written with steps := tables.steps + 1 }) := by
  obtain ⟨works, isSome⟩ := succeeds
  obtain ⟨written, found⟩ := isSome_iff_exists.mp isSome
  refine ⟨written, found, ?_⟩
  simp only [exec, answer, works, found]
  rfl

theorem succeeds_of_reply (reply : (exec env (.write statement) tables).1 = true)
    : tables.Succeeds env statement := by
  rcases exec_write_cases env tables statement with ⟨_, succeeds, _⟩ | failed
  · exact succeeds
  · rw [failed] at reply
    cases reply

theorem exec_cases (env : Env) (tables : Tables) (cmd : Command)
    : (∃ statement written, cmd = .write statement ∧ tables.Succeeds env statement
        ∧ tables.write statement = some written
        ∧ (exec env cmd tables).2 = { written with steps := tables.steps + 1 })
      ∨ (exec env cmd tables).2 = { tables with steps := tables.steps + 1 } := by
  cases cmd with
  | write statement =>
    rcases exec_write_cases env tables statement with ⟨written, succeeds, found, run⟩ | failed
    · exact .inl ⟨statement, written, rfl, succeeds, found, congrArg Prod.snd run⟩
    · exact .inr (congrArg Prod.snd failed)
  | _ => exact .inr rfl

variable {α κ : Type} [BEq κ] [LawfulBEq κ] {key : α → κ} {rows rows' added : List α} {row : α}

theorem inserted_eq (done : inserted key rows row = some rows')
    : rows' = rows ++ [row] ∧ ∀ other ∈ rows, key other ≠ key row := by
  unfold inserted at done
  split at done
  · cases done
  · rename_i fresh
    refine ⟨(some.inj done).symm, fun other mem same => fresh ?_⟩
    exact List.any_eq_true.mpr ⟨other, mem, beq_iff_eq.mpr same⟩

theorem insertedAll_eq (done : insertedAll key rows added = some rows') : rows' = rows ++ added := by
  induction added generalizing rows with
  | nil => simpa [insertedAll] using done.symm
  | cons row rest ih =>
    obtain ⟨middle, first, later⟩ := bind_eq_some_iff.mp done
    rw [ih later, (inserted_eq first).1, append_assoc]
    rfl

omit [LawfulBEq κ] in
theorem mem_upserted {other : α} (mem : other ∈ upserted key rows row)
    : other = row ∨ other ∈ rows ∧ (key other == key row) = false := by
  unfold upserted at mem
  split at mem
  · obtain ⟨old, here, rfl⟩ := mem_updateWhere.mp mem
    split
    · exact .inl rfl
    · rename_i apart
      exact .inr ⟨here, by simpa using apart⟩
  · rename_i fresh
    rcases mem_append.mp mem with old | new
    · refine .inr ⟨old, ?_⟩
      have all := List.any_eq_false.mp (Bool.eq_false_iff.mpr fresh) other old
      simpa using all
    · exact .inl (mem_singleton.mp new)

omit [LawfulBEq κ] in
theorem mem_upserted_self : row ∈ upserted key rows row := by
  unfold upserted
  split
  · rename_i found
    obtain ⟨old, here, same⟩ := List.any_eq_true.mp found
    exact mem_updateWhere.mpr ⟨old, here, by simp [same]⟩
  · exact mem_append_right _ (mem_singleton.mpr rfl)

/-- After an upsert, its row is the one found under its key. Witness: induction on the rows. -/
theorem find_upserted_self (key : α → κ) (rows : List α) (row : α)
    : (upserted key rows row).find? (fun other => key other == key row) = some row := by
  unfold upserted
  split
  · rename_i known
    induction rows with
    | nil => simp at known
    | cons first rest ih =>
      rw [updateWhere, map_cons, ← updateWhere]
      by_cases same : key first = key row
      · simp [same]
      · simp only [any_cons, Bool.or_eq_true, beq_iff_eq, same, false_or] at known
        rw [if_neg (by simpa using same), find?_cons_of_neg (by simpa using same)]
        exact ih known
  · rename_i fresh
    rw [find?_append, find?_eq_none.mpr]
    · simp
    · intro other mem same
      exact fresh (List.any_eq_true.mpr ⟨other, mem, same⟩)

/-- An upsert leaves what is found under other keys. Witness: induction on the rows. -/
theorem find_upserted_of_ne (rows : List α) {k : κ} (apart : key row ≠ k)
    : (upserted key rows row).find? (fun other => key other == k)
      = rows.find? (fun other => key other == k) := by
  unfold upserted
  split
  · rename_i known
    clear known
    induction rows with
    | nil => rfl
    | cons first rest ih =>
      rw [updateWhere, map_cons, ← updateWhere, find?_cons, find?_cons, ih]
      by_cases same : key first = key row
      · have asked : (key row == k) = false := by simpa using apart
        simp [same, asked]
      · simp [same]
  · have asked : (key row == k) = false := by simpa using apart
    simp [find?_append, asked]

theorem keyed_upserted (keyed : Data.Keyed key rows) : Data.Keyed key (upserted key rows row) := by
  unfold upserted
  split
  · exact keyed.updateWhere (fun other same => (eq_of_beq same).symm)
  · rename_i fresh
    refine keyed.append_singleton (fun other mem same => fresh ?_)
    exact List.any_eq_true.mpr ⟨other, mem, beq_iff_eq.mpr same⟩

theorem exists_key_upserted {k : κ} (here : ∃ other ∈ rows, key other = k)
    : ∃ other ∈ upserted key rows row, key other = k := by
  obtain ⟨other, mem, rfl⟩ := here
  unfold upserted
  split
  · by_cases same : (key other == key row) = true
    · refine ⟨row, mem_updateWhere.mpr ⟨other, mem, by simp [same]⟩, ?_⟩
      exact (eq_of_beq same).symm
    · exact ⟨other, mem_updateWhere.mpr ⟨other, mem, by simp [same]⟩, rfl⟩
  · exact ⟨other, mem_append_left _ mem, rfl⟩

/-- The rows that a statement adds to `stones`. -/
def addedStones : Write → List StoneRow
  | .insertStone row => [row]
  | .batch rows => rows.stones
  | _ => []

/-- The rows that a statement adds to `refs`. -/
def addedRefs : Write → List RefRow
  | .insertRef row => [row]
  | .batch rows => rows.refs
  | _ => []

/-- The rows that a statement adds to `receipts`. -/
def addedReceipts : Write → List ReceiptRow
  | .insertReceipt row => [row]
  | .batch rows => rows.receipts
  | _ => []

/-- The rows that a statement adds to `stone_edges`. -/
def addedEdges : Write → List EdgeRow
  | .insertEdge row => [row]
  | .batch rows => rows.edges
  | _ => []

structure Appends (statement : Write) (tables written : Tables) : Prop where
  stones : written.stones = tables.stones ++ addedStones statement
  refs : written.refs = tables.refs ++ addedRefs statement
  receipts : written.receipts = tables.receipts ++ addedReceipts statement
  edges : written.edges = tables.edges ++ addedEdges statement

/-- Witness: case analysis on the statement. -/
theorem appends_write (done : tables.write statement = some written)
    : Appends statement tables written := by
  cases statement with
  | insertStone row =>
    obtain ⟨stones, added, rfl⟩ := map_eq_some_iff.mp done
    exact ⟨(inserted_eq added).1, by simp [addedRefs], by simp [addedReceipts], by simp [addedEdges]⟩
  | insertRef row =>
    obtain ⟨refs, added, rfl⟩ := map_eq_some_iff.mp done
    exact ⟨by simp [addedStones], (inserted_eq added).1, by simp [addedReceipts], by simp [addedEdges]⟩
  | insertReceipt row =>
    obtain ⟨receipts, added, rfl⟩ := map_eq_some_iff.mp done
    exact ⟨by simp [addedStones], by simp [addedRefs], (inserted_eq added).1, by simp [addedEdges]⟩
  | insertEdge row =>
    obtain ⟨edges, added, rfl⟩ := map_eq_some_iff.mp done
    exact ⟨by simp [addedStones], by simp [addedRefs], by simp [addedReceipts], (inserted_eq added).1⟩
  | insertHead row =>
    obtain ⟨heads, added, rfl⟩ := map_eq_some_iff.mp done
    exact ⟨by simp [addedStones], by simp [addedRefs], by simp [addedReceipts], by simp [addedEdges]⟩
  | batch rows =>
    simp only [write, bind_eq_bind, bind_eq_some_iff] at done
    obtain ⟨stones, stonesDone, refs, refsDone, receipts, receiptsDone, edges, edgesDone,
      pathHeads, _, done⟩ := done
    cases done
    exact ⟨insertedAll_eq stonesDone, insertedAll_eq refsDone, insertedAll_eq receiptsDone,
      insertedAll_eq edgesDone⟩
  | _ =>
    cases done
    exact ⟨by simp [addedStones], by simp [addedRefs], by simp [addedReceipts], by simp [addedEdges]⟩

/-- A command adds the rows of its statement, or leaves those tables alone. -/
theorem appends_exec (env : Env) (tables : Tables) (cmd : Command)
    : (∃ statement, cmd = .write statement ∧ tables.Succeeds env statement
        ∧ Appends statement tables (exec env cmd tables).2)
      ∨ (exec env cmd tables).2 = { tables with steps := tables.steps + 1 } := by
  rcases exec_cases env tables cmd with ⟨statement, written, rfl, succeeds, done, after⟩ | after
  · left
    refine ⟨statement, rfl, succeeds, ?_⟩
    rw [after]
    obtain ⟨stones, refs, receipts, edges⟩ := appends_write done
    exact ⟨stones, refs, receipts, edges⟩
  · exact .inr after

structure Grows (tables tables' : Tables) : Prop where
  stones : tables.stones <+: tables'.stones
  refs : tables.refs <+: tables'.refs
  receipts : tables.receipts <+: tables'.receipts
  edges : tables.edges <+: tables'.edges

theorem Grows.refl (tables : Tables) : Grows tables tables :=
  ⟨prefix_refl _, prefix_refl _, prefix_refl _, prefix_refl _⟩

theorem Grows.trans {tables'' : Tables} (first : Grows tables tables')
    (second : Grows tables' tables'')
    : Grows tables tables'' :=
  ⟨first.stones.trans second.stones, first.refs.trans second.refs,
    first.receipts.trans second.receipts, first.edges.trans second.edges⟩

theorem Appends.grows (appends : Appends statement tables written)
    : Grows tables written :=
  ⟨⟨_, appends.stones.symm⟩, ⟨_, appends.refs.symm⟩, ⟨_, appends.receipts.symm⟩,
    ⟨_, appends.edges.symm⟩⟩

theorem grows_exec (env : Env) (tables : Tables) (cmd : Command)
    : Grows tables (exec env cmd tables).2 := by
  rcases appends_exec env tables cmd with ⟨_, _, _, appends⟩ | after
  · exact appends.grows
  · rw [after]
    exact ⟨prefix_refl _, prefix_refl _, prefix_refl _, prefix_refl _⟩

/-- A write of the same content under a key, or of any content under another one. -/
def Agrees (rawKey content : Text) : Write → Prop
  | .putRaw otherKey other => otherKey = rawKey → toWellFormed other = content
  | _ => True

theorem rawAt_putRaw (tables : Tables) (otherKey other rawKey : Text)
    : ({ tables with raw := upserted (·.1) tables.raw (otherKey, other) } : Tables).rawAt rawKey
      = if otherKey = rawKey then some other else tables.rawAt rawKey := by
  unfold rawAt
  split
  · rename_i same
    subst same
    rw [find_upserted_self (fun entry : Text × Text => entry.1) tables.raw (otherKey, other)]
    rfl
  · rename_i apart
    have others : (fun entry : Text × Text => entry.1) (otherKey, other) ≠ rawKey := apart
    rw [find_upserted_of_ne tables.raw others]

theorem rawAt_exec {rawKey content : Text} (stored : tables.rawAt rawKey = some content)
    {cmd : Command} (agrees : ∀ statement, cmd = .write statement → Agrees rawKey content statement)
    : (exec env cmd tables).2.rawAt rawKey = some content := by
  rcases exec_cases env tables cmd with ⟨statement, written, rfl, _, done, after⟩ | after
  · rw [after]
    change written.rawAt rawKey = some content
    have agrees := agrees statement rfl
    cases statement with
    | putRaw otherKey other =>
      cases done
      rw [rawAt_putRaw]
      split
      · rename_i same
        exact congrArg some (agrees same)
      · exact stored
    | insertStone row =>
      obtain ⟨_, _, rfl⟩ := map_eq_some_iff.mp done
      exact stored
    | insertRef row =>
      obtain ⟨_, _, rfl⟩ := map_eq_some_iff.mp done
      exact stored
    | insertReceipt row =>
      obtain ⟨_, _, rfl⟩ := map_eq_some_iff.mp done
      exact stored
    | insertEdge row =>
      obtain ⟨_, _, rfl⟩ := map_eq_some_iff.mp done
      exact stored
    | insertHead row =>
      obtain ⟨_, _, rfl⟩ := map_eq_some_iff.mp done
      exact stored
    | batch rows =>
      simp only [write, bind_eq_bind, bind_eq_some_iff] at done
      obtain ⟨_, _, _, _, _, _, _, _, _, _, done⟩ := done
      cases done
      exact stored
    | _ =>
      cases done
      exact stored
  · rw [after]
    exact stored

/-- Only an upsert and an import write path heads. Witness: case analysis on the statement. -/
theorem pathHeads_write (done : tables.write statement = some written)
    : (∃ row, statement = .upsertPathHead row
        ∧ written.pathHeads = upserted pathKey tables.pathHeads row)
      ∨ (∃ rows, statement = .batch rows
        ∧ insertedAll pathKey tables.pathHeads rows.pathHeads = some written.pathHeads)
      ∨ ((∀ row, statement ≠ .upsertPathHead row) ∧ written.pathHeads = tables.pathHeads) := by
  cases statement with
  | upsertPathHead row =>
    cases done
    exact .inl ⟨row, rfl, rfl⟩
  | batch rows =>
    simp only [write, bind_eq_bind, bind_eq_some_iff] at done
    obtain ⟨_, _, _, _, _, _, _, _, pathHeads, adds, done⟩ := done
    cases done
    exact .inr (.inl ⟨rows, rfl, adds⟩)
  | insertStone row | insertRef row | insertReceipt row | insertEdge row | insertHead row =>
    obtain ⟨_, _, rfl⟩ := map_eq_some_iff.mp done
    exact .inr (.inr ⟨fun row same => (by cases same), rfl⟩)
  | _ =>
    cases done
    exact .inr (.inr ⟨fun row same => (by cases same), rfl⟩)

theorem pathHeads_exec_cases (env : Env) (tables : Tables) (cmd : Command)
    : (∃ row, cmd = .write (.upsertPathHead row) ∧ tables.Succeeds env (.upsertPathHead row)
        ∧ (exec env cmd tables).2.pathHeads = upserted pathKey tables.pathHeads row)
      ∨ (∃ rows, cmd = .write (.batch rows)
        ∧ insertedAll pathKey tables.pathHeads rows.pathHeads
          = some (exec env cmd tables).2.pathHeads)
      ∨ ((∀ row, cmd = .write (.upsertPathHead row)
          → ¬tables.Succeeds env (.upsertPathHead row))
        ∧ (exec env cmd tables).2.pathHeads = tables.pathHeads) := by
  by_cases upserts : ∃ row, cmd = .write (.upsertPathHead row)
      ∧ tables.Succeeds env (.upsertPathHead row)
  · obtain ⟨row, rfl, succeeds⟩ := upserts
    obtain ⟨written, done, run⟩ := exec_write_of_succeeds succeeds
    cases done
    exact .inl ⟨row, rfl, succeeds, by rw [run]⟩
  · have fails (row : PathHeadRow) (issued : cmd = .write (.upsertPathHead row))
        : ¬tables.Succeeds env (.upsertPathHead row) := by
      intro succeeds
      exact upserts ⟨row, issued, succeeds⟩
    rcases exec_cases env tables cmd with ⟨statement, written, rfl, succeeds, done, after⟩ | after
    · rw [after]
      rcases pathHeads_write done with ⟨row, rfl, _⟩ | ⟨rows, rfl, adds⟩ | ⟨_, same⟩
      · exact absurd succeeds (fails row rfl)
      · exact .inr (.inl ⟨rows, rfl, adds⟩)
      · exact .inr (.inr ⟨fails, same⟩)
    · rw [after]
      exact .inr (.inr ⟨fails, rfl⟩)

/-- Only an upsert and an insert write chain heads. Witness: case analysis on the statement. -/
theorem chainHeads_write (done : tables.write statement = some written)
    : (∃ row, statement = .upsertHead row
        ∧ written.chainHeads = upserted (·.chain) tables.chainHeads row)
      ∨ (∃ row, statement = .insertHead row
        ∧ inserted (·.chain) tables.chainHeads row = some written.chainHeads)
      ∨ written.chainHeads = tables.chainHeads := by
  cases statement with
  | upsertHead row =>
    cases done
    exact .inl ⟨row, rfl, rfl⟩
  | insertHead row =>
    obtain ⟨chainHeads, adds, rfl⟩ := map_eq_some_iff.mp done
    exact .inr (.inl ⟨row, rfl, adds⟩)
  | batch rows =>
    simp only [write, bind_eq_bind, bind_eq_some_iff] at done
    obtain ⟨_, _, _, _, _, _, _, _, _, _, done⟩ := done
    cases done
    exact .inr (.inr rfl)
  | insertStone row | insertRef row | insertReceipt row | insertEdge row =>
    obtain ⟨_, _, rfl⟩ := map_eq_some_iff.mp done
    exact .inr (.inr rfl)
  | _ =>
    cases done
    exact .inr (.inr rfl)

end Tables

end CairnStone.Vault
