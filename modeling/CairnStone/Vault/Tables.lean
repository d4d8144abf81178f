import CairnStone.Concurrency.Program
import CairnStone.Data.SqlText
import CairnStone.Data.Table
import CairnStone.Vault.RefIndex

/-! The tables of the vault: raw contents, stones with what indexes them, edges, and the heads of
chains and paths. Every statement is one step, and any statement may fail.
-/

namespace CairnStone.Vault

open JavaScript Data Concurrency

/-- A row of `stones`. `stoneJson` is the stored text, parsed. -/
structure StoneRow where
  (hash title author createdAt : Text)
  (repo commitSha parentHash chainHash : Option Text)
  rawKey : Text
  stoneJson : Value
  path : Option Text

structure RefRow where
  (refId stoneHash path : Text)
  (lineStart lineEnd : Nat)
  (keywords preview rawKey : Text)
  deriving DecidableEq

/-- A row of `refs_fts`, which has no key. -/
structure FtsRow where
  (refId stoneHash chain path keywords preview : Text)
  deriving DecidableEq

structure ReceiptRow where
  (id stoneHash : Text)
  (originalBytes compressedBytes : Nat)
  ratio : Number
  (strategy createdAt : Text)

structure EdgeRow where
  (id fromHash toHash edgeType : Text)
  note : Option Text
  createdAt : Text
  deriving DecidableEq

structure PathHeadRow where
  (chain path headHash updatedAt : Text)
  deriving DecidableEq

structure ChainHeadRow where
  (chain headHash updatedAt : Text)
  deriving DecidableEq

structure OrientedHead where
  (path stoneHash : Text)
  (repo commitSha : Option Text)
  updatedAt : Text
  deriving DecidableEq

inductive HeadKey where
  | path (chain path : Text)
  | chain (chain : Text)
  deriving DecidableEq

/-- The bucket, the tables, and the number of steps taken so far. -/
structure Tables where
  raw : List (Text × Text)
  stones : List StoneRow
  refs : List RefRow
  refsFts : List FtsRow
  receipts : List ReceiptRow
  edges : List EdgeRow
  pathHeads : List PathHeadRow
  chainHeads : List ChainHeadRow
  steps : Nat

structure GitHubFile where
  (owner repo ref path : Text)
  deriving DecidableEq

inductive Fetched where
  | threw (message : Text)
  | refused (error : Text)
  | text (content : Text)
  deriving DecidableEq

structure TreeFile where
  (path size sha : Value)

/-- The built-in functions, and the outside world by the number of steps taken so far. `column` is
what D1 stores for a bound value that is neither a string nor `null`, if it takes it at all; `report`
is the text of a report about a repository with what it counts. `isoDate` is what `Date.parse` and
`toISOString` make of a text.
-/
structure Env extends Builtins where
  gitBlobSha1 : Text → Text
  toNumber : Value → Number
  column : Value → Option Text
  isoDate : Text → Option Text
  now : Nat → Text
  fails : Nat → Bool
  fetchFile : Nat → GitHubFile → Fetched
  fetchTree : Nat → (owner repo ref : Text) → Except Text (List TreeFile)
  resolveCommit : Nat → (owner repo ref : Text) → Option Text
  report : Nat → Text × Value

/-- A world in which no statement fails and GitHub refuses every request. -/
def quietEnv : Env where
  sha256 := id
  stringOf := Value.interpolate
  toLowerCase := id
  localeLe a b := a ≤ b
  matchCount _ _ := 0
  ratioOf _ _ := .zero
  gitBlobSha1 := id
  toNumber _ := .nan
  column _ := none
  isoDate := some
  now _ := text "2026-01-01T00:00:00.000Z"
  fails _ := false
  fetchFile _ _ := .refused (text "github_fetch_failed")
  fetchTree _ _ _ _ := .error (text "github_tree_fetch_failed")
  resolveCommit _ _ _ _ := none
  report _ := (text "report", .null)

structure ImportBatch where
  stones : List StoneRow
  refs : List RefRow
  receipts : List ReceiptRow
  edges : List EdgeRow
  pathHeads : List PathHeadRow

inductive Write where
  | putRaw (rawKey content : Text)
  | insertStone (row : StoneRow)
  | insertRef (row : RefRow)
  | insertFts (row : FtsRow)
  | insertReceipt (row : ReceiptRow)
  | insertEdge (row : EdgeRow)
  | insertHead (row : ChainHeadRow)
  | upsertHead (row : ChainHeadRow)
  | upsertPathHead (row : PathHeadRow)
  | batch (rows : ImportBatch)
  | rebuildFts (stoneHash : Text) (rows : List FtsRow)

inductive Command where
  | write (statement : Write)
  | now
  | selectExisting (chain : Text) (path : Option Text) (rawKey : Text)
  | observeHead (key : HeadKey)
  | readChainHead (chain : Text)
  | readPathHeads (chain : Text)
  | fetchFile (file : GitHubFile)
  | fetchTree (owner repo ref : Text)
  | resolveCommit (owner repo ref : Text)
  | report

/-- What a command answers; `false` is an exception. -/
@[reducible] def Command.Reply : Command → Type
  | .write _ => Bool
  | .now => Text
  | .selectExisting _ _ _ => Option Text
  | .observeHead _ => Option Text
  | .readChainHead _ => Option ChainHeadRow
  | .readPathHeads _ => List OrientedHead
  | .fetchFile _ => Fetched
  | .fetchTree _ _ _ => Except Text (List TreeFile)
  | .resolveCommit _ _ _ => Option Text
  | .report => Text × Value

namespace Tables

/-- The hash that a head names, if there is one. -/
def headAt (tables : Tables) : HeadKey → Option Text
  | .path chain path =>
    (tables.pathHeads.find? (fun row => row.chain == chain && row.path == path)).map (·.headHash)
  | .chain chain => (tables.chainHeads.find? (·.chain == chain)).map (·.headHash)

/-- `SELECT … FROM chain_heads WHERE chain = ?` -/
def chainHead (tables : Tables) (chain : Text) : Option ChainHeadRow :=
  tables.chainHeads.find? (·.chain == chain)

/-- `SELECT … FROM stones WHERE hash = ?` -/
def stoneAt (tables : Tables) (hash : Text) : Option StoneRow :=
  tables.stones.find? (·.hash == hash)

/-- What orientation reads of a path head: an empty `repo` or `commit_sha` counts as none. -/
def oriented (tables : Tables) (row : PathHeadRow) : OrientedHead where
  path := row.path
  stoneHash := row.headHash
  repo := ((tables.stoneAt row.headHash).bind (·.repo)).filter (· != [])
  commitSha := ((tables.stoneAt row.headHash).bind (·.commitSha)).filter (· != [])
  updatedAt := row.updatedAt

/-- `SELECT … FROM path_heads … LEFT JOIN stones … WHERE chain = ? ORDER BY path ASC` -/
def orientedHeads (tables : Tables) (chain : Text) : List OrientedHead :=
  ((tables.pathHeads.filter (·.chain == chain)).insertionSort (fun a b => binaryLe a.path b.path)).map
    tables.oriented

def rawAt (tables : Tables) (rawKey : Text) : Option Text :=
  (tables.raw.find? (·.1 == rawKey)).map (·.2)

def existingStone (tables : Tables) (chain : Text) (path : Option Text) (rawKey : Text)
    : Option StoneRow :=
  ((tables.stones.filter (fun row =>
      row.chainHash == some chain && row.path == path && path.isSome && row.rawKey == rawKey)).insertionSort
    (fun a b => binaryLe b.createdAt a.createdAt)).head?

/-- `INSERT` of one row: none if its key is taken. -/
def inserted {α κ : Type} [BEq κ] (key : α → κ) (rows : List α) (row : α) : Option (List α) :=
  if rows.any (fun other => key other == key row) then none else some (rows ++ [row])

/-- `INSERT` of rows one after the other. -/
def insertedAll {α κ : Type} [BEq κ] (key : α → κ) : (rows : List α) → List α → Option (List α)
  | rows, [] => some rows
  | rows, row :: rest => (inserted key rows row).bind (insertedAll key · rest)

/-- `INSERT … ON CONFLICT(key) DO UPDATE` -/
def upserted {α κ : Type} [BEq κ] (key : α → κ) (rows : List α) (row : α) : List α :=
  if rows.any (fun other => key other == key row) then
    updateWhere (fun other => key other == key row) (fun _ => row) rows
  else rows ++ [row]

/-- The key of `path_heads`. -/
def pathKey (row : PathHeadRow) : Text × Text :=
  (row.chain, row.path)

def write (tables : Tables) : Write → Option Tables
  | .putRaw rawKey content =>
    some { tables with raw := upserted (·.1) tables.raw (rawKey, toWellFormed content) }
  | .insertStone row =>
    (inserted (·.hash) tables.stones row).map (fun stones => { tables with stones })
  | .insertRef row =>
    (inserted (·.refId) tables.refs row).map (fun refs => { tables with refs })
  | .insertFts row => some { tables with refsFts := tables.refsFts ++ [row] }
  | .insertReceipt row =>
    (inserted (·.id) tables.receipts row).map (fun receipts => { tables with receipts })
  | .insertEdge row =>
    (inserted (·.id) tables.edges row).map (fun edges => { tables with edges })
  | .insertHead row =>
    (inserted (·.chain) tables.chainHeads row).map (fun chainHeads =>
      { tables with chainHeads })
  | .upsertHead row =>
    some { tables with chainHeads := upserted (·.chain) tables.chainHeads row }
  | .upsertPathHead row =>
    some { tables with pathHeads := upserted pathKey tables.pathHeads row }
  | .batch rows => do
    -- The statements of a batch take effect together or not at all.
    let stones ← insertedAll (·.hash) tables.stones rows.stones
    let refs ← insertedAll (·.refId) tables.refs rows.refs
    let receipts ← insertedAll (·.id) tables.receipts rows.receipts
    let edges ← insertedAll (·.id) tables.edges rows.edges
    let pathHeads ← insertedAll pathKey tables.pathHeads rows.pathHeads
    some { tables with stones, refs, receipts, edges, pathHeads }
  | .rebuildFts stoneHash rows =>
    some { tables with refsFts := tables.refsFts.filter (·.stoneHash != stoneHash) ++ rows }

variable (env : Env)

/-- One command, without the step that it counts. -/
def answer (tables : Tables) : (cmd : Command) → cmd.Reply × Tables
  | .write statement =>
    match (if env.fails tables.steps then none else tables.write statement) with
    | some written => (true, written)
    | none => (false, tables)
  | .now => (env.now tables.steps, tables)
  | .selectExisting chain path rawKey =>
    ((tables.existingStone chain path rawKey).map (·.hash), tables)
  | .observeHead key => (tables.headAt key, tables)
  | .readChainHead chain => (tables.chainHead chain, tables)
  | .readPathHeads chain => (tables.orientedHeads chain, tables)
  | .fetchFile file => (env.fetchFile tables.steps file, tables)
  | .fetchTree owner repo ref => (env.fetchTree tables.steps owner repo ref, tables)
  | .resolveCommit owner repo ref => (env.resolveCommit tables.steps owner repo ref, tables)
  | .report => (env.report tables.steps, tables)

def exec (cmd : Command) (tables : Tables) : cmd.Reply × Tables :=
  ((answer env tables cmd).1,
    { (answer env tables cmd).2 with steps := tables.steps + 1 })

/-- An empty vault. -/
def empty : Tables where
  raw := []
  stones := []
  refs := []
  refsFts := []
  receipts := []
  edges := []
  pathHeads := []
  chainHeads := []
  steps := 0

end Tables

/-- The vault as a machine. -/
@[reducible] def vault (env : Env) : Machine where
  State := Tables
  Command := Command
  Reply := Command.Reply
  exec := Tables.exec env
  Event := Empty
  disturb := fun event => nomatch event

/-- A call on the vault; an exception carries its message. A `SELECT` that fails ends its call, as
does a call that is never resumed.
-/
abbrev Operation (env : Env) := Program (vault env) Text

variable {env : Env}

def perform (cmd : Command) : Operation env cmd.Reply :=
  Program.perform (M := vault env) cmd

def select {α : Type} (f : Tables → α) : Operation env α :=
  Program.select (M := vault env) f

def require (statement : Write) : Operation env Unit := do
  let succeeded : Bool ← perform (.write statement)
  if succeeded then .done () else .fail (text "D1_ERROR")

/-- `if (condition) statement` -/
def whenever (condition : Bool) (statement : Operation env Unit) : Operation env Unit :=
  if condition then statement else .done ()

def clock : Operation env Text :=
  perform .now

variable (env) in
def columnOf (value : Value) : Option (Option Text) :=
  match value with
  | .null => some none
  | .string s => some (some s)
  | given => (env.column given).map some

def bound (value : Value) : Operation env (Option Text) :=
  match columnOf env value with
  | some stored => .done stored
  | none => .fail (text "D1_TYPE_ERROR")

/-- A value bound to a column that is `NOT NULL`. -/
def boundText (value : Value) : Operation env Text := do
  let stored ← bound value
  match stored with
  | some stored => .done stored
  | none => .fail (text "NOT NULL constraint failed")

def upsertHead (chain : Value) (hash updatedAt : Text) : Operation env Unit := do
  let chain ← boundText chain
  require (.upsertHead { chain, headHash := hash, updatedAt })

def upsertPathHead (chain : Text) (path : Value) (hash updatedAt : Text) : Operation env Unit := do
  let path ← boundText path
  require (.upsertPathHead { chain, path, headHash := hash, updatedAt })

def requiredString (value : Value) (name : String) : Operation env Text :=
  match value with
  | .string s =>
    if trim s = [] then .fail (text ("Missing required string: " ++ name)) else .done s
  | _ => .fail (text ("Missing required string: " ++ name))

end CairnStone.Vault
