import CairnStone.Concurrency.Replay
import CairnStone.ToolAuthorization.Entrypoints

/-! Many requests, decisions and executions at once. A statement, a reading of the clock and a
call of a dependency are one step each, and a dependency may answer or throw whatever it likes
each time.
-/

namespace CairnStone.ToolAuthorization

open JavaScript Data Concurrency List

/-- A dependency: its answers and exceptions, by the number of steps taken so far. -/
abbrev Dependency (α : Type) := Option (Nat → α → Except Text Value)

/-- The platform and everything that the entry points are given. -/
structure Env extends Platform where
  clock : Nat → Int
  uuid : Nat → Text
  (createStone linkStones : Dependency Value)
  validateRegisteredMutation : Dependency (Value × Value)
  observeGuard : Dependency Value
  invokeTool : Dependency (Value × Value)
  verifyMutation : Dependency (Value × Value × Value)

/-- The lifecycle table, and the number of steps taken so far. -/
structure Database where
  rows : List Row
  steps : Nat

inductive Command where
  | insertPending (record : PendingRecord)
  | transition (id : Text) (fromStatus toStatus : Status) (fields : List Assignment)
  | update (id : Text) (fields : List Assignment)
  | dateNow (site : ClockSite)
  | randomUUID
  | createStone (body : Value)
  | linkStones (body : Value)
  | validateRegisteredMutation (toolId requiredAuthorization : Value)
  | observeGuard (guard : Value)
  | invokeTool (handler args : Value)
  | verifyMutation (toolId args result : Value)

def Command.Reply : Command → Type
  | .insertPending _ | .transition _ _ _ _ => Nat
  | .update _ _ => Unit
  | .dateNow _ => Int
  | .randomUUID => Text
  | _ => Except Text Value

variable (env : Env)

def ask {α : Type} (dependency : Dependency α) (db : Database) (args : α)
    : Except Text Value × Database :=
  (match dependency with
    | some answer => answer db.steps args
    | none => .error (text "TypeError"),
    { db with steps := db.steps + 1 })

def exec : (cmd : Command) → Database → cmd.Reply × Database
  | .insertPending record, db =>
    ((insertPending db.rows record).1,
      { rows := (insertPending db.rows record).2, steps := db.steps + 1 })
  | .transition id fromStatus toStatus fields, db =>
    ((transition db.rows id fromStatus toStatus fields).1,
      { rows := (transition db.rows id fromStatus toStatus fields).2, steps := db.steps + 1 })
  | .update id fields, db =>
    ((), { rows := update db.rows id fields, steps := db.steps + 1 })
  | .dateNow _, db => (env.clock db.steps, { db with steps := db.steps + 1 })
  | .randomUUID, db => (env.uuid db.steps, { db with steps := db.steps + 1 })
  | .createStone body, db => ask env.createStone db body
  | .linkStones body, db => ask env.linkStones db body
  | .validateRegisteredMutation toolId requiredAuthorization, db =>
    ask env.validateRegisteredMutation db (toolId, requiredAuthorization)
  | .observeGuard guard, db => ask env.observeGuard db guard
  | .invokeTool handler args, db => ask env.invokeTool db (handler, args)
  | .verifyMutation toolId args result, db => ask env.verifyMutation db (toolId, args, result)

@[reducible] def store : Machine where
  State := Database
  Command := Command
  Reply := Command.Reply
  exec := exec env
  Event := Empty
  disturb := fun event => nomatch event

/-- Statements and dependencies as steps. An exception of a dependency escapes from the call. -/
def deps : Deps (store env) where
  loadAuthorization id := Program.select (M := store env) (fun db => find (Database.rows db) id)
  transitionAuthorization id fromStatus toStatus fields :=
    Program.perform (M := store env) (.transition id fromStatus toStatus fields)
  updateAuthorization id fields := Program.perform (M := store env) (.update id fields)
  dateNow site := Program.perform (M := store env) (.dateNow site)
  randomUUID := Program.perform (M := store env) .randomUUID
  createStone :=
    env.createStone.map (fun _ body =>
      (Program.perform (M := store env) (.createStone body)).bind Program.ofExcept)
  linkStones :=
    env.linkStones.map (fun _ body =>
      (Program.perform (M := store env) (.linkStones body)).bind Program.ofExcept)
  validateRegisteredMutation :=
    env.validateRegisteredMutation.map (fun _ toolId requiredAuthorization =>
      (Program.perform (M := store env)
        (.validateRegisteredMutation toolId requiredAuthorization)).bind Program.ofExcept)
  observeGuard :=
    env.observeGuard.map (fun _ guard =>
      (Program.perform (M := store env) (.observeGuard guard)).bind Program.ofExcept)
  invokeTool :=
    env.invokeTool.map (fun _ handler args =>
      (Program.perform (M := store env) (.invokeTool handler args)).bind Program.ofExcept)
  verifyMutation :=
    env.verifyMutation.map (fun _ toolId args result =>
      (Program.perform (M := store env) (.verifyMutation toolId args result)).bind
        Program.ofExcept)

inductive Call where
  | persistPending (record : PendingRecord)
  | authorize (body : Value)
  | execute (body : Value)

def Call.requestId : Call → Text
  | .persistPending record => record.authorizationRequestId
  | .authorize body => trimmed body "authorization_request_id"
  | .execute body => trimmed body "authorization_request_id"

def Call.body (env : Env) : Call → Program (store env) Text Value
  | .persistPending record =>
    persistPendingAuthorizationRecord env.toPlatform (deps env)
      (fun record => Program.perform (M := store env) (.insertPending record)) record
  | .authorize body => authorizeToolRequestFromBody env.toPlatform (deps env) body
  | .execute body => executeAuthorizedToolFromBody env.toPlatform (deps env) body

/-- A run of calls from an empty table. -/
def authorizationRun (env : Env) (schedule : List (Action (store env) Call))
    : Config (store env) Call Text Value :=
  (Config.init (M := store env) (⟨[], 0⟩ : Database)).run (Call.body env) schedule

end CairnStone.ToolAuthorization

/-! Who may move a row. A call that has moved a row to `deciding` owns it until it has settled it,
and a call that has moved it to `consuming` owns it until it has finished it; the unconditional
updates are issued by owners only.
-/

namespace CairnStone.ToolAuthorization

open JavaScript Data Concurrency List

variable {env : Env}

/-- Executed steps, the newest first. -/
abbrev Trace (env : Env) := List (Issued (store env))

/-- No step has been taken. -/
def Database.empty : Database where
  rows := []
  steps := 0

def Command.rewrite : Command → Row → Row
  | .transition id fromStatus toStatus fields, row =>
    if inStatus id fromStatus row then row.setAll (.status toStatus :: fields) else row
  | .update id fields, row =>
    if row.authorizationRequestId == id then row.setAll fields else row
  | _, row => row

@[simp] theorem Command.rewrite_id (cmd : Command) (row : Row)
    : (cmd.rewrite row).authorizationRequestId = row.authorizationRequestId := by
  cases cmd with
  | transition id fromStatus toStatus fields =>
    simp only [rewrite]
    split
    · exact row.setAll_id _
    · rfl
  | update id fields =>
    simp only [rewrite]
    split
    · exact row.setAll_id _
    · rfl
  | _ => rfl

def Command.added (cmd : Command) (db : Database) : List Row :=
  match cmd with
  | .insertPending record =>
    match find db.rows record.authorizationRequestId with
    | none => [record.row]
    | some _ => []
  | _ => []

/-- A step rewrites every row and may add one. Witness: case analysis on the command. -/
theorem rows_exec (cmd : Command) (db : Database)
    : (exec env cmd db).2.rows = db.rows.map cmd.rewrite ++ cmd.added db := by
  have stays : db.rows.map (fun row => row) = db.rows := map_id' db.rows
  cases cmd with
  | insertPending record =>
    have kept : db.rows.map (Command.insertPending record).rewrite = db.rows := stays
    rw [kept]
    cases known : find db.rows record.authorizationRequestId with
    | none => simp [exec, insertPending, Command.added, known]
    | some row => simp [exec, insertPending, Command.added, known]
  | transition id fromStatus toStatus fields =>
    exact (append_nil _).symm
  | update id fields => exact (append_nil _).symm
  | _ => exact ((append_nil _).trans stays).symm

variable {db : Database}

theorem mem_rows_exec {cmd : Command} {row : Row}
    (mem : row ∈ (exec env cmd db).2.rows)
    : (∃ old ∈ db.rows, row = cmd.rewrite old)
      ∨ ∃ record, cmd = .insertPending record ∧ row = record.row
        ∧ ∀ old ∈ db.rows, old.authorizationRequestId ≠ record.authorizationRequestId := by
  rw [rows_exec] at mem
  rcases mem_append.mp mem with kept | new
  · obtain ⟨old, here, rfl⟩ := mem_map.mp kept
    exact Or.inl ⟨old, here, rfl⟩
  · cases cmd with
    | insertPending record =>
      simp only [Command.added] at new
      split at new
      · rename_i free
        exact Or.inr ⟨record, rfl, mem_singleton.mp new, find_eq_none.mp free⟩
      · cases new
    | _ => cases new

/-- A row stays, rewritten. -/
theorem rewrite_mem (cmd : Command) {row : Row} (mem : row ∈ db.rows)
    : cmd.rewrite row ∈ (exec env cmd db).2.rows := by
  rw [rows_exec]
  exact mem_append_left _ (mem_map_of_mem mem)

/-- Ids stay unique: an insertion is ignored where the id is taken. -/
theorem keyed_exec (cmd : Command) (keyed : Keyed Row.authorizationRequestId db.rows)
    : Keyed Row.authorizationRequestId (exec env cmd db).2.rows := by
  have same : (db.rows.map cmd.rewrite).map Row.authorizationRequestId
      = db.rows.map Row.authorizationRequestId := by
    rw [map_map]
    exact map_congr_left (fun row _ => cmd.rewrite_id row)
  have redone : Keyed Row.authorizationRequestId (db.rows.map cmd.rewrite) := by
    unfold Keyed
    rwa [same]
  rw [rows_exec]
  cases cmd with
  | insertPending record =>
    simp only [Command.added]
    split
    · rename_i free
      refine redone.append_singleton (fun old mem => ?_)
      obtain ⟨old, here, rfl⟩ := mem_map.mp mem
      exact find_eq_none.mp free old here
    · rwa [append_nil]
  | _ => exact (append_nil (db.rows.map _)).symm ▸ redone

def Moves (id : Text) (fromStatus toStatus : Status) (fields : List Assignment)
    (issued : Issued (store env))
    : Prop :=
  issued.command = .transition id fromStatus toStatus fields
    ∧ ∃ row ∈ Database.rows issued.before,
        row.authorizationRequestId = id ∧ row.status = fromStatus

def claimFields (decision : Decision) (subject method : Text) : List Assignment :=
  [.decision decision, .authorizationSubject subject, .authorizationMethod method]

def Records (id : Text) (decision : Decision) (issued : Issued (store env)) : Prop :=
  ∃ subject method, Moves id .pending .deciding (claimFields decision subject method) issued

def Consumes (id : Text) (issued : Issued (store env)) : Prop :=
  ∃ fields, Moves id .authorized .consuming fields issued

def UpdatesTo (id : Text) (statuses : List Status) (issued : Issued (store env)) : Prop :=
  ∃ fields, issued.command = .update id fields ∧ ∃ status ∈ statuses, .status status ∈ fields

/-- The statuses that end a decision. -/
def settled : List Status := [.authorized, .denied, .authorizationFailed]

def finished : List Status := [.executed, .guardFailed, .executionFailed]

def Deciding (trace : Trace env) (id : Text) (decision : Decision) : Prop :=
  (∃ issued ∈ trace, Records id decision issued) ∧ ∀ issued ∈ trace, ¬ UpdatesTo id settled issued

def Consuming (trace : Trace env) (id : Text) : Prop :=
  (∃ issued ∈ trace, Consumes id issued) ∧ ∀ issued ∈ trace, ¬ UpdatesTo id finished issued

inductive Settling (decision : Decision) : List Assignment → Prop where
  | failed (error : Text) : Settling decision (failureFields .authorizationFailed error)
  | decided (issuedAt : Int) (expiresAt : Option Int) (hash : Text)
      : Settling decision (decidedFields decision issuedAt expiresAt hash)

inductive Finishing : List Assignment → Prop where
  | failed (error : Text) : Finishing (failureFields .executionFailed error)
  | guardFailed (receipt : Except Text Text) (result : Value)
      : Finishing (guardFailedFields receipt result)
  | outcome (finalError : Option Text) (receipt : Except Text Text) (result : Value)
      : Finishing (outcomeFields finalError receipt result)

def requestOf (env : Env) (row : Row) : Authorization :=
  rowToAuthorization env.parse row

structure Verified (env : Env) (row : Row) : Prop where
  target : (requestOf env row).target.isObject = true
  arguments : (requestOf env row).arguments.isObject = true
  digest : argumentDigest env.toPlatform (requestOf env row).arguments = row.argumentDigest
  stated
    : ((requestOf env row).request.get (text "argument_digest")).strictEquals
        (.string row.argumentDigest)
      = true

def ChecksExpiry (trace : Trace env) (expiresAt : Int) : Prop :=
  ∃ issued ∈ trace, issued.command = .dateNow .expiryCheck
    ∧ env.clock (Database.steps issued.before) < expiresAt

def At (db : Database) (id : Text) (p : Row → Prop) : Prop :=
  ∃ row ∈ db.rows, row.authorizationRequestId = id ∧ p row

structure Entitled (env : Env) (trace : Trace env) (handler args : Value) (row : Row) : Prop where
  verified : Verified env row
  handler : handler = (requestOf env row).target.get (text "handler")
  arguments : args = (requestOf env row).arguments
  unexpired : ∃ expiresAt, row.expiresAt = some expiresAt ∧ ChecksExpiry trace expiresAt

def invokes (issued : Issued (store env)) : Bool :=
  match issued.command with
  | .invokeTool _ _ => true
  | _ => false

/-- What a call about the request `id` knows when it takes a step. -/
def Promise (env : Env) (t : Nat) (id : Text) (cmd : Command) (h : History (store env)) : Prop :=
  match cmd with
  | .insertPending record => record.authorizationRequestId = id
  | .transition id' fromStatus toStatus fields =>
    id' = id
    ∧ ((fromStatus = .pending ∧ toStatus = .deciding
          ∧ (∃ decision subject method, fields = claimFields decision subject method)
          ∧ ∀ row ∈ Database.rows h.state, row.authorizationRequestId = id → Verified env row)
      ∨ (fromStatus = .authorized ∧ toStatus = .expired
          ∧ fields = [.errorType (some (text "authorization_expired"))])
      ∨ (fromStatus = .authorized ∧ toStatus = .consuming
          ∧ ∃ consumptionId startedAt, fields = [.consumptionId consumptionId, .consumedAt startedAt]))
  | .update id' fields =>
    id' = id
    ∧ ((∃ decision, Deciding (h.own t) id decision ∧ Settling decision fields)
      ∨ (Consuming (h.own t) id ∧ Finishing fields))
  | .invokeTool handler args =>
    Consuming (h.own t) id ∧ (h.own t).countP invokes = 0
    ∧ At h.state id (Entitled env (h.own t) handler args)
  | _ => True

abbrev Lives (env : Env) (h : History (store env)) : Prop :=
  Kept (M := store env) Database.empty (fun t cmd h => ∃ id, Promise env t id cmd h) h

end CairnStone.ToolAuthorization
