import CairnStone.Concurrency.Admission
import CairnStone.TaskRuns.Programs

/-! What each operation knows when it issues a statement: which row it has read, and what it has done
itself so far.
-/

namespace CairnStone.TaskRuns

open JavaScript Data Concurrency List Command

variable {adapters : Adapters} {h h' : History (store adapters)} {t u : Nat} {id : Text}
  {cmd : Command} {call : Call}
  {db : Database}

abbrev Trace (adapters : Adapters) := List (Issued (store adapters))

instance eventIsEmpty : IsEmpty (store adapters).Event :=
  inferInstanceAs (IsEmpty Empty)

def Command.rewrite (cmd : Command) (row : Row) : Row :=
  match cmd with
  | .setChildren id childTaskRunIds updatedAt =>
    if row.taskRunId == id then { row with childTaskRunIds, updatedAt } else row
  | .recordDispatch id update =>
    if update.accepted && row.taskRunId == id then update.apply row else row
  | .recordCancel id reason now => if row.taskRunId == id then row.cancel reason now else row
  | _ => row

def Command.added (cmd : Command) (db : Database) : List Row :=
  match cmd with
  | .insertRun row =>
    match find db.taskRuns row.taskRunId with
    | none => [row]
    | some _ => []
  | _ => []

/-- A step rewrites every row and may add one. Witness: case analysis on the command. -/
theorem taskRuns_exec (cmd : Command) (db : Database)
    : (exec adapters cmd db).2.taskRuns = db.taskRuns.map cmd.rewrite ++ cmd.added db := by
  have stays : db.taskRuns.map (fun row => row) = db.taskRuns := map_id' db.taskRuns
  cases cmd with
  | insertRun row =>
    have kept : db.taskRuns.map (Command.insertRun row).rewrite = db.taskRuns := stays
    rw [kept]
    cases known : find db.taskRuns row.taskRunId with
    | none => simp [exec, insertRun, added, known]
    | some other => simp [exec, insertRun, added, known]
  | recordDispatch id update =>
    cases accepted : update.accepted with
    | true =>
      have rewrites (row : Row)
          : (Command.recordDispatch id update).rewrite row
            = if row.taskRunId == id then update.apply row else row := by
        simp [rewrite, accepted]
      simp only [exec, recordDispatch, accepted, if_true, added, append_nil]
      exact (map_congr_left (fun row _ => rewrites row)).symm
    | false =>
      have rewrites (row : Row) : (Command.recordDispatch id update).rewrite row = row := by
        simp [rewrite, accepted]
      have kept : db.taskRuns.map (Command.recordDispatch id update).rewrite = db.taskRuns :=
        (map_congr_left (fun row _ => rewrites row)).trans stays
      rw [kept]
      simp [exec, recordDispatch, accepted, added]
  | setChildren id childTaskRunIds updatedAt => exact (append_nil _).symm
  | recordCancel id reason now => exact (append_nil _).symm
  | persistRouteReceipt receipt taskRunId now => exact ((append_nil _).trans stays).symm
  | invokeAdapter request => exact ((append_nil _).trans stays).symm

theorem mem_taskRuns_exec {row : Row} (mem : row ∈ (exec adapters cmd db).2.taskRuns)
    : (∃ old ∈ db.taskRuns, row = cmd.rewrite old)
      ∨ cmd = .insertRun row ∧ ∀ old ∈ db.taskRuns, old.taskRunId ≠ row.taskRunId := by
  rw [taskRuns_exec] at mem
  rcases mem_append.mp mem with kept | new
  · obtain ⟨old, here, rfl⟩ := mem_map.mp kept
    exact .inl ⟨old, here, rfl⟩
  · cases cmd with
    | insertRun put =>
      simp only [added] at new
      split at new
      · rename_i free
        cases mem_singleton.mp new
        exact .inr ⟨rfl, find_eq_none.mp free⟩
      · cases new
    | _ => cases new

theorem rewrite_mem (cmd : Command) {row : Row} (mem : row ∈ db.taskRuns)
    : cmd.rewrite row ∈ (exec adapters cmd db).2.taskRuns := by
  rw [taskRuns_exec]
  exact mem_append_left _ (mem_map_of_mem mem)

structure SameRun (old new : Row) : Prop where
  taskRunId : new.taskRunId = old.taskRunId
  parentTaskRunId : new.parentTaskRunId = old.parentTaskRunId
  attachmentRefs : new.attachmentRefs = old.attachmentRefs
  objectRefs : new.objectRefs = old.objectRefs
  delegationDepth : new.delegationDepth = old.delegationDepth
  note : new.note = old.note

theorem SameRun.refl (row : Row) : SameRun row row :=
  ⟨rfl, rfl, rfl, rfl, rfl, rfl⟩

theorem SameRun.trans {first second third : Row} (one : SameRun first second)
    (other : SameRun second third)
    : SameRun first third where
  taskRunId := other.taskRunId.trans one.taskRunId
  parentTaskRunId := other.parentTaskRunId.trans one.parentTaskRunId
  attachmentRefs := other.attachmentRefs.trans one.attachmentRefs
  objectRefs := other.objectRefs.trans one.objectRefs
  delegationDepth := other.delegationDepth.trans one.delegationDepth
  note := other.note.trans one.note

theorem Command.sameRun (cmd : Command) (row : Row) : SameRun row (cmd.rewrite row) := by
  cases cmd with
  | setChildren id childTaskRunIds updatedAt =>
    simp only [Command.rewrite]
    split
    · exact ⟨rfl, rfl, rfl, rfl, rfl, rfl⟩
    · exact .refl row
  | recordDispatch id update =>
    simp only [Command.rewrite]
    split
    · exact ⟨rfl, rfl, rfl, rfl, rfl, rfl⟩
    · exact .refl row
  | recordCancel id reason now =>
    simp only [Command.rewrite]
    split
    · exact ⟨rfl, rfl, rfl, rfl, rfl, rfl⟩
    · exact .refl row
  | _ => exact .refl row

/-- Ids stay unique: an insertion fails where the id is taken. -/
theorem keyed_exec (cmd : Command) (keyed : Keyed Row.taskRunId db.taskRuns)
    : Keyed Row.taskRunId (exec adapters cmd db).2.taskRuns := by
  have same : (db.taskRuns.map cmd.rewrite).map Row.taskRunId
      = db.taskRuns.map Row.taskRunId := by
    rw [map_map]
    exact map_congr_left (fun row _ => (cmd.sameRun row).taskRunId)
  have redone : Keyed Row.taskRunId (db.taskRuns.map cmd.rewrite) := by
    unfold Keyed
    rwa [same]
  rw [taskRuns_exec]
  cases cmd with
  | insertRun put =>
    simp only [added]
    split
    · rename_i free
      refine redone.append_singleton (fun old mem => ?_)
      obtain ⟨prior, here, rfl⟩ := mem_map.mp mem
      exact find_eq_none.mp free prior here
    · rwa [append_nil]
  | _ => exact (append_nil (db.taskRuns.map _)).symm ▸ redone

def At (db : Database) (id : Text) (p : Row → Prop) : Prop :=
  ∃ row ∈ db.taskRuns, row.taskRunId = id ∧ p row

/-- What a row satisfies carries over to what the step makes of it. -/
theorem At.exec {p q : Row → Prop} (at1 : At db id p)
    (step : ∀ row ∈ db.taskRuns, row.taskRunId = id → p row → q (cmd.rewrite row))
    : At (TaskRuns.exec adapters cmd db).2 id q := by
  obtain ⟨row, mem, same, holds⟩ := at1
  exact ⟨cmd.rewrite row, rewrite_mem cmd mem,
    (cmd.sameRun row).taskRunId.trans same, step row mem same holds⟩

def Inserts (row : Row) (issued : Issued (store adapters)) : Prop :=
  issued.command = .insertRun row
    ∧ ∀ old ∈ Database.taskRuns issued.before, old.taskRunId ≠ row.taskRunId

def Appends (issued : Issued (store adapters)) : Prop :=
  ∃ id childTaskRunIds updatedAt, issued.command = .setChildren id childTaskRunIds updatedAt

def Succeeds (id : Text) (request : AdapterRequest) (result : AdapterResult)
    (issued : Issued (store adapters))
    : Prop :=
  issued.command = .invokeAdapter request ∧ request.taskRun.taskRunId = id
    ∧ invokeExecutorAdapter (adapters (Database.steps issued.before) request) request = .ok result

def Records (id : Text) (update : DispatchUpdate) (issued : Issued (store adapters)) : Prop :=
  issued.command = .recordDispatch id update

def WasThere (row : Row) (h : History (store adapters)) : Prop :=
  Seen (M := store adapters) Database.empty (fun db => row ∈ Database.taskRuns db) h

inductive Placed (proposal : Proposal) (h : History (store adapters)) : Nat → Prop where
  | root (free : proposal.parentId = none) : Placed proposal h 0
  | child (parent : Row) (found : WasThere parent h)
      (named : proposal.parentId = some parent.taskRunId)
      (checked : checkCeilings proposal (rowToTaskRun parent) = some (.ok ()))
      : Placed proposal h (parent.delegationDepth + 1)

structure Routed (args : DispatchArguments) (target : DispatchTarget) (row : Row)
    (receipt : Value) (h : History (store adapters))
    : Prop where
  read : readDispatch args = .ok target
  found : WasThere row h
  named : row.taskRunId = target.id
  checked : checkDispatch args target (rowToTaskRun row) = .ok receipt

/-- Behind its own insertion of a row under the parent, and before it has written any child list, the
call has read the parent.
-/
def ReadParent (t : Nat) (row parent : Row) (h : History (store adapters)) : Prop :=
  ∃ inserted earlier log,
    inserted :: earlier <:+ log ∧ log <:+ h.log ∧ inserted.thread = t ∧ Inserts row inserted
    ∧ row.parentTaskRunId = some parent.taskRunId
    ∧ parent ∈ Database.taskRuns (stateAfter (M := store adapters) Database.empty log)

def Promise (adapters : Adapters) (t : Nat) (call : Call) (cmd : Command)
    (h : History (store adapters))
    : Prop :=
  match cmd with
  | .insertRun row =>
    (∃ args proposal depth, call = .propose args ∧ readProposal args = .ok proposal
      ∧ row = proposal.row depth ∧ Placed proposal h depth)
    ∧ ∀ issued ∈ h.own t, ∀ row, ¬ Inserts row issued
  | .setChildren id childTaskRunIds _ =>
    (∃ row parent, ReadParent t row parent h ∧ parent.taskRunId = id
      ∧ childTaskRunIds = parent.childTaskRunIds ++ [row.taskRunId])
    ∧ ∀ issued ∈ h.own t, ¬ Appends issued
  | .invokeAdapter request =>
    (∃ args target row receipt, call = .dispatch args
      ∧ Routed args target row receipt h ∧ request = args.request (rowToTaskRun row) receipt)
    ∧ ∀ issued ∈ h.own t,
      (∀ id request result, ¬ Succeeds id request result issued)
      ∧ ∀ id update, ¬ Records id update issued
  | .recordDispatch id update =>
    (∃ args target row receipt result, call = .dispatch args
      ∧ Routed args target row receipt h ∧ target.id = id
      ∧ update = args.update (rowToTaskRun row) target.committer receipt result
      ∧ ∃ issued ∈ h.own t,
        Succeeds id (args.request (rowToTaskRun row) receipt) result issued)
    ∧ ∀ issued ∈ h.own t, ∀ id update, ¬ Records id update issued
  | _ => True

abbrev agreement (adapters : Adapters) : Protocol (store adapters) Call :=
  .pledging Database.empty (Promise adapters)

/-- A run in which every step kept a promise. -/
abbrev Lives (h : History (store adapters)) : Prop :=
  (agreement adapters).inv h

end CairnStone.TaskRuns
