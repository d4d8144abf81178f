import CairnStone.CodeSession.Transitions
import CairnStone.Concurrency.Unsettled
import CairnStone.Concurrency.ReadModifyWrite

/-! What each call on a session knows when it issues a statement: the session that it has read, and what
it has appended to a history and not yet followed by its swap.
-/

namespace CairnStone.CodeSession

open JavaScript Data Concurrency Database

/-- The calls that share the revision of a session. -/
inductive SessionCall where
  | checkpoint (args : CheckpointArguments)
  | task (args : TaskArguments)
  | lifecycle (args : LifecycleArguments)

/-- The call, with the digests, the order of names and the clock's texts that it computes. -/
def SessionCall.body (sha256Text : Text → Digest) (localeLe : Text → Text → Bool)
    (toISOString : Nat → Text)
    : SessionCall → Operation SessionAnswer
  | .checkpoint args => createCodeCheckpoint sha256Text localeLe toISOString args
  | .task args => transitionCodeSessionTask sha256Text localeLe args
  | .lifecycle args => transitionCodeSessionLifecycle localeLe args

variable {id : Text} {cmd : Command}

/-- The session, as it is now. -/
def sessionOf (id : Text) (db : Database) : Option SessionRow :=
  findSession db.sessions id

def swapped (id : Text) (base : Nat) (change : SessionChange) (row : SessionRow) : SessionRow :=
  if matchesRevision id base row then { change.apply row with sessionRevision := base + 1 } else row

theorem matchesRevision_iff {base : Nat} {row : SessionRow}
    : matchesRevision id base row = true ↔ row.codeSessionId = id ∧ row.sessionRevision = base := by
  simp [matchesRevision]

@[simp] theorem apply_codeSessionId (change : SessionChange) (row : SessionRow)
    : (change.apply row).codeSessionId = row.codeSessionId := by
  cases change <;> rfl

theorem sessionOf_swapSession (target : Text) (base : Nat) (change : SessionChange) (db : Database)
    : sessionOf id (exec (.swapSession target base change) db).2
      = (sessionOf id db).map (swapped target base change) := by
  have kept (row : SessionRow)
      : ({ change.apply row with sessionRevision := base + 1 } : SessionRow).codeSessionId
        = row.codeSessionId :=
    apply_codeSessionId change row
  exact find_updateWhere kept id

def Command.isSwap : Command → Bool
  | .swapSession _ _ _ => true
  | _ => false

theorem sessions_exec (other : cmd.isSwap = false) (db : Database)
    : (exec cmd db).2.sessions = db.sessions := by
  cases cmd with
  | swapSession id base change => cases other
  | _ => rfl

/-- Every change of a session raises its revision. -/
theorem versioned_sessions (id : Text)
    : Versioned (M := store) SessionRow.sessionRevision (sessionOf id) := by
  intro db cmd old found
  cases swaps : cmd.isSwap with
  | false =>
    refine ⟨old, ?_, .refl old⟩
    change findSession (exec cmd db).2.sessions id = some old
    rw [sessions_exec swaps]
    exact found
  | true =>
    cases cmd with
    | swapSession target base change =>
      refine ⟨swapped target base change old, ?_, ?_⟩
      · change sessionOf id (exec (.swapSession target base change) db).2 = _
        rw [sessionOf_swapSession, found, Option.map_some]
      · unfold swapped
        split
        · rename_i hit
          have same := (matchesRevision_iff.mp hit).2
          exact .inr (by simp only [same]; omega)
        · exact .refl old
    | _ => cases swaps

theorem keyed_exec (cmd : Command) {db : Database}
    (keyed : Keyed SessionRow.codeSessionId db.sessions)
    : Keyed SessionRow.codeSessionId (exec cmd db).2.sessions := by
  cases swaps : cmd.isSwap with
  | false => rwa [sessions_exec swaps]
  | true =>
    cases cmd with
    | swapSession id base change =>
      exact keyed.updateWhere (fun row _ => apply_codeSessionId change row)
    | _ => cases swaps

inductive Appended where
  | event (row : TaskEventRow)
  | checkpoint (row : CheckpointRow)

def Appended.event? : Appended → Option TaskEventRow
  | .event row => some row
  | .checkpoint _ => none

def appendedRow (issued : Issued store) : Option Appended :=
  match issued.command with
  | .insertEvent row =>
    if (insertEvent (Database.events issued.before) row).1 then some (.event row) else none
  | .insertCheckpoint row =>
    if (insertCheckpoint (Database.checkpoints issued.before) row).1 then some (.checkpoint row)
    else none
  | _ => none

def SessionChange.follows : SessionChange → Bool
  | .checkpoint _ _ _ _ _ => true
  | .task _ _ _ => true
  | .lifecycle _ _ _ => false

def followsAppend (issued : Issued store) : Bool :=
  match issued.command with
  | .swapSession _ _ change => change.follows
  | _ => false

def appendWork : Settlement store Appended where
  begun := appendedRow
  settles := followsAppend

theorem appendedRow_of_follows (issued : Issued store) (follows : followsAppend issued = true)
    : appendedRow issued = none := by
  obtain ⟨thread, cmd, before⟩ := issued
  cases cmd with
  | swapSession id base change => rfl
  | _ => cases follows

structure FollowsLedger (session : SessionRow) (event : TaskEventRow) (ledger : List TaskEntry)
    : Prop where
  sameSession : event.codeSessionId = session.codeSessionId
  revision : event.sessionRevision = session.sessionRevision + 1
  source : event.fromState = (findTask session.taskLedger event.taskId).map (·.state)
  legal : isLegalTaskTransition event.fromState event.toState = true
  ledger
    : ∃ entry : TaskEntry, entry.taskId = event.taskId ∧ entry.state = event.toState
        ∧ ledger = putTask session.taskLedger entry

def AppendedFor (session : SessionRow) : SessionChange → Appended → Prop
  | .checkpoint _ _ _ _ _, .checkpoint row => row.codeSessionId = session.codeSessionId
  | .task ledger _ _, .event event => FollowsLedger session event ledger
  | _, _ => False

section

variable (start : Database)

def WasThere (session : SessionRow) (h : History store) : Prop :=
  Seen (M := store) start (fun db => sessionOf session.codeSessionId db = some session) h

structure Swaps (t : Nat) (id : Text) (base : Nat) (change : SessionChange) (session : SessionRow)
    (h : History store)
    : Prop where
  found : WasThere start session h
  target : id = session.codeSessionId
  base : base = session.sessionRevision
  begun
    : if change.follows then
        ∃ row, appendWork.unsettled (h.own t) = [(t, row)] ∧ AppendedFor session change row
      else appendWork.unsettled (h.own t) = []

def SessionPromise (t : Nat) (_ : SessionCall) (cmd : Command) (h : History store) : Prop :=
  match cmd with
  | .insertEvent _ => appendWork.unsettled (h.own t) = []
  | .insertCheckpoint _ => appendWork.unsettled (h.own t) = []
  | .swapSession id base change => ∃ session, Swaps start t id base change session h
  | _ => True

instance sessionEventIsEmpty : IsEmpty store.Event :=
  inferInstanceAs (IsEmpty Empty)

@[reducible] def sessionAgreement : Protocol store SessionCall :=
  @Protocol.pledging store SessionCall start (SessionPromise start) sessionEventIsEmpty

/-- A run of the calls. -/
abbrev SessionLives (h : History store) : Prop :=
  (sessionAgreement start).inv h

end

variable {start : Database} {h h' : History store} {t : Nat} {base : Nat} {change : SessionChange}
  {session row : SessionRow}

theorem SessionLives.keyed (keyed : Keyed SessionRow.codeSessionId start.sessions)
    (lives : SessionLives start h)
    : Keyed SessionRow.codeSessionId (sessions h.state) :=
  lives.invariant (J := fun g => Keyed SessionRow.codeSessionId (sessions g.state))
    keyed (fun _ _ keyed => keyed_exec _ keyed)

theorem WasThere.current (found : WasThere start session h) (lives : SessionLives start h)
    (now : sessionOf session.codeSessionId h.state = some row)
    (same : row.sessionRevision = session.sessionRevision)
    : row = session := by
  obtain ⟨log, le, present⟩ := found
  exact (versioned_sessions session.codeSessionId).unchanged (lives.earlier le) lives le present now same

theorem WasThere.later (found : WasThere start session h) (le : h.log <:+ h'.log)
    : WasThere start session h' :=
  Seen.later found le

theorem wasThere_of_find (lives : SessionLives start h)
    (found : findSession (sessions h.state) id = some session)
    : WasThere start session h ∧ session.codeSessionId = id := by
  obtain ⟨_, named⟩ := mem_of_find found
  subst named
  exact ⟨Seen.now lives found, rfl⟩

def finds (db : Database) : Command → Bool
  | .swapSession id base change => !change.follows || db.sessions.any (matchesRevision id base)
  | _ => true

/-- A swap finds its revision exactly if the session has it. -/
theorem any_matches_iff (keyed : Keyed SessionRow.codeSessionId start.sessions)
    (lives : SessionLives start h)
    : (sessions h.state).any (matchesRevision id base) = true
      ↔ ∃ row, sessionOf id h.state = some row ∧ row.sessionRevision = base := by
  have named (row : SessionRow) (hit : matchesRevision id base row = true)
      : row.codeSessionId = id :=
    (matchesRevision_iff.mp hit).1
  refine ((lives.keyed keyed).any_iff named).trans
    (exists_congr (fun row => and_congr_right (fun found => ?_)))
  have here : row.codeSessionId = id := (mem_of_find found).2
  simp [matchesRevision_iff, here]

/-- A swap that finds its revision finds the session that its thread has read. -/
theorem Swaps.current (swaps : Swaps start t id base change session h)
    (keyed : Keyed SessionRow.codeSessionId start.sessions) (lives : SessionLives start h)
    (hit : (sessions h.state).any (matchesRevision id base) = true)
    : sessionOf id h.state = some session := by
  obtain ⟨row, now, same⟩ := (any_matches_iff keyed lives).mp hit
  rw [swaps.target] at now ⊢
  rw [swaps.found.current lives now (same.trans swaps.base)] at now
  exact now

end CairnStone.CodeSession
