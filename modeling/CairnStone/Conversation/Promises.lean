import CairnStone.Concurrency.Admission
import CairnStone.Concurrency.Unsettled
import CairnStone.Concurrency.ReadModifyWrite
import CairnStone.Conversation.Store

/-! What each call knows when it issues a statement: the session that it has read, and the turn that
it has inserted and not yet written into a log.
-/

namespace CairnStone.Conversation

open JavaScript Data Concurrency Database

variable {connections : List ConnectionRow} {h h' : History store} {t u : Nat} {id : Text}
  {cmd : Command}
  {base : Nat} {session : SessionRow}

abbrev Trace := List (Issued store)

instance eventIsEmpty : IsEmpty store.Event :=
  inferInstanceAs (IsEmpty Empty)

/-- Nothing has been called yet. -/
def Database.initial (connections : List ConnectionRow) : Database where
  sessions := []
  turns := []
  policies := []
  connections
  steps := 0

/-- The operations, with their args. -/
inductive Call where
  | create (args : CreateArguments)
  | update (args : UpdateArguments)
  | append (args : AppendArguments) (baseRevision : Value)
  | sync (request : SyncRequest)
  | setPolicy (args : PolicyArguments) (context : Option AuthContext)

def body (localeLe : Text → Text → Bool) : Call → Operation Answer
  | .create args => createConversationSession localeLe args
  | .update args => updateConversationSession localeLe args
  | .append args baseRevision => do
    let result ← appendConversationTurn args (revisionOf baseRevision)
    return appendAnswer result
  | .sync request => turnSyncAppendFromBody request
  | .setPolicy args context => turnSyncPolicySetFromBody args context

/-- The session of a conversation, as it is now. -/
def sessionOf (id : Text) (db : Database) : Option SessionRow :=
  findSession db.sessions id

def swapped (id : Text) (base : Nat) (change : SessionChange) (row : SessionRow) : SessionRow :=
  if matchesRevision id base row then { change.apply row with sessionRevision := base + 1 } else row

theorem matchesRevision_iff {row : SessionRow}
    : matchesRevision id base row = true ↔ row.conversationId = id ∧ row.sessionRevision = base := by
  simp [matchesRevision]

@[simp] theorem apply_conversationId (change : SessionChange) (row : SessionRow)
    : (change.apply row).conversationId = row.conversationId := by
  cases change <;> rfl

theorem sessionOf_swapSession (target : Text) (base : Nat) (change : SessionChange) (db : Database)
    : sessionOf id (exec (.swapSession target base change) db).2
      = (sessionOf id db).map (swapped target base change) := by
  have kept (row : SessionRow)
      : ({ change.apply row with sessionRevision := base + 1 } : SessionRow).conversationId
        = row.conversationId :=
    apply_conversationId change row
  exact find_updateWhere kept id

theorem sessionOf_insertSession (row : SessionRow) (db : Database)
    : sessionOf id (exec (.insertSession row) db).2
      = (sessionOf id db).or (if row.conversationId = id then some row else none) := by
  change findSession (insertSession db.sessions row).2 id = _
  unfold sessionOf insertSession
  split
  · simp only [findSession, List.find?_append]
    congr 1
    by_cases same : row.conversationId = id
    · simp [same]
    · simp [same]
  · rename_i other found
    by_cases same : row.conversationId = id
    · subst same
      simp [found]
    · simp [same]

/-- Every change of a session raises its revision. -/
theorem versioned_sessions (id : Text)
    : Versioned (M := store) SessionRow.sessionRevision (sessionOf id) := by
  intro db cmd old found
  cases cmd with
  | insertSession row =>
    refine ⟨old, ?_, .refl old⟩
    change sessionOf id (exec (.insertSession row) db).2 = some old
    rw [sessionOf_insertSession, found, Option.some_or]
  | swapSession target base change =>
    refine ⟨swapped target base change old, ?_, ?_⟩
    · change sessionOf id (exec (.swapSession target base change) db).2 = _
      rw [sessionOf_swapSession, found, Option.map_some]
    · unfold swapped
      split
      · rename_i hit
        have same := (matchesRevision_iff.mp hit).2
        exact .inr (by simp only [same]; omega)
      · exact .refl old
  | insertTurn row => exact ⟨old, found, .refl old⟩
  | insertPolicy row => exact ⟨old, found, .refl old⟩
  | swapPolicy target revision update => exact ⟨old, found, .refl old⟩

/-- Ids of sessions stay unique: an insertion fails where the id is taken. -/
theorem keyed_exec (cmd : Command) {db : Database}
    (keyed : Keyed SessionRow.conversationId db.sessions)
    : Keyed SessionRow.conversationId (exec cmd db).2.sessions := by
  cases cmd with
  | insertSession row =>
    change Keyed SessionRow.conversationId (insertSession db.sessions row).2
    unfold insertSession
    split
    · rename_i free
      exact keyed.append_singleton (find_eq_none.mp free)
    · exact keyed
  | swapSession target base change =>
    exact keyed.updateWhere (fun row _ => apply_conversationId change row)
  | _ => exact keyed

def insertedTurn (issued : Issued store) : Option TurnRow :=
  match issued.command with
  | .insertTurn row =>
    if (insertTurn (Database.sessions issued.before) (Database.turns issued.before) row).1 then
      some row
    else none
  | _ => none

/-- Whether a step writes a log. -/
def Command.writesLog : Command → Bool
  | .swapSession _ _ (.log _) => true
  | _ => false

def turnWork : Settlement store TurnRow where
  begun := insertedTurn
  settles issued := Command.writesLog issued.command

def WasThere (connections : List ConnectionRow) (session : SessionRow) (h : History store) : Prop :=
  Seen (M := store) (Database.initial connections)
    (fun db => sessionOf session.conversationId db = some session) h

/-- The turn is the next one of the session, by one of its members. -/
structure Fits (session : SessionRow) (turn : TurnRow) : Prop where
  conversation : turn.conversationId = session.conversationId
  seq : turn.seq = session.messageLog.length + 1
  room : turn.seq ≤ MAX_MESSAGE_LOG
  member : actorMayAccessSession session turn.actorId = true

structure Writes (connections : List ConnectionRow) (t : Nat) (id : Text) (base : Nat)
    (update : LogUpdate) (session : SessionRow) (turn : TurnRow) (h : History store)
    : Prop where
  begun : turnWork.unsettled (h.own t) = [(t, turn)]
  found : WasThere connections session h
  fits : Fits session turn
  target : id = turn.conversationId
  base : base = session.sessionRevision
  update : update = logUpdate session turn

def Call.turnId : Call → Option Text
  | .append args _ => (Conversation.turnId args.turnId).toOption
  | .sync request => (Conversation.turnId request.append.turnId).toOption
  | _ => none

def Promise (connections : List ConnectionRow) (t : Nat) (call : Call) (cmd : Command)
    (h : History store)
    : Prop :=
  match cmd with
  | .insertSession row => row.messageLog = [] ∧ row.sessionRevision = 1
  | .insertTurn row => turnWork.unsettled (h.own t) = [] ∧ call.turnId = some row.turnId
  | .swapSession id base (.log update) =>
    ∃ session turn, Writes connections t id base update session turn h
  | _ => True

@[reducible] def agreement (connections : List ConnectionRow) : Protocol store Call :=
  .pledging (M := store) (Database.initial connections) (Promise connections)

/-- A run of the operations. -/
abbrev Lives (connections : List ConnectionRow) (h : History store) : Prop :=
  (agreement connections).inv h

theorem Lives.keyed (lives : Lives connections h)
    : Keyed SessionRow.conversationId (sessions h.state) :=
  lives.invariant (J := fun g => Keyed SessionRow.conversationId (sessions g.state))
    .nil (fun _ _ keyed => keyed_exec _ keyed)

theorem WasThere.current {row : SessionRow} (found : WasThere connections session h)
    (lives : Lives connections h) (now : sessionOf session.conversationId h.state = some row)
    (same : row.sessionRevision = session.sessionRevision)
    : row = session := by
  obtain ⟨log, le, present⟩ := found
  exact (versioned_sessions session.conversationId).unchanged (lives.earlier le) lives le present now
    same

theorem WasThere.later (found : WasThere connections session h) (le : h.log <:+ h'.log)
    : WasThere connections session h' :=
  Seen.later found le

theorem wasThere_of_find (lives : Lives connections h)
    (found : findSession (sessions h.state) id = some session)
    : WasThere connections session h ∧ session.conversationId = id := by
  obtain ⟨_, named⟩ := mem_of_find found
  subst named
  exact ⟨Seen.now lives found, rfl⟩

def finds (db : Database) : Command → Bool
  | .swapSession id base (.log _) => db.sessions.any (matchesRevision id base)
  | _ => true

/-- A swap finds its revision exactly if the session has it. -/
theorem any_matches_iff (lives : Lives connections h)
    : (sessions h.state).any (matchesRevision id base) = true
      ↔ ∃ row, sessionOf id h.state = some row ∧ row.sessionRevision = base := by
  have named (row : SessionRow) (hit : matchesRevision id base row = true)
      : row.conversationId = id :=
    (matchesRevision_iff.mp hit).1
  refine (lives.keyed.any_iff named).trans (exists_congr (fun row => and_congr_right (fun found => ?_)))
  have here : row.conversationId = id := (mem_of_find found).2
  simp [matchesRevision_iff, here]

theorem Writes.current {update : LogUpdate} {turn : TurnRow}
    (writes : Writes connections t id base update session turn h) (lives : Lives connections h)
    (finds : finds h.state (.swapSession id base (.log update)) = true)
    : sessionOf id h.state = some session := by
  obtain ⟨row, now, same⟩ := (any_matches_iff lives).mp finds
  have target : id = session.conversationId := writes.target.trans writes.fits.conversation
  rw [target] at now ⊢
  rw [writes.found.current lives now (same.trans writes.base)] at now
  exact now

end CairnStone.Conversation
