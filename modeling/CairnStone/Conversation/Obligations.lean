import CairnStone.Conversation.Promises

/-! Every call keeps its promises, and a call that has answered has left no turn unsettled: the turn
that it has inserted has been offered to the log of its session, and an answer that is ok comes after
one swap that has found its revision.
-/

namespace CairnStone.Conversation

open JavaScript Data Concurrency Protocol List Database Meets History Settlement
open TaskRuns (Refusal refuse ok_of_refuseThrown)

variable {connections : List ConnectionRow} {h h' : History store} {t : Nat} {call : Call}
  {id : Text} {α β : Type}
  {trace low : Trace} {committed : Option Text} {failed : Prop} {turn : TurnRow}
  {session : SessionRow} {args : AppendArguments} {base : Option Nat} {target : AppendTarget}

/-- Serving `call` as thread `t`, the program keeps its promises from `h` on. -/
abbrev Obliged (connections : List ConnectionRow) (t : Nat) (call : Call) (p : Operation α)
    (Q : Except Text α → History store → Prop) (h : History store)
    : Prop :=
  (agreement connections).Meets t call p Q h

def commits (id : Text) (issued : Issued store) : Bool :=
  match issued.command with
  | .swapSession target base _ =>
    target == id && (Database.sessions issued.before).any (matchesRevision target base)
  | _ => false

structure Idle (issued : Issued store) : Prop where
  sessions
    : (exec issued.command issued.before).2.sessions = Database.sessions issued.before
  turns : (exec issued.command issued.before).2.turns = Database.turns issued.before

/-- The step is a swap of a log that has not found its revision. -/
def Missed (issued : Issued store) : Prop :=
  finds issued.before issued.command = false

/-- What the trace of a call comes to: nothing is unsettled, one session has been changed or none,
and a call that has failed has changed nothing, unless it has missed a revision.
-/
structure Spent (trace : Trace) (committed : Option Text) (failed : Prop) : Prop where
  settled : turnWork.unsettled trace = []
  count : ∀ id, trace.countP (commits id) = if committed = some id then 1 else 0
  idle : failed → ∀ issued ∈ trace, Idle issued ∨ ∃ other ∈ trace, Missed other

theorem Spent.nil (failed : Prop) : Spent [] none failed where
  settled := rfl
  count := fun _ => rfl
  idle := fun _ _ mem => absurd mem not_mem_nil

theorem Spent.mono {failed' : Prop} (spent : Spent trace committed failed)
    (weaken : failed' → failed)
    : Spent trace committed failed' where
  settled := spent.settled
  count := spent.count
  idle := fun holds => spent.idle (weaken holds)

/-- One step that neither begins nor commits anything. -/
theorem Spent.cons {issued : Issued store} (spent : Spent trace committed failed)
    (logs : Command.writesLog issued.command = false) (begun : insertedTurn issued = none)
    (uncommitted : ∀ id, commits id issued = false) (idle : failed → Idle issued)
    : Spent (issued :: trace) committed failed where
  settled := by
    rw [unsettled_cons, after_of_neither logs begun, spent.settled]
  count id := by
    rw [countP_cons, uncommitted id, spent.count id]
    rfl
  idle holds other mem := by
    rcases mem_cons.mp mem with rfl | old
    · exact .inl (idle holds)
    · rcases spent.idle holds other old with same | ⟨missed, within, was⟩
      · exact .inl same
      · exact .inr ⟨missed, .tail _ within, was⟩

/-- A statement about policies, or one that has not changed a row. -/
theorem Spent.cons_idle {issued : Issued store} (spent : Spent trace committed failed)
    (logs : Command.writesLog issued.command = false) (begun : insertedTurn issued = none)
    (uncommitted : ∀ id, commits id issued = false) (idle : Idle issued)
    : Spent (issued :: trace) committed failed :=
  spent.cons logs begun uncommitted (fun _ => idle)

structure CommitsTurn (session : SessionRow) (turn : TurnRow) (issued : Issued store) : Prop where
  command
    : issued.command
      = .swapSession session.conversationId session.sessionRevision (.log (logUpdate session turn))
  found : sessionOf session.conversationId issued.before = some session
  fits : Fits session turn

/-- Since the log was `low`, the thread has inserted the turn and written it into a session's log. -/
def Wrote (low : Trace) (t : Nat) (turn : TurnRow) (h : History store) : Prop :=
  (∃ issued ∈ h.own t, insertedTurn issued = some turn)
    ∧ ∃ issued earlier session, issued :: earlier <:+ h.log ∧ low <:+ earlier ∧ issued.thread = t
      ∧ CommitsTurn session turn issued

/-- What an append of such a turn has done since the log was `low`. -/
def AppendOutcome (asked : TurnRow → Prop) (low : Trace) (t : Nat)
    (answer : Except Text (Except Refusal Appended)) (h : History store)
    : Prop :=
  match answer with
  | .ok (.ok appended) =>
    Spent (h.own t) (some appended.turn.conversationId) False ∧ Wrote low t appended.turn h
      ∧ asked appended.turn
  | .ok (.error _) => Spent (h.own t) none True
  | .error _ => False

theorem Wrote.later (wrote : Wrote low t turn h) (le : h.log <:+ h'.log)
    : Wrote low t turn h' := by
  obtain ⟨⟨put, own, begun⟩, issued, earlier, session, within, rest⟩ := wrote
  exact ⟨⟨put, (own_suffix le t).subset own, begun⟩, issued, earlier, session,
    within.trans le, rest⟩

/-- What has been done since an instant has been done since an earlier one. -/
theorem AppendOutcome.earlier {asked asked' : TurnRow → Prop} {low' : Trace}
    {answer : Except Text (Except Refusal Appended)}
    (res : AppendOutcome asked low t answer h) (le : low' <:+ low)
    (weaken : ∀ turn, asked turn → asked' turn)
    : AppendOutcome asked' low' t answer h := by
  cases answer with
  | error message => exact res
  | ok result =>
    cases result with
    | ok appended =>
      obtain ⟨spent, wrote, asked⟩ := res
      obtain ⟨put, issued, earlier, session, within, after, rest⟩ := wrote
      exact ⟨spent, ⟨put, issued, earlier, session, within, le.trans after, rest⟩,
        weaken _ asked⟩
    | error why => exact res

theorem appendOutcome_refused {asked : TurnRow → Prop} {why : Refusal}
    (spent : Spent (h.own t) none True)
    : Obliged connections t call (.done (.error why)) (AppendOutcome asked low t) h := by
  refine done (fun h' moved => ?_)
  change Spent (h'.own t) none True
  rw [moved.own]
  exact spent

/-- The insertion of a turn that is taken changes nothing. -/
theorem idle_of_taken
    (taken : (insertTurn (sessions h.state) (turns h.state) turn).1 = false)
    : Idle (⟨t, .insertTurn turn, h.state⟩ : Issued store) := by
  refine ⟨rfl, ?_⟩
  change (insertTurn (sessions h.state) (turns h.state) turn).2 = _
  unfold insertTurn at taken ⊢
  split
  · rfl
  · rename_i free
    rw [if_neg free] at taken
    cases taken

theorem settled_of_swap {base : Nat} {update : LogUpdate}
    (begun : turnWork.unsettled trace = [(t, turn)]) (db : Database)
    : turnWork.unsettled (⟨t, .swapSession id base (.log update), db⟩ :: trace) = [] := by
  rw [unsettled_cons, after_of_settles rfl, begun]
  simp

/-- A turn that has been inserted is offered to the log of the session that was read. Witness: the
swap settles the turn, and finds its revision exactly if the session is still the one that was read.
-/
theorem owes_commitTurn (there : WasThere connections session h) (fits : Fits session turn)
    (spent : Spent (h.own t) none True) (asked : call.turnId = some turn.turnId)
    : Obliged connections t call (commitTurn session turn) (AppendOutcome (· = turn) h.log t) h := by
  refine perform_bind (fun h1 moved => ?_)
  have spent1 : Spent (h1.own t) none True := moved.own.symm ▸ spent
  have promise : Promise connections t call (.insertTurn turn) h1 := ⟨spent1.settled, asked⟩
  refine ⟨promise, ?_⟩
  have lives2 : Lives connections (h1.exec t (.insertTurn turn)) := moved.inv.exec ⟨call, promise⟩
  have own2 := own_exec_self h1 t (.insertTurn turn)
  split
  · rename_i put
    have begun : insertedTurn (⟨t, .insertTurn turn, h1.state⟩ : Issued store) = some turn := by
      unfold insertedTurn
      exact if_pos put
    have work : turnWork.unsettled ((h1.exec t (.insertTurn turn)).own t) = [(t, turn)] := by
      rw [own2, unsettled_cons, after_of_begun rfl begun, spent1.settled]
    refine perform_bind (fun h3 moved3 => ?_)
    have le3 : h.log <:+ h3.log := (moved.le.trans (suffix_cons _ _)).trans moved3.le
    have writes : Writes connections t turn.conversationId session.sessionRevision
        (logUpdate session turn) session turn h3 :=
      ⟨moved3.own.symm ▸ work, there.later le3, fits, rfl, rfl, rfl⟩
    refine ⟨⟨session, turn, writes⟩, ?_⟩
    let swap : Issued store :=
      ⟨t, .swapSession turn.conversationId session.sessionRevision (.log (logUpdate session turn)),
        h3.state⟩
    let insertion : Issued store := ⟨t, .insertTurn turn, h1.state⟩
    have own3 : h3.own t = insertion :: h1.own t := moved3.own.trans own2
    have settled : turnWork.unsettled (swap :: insertion :: h1.own t) = [] :=
      settled_of_swap (own3 ▸ moved3.own.symm ▸ work) h3.state
    refine select_bind (fun h4 moved4 => ?_)
    have own4 : h4.own t = swap :: insertion :: h1.own t := by
      rw [moved4.own, own_exec_self, own3]
    have le4 : swap :: h3.log <:+ h4.log := moved4.le
    have count (id : Text)
        : (swap :: insertion :: h1.own t).countP (commits id)
          = if (turn.conversationId == id && finds h3.state swap.command) = true then 1 else 0 := by
      have kept : commits id insertion = false := rfl
      rw [countP_cons, countP_cons, kept, spent1.count id]
      exact Nat.zero_add _
    split
    · rename_i found
      refine done (fun h5 moved5 => ⟨?_, ?_, rfl⟩)
      · rw [moved5.own, own4]
        refine ⟨settled, fun id => ?_, fun never => never.elim⟩
        rw [count id]
        have holds : finds h3.state swap.command = true := found
        simp [holds]
      · have le5 := le4.trans moved5.le
        refine ⟨⟨insertion, ?_, begun⟩, swap, h3.log, session, le5, le3, rfl, ?_⟩
        · rw [moved5.own, own4]
          exact .tail _ (.head _)
        · refine ⟨?_, ?_, fits⟩
          · rw [← fits.conversation]
          · have now := writes.current moved3.inv found
            rw [← fits.conversation]
            exact now
    · rename_i missed
      refine appendOutcome_refused ?_
      rw [own4]
      have lost : finds h3.state swap.command = false := eq_false_of_ne_true missed
      refine ⟨settled, fun id => ?_, fun _ _ _ => .inr ⟨swap, .head _, lost⟩⟩
      rw [count id]
      simp [lost]
  · rename_i taken
    have failed : (insertTurn (sessions h1.state) (turns h1.state) turn).1 = false :=
      eq_false_of_ne_true taken
    refine appendOutcome_refused ?_
    rw [own2]
    refine spent1.cons_idle rfl ?_ (fun _ => rfl) (idle_of_taken failed)
    unfold insertedTurn
    exact if_neg taken

structure ReadsAppend (args : AppendArguments) (base : Option Nat) (target : AppendTarget)
    : Prop where
  sessionId : conversationId args.conversationId = .ok target.sessionId
  actor : TaskRuns.actorId args.actorId "actor_id" = .ok target.actor
  turnId : turnId args.turnId = .ok target.turnId
  messageId : messageId args.messageId = .ok target.messageId
  base : base = some target.base
  role : readRole args.role = .ok target.role

theorem readsAppend (read : readAppend args base = .ok target)
    : ReadsAppend args base target := by
  unfold readAppend at read
  obtain ⟨sessionId, first, read⟩ := bind_eq_ok.mp read
  obtain ⟨actor, second, read⟩ := bind_eq_ok.mp read
  obtain ⟨turn, third, read⟩ := bind_eq_ok.mp read
  obtain ⟨message, fourth, read⟩ := bind_eq_ok.mp read
  obtain ⟨revision, fifth, read⟩ := bind_eq_ok.mp read
  obtain ⟨role, sixth, read⟩ := bind_eq_ok.mp read
  obtain ⟨mode, -, read⟩ := bind_eq_ok.mp read
  cases read
  refine ⟨ok_of_refuseThrown first, ok_of_refuseThrown second, ok_of_refuseThrown third,
    ok_of_refuseThrown fourth, ?_, sixth⟩
  cases base with
  | none => cases fifth
  | some given =>
    cases fifth
    rfl

structure ChecksAppend (target : AppendTarget) (session : SessionRow) (turn : TurnRow) : Prop where
  identity : turn.identity = ⟨target.sessionId, target.turnId, target.messageId, target.actor, target.role⟩
  seq : turn.seq = session.messageLog.length + 1
  room : turn.seq ≤ MAX_MESSAGE_LOG
  member : actorMayAccessSession session turn.actorId = true
  base : session.sessionRevision = target.base

theorem checksAppend (fine : checkAppend args target session = .ok turn)
    : ChecksAppend target session turn := by
  unfold checkAppend at fine
  obtain ⟨_, mem, fine⟩ := bind_eq_ok.mp fine
  obtain ⟨_, -, fine⟩ := bind_eq_ok.mp fine
  obtain ⟨_, based, fine⟩ := bind_eq_ok.mp fine
  iterate 7 obtain ⟨_, -, fine⟩ := bind_eq_ok.mp fine
  obtain ⟨_, room, fine⟩ := bind_eq_ok.mp fine
  cases fine
  unfold requireMember at mem
  unfold requireBase at based
  unfold requireRoom at room
  split at mem
  · rename_i mayAccess
    split at based
    · rename_i same
      split at room
      · cases room
      · rename_i fits
        exact ⟨rfl, rfl, Nat.le_of_not_lt fits, mayAccess, same⟩
    · cases based
  · cases mem

theorem ChecksAppend.fits (checks : ChecksAppend target session turn)
    (named : session.conversationId = target.sessionId)
    : Fits session turn :=
  ⟨(congrArg Identity.conversationId checks.identity).trans named.symm, checks.seq, checks.room,
    checks.member⟩

structure Asked (args : AppendArguments) (turn : TurnRow) : Prop where
  conversationId : conversationId args.conversationId = .ok turn.conversationId
  turnId : turnId args.turnId = .ok turn.turnId
  messageId : messageId args.messageId = .ok turn.messageId

theorem ChecksAppend.asked (checks : ChecksAppend target session turn)
    (reads : ReadsAppend args base target)
    : Asked args turn where
  conversationId := reads.sessionId.trans (congrArg (Except.ok ∘ Identity.conversationId) checks.identity).symm
  turnId := reads.turnId.trans (congrArg (Except.ok ∘ Identity.turnId) checks.identity).symm
  messageId := reads.messageId.trans (congrArg (Except.ok ∘ Identity.messageId) checks.identity).symm

theorem owes_append (spent : Spent (h.own t) none True)
    (asked : call.turnId = (turnId args.turnId).toOption)
    : Obliged connections t call (appendConversationTurn args base)
        (AppendOutcome (Asked args) h.log t) h := by
  unfold appendConversationTurn
  split
  · exact appendOutcome_refused spent
  · rename_i target read
    refine select_bind (fun h1 moved => ?_)
    have spent1 : Spent (h1.own t) none True := moved.own.symm ▸ spent
    split
    · exact appendOutcome_refused spent1
    · rename_i session found
      obtain ⟨there, named⟩ := wasThere_of_find moved.inv found
      split
      · exact appendOutcome_refused spent1
      · rename_i turn fine
        have checks := checksAppend fine
        have turnAsked := checks.asked (readsAppend read)
        have named' : call.turnId = some turn.turnId := by
          rw [asked, turnAsked.turnId]
          rfl
        have committed := owes_commitTurn there (checks.fits named) spent1 named'
        refine committed.consequence (fun answer h2 after res => ?_)
        exact res.earlier moved.le (fun _ same => same ▸ turnAsked)

end CairnStone.Conversation
