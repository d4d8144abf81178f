import CairnStone.Conversation.TurnsAndLog

/-! Retries of end-of-turn appends. A turn is stored once and reported as new once; and while every
swap of a log finds its revision, a call that is repeated alone ends with the turn in the log.
-/

namespace CairnStone.Conversation

open JavaScript Data Concurrency List Option Bool Database Program TaskRuns Sample Nat

variable {connections : List ConnectionRow} {h h' : History store} {t : Nat} {call : Call}
  {id : Text} {cmd : Command} {request : SyncRequest}
  {turns : List TurnRow} {α : Type} {config : Config store Call Text Answer}
  {expected : Identity} {session : SessionRow} {localeLe : Text → Text → Bool}
  {schedule : List (Action store Call)} {db : Database}

def TurnStub.isOf (expected : Identity) (entry : TurnStub) : Bool :=
  entry.turnId == expected.turnId && entry.messageId == expected.messageId

-- Turns are stored once

/-- An insertion that changes the table adds a turn whose ids are both free. -/
theorem insertTurn_cases (db : Database) (row : TurnRow)
    : insertTurn db.sessions db.turns row = (false, db.turns)
      ∨ insertTurn db.sessions db.turns row = (true, db.turns ++ [row])
        ∧ holdsTurn db.turns row = false := by
  unfold insertTurn
  split
  · exact .inl rfl
  · rename_i free
    rw [not_eq_true, or_eq_false_iff] at free
    exact .inr ⟨rfl, free.1⟩

theorem free_of_holdsTurn {row : TurnRow} (free : holdsTurn turns row = false)
    : ∀ turn ∈ turns, turn.turnId ≠ row.turnId ∧ turn.messageId ≠ row.messageId := by
  intro turn mem
  have apart := List.any_eq_false.mp free turn mem
  simpa using apart

/-- Ids of turns stay unique. -/
theorem keyed_turns (lives : Lives connections h)
    : Keyed TurnRow.turnId (Database.turns h.state) := by
  refine lives.invariant (J := fun g => Keyed TurnRow.turnId (turns g.state)) .nil ?_
  rintro g t cmd _ _ keyed
  cases cmd with
  | insertTurn row =>
    change Keyed TurnRow.turnId (insertTurn (sessions g.state) _ row).2
    rcases insertTurn_cases g.state row with same | ⟨added, free⟩
    · rw [same]
      exact keyed
    · rw [added]
      exact keyed.append_singleton (fun turn mem => (free_of_holdsTurn free turn mem).1)
  | _ => exact keyed

def Apart (first second : Issued store) : Prop :=
  ∀ turn turn', insertedTurn first = some turn → insertedTurn second = some turn'
    → turn.turnId ≠ turn'.turnId

instance apartSymm : Std.Symm Apart where
  symm _ _ apart turn turn' inserted inserted' := (apart turn' turn inserted' inserted).symm

structure InsertedOnce (h : History store) : Prop where
  there : ∀ issued ∈ h.log, ∀ turn, insertedTurn issued = some turn → turn ∈ Database.turns h.state
  apart : h.log.Pairwise Apart

theorem insertedTurn_eq_some {issued : Issued store} {turn : TurnRow}
    (put : insertedTurn issued = some turn)
    : issued.command = .insertTurn turn
      ∧ (insertTurn (sessions issued.before) (Database.turns issued.before) turn).1
        = true := by
  obtain ⟨thread, cmd, before⟩ := issued
  cases cmd with
  | insertTurn row =>
    simp only [insertedTurn] at put
    split at put
    · rename_i works
      cases put
      exact ⟨rfl, works⟩
    · cases put
  | _ => cases put

/-- Turns are inserted once. Witness: an insertion finds every earlier one in the table. -/
theorem insertedOnce_run (lives : Lives connections h) : InsertedOnce h := by
  refine lives.invariant (J := InsertedOnce)
    ⟨forall_mem_nil _, .nil⟩ ?_
  rintro g t cmd _ _ ⟨there, apart⟩
  have kept (turn : TurnRow) (mem : turn ∈ turns g.state)
      : turn ∈ (exec cmd g.state).2.turns := by
    cases cmd with
    | insertTurn row =>
      change turn ∈ (insertTurn (sessions g.state) (turns g.state) row).2
      rcases insertTurn_cases g.state row with same | ⟨added, -⟩
      · rw [same]
        exact mem
      · rw [added]
        exact mem_append_left _ mem
    | _ => exact mem
  refine ⟨?_, pairwise_cons.mpr ⟨?_, apart⟩⟩
  · intro issued mem turn put
    rcases mem_cons.mp mem with rfl | old
    · obtain ⟨rfl, works⟩ := insertedTurn_eq_some put
      change turn ∈ (insertTurn (sessions g.state) (turns g.state) turn).2
      rcases insertTurn_cases g.state turn with same | ⟨added, -⟩
      · rw [same] at works
        cases works
      · rw [added]
        exact mem_append_right _ (.head _)
    · exact kept turn (there issued old turn put)
  · intro issued noted turn turn' put inserted' same
    obtain ⟨rfl, works⟩ := insertedTurn_eq_some put
    have present := there issued noted turn' inserted'
    rcases insertTurn_cases g.state turn with failed | ⟨-, free⟩
    · rw [show insertTurn (sessions g.state) (turns g.state) turn
        = (false, turns g.state) from failed] at works
      cases works
    · exact (free_of_holdsTurn free turn' present).1 same.symm

/-- Elements at two places do not both satisfy the property, so at most one does. -/
theorem countP_le_one {p : α → Bool} {list : List α}
    (unique
      : ∀ (i j : Nat) (x y : α), list[i]? = some x → list[j]? = some y → p x = true → p y = true
        → i = j)
    : list.countP p ≤ 1 := by
  induction list with
  | nil => exact zero_le 1
  | cons first rest ih =>
    rw [countP_cons]
    cases holds : p first with
    | false =>
      have le := ih (fun i j x y at_i at_j =>
        fun px py => succ.inj (unique (i + 1) (j + 1) x y at_i at_j px py))
      simpa using le
    | true =>
      have none : rest.countP p = 0 := by
        rw [countP_eq_zero]
        intro other mem also
        obtain ⟨j, at_j⟩ := getElem?_of_mem mem
        have clash := unique 0 (j + 1) first other rfl at_j holds also
        omega
      rw [none]
      exact le_refl 1

def reportsNew (turnId messageId : Text) (thread : Thread store Call Text Answer) : Bool :=
  match thread.answer with
  | some (.ok (.synced turn _ _)) => turn.turnId == turnId && turn.messageId == messageId
  | _ => false

theorem inserted_of_reportsNew {turnId messageId : Text}
    (sound : (agreement connections).Sound (Concluded connections) config)
    {thread : Thread store Call Text Answer} (found : config.threads[t]? = some thread)
    (reports : reportsNew turnId messageId thread = true)
    : ∃ issued ∈ config.history.own t, ∃ turn, insertedTurn issued = some turn
        ∧ turn.turnId = turnId := by
  unfold reportsNew at reports
  split at reports
  · rename_i turn session attempt said
    simp only [and_eq_true, beq_iff_eq] at reports
    obtain ⟨request, -, synced⟩ :=
      (sound.post_of_answer found said).synced turn session attempt rfl
    obtain ⟨_, _, _, _, _, _, _, ⟨issued, own, put⟩, _⟩ := synced
    exact ⟨issued, own, turn, put, reports.1⟩
  · cases reports

theorem reportsNew_once (sound : (agreement connections).Sound (Concluded connections) config)
    (turnId messageId : Text)
    : config.threads.countP (reportsNew turnId messageId) ≤ 1 := by
  refine countP_le_one (fun i j x y at_i at_j reports reports' => ?_)
  obtain ⟨issued, own, turn, put, named⟩ := inserted_of_reportsNew sound at_i reports
  obtain ⟨issued', own', turn', inserted', named'⟩ := inserted_of_reportsNew sound at_j reports'
  obtain ⟨noted, thread⟩ := History.mem_own.mp own
  obtain ⟨logged', thread'⟩ := History.mem_own.mp own'
  by_contra different
  have apart := (insertedOnce_run sound.inv).apart.forall noted logged'
    (fun same => different (by rw [← thread, ← thread', same]))
  exact apart turn turn' put inserted' (named.trans named'.symm)

/-- A turn is stored at most once. -/
theorem countP_turns_le (lives : Lives connections h) (turnId messageId : Text)
    : (Database.turns h.state).countP
        (fun turn => turn.turnId == turnId && turn.messageId == messageId) ≤ 1 := by
  refine countP_le_one (fun i j x y at_i at_j holds holds' => ?_)
  simp only [and_eq_true, beq_iff_eq] at holds holds'
  have keys := keyed_turns lives
  have first : ((turns h.state).map TurnRow.turnId)[i]? = some turnId := by
    rw [getElem?_map, at_i, map_some, holds.1]
  have second : ((turns h.state).map TurnRow.turnId)[j]? = some turnId := by
    rw [getElem?_map, at_j, map_some, holds'.1]
  obtain ⟨bound, _⟩ := List.getElem?_eq_some_iff.mp first
  exact (getElem?_inj bound keys).mp (first.trans second.symm)

-- Retries

def identityOf (request : SyncRequest) (db : Database) : Option Identity :=
  match readRole request.append.role,
      ((resolveTurnSyncActor request.context (request.append.actorId.or .null)).run db).1 with
  | .ok role, .ok (.ok actor) => (requireIdentity request.append actor role).toOption
  | _, _ => none

def acceptsTurn (args : AppendArguments) (session : SessionRow) : Bool :=
  match readAppend args (some session.sessionRevision) with
  | .ok target => (checkAppend args target session).isOk
  | .error _ => false

def policyAllows (request : SyncRequest) (session : SessionRow) (db : Database) : Bool :=
  match ((getEffectiveTurnSyncPolicy request.context (turnSyncScopeFromSession session)).run db).1 with
  | .ok (.ok effective) => letsIn effective request.syncConfirmed
  | _ => false

/-- A retry can be expected to end with its turn in the log: the session takes the turn, the policy
lets it in, no other turn has taken its ids, and no call in progress is about it.
-/
structure Retriable (config : Config store Call Text Answer) (request : SyncRequest)
    (expected : Identity) (session : SessionRow)
    : Prop where
  identity : identityOf request config.state = some expected
  found : sessionOf expected.conversationId config.state = some session
  accepts : acceptsTurn { request.append with actorId := .string expected.actorId } session = true
  allowed : policyAllows request session config.state = true
  own
    : ∀ turn ∈ config.state.turns,
        turn.turnId = expected.turnId ∨ turn.messageId = expected.messageId
          → turn.identity = expected
  undisturbed
    : ∀ thread ∈ config.threads, thread.answer.isNone = true
        → thread.call.turnId ≠ some expected.turnId

def Completes (request : SyncRequest) (expected : Identity) (db : Database) : Prop :=
  ∃ answer, ((turnSyncAppendFromBody request).run db).1 = .ok answer ∧ answer.isOk = true
    ∧ (logOf expected.conversationId ((turnSyncAppendFromBody request).run db).2).countP
        (TurnStub.isOf expected) = 1

/-- Appends are safe to retry. -/
structure RetrySafe (config : Config store Call Text Answer) : Prop where
  durable
    : ∀ turnId messageId,
        config.state.turns.countP
          (fun turn => turn.turnId == turnId && turn.messageId == messageId) ≤ 1
  once : ∀ turnId messageId, config.threads.countP (reportsNew turnId messageId) ≤ 1
  retry
    : ∀ request expected session, Retriable config request expected session
        → Completes request expected config.state

/-- What a retriable request comes to when its args are read. -/
theorem Retriable.run_eq (retriable : Retriable config request expected session)
    : (turnSyncAppendFromBody request).run config.state
      = (syncIdentified request expected).run config.state := by
  have identity := retriable.identity
  unfold identityOf at identity
  unfold turnSyncAppendFromBody
  split at identity
  · rename_i role actor readsRole got
    cases required : requireIdentity request.append actor role with
    | error why =>
      rw [required] at identity
      cases identity
    | ok other =>
      rw [required] at identity
      obtain rfl : other = expected := some.inj identity
      simp only [readsRole]
      refine ((reads_resolveTurnSyncActor _ _).run_bind got _).trans ?_
      simp only [required]
  · cases identity

theorem Retriable.names (retriable : Retriable config request expected session)
    : expected.conversationId = orEmpty request.append.conversationId
      ∧ expected.turnId = orEmpty request.append.turnId
      ∧ expected.messageId = orEmpty request.append.messageId
      ∧ readRole request.append.role = .ok expected.role := by
  have identity := retriable.identity
  unfold identityOf at identity
  split at identity
  · rename_i role actor readsRole got
    unfold requireIdentity at identity
    simp only at identity
    split at identity
    · cases identity
    · cases identity
      exact ⟨rfl, rfl, rfl, readsRole⟩
  · cases identity

/-- What an append accepts for a request is the request's turn. -/
structure Accepted (request : SyncRequest) (expected : Identity) (session : SessionRow)
    (target : AppendTarget) (turn : TurnRow)
    : Prop where
  reads
    : readAppend { request.append with actorId := .string expected.actorId }
        (some session.sessionRevision) = .ok target
  checks
    : checkAppend { request.append with actorId := .string expected.actorId } target session
        = .ok turn
  conversationId : conversationId (.string expected.conversationId) = .ok expected.conversationId
  target : target.sessionId = expected.conversationId
  identity : turn.identity = expected

theorem actorId_string {actor name : Text} {field : String}
    (read : actorId (.string actor) field = .ok name)
    : name = trim actor := by
  unfold actorId nonEmptyString at read
  simp only [Value.string?_string] at read
  by_cases blank : trim actor = []
  · simp [blank] at read
  · simp only [blank, if_false] at read
    split at read
    · cases read
      rfl
    · cases read

theorem trim_of_mem_parseAliases {aliases : List Text} {alias' : Text}
    (mem : alias' ∈ parseAliases aliases)
    : trim alias' = alias' := by
  unfold parseAliases at mem
  rw [mem_eraseDups] at mem
  obtain ⟨raw, -, rfl⟩ := List.mem_map.mp (mem_of_mem_filter mem)
  exact trim_trim raw

/-- A selected actor is a trimmed text. Witness: each way in which one is selected. -/
theorem trim_of_selected {auth : AuthContext} {connection : Option ConnectionRow} {requested : Value}
    {actor : Text} (picked : selectTurnSyncActor auth connection requested = .ok actor)
    : trim actor = actor := by
  unfold selectTurnSyncActor at picked
  simp only at picked
  split at picked
  · cases picked
  · split at picked
    · cases picked
    · rename_i row
      split at picked
      · cases picked
      · split at picked
        · split at picked
          · cases picked
            exact trim_trim _
          · cases picked
        · split at picked
          · rename_i only aliases
            cases picked
            exact trim_of_mem_parseAliases (aliases ▸ mem_singleton_self actor)
          · split at picked
            · cases picked
              exact trim_trim _
            · cases picked

theorem Retriable.trim_actor (retriable : Retriable config request expected session)
    : trim expected.actorId = expected.actorId := by
  have identity := retriable.identity
  unfold identityOf at identity
  split at identity
  · rename_i role actor readsRole got
    have named : expected.actorId = actor := by
      unfold requireIdentity at identity
      simp only at identity
      split at identity
      · cases identity
      · cases identity
        rfl
    rw [named]
    unfold resolveTurnSyncActor at got
    split at got
    · cases got
    · exact trim_of_selected (Except.ok.inj got)
  · cases identity

theorem Retriable.exists_accepted (retriable : Retriable config request expected session)
    : ∃ target turn, Accepted request expected session target turn := by
  obtain ⟨conversation, turnName, message, role⟩ := retriable.names
  have accepts := retriable.accepts
  unfold acceptsTurn at accepts
  split at accepts
  · rename_i target read
    cases fine
        : checkAppend { request.append with actorId := .string expected.actorId } target session with
    | error why =>
      rw [fine] at accepts
      cases accepts
    | ok turn =>
      have reads := readsAppend read
      obtain ⟨named, again⟩ := orEmpty_of_markedId reads.sessionId
      have target' : target.sessionId = expected.conversationId := (conversation.trans named).symm
      refine ⟨target, turn, read, fine, ?_, target', ?_⟩
      · rw [← target']
        exact again
      · have actor : target.actor = expected.actorId :=
          (actorId_string reads.actor).trans retriable.trim_actor
        have turn' : target.turnId = expected.turnId :=
          (turnName.trans (orEmpty_of_markedId reads.turnId).1).symm
        have message' : target.messageId = expected.messageId :=
          (message.trans (orEmpty_of_markedId reads.messageId).1).symm
        have role' : target.role = expected.role :=
          Except.ok.inj (reads.role.symm.trans role)
        rw [(checksAppend fine).identity, target', turn', message', actor, role']
  · cases accepts

-- A turn that is there already

theorem not_pending_of_undisturbed
    (undisturbed
      : ∀ thread ∈ (after localeLe connections schedule).threads, thread.answer.isNone = true
          → thread.call.turnId ≠ some expected.turnId) {turn : TurnRow}
    (named : turn.turnId = expected.turnId)
    : ∀ u, (u, turn) ∉ turnWork.unsettled (after localeLe connections schedule).history.log := by
  intro u pending
  have sound := sound_after localeLe connections schedule
  obtain ⟨issued, noted, rfl, begun⟩ := Settlement.mem_unsettled pending
  have meets (t : Nat) (call : Call) (start : History store) (lives : Lives connections start)
      (fresh : start.own t = [])
      : Obliged connections t call (body localeLe call)
          (Concluded connections t call start.state) start :=
    owes_body localeLe call lives fresh
  obtain ⟨call, history, asked, -, -, due⟩ :=
    (agreement connections).logged_promised meets .nil schedule issued noted
  obtain ⟨thread, found, rfl⟩ := map_eq_some_iff.mp asked
  have cmd : issued.command = .insertTurn turn := (insertedTurn_eq_some begun).1
  rw [cmd] at due
  cases said : thread.answer with
  | none =>
    refine undisturbed thread (mem_of_getElem? found) ?_ ?_
    · rw [said]
      rfl
    · rw [← named]
      exact due.2
  | some answer =>
    have settled := (sound.post_of_answer found said).spent.settled
    have own := mem_own_unsettled pending
    rw [settled] at own
    cases own

theorem exists_of_mem_stubsOf {entry : TurnStub} (mem : entry ∈ stubsOf id turns)
    : ∃ turn ∈ turns, turn.conversationId = id ∧ turn.stub = entry := by
  obtain ⟨turn, within, same⟩ := List.mem_map.mp mem
  obtain ⟨present, named⟩ := mem_filter.mp within
  exact ⟨turn, present, eq_of_beq named, same⟩

/-- A turn shows at most once in the log of its conversation. -/
theorem countP_log_le (lives : Lives connections h) (hit : Matched id h) (expected : Identity)
    : (logOf id h.state).countP (TurnStub.isOf expected) ≤ 1 := by
  have inLog : (logOf id h.state).countP (TurnStub.isOf expected)
      ≤ (stubsOf id (turns h.state)).countP (TurnStub.isOf expected) := by
    rw [List.Perm.countP_eq _ hit, countP_append]
    exact le_add_right _ _
  have inTable : (stubsOf id (turns h.state)).countP (TurnStub.isOf expected)
      ≤ (turns h.state).countP (fun turn =>
          turn.turnId == expected.turnId && turn.messageId == expected.messageId) := by
    unfold stubsOf
    rw [countP_map]
    exact filter_sublist.countP_le
  exact (inLog.trans inTable).trans (countP_turns_le lives _ _)

/-- A turn that is in the table and not pending shows once in the log. -/
theorem countP_log_of_stored (lives : Lives connections h) (hit : Matched id h)
    {turn : TurnRow} (mem : turn ∈ Database.turns h.state) (same : turn.identity = expected)
    (named : expected.conversationId = id)
    (settled : ∀ u other, (u, other) ∈ turnWork.unsettled h.log → other.turnId ≠ expected.turnId)
    : (logOf id h.state).countP (TurnStub.isOf expected) = 1 := by
  have names : turn.conversationId = id := (congrArg Identity.conversationId same).trans named
  have turnName : turn.turnId = expected.turnId := congrArg Identity.turnId same
  have message : turn.messageId = expected.messageId := congrArg Identity.messageId same
  have stub : turn.stub ∈ stubsOf id (turns h.state) :=
    List.mem_map.mpr ⟨turn, mem_filter.mpr ⟨mem, beq_iff_eq.mpr names⟩, rfl⟩
  have here : turn.stub ∈ logOf id h.state := by
    rcases mem_append.mp (hit.mem_iff.mp stub) with log | pending
    · exact log
    · obtain ⟨other, within, -, stub'⟩ := exists_of_mem_stubsOf pending
      obtain ⟨⟨u, row⟩, unsettled, rfl⟩ := List.mem_map.mp within
      have clash : row.turnId = expected.turnId := by
        rw [← turnName]
        exact congrArg TurnStub.turnId stub'
      exact absurd clash (settled u row unsettled)
  have isOf : TurnStub.isOf expected turn.stub = true := by
    unfold TurnStub.isOf
    simp [TurnRow.stub, turnName, message]
  have some : 0 < (logOf id h.state).countP (TurnStub.isOf expected) :=
    countP_pos_iff.mpr ⟨turn.stub, here, isOf⟩
  have le := countP_log_le lives hit expected
  omega

-- A call that runs alone

theorem run_perform_bind (cmd : Command) (g : Bool → Operation α) (db : Database)
    : ((perform cmd).bind g).run db = (g (exec cmd db).1).run (exec cmd db).2 :=
  rfl

theorem run_select_bind {β : Type} (f : Database → β) (g : β → Operation α) (db : Database)
    : ((select f).bind g).run db = (g (f db)).run db :=
  rfl

theorem run_getConversationSession {name : Text}
    (valid : conversationId (.string id) = .ok name)
    : (getConversationSession id).run db = (.ok (sessionOf name db), db) := by
  unfold getConversationSession
  rw [valid]
  rfl

/-- If no other turn has taken its ids, what is found of a turn is the turn or nothing. -/
theorem findTurnIdentity_cases (keyed : Keyed TurnRow.turnId turns)
    (own
      : ∀ turn ∈ turns, turn.turnId = expected.turnId ∨ turn.messageId = expected.messageId
          → turn.identity = expected)
    : (findTurnIdentity turns expected = []
        ∧ ∀ turn ∈ turns, turn.turnId ≠ expected.turnId ∧ turn.messageId ≠ expected.messageId)
      ∨ ∃ turn ∈ turns, turn.identity = expected ∧ findTurnIdentity turns expected = [turn] := by
  let isNamed (turn : TurnRow) : Bool :=
    turn.turnId == expected.turnId || turn.messageId == expected.messageId
  have each (turn : TurnRow) (mem : turn ∈ turns.filter isNamed)
      : turn ∈ turns ∧ turn.identity = expected := by
    obtain ⟨present, named⟩ := mem_filter.mp mem
    refine ⟨present, own turn present ?_⟩
    simpa [isNamed] using named
  have keys : ((turns.filter isNamed).map TurnRow.turnId).Nodup :=
    (filter_sublist.map _).nodup keyed
  unfold findTurnIdentity
  change (((turns.filter isNamed).insertionSort _).take 2 = [] ∧ _) ∨ _
  cases found : turns.filter isNamed with
  | nil =>
    refine .inl ⟨rfl, fun turn mem => ?_⟩
    have apart := filter_eq_nil_iff.mp found turn mem
    simpa [isNamed] using apart
  | cons turn rest =>
    rw [found] at each keys
    obtain ⟨present, same⟩ := each turn (.head _)
    refine .inr ⟨turn, present, same, ?_⟩
    cases rest with
    | nil => rfl
    | cons second others =>
      have same' := (each second (.tail _ (.head _))).2
      have clash : turn.turnId = second.turnId :=
        (congrArg Identity.turnId same).trans (congrArg Identity.turnId same').symm
      simp [clash] at keys

/-- What is found of a turn decides what a lookup of it comes to. -/
theorem run_replayOrConflict {existing : Existing}
    (valid : conversationId (.string expected.conversationId) = .ok expected.conversationId)
    (classified
      : classifyExisting (findTurnIdentity db.turns expected) expected
          (sessionOf expected.conversationId db) = existing)
    : (existing = .missing → ((replayOrConflict expected).run db).1 = .ok none)
      ∧ ∀ turn, existing = .replay turn
        → ((replayOrConflict expected).run db).1
          = .ok (some (.replayed turn (sessionOf expected.conversationId db))) := by
  have session : ((getConversationSession expected.conversationId).run db).1
      = .ok (sessionOf expected.conversationId db) := by
    rw [run_getConversationSession valid]
  have reads := reads_getConversationSession expected.conversationId
  unfold replayOrConflict
  refine ⟨fun lost => ?_, fun turn replay => ?_⟩
  · subst lost
    rw [bind_eq, reads.run_bind session]
    simp [select, run_bind, classified]
  · subst replay
    rw [bind_eq, reads.run_bind session]
    simp [select, run_bind, classified]

theorem run_append {target : AppendTarget} {turn : TurnRow}
    (taken : Accepted request expected session target turn)
    (found : sessionOf expected.conversationId db = some session)
    (free : holdsTurn db.turns turn = false)
    : ∃ record,
        (appendConversationTurn { request.append with actorId := .string expected.actorId }
            (some session.sessionRevision)).run db
          = (.ok (.ok { turn, session := record }),
            (exec (.swapSession expected.conversationId session.sessionRevision
              (.log (logUpdate session turn))) (exec (.insertTurn turn) db).2).2) := by
  have target' : sessionOf target.sessionId db = some session := taken.target.symm ▸ found
  have named : turn.conversationId = expected.conversationId :=
    congrArg Identity.conversationId taken.identity
  have put : insertTurn db.sessions db.turns turn = (true, db.turns ++ [turn]) := by
    have there : (findSession db.sessions turn.conversationId).isNone = false := by
      rw [named]
      rw [show findSession db.sessions expected.conversationId = some session from found]
      rfl
    unfold insertTurn
    rw [free, there]
    rfl
  have swaps : (exec (.swapSession expected.conversationId session.sessionRevision
      (.log (logUpdate session turn))) (exec (.insertTurn turn) db).2).1 = true := by
    refine List.any_eq_true.mpr ⟨session, mem_of_find?_eq_some found, ?_⟩
    exact matchesRevision_iff.mpr ⟨(mem_of_find found).2, rfl⟩
  have replies : (exec (.insertTurn turn) db).1 = true := congrArg Prod.fst put
  have committed
      : ∃ record,
          (commitTurn session turn).run db
            = (.ok (.ok { turn, session := record }),
              (exec (.swapSession expected.conversationId session.sessionRevision
                (.log (logUpdate session turn))) (exec (.insertTurn turn) db).2).2) := by
    refine ⟨sessionOf expected.conversationId (exec (.swapSession expected.conversationId
      session.sessionRevision (.log (logUpdate session turn))) (exec (.insertTurn turn) db).2).2, ?_⟩
    unfold commitTurn
    simp only [bind_eq, run_perform_bind, replies, if_true, named, swaps, run_select_bind,
      pure_eq, run_done, selectSession, sessionOf]
  obtain ⟨record, runs⟩ := committed
  refine ⟨record, ?_⟩
  rw [← runs]
  unfold appendConversationTurn
  rw [taken.reads]
  simp only [selectSession, bind_eq, run_select_bind]
  rw [show findSession db.sessions target.sessionId = some session from target']
  simp only [taken.checks]

theorem reads_readPolicies (owner : Owner) (candidates : List ScopeRef)
    : (readPolicies owner candidates).Reads := by
  induction candidates with
  | nil => trivial
  | cons cand rest ih => exact reads_select_bind (fun _ => ih.bind (fun _ => trivial))

theorem reads_activeContext (context : Option AuthContext) : (activeContext context).Reads := by
  unfold activeContext
  split
  · trivial
  · split
    · trivial
    · refine reads_select_bind (fun row => ?_)
      split
      · split
        · trivial
        · trivial
      · trivial

theorem reads_getEffective (context : Option AuthContext) (scope : SyncScope)
    : (getEffectiveTurnSyncPolicy context scope).Reads := by
  refine (reads_activeContext context).bind (fun active => ?_)
  cases active with
  | error why => trivial
  | ok auth => exact (reads_readPolicies auth.owner _).bind (fun _ => trivial)

theorem reads_replayOrConflict (expected : Identity) : (replayOrConflict expected).Reads := by
  refine (reads_getConversationSession expected.conversationId).bind (fun session => ?_)
  refine reads_select_bind (fun rows => ?_)
  split
  · trivial
  · trivial
  · trivial

theorem run_syncNew (retriable : Retriable config request expected session)
    {target : AppendTarget} {turn : TurnRow}
    (taken : Accepted request expected session target turn)
    (free : holdsTurn config.state.turns turn = false)
    : ∃ record,
        (syncNew request expected).run config.state
          = (.ok (.synced turn record 0),
            (exec (.swapSession expected.conversationId session.sessionRevision
              (.log (logUpdate session turn))) (exec (.insertTurn turn) config.state).2).2) := by
  obtain ⟨record, appends⟩ := run_append taken retriable.found free
  refine ⟨record, ?_⟩
  have session' : ((getConversationSession expected.conversationId).run config.state).1
      = .ok (some session) := by
    rw [run_getConversationSession taken.conversationId, retriable.found]
  have allowed := retriable.allowed
  unfold policyAllows at allowed
  split at allowed
  · rename_i effective got
    unfold syncNew
    rw [bind_eq, (reads_getConversationSession _).run_bind session']
    simp only [bind_eq]
    rw [(reads_getEffective _ _).run_bind got]
    simp only [allowed, if_true]
    unfold syncAttempt
    rw [bind_eq, run_bind, appends]
    simp only [pure_eq, run_done]
  · cases allowed

/-- A retriable call that runs alone completes. Witness: its turn is new, and the session takes it, or
it is in the table, and then also in the log, as no call in progress has it pending.
-/
theorem completes_of_retriable (admitted : Careful localeLe connections schedule)
    (retriable : Retriable (after localeLe connections schedule) request expected session)
    : Completes request expected (after localeLe connections schedule).state := by
  have sound := sound_after localeLe connections schedule
  have lives : Lives connections (after localeLe connections schedule).history := sound.inv
  have hit := matched_run lives (unraced_of_careful admitted) expected.conversationId
  obtain ⟨target, turn, taken⟩ := retriable.exists_accepted
  unfold Completes
  rw [retriable.run_eq]
  unfold syncIdentified
  rw [bind_eq]
  rcases findTurnIdentity_cases (keyed_turns lives) retriable.own with
    ⟨lost, free⟩ | ⟨stored, present, same, found⟩
  · have classified : classifyExisting
        (findTurnIdentity (after localeLe connections schedule).state.turns expected) expected
        (sessionOf expected.conversationId (after localeLe connections schedule).state)
        = .missing := by
      rw [lost]
      rfl
    have lookup := (run_replayOrConflict taken.conversationId classified).1 rfl
    have unheld : holdsTurn (after localeLe connections schedule).state.turns turn = false := by
      refine List.any_eq_false.mpr (fun other mem => ?_)
      obtain ⟨apart, apart'⟩ := free other mem
      have turnName : turn.turnId = expected.turnId := congrArg Identity.turnId taken.identity
      have message : turn.messageId = expected.messageId :=
        congrArg Identity.messageId taken.identity
      simp [turnName, message, apart, apart']
    obtain ⟨record, runs⟩ := run_syncNew retriable taken unheld
    rw [(reads_replayOrConflict expected).run_bind lookup]
    simp only [runs]
    refine ⟨_, rfl, rfl, ?_⟩
    have fits : Fits session turn := by
      refine (checksAppend taken.checks).fits ?_
      rw [taken.target]
      exact (mem_of_find retriable.found).2
    have put : sessionOf expected.conversationId
        (exec (.insertTurn turn) (after localeLe connections schedule).state).2 = some session :=
      retriable.found
    have none : (logOf expected.conversationId (after localeLe connections schedule).state).countP
        (TurnStub.isOf expected) = 0 := by
      refine countP_eq_zero.mpr (fun entry mem isOf => ?_)
      obtain ⟨other, present, -, rfl⟩ := exists_of_mem_stubsOf
        (hit.mem_iff.mpr (mem_append_left _ mem))
      simp only [TurnStub.isOf, and_eq_true, beq_iff_eq] at isOf
      exact (free other present).1 isOf.1
    have isOf : TurnStub.isOf expected turn.stub = true := by
      have turnName : turn.turnId = expected.turnId := congrArg Identity.turnId taken.identity
      have message : turn.messageId = expected.messageId :=
        congrArg Identity.messageId taken.identity
      simp [TurnStub.isOf, TurnRow.stub, turnName, message]
    have stays : logOf expected.conversationId
        (exec (.insertTurn turn) (after localeLe connections schedule).state).2
        = logOf expected.conversationId (after localeLe connections schedule).state := rfl
    rw [logOf_append fits put, stays, countP_append, none, countP_singleton, isOf]
    rfl
  · have noted := countP_log_of_stored lives hit present same rfl
      (fun u other pending clash =>
        not_pending_of_undisturbed retriable.undisturbed clash u pending)
    have projected : isProjected
        (sessionOf expected.conversationId (after localeLe connections schedule).state) expected
        = true := by
      have log : logOf expected.conversationId (after localeLe connections schedule).state
          = session.messageLog := by
        unfold logOf
        rw [retriable.found]
        rfl
      rw [retriable.found]
      have some : 0 < session.messageLog.countP (TurnStub.isOf expected) := by
        rw [← log, noted]
        exact one_pos
      obtain ⟨entry, mem, isOf⟩ := countP_pos_iff.mp some
      exact List.any_eq_true.mpr ⟨entry, mem, isOf⟩
    have classified : classifyExisting
        (findTurnIdentity (after localeLe connections schedule).state.turns expected) expected
        (sessionOf expected.conversationId (after localeLe connections schedule).state)
        = .replay stored := by
      rw [found]
      simp [classifyExisting, same, projected]
    have lookup := (run_replayOrConflict taken.conversationId classified).2 stored rfl
    rw [(reads_replayOrConflict expected).run_bind lookup]
    exact ⟨_, rfl, rfl, noted⟩

namespace Sample

def owner : Owner :=
  ⟨text "account", text "tenant"⟩

def connection : ConnectionRow where
  connectionId := text "connection"
  principalId := text "user:ann"
  owner := owner
  isActive := true
  routingAliases := []

def endOfTurn (id name : String) : SyncRequest where
  context := some ⟨text "user:ann", text "connection", owner⟩
  append := { turn id name with actorId := .undefined }
  syncConfirmed := .bool true
  retryNow := text "later"

/-- A conversation with one synchronized turn. -/
def synced : List (Action store Call) :=
  .spawn (create "cvs:one") :: steps 2 0 ++ .spawn (.sync (endOfTurn "cvs:one" "a")) :: steps 10 1

def syncedCrossing : List (Action store Call) :=
  .spawn (create "cvs:one") :: steps 2 0
    ++ .spawn (.sync (endOfTurn "cvs:one" "a")) :: .spawn (.sync (endOfTurn "cvs:one" "b")) :: steps 7 1
    ++ steps 10 2 ++ steps 5 1

def first : Identity where
  conversationId := text "cvs:one"
  turnId := text "turn:a"
  messageId := text "cmsg:a"
  actorId := text "user:ann"
  role := .user

end Sample

/-- In a run in which every swap of a log finds its revision, appends are safe to retry. -/
theorem retrySafe_of_careful (localeLe : Text → Text → Bool) (connections : List ConnectionRow)
    (schedule : List (Action store Call)) (admitted : Careful localeLe connections schedule)
    : RetrySafe (after localeLe connections schedule) where
  durable := countP_turns_le (sound_after localeLe connections schedule).inv
  once := reportsNew_once (sound_after localeLe connections schedule)
  retry _ _ _ retriable := completes_of_retriable admitted retriable

/-- A conversation with one synchronized turn. -/
theorem retrySafe_synced : RetrySafe (after Sample.collate [Sample.connection] Sample.synced) :=
  retrySafe_of_careful _ _ _ (by decide +kernel)

/-- A call that has lost its race can never be finished: each retry finds its turn in the table and
not in the log.
-/
theorem lostAppendsCannotBeRetried
    : ¬ ∀ (localeLe : Text → Text → Bool) (connections : List ConnectionRow)
        (schedule : List (Action store Call)), RetrySafe (after localeLe connections schedule) := by
  intro all
  let request := endOfTurn "cvs:one" "a"
  have safe := all collate [connection] syncedCrossing
  have there
      : (sessionOf (text "cvs:one")
          (after collate [connection] syncedCrossing).state).isSome = true := by
    decide +kernel
  obtain ⟨session, found⟩ := isSome_iff_exists.mp there
  have accepts
      : (sessionOf (text "cvs:one")
          (after collate [connection] syncedCrossing).state).any
          (acceptsTurn { request.append with actorId := .string first.actorId }) = true := by
    decide +kernel
  have allowed
      : (sessionOf (text "cvs:one")
          (after collate [connection] syncedCrossing).state).any
          (fun session => policyAllows request session
            (after collate [connection] syncedCrossing).state) = true := by
    decide +kernel
  rw [found] at accepts allowed
  have retriable
      : Retriable (after collate [connection] syncedCrossing) request
          first session :=
    ⟨by decide +kernel, found, accepts, allowed, by decide +kernel, by decide +kernel⟩
  obtain ⟨answer, answered, ok, -⟩ := safe.retry request first session retriable
  have refused
      : isRefused ((turnSyncAppendFromBody request).run
          (after collate [connection] syncedCrossing).state).1 = true := by
    decide +kernel
  rw [answered] at refused
  simp [isRefused, ok] at refused

end CairnStone.Conversation
