import CairnStone.CodeSession.SessionObligations

/-! A session and its histories. While every swap that follows an append finds its revision, the events
of a session replay to its ledger, and its checkpoints are those that calls have answered, whenever no
call is in progress.
-/

namespace CairnStone.CodeSession

open JavaScript Data Concurrency List Option History Settlement Sample Appended

variable {event : TaskEventRow} {ledger : List TaskEntry} {later : SessionRow}
  {issued : Issued store} {events : List TaskEventRow}

def pairs (ledger : List TaskEntry) : List (Text × TaskState) :=
  ledger.map (fun entry => (entry.taskId, entry.state))

def stateOf (states : List (Text × TaskState)) (taskId : Text) : Option TaskState :=
  (states.find? (·.1 == taskId)).map Prod.snd

def putState (states : List (Text × TaskState)) (taskId : Text) (state : TaskState)
    : List (Text × TaskState) :=
  match states.findIdx? (·.1 == taskId) with
  | some index => states.set index (taskId, state)
  | none => states ++ [(taskId, state)]

def replayEvent (states : List (Text × TaskState)) (event : TaskEventRow)
    : Option (List (Text × TaskState)) :=
  if event.fromState = stateOf states event.taskId
      ∧ isLegalTaskTransition event.fromState event.toState = true then
    some (putState states event.taskId event.toState)
  else none

def replay (events : List TaskEventRow) : Option (List (Text × TaskState)) :=
  events.foldlM replayEvent []

theorem stateOf_pairs (ledger : List TaskEntry) (taskId : Text)
    : stateOf (pairs ledger) taskId = (findTask ledger taskId).map (·.state) := by
  unfold stateOf pairs findTask
  rw [find?_map, Option.map_map]
  rfl

theorem pairs_putTask (ledger : List TaskEntry) (entry : TaskEntry)
    : pairs (putTask ledger entry) = putState (pairs ledger) entry.taskId entry.state := by
  have found : (pairs ledger).findIdx? (·.1 == entry.taskId)
      = ledger.findIdx? (·.taskId == entry.taskId) := by
    unfold pairs
    rw [findIdx?_map]
    rfl
  unfold putTask putState
  rw [found]
  cases ledger.findIdx? (·.taskId == entry.taskId) with
  | none => simp [pairs]
  | some index => simp [pairs, map_set]

theorem replayEvent_of_follows {session : SessionRow}
    (follows : FollowsLedger session event ledger)
    : replayEvent (pairs session.taskLedger) event = some (pairs ledger) := by
  obtain ⟨entry, task, state, rfl⟩ := follows.ledger
  unfold replayEvent
  rw [if_pos ⟨follows.source.trans (stateOf_pairs _ _).symm, follows.legal⟩, pairs_putTask, task, state]

theorem replay_append (events : List TaskEventRow) (event : TaskEventRow)
    : replay (events ++ [event]) = (replay events).bind (fun states => replayEvent states event) := by
  unfold replay
  rw [foldlM_append]
  cases events.foldlM replayEvent [] with
  | none => rfl
  | some states =>
    change (replayEvent states event >>= fun next => some next) = replayEvent states event
    cases replayEvent states event <;> rfl

variable {start : Database} {h : History store} {t : Nat} {call : SessionCall} {id : Text}
  {cmd : Command}

/-- A swap that follows an append finds the session at the revision that it is based on. -/
def Unraced (_ : Nat) (cmd : Command) (h : History store) : Prop :=
  finds h.state cmd = true

theorem sessionOf_step (keyed : Keyed SessionRow.codeSessionId start.sessions)
    (lives : SessionLives start h) (now : sessionOf id (exec cmd h.state).2 = some later)
    : (sessionOf id h.state = some later ∧ commits id ⟨t, cmd, h.state⟩ = false)
      ∨ ∃ session change,
          cmd = .swapSession id session.sessionRevision change
          ∧ sessionOf id h.state = some session
          ∧ later = { change.apply session with sessionRevision := session.sessionRevision + 1 }
          ∧ commits id ⟨t, cmd, h.state⟩ = true := by
  cases cmd with
  | swapSession target base change =>
    rw [sessionOf_swapSession] at now
    obtain ⟨session, found, rfl⟩ := map_eq_some_iff.mp now
    have named : session.codeSessionId = id := (mem_of_find found).2
    by_cases hit : matchesRevision target base session = true
    · obtain ⟨same, revision⟩ := matchesRevision_iff.mp hit
      obtain rfl : target = id := same.symm.trans named
      have any := (any_matches_iff keyed lives).mpr ⟨session, found, revision⟩
      subst revision
      refine .inr ⟨session, change, rfl, found, if_pos hit, ?_⟩
      simp only [commits, any, beq_self_eq_true, Bool.and_true]
    · refine .inl ⟨?_, ?_⟩
      · rw [swapped, if_neg hit]
        exact found
      · refine eq_false_of_ne_true (fun committed => hit ?_)
        obtain ⟨same, any⟩ := Bool.and_eq_true_iff.mp committed
        cases eq_of_beq same
        obtain ⟨row, here, revision⟩ := (any_matches_iff keyed lives).mp any
        cases (found.symm.trans here)
        exact matchesRevision_iff.mpr ⟨named, revision⟩
  | _ => exact .inl ⟨now, rfl⟩

theorem revision_run (keyed : Keyed SessionRow.codeSessionId start.sessions)
    (lives : SessionLives start h) {first : Nat}
    (fresh : ∀ session, sessionOf id start = some session → session.sessionRevision = first)
    : ∀ session, sessionOf id h.state = some session
      → session.sessionRevision = first + h.log.countP (commits id) := by
  refine Kept.invariant
    (J := fun g => ∀ session, sessionOf id g.state = some session
      → session.sessionRevision = first + g.log.countP (commits id))
    lives fresh ?_
  rintro g t cmd lives - counts later now
  rw [exec_log, countP_cons]
  rcases sessionOf_step (t := t) keyed lives now
    with ⟨found, idle⟩ | ⟨session, change, rfl, found, rfl, committed⟩
  · rw [idle, counts later found]
    rfl
  · rw [committed]
    simp only [counts session found, if_true]
    omega

def settledEvents (id : Text) (log : List (Issued store)) : List TaskEventRow :=
  ((appendWork.settled log).filterMap Appended.event?).filter (·.codeSessionId == id)

theorem settled_swap {row : Appended} (follows : followsAppend issued = true)
    (begun : appendWork.unsettled (h.own issued.thread) = [(issued.thread, row)])
    : appendWork.settled (issued :: h.log) = appendWork.settled h.log ++ [row] := by
  have share : (appendWork.unsettled h.log).filter (fun item => item.1 == issued.thread)
      = [(issued.thread, row)] := by
    rw [unsettled_own]
    exact begun
  have settles : appendWork.settles issued = true := follows
  rw [settled_cons, if_pos settles, share]
  rfl

theorem settledEvents_of_neither {log : List (Issued store)}
    (follows : followsAppend issued = false)
    : settledEvents id (issued :: log) = settledEvents id log := by
  have settles : appendWork.settles issued = false := follows
  unfold settledEvents
  rw [settled_cons, settles, if_neg Bool.false_ne_true, append_nil]

theorem settledEvents_swap {row : Appended} (follows : followsAppend issued = true)
    (begun : appendWork.unsettled (h.own issued.thread) = [(issued.thread, row)])
    : settledEvents id (issued :: h.log)
      = settledEvents id h.log ++ row.event?.toList.filter (·.codeSessionId == id) := by
  have last : [row].filterMap event? = row.event?.toList := by
    cases row <;> rfl
  unfold settledEvents
  rw [settled_swap follows begun, filterMap_append, filter_append, last]

structure Leads (events : List TaskEventRow) (session : SessionRow) : Prop where
  replays : replay events = some (pairs session.taskLedger)
  increasing : events.Pairwise (fun a b => a.sessionRevision < b.sessionRevision)
  past : ∀ event ∈ events, event.sessionRevision ≤ session.sessionRevision

/-- A change that leaves the ledger alone. -/
theorem Leads.raised {session : SessionRow} (leads : Leads events session)
    (same : later.taskLedger = session.taskLedger)
    (le : session.sessionRevision ≤ later.sessionRevision)
    : Leads events later where
  replays := same ▸ leads.replays
  increasing := leads.increasing
  past := fun event mem => (leads.past event mem).trans le

theorem Leads.next {session : SessionRow} (leads : Leads events session)
    (follows : FollowsLedger session event ledger) (put : later.taskLedger = ledger)
    (revision : later.sessionRevision = session.sessionRevision + 1)
    : Leads (events ++ [event]) later where
  replays := by
    rw [replay_append, leads.replays, bind_some, replayEvent_of_follows follows, put]
  increasing := by
    refine pairwise_append.mpr ⟨leads.increasing, pairwise_singleton _ _, ?_⟩
    intro old mem new last
    cases mem_singleton.mp last
    have before := leads.past old mem
    have now := follows.revision
    omega
  past := by
    intro other mem
    rcases mem_append.mp mem with old | last
    · have before := leads.past other old
      omega
    · cases mem_singleton.mp last
      have now := follows.revision
      omega

def Traced (id : Text) (h : History store) : Prop :=
  ∀ session, sessionOf id h.state = some session → Leads (settledEvents id h.log) session

theorem Traced.keptLedger {target : Text} {base : Nat} {change : SessionChange} (traced : Traced id h)
    (keeps : ∀ row, (change.apply row).taskLedger = row.taskLedger)
    (same
      : settledEvents id (⟨t, .swapSession target base change, h.state⟩ :: h.log)
        = settledEvents id h.log)
    : Traced id (h.exec t (.swapSession target base change)) := by
  intro later now
  have here : sessionOf id (exec (.swapSession target base change) h.state).2 = some later := now
  rw [sessionOf_swapSession] at here
  obtain ⟨session, found, rfl⟩ := map_eq_some_iff.mp here
  rw [exec_log, same]
  by_cases hit : matchesRevision target base session = true
  · rw [swapped, if_pos hit]
    have revision := (matchesRevision_iff.mp hit).2
    exact (traced session found).raised (keeps session) (by simp only [revision]; omega)
  · rw [swapped, if_neg hit]
    exact traced session found

theorem Traced.task {target : Text} {base : Nat} {actors : List ActorEntry} {updatedAt : Text}
    {session : SessionRow} (traced : Traced id h)
    (found : sessionOf target h.state = some session) (based : base = session.sessionRevision)
    (begun : appendWork.unsettled (h.own t) = [(t, .event event)])
    (follows : FollowsLedger session event ledger)
    : Traced id (h.exec t (.swapSession target base (.task ledger actors updatedAt))) := by
  let issued : Issued store := ⟨t, .swapSession target base (.task ledger actors updatedAt), h.state⟩
  have named : session.codeSessionId = target := (mem_of_find found).2
  have follow : followsAppend issued = true := rfl
  have settled : settledEvents id (issued :: h.log)
      = settledEvents id h.log ++ [event].filter (·.codeSessionId == id) :=
    settledEvents_swap follow begun
  intro later now
  have here : sessionOf id (exec (.swapSession target base (.task ledger actors updatedAt)) h.state).2
      = some later := now
  rw [sessionOf_swapSession] at here
  obtain ⟨current, there, rfl⟩ := map_eq_some_iff.mp here
  have holder : current.codeSessionId = id := (mem_of_find there).2
  change Leads (settledEvents id (issued :: h.log)) _
  rw [settled]
  by_cases same : target = id
  · subst same
    cases (found.symm.trans there)
    have own : [event].filter (·.codeSessionId == target) = [event] := by
      simp [follows.sameSession, named]
    rw [own, swapped, if_pos (matchesRevision_iff.mpr ⟨named, based.symm⟩)]
    exact (traced session found).next follows rfl (by simp only [based])
  · have other : [event].filter (·.codeSessionId == id) = [] := by
      simp [follows.sameSession, named, same]
    rw [other, append_nil, swapped, if_neg]
    · exact traced current there
    · exact fun hit => same ((matchesRevision_iff.mp hit).1.symm.trans holder)

/-- While every swap that follows an append finds its revision, the settled events of a session lead to
its ledger. Witness: case analysis on the statement.
-/
theorem traced_run (keyed : Keyed SessionRow.codeSessionId start.sessions) (lives : SessionLives start h)
    (unraced : h.Respects Unraced)
    (fresh : ∀ session, sessionOf id start = some session → session.taskLedger = [])
    : Traced id h := by
  have initial : Traced id ⟨start, []⟩ := by
    intro session found
    refine ⟨?_, List.Pairwise.nil, forall_mem_nil _⟩
    rw [fresh session found]
    rfl
  refine Kept.run (J := Traced id) lives unraced initial ?_
  rintro g t cmd lives _ ⟨call, due⟩ unraced traced
  cases cmd with
  | swapSession target base change =>
    obtain ⟨session, swaps⟩ := due
    have begun := swaps.begun
    cases change with
    | lifecycle lifecycle actors updatedAt =>
      exact traced.keptLedger (fun _ => rfl) (settledEvents_of_neither rfl)
    | checkpoint checkpointId tipVector digest actors updatedAt =>
      obtain ⟨row, begun, appended⟩ := begun
      refine traced.keptLedger (fun _ => rfl) ?_
      rw [settledEvents_swap rfl begun]
      cases row with
      | event event => cases appended
      | checkpoint row => exact append_nil _
    | task ledger actors updatedAt =>
      obtain ⟨row, begun, appended⟩ := begun
      cases row with
      | checkpoint row => cases appended
      | event event =>
        exact traced.task (swaps.current keyed lives unraced) swaps.base begun appended
  | _ =>
    intro session now
    rw [exec_log, settledEvents_of_neither rfl]
    exact traced session now

def Appended.checkpoint? : Appended → Option CheckpointRow
  | .event _ => none
  | .checkpoint row => some row

theorem insertEvent_rows (events : List TaskEventRow) (row : TaskEventRow)
    : (insertEvent events row).2 = events ++ if (insertEvent events row).1 then [row] else [] := by
  unfold insertEvent
  cases events.find? (·.eventId == row.eventId) with
  | none => rfl
  | some old => exact (append_nil _).symm

theorem insertCheckpoint_rows (checkpoints : List CheckpointRow) (row : CheckpointRow)
    : (insertCheckpoint checkpoints row).2
      = checkpoints ++ if (insertCheckpoint checkpoints row).1 then [row] else [] := by
  unfold insertCheckpoint
  cases checkpoints.find? (·.checkpointId == row.checkpointId) with
  | none => rfl
  | some old => exact (append_nil _).symm

/-- A step adds the event that it appends, and keeps the others. -/
theorem events_exec (t : Nat) (cmd : Command) (db : Database)
    : (exec cmd db).2.events
      = db.events
        ++ ((appendedRow (⟨t, cmd, db⟩ : Issued store)).bind event?).toList := by
  cases cmd with
  | insertEvent row =>
    refine (insertEvent_rows db.events row).trans (congrArg _ ?_)
    unfold appendedRow
    cases put : (insertEvent db.events row).1 with
    | true => simp [put, event?]
    | false => simp [put]
  | insertCheckpoint row =>
    unfold appendedRow
    cases put : (insertCheckpoint db.checkpoints row).1 with
    | true => simp [exec, put, event?]
    | false => simp [exec, put]
  | _ => exact (append_nil _).symm

/-- A step adds the checkpoint that it appends, and keeps the others. -/
theorem checkpoints_exec (t : Nat) (cmd : Command) (db : Database)
    : (exec cmd db).2.checkpoints
      = db.checkpoints
        ++ ((appendedRow (⟨t, cmd, db⟩ : Issued store)).bind checkpoint?).toList := by
  cases cmd with
  | insertCheckpoint row =>
    refine (insertCheckpoint_rows db.checkpoints row).trans (congrArg _ ?_)
    unfold appendedRow
    cases put : (insertCheckpoint db.checkpoints row).1 with
    | true => simp [put, checkpoint?]
    | false => simp [put]
  | insertEvent row =>
    unfold appendedRow
    cases put : (insertEvent db.events row).1 with
    | true => simp [exec, put, checkpoint?]
    | false => simp [exec, put]
  | _ => exact (append_nil _).symm

/-- A table that each step extends by what it appends holds what the log has appended.
Witness: induction on the log; the newest row is the last of the table.
-/
theorem table_perm {ρ : Type} {table : Database → List ρ} {f : Appended → Option ρ}
    (step
      : ∀ t cmd db,
        table (exec cmd db).2
          = table db ++ ((appendedRow (⟨t, cmd, db⟩ : Issued store)).bind f).toList)
    (lives : SessionLives start h)
    : (table h.state).Perm (table start ++ (h.log.filterMap appendedRow).filterMap f) := by
  have initial : (table start).Perm (table start ++ []) := by
    rw [append_nil]
  refine Kept.invariant
    (J := fun g => (table g.state).Perm (table start ++ (g.log.filterMap appendedRow).filterMap f))
    lives initial ?_
  intro g t cmd _ _ same
  change (table (exec cmd g.state).2).Perm _
  rw [step t, exec_log]
  cases appended : appendedRow (⟨t, cmd, g.state⟩ : Issued store) with
  | none =>
    rw [filterMap_cons_none appended, bind_none, toList_none, append_nil]
    exact same
  | some row =>
    rw [filterMap_cons_some appended, bind_some]
    cases made : f row with
    | none =>
      rw [filterMap_cons_none made, toList_none, append_nil]
      exact same
    | some entry =>
      rw [filterMap_cons_some made, toList_some]
      refine (same.append_right _).trans ?_
      rw [append_assoc]
      exact perm_append_comm.append_left _

variable (sha256Text : Text → Digest) (localeLe : Text → Text → Bool) (toISOString : Nat → Text)

/-- A schedule of calls from a database, and where it ends. -/
abbrev afterCalls (start : Database) (schedule : List (Action store SessionCall))
    : Config store SessionCall Text SessionAnswer :=
  (Config.init (M := store) start).run (SessionCall.body sha256Text localeLe toISOString) schedule

/-- The next step of the thread is no swap after an append that misses its revision. -/
def unmissed (config : Config store SessionCall Text SessionAnswer) (t : Nat) : Bool :=
  (config.pending t).all (finds config.state)

/-- No swap of the schedule that follows an append misses its revision. -/
abbrev Unmissed (start : Database) (schedule : List (Action store SessionCall)) : Prop :=
  (Config.init (M := store) start).Admitted (SessionCall.body sha256Text localeLe toISOString)
    (fun config t => unmissed config t = true) schedule

variable {sha256Text localeLe toISOString}

theorem sound_afterCalls (start : Database) (acts : List (Action store SessionCall))
    : (sessionAgreement start).Sound HasEnded
        (afterCalls sha256Text localeLe toISOString start acts) :=
  (sessionAgreement start).sound (fun _ call _ _ unstarted => meets_sessionBody call unstarted) .nil acts

theorem unraced_of_unmissed {acts : List (Action store SessionCall)}
    (fits : Unmissed sha256Text localeLe toISOString start acts)
    : (afterCalls sha256Text localeLe toISOString start acts).history.Respects Unraced := by
  refine (sessionAgreement start).admitted_run (J := History.Respects (M := store) Unraced)
    (fun _ call _ _ unstarted => meets_sessionBody call unstarted) .nil trivial
    (fun _ _ pending _ careful holds => ⟨?_, holds⟩) (fun event => isEmptyElim event) fits
  unfold unmissed at careful
  rw [pending] at careful
  exact careful

variable {config : Config store SessionCall Text SessionAnswer}

/-- A thread that has answered has left nothing unsettled. -/
theorem unsettled_of_quiet (sound : (sessionAgreement start).Sound HasEnded config)
    (quiet : config.Quiet)
    : appendWork.unsettled config.history.log = [] := by
  refine unsettled_eq_nil (fun t => ?_)
  cases found : config.threads[t]? with
  | some thread =>
    obtain ⟨answer, said⟩ := quiet.answered found
    obtain ⟨result, rfl, ended⟩ := sound.post_of_answer found said
    exact ended.settled
  | none =>
    have none : config.history.own t = [] := by
      rw [eq_nil_iff_forall_not_mem]
      intro issued mem
      obtain ⟨noted, rfl⟩ := mem_own.mp mem
      have bound := sound.logged issued noted
      have beyond := List.getElem?_eq_none_iff.mp found
      omega
    rw [none]
    rfl

def answerOf (thread : Thread store SessionCall Text SessionAnswer) : Option SessionAnswer :=
  thread.answer.bind Except.toOption

/-- The call has answered `{ ok: true, … }`, and it is about the session. -/
def hasCommitted (id : Text) (thread : Thread store SessionCall Text SessionAnswer) : Bool :=
  (answerOf thread).any (fun answer => committedBy thread.call answer == some id)

def checkpointOf (thread : Thread store SessionCall Text SessionAnswer) : Option CheckpointRow :=
  ((answerOf thread).bind SessionAnswer.appended).bind Appended.checkpoint?

/-- Every thread that has answered has changed the session once if its answer says so. -/
theorem commits_of_quiet (sound : (sessionAgreement start).Sound HasEnded config)
    (quiet : config.Quiet) (id : Text)
    : config.history.log.countP (commits id) = config.threads.countP (hasCommitted id) := by
  refine countP_log_eq sound.logged (fun t thread found => ?_)
  obtain ⟨answer, said⟩ := quiet.answered found
  obtain ⟨result, rfl, ended⟩ := sound.post_of_answer found said
  have count := ended.count id
  unfold History.own at count
  have given : answerOf thread = some result := by
    rw [answerOf, said]
    rfl
  rw [count, hasCommitted, given, any_some]
  by_cases same : committedBy thread.call result = some id
  · simp [same]
  · simp [same]

/-- While no swap misses its revision, each thread that has answered has appended what it says. -/
theorem appended_of_answer {thread : Thread store SessionCall Text SessionAnswer}
    {answer : SessionAnswer} (sound : (sessionAgreement start).Sound HasEnded config)
    (unraced : config.history.Respects Unraced) (found : config.threads[t]? = some thread)
    (said : thread.answer = some (.ok answer))
    : (config.history.own t).filterMap appendedRow = answer.appended.toList := by
  obtain ⟨result, same, ended⟩ := sound.post_of_answer found said
  cases same
  rcases ended.appended with appended | ⟨issued, own, missed⟩
  · exact appended
  · obtain ⟨noted, -⟩ := mem_own.mp own
    obtain ⟨later, prior, split⟩ := append_of_mem noted
    have respects := unraced.earlier (h := ⟨issued.before, issued :: prior⟩) ⟨later, split.symm⟩
    have found : finds issued.before issued.command = true := respects.1
    unfold misses at missed
    rw [found] at missed
    cases missed

/-- A session agrees with its histories: its revision counts the calls that have changed it, its events
replay to its ledger, its checkpoints are those that calls have answered, and a call that has been
refused has appended nothing.
-/
structure AgreesWithHistory (config : Config store SessionCall Text SessionAnswer) (id : Text)
    (session : SessionRow)
    : Prop where
  revision : session.sessionRevision = 1 + config.threads.countP (hasCommitted id)
  events
    : ∃ events : List TaskEventRow,
        events.Perm (config.state.events.filter (·.codeSessionId == id))
        ∧ events.Pairwise (fun a b => a.sessionRevision < b.sessionRevision)
        ∧ replay events = some (pairs session.taskLedger)
  checkpoints
    : (config.state.checkpoints.filter (·.codeSessionId == id)).Perm
        ((config.threads.filterMap checkpointOf).filter (·.codeSessionId == id))
  refused
    : ∀ t thread answer, config.threads[t]? = some thread → thread.answer = some (.ok answer)
      → answer.isOk = false → ∀ issued ∈ config.history.own t, appendedRow issued = none

/-- A session of the id, if there is one, is new, and it has no history. -/
structure NewSession (start : Database) (id : Text) : Prop where
  keyed : Keyed SessionRow.codeSessionId start.sessions
  revision : ∀ session, sessionOf id start = some session → session.sessionRevision = 1
  ledger : ∀ session, sessionOf id start = some session → session.taskLedger = []
  events : start.events.filter (·.codeSessionId == id) = []
  checkpoints : start.checkpoints.filter (·.codeSessionId == id) = []

namespace Sample

def textLe (a b : Text) : Bool :=
  a ≤ b

/-- One new session. -/
def onlySession : Database :=
  .initial [session] []

def queueTask (taskId : String) (base : Nat) : SessionCall :=
  .task
    { codeSessionId := .string (text "cs:one")
      actorId := .string (text "user:ann"), taskId := .string (text taskId)
      toState := .string (text "queued"), baseRevision := TaskRuns.countValue base
      note := .undefined, title := .string (text "task"), authorId := .undefined
      now := text "now" }

def checkpointAt (base : Nat) : SessionCall :=
  .checkpoint
    { codeSessionId := .string (text "cs:one")
      actorId := .string (text "user:ann"), boundary := .string (text "pause")
      baseRevision := TaskRuns.countValue base, expectedTipVectorDigest := .undefined
      changedPaths := .undefined, currentTask := .undefined, completedWork := .undefined
      nextAction := .undefined, blockers := .undefined, testBuildExecutionReceipts := .undefined
      artifactRefs := .undefined, activeTaskLeases := .undefined
      knownConcurrentActors := .undefined, safeToContinue := .undefined
      knownCaveats := .undefined, workspaceSnapshotId := .undefined, note := .undefined
      observedCommits := .undefined, listedAt := 1000
      now := text "now" }

def sessionSteps (count thread : Nat) : List (Action store SessionCall) :=
  List.replicate count (.step thread)

/-- A task, and a checkpoint after it. -/
def oneAfterTheOther : List (Action store SessionCall) :=
  .spawn (queueTask "a" 1) :: sessionSteps 4 0 ++ .spawn (checkpointAt 2) :: sessionSteps 9 1

def atOnce : List (Action store SessionCall) :=
  .spawn (queueTask "a" 1) :: .spawn (queueTask "bb" 1) :: sessionSteps 1 0 ++ sessionSteps 1 1
    ++ sessionSteps 3 0 ++ sessionSteps 3 1

theorem newSession_onlySession : NewSession onlySession (text "cs:one") where
  keyed := by
    unfold Keyed
    decide +kernel
  revision := by
    intro session found
    cases found
    rfl
  ledger := by
    intro session found
    cases found
    rfl
  events := rfl
  checkpoints := rfl

end Sample

theorem appended_refused {answer : SessionAnswer} (refused : answer.isOk = false)
    : answer.appended = none := by
  cases answer with
  | refused why => rfl
  | _ => cases refused

/-- In a run in which no swap that follows an append misses its revision, each session agrees with its
histories whenever no call is in progress. Witness: nothing is unsettled then, and each thread's part of
the log tells what it did.
-/
theorem agreesWithHistory_of_unmissed (sha256Text : Text → Digest) (localeLe : Text → Text → Bool)
    (toISOString : Nat → Text) (start : Database) (id : Text) (new : NewSession start id)
    (schedule : List (Action store SessionCall))
    (admitted : Unmissed sha256Text localeLe toISOString start schedule)
    (quiet : (afterCalls sha256Text localeLe toISOString start schedule).Quiet) (session : SessionRow)
    (found
      : sessionOf id (afterCalls sha256Text localeLe toISOString start schedule).state = some session)
    : AgreesWithHistory (afterCalls sha256Text localeLe toISOString start schedule) id session := by
  have sound : (sessionAgreement start).Sound HasEnded
      (afterCalls sha256Text localeLe toISOString start schedule) := sound_afterCalls start schedule
  have unraced := unraced_of_unmissed admitted
  generalize afterCalls sha256Text localeLe toISOString start schedule = config at *
  refine ⟨?_, ?_, ?_, ?_⟩
  · rw [← commits_of_quiet sound quiet id]
    exact revision_run new.keyed sound.inv new.revision session found
  · obtain ⟨replays, increasing, _⟩ := traced_run new.keyed sound.inv unraced new.ledger session found
    refine ⟨settledEvents id config.history.log, ?_, increasing, replays⟩
    have table := ((table_perm (f := event?) events_exec sound.inv).filter
      (·.codeSessionId == id))
    rw [filter_append, new.events, nil_append] at table
    have settled := appendWork.begun_perm appendedRow_of_follows config.history.log
    rw [unsettled_of_quiet sound quiet, map_nil, append_nil] at settled
    exact (((settled.filterMap event?).filter _).symm).trans table.symm
  · have table := ((table_perm (f := checkpoint?) checkpoints_exec sound.inv).filter
      (·.codeSessionId == id))
    rw [filter_append, new.checkpoints, nil_append] at table
    refine table.trans (List.Perm.filter _ ?_)
    rw [filterMap_filterMap]
    refine filterMap_log_perm sound.logged (fun t thread found => ?_)
    obtain ⟨answer, answered⟩ := quiet.answered found
    obtain ⟨result, rfl, _⟩ := sound.post_of_answer found answered
    have appended := appended_of_answer sound unraced found answered
    unfold History.own at appended
    rw [← filterMap_filterMap, appended, checkpointOf, answerOf, answered]
    change result.appended.toList.filterMap _ = (result.appended.bind _).toList
    cases result.appended with
    | none => rfl
    | some row => cases row <;> rfl
  · intro t thread answer at_t answered refused
    have appended := appended_of_answer sound unraced at_t answered
    rw [appended_refused refused] at appended
    exact filterMap_eq_nil_iff.mp appended

/-- A session with a task and a checkpoint. -/
theorem agreesWithHistory_oneAfterTheOther
    : ∃ session,
        sessionOf (text "cs:one")
            (afterCalls Sample.digest Sample.textLe Sample.toISOString Sample.onlySession
              Sample.oneAfterTheOther).state
          = some session
        ∧ AgreesWithHistory
            (afterCalls Sample.digest Sample.textLe Sample.toISOString Sample.onlySession
              Sample.oneAfterTheOther)
            (text "cs:one") session := by
  have there
      : (sessionOf (text "cs:one")
          (afterCalls digest textLe toISOString onlySession
            oneAfterTheOther).state).isSome = true := by
    decide +kernel
  obtain ⟨session, found⟩ := isSome_iff_exists.mp there
  exact ⟨session, found,
    agreesWithHistory_of_unmissed _ _ _ _ _ newSession_onlySession _ (by decide +kernel)
      (by decide +kernel) _ found⟩

/-- The event of a transition that has lost its race stays in the table, though it was refused. -/
theorem refusedTransitionsCanLeaveEvents
    : ¬ ∀ (sha256Text : Text → Digest) (localeLe : Text → Text → Bool) (toISOString : Nat → Text)
        (start : Database) (id : Text), NewSession start id
          → ∀ (schedule : List (Action store SessionCall)) (session : SessionRow),
            (afterCalls sha256Text localeLe toISOString start schedule).Quiet
              → sessionOf id (afterCalls sha256Text localeLe toISOString start schedule).state
                = some session
              → AgreesWithHistory (afterCalls sha256Text localeLe toISOString start schedule) id
                  session := by
  intro all
  have there
      : (sessionOf (text "cs:one")
          (afterCalls digest textLe toISOString onlySession
            atOnce).state).isSome = true := by
    decide +kernel
  obtain ⟨session, found⟩ := isSome_iff_exists.mp there
  have quiet
      : (afterCalls digest textLe toISOString onlySession
          atOnce).Quiet := by
    decide +kernel
  have agrees := all _ _ _ _ _ newSession_onlySession atOnce session quiet found
  have second
      : ((afterCalls digest textLe toISOString onlySession
          atOnce).threads[1]?.bind answerOf).any (fun answer => !answer.isOk) = true := by
    decide +kernel
  have appended
      : ((afterCalls digest textLe toISOString onlySession
          atOnce).history.own 1).any (fun issued => (appendedRow issued).isSome) = true := by
    decide +kernel
  obtain ⟨answer, given, refused⟩ := (Option.any_eq_true _ _).mp second
  obtain ⟨thread, at_one, given⟩ := bind_eq_some_iff.mp given
  obtain ⟨result, answered, ok⟩ := bind_eq_some_iff.mp given
  obtain ⟨issued, own, some⟩ := List.any_eq_true.mp appended
  cases result with
  | error message => cases ok
  | ok result =>
    obtain rfl := Option.some.inj ok
    have none := agrees.refused 1 thread result at_one answered (Bool.not_eq_true' _ |>.mp refused)
      issued own
    rw [none] at some
    cases some

end CairnStone.CodeSession
