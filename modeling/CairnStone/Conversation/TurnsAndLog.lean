import CairnStone.Conversation.SyncObligations

/-! A conversation's turns and its log. While every swap of a log finds its revision, a turn is in the
log of its session as soon as the call that has inserted it goes on; what is inserted and not yet in a
log belongs to a call in progress.
-/

namespace CairnStone.Conversation

open JavaScript Data Concurrency List Option Database History Settlement Command SessionRow

variable {connections : List ConnectionRow} {h h' : History store} {t : Nat} {call : Call}
  {id : Text} {cmd : Command}
  {target : Text} {base : Nat} {session : SessionRow}
  {config : Config store Call Text Answer}

def stubsOf (id : Text) (turns : List TurnRow) : List TurnStub :=
  (turns.filter (·.conversationId == id)).map TurnRow.stub

def logOf (id : Text) (db : Database) : List TurnStub :=
  ((sessionOf id db).map SessionRow.messageLog).getD []

def pendingStubs (id : Text) (log : Trace) : List TurnStub :=
  stubsOf id ((turnWork.unsettled log).map Prod.snd)

def Unraced (_ : Nat) (cmd : Command) (h : History store) : Prop :=
  finds h.state cmd = true

theorem takeLast_of_le {α : Type} {max : Nat} {list : List α} (le : list.length ≤ max)
    : takeLast max list = list := by
  unfold takeLast
  rw [Nat.sub_eq_zero_of_le le]
  rfl

theorem logOf_insertSession {row : SessionRow} (empty : row.messageLog = []) (db : Database)
    : logOf id (exec (.insertSession row) db).2 = logOf id db := by
  unfold logOf
  rw [sessionOf_insertSession]
  cases found : sessionOf id db with
  | some session => rfl
  | none =>
    rw [none_or]
    split
    · simp [empty]
    · rfl

theorem swapped_of_ne {change : SessionChange} {row : SessionRow}
    (other : row.conversationId ≠ target)
    : swapped target base change row = row := by
  unfold swapped
  rw [if_neg]
  intro hit
  exact other (matchesRevision_iff.mp hit).1

/-- A swap of one session leaves the others alone. -/
theorem sessionOf_swap_of_ne (other : id ≠ target) (base : Nat) (change : SessionChange)
    (db : Database)
    : sessionOf id (exec (.swapSession target base change) db).2 = sessionOf id db := by
  rw [sessionOf_swapSession]
  cases found : sessionOf id db with
  | none => rfl
  | some session =>
    have named : session.conversationId = id := (mem_of_find found).2
    rw [map_some, swapped_of_ne (named ▸ other)]

theorem logOf_fields (target : Text) (base : Nat) (update : FieldUpdate) (db : Database)
    : logOf id (exec (.swapSession target base (.fields update)) db).2 = logOf id db := by
  unfold logOf
  rw [sessionOf_swapSession, Option.map_map]
  have kept : messageLog ∘ swapped target base (.fields update)
      = messageLog := by
    funext row
    simp only [Function.comp_apply, swapped]
    split
    · rfl
    · rfl
  rw [kept]

theorem logOf_append {turn : TurnRow} {db : Database} (fits : Fits session turn)
    (found : sessionOf id db = some session)
    : logOf id
        (exec (.swapSession id session.sessionRevision (.log (logUpdate session turn))) db).2
      = logOf id db ++ [turn.stub] := by
  have hit : matchesRevision id session.sessionRevision session = true :=
    matchesRevision_iff.mpr ⟨(mem_of_find found).2, rfl⟩
  have short : (session.messageLog ++ [turn.stub]).length ≤ MAX_MESSAGE_LOG := by
    have room := fits.room
    rw [fits.seq] at room
    simpa using room
  unfold logOf
  rw [sessionOf_swapSession, found]
  simp only [map_some, getD_some, swapped, hit, if_true, SessionChange.apply,
    logUpdate]
  exact takeLast_of_le short

theorem logOf_writes {update : LogUpdate} {turn : TurnRow}
    (writes : Writes connections t id base update session turn h)
    (found : sessionOf id h.state = some session)
    : logOf id (exec (.swapSession id base (.log update)) h.state).2
      = logOf id h.state ++ [turn.stub] := by
  rw [writes.base, writes.update]
  exact logOf_append writes.fits found

def Matched (id : Text) (h : History store) : Prop :=
  (stubsOf id (Database.turns h.state)).Perm (logOf id h.state ++ pendingStubs id h.log)

theorem stubsOf_append (id : Text) (turns others : List TurnRow)
    : stubsOf id (turns ++ others) = stubsOf id turns ++ stubsOf id others := by
  simp [stubsOf]

theorem stubsOf_perm {turns turns' : List TurnRow} (perm : turns.Perm turns')
    : (stubsOf id turns).Perm (stubsOf id turns') :=
  (perm.filter _).map _

/-- A step that neither begins nor settles a turn leaves the pending ones alone. -/
theorem pendingStubs_of_neither {issued : Issued store} {log : Trace}
    (logs : writesLog issued.command = false) (begun : insertedTurn issued = none)
    : pendingStubs id (issued :: log) = pendingStubs id log := by
  unfold pendingStubs
  rw [unsettled_cons, after_of_neither logs begun]

theorem Matched.insert {row : TurnRow} (hit : Matched id h)
    : Matched id (h.exec t (.insertTurn row)) := by
  have logs : logOf id (h.exec t (.insertTurn row)).state = logOf id h.state := rfl
  unfold Matched
  rw [logs, exec_log]
  cases put
      : (insertTurn (sessions h.state) (turns h.state) row).1 with
  | false =>
    have begun : insertedTurn (⟨t, .insertTurn row, h.state⟩ : Issued store) = none :=
      if_neg (ne_true_of_eq_false put)
    have turns : turns (h.exec t (.insertTurn row)).state = turns h.state :=
      (idle_of_taken (t := t) put).turns
    rw [pendingStubs_of_neither rfl begun, turns]
    exact hit
  | true =>
    have begun : insertedTurn (⟨t, .insertTurn row, h.state⟩ : Issued store) = some row :=
      if_pos put
    have turns : turns (h.exec t (.insertTurn row)).state
        = turns h.state ++ [row] := by
      change (insertTurn (sessions h.state) (turns h.state) row).2 = _
      unfold insertTurn at put ⊢
      split
      · rename_i taken
        rw [if_pos taken] at put
        cases put
      · rfl
    have pending : pendingStubs id (⟨t, .insertTurn row, h.state⟩ :: h.log)
        = stubsOf id [row] ++ pendingStubs id h.log := by
      unfold pendingStubs
      rw [unsettled_cons, after_of_begun rfl begun, ← stubsOf_append]
      rfl
    rw [pending, turns, stubsOf_append]
    calc (stubsOf id (Database.turns h.state) ++ stubsOf id [row]).Perm
          ((logOf id h.state ++ pendingStubs id h.log) ++ stubsOf id [row]) :=
          hit.append_right _
      _ = logOf id h.state ++ (pendingStubs id h.log ++ stubsOf id [row]) :=
          append_assoc _ _ _
      List.Perm _ (logOf id h.state ++ (stubsOf id [row] ++ pendingStubs id h.log)) :=
          perm_append_comm.append_left _

theorem pendingStubs_perm {turn : TurnRow} {issued : Issued store} (id : Text)
    (logs : writesLog issued.command = true)
    (begun : turnWork.unsettled (h.own issued.thread) = [(issued.thread, turn)])
    : (pendingStubs id h.log).Perm (stubsOf id [turn] ++ pendingStubs id (issued :: h.log)) := by
  unfold pendingStubs
  rw [unsettled_cons, after_of_settles logs, ← stubsOf_append]
  refine stubsOf_perm ?_
  have split := (turnWork.unsettled_perm h issued.thread).map Prod.snd
  rw [begun, map_append] at split
  exact split

/-- A swap that finds its revision moves the pending turn into the log. -/
theorem Matched.write {update : LogUpdate} {turn : TurnRow} (hit : Matched id h)
    (writes : Writes connections t target base update session turn h)
    (found : sessionOf target h.state = some session)
    : Matched id (h.exec t (.swapSession target base (.log update))) := by
  let issued : Issued store := ⟨t, .swapSession target base (.log update), h.state⟩
  have pending : (pendingStubs id h.log).Perm
      (stubsOf id [turn] ++ pendingStubs id (issued :: h.log)) :=
    pendingStubs_perm id rfl writes.begun
  have logs : logOf id (exec (.swapSession target base (.log update)) h.state).2
      = logOf id h.state ++ stubsOf id [turn] := by
    by_cases same : id = target
    · subst same
      rw [logOf_writes writes found]
      simp [stubsOf, writes.target]
    · have none : stubsOf id [turn] = [] := by
        simp [stubsOf, writes.target ▸ Ne.symm same]
      rw [none, append_nil]
      unfold logOf
      rw [sessionOf_swap_of_ne same]
  unfold Matched
  change (stubsOf id (turns h.state)).Perm
    (logOf id (exec (.swapSession target base (.log update)) h.state).2
      ++ pendingStubs id (issued :: h.log))
  rw [logs, append_assoc]
  exact hit.trans (pending.append_left _)

/-- While every swap of a log finds its revision, turns and logs match up to pending turns.
Witness: case analysis on the statement.
-/
theorem matched_run (lives : Lives connections h) (unraced : h.Respects Unraced) (id : Text)
    : Matched id h := by
  refine Kept.run (J := Matched id) lives unraced .rfl ?_
  rintro g t cmd lives _ ⟨call, due⟩ finds hit
  cases cmd with
  | insertSession row =>
    unfold Matched
    rw [exec_log, pendingStubs_of_neither rfl rfl]
    change (stubsOf id (turns g.state)).Perm
      (logOf id (exec (.insertSession row) g.state).2 ++ pendingStubs id g.log)
    rw [logOf_insertSession due.1]
    exact hit
  | insertTurn row => exact hit.insert
  | swapSession target base change =>
    cases change with
    | fields update =>
      unfold Matched
      rw [exec_log, pendingStubs_of_neither rfl rfl]
      change (stubsOf id (turns g.state)).Perm
        (logOf id (exec (.swapSession target base (.fields update)) g.state).2
          ++ pendingStubs id g.log)
      rw [logOf_fields]
      exact hit
    | log update =>
      obtain ⟨session, turn, writes⟩ := due
      exact hit.write writes (writes.current lives finds)
  | insertPolicy row =>
    unfold Matched
    rw [exec_log, pendingStubs_of_neither rfl rfl]
    exact hit
  | swapPolicy target revision update =>
    unfold Matched
    rw [exec_log, pendingStubs_of_neither rfl rfl]
    exact hit

def Numbered (id : Text) (db : Database) : Prop :=
  (logOf id db).map TurnStub.seq = List.range' 1 (logOf id db).length

theorem numbered_run (lives : Lives connections h) (unraced : h.Respects Unraced) (id : Text)
    : Numbered id h.state := by
  have initial : Numbered id (initial connections) := rfl
  refine Kept.run (J := fun g => Numbered id g.state) lives unraced initial ?_
  rintro g t cmd lives _ ⟨call, due⟩ finds numbered
  have stays (same : logOf id (exec cmd g.state).2 = logOf id g.state)
      : Numbered id (exec cmd g.state).2 := by
    unfold Numbered
    rw [same]
    exact numbered
  cases cmd with
  | insertSession row => exact stays (logOf_insertSession due.1 g.state)
  | insertTurn row => exact stays rfl
  | insertPolicy row => exact stays rfl
  | swapPolicy target revision update => exact stays rfl
  | swapSession target base change =>
    cases change with
    | fields update => exact stays (logOf_fields target base update g.state)
    | log update =>
      obtain ⟨session, turn, writes⟩ := due
      have found := writes.current lives finds
      by_cases same : id = target
      · subst same
        have seq : turn.stub.seq = 1 + (logOf id g.state).length := by
          have log : logOf id g.state = session.messageLog := by
            unfold logOf
            rw [found]
            rfl
          rw [log, Nat.add_comm]
          exact writes.fits.seq
        change Numbered id (exec (.swapSession id base (.log update)) g.state).2
        unfold Numbered
        rw [logOf_writes writes found, map_append, numbered, length_append,
          length_singleton, range'_concat]
        simp [seq]
      · refine stays ?_
        unfold logOf
        rw [sessionOf_swap_of_ne same]

def CountsChanges (id : Text) (h : History store) : Prop :=
  (sessionOf id h.state = none → h.log.countP (commits id) = 0)
    ∧ ∀ session, sessionOf id h.state = some session
      → session.sessionRevision = 1 + h.log.countP (commits id)

/-- The revision of a session counts its changes. Witness: a swap adds one exactly if it finds its
revision.
-/
theorem countsChanges_run (lives : Lives connections h) (id : Text) : CountsChanges id h := by
  refine lives.invariant (J := CountsChanges id) ?_ ?_
  · refine ⟨fun _ => rfl, fun session never => ?_⟩
    cases never
  · rintro g t cmd lives ⟨call, due⟩ ⟨absent, present⟩
    have stays (same : sessionOf id (exec cmd g.state).2 = sessionOf id g.state)
        (uncommitted : commits id ⟨t, cmd, g.state⟩ = false)
        : CountsChanges id (g.exec t cmd) := by
      refine ⟨fun now => ?_, fun session now => ?_⟩
      · rw [exec_log, countP_cons, uncommitted, absent (same ▸ now)]
        rfl
      · rw [exec_log, countP_cons, uncommitted, present session (same ▸ now)]
        rfl
    cases cmd with
    | insertTurn row => exact stays rfl rfl
    | insertPolicy row => exact stays rfl rfl
    | swapPolicy target revision update => exact stays rfl rfl
    | insertSession row =>
      have step : sessionOf id (exec (.insertSession row) g.state).2 = _ :=
        sessionOf_insertSession row g.state
      cases before : sessionOf id g.state with
      | some session =>
        refine stays ?_ rfl
        rw [step, before, some_or]
      | none =>
        rw [before, none_or] at step
        have zero : (g.exec t (.insertSession row)).log.countP (commits id) = 0 := by
          rw [exec_log, countP_cons, absent before]
          rfl
        refine ⟨fun _ => zero, fun session now => ?_⟩
        rw [zero]
        have here : sessionOf id (exec (.insertSession row) g.state).2 = some session := now
        rw [step] at here
        split at here
        · cases here
          exact due.2
        · cases here
    | swapSession target base change =>
      by_cases same : id = target
      · subst same
        have step : sessionOf id (exec (.swapSession id base change) g.state).2 = _ :=
          sessionOf_swapSession id base change g.state
        cases before : sessionOf id g.state with
        | none =>
          have unmatched
              : ¬ (sessions g.state).any (matchesRevision id base) = true := by
            intro hit
            obtain ⟨row, found, _⟩ := (any_matches_iff lives).mp hit
            rw [before] at found
            cases found
          refine stays ?_ ?_
          · rw [step, before, map_none]
          · simp only [commits, eq_false_of_ne_true unmatched, Bool.and_false]
        | some session =>
          have revision := present session before
          by_cases hit : session.sessionRevision = base
          · have any : (sessions g.state).any (matchesRevision id base) = true :=
              (any_matches_iff lives).mpr ⟨session, before, hit⟩
            have committed : commits id ⟨t, .swapSession id base change, g.state⟩ = true := by
              simp only [commits, any, beq_self_eq_true, Bool.and_true]
            refine ⟨fun now => ?_, fun session' now => ?_⟩
            · have gone : sessionOf id (exec (.swapSession id base change) g.state).2 = none := now
              rw [step, before] at gone
              cases gone
            · have here : sessionOf id (exec (.swapSession id base change) g.state).2
                  = some session' := now
              rw [step, before, map_some] at here
              cases here
              have named : session.conversationId = id := (mem_of_find before).2
              rw [swapped, if_pos (matchesRevision_iff.mpr ⟨named, hit⟩), exec_log,
                countP_cons, if_pos committed]
              simp only
              omega
          · have unmatched
                : ¬ (sessions g.state).any (matchesRevision id base) = true := by
              intro any
              obtain ⟨row, found, here⟩ := (any_matches_iff lives).mp any
              obtain rfl : session = row := some.inj (before.symm.trans found)
              exact hit here
            refine stays ?_ ?_
            · rw [step, before, map_some, swapped, if_neg]
              exact fun here => hit (matchesRevision_iff.mp here).2
            · simp only [commits, eq_false_of_ne_true unmatched, Bool.and_false]
      · refine stays (sessionOf_swap_of_ne same base change g.state) ?_
        simp only [commits, beq_eq_false_iff_ne.mpr (Ne.symm same), Bool.false_and]

def Placed (h : History store) : Prop :=
  ∀ turn ∈ Database.turns h.state,
    (∃ t, (t, turn) ∈ turnWork.unsettled h.log)
      ∨ ∃ issued ∈ h.log, ∃ session, CommitsTurn session turn issued

/-- A turn of an insertion is new or was there before. -/
theorem mem_turns_insert {row turn : TurnRow} {db : Database}
    (mem : turn ∈ (exec (.insertTurn row) db).2.turns)
    : turn ∈ db.turns ∨ turn = row ∧ (insertTurn db.sessions db.turns row).1 = true := by
  change turn ∈ (insertTurn db.sessions db.turns row).2 at mem
  unfold insertTurn at mem ⊢
  split at mem
  · exact .inl mem
  · rename_i free
    rcases mem_append.mp mem with old | new
    · exact .inl old
    · exact .inr ⟨mem_singleton.mp new, by rw [if_neg free]⟩

theorem mem_own_unsettled {turn : TurnRow} (mem : (t, turn) ∈ turnWork.unsettled h.log)
    : (t, turn) ∈ turnWork.unsettled (h.own t) := by
  unfold History.own
  rw [← unsettled_own]
  exact mem_filter.mpr ⟨mem, beq_self_eq_true t⟩

theorem placed_run (lives : Lives connections h) (unraced : h.Respects Unraced) : Placed h := by
  have initial : Placed ⟨initial connections, []⟩ :=
    forall_mem_nil _
  refine Kept.run (J := Placed) lives unraced initial ?_
  rintro g t cmd lives _ ⟨call, due⟩ finds placed
  have stays (turns : (exec cmd g.state).2.turns = turns g.state)
      (logs : writesLog cmd = false)
      (begun : insertedTurn (⟨t, cmd, g.state⟩ : Issued store) = none)
      : Placed (g.exec t cmd) := by
    intro turn mem
    have old : turn ∈ Database.turns g.state := turns ▸ mem
    rcases placed turn old with ⟨u, pending⟩ | ⟨issued, noted, session, commits⟩
    · refine .inl ⟨u, ?_⟩
      rw [exec_log, unsettled_cons, after_of_neither logs begun]
      exact pending
    · exact .inr ⟨issued, .tail _ noted, session, commits⟩
  cases cmd with
  | insertSession row => exact stays rfl rfl rfl
  | insertPolicy row => exact stays rfl rfl rfl
  | swapPolicy target revision update => exact stays rfl rfl rfl
  | insertTurn row =>
    intro turn mem
    rcases mem_turns_insert mem with old | ⟨rfl, put⟩
    · rcases placed turn old with ⟨u, pending⟩ | ⟨issued, noted, session, commits⟩
      · refine .inl ⟨u, ?_⟩
        rw [exec_log, unsettled_cons]
        exact mem_append_right _ pending
      · exact .inr ⟨issued, .tail _ noted, session, commits⟩
    · refine .inl ⟨t, ?_⟩
      have begun : insertedTurn (⟨t, .insertTurn turn, g.state⟩ : Issued store) = some turn :=
        if_pos put
      rw [exec_log, unsettled_cons, after_of_begun rfl begun]
      exact .head _
  | swapSession target base change =>
    cases change with
    | fields update => exact stays rfl rfl rfl
    | log update =>
      obtain ⟨session, put, writes⟩ := due
      intro turn mem
      rcases placed turn mem with ⟨u, pending⟩ | ⟨issued, noted, session, commits⟩
      · by_cases own : u = t
        · subst own
          have here := mem_own_unsettled pending
          rw [writes.begun] at here
          obtain ⟨-, rfl⟩ := Prod.mk.inj (mem_singleton.mp here)
          refine .inr ⟨_, .head _, session, ?_, ?_, writes.fits⟩
          · have target' : target = session.conversationId :=
              writes.target.trans writes.fits.conversation
            rw [target', writes.base, writes.update]
          · rw [← writes.fits.conversation, ← writes.target]
            exact writes.current lives finds
        · refine .inl ⟨u, ?_⟩
          rw [exec_log, unsettled_cons, after_of_settles rfl]
          exact mem_filter.mpr ⟨pending, bne_iff_ne.mpr own⟩
      · exact .inr ⟨issued, .tail _ noted, session, commits⟩

/-- A schedule of calls from the beginning, and where it ends. -/
abbrev after (localeLe : Text → Text → Bool) (connections : List ConnectionRow)
    (schedule : List (Action store Call))
    : Config store Call Text Answer :=
  (Config.init (M := store) (Database.initial connections)).run (body localeLe) schedule

/-- The next step of the thread is no swap of a log that misses its revision. -/
def careful (config : Config store Call Text Answer) (t : Nat) : Bool :=
  (config.pending t).all (finds config.state)

/-- Every step of the schedule is careful. -/
abbrev Careful (localeLe : Text → Text → Bool) (connections : List ConnectionRow)
    (schedule : List (Action store Call))
    : Prop :=
  (Config.init (M := store) (Database.initial connections)).Admitted (body localeLe)
    (fun config t => careful config t = true) schedule

theorem sound_after (localeLe : Text → Text → Bool) (connections : List ConnectionRow)
    (acts : List (Action store Call))
    : (agreement connections).Sound (Concluded connections) (after localeLe connections acts) :=
  (agreement connections).sound
    (fun _ call _ lives fresh => owes_body localeLe call lives fresh) .nil acts

theorem unraced_of_careful {localeLe : Text → Text → Bool} {acts : List (Action store Call)}
    (admitted : Careful localeLe connections acts)
    : (after localeLe connections acts).history.Respects Unraced := by
  refine (agreement connections).admitted_run (J := History.Respects (M := store) Unraced)
    (fun _ call _ lives fresh => owes_body localeLe call lives fresh) .nil trivial
    (fun _ _ pending _ careful holds => ⟨?_, holds⟩) (fun event => isEmptyElim event) admitted
  unfold Conversation.careful at careful
  rw [pending] at careful
  exact careful

/-- A thread that has answered has left no turn unsettled. -/
theorem settled_of_quiet (sound : (agreement connections).Sound (Concluded connections) config)
    (quiet : config.Quiet)
    : turnWork.unsettled config.history.log = [] := by
  refine unsettled_eq_nil (fun t => ?_)
  cases found : config.threads[t]? with
  | some thread =>
    obtain ⟨answer, said⟩ := quiet.answered found
    exact (sound.post_of_answer found said).spent.settled
  | none =>
    have none : config.history.own t = [] := by
      rw [eq_nil_iff_forall_not_mem]
      intro issued mem
      obtain ⟨noted, rfl⟩ := mem_own.mp mem
      have bound := sound.logged issued noted
      have beyond := List.getElem?_eq_none_iff.mp found
      omega
    rw [none]
    rfl

/-- The call has changed the session of the conversation, by what it has answered. -/
def hasCommitted (id : Text) (thread : Thread store Call Text Answer) : Bool :=
  thread.answer.any (fun answer => committedBy thread.call answer == some id)

/-- Every thread that has answered has changed the session once if its answer says so. -/
theorem count_of_quiet (sound : (agreement connections).Sound (Concluded connections) config)
    (quiet : config.Quiet) (id : Text)
    : config.history.log.countP (commits id) = config.threads.countP (hasCommitted id) := by
  refine countP_log_eq sound.logged (fun t thread found => ?_)
  obtain ⟨answer, said⟩ := quiet.answered found
  have count := (sound.post_of_answer found said).spent.count id
  unfold History.own at count
  rw [count, hasCommitted, said, any_some]
  by_cases same : committedBy thread.call answer = some id
  · simp [same]
  · simp [same]

/-- The turns of a conversation agree with the log of its session. -/
structure Agrees (config : Config store Call Text Answer) (id : Text) (session : SessionRow)
    : Prop where
  turns : (stubsOf id config.state.turns).Perm session.messageLog
  seqs : session.messageLog.map TurnStub.seq = List.range' 1 session.messageLog.length
  revision : session.sessionRevision = 1 + config.threads.countP (hasCommitted id)
  refused
    : ∀ t thread answer, config.threads[t]? = some thread → thread.answer = some answer
      → isRefused answer = true → ∀ issued ∈ config.history.own t, Idle issued
  members
    : ∀ turn ∈ config.state.turns, turn.conversationId = id
      → ∃ issued ∈ config.history.log, ∃ found, CommitsTurn found turn issued

namespace Sample

def collate (a b : Text) : Bool :=
  a ≤ b

def actor : Value :=
  .string (text "user:ann")

def create (id : String) : Call :=
  .create
    { conversationId := .string (text id)
      createdBy := actor, status := .undefined, attachmentSet := .undefined
      activeScope := .undefined, selectedActors := .undefined, selectedRepo := .undefined
      selectedChain := .undefined, codeSessionId := .undefined, lastResponseIds := .undefined
      routingEnvelope := .undefined, toolReceipts := .undefined, intentMode := .undefined
      accessGrantIds := .undefined, taskRunIds := .undefined, workspaceId := .undefined
      messageLog := .undefined
      now := text "now" }

/-- The args of a turn that nothing but its names is known of. -/
def turn (id name : String) : AppendArguments where
  conversationId := .string (text id)
  actorId := actor
  turnId := .string (text ("turn:" ++ name))
  messageId := .string (text ("cmsg:" ++ name))
  role := .string (text "user")
  turnType := .undefined
  contentRef := .undefined
  contentPreview := .undefined
  responseIds := .undefined
  contextPackId := .undefined
  toolReceiptRefs := .undefined
  attachmentRefs := .undefined
  accessGrantIds := .undefined
  objectRefs := .undefined
  taskRunIds := .undefined
  routingEnvelope := .undefined
  intentMode := .undefined
  now := text "now"

def append (id name : String) : Call :=
  .append (turn id name) (TaskRuns.countValue 1)

/-- A number of steps of one thread. -/
def steps (count thread : Nat) : List (Action store Call) :=
  List.replicate count (.step thread)

/-- A conversation with one turn. -/
def orderly : List (Action store Call) :=
  .spawn (create "cvs:one") :: steps 2 0 ++ .spawn (append "cvs:one" "a") :: steps 4 1

/-- Two appends that have both read the new session. -/
def crossing : List (Action store Call) :=
  .spawn (create "cvs:one") :: steps 2 0
    ++ .spawn (append "cvs:one" "a") :: .spawn (append "cvs:one" "b") :: steps 1 1 ++ steps 4 2
    ++ steps 3 1

end Sample

open Sample

/-- In a run in which every swap of a log finds its revision, turns and log agree whenever no call is
in progress. Witness: nothing is pending then, and each thread's part of the log tells what it did.
-/
theorem agrees_of_careful (localeLe : Text → Text → Bool) (connections : List ConnectionRow)
    (schedule : List (Action store Call)) (admitted : Careful localeLe connections schedule)
    (quiet : (after localeLe connections schedule).Quiet) (id : Text) (session : SessionRow)
    (found : sessionOf id (after localeLe connections schedule).state = some session)
    : Agrees (after localeLe connections schedule) id session := by
  have sound := sound_after localeLe connections schedule
  have unraced := unraced_of_careful admitted
  have settled := settled_of_quiet sound quiet
  have log : logOf id (after localeLe connections schedule).state = session.messageLog := by
    unfold logOf
    rw [found]
    rfl
  refine ⟨?_, ?_, ?_, ?_, ?_⟩
  · have matched := matched_run sound.inv unraced id
    have none : pendingStubs id (after localeLe connections schedule).history.log = [] := by
      unfold pendingStubs
      rw [settled]
      rfl
    unfold Matched at matched
    rw [none, append_nil] at matched
    exact log ▸ matched
  · have numbered := numbered_run sound.inv unraced id
    unfold Numbered at numbered
    rw [← log]
    exact numbered
  · rw [← count_of_quiet sound quiet id]
    exact (countsChanges_run sound.inv id).2 session found
  · intro t thread answer at_t answered refused issued member
    have spent := (sound.post_of_answer at_t answered).spent
    rcases spent.idle refused issued member with idle | ⟨other, own, missed⟩
    · exact idle
    · obtain ⟨logged, -⟩ := mem_own.mp own
      obtain ⟨later, earlier, split⟩ := append_of_mem logged
      have respects := unraced.earlier (h := ⟨other.before, other :: earlier⟩)
        ⟨later, split.symm⟩
      exact absurd respects.1 (ne_true_of_eq_false missed)
  · intro turn member _
    rcases placed_run sound.inv unraced turn member with ⟨t, pending⟩ | committed
    · rw [settled] at pending
      cases pending
    · exact committed

/-- A conversation with one turn. -/
theorem agrees_orderly
    : ∃ session,
        sessionOf (text "cvs:one") (after Sample.collate [] Sample.orderly).state = some session
        ∧ Agrees (after Sample.collate [] Sample.orderly) (text "cvs:one") session := by
  have there
      : (sessionOf (text "cvs:one") (after collate [] orderly).state).isSome = true := by
    decide +kernel
  obtain ⟨session, found⟩ := isSome_iff_exists.mp there
  exact ⟨session, found,
    agrees_of_careful _ _ _ (by decide +kernel) (by decide +kernel) _ _ found⟩

/-- The turn of an append that has lost its race stays in the table, and no log shows it. -/
theorem turnsCanOutgrowTheirLog
    : ¬ ∀ (localeLe : Text → Text → Bool) (connections : List ConnectionRow)
        (schedule : List (Action store Call)) (id : Text) (session : SessionRow),
        (after localeLe connections schedule).Quiet
          → sessionOf id (after localeLe connections schedule).state = some session
          → Agrees (after localeLe connections schedule) id session := by
  intro all
  have there
      : (sessionOf (text "cvs:one") (after collate [] crossing).state).isSome = true := by
    decide +kernel
  obtain ⟨session, found⟩ := isSome_iff_exists.mp there
  have quiet : (after collate [] crossing).Quiet := by
    decide +kernel
  have differ
      : (stubsOf (text "cvs:one") (after collate [] crossing).state.turns).length
        ≠ (logOf (text "cvs:one") (after collate [] crossing).state).length := by
    decide +kernel
  have same
      : logOf (text "cvs:one") (after collate [] crossing).state
        = session.messageLog := by
    unfold logOf
    rw [found]
    rfl
  have agrees := all _ _ crossing _ session quiet found
  rw [same] at differ
  exact differ agrees.turns.length_eq

end CairnStone.Conversation
