import CairnStone.CodeSession.SessionPromises

/-! Each call on a session keeps its promises, and its answer tells what it has appended and changed. -/

namespace CairnStone.CodeSession

open JavaScript Data Concurrency Protocol List Database History Meets Settlement
open TaskRuns (Refusal ok_of_refuseThrown)

variable {row : Appended} {args : TaskArguments} {target : TaskTarget}

def commits (id : Text) (issued : Issued store) : Bool :=
  match issued.command with
  | .swapSession target base _ =>
    target == id && (Database.sessions issued.before).any (matchesRevision target base)
  | _ => false

def misses (issued : Issued store) : Bool :=
  !finds issued.before issued.command

structure Idle (issued : Issued store) : Prop where
  appended : appendedRow issued = none
  swaps : Command.isSwap issued.command = false

def SessionCall.sessionId : SessionCall → Option Text
  | .checkpoint args => (codeSessionId args.codeSessionId).toOption
  | .task args => (codeSessionId args.codeSessionId).toOption
  | .lifecycle args => (codeSessionId args.codeSessionId).toOption

def committedBy (call : SessionCall) (answer : SessionAnswer) : Option Text :=
  if answer.isOk then call.sessionId else none

def SessionAnswer.appended : SessionAnswer → Option Appended
  | .checkpointed record _ => record.map .checkpoint
  | .transitioned transition _ => some (.event transition.event)
  | _ => none

structure Ended (t : Nat) (call : SessionCall) (answer : SessionAnswer) (h : History store) : Prop where
  settled : appendWork.unsettled (h.own t) = []
  appended
    : (h.own t).filterMap appendedRow = answer.appended.toList
      ∨ ∃ issued ∈ h.own t, misses issued = true
  count : ∀ id, (h.own t).countP (commits id) = if committedBy call answer = some id then 1 else 0

def HasEnded (t : Nat) (call : SessionCall) (_ : Database) (answer : Except Text SessionAnswer)
    (h : History store)
    : Prop :=
  ∃ result, answer = .ok result ∧ Ended t call result h

/-- The thread has neither appended nor swapped. -/
abbrev Unbegun (t : Nat) (h : History store) : Prop :=
  ∀ issued ∈ h.own t, Idle issued

section

variable {log : List (Issued store)} {id : Text} {issued : Issued store}

theorem not_commits_of_idle (idle : Idle issued) (id : Text) : commits id issued = false := by
  obtain ⟨thread, cmd, before⟩ := issued
  cases cmd with
  | swapSession target base change => cases idle.swaps
  | _ => rfl

theorem not_follows_of_idle (idle : Idle issued) : followsAppend issued = false := by
  obtain ⟨thread, cmd, before⟩ := issued
  cases cmd with
  | swapSession target base change => cases idle.swaps
  | _ => rfl

theorem unsettled_of_idle (idle : ∀ issued ∈ log, Idle issued) : appendWork.unsettled log = [] := by
  induction log with
  | nil => rfl
  | cons issued prior ih =>
    have first := idle issued (.head _)
    rw [unsettled_cons,
      after_of_neither (not_follows_of_idle first) first.appended]
    exact ih (fun issued mem => idle issued (.tail _ mem))

theorem appends_of_idle (idle : ∀ issued ∈ log, Idle issued) : log.filterMap appendedRow = [] :=
  filterMap_eq_nil_iff.mpr (fun issued mem => (idle issued mem).appended)

theorem commits_of_idle (idle : ∀ issued ∈ log, Idle issued) (id : Text)
    : log.countP (commits id) = 0 :=
  countP_eq_zero.mpr (fun issued mem =>
    ne_true_of_eq_false (not_commits_of_idle (idle issued mem) id))

end

variable {start : Database} {h h' : History store} {t : Nat} {call : SessionCall} {origin : Database}

theorem Unbegun.exec {cmd : Command} (unbegun : Unbegun t h)
    (idle : Idle (⟨t, cmd, h.state⟩ : Issued store))
    : Unbegun t (h.exec t cmd) := by
  intro issued mem
  rw [own_exec_self] at mem
  rcases mem_cons.mp mem with rfl | old
  · exact idle
  · exact unbegun issued old

theorem Unbegun.after (unbegun : Unbegun t h) (moved : (sessionAgreement start).Interference t h h')
    : Unbegun t h' := by
  intro issued mem
  rw [moved.own] at mem
  exact unbegun issued mem

/-- A refusal of a call that has neither appended nor swapped. -/
theorem Ended.of_unbegun {why : Refusal} (unbegun : Unbegun t h)
    : Ended t call (.refused why) h := by
  refine ⟨unsettled_of_idle unbegun, .inl (appends_of_idle unbegun), fun id => ?_⟩
  rw [commits_of_idle unbegun]
  rfl

theorem meets_refused {why : Refusal} (unbegun : Unbegun t h)
    : (sessionAgreement start).Meets t call (.done (.refused why)) (HasEnded t call origin) h :=
  Meets.done (fun _ moved => ⟨_, rfl, .of_unbegun (unbegun.after moved)⟩)

structure Begun (t : Nat) (row : Appended) (h : History store) : Prop where
  issued
    : ∃ issued earlier, h.own t = issued :: earlier ∧ appendedRow issued = some row
        ∧ Command.isSwap issued.command = false ∧ ∀ old ∈ earlier, Idle old

theorem Begun.after (begun : Begun t row h)
    (moved : (sessionAgreement start).Interference t h h')
    : Begun t row h' := by
  obtain ⟨issued, prior, own, rest⟩ := begun.issued
  exact ⟨issued, prior, moved.own.trans own, rest⟩

theorem Begun.unsettled (begun : Begun t row h)
    : appendWork.unsettled (h.own t) = [(t, row)] := by
  obtain ⟨issued, prior, own, appended, swaps, idle⟩ := begun.issued
  have mine : issued.thread = t := (mem_own.mp (own ▸ mem_cons_self)).2
  have apart : followsAppend issued = false := by
    refine eq_false_of_ne_true (fun follows => ?_)
    cases (appendedRow_of_follows issued follows).symm.trans appended
  rw [own, unsettled_cons, after_of_begun apart appended, unsettled_of_idle idle,
    mine]

theorem Begun.count (begun : Begun t row h) (id : Text)
    : (h.own t).countP (commits id) = 0 := by
  obtain ⟨issued, prior, own, appended, swaps, idle⟩ := begun.issued
  have first : commits id issued = false := by
    obtain ⟨thread, cmd, before⟩ := issued
    cases cmd with
    | swapSession target base change => cases swaps
    | _ => rfl
  rw [own, countP_cons_of_neg (ne_true_of_eq_false first), commits_of_idle idle]

theorem Begun.appends (begun : Begun t row h)
    : (h.own t).filterMap appendedRow = [row] := by
  obtain ⟨issued, prior, own, appended, swaps, idle⟩ := begun.issued
  rw [own, filterMap_cons_some appended, appends_of_idle idle]

theorem Begun.swapped {target : Text} {base : Nat} {change : SessionChange}
    {answer : SessionAnswer} (begun : Begun t row h) (follows : change.follows = true)
    (appended
      : answer.appended = some row
        ∨ (sessions h.state).any (matchesRevision target base) = false)
    (count
      : committedBy call answer
        = if (sessions h.state).any (matchesRevision target base) then some target else none)
    : Ended t call answer (h.exec t (.swapSession target base change)) := by
  let issued : Issued store := ⟨t, .swapSession target base change, h.state⟩
  have own : (h.exec t (.swapSession target base change)).own t = issued :: h.own t :=
    own_exec_self h t _
  have settles : followsAppend issued = true := follows
  refine ⟨?_, ?_, fun id => ?_⟩
  · rw [own, unsettled_cons, after_of_settles settles, begun.unsettled]
    simp [issued]
  · rcases appended with reported | missed
    · refine .inl ?_
      rw [own, filterMap_cons_none (appendedRow_of_follows issued settles), begun.appends, reported]
      rfl
    · refine .inr ⟨issued, own ▸ (.head _), ?_⟩
      simp only [misses, finds, issued, follows, missed, Bool.not_true, Bool.or_self, Bool.not_false]
  · rw [own, countP_cons, begun.count, count]
    change 0 + (if (target == id && (sessions h.state).any (matchesRevision target base)) = true
      then 1 else 0) = _
    cases (sessions h.state).any (matchesRevision target base) with
    | false => simp
    | true =>
      by_cases same : target = id
      · simp [same]
      · simp [same, beq_eq_false_iff_ne.mpr same]

theorem Ended.later {answer : SessionAnswer} (ended : Ended t call answer h)
    (moved : (sessionAgreement start).Interference t h h')
    : Ended t call answer h' :=
  ⟨moved.own ▸ ended.settled, moved.own ▸ ended.appended, fun id => moved.own ▸ ended.count id⟩

theorem sessionOf_later {id : Text} {session : SessionRow} (lives : SessionLives start h)
    (after : (sessionAgreement start).After h h') (found : sessionOf id h.state = some session)
    : ∃ later, sessionOf id h'.state = some later := by
  obtain ⟨later, present, _⟩ := (versioned_sessions id).later lives after.inv after.le found
  exact ⟨later, present⟩

theorem sessionOf_swapped {id : Text} {base : Nat} (change : SessionChange)
    (hit : (sessions h.state).any (matchesRevision id base) = true)
    : ∃ session, sessionOf id (exec (.swapSession id base change) h.state).2 = some session := by
  rw [sessionOf_swapSession]
  cases found : sessionOf id h.state with
  | some session => exact ⟨_, rfl⟩
  | none =>
    obtain ⟨row, mem, here⟩ := any_eq_true.mp hit
    have absent := find?_eq_none.mp found row mem
    exact absurd (beq_iff_eq.mpr (matchesRevision_iff.mp here).1) absent

theorem findCheckpoint_later {id : Text} {row : CheckpointRow} (lives : SessionLives start h)
    (after : (sessionAgreement start).After h h')
    (found : (checkpoints h.state).find? (·.checkpointId == id) = some row)
    : (checkpoints h'.state).find? (·.checkpointId == id) = some row := by
  refine Kept.state_grow
    (R := fun db => (checkpoints db).find? (·.checkpointId == id) = some row)
    lives after.inv after.le found (fun db cmd present => ?_)
  cases cmd with
  | insertCheckpoint added =>
    change (insertCheckpoint (checkpoints db) added).2.find? _ = some row
    unfold insertCheckpoint
    cases (checkpoints db).find? (·.checkpointId == added.checkpointId) with
    | some old => exact present
    | none => rw [find?_append, present, Option.some_or]
  | _ => exact present

/-- An insertion that succeeds adds its row, which is found from then on. -/
theorem insertCheckpoint_eq_true {checkpoints : List CheckpointRow} {row : CheckpointRow}
    (put : (insertCheckpoint checkpoints row).1 = true)
    : (insertCheckpoint checkpoints row).2 = checkpoints ++ [row]
      ∧ (checkpoints ++ [row]).find? (·.checkpointId == row.checkpointId) = some row := by
  unfold insertCheckpoint at put ⊢
  cases found : checkpoints.find? (·.checkpointId == row.checkpointId) with
  | some old =>
    rw [found] at put
    cases put
  | none =>
    refine ⟨rfl, ?_⟩
    rw [find?_append, found, Option.none_or]
    simp

theorem Begun.of_appended {cmd : Command} (unbegun : Unbegun t h)
    (appended : appendedRow (⟨t, cmd, h.state⟩ : Issued store) = some row)
    (swaps : cmd.isSwap = false)
    : Begun t row (h.exec t cmd) :=
  ⟨⟨t, cmd, h.state⟩, h.own t, own_exec_self h t cmd, appended, swaps, unbegun⟩

structure Appends (start : Database) (call : SessionCall) (session : SessionRow) (base : Nat)
    (h : History store)
    : Prop where
  found : WasThere start session h
  base : base = session.sessionRevision
  asked : call.sessionId = some session.codeSessionId

theorem Appends.later {session : SessionRow} {base : Nat} (appends : Appends start call session base h)
    (le : h.log <:+ h'.log)
    : Appends start call session base h' :=
  ⟨appends.found.later le, appends.base, appends.asked⟩

section

variable {session : SessionRow} {base : Nat} {localeLe : Text → Text → Bool}
  {Q : Except Text SessionAnswer → History store → Prop} {args : CheckpointArguments}
  {target : CheckpointTarget}

theorem meets_appendCheckpoint {row : CheckpointRow} (unbegun : Unbegun t h)
    (appends : Appends start call session base h) (same : row.codeSessionId = session.codeSessionId)
    : (sessionAgreement start).Meets t call (appendCheckpoint localeLe row session base)
        (HasEnded t call origin) h := by
  refine perform_bind (fun h1 moved => ?_)
  have unbegun1 := unbegun.after moved
  refine ⟨unsettled_of_idle unbegun1, ?_⟩
  cases put : (insertCheckpoint (checkpoints h1.state) row).1 with
  | false =>
    have idle : Idle (⟨t, .insertCheckpoint row, h1.state⟩ : Issued store) :=
      ⟨if_neg (ne_true_of_eq_false put), rfl⟩
    have reply : (exec (.insertCheckpoint row) h1.state).1 = false := put
    simp only [reply]
    exact meets_refused (unbegun1.exec idle)
  | true =>
    have begun : Begun t (.checkpoint row) (h1.exec t (.insertCheckpoint row)) :=
      .of_appended unbegun1 (if_pos put) rfl
    have reply : (exec (.insertCheckpoint row) h1.state).1 = true := put
    obtain ⟨added, found⟩ := insertCheckpoint_eq_true put
    have there
        : (checkpoints (h1.exec t (.insertCheckpoint row)).state).find?
            (·.checkpointId == row.checkpointId) = some row := by
      change (insertCheckpoint (checkpoints h1.state) row).2.find? _ = some row
      rw [added]
      exact found
    simp only [reply, if_true]
    refine perform_bind (fun h2 moved2 => ?_)
    have begun2 := begun.after moved2
    have due : (sessionAgreement start).pre t call (.insertCheckpoint row) h1 :=
      unsettled_of_idle unbegun1
    have lives1 := (sessionAgreement start).exec_inv moved.inv due
    have le : h.log <:+ h2.log := (moved.le.trans (suffix_cons _ _)).trans moved2.le
    have appends2 := appends.later le
    let change := checkpointChange localeLe row session
    have swaps : Swaps start t row.codeSessionId base change session h2 :=
      ⟨appends2.found, same, appends2.base, (.checkpoint row), begun2.unsettled, same⟩
    have promise : (sessionAgreement start).pre t call (.swapSession row.codeSessionId base change) h2 :=
      ⟨session, swaps⟩
    refine ⟨promise, ?_⟩
    have lives3 := (sessionAgreement start).exec_inv moved2.inv promise
    cases hit : (sessions h2.state).any (matchesRevision row.codeSessionId base) with
    | false =>
      have reply2 : (exec (.swapSession row.codeSessionId base change) h2.state).1 = false := hit
      simp only [change] at reply2
      simp only [reply2]
      refine select_bind (M := store) (fun h4 moved4 => ?_)
      refine Meets.done (fun h5 moved5 => ⟨_, rfl, ?_⟩)
      refine Ended.later (begun2.swapped rfl (.inr hit) ?_) (moved4.trans moved5)
      rw [hit]
      rfl
    | true =>
      have reply2 : (exec (.swapSession row.codeSessionId base change) h2.state).1 = true := hit
      simp only [change] at reply2
      simp only [reply2, if_true]
      refine select_bind (M := store) (fun h4 moved4 => ?_)
      refine select_bind (M := store) (fun h5 moved5 => ?_)
      have read : (checkpoints h4.state).find? (·.checkpointId == row.checkpointId)
          = some row :=
        findCheckpoint_later lives1 ((moved2.toAfter.exec call promise).trans moved4.toAfter) there
      obtain ⟨current, now⟩ := sessionOf_swapped change hit
      obtain ⟨later, now⟩ := sessionOf_later lives3 (moved4.trans moved5).toAfter now
      have present : findSession (sessions h5.state) row.codeSessionId = some later := now
      simp only [read, present]
      refine Meets.done (fun h6 moved6 => ⟨_, rfl, ?_⟩)
      refine Ended.later (begun2.swapped rfl (.inl rfl) ?_)
        ((moved4.trans moved5).trans moved6)
      rw [hit, if_pos rfl, same]
      exact appends.asked

theorem meets_appendEvent {event : TaskEventRow} {entry : TaskEntry} (unbegun : Unbegun t h)
    (appends : Appends start call session base h)
    (follows : FollowsLedger session event (putTask session.taskLedger entry))
    : (sessionAgreement start).Meets t call (appendEvent localeLe event entry session base)
        (HasEnded t call origin) h := by
  refine perform_bind (fun h1 moved => ?_)
  have unbegun1 := unbegun.after moved
  refine ⟨unsettled_of_idle unbegun1, ?_⟩
  cases put : (insertEvent (events h1.state) event).1 with
  | false =>
    have idle : Idle (⟨t, .insertEvent event, h1.state⟩ : Issued store) :=
      ⟨if_neg (ne_true_of_eq_false put), rfl⟩
    have reply : (exec (.insertEvent event) h1.state).1 = false := put
    simp only [reply]
    exact meets_refused (unbegun1.exec idle)
  | true =>
    have begun : Begun t (.event event) (h1.exec t (.insertEvent event)) :=
      .of_appended unbegun1 (if_pos put) rfl
    have reply : (exec (.insertEvent event) h1.state).1 = true := put
    simp only [reply, if_true]
    refine perform_bind (fun h2 moved2 => ?_)
    have begun2 := begun.after moved2
    have le : h.log <:+ h2.log := (moved.le.trans (suffix_cons _ _)).trans moved2.le
    have appends2 := appends.later le
    let change := taskChange localeLe entry session event.actorId event.createdAt
    have swaps : Swaps start t event.codeSessionId base change session h2 :=
      ⟨appends2.found, follows.sameSession, appends2.base, (.event event), begun2.unsettled, follows⟩
    have promise
        : (sessionAgreement start).pre t call (.swapSession event.codeSessionId base change) h2 :=
      ⟨session, swaps⟩
    refine ⟨promise, ?_⟩
    have lives3 := (sessionAgreement start).exec_inv moved2.inv promise
    cases hit : (sessions h2.state).any (matchesRevision event.codeSessionId base) with
    | false =>
      have reply2 : (exec (.swapSession event.codeSessionId base change) h2.state).1 = false := hit
      simp only [change] at reply2
      simp only [reply2]
      refine select_bind (M := store) (fun h4 moved4 => ?_)
      refine Meets.done (fun h5 moved5 => ⟨_, rfl, ?_⟩)
      refine Ended.later (begun2.swapped rfl (.inr hit) ?_) (moved4.trans moved5)
      rw [hit]
      rfl
    | true =>
      have reply2 : (exec (.swapSession event.codeSessionId base change) h2.state).1 = true := hit
      simp only [change] at reply2
      simp only [reply2, if_true]
      refine select_bind (M := store) (fun h4 moved4 => ?_)
      obtain ⟨current, now⟩ := sessionOf_swapped change hit
      obtain ⟨later, now⟩ := sessionOf_later lives3 moved4.toAfter now
      have present : findSession (sessions h4.state) event.codeSessionId = some later := now
      simp only [present]
      refine Meets.done (fun h5 moved5 => ⟨_, rfl, ?_⟩)
      refine Ended.later (begun2.swapped rfl (.inl rfl) ?_) (moved4.trans moved5)
      rw [hit, if_pos rfl, follows.sameSession]
      exact appends.asked

theorem meets_swapLifecycle {args : LifecycleArguments} {target : LifecycleTarget}
    (unbegun : Unbegun t h) (appends : Appends start call session target.base h)
    (same : target.sessionId = session.codeSessionId)
    : (sessionAgreement start).Meets t call (swapLifecycle localeLe args target session)
        (HasEnded t call origin) h := by
  refine perform_bind (fun h1 moved => ?_)
  have unbegun1 := unbegun.after moved
  have appends1 := appends.later moved.le
  let change : SessionChange :=
    .lifecycle target.lifecycle (seenAt localeLe session target.actor) args.now
  let issued : Issued store := ⟨t, .swapSession target.sessionId target.base change, h1.state⟩
  have swaps : Swaps start t target.sessionId target.base change session h1 :=
    ⟨appends1.found, same, appends1.base, unsettled_of_idle unbegun1⟩
  refine ⟨⟨session, swaps⟩, ?_⟩
  have own : (h1.exec t (.swapSession target.sessionId target.base change)).own t
      = issued :: h1.own t :=
    own_exec_self h1 t _
  have ended {answer : SessionAnswer} (none : answer.appended = none)
      (count
        : committedBy call answer
          = if (sessions h1.state).any (matchesRevision target.sessionId target.base) then
              some target.sessionId
            else Option.none)
      : Ended t call answer (h1.exec t (.swapSession target.sessionId target.base change)) := by
    refine ⟨?_, .inl ?_, fun id => ?_⟩
    · rw [own, unsettled_cons, after_of_neither rfl rfl]
      exact unsettled_of_idle unbegun1
    · rw [own, none, filterMap_cons_none rfl]
      exact appends_of_idle unbegun1
    · rw [own, countP_cons, commits_of_idle unbegun1, count]
      change 0 + (if (target.sessionId == id
        && (sessions h1.state).any (matchesRevision target.sessionId target.base)) = true
        then 1 else 0) = _
      cases (sessions h1.state).any (matchesRevision target.sessionId target.base) with
      | false => simp
      | true =>
        by_cases here : target.sessionId = id
        · simp [here]
        · simp [here, beq_eq_false_iff_ne.mpr here]
  cases hit : (sessions h1.state).any (matchesRevision target.sessionId target.base) with
  | false =>
    have reply : (exec (.swapSession target.sessionId target.base change) h1.state).1 = false := hit
    simp only [change] at reply
    simp only [reply]
    refine select_bind (M := store) (fun h2 moved2 => ?_)
    refine Meets.done (fun h3 moved3 => ⟨_, rfl, ?_⟩)
    refine Ended.later (ended rfl ?_) (moved2.trans moved3)
    rw [hit]
    rfl
  | true =>
    have reply : (exec (.swapSession target.sessionId target.base change) h1.state).1 = true := hit
    simp only [change] at reply
    simp only [reply, if_true]
    refine select_bind (M := store) (fun h2 moved2 => ?_)
    refine Meets.done (fun h3 moved3 => ⟨_, rfl, ?_⟩)
    refine Ended.later (ended rfl ?_) (moved2.trans moved3)
    rw [hit, if_pos rfl, same]
    exact appends.asked

variable {sha256Text : Text → Digest} {toISOString : Nat → Text}

/-- Reading the tips fails no call and changes nothing. -/
theorem meets_refresh_bind {workspaceId : Text}
    {g : Except Refusal (List Workspace.TipEntry × Text) → Operation SessionAnswer}
    (rest
      : ∀ tips h', (sessionAgreement start).Interference t h h'
        → (sessionAgreement start).Meets t call (g tips) Q h')
    : (sessionAgreement start).Meets t call
        ((refreshWorkspaceTipState sha256Text localeLe workspaceId).bind g) Q h := by
  refine bind ?_
  refine select_bind (M := store) (fun h1 moved => ?_)
  refine select_bind (M := store) (fun h2 moved2 => ?_)
  split
  · exact .done (fun h3 moved3 => rest _ h3 ((moved.trans moved2).trans moved3))
  · exact .done (fun h3 moved3 => rest _ h3 ((moved.trans moved2).trans moved3))

/-- Listing leases may expire some, and appends nothing. -/
theorem meets_stubs_bind {g : Value × Value → Operation SessionAnswer} (unbegun : Unbegun t h)
    (rest
      : ∀ stubs h', (sessionAgreement start).After h h' → Unbegun t h'
        → (sessionAgreement start).Meets t call (g stubs) Q h')
    : (sessionAgreement start).Meets t call
        ((leaseStubsFor toISOString args target).bind g) Q h := by
  refine bind ?_
  unfold leaseStubsFor
  simp only
  split
  · refine bind (bind ?_)
    refine perform_bind (fun h1 moved => ⟨trivial, ?_⟩)
    have unbegun1 : Unbegun t (h1.exec t (.expireStale target.sessionId args.listedAt)) :=
      (unbegun.after moved).exec ⟨rfl, rfl⟩
    have due : (sessionAgreement start).pre t call
        (.expireStale target.sessionId args.listedAt) h1 := trivial
    have after := moved.toAfter.exec call due
    refine select_bind (M := store) (fun h2 moved2 => ?_)
    refine Meets.done (fun h3 moved3 => ?_)
    refine Meets.done (fun h4 moved4 => ?_)
    refine Meets.done (fun h5 moved5 => ?_)
    have later := ((moved2.trans moved3).trans moved4).trans moved5
    exact rest _ h5 (after.trans later.toAfter) (unbegun1.after later)
  · exact .done (fun h1 moved => rest _ h1 moved.toAfter (unbegun.after moved))

theorem meets_checkpointFrom (unbegun : Unbegun t h)
    (appends : Appends start call session target.base h)
    (same : target.sessionId = session.codeSessionId)
    : (sessionAgreement start).Meets t call
        (checkpointFrom sha256Text localeLe toISOString args target session)
        (HasEnded t call origin) h := by
  refine meets_refresh_bind (fun tips h1 moved => ?_)
  have unbegun1 := unbegun.after moved
  cases tips with
  | error why => exact meets_refused unbegun1
  | ok tips =>
    simp only
    cases checkTips args target.sessionId tips.2 >>= fun _ => checkLists args tips.1 with
    | error why => exact meets_refused unbegun1
    | ok _ =>
      refine meets_stubs_bind unbegun1 (fun stubs h2 after unbegun2 => ?_)
      cases readParts args tips stubs with
      | error why => exact meets_refused unbegun2
      | ok parts =>
        exact meets_appendCheckpoint unbegun2 (appends.later (moved.le.trans after.le)) same

end

/-- Looking a session up changes nothing, and what is found was there. -/
theorem meets_getCodeSession_bind {Q : Except Text SessionAnswer → History store → Prop}
    {sessionId : Text} {g : Option SessionRow → Operation SessionAnswer} (unbegun : Unbegun t h)
    (absent : ∀ h', Unbegun t h' → (sessionAgreement start).Meets t call (g none) Q h')
    (found
      : ∀ session h', Unbegun t h' → WasThere start session h' → session.codeSessionId = sessionId
        → (sessionAgreement start).Meets t call (g (some session)) Q h')
    : (sessionAgreement start).Meets t call ((getCodeSession sessionId).bind g) Q h := by
  refine select_bind (M := store) (fun h1 moved => ?_)
  have unbegun1 := unbegun.after moved
  cases current : findSession (sessions h1.state) sessionId with
  | none => exact absent h1 unbegun1
  | some session =>
    obtain ⟨there, named⟩ := wasThere_of_find moved.inv current
    exact found session h1 unbegun1 there named

theorem readCheckpoint_sessionId {args : CheckpointArguments} {target : CheckpointTarget}
    (read : readCheckpoint args = .ok target)
    : codeSessionId args.codeSessionId = .ok target.sessionId := by
  obtain ⟨sessionId, first, read⟩ := bind_eq_ok.mp read
  obtain ⟨actor, -, read⟩ := bind_eq_ok.mp read
  split at read
  · cases read
  · obtain ⟨base, -, read⟩ := bind_eq_ok.mp read
    cases read
    exact ok_of_refuseThrown first

theorem readTask_sessionId (read : readTask args = .ok target)
    : codeSessionId args.codeSessionId = .ok target.sessionId := by
  obtain ⟨sessionId, first, read⟩ := bind_eq_ok.mp read
  obtain ⟨actor, -, read⟩ := bind_eq_ok.mp read
  split at read
  · cases read
  · split at read
    · cases read
    · obtain ⟨base, -, read⟩ := bind_eq_ok.mp read
      obtain ⟨author, -, read⟩ := bind_eq_ok.mp read
      cases read
      exact ok_of_refuseThrown first

theorem readLifecycle_sessionId {args : LifecycleArguments} {target : LifecycleTarget}
    (read : readLifecycle args = .ok target)
    : codeSessionId args.codeSessionId = .ok target.sessionId := by
  obtain ⟨sessionId, first, read⟩ := bind_eq_ok.mp read
  obtain ⟨actor, -, read⟩ := bind_eq_ok.mp read
  split at read
  · cases read
  · obtain ⟨base, -, read⟩ := bind_eq_ok.mp read
    cases read
    exact ok_of_refuseThrown first

theorem legal_of_checkTask {existing : Option TaskEntry}
    (fine : checkTask args target existing = .ok ())
    : isLegalTaskTransition (existing.map (·.state)) target.toState = true := by
  cases existing with
  | none => rfl
  | some task =>
    by_cases legal : isLegalTaskTransition (some task.state) target.toState = true
    · exact legal
    · simp only [checkTask, if_neg legal] at fine
      cases fine

theorem followsLedger_taskEvent (sha256Text : Text → Digest) {session : SessionRow}
    (same : target.sessionId = session.codeSessionId)
    (fine : checkTask args target (findTask session.taskLedger target.taskId) = .ok ())
    : FollowsLedger session (taskEvent sha256Text args target session)
        (putTask session.taskLedger
          (nextEntry args target (findTask session.taskLedger target.taskId))) where
  sameSession := same
  revision := rfl
  source := rfl
  legal := legal_of_checkTask fine
  ledger := ⟨_, rfl, rfl, rfl⟩

section

variable {localeLe : Text → Text → Bool} {sha256Text : Text → Digest} {toISOString : Nat → Text}

theorem meets_createCodeCheckpoint {args : CheckpointArguments} (unbegun : Unbegun t h)
    : (sessionAgreement start).Meets t (.checkpoint args)
        (createCodeCheckpoint sha256Text localeLe toISOString args)
        (HasEnded t (.checkpoint args) origin) h := by
  unfold createCodeCheckpoint
  cases read : readCheckpoint args with
  | error why => exact meets_refused unbegun
  | ok target =>
    have asked := readCheckpoint_sessionId read
    refine meets_getCodeSession_bind unbegun (fun _ => meets_refused) ?_
    intro session h1 unbegun1 there named
    by_cases based : session.sessionRevision = target.base
    · simp only [based, ne_eq, not_true_eq_false, if_false]
      refine meets_checkpointFrom unbegun1 ⟨there, based.symm, ?_⟩ named.symm
      rw [SessionCall.sessionId, asked, named]
      rfl
    · simp only [based, ne_eq, not_false_eq_true, if_true]
      exact meets_refused unbegun1

theorem meets_transitionTask {args : TaskArguments} (unbegun : Unbegun t h)
    : (sessionAgreement start).Meets t (.task args)
        (transitionCodeSessionTask sha256Text localeLe args)
        (HasEnded t (.task args) origin) h := by
  unfold transitionCodeSessionTask
  cases read : readTask args with
  | error why => exact meets_refused unbegun
  | ok target =>
    have asked := readTask_sessionId read
    refine meets_getCodeSession_bind unbegun (fun _ => meets_refused) ?_
    intro session h1 unbegun1 there named
    by_cases based : session.sessionRevision = target.base
    · simp only [based, ne_eq, not_true_eq_false, if_false]
      cases fine : checkTask args target (findTask session.taskLedger target.taskId) with
      | error why => exact meets_refused unbegun1
      | ok _ =>
        refine meets_appendEvent unbegun1 ⟨there, based.symm, ?_⟩
          (followsLedger_taskEvent sha256Text named.symm fine)
        rw [SessionCall.sessionId, asked, named]
        rfl
    · simp only [based, ne_eq, not_false_eq_true, if_true]
      exact meets_refused unbegun1

theorem meets_transitionLifecycle {args : LifecycleArguments} (unbegun : Unbegun t h)
    : (sessionAgreement start).Meets t (.lifecycle args)
        (transitionCodeSessionLifecycle localeLe args)
        (HasEnded t (.lifecycle args) origin) h := by
  unfold transitionCodeSessionLifecycle
  cases read : readLifecycle args with
  | error why => exact meets_refused unbegun
  | ok target =>
    have asked := readLifecycle_sessionId read
    refine meets_getCodeSession_bind unbegun (fun _ => meets_refused) ?_
    intro session h1 unbegun1 there named
    by_cases based : session.sessionRevision = target.base
    · simp only [based, ne_eq, not_true_eq_false, if_false]
      cases fine : checkLifecycle session.lifecycle target.lifecycle with
      | error why => exact meets_refused unbegun1
      | ok _ =>
        refine meets_swapLifecycle unbegun1 ⟨there, based.symm, ?_⟩ named.symm
        rw [SessionCall.sessionId, asked, named]
        rfl
    · simp only [based, ne_eq, not_false_eq_true, if_true]
      exact meets_refused unbegun1

/-- Every call keeps its promises, and what it has done is told by its answer. -/
theorem meets_sessionBody (call : SessionCall) (fresh : h.own t = [])
    : (sessionAgreement start).Meets t call (call.body sha256Text localeLe toISOString)
        (HasEnded t call origin) h := by
  have unbegun : Unbegun t h := by
    intro issued mem
    rw [fresh] at mem
    cases mem
  cases call with
  | checkpoint args => exact meets_createCodeCheckpoint unbegun
  | task args => exact meets_transitionTask unbegun
  | lifecycle args => exact meets_transitionLifecycle unbegun

end

end CairnStone.CodeSession
