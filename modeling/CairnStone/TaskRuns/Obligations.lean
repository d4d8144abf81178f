import CairnStone.TaskRuns.Promises

/-! Every operation keeps its promises, and an operation that has answered has left nothing undone:
an inserted child has been appended, a successful invocation has been written, and an answer that is
ok comes after the write that it reports.
-/

namespace CairnStone.TaskRuns

open JavaScript Data Concurrency Protocol List Database History Meets

variable {adapters : Adapters} {h h' : History (store adapters)} {t : Nat} {call : Call}
  {α β : Type} {Q : Except Text α → History (store adapters) → Prop}
  {trace : Trace adapters} {start : Database} {row : Row}
  {issued : Issued (store adapters)} {args : DispatchArguments} {target : DispatchTarget}
  {receipt : Value}

/-- Serving `call` as thread `t`, the operation keeps its promises from `h` on. -/
abbrev Obliged (t : Nat) (call : Call) (p : Operation adapters α)
    (Q : Except Text α → History (store adapters) → Prop) (h : History (store adapters))
    : Prop :=
  (agreement adapters).Meets t call p Q h

def Reports (call : Call) (trace : Trace adapters) : Prop :=
  match call with
  | .propose _ => True
  | .dispatch args =>
    ∃ target issued update, readDispatch args = .ok target ∧ issued ∈ trace
      ∧ Records target.id update issued ∧ update.accepted = true
  | .cancel args =>
    ∃ id actor issued reason now, readCancel args = .ok (id, actor) ∧ issued ∈ trace
      ∧ issued.command = .recordCancel id reason now

def Appended (trace : Trace adapters) : Prop :=
  ∀ issued ∈ trace, ∀ row, Inserts row issued → row.parentTaskRunId ≠ none
    → ∃ other ∈ trace, Appends other

def Written (trace : Trace adapters) : Prop :=
  ∀ issued ∈ trace, ∀ id request result, Succeeds id request result issued
    → ∃ other ∈ trace, ∃ update, Records id update other

/-- What an operation that has answered has done. -/
structure Concluded (call : Call) (answer : Except Text Answer) (trace : Trace adapters) : Prop where
  appended : Appended trace
  written : Written trace
  reported : ∀ value, answer = .ok value → value.isOk = true → Reports call trace

def Outcome (t : Nat) (call : Call) (_ : Database) (answer : Except Text Answer)
    (h : History (store adapters))
    : Prop :=
  Concluded call answer (h.own t)

theorem Appended.of_none (none : ∀ issued ∈ trace, ∀ row, ¬ Inserts row issued)
    : Appended trace :=
  fun issued mem row adds _ => absurd adds (none issued mem row)

theorem Written.of_none
    (none : ∀ issued ∈ trace, ∀ id request result, ¬ Succeeds id request result issued)
    : Written trace :=
  fun issued mem id request result works =>
    absurd works (none issued mem id request result)

/-- A conclusion that the trace so far allows is met by any answer. -/
theorem owes_done {answer : Answer} (concluded : Concluded call (.ok answer) (h.own t))
    : Obliged t call (.done answer) (Outcome t call start) h := by
  refine Meets.done (fun h' moved => ?_)
  rw [Outcome, moved.own]
  exact concluded

theorem owes_fail {error : Text} (concluded : Concluded call (.error error) (h.own t))
    : Obliged t call (.fail error) (Outcome t call start) h := by
  refine Meets.fail (fun h' moved => ?_)
  rw [Outcome, moved.own]
  exact concluded

/-- A refusal reports nothing. -/
theorem owes_refused {why : Refusal} (appended : Appended (h.own t))
    (written : Written (h.own t))
    : Obliged t call (.done (.refused why)) (Outcome t call start) h := by
  refine owes_done ⟨appended, written, ?_⟩
  intro value same ok
  cases same
  cases ok

theorem owes_answerWith (id : Text) (details : List (Text × Value))
    (appended : Appended (h.own t)) (written : Written (h.own t))
    (reports : Reports call (h.own t))
    : Obliged t call (answerWith id details) (Outcome t call start) h := by
  refine select_bind (fun h' moved => ?_)
  rw [← moved.own] at appended written reports
  split
  · refine owes_fail ⟨appended, written, ?_⟩
    rintro value never
    cases never
  · exact owes_done ⟨appended, written, fun _ _ _ => reports⟩

theorem WasThere.later (found : WasThere row h) (lives : Lives h)
    : At h.state row.taskRunId (SameRun row) := by
  obtain ⟨log, le, here⟩ := found
  refine Kept.state_grow (R := fun db => At db row.taskRunId (SameRun row)) (lives.earlier le) lives
    le ⟨row, here, rfl, .refl row⟩ ?_
  intro db cmd now
  exact now.exec (fun old _ _ same => same.trans (cmd.sameRun old))

theorem WasThere.mono (found : WasThere row h) (le : h.log <:+ h'.log)
    : WasThere row h' :=
  Seen.later found le

theorem wasThere_of_find {id : Text} (lives : Lives h)
    (found : find (taskRuns h.state) id = some row)
    : WasThere row h ∧ row.taskRunId = id := by
  obtain ⟨here, named⟩ := mem_of_find found
  exact ⟨Seen.now lives here, named⟩

/-- An insertion that reports success inserts. -/
theorem inserts_of_reply (put : ((store adapters).exec (.insertRun row) h.state).1 = true)
    : Inserts row (⟨t, .insertRun row, h.state⟩ : Issued (store adapters)) := by
  change (insertRun (taskRuns h.state) row).1 = true at put
  unfold insertRun at put
  split at put
  · rename_i free
    exact ⟨rfl, find_eq_none.mp free⟩
  · cases put

theorem not_inserts_of_reply
    (failed : ¬ ((store adapters).exec (.insertRun row) h.state).1 = true)
    : ∀ other, ¬ Inserts other (⟨t, .insertRun row, h.state⟩ : Issued (store adapters)) := by
  rintro other ⟨issues, free⟩
  obtain rfl : row = other := by
    have same : Command.insertRun row = Command.insertRun other := issues
    injection same
  refine failed ?_
  change (insertRun (taskRuns h.state) row).1 = true
  unfold insertRun
  rw [show find (taskRuns h.state) row.taskRunId = none from find_eq_none.mpr free]

/-- The trace of a proposal whose row has been inserted and appended. -/
theorem appended_of_appends (appends : Appends issued)
    : Appended (issued :: trace) :=
  fun _ _ _ _ _ => ⟨issued, .head _, appends⟩

theorem owes_insertProposal {args : ProposeArguments} {proposal : Proposal}
    {depth : Nat} (read : readProposal args = .ok proposal)
    (placed : ∀ h', (agreement adapters).After h h' → Placed proposal h' depth)
    (fresh : h.own t = [])
    : Obliged t (.propose args) (insertProposal proposal depth)
        (Outcome t (.propose args) start) h := by
  refine perform_bind (fun h1 moved => ⟨⟨?_, ?_⟩, ?_⟩)
  · exact ⟨args, proposal, depth, rfl, read, rfl, placed h1 moved.toAfter⟩
  · rw [moved.own, fresh]
    exact forall_mem_nil _
  have promise : (agreement adapters).pre t (.propose args)
      (.insertRun (proposal.row depth)) h1 := by
    refine ⟨⟨args, proposal, depth, rfl, read, rfl, placed h1 moved.toAfter⟩, ?_⟩
    rw [moved.own, fresh]
    exact forall_mem_nil _
  have own : (h1.exec t (.insertRun (proposal.row depth))).own t
      = [⟨t, .insertRun (proposal.row depth), h1.state⟩] := by
    rw [own_exec_self, moved.own, fresh]
  have written : Written ((h1.exec t (.insertRun (proposal.row depth))).own t) := by
    refine Written.of_none ?_
    rw [own]
    rintro issued mem id request result ⟨invokes, _⟩
    cases mem_singleton.mp mem
    cases invokes
  split
  · rename_i put
    have adds := inserts_of_reply (t := t) put
    have after := moved.toAfter.exec (.propose args) promise
    unfold appendToParent
    cases parentId : proposal.parentId with
    | none =>
      refine owes_answerWith _ _ ?_ written trivial
      rw [own]
      rintro issued mem row ⟨issues, _⟩ child
      cases mem_singleton.mp mem
      obtain rfl : proposal.row depth = row := by
        have same : Command.insertRun (proposal.row depth) = Command.insertRun row := issues
        injection same
      exact absurd parentId child
    | some parent =>
      refine bind (select_bind (fun h2 moved2 => ?_))
      cases found : find (taskRuns h2.state) parent with
      | none =>
        -- The parent was there, and no row is ever deleted.
        cases placed h2 (after.trans moved2.toAfter) with
        | root free => cases free.symm.trans parentId
        | child row there named fine =>
          obtain ⟨now, here, same, _⟩ := there.later moved2.inv
          obtain rfl : row.taskRunId = parent := Option.some.inj (named.symm.trans parentId)
          exact absurd same (find_eq_none.mp found now here)
      | some row =>
        obtain ⟨here, named⟩ := mem_of_find found
        refine perform_bind (fun h3 moved3 => ⟨⟨?_, ?_⟩, ?_⟩)
        · refine ⟨proposal.row depth, row, ?_, named, rfl⟩
          refine ⟨_, _, h2.log, moved2.le, moved3.le, rfl, adds, ?_, ?_⟩
          · rw [named]
            exact parentId
          · rw [← moved2.inv.state]
            exact here
        · rw [moved3.own, moved2.own, own]
          rintro issued mem ⟨_, _, _, appends⟩
          cases mem_singleton.mp mem
          cases appends
        · refine Meets.done (fun h4 moved4 => ?_)
          refine owes_answerWith _ _ ?_ ?_ trivial
          · rw [moved4.own, own_exec_self]
            exact appended_of_appends ⟨_, _, _, rfl⟩
          · refine Written.of_none ?_
            rw [moved4.own, own_exec_self, moved3.own, moved2.own, own]
            rintro issued mem id request result ⟨invokes, _⟩
            rcases mem_cons.mp mem with rfl | prior
            · cases invokes
            · cases mem_singleton.mp prior
              cases invokes
  · rename_i failed
    refine owes_refused ?_ written
    refine Appended.of_none ?_
    rw [own]
    intro issued mem
    cases mem_singleton.mp mem
    exact not_inserts_of_reply failed

theorem Concluded.of_nil {why : Refusal} (fresh : h.own t = [])
    : Obliged t call (.done (.refused why)) (Outcome t call start) h := by
  refine owes_refused ?_ ?_
  · rw [fresh]
    exact Appended.of_none (forall_mem_nil _)
  · rw [fresh]
    exact Written.of_none (forall_mem_nil _)

theorem owes_propose (args : ProposeArguments) (fresh : h.own t = [])
    : Obliged t (.propose args) (proposeTaskRun args) (Outcome t (.propose args) start) h := by
  unfold proposeTaskRun
  split
  · exact Concluded.of_nil fresh
  · rename_i proposal read
    split
    · rename_i free
      exact owes_insertProposal read (fun _ _ => .root free) fresh
    · rename_i parentId named
      refine select_bind (fun h1 moved => ?_)
      have unstarted1 : h1.own t = [] := moved.own.trans fresh
      split
      · exact Concluded.of_nil unstarted1
      · rename_i row found
        obtain ⟨there, same⟩ := wasThere_of_find moved.inv found
        split
        · refine owes_fail ⟨?_, ?_, ?_⟩
          · rw [unstarted1]
            exact Appended.of_none (forall_mem_nil _)
          · rw [unstarted1]
            exact Written.of_none (forall_mem_nil _)
          · rintro value never
            cases never
        · exact Concluded.of_nil unstarted1
        · rename_i fine
          refine owes_insertProposal read (fun h2 after => ?_) unstarted1
          exact .child row (there.mono after.le) (named.trans (by rw [same])) fine

/-- A trace without insertions is one whose children have all been appended. -/
theorem appended_cons (appended : Appended trace) (other : ∀ row, ¬ Inserts row issued)
    : Appended (issued :: trace) := by
  intro entry mem row adds child
  rcases mem_cons.mp mem with rfl | prior
  · exact absurd adds (other row)
  · obtain ⟨appending, there, appends⟩ := appended entry prior row adds child
    exact ⟨appending, .tail _ there, appends⟩

structure Invoked (t : Nat) (id : Text) (request : AdapterRequest) (result : AdapterResult)
    (h : History (store adapters))
    : Prop where
  succeeded : ∃ issued ∈ h.own t, Succeeds id request result issued
  only : ∀ issued ∈ h.own t, ∀ other request result, Succeeds other request result issued → other = id
  unrecorded : ∀ issued ∈ h.own t, ∀ other update, ¬ Records other update issued
  appended : Appended (h.own t)

theorem Routed.mono (routed : Routed args target row receipt h) (le : h.log <:+ h'.log)
    : Routed args target row receipt h' :=
  ⟨routed.read, routed.found.mono le, routed.named, routed.checked⟩

theorem accepted_of_reply {rows : List Row} {id : Text} {update : DispatchUpdate}
    (stored : (recordDispatch rows id update).1 = .ok ())
    : update.accepted = true := by
  unfold recordDispatch at stored
  split at stored
  · assumption
  · cases stored

theorem owes_writeDispatch {result : AdapterResult}
    (routed : Routed args target row receipt h)
    (invoked : Invoked t target.id (args.request (rowToTaskRun row) receipt) result h)
    : Obliged t (.dispatch args)
        (writeDispatch args target (rowToTaskRun row) receipt result)
        (Outcome t (.dispatch args) start) h := by
  obtain ⟨succeeded, only, unrecorded, appended⟩ := invoked
  refine perform_bind (fun h1 moved => ⟨⟨?_, ?_⟩, ?_⟩)
  · refine ⟨args, target, row, receipt, result, rfl, routed.mono moved.le, rfl, rfl, ?_⟩
    rwa [moved.own]
  · rwa [moved.own]
  let update := args.update (rowToTaskRun row) target.committer receipt result
  let saved : Issued (store adapters) := ⟨t, .recordDispatch target.id update, h1.state⟩
  have own : (h1.exec t (.recordDispatch target.id update)).own t = saved :: h.own t := by
    rw [own_exec_self, moved.own]
  have records : Records target.id update saved := rfl
  have appended1 : Appended ((h1.exec t (.recordDispatch target.id update)).own t) := by
    rw [own]
    refine appended_cons appended ?_
    rintro row ⟨adds, _⟩
    cases adds
  have written : Written ((h1.exec t (.recordDispatch target.id update)).own t) := by
    rw [own]
    intro issued mem id request result' works
    refine ⟨saved, .head _, update, ?_⟩
    rcases mem_cons.mp mem with rfl | prior
    · cases works.1
    · rw [only issued prior id request result' works]
      exact records
  split
  · exact owes_refused appended1 written
  · rename_i stored
    refine owes_answerWith _ _ appended1 written ?_
    refine ⟨target, saved, update, routed.read, ?_, records, accepted_of_reply stored⟩
    rw [own]
    exact .head _

theorem owes_dispatchAlong (routed : Routed args target row receipt h)
    (fresh : h.own t = [])
    : Obliged t (.dispatch args)
        (dispatchAlong args target (rowToTaskRun row) receipt)
        (Outcome t (.dispatch args) start) h := by
  let request := args.request (rowToTaskRun row) receipt
  refine perform_bind (fun h1 moved1 => ⟨trivial, ?_⟩)
  refine perform_bind (fun h2 moved2 => ?_)
  have routed2 := (routed.mono moved1.le).mono ((suffix_cons _ _).trans moved2.le)
  have own2 : h2.own t
      = [⟨t, .persistRouteReceipt receipt target.id args.ambient.now, h1.state⟩] := by
    rw [moved2.own, own_exec_self, moved1.own, fresh]
  have quiet : ∀ issued ∈ h2.own t, ∀ id request result,
      ¬ Succeeds id request result issued := by
    rw [own2]
    rintro issued mem id request result ⟨invokes, _⟩
    cases mem_singleton.mp mem
    cases invokes
  have unrecorded : ∀ issued ∈ h2.own t, ∀ id update, ¬ Records id update issued := by
    rw [own2]
    rintro issued mem id update records
    cases mem_singleton.mp mem
    cases records
  refine ⟨⟨⟨args, target, row, receipt, rfl, routed2, rfl⟩, fun issued mem =>
    ⟨quiet issued mem, unrecorded issued mem⟩⟩, ?_⟩
  have own : (h2.exec t (.invokeAdapter request)).own t
      = ⟨t, .invokeAdapter request, h2.state⟩ :: h2.own t := own_exec_self h2 t _
  have appended : Appended ((h2.exec t (.invokeAdapter request)).own t) := by
    refine Appended.of_none ?_
    rw [own, own2]
    rintro issued mem row ⟨adds, _⟩
    rcases mem_cons.mp mem with rfl | prior
    · cases adds
    · cases mem_singleton.mp prior
      cases adds
  split
  · rename_i error replied
    refine owes_refused appended (Written.of_none ?_)
    rw [own]
    intro issued mem id other result works
    rcases mem_cons.mp mem with rfl | prior
    · obtain ⟨invokes, _, replies⟩ := works
      obtain rfl : request = other := by
        have same : Command.invokeAdapter request = .invokeAdapter other := invokes
        injection same
      cases replies.symm.trans replied
    · exact quiet issued prior id other result works
  · rename_i result replied
    have after := (suffix_cons _ _ : h2.log <:+ (h2.exec t (.invokeAdapter request)).log)
    refine owes_writeDispatch (routed2.mono after) ⟨?_, ?_, ?_, appended⟩
    · rw [own]
      exact ⟨_, .head _, rfl, routed.named, replied⟩
    · rw [own]
      intro issued mem id other result' works
      rcases mem_cons.mp mem with rfl | prior
      · obtain ⟨invokes, named, _⟩ := works
        obtain rfl : request = other := by
          have same : Command.invokeAdapter request = .invokeAdapter other := invokes
          injection same
        exact named.symm.trans routed.named
      · exact absurd works (quiet issued prior id other result')
    · rw [own]
      rintro issued mem id update records
      rcases mem_cons.mp mem with rfl | prior
      · cases records
      · exact unrecorded issued prior id update records

theorem owes_dispatch (args : DispatchArguments) (fresh : h.own t = [])
    : Obliged t (.dispatch args) (dispatchTaskRun args)
        (Outcome t (.dispatch args) start) h := by
  unfold dispatchTaskRun
  split
  · exact Concluded.of_nil fresh
  · rename_i target read
    refine select_bind (fun h1 moved => ?_)
    have unstarted1 : h1.own t = [] := moved.own.trans fresh
    split
    · exact Concluded.of_nil unstarted1
    · rename_i row found
      obtain ⟨there, named⟩ := wasThere_of_find moved.inv found
      split
      · exact Concluded.of_nil unstarted1
      · rename_i receipt fine
        exact owes_dispatchAlong ⟨read, there, named, fine⟩ unstarted1

theorem owes_cancel (args : CancelArguments) (fresh : h.own t = [])
    : Obliged t (.cancel args) (cancelTaskRun args) (Outcome t (.cancel args) start) h := by
  unfold cancelTaskRun
  split
  · exact Concluded.of_nil fresh
  · rename_i id actor read
    refine select_bind (fun h1 moved => ?_)
    have unstarted1 : h1.own t = [] := moved.own.trans fresh
    split
    · exact Concluded.of_nil unstarted1
    · split
      · exact Concluded.of_nil unstarted1
      · refine perform_bind (fun h2 moved2 => ⟨trivial, ?_⟩)
        have own : (h2.exec t (.recordCancel id (cancelReason args) args.now)).own t
            = [⟨t, .recordCancel id (cancelReason args) args.now, h2.state⟩] := by
          rw [own_exec_self, moved2.own, unstarted1]
        refine owes_answerWith _ _ (Appended.of_none ?_) (Written.of_none ?_) ?_
        · rw [own]
          rintro issued mem row ⟨adds, _⟩
          cases mem_singleton.mp mem
          cases adds
        · rw [own]
          rintro issued mem id request result ⟨invokes, _⟩
          cases mem_singleton.mp mem
          cases invokes
        · refine ⟨id, actor, ⟨t, .recordCancel id (cancelReason args) args.now, h2.state⟩,
            _, _, read, ?_, rfl⟩
          rw [own]
          exact mem_singleton.mpr rfl

/-- Every operation keeps its promises. -/
theorem owes_body (t : Nat) (call : Call) (h : History (store adapters)) (_ : Lives h)
    (fresh : h.own t = [])
    : Obliged t call (call.body adapters) (Outcome t call h.state) h := by
  cases call with
  | propose args => exact owes_propose args fresh
  | dispatch args => exact owes_dispatch args fresh
  | cancel args => exact owes_cancel args fresh

end CairnStone.TaskRuns
