import CairnStone.TaskRuns.Obligations

/-! The life cycle of task runs over concurrent dispatches and cancellations. Both decide on a row
that they have read and write without looking at it again, so the life cycle is kept where every
invocation and every cancellation still finds what was decided on.
-/

namespace CairnStone.TaskRuns

open JavaScript Data Concurrency List Bool Database History Config Command Option Kept DispatchArguments

variable {adapters : Adapters} {h : History (store adapters)} {t : Nat} {call : Call} {id : Text}
  {cmd : Command} {before after : List (Action (store adapters) Call)}
  {issued : Issued (store adapters)} {db : Database} {update : DispatchUpdate}
  {status : Status} {action : Action (store adapters) Call}
  {schedule : List (Action (store adapters) Call)}

def succeedsFor (id : Text) (issued : Issued (store adapters)) : Bool :=
  match (issued.command : Command) with
  | .invokeAdapter request =>
    request.taskRun.taskRunId == id
    && (invokeExecutorAdapter (adapters (Database.steps issued.before) request) request).isOk
  | _ => false

-- The condition

/-- A call has invoked the adapter for the run with success, and has not answered yet. -/
def underway (config : Config (store adapters) Call Text Answer) (id : Text) : Bool :=
  config.history.log.any (fun issued =>
    succeedsFor id issued && (config.answer issued.thread).isNone)

def isFree (p : TaskRun → Bool) (config : Config (store adapters) Call Text Answer) (id : Text)
    : Bool :=
  (find (Database.taskRuns config.state) id).any (fun row => p (rowToTaskRun row))
  && !underway config id

/-- What the caller supplies for the row of the run is accepted by its statement. -/
def DispatchArguments.storable (args : DispatchArguments) : Bool :=
  let receipt := enrichRouteReceiptContext args.routeReceipt
  (!args.policyPreset.truthy || isBindable args.policyPreset)
  && (!args.suppliesRoute
    || [text "selected_executor_id", text "selection_reason", text "route_receipt_id"].all
        (fun key => isBindable (receipt.get key))
      && (!(receipt.get (text "required_capabilities")).truthy
        || !isUndefined (jsonCopy (receipt.get (text "required_capabilities")))))

/-- An adapter is invoked while the run can be dispatched, a run is cancelled before it has ended,
neither while a dispatch of the run is under way, and what a dispatch writes can be stored.
-/
def careful (config : Config (store adapters) Call Text Answer) (t : Nat) : Bool :=
  match (config.pending t : Option Command) with
  | some (.invokeAdapter request) =>
    isFree (·.dispatchable) config request.taskRun.taskRunId
  | some (.recordCancel id _ _) => isFree (!·.status.isTerminal) config id
  | some (.recordDispatch _ _) =>
    match config.call t with
    | some (.dispatch args) => args.storable
    | _ => true
  | _ => true

-- The property

inductive StoredByOne (config : Config (store adapters) Call Text Answer) (row : Row) : Prop
  | nothing (receipt : row.routeReceipt = .null) (job : row.adapterJobId = none)
    (committer : row.humanCommittedBy = none)
  | one (issued : Issued (store adapters)) (logged : issued ∈ config.history.log)
    (args : DispatchArguments) (target : DispatchTarget) (request : AdapterRequest)
    (result : AdapterResult) (asked : config.call issued.thread = some (.dispatch args))
    (read : readDispatch args = .ok target) (named : target.id = row.taskRunId)
    (succeeded : Succeeds row.taskRunId request result issued)
    (receipt : row.routeReceipt = jsonCopy request.routeReceipt)
    (job : row.adapterJobId = some result.jobId)
    (committer : row.humanCommittedBy = some target.committer)
    (only : ∀ other ∈ config.history.log, succeedsFor row.taskRunId other = true → other = issued)

/-- The life cycle of all runs, between one instant of a run of calls and a later one. -/
structure LifeCycle (adapters : Adapters) (before after : List (Action (store adapters) Call))
    : Prop where
  once
    : ∀ id, (taskRunsAfter adapters (before ++ after)).history.log.countP (succeedsFor id) ≤ 1
  final
    : ∀ row ∈ Database.taskRuns (taskRunsAfter adapters before).state,
        row.status.isTerminal = true
        → (find (Database.taskRuns (taskRunsAfter adapters (before ++ after)).state)
              row.taskRunId).map (·.status)
          = some row.status
  cancelled
    : ∀ canceller cancellation id actor cancelAnswer dispatcher args target dispatchAnswer,
        (taskRunsAfter adapters before).call canceller = some (.cancel cancellation)
        → readCancel cancellation = .ok (id, actor)
        → (taskRunsAfter adapters before).answer canceller = some (.ok cancelAnswer)
        → cancelAnswer.isOk = true
        → (taskRunsAfter adapters (before ++ after)).call dispatcher = some (.dispatch args)
        → readDispatch args = .ok target → target.id = id
        → (taskRunsAfter adapters before).answer dispatcher = none
        → (taskRunsAfter adapters (before ++ after)).answer dispatcher = some (.ok dispatchAnswer)
        → dispatchAnswer.isOk = false
  stored
    : ∀ row ∈ Database.taskRuns (taskRunsAfter adapters (before ++ after)).state,
        StoredByOne (taskRunsAfter adapters (before ++ after)) row

-- What holds in every run

theorem succeedsFor_iff
    : succeedsFor id issued = true ↔ ∃ request result, Succeeds id request result issued := by
  obtain ⟨thread, cmd, start⟩ := issued
  constructor
  · intro works
    unfold succeedsFor at works
    split at works
    · rename_i request invokes
      obtain ⟨named, ok⟩ := and_eq_true_iff.mp works
      cases replied : invokeExecutorAdapter (adapters (steps start) request) request with
      | error error => simp [replied, Except.isOk, Except.toBool] at ok
      | ok result => exact ⟨request, result, invokes, eq_of_beq named, replied⟩
    · cases works
  · rintro ⟨request, result, invokes, named, replied⟩
    obtain rfl : cmd = .invokeAdapter request := invokes
    have ok : (invokeExecutorAdapter (adapters (steps start) request) request).isOk = true := by
      rw [replied]
      rfl
    exact and_eq_true_iff.mpr ⟨beq_iff_eq.mpr named, ok⟩

/-- Ids are unique. -/
theorem Lives.keyed (lives : Lives h) : Keyed Row.taskRunId (taskRuns h.state) :=
  lives.invariant (J := fun h => Keyed Row.taskRunId (taskRuns h.state)) Keyed.nil
    (fun _ _ keyed => keyed_exec _ keyed)

/-- What is stored for later dispatches is accepted where it is stored again. -/
structure Row.Storable (row : Row) : Prop where
  policy : isBindable row.policyPreset = true
  capabilities : isUndefined (jsonCopy row.requiredCapabilities) = false

theorem isUndefined_jsonCopy {value : Value} (defined : isUndefined (jsonCopy value) = false)
    : isUndefined (jsonCopy (jsonCopy value)) = false := by
  cases value with
  | undefined => simp [jsonCopy, isUndefined] at defined
  | other => simp [jsonCopy, isUndefined] at defined
  | number n => cases n <;> rfl
  | _ => rfl

variable {row : Row}

theorem Row.Storable.rewrite (storable : row.Storable) (cmd : Command)
    : (cmd.rewrite row).Storable := by
  cases cmd with
  | setChildren id childTaskRunIds updatedAt =>
    simp only [Command.rewrite]
    split
    · exact ⟨storable.policy, storable.capabilities⟩
    · exact storable
  | recordDispatch id update =>
    simp only [Command.rewrite]
    split
    · rename_i hit
      have accepted := (and_eq_true_iff.mp hit).1
      simp only [DispatchUpdate.accepted, all_cons, all_nil, and_eq_true,
        not_eq_true'] at accepted
      obtain ⟨⟨_, _, policy, _, _⟩, capabilities⟩ := accepted
      exact ⟨policy, isUndefined_jsonCopy capabilities⟩
    · exact storable
  | recordCancel id reason now =>
    simp only [Command.rewrite]
    split
    · exact ⟨storable.policy, storable.capabilities⟩
    · exact storable
  | _ => exact storable

/-- Proposals store a text or nothing as their policy, and a list as their capabilities. -/
theorem storable_of_read {args : ProposeArguments} {proposal : Proposal} {depth : Nat}
    (read : readProposal args = .ok proposal)
    : (proposal.row depth).Storable := by
  refine ⟨?_, rfl⟩
  iterate 11 obtain ⟨_, _, read⟩ := bind_eq_ok.mp read
  cases read
  show isBindable (if args.policyPreset.truthy then _ else _) = true
  split <;> rfl

theorem Lives.storable (lives : Lives h) : ∀ row ∈ taskRuns h.state, row.Storable := by
  refine lives.invariant (J := fun h => ∀ row ∈ taskRuns h.state, row.Storable)
    (forall_mem_nil _) ?_
  rintro g t cmd _ ⟨call, due⟩ storable row mem
  rcases mem_taskRuns_exec mem with ⟨old, present, rfl⟩ | ⟨rfl, _⟩
  · exact (storable old present).rewrite cmd
  · obtain ⟨⟨args, proposal, depth, _, read, rfl, _⟩, _⟩ := due
    exact storable_of_read read

theorem WasThere.storable (found : WasThere row h) (lives : Lives h) : row.Storable := by
  obtain ⟨log, le, present⟩ := found
  exact Lives.storable (lives.earlier le) row present

theorem isBindable_or {value fallback : Value} (first : value.truthy = true → isBindable value = true)
    (second : isBindable fallback = true)
    : isBindable (value.or fallback) = true := by
  unfold Value.or
  split
  · rename_i truthy
    exact first truthy
  · exact second

/-- The capabilities of a dispatch can be stored. Witness: an array can, and so can what is stored. -/
theorem isUndefined_capabilities (args : DispatchArguments) (storable : row.Storable)
    : isUndefined (jsonCopy (args.capabilities (rowToTaskRun row))) = false := by
  unfold capabilities
  split
  · cases list : args.requiredCapabilities with
    | array slots => rfl
    | _ => simp_all [isArray]
  · unfold Value.or
    split
    · exact storable.capabilities
    · rfl

variable {args : DispatchArguments}

theorem route_of_checked {target : DispatchTarget} {taskRun : TaskRun} {receipt : Value}
    (fine : checkDispatch args target taskRun = .ok receipt)
    : args.route taskRun target.committer = .ok receipt := by
  unfold checkDispatch at fine
  split at fine
  · cases fine
  split at fine
  · cases fine
  split at fine
  · rename_i made
    rw [made]
    exact fine
  · cases fine

theorem accepted_of_storable {target : DispatchTarget} {receipt : Value}
    (result : AdapterResult) (fit : args.storable = true) (storable : row.Storable)
    (fine : checkDispatch args target (rowToTaskRun row) = .ok receipt)
    : (args.update (rowToTaskRun row) target.committer receipt result).accepted = true := by
  obtain ⟨policy, supplied⟩ := and_eq_true_iff.mp fit
  have policyBinds : isBindable (args.policy (rowToTaskRun row)) = true := by
    refine isBindable_or (fun _ => isBindable_or (fun truthy => ?_) storable.policy) rfl
    simpa [truthy] using policy
  have routed := route_of_checked fine
  have texts : ([text "selected_executor_id", text "selection_reason", text "route_receipt_id"].all
        (fun key => isBindable (receipt.get key))
      && (!(receipt.get (text "required_capabilities")).truthy
        || !isUndefined (jsonCopy (receipt.get (text "required_capabilities"))))) = true := by
    unfold route at routed
    split at routed
    · rename_i supplies
      cases routed
      simpa only [supplies, Bool.not_true, Bool.false_or] using supplied
    · obtain ⟨⟨required, refs, _, seen⟩, texts⟩ := routeExecutor_spec routed
      refine and_eq_true_iff.mpr ⟨all_eq_true.mpr (fun key mem => ?_), ?_⟩
      · obtain ⟨s, same⟩ := texts key mem
        rw [same]
        rfl
      · rw [seen]
        rfl
  obtain ⟨binds, seen⟩ := and_eq_true_iff.mp texts
  simp only [all_cons, all_nil, and_eq_true, Bool.and_true] at binds
  obtain ⟨executor, reason, receiptId⟩ := binds
  have capabilities : isUndefined
      (jsonCopy
        ((receipt.get (text "required_capabilities")).or
          (args.capabilities (rowToTaskRun row))))
      = false := by
    unfold Value.or
    split
    · rename_i truthy
      simpa [truthy] using seen
    · exact isUndefined_capabilities args storable
  simp only [DispatchUpdate.accepted, update, all_cons, all_nil, executor,
    reason, policyBinds, receiptId, capabilities, Bool.and_true, Bool.not_false]

structure Row.Holds (row : Row) (update : DispatchUpdate) : Prop where
  receipt : row.routeReceipt = jsonCopy update.routeReceipt
  job : row.adapterJobId = some update.adapterJobId
  committer : row.humanCommittedBy = some update.humanCommittedBy

structure Row.Blank (row : Row) : Prop where
  receipt : row.routeReceipt = .null
  job : row.adapterJobId = none
  committer : row.humanCommittedBy = none

def Row.Sourced (row : Row) (h : History (store adapters)) : Prop :=
  row.Blank ∨ ∃ issued ∈ h.log, ∃ update, Records row.taskRunId update issued ∧ row.Holds update

theorem Row.Sourced.rewrite (sourced : row.Sourced h) (t : Nat) (cmd : Command)
    : (cmd.rewrite row).Sourced (h.exec t cmd) := by
  have kept {row' : Row} (same : row'.taskRunId = row.taskRunId)
      (receipt : row'.routeReceipt = row.routeReceipt) (job : row'.adapterJobId = row.adapterJobId)
      (committer : row'.humanCommittedBy = row.humanCommittedBy)
      : row'.Sourced (h.exec t cmd) := by
    rcases sourced with blank | ⟨issued, noted, update, records, holds⟩
    · exact .inl ⟨receipt.trans blank.receipt, job.trans blank.job, committer.trans blank.committer⟩
    · exact .inr ⟨issued, .tail _ noted, update, same ▸ records,
        receipt.trans holds.receipt, job.trans holds.job, committer.trans holds.committer⟩
  cases cmd with
  | setChildren id childTaskRunIds updatedAt =>
    simp only [Command.rewrite]
    split
    · exact kept rfl rfl rfl rfl
    · exact kept rfl rfl rfl rfl
  | recordDispatch id update =>
    simp only [Command.rewrite]
    split
    · rename_i hit
      obtain rfl : row.taskRunId = id := eq_of_beq (and_eq_true_iff.mp hit).2
      exact .inr ⟨_, .head _, update, rfl, rfl, rfl, rfl⟩
    · exact kept rfl rfl rfl rfl
  | recordCancel id reason now =>
    simp only [Command.rewrite]
    split
    · exact kept rfl rfl rfl rfl
    · exact kept rfl rfl rfl rfl
  | _ => exact kept rfl rfl rfl rfl

theorem Lives.sourced (lives : Lives h) : ∀ row ∈ taskRuns h.state, row.Sourced h := by
  refine lives.invariant (J := fun h => ∀ row ∈ taskRuns h.state, row.Sourced h)
    (forall_mem_nil _) ?_
  rintro g t cmd _ ⟨call, due⟩ sourced row mem
  rcases mem_taskRuns_exec mem with ⟨old, present, rfl⟩ | ⟨rfl, _⟩
  · exact (sourced old present).rewrite t cmd
  · obtain ⟨⟨args, proposal, depth, _, read, rfl, _⟩, _⟩ := due
    exact .inl ⟨rfl, rfl, rfl⟩

-- What careful steps keep

def isDispatchable (row : Row) : Prop :=
  row.status = .proposed ∧ row.dispatchState = .notDispatched

/-- What careful steps keep, where some calls have answered: one successful invocation for each run,
which is written while the run can still be dispatched, and no dispatch of a cancelled run that has not
answered.
-/
structure Governed (answered : Nat → Prop) (h : History (store adapters)) : Prop where
  once : ∀ id, h.log.countP (succeedsFor id) ≤ 1
  unwritten
    : ∀ {id issued}, issued ∈ h.log → succeedsFor id issued = true
      → (∀ other ∈ h.own issued.thread, ∀ update, ¬ Records id update other)
      → At h.state id isDispatchable
  written
    : ∀ {id issued update}, issued ∈ h.log → Records id update issued
      → At h.state id (fun row => ¬ isDispatchable row)
  cancelled
    : ∀ {id issued reason now}, issued ∈ h.log → issued.command = .recordCancel id reason now
      → At h.state id (fun row => row.status.isTerminal = true)
        ∧ ∀ other ∈ h.log, succeedsFor id other = true → answered other.thread

structure Free (answered : Nat → Prop) (p : Row → Prop) (id : Text) (h : History (store adapters))
    : Prop where
  now : At h.state id p
  idle : ∀ issued ∈ h.log, succeedsFor id issued = true → answered issued.thread

def Finished (answered : Nat → Prop) (h : History (store adapters)) : Prop :=
  ∀ {id issued}, issued ∈ h.log → succeedsFor id issued = true → answered issued.thread
    → ∃ other ∈ h.log, ∃ update, Records id update other

variable {answered : Nat → Prop} {p : Row → Prop}

theorem At.not_both {q : Row → Prop} (keyed : Keyed Row.taskRunId db.taskRuns)
    (first : At db id p) (second : At db id q)
    : ∃ row, p row ∧ q row := by
  obtain ⟨row, present, named, holds⟩ := first
  obtain ⟨other, present', named', holds'⟩ := second
  obtain rfl : row = other := keyed.eq_of_key present present' (named.trans named'.symm)
  exact ⟨row, holds, holds'⟩

theorem At.of_mem (keyed : Keyed Row.taskRunId db.taskRuns) (present : row ∈ db.taskRuns)
    (at1 : At db row.taskRunId p)
    : p row := by
  obtain ⟨other, present', named, holds⟩ := at1
  obtain rfl : row = other := keyed.eq_of_key present present' named.symm
  exact holds

theorem eq_of_countP_le_one {α : Type} {p : α → Bool} {l : List α} (le : l.countP p ≤ 1) {a b : α}
    (ha : a ∈ l) (hb : b ∈ l) (pa : p a = true) (pb : p b = true)
    : a = b := by
  induction l with
  | nil => cases ha
  | cons first rest ih =>
    rw [countP_cons] at le
    have none {c : α} (mem : c ∈ rest) (pc : p c = true) (taken : p first = true) : False := by
      have one := countP_pos_iff.mpr ⟨c, mem, pc⟩
      rw [if_pos taken] at le
      omega
    rcases mem_cons.mp ha with rfl | later
    · rcases mem_cons.mp hb with rfl | later
      · rfl
      · exact (none later pb pa).elim
    · rcases mem_cons.mp hb with rfl | later'
      · exact (none later pa pb).elim
      · exact ih (by omega) later later'

theorem Governed.mono {answered' : Nat → Prop} (governed : Governed answered h)
    (le : ∀ t, answered t → answered' t)
    : Governed answered' h where
  once := governed.once
  unwritten := governed.unwritten
  written := governed.written
  cancelled noted cancels :=
    ⟨(governed.cancelled noted cancels).1,
      fun other mem works => le _ ((governed.cancelled noted cancels).2 other mem works)⟩

theorem At.keep {q : Row → Prop} (at1 : At h.state id p)
    (step : ∀ row, row.taskRunId = id → p row → q (cmd.rewrite row))
    : At (h.exec t cmd).state id q :=
  at1.exec (fun row _ same holds => step row same holds)

/-- Only the write of a dispatch and a cancellation change a run's status. -/
theorem rewrite_status (unrecorded : ∀ id update, cmd ≠ .recordDispatch id update)
    (uncancelled : ∀ id reason now, cmd ≠ .recordCancel id reason now) (row : Row)
    : (cmd.rewrite row).status = row.status
      ∧ (cmd.rewrite row).dispatchState = row.dispatchState := by
  cases cmd with
  | setChildren id childTaskRunIds updatedAt =>
    simp only [rewrite]
    split
    · exact ⟨rfl, rfl⟩
    · exact ⟨rfl, rfl⟩
  | recordDispatch id update => exact absurd rfl (unrecorded id update)
  | recordCancel id reason now => exact absurd rfl (uncancelled id reason now)
  | _ => exact ⟨rfl, rfl⟩

/-- Only a write of a dispatch writes one. -/
theorem records_cons (unrecorded : ∀ id update, cmd ≠ .recordDispatch id update)
    (noted : issued ∈ (h.exec t cmd).log) (records : Records id update issued)
    : issued ∈ h.log := by
  rcases mem_cons.mp noted with rfl | prior
  · exact absurd records (unrecorded id update)
  · exact prior

theorem own_subset_exec (h : History (store adapters)) (t u : Nat) (cmd : Command)
    : ∀ issued ∈ h.own u, issued ∈ (h.exec t cmd).own u := by
  intro issued mem
  obtain ⟨noted, thread⟩ := mem_own.mp mem
  exact mem_own.mpr ⟨.tail _ noted, thread⟩

theorem Governed.exec_unwriting (governed : Governed answered h)
    (keyed : Keyed Row.taskRunId (taskRuns h.state)) (finished : Finished answered h)
    (unrecorded : ∀ id update, cmd ≠ .recordDispatch id update)
    (uncancelled : ∀ id reason now, cmd ≠ .recordCancel id reason now)
    (free
      : ∀ id, succeedsFor id (⟨t, cmd, h.state⟩ : Issued (store adapters)) = true
        → Free answered isDispatchable id h)
    : Governed answered (h.exec t cmd) := by
  have same := rewrite_status unrecorded uncancelled
  have never {id : Text} (open' : At h.state id isDispatchable)
      {issued : Issued (store adapters)} {update : DispatchUpdate} (noted : issued ∈ h.log)
      (records : Records id update issued)
      : False := by
    obtain ⟨row, ready, not⟩ := At.not_both keyed open' (governed.written noted records)
    exact not ready
  have ready {id : Text} (at1 : At h.state id isDispatchable)
      : At (h.exec t cmd).state id isDispatchable :=
    at1.keep (fun row _ holds => ⟨(same row).1.trans holds.1, (same row).2.trans holds.2⟩)
  refine ⟨fun id => ?_, ?_, ?_, ?_⟩
  · rw [exec_log, countP_cons]
    split
    · rename_i works
      have none : h.log.countP (succeedsFor id) = 0 := by
        rw [countP_eq_zero]
        intro issued noted prior
        obtain ⟨other, logged', update, records⟩ :=
          finished noted prior ((free id works).idle issued noted prior)
        exact never (free id works).now logged' records
      omega
    · exact governed.once id
  · intro id issued noted works unwritten
    rcases mem_cons.mp noted with rfl | prior
    · exact ready (free id works).now
    · exact ready (governed.unwritten prior works (fun other mem =>
        unwritten other (own_subset_exec h t _ cmd other mem)))
  · intro id issued update noted records
    refine (governed.written (records_cons unrecorded noted records) records).keep ?_
    intro row _ not holds
    exact not ⟨(same row).1.symm.trans holds.1, (same row).2.symm.trans holds.2⟩
  · intro id issued reason now noted cancels
    rcases mem_cons.mp noted with rfl | prior
    · exact absurd cancels (uncancelled id reason now)
    obtain ⟨ended, settled⟩ := governed.cancelled prior cancels
    refine ⟨ended.keep (fun row _ holds => (same row).1 ▸ holds), ?_⟩
    intro other logged' works
    rcases mem_cons.mp logged' with rfl | earlier'
    · obtain ⟨row, ready, terminal⟩ := At.not_both keyed (free id works).now ended
      rw [ready.1] at terminal
      cases terminal
    · exact settled other earlier' works

/-- The write of a dispatch ends what its invocation began. -/
theorem Governed.exec_records (governed : Governed answered h)
    (keyed : Keyed Row.taskRunId (taskRuns h.state))
    (accepted : update.accepted = true) (dispatched : update.dispatchState ≠ .notDispatched)
    (invoked : ∃ issued ∈ h.own t, succeedsFor id issued = true)
    (unrecorded : ∀ issued ∈ h.own t, ∀ id update, ¬ Records id update issued)
    : At h.state id isDispatchable ∧ Governed answered (h.exec t (.recordDispatch id update)) := by
  obtain ⟨invocation, own, works⟩ := invoked
  obtain ⟨noted, thread⟩ := mem_own.mp own
  have ready : At h.state id isDispatchable := by
    refine governed.unwritten noted works (fun other mem => ?_)
    rw [thread] at mem
    exact unrecorded other mem id
  have elsewhere {row : Row} (other : row.taskRunId ≠ id)
      : (Command.recordDispatch id update).rewrite row = row := by
    simp [rewrite, other]
  have here {row : Row} (same : row.taskRunId = id)
      : (Command.recordDispatch id update).rewrite row = update.apply row := by
    simp [rewrite, accepted, same]
  have silent (id' : Text)
      : succeedsFor id' (⟨t, .recordDispatch id update, h.state⟩ : Issued (store adapters))
        = false := rfl
  have old {id' : Text} {issued : Issued (store adapters)}
      (mem : issued ∈ (h.exec t (.recordDispatch id update)).log)
      (works : succeedsFor id' issued = true)
      : issued ∈ h.log := by
    rcases mem_cons.mp mem with rfl | prior
    · cases (silent id').symm.trans works
    · exact prior
  refine ⟨ready, fun id' => ?_, ?_, ?_, ?_⟩
  · rw [exec_log, countP_cons_of_neg (by simp [silent id'])]
    exact governed.once id'
  · intro id' issued mem succeeds' unwritten
    have prior := old mem succeeds'
    by_cases same : id' = id
    · subst same
      -- There is no other invocation for the run than the one that is written now.
      cases eq_of_countP_le_one (governed.once id') prior noted succeeds' works
      refine absurd rfl (unwritten ⟨t, .recordDispatch id' update, h.state⟩ ?_ update)
      rw [thread]
      exact mem_own.mpr ⟨.head _, rfl⟩
    · refine (governed.unwritten prior succeeds' (fun other own =>
        unwritten other (own_subset_exec h t _ _ other own))).keep ?_
      intro row named holds
      rwa [elsewhere (by rwa [named])]
  · intro id' issued update' mem records
    by_cases same : id' = id
    · subst same
      refine ready.keep (fun row named _ => ?_)
      rw [here named]
      exact fun holds => dispatched holds.2
    · rcases mem_cons.mp mem with rfl | prior
      · have written : Command.recordDispatch id update = .recordDispatch id' update' := records
        injection written with names
        exact absurd names.symm same
      · refine (governed.written prior records).keep (fun row named holds => ?_)
        rwa [elsewhere (by rwa [named])]
  · intro id' issued reason now mem cancels
    rcases mem_cons.mp mem with rfl | prior
    · cases cancels
    obtain ⟨ended, settled⟩ := governed.cancelled prior cancels
    refine ⟨?_, fun other logged' succeeds' => settled other (old logged' succeeds') succeeds'⟩
    have apart : id' ≠ id := by
      rintro rfl
      obtain ⟨row, holds, terminal⟩ := At.not_both keyed ready ended
      rw [holds.1] at terminal
      cases terminal
    refine ended.keep (fun row named holds => ?_)
    rwa [elsewhere (by rwa [named])]

theorem Governed.exec_cancels {reason now : Text} (governed : Governed answered h)
    (keyed : Keyed Row.taskRunId (taskRuns h.state)) (finished : Finished answered h)
    (free : Free answered (fun row => ¬ row.status.isTerminal = true) id h)
    : Governed answered (h.exec t (.recordCancel id reason now)) := by
  have elsewhere {row : Row} (other : row.taskRunId ≠ id)
      : (Command.recordCancel id reason now).rewrite row = row := by
    simp [rewrite, other]
  have here {row : Row} (same : row.taskRunId = id)
      : (Command.recordCancel id reason now).rewrite row = row.cancel reason now := by
    simp [rewrite, same]
  have old {id' : Text} {issued : Issued (store adapters)}
      (mem : issued ∈ (h.exec t (.recordCancel id reason now)).log)
      (works : succeedsFor id' issued = true)
      : issued ∈ h.log := by
    rcases mem_cons.mp mem with rfl | prior
    · cases works
    · exact prior
  have cancelled : At (h.exec t (.recordCancel id reason now)).state id
      (fun row => row.status.isTerminal = true) := by
    refine free.now.keep (fun row named _ => ?_)
    rw [here named]
    rfl
  refine ⟨fun id' => ?_, ?_, ?_, ?_⟩
  · rw [exec_log, countP_cons_of_neg (by simp [succeedsFor])]
    exact governed.once id'
  · intro id' issued mem works unwritten
    have prior := old mem works
    have open' := governed.unwritten prior works (fun other own =>
      unwritten other (own_subset_exec h t _ _ other own))
    have apart : id' ≠ id := by
      rintro rfl
      -- Whoever has invoked the adapter for the run has answered, and has written what it had invoked.
      obtain ⟨other, noted, update, records⟩ :=
        finished prior works (free.idle issued prior works)
      obtain ⟨row, ready, not⟩ := At.not_both keyed open' (governed.written noted records)
      exact not ready
    refine open'.keep (fun row named holds => ?_)
    rwa [elsewhere (by rwa [named])]
  · intro id' issued update mem records
    rcases mem_cons.mp mem with rfl | prior
    · cases records
    refine (governed.written prior records).keep (fun row named holds => ?_)
    by_cases same : id' = id
    · rw [here (named.trans same)]
      rintro ⟨proposed, _⟩
      cases proposed
    · rwa [elsewhere (by rwa [named])]
  · intro id' issued reason' now' mem cancels
    by_cases same : id' = id
    · subst same
      exact ⟨cancelled, fun other noted works =>
        free.idle other (old noted works) works⟩
    · rcases mem_cons.mp mem with rfl | prior
      · injection cancels with names
        exact absurd names.symm same
      · obtain ⟨ended, settled⟩ := governed.cancelled prior cancels
        refine ⟨ended.keep (fun row named holds => ?_), fun other noted works =>
          settled other (old noted works) works⟩
        rwa [elsewhere (by rwa [named])]

/-- What a careful step relies on. -/
def Licensed (answered : Nat → Prop) (t : Nat) (cmd : Command) (h : History (store adapters))
    : Prop :=
  match cmd with
  | .invokeAdapter request => Free answered isDispatchable request.taskRun.taskRunId h
  | .recordCancel id _ _ => Free answered (fun row => ¬ row.status.isTerminal = true) id h
  | .recordDispatch id update =>
    update.accepted = true ∧ update.dispatchState ≠ .notDispatched
    ∧ (∃ issued ∈ h.own t, succeedsFor id issued = true)
    ∧ ∀ issued ∈ h.own t, ∀ id update, ¬ Records id update issued
  | _ => True

/-- Every licensed step is governed. Witness: case analysis on the command. -/
theorem Governed.exec (governed : Governed answered h)
    (keyed : Keyed Row.taskRunId (taskRuns h.state)) (finished : Finished answered h)
    (licensed : Licensed answered t cmd h)
    : Governed answered (h.exec t cmd) := by
  cases cmd with
  | recordDispatch id update =>
    obtain ⟨accepted, dispatched, invoked, unrecorded⟩ := licensed
    exact (governed.exec_records keyed accepted dispatched invoked unrecorded).2
  | recordCancel id reason now => exact governed.exec_cancels keyed finished licensed
  | invokeAdapter request =>
    refine governed.exec_unwriting keyed finished (fun _ _ => Command.noConfusion)
      (fun _ _ _ => Command.noConfusion) (fun id works => ?_)
    obtain ⟨other, result, invokes, named, _⟩ := succeedsFor_iff.mp works
    injection invokes with same
    rw [← named, ← same]
    exact licensed
  | _ =>
    exact governed.exec_unwriting keyed finished (fun _ _ => Command.noConfusion)
      (fun _ _ _ => Command.noConfusion) (fun id works => Bool.noConfusion works)

theorem Governed.terminal_exec (governed : Governed answered h)
    (keyed : Keyed Row.taskRunId (taskRuns h.state))
    (licensed : Licensed answered t cmd h) (terminal : status.isTerminal = true)
    (ended : At h.state id (fun row => row.status = status))
    : At (h.exec t cmd).state id (fun row => row.status = status)
      ∧ succeedsFor id (⟨t, cmd, h.state⟩ : Issued (store adapters)) = false := by
  have closed (open' : At h.state id isDispatchable) : False := by
    obtain ⟨row, ready, same⟩ := At.not_both keyed open' ended
    rw [← same, ready.1] at terminal
    cases terminal
  cases cmd with
  | recordDispatch other update =>
    obtain ⟨accepted, dispatched, invoked, unrecorded⟩ := licensed
    have ready :=
      (governed.exec_records keyed accepted dispatched invoked unrecorded).1
    refine ⟨ended.keep (fun row named holds => ?_), rfl⟩
    have apart : row.taskRunId ≠ other := by
      rintro rfl
      exact closed (named ▸ ready)
    simpa [rewrite, apart] using holds
  | recordCancel other reason now =>
    refine ⟨ended.keep (fun row named holds => ?_), rfl⟩
    have apart : row.taskRunId ≠ other := by
      rintro rfl
      obtain ⟨row', unended, same⟩ := At.not_both keyed licensed.now (named ▸ ended)
      exact unended (same ▸ terminal)
    simpa [rewrite, apart] using holds
  | invokeAdapter request =>
    refine ⟨ended.keep (fun row _ holds => holds), eq_false_iff.mpr (fun works => ?_)⟩
    obtain ⟨other, result, invokes, named, _⟩ := succeedsFor_iff.mp works
    injection invokes with same
    rw [← same] at named
    exact closed (named ▸ licensed.now)
  | _ =>
    refine ⟨ended.keep (fun row _ holds => ?_), rfl⟩
    exact (rewrite_status (fun _ _ => Command.noConfusion) (fun _ _ _ => Command.noConfusion)
      row).1.trans holds

-- Careful runs

variable {config : Config (store adapters) Call Text Answer}

def answeredIn (config : Config (store adapters) Call Text Answer) (t : Nat) : Prop :=
  ∃ answer, config.answer t = some answer

theorem isDispatchable_iff
    : (rowToTaskRun row).dispatchable = true ↔ isDispatchable row := by
  simp [rowToTaskRun, isDispatchable]

theorem free_of_isFree {p : TaskRun → Bool} (free : isFree p config id = true)
    : Free (answeredIn config) (fun row => p (rowToTaskRun row) = true) id config.history := by
  obtain ⟨now, idle⟩ := and_eq_true_iff.mp free
  constructor
  · obtain ⟨row, found, holds⟩ := (any_eq_true _ _).mp now
    obtain ⟨present, named⟩ := mem_of_find found
    exact ⟨row, present, named, holds⟩
  · intro issued noted works
    cases answer : config.answer issued.thread with
    | some value => exact ⟨value, answer⟩
    | none =>
      have under : underway config id = true :=
        any_eq_true.mpr ⟨issued, noted, by simp [works, answer]⟩
      simp [under] at idle

/-- Whoever has answered has written what it had invoked. -/
theorem finished_of_sound (sound : (agreement adapters).Sound Outcome config)
    : Finished (answeredIn config) config.history := by
  rintro id issued noted works ⟨answer, answered⟩
  obtain ⟨entry, found, ended⟩ := bind_eq_some_iff.mp answered
  obtain ⟨request, result, works⟩ := succeedsFor_iff.mp works
  have concluded := sound.post_of_answer found ended
  obtain ⟨other, own, update, records⟩ :=
    concluded.written issued (mem_own.mpr ⟨noted, rfl⟩) id request result works
  exact ⟨other, (mem_own.mp own).1, update, records⟩

theorem dispatchState_of_invoked {report : Except Text AdapterReport} {request : AdapterRequest}
    {result : AdapterResult} (replied : invokeExecutorAdapter report request = .ok result)
    : result.dispatchState ≠ .notDispatched := by
  unfold invokeExecutorAdapter at replied
  split at replied
  · cases replied
  split at replied
  · cases replied
  split at replied
  · cases replied
    exact DispatchState.noConfusion
  · cases replied
    exact DispatchState.noConfusion

theorem licensed_of_careful (sound : (agreement adapters).Sound Outcome config)
    (asked : config.call t = some call) (pending : config.pending t = some cmd)
    (now : careful config t = true)
    : Licensed (answeredIn config) t cmd config.history := by
  have due := sound.pre_of_pending asked pending
  unfold careful at now
  rw [pending] at now
  cases cmd with
  | invokeAdapter request =>
    have free := free_of_isFree now
    simp only [isDispatchable_iff] at free
    exact free
  | recordCancel id reason now' =>
    have free := free_of_isFree now
    simp only [not_eq_true', ← not_eq_true] at free
    exact free
  | recordDispatch id update =>
    obtain ⟨⟨args, target, row, receipt, result, rfl, routed, _, rfl, invocation, own, works⟩,
      unrecorded⟩ := due
    simp only [asked] at now
    refine ⟨?_, ?_, ⟨invocation, own, succeedsFor_iff.mpr ⟨_, _, works⟩⟩, unrecorded⟩
    · exact accepted_of_storable result now (routed.found.storable sound.inv) routed.checked
    · exact dispatchState_of_invoked works.2.2
  | _ => trivial

theorem history_act (sound : (agreement adapters).Sound Outcome config)
    (action : Action (store adapters) Call)
    : (config.act (Call.body adapters) action).history = config.history
      ∨ ∃ t call cmd, action = .step t ∧ config.call t = some call
        ∧ config.pending t = some cmd ∧ Promise adapters t call cmd config.history
        ∧ (config.act (Call.body adapters) action).history = config.history.exec t cmd := by
  cases action with
  | spawn call => exact .inl rfl
  | disturb event => exact isEmptyElim event
  | step t =>
    have moved := config.advance_history t
    cases pending : config.pending t with
    | none =>
      rw [pending] at moved
      exact .inl moved
    | some cmd =>
      rw [pending] at moved
      obtain ⟨call, asked⟩ := call_of_pending pending
      exact .inr ⟨t, call, cmd, rfl, asked, pending, sound.pre_of_pending asked pending,
        moved⟩

theorem governed_act (sound : (agreement adapters).Sound Outcome config)
    (fits : action.Admitted (fun config t => careful config t = true) config)
    (governed : Governed (answeredIn config) config.history)
    : Governed (answeredIn (config.act (Call.body adapters) action))
        (config.act (Call.body adapters) action).history := by
  have later (t : Nat) : answeredIn config t
      → answeredIn (config.act (Call.body adapters) action) t := by
    rintro ⟨answer, answered⟩
    exact ⟨answer, answer_act _ answered action⟩
  rcases history_act sound action with same | ⟨t, call, cmd, rfl, asked, pending, _, moved⟩
  · rw [same]
    exact governed.mono later
  · rw [moved]
    exact (governed.exec (Lives.keyed sound.inv) (finished_of_sound sound)
      (licensed_of_careful sound asked pending fits)).mono later

/-- A careful step leaves a run that has ended alone, and invokes no adapter for it. -/
theorem terminal_act (sound : (agreement adapters).Sound Outcome config)
    (fits : action.Admitted (fun config t => careful config t = true) config)
    (governed : Governed (answeredIn config) config.history)
    (terminal : status.isTerminal = true)
    (ended : At config.state id (fun row => row.status = status))
    : At (config.act (Call.body adapters) action).state id (fun row => row.status = status)
      ∧ ∀ issued ∈ (config.act (Call.body adapters) action).history.log,
        succeedsFor id issued = true → issued ∈ config.history.log := by
  rcases history_act sound action with same | ⟨t, call, cmd, rfl, asked, pending, _, moved⟩
  · unfold Config.state
    rw [same]
    exact ⟨ended, fun issued noted _ => noted⟩
  · unfold Config.state
    rw [moved]
    obtain ⟨still, silent⟩ := governed.terminal_exec (Lives.keyed sound.inv)
      (licensed_of_careful sound asked pending fits) terminal ended
    refine ⟨still, fun issued noted works => ?_⟩
    rcases mem_cons.mp noted with rfl | prior
    · cases silent.symm.trans works
    · exact prior

/-- Every step of the run is careful. -/
abbrev Careful (adapters : Adapters) (schedule : List (Action (store adapters) Call)) : Prop :=
  (Config.init (M := store adapters) Database.empty).Admitted (Call.body adapters)
    (fun config t => careful config t = true) schedule

theorem sound_taskRuns (adapters : Adapters) (schedule : List (Action (store adapters) Call))
    : (agreement adapters).Sound Outcome (taskRunsAfter adapters schedule) :=
  (agreement adapters).sound owes_body nil schedule

theorem lives_taskRuns (adapters : Adapters) (schedule : List (Action (store adapters) Call))
    : Lives (taskRunsAfter adapters schedule).history :=
  (sound_taskRuns adapters schedule).inv

theorem governed_run (careful : Careful adapters schedule)
    : Governed (answeredIn (taskRunsAfter adapters schedule))
        (taskRunsAfter adapters schedule).history := by
  have start : Governed (answeredIn (taskRunsAfter adapters [])) (taskRunsAfter adapters []).history :=
    ⟨fun _ => Nat.zero_le 1, fun noted => absurd noted not_mem_nil,
      fun noted => absurd noted not_mem_nil, fun noted => absurd noted not_mem_nil⟩
  exact careful.induction (J := fun config => Governed (answeredIn config) config.history) start
    (fun before _ _ now governed => governed_act (sound_taskRuns adapters before) now governed)

theorem ended_run {before after : List (Action (store adapters) Call)}
    (careful : Careful adapters (before ++ after)) (terminal : status.isTerminal = true)
    (ended : At (taskRunsAfter adapters before).state id (fun row => row.status = status))
    : At (taskRunsAfter adapters (before ++ after)).state id (fun row => row.status = status)
      ∧ ∀ issued ∈ (taskRunsAfter adapters (before ++ after)).history.log,
        succeedsFor id issued = true → issued ∈ (taskRunsAfter adapters before).history.log := by
  obtain ⟨first, second⟩ := (admitted_append before after).mp careful
  let Stays (config : Config (store adapters) Call Text Answer) : Prop :=
    Governed (answeredIn config) config.history
    ∧ At config.state id (fun row => row.status = status)
    ∧ ∀ issued ∈ config.history.log,
      succeedsFor id issued = true → issued ∈ (taskRunsAfter adapters before).history.log
  have act {config : Config (store adapters) Call Text Answer} {action : Action (store adapters) Call}
      (sound : (agreement adapters).Sound Outcome config)
      (fits : action.Admitted (fun config t => TaskRuns.careful config t = true) config)
      (holds : Stays config)
      : Stays (config.act (Call.body adapters) action) := by
    obtain ⟨governed, ended, known⟩ := holds
    obtain ⟨still, silent⟩ := terminal_act sound fits governed terminal ended
    exact ⟨governed_act sound fits governed, still, fun issued noted works =>
      known issued (silent issued noted works) works⟩
  have kept : Stays (taskRunsAfter adapters (before ++ after)) :=
    (agreement adapters).admitted_from owes_body nil
      ⟨governed_run first, ended, fun _ noted _ => noted⟩ act second
  exact kept.2

theorem find_of_at (keyed : Keyed Row.taskRunId db.taskRuns) (at1 : At db id p)
    : ∃ row, find db.taskRuns id = some row ∧ p row := by
  obtain ⟨row, present, rfl, holds⟩ := at1
  exact ⟨row, keyed.find_eq present, holds⟩

/-- The one call behind what is stored in a row. Witness: the update of the row was written by a call
that had invoked the adapter itself, and no other did.
-/
theorem storedByOne_of_careful (careful : Careful adapters schedule)
    (present : row ∈ taskRuns (taskRunsAfter adapters schedule).state)
    : StoredByOne (taskRunsAfter adapters schedule) row := by
  have lives := lives_taskRuns adapters schedule
  rcases lives.sourced row present with blank | ⟨issued, noted, update, records, holds⟩
  · exact .nothing blank.receipt blank.job blank.committer
  obtain ⟨later, prior, split⟩ := append_of_mem noted
  have le : issued :: prior <:+ (taskRunsAfter adapters schedule).history.log := ⟨later, split.symm⟩
  obtain ⟨call, asked, _, due⟩ :=
    (agreement adapters).promised_at owes_body nil schedule le
  rw [show issued.command = .recordDispatch row.taskRunId update from records] at due
  obtain ⟨⟨args, target, read, receipt, result, rfl, routed, named, rfl, invocation, own,
    works⟩, _⟩ := due
  obtain ⟨logged', thread⟩ := mem_own.mp own
  have known := ((suffix_cons _ _).trans le).subset logged'
  refine .one invocation known args target _ result (thread ▸ asked) routed.read named works
    holds.receipt holds.job holds.committer (fun other mem succeeds' => ?_)
  exact eq_of_countP_le_one ((governed_run careful).once row.taskRunId) mem known succeeds'
    (succeedsFor_iff.mpr ⟨_, _, works⟩)

theorem reports_of_answer {t : Nat} {call : Call} {answer : Answer}
    (asked : (taskRunsAfter adapters schedule).call t = some call)
    (answered : (taskRunsAfter adapters schedule).answer t = some (.ok answer))
    (ok : answer.isOk = true)
    : Reports call ((taskRunsAfter adapters schedule).history.own t) := by
  obtain ⟨entry, found, ended⟩ := bind_eq_some_iff.mp answered
  obtain ⟨other, found', rfl⟩ := map_eq_some_iff.mp asked
  cases (found.symm.trans found')
  exact ((sound_taskRuns adapters schedule).post_of_answer found ended).reported answer rfl ok

/-- The write of a dispatch follows a successful invocation by the same call. -/
theorem invoked_of_records (noted : issued ∈ (taskRunsAfter adapters schedule).history.log)
    (records : Records id update issued)
    : ∃ other ∈ (taskRunsAfter adapters schedule).history.log,
        other.thread = issued.thread ∧ succeedsFor id other = true := by
  obtain ⟨prior, le, _, call, due⟩ :=
    at_issued (lives_taskRuns adapters schedule) noted
  rw [show issued.command = .recordDispatch id update from records] at due
  obtain ⟨⟨_, _, _, _, _, _, _, _, _, invocation, own, works⟩, _⟩ := due
  obtain ⟨logged', thread⟩ := mem_own.mp own
  exact ⟨invocation, ((suffix_cons _ _).trans le).subset logged', thread,
    succeedsFor_iff.mpr ⟨_, _, works⟩⟩

namespace Sample

def ambient : Ambient where
  now := text "now"
  uuid := text "uuid"
  toLowerCase s := s

/-- Every invocation succeeds, with a job of its own. -/
def replies : Adapters := fun steps _ =>
  .ok { jobId := digitText steps, receiptId := text "receipt", resultSummary := text "done" }

def actor : Value := .string (text "user:ann")

def propose (id : String) (parent : Value) : Call :=
  .propose
    { taskRunId := .string (text id)
      requestedBy := actor, assigneeActorId := .undefined, conversationId := .undefined
      parentTurnId := .undefined, attachmentRefs := textList [text "grant:one"]
      objectRefs := .undefined, note := .undefined, requestedIntent := .undefined
      parentTaskRunId := parent, requiredCapabilities := textList [text "repo.read"]
      policyPreset := .undefined, budgetEnvelope := .undefined
      ambient }

/-- A dispatch along a supplied route, which may list capabilities. -/
def dispatch (id executor : String) (capabilities : Value) : Call :=
  .dispatch
    { taskRunId := .string (text id)
      humanCommit := .bool true, committedBy := actor, preferredExecutor := .undefined
      policyPreset := .undefined, budgetEnvelope := .undefined
      requiredCapabilities := .undefined
      routeReceipt :=
        .literal
          [(text "selected_executor_id", .string (text executor)),
            (text "selection_reason", .string (text "chosen")),
            (text "route_receipt_id", .string (text "errcpt:one")),
            (text "required_capabilities", capabilities)]
      adapterOptions := .undefined
      ambient }

def cancel (id : String) : Call :=
  .cancel
    { taskRunId := .string (text id), actorId := actor, reason := .undefined, now := text "now" }

/-- A number of steps of one thread. -/
def steps (count thread : Nat) : List (Action (store adapters) Call) :=
  List.replicate count (.step thread)

/-- A run is dispatched, and a second one is cancelled. -/
def orderly : List (Action (store adapters) Call) :=
  .spawn (propose "tr:1" .null) :: steps 2 0
    ++ .spawn (dispatch "tr:1" "exec:deterministic-mcp" .undefined) :: steps 5 1
    ++ .spawn (propose "tr:2" .null) :: steps 2 2 ++ .spawn (cancel "tr:2") :: steps 3 3

/-- Both dispatches of one run read it before the other writes. -/
def crossing : List (Action (store adapters) Call) :=
  .spawn (propose "tr:1" .null) :: steps 2 0
    ++ .spawn (dispatch "tr:1" "exec:deterministic-mcp" .undefined)
    :: .spawn (dispatch "tr:1" "exec:deterministic-mcp" .undefined) :: steps 1 1 ++ steps 5 2
    ++ steps 4 1

end Sample

/-- Where every step is careful, the life cycle of every run is kept. Witness: a run that can still be
dispatched has no written dispatch, and one that was cancelled has no dispatch under way.
-/
theorem lifeCycle_of_careful (adapters : Adapters) (before after : List (Action (store adapters) Call))
    (careful : Careful adapters (before ++ after))
    : LifeCycle adapters before after := by
  have first := ((admitted_append before after).mp careful).1
  refine ⟨(governed_run careful).once, ?_, ?_, fun row present => storedByOne_of_careful careful present⟩
  · intro row present terminal
    obtain ⟨still, _⟩ := ended_run careful terminal ⟨row, present, rfl, rfl⟩
    obtain ⟨row', found, same⟩ :=
      find_of_at (lives_taskRuns adapters (before ++ after)).keyed still
    rw [found]
    exact congrArg some same
  · intro canceller cancellation id actor cancelAnswer dispatcher args target dispatchAnswer
      asked read answered ok asked' read' named unanswered answered'
    obtain ⟨id', actor', cancel, reason, now, read1, own, cancels⟩ :=
      reports_of_answer asked answered ok
    obtain rfl : id = id' := (Prod.mk.inj (Except.ok.inj (read.symm.trans read1))).1
    obtain ⟨⟨row, present, rfl, terminal⟩, settled⟩ :=
      (governed_run first).cancelled (mem_own.mp own).1 cancels
    obtain ⟨_, known⟩ := ended_run careful terminal ⟨row, present, rfl, rfl⟩
    rw [← not_eq_true]
    intro ok'
    obtain ⟨target', recording, update, read2, own', records, _⟩ :=
      reports_of_answer asked' answered' ok'
    obtain rfl : target = target' := Except.ok.inj (read'.symm.trans read2)
    rw [named] at records
    obtain ⟨recorded, thread⟩ := mem_own.mp own'
    obtain ⟨invocation, logged, thread', succeeds⟩ := invoked_of_records recorded records
    obtain ⟨answer, before'⟩ := settled invocation (known invocation logged succeeds) succeeds
    rw [thread', thread, unanswered] at before'
    cases before'

/-- One run that is dispatched, and a cancelled one of which a dispatch is tried. -/
theorem lifeCycle_sample
    : LifeCycle Sample.replies Sample.orderly
        (.spawn (Sample.dispatch "tr:2" "exec:deterministic-mcp" .undefined) :: Sample.steps 5 4) :=
  lifeCycle_of_careful _ _ _ (by decide +kernel)

/-- Two dispatches that have both read the proposed run invoke the adapter twice. -/
theorem dispatchesCanCross : ¬ LifeCycle Sample.replies [] Sample.crossing := by
  intro lifeCycle
  have twice : ¬ (taskRunsAfter Sample.replies Sample.crossing).history.log.countP
      (succeedsFor (text "tr:1")) ≤ 1 := by
    decide +kernel
  exact twice (lifeCycle.once (text "tr:1"))

end CairnStone.TaskRuns
