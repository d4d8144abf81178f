import CairnStone.JavaScript.Members
import CairnStone.TaskRuns.LifeCycle

/-! Which executors are eligible for a dispatch. Routing selects none that lacks a capability of the
work, that the policy objects to, or that is not the preferred one. A dispatch along a route that its
caller supplies takes the executor from there without any of these checks.
-/

namespace CairnStone.TaskRuns

open JavaScript Data Concurrency List Option Program Value DispatchArguments Sample Prod

variable {adapters : Adapters} {ambient : Ambient} {request : RouteRequest} {receipt : Value}
  {required : List Text} {policy : Text}

def effectivePolicy (preset : Value) : Text :=
  match nonEmptyString preset with
  | some s => lowerAscii s
  | none => text "balanced"

def effectiveBudget (envelope : Value) : Value :=
  if envelope.isObject then envelope else .literal []

structure Suits (ambient : Ambient) (request : RouteRequest) (profile : Profile) : Prop where
  covers
    : ∃ required refs, requiredFor ambient request = .ok (required, refs)
      ∧ missingCapabilities profile required = []
  allowed
    : policyObjection profile (effectivePolicy request.policyPreset)
        (effectiveBudget request.budgetEnvelope)
      = none
  preferred
    : ∀ id, nonEmptyString request.preferredExecutor = some id → id = profile.executorId

/-- The value names a registered executor that may do the work of a request. -/
def IsEligible (ambient : Ambient) (request : RouteRequest) (executor : Value) : Prop :=
  ∃ profile ∈ SEED_EXECUTOR_PROFILES,
    executor = .string profile.executorId ∧ Suits ambient request profile

/-- A profile is rejected unless it covers the work and the policy allows it. -/
theorem of_not_rejected {profile : Profile} {budget preferred : Value}
    (kept : rejection profile required policy budget preferred = none)
    : missingCapabilities profile required = [] ∧ policyObjection profile policy budget = none := by
  unfold rejection at kept
  extract_lets lost at kept
  by_cases covers : lost = []
  · refine ⟨covers, ?_⟩
    rw [if_neg (not_not.mpr covers)] at kept
    cases objection : policyObjection profile policy budget with
    | none => rfl
    | some reason =>
      rw [objection] at kept
      cases kept
  · rw [if_pos covers] at kept
    cases kept

theorem of_selectExecutor {eligible : List Profile} {reason : Text} {preferred : Value}
    {picked : Profile}
    (chosen : selectExecutor eligible required policy preferred = .ok (picked, reason))
    : picked ∈ eligible ∧ ∀ id, nonEmptyString preferred = some id → id = picked.executorId := by
  unfold selectExecutor at chosen
  cases named : nonEmptyString preferred with
  | none =>
    refine ⟨?_, fun id never => by cases never⟩
    simp only [named] at chosen
    by_cases manual : policy = text "manual"
    · rw [if_pos manual] at chosen
      cases chosen
    · rw [if_neg manual] at chosen
      cases sorted : eligible.mergeSort (ranksBefore policy) with
      | nil =>
        rw [sorted] at chosen
        cases chosen
      | cons first rest =>
        rw [sorted] at chosen
        obtain ⟨rfl, _⟩ := mk.inj (Except.ok.inj chosen)
        have mem : first ∈ eligible.mergeSort (ranksBefore policy) := by
          rw [sorted]
          exact .head _
        exact mem_mergeSort.mp mem
  | some id =>
    simp only [named] at chosen
    by_cases formed : (!isExecutorId id) = true
    · rw [if_pos formed] at chosen
      cases chosen
    · rw [if_neg formed] at chosen
      cases found : eligible.find? (·.executorId == id) with
      | none =>
        simp only [found] at chosen
        split at chosen
        · cases chosen
        · cases chosen
      | some profile =>
        simp only [found] at chosen
        obtain ⟨rfl, _⟩ := mk.inj (Except.ok.inj chosen)
        refine ⟨mem_of_find?_eq_some found, fun other same => ?_⟩
        cases same
        have hit := find?_some found
        exact (beq_iff_eq.mp hit).symm

theorem isEligible_of_routed (routed : routeExecutor ambient request = .ok receipt)
    : IsEligible ambient request (receipt.get (text "selected_executor_id")) := by
  unfold routeExecutor at routed
  extract_lets policy at routed
  by_cases known : (!POLICY_PRESETS.contains policy) = true
  · rw [if_pos known] at routed
    cases routed
  rw [if_neg known] at routed
  obtain ⟨⟨required, refs⟩, inferred, routed⟩ := bind_eq_ok.mp routed
  obtain ⟨⟨picked, reason⟩, chosen, routed⟩ := bind_eq_ok.mp routed
  cases routed
  obtain ⟨mem, preferred⟩ := of_selectExecutor chosen
  obtain ⟨registered, kept⟩ := mem_filter.mp mem
  obtain ⟨covers, allowed⟩ := of_not_rejected (isNone_iff_eq_none.mp kept)
  exact ⟨picked, registered, rfl, ⟨required, refs, inferred, covers⟩, allowed, preferred⟩

/-- Where a profile is asked for by its name, it is rejected only for the work and the policy. -/
theorem rejection_preferred_iff {profile : Profile} {budget : Value}
    : rejection profile required policy budget (.string profile.executorId) = none
      ↔ missingCapabilities profile required = [] ∧ policyObjection profile policy budget = none := by
  refine ⟨of_not_rejected, fun ⟨covers, allowed⟩ => ?_⟩
  have own : (string profile.executorId).strictEquals (.string profile.executorId) = true :=
    beq_self_eq_true profile.executorId
  unfold rejection
  simp only [covers, allowed, own]
  simp

namespace DispatchArguments

def suppliesEligible (args : DispatchArguments) (request : RouteRequest) : Bool :=
  match requiredFor args.ambient request with
  | .error _ => false
  | .ok (required, _) =>
    SEED_EXECUTOR_PROFILES.any (fun profile =>
      (args.routeReceipt.get (text "selected_executor_id")).strictEquals
        (.string profile.executorId)
      && (rejection profile required (effectivePolicy request.policyPreset)
          (effectiveBudget request.budgetEnvelope) (.string profile.executorId)).isNone
      && (nonEmptyString request.preferredExecutor).all (· == profile.executorId))

/-- The dispatch is routed, or along a supplied route that routing would allow. -/
def routesEligibly (args : DispatchArguments) (taskRun : TaskRun) (committer : Text) : Bool :=
  !args.suppliesRoute
  || args.suppliesEligible (args.routeRequest taskRun committer)

end DispatchArguments

variable {args : DispatchArguments} {taskRun : TaskRun} {committer : Text}

theorem suppliesEligible_iff {request : RouteRequest}
    : args.suppliesEligible request = true
      ↔ IsEligible args.ambient request
          (args.routeReceipt.get (text "selected_executor_id")) := by
  unfold suppliesEligible
  cases inferred : requiredFor args.ambient request with
  | error why =>
    refine ⟨fun never => absurd never Bool.false_ne_true, ?_⟩
    rintro ⟨profile, _, _, ⟨required, refs, same, _⟩, _, _⟩
    cases inferred.symm.trans same
  | ok work =>
    obtain ⟨required, refs⟩ := work
    simp only [List.any_eq_true, Bool.and_eq_true]
    constructor
    · rintro ⟨profile, registered, ⟨names, kept⟩, preferred⟩
      obtain ⟨covers, allowed⟩ := rejection_preferred_iff.mp (isNone_iff_eq_none.mp kept)
      refine ⟨profile, registered, strictEquals_string_iff.mp names,
        ⟨required, refs, inferred, covers⟩, allowed, fun id same => ?_⟩
      rw [same] at preferred
      exact beq_iff_eq.mp preferred
    · rintro ⟨profile, registered, names, ⟨required', refs', same, covers⟩, allowed, preferred⟩
      obtain ⟨rfl, _⟩ := mk.inj (Except.ok.inj (inferred.symm.trans same))
      refine ⟨profile, registered, ⟨?_, ?_⟩, ?_⟩
      · rw [names]
        exact beq_self_eq_true profile.executorId
      · exact isNone_iff_eq_none.mpr (rejection_preferred_iff.mpr ⟨covers, allowed⟩)
      · cases named : nonEmptyString request.preferredExecutor with
        | none => rfl
        | some id => exact beq_iff_eq.mpr (preferred id named)

/-- Members that are set leave the others. Witness: induction on what is set. -/
theorem member_setProperties {key : Text} {added : List (Text × Value)}
    (others : ∀ entry ∈ added, entry.1 ≠ key) (properties : List (Text × Value))
    : member (setProperties properties added) key = member properties key := by
  induction added generalizing properties with
  | nil => rfl
  | cons entry rest ih =>
    obtain ⟨first, later⟩ := forall_mem_cons.mp others
    have step := ih later (setProperty properties entry.1 entry.2)
    rw [member_setProperty_of_ne first] at step
    exact step

theorem resolved_ne (profile : Profile) (reason : Value)
    : ∀ entry ∈ resolveContextResolution profile reason, entry.1 ≠ text "selected_executor_id" := by
  have names
      : (resolveContextResolution profile reason).map (·.1)
        = [text "context_mode", text "context_resolution", text "context_resolution_reason",
          text "requires_compiled_context", text "compiled_pack_required",
          text "supported_ref_types", text "context_resolution_endpoint"] :=
    rfl
  intro entry mem same
  have seen : text "selected_executor_id" ∈ (resolveContextResolution profile reason).map (·.1) :=
    same ▸ List.mem_map_of_mem mem
  rw [names] at seen
  exact absurd seen (by decide +kernel)

theorem get_enrichRouteReceiptContext (supplied : Value) (isObject : supplied.isObject = true)
    : (enrichRouteReceiptContext supplied).get (text "selected_executor_id")
      = supplied.get (text "selected_executor_id") := by
  cases supplied with
  | object proto properties =>
    unfold enrichRouteReceiptContext
    extract_lets own receipt
    have here : member own (text "selected_executor_id")
        = member properties (text "selected_executor_id") :=
      member_setProperties (by decide +kernel) properties
    split
    · exact here
    · split
      · exact here
      · exact (member_setProperties (resolved_ne _ _) own).trans here
  | _ => cases isObject

theorem isEligible_route_iff (routed : args.route taskRun committer = .ok receipt)
    : IsEligible args.ambient (args.routeRequest taskRun committer)
        (receipt.get (text "selected_executor_id"))
      ↔ args.routesEligibly taskRun committer = true := by
  unfold route at routed
  unfold routesEligibly
  by_cases supplies : args.suppliesRoute = true
  · rw [if_pos supplies] at routed
    cases routed
    have isObject := (Bool.and_eq_true_iff.mp supplies).1
    rw [get_enrichRouteReceiptContext _ isObject, supplies, Bool.not_true, Bool.false_or,
      suppliesEligible_iff]
  · rw [if_neg supplies] at routed
    have own : args.suppliesRoute = false := Bool.eq_false_iff.mpr supplies
    rw [own, Bool.not_false, Bool.true_or]
    exact iff_of_true (isEligible_of_routed routed) rfl

def answerWritten (target : DispatchTarget) (receipt : Value)
    : Except Text Unit → Operation adapters Answer
  | .error error =>
    .done (.refused
      { error := text "task_run_dispatch_persist_failed"
        details := [(text "detail", .string error)] })
  | .ok () => answerWith target.id [(text "route_receipt", receipt)]

def answerInvoked (args : DispatchArguments) (target : DispatchTarget) (taskRun : TaskRun)
    (receipt : Value)
    : Except Text AdapterResult → Operation adapters Answer
  | .error error => .done (.refused { error, details := [(text "route_receipt", receipt)] })
  | .ok result => writeDispatch args target taskRun receipt result

theorem run_writeDispatch (target : DispatchTarget) (result : AdapterResult) (db : Database)
    : (writeDispatch args target taskRun receipt result : Operation adapters Answer).run db
      = (answerWritten target receipt
          (recordDispatch db.taskRuns target.id
            (args.update taskRun target.committer receipt result)).1
          : Operation adapters Answer).run
          { db with
            taskRuns :=
              (recordDispatch db.taskRuns target.id
                (args.update taskRun target.committer receipt result)).2
            steps := db.steps + 1 } := by
  have cut
      : (writeDispatch args target taskRun receipt result : Operation adapters Answer)
        = Program.bind (perform (.recordDispatch target.id
            (args.update taskRun target.committer receipt result)))
          (answerWritten target receipt) := by
    unfold writeDispatch
    refine congrArg (Program.bind _) (funext fun put => ?_)
    cases put with
    | error error => rfl
    | ok nothing => rfl
  rw [cut]
  rfl

theorem run_dispatchAlong (adapters : Adapters) (args : DispatchArguments)
    (target : DispatchTarget) (taskRun : TaskRun) (receipt : Value) (db : Database)
    : ∃ reply after,
        (dispatchAlong args target taskRun receipt : Operation adapters Answer).run db
          = (answerInvoked args target taskRun receipt reply : Operation adapters Answer).run after
        ∧ after.taskRuns = db.taskRuns := by
  have cut
      : (dispatchAlong args target taskRun receipt : Operation adapters Answer)
        = Program.bind (perform (.persistRouteReceipt receipt target.id args.ambient.now))
          (fun _ =>
            Program.bind (perform (.invokeAdapter (args.request taskRun receipt)))
              (answerInvoked args target taskRun receipt)) := by
    unfold dispatchAlong
    refine congrArg (Program.bind _) (funext fun _ => congrArg (Program.bind _) (funext fun reply => ?_))
    cases reply with
    | error error => rfl
    | ok result => rfl
  rw [cut]
  exact ⟨_, _, rfl, rfl⟩

def answerRead (details : List (Text × Value)) : Option Row → Operation adapters Answer
  | none => .fail (text "TypeError")
  | some row => .done (.accepted (rowToTaskRun row) details)

theorem run_answerWith (id : Text) (details : List (Text × Value)) (db : Database)
    : (answerWith id details : Operation adapters Answer).run db
      = (answerRead details (find db.taskRuns id) : Operation adapters Answer).run db := by
  have cut
      : (answerWith id details : Operation adapters Answer)
        = Program.bind (selectTaskRun id) (answerRead details) := by
    unfold answerWith
    refine congrArg (Program.bind _) (funext fun row => ?_)
    cases row with
    | none => rfl
    | some row => rfl
  rw [cut]
  rfl

theorem stored_of_written {target : DispatchTarget} {result : AdapterResult} {db : Database}
    {answer : Answer} {row : Row} (found : find db.taskRuns target.id = some row)
    (said
      : ((writeDispatch args target taskRun receipt result : Operation adapters Answer).run db).1
        = .ok answer)
    (ok : answer.isOk = true)
    : ∃ stored,
        find
            ((writeDispatch args target taskRun receipt result : Operation adapters Answer).run
              db).2.taskRuns
            target.id
          = some stored
        ∧ stored.selectedExecutorId = receipt.get (text "selected_executor_id") := by
  rw [run_writeDispatch] at said ⊢
  unfold recordDispatch at said ⊢
  by_cases accepted : (args.update taskRun target.committer receipt result).accepted = true
  · rw [if_pos accepted] at said ⊢
    have redone
        : find
            (updateWhere (·.taskRunId == target.id)
              (args.update taskRun target.committer receipt result).apply db.taskRuns)
            target.id
          = some ((args.update taskRun target.committer receipt result).apply row) := by
      have named := (mem_of_find found).2
      have kept (row : Row)
          : ((args.update taskRun target.committer receipt result).apply row).taskRunId
            = row.taskRunId :=
        rfl
      unfold find at found ⊢
      refine (find_updateWhere kept target.id).trans ?_
      rw [found, map_some, if_pos (beq_iff_eq.mpr named)]
    refine ⟨(args.update taskRun target.committer receipt result).apply row, ?_, rfl⟩
    unfold answerWritten
    rw [run_answerWith, redone]
    exact redone
  · rw [if_neg accepted] at said
    cases said
    cases ok

theorem stored_of_accepted {db : Database} {target : DispatchTarget} {row : Row} {answer : Answer}
    (read : readDispatch args = .ok target) (found : find db.taskRuns target.id = some row)
    (said
      : ((dispatchTaskRun args : Operation adapters Answer).run db).1 = .ok answer)
    (ok : answer.isOk = true)
    : ∃ receipt stored,
        args.route (rowToTaskRun row) target.committer = .ok receipt
        ∧ find ((dispatchTaskRun args : Operation adapters Answer).run db).2.taskRuns target.id
          = some stored
        ∧ stored.selectedExecutorId = receipt.get (text "selected_executor_id") := by
  unfold dispatchTaskRun at said ⊢
  simp only [read] at said ⊢
  simp only [selectTaskRun, bind_eq, Program.select, read_bind, done_bind,
    run_read, found] at said ⊢
  cases fine : checkDispatch args target (rowToTaskRun row) with
  | error why =>
    simp only [fine] at said
    cases said
    cases ok
  | ok receipt =>
    simp only [fine] at said ⊢
    obtain ⟨reply, after, step, same⟩ :=
      run_dispatchAlong adapters args target (rowToTaskRun row) receipt db
    rw [step] at said ⊢
    cases reply with
    | error error =>
      cases said
      cases ok
    | ok result =>
      obtain ⟨stored, there, chosen⟩ :=
        stored_of_written (by rw [same]; exact found) said ok
      exact ⟨receipt, stored, route_of_checked fine, there, chosen⟩

/-- The executor that an accepted dispatch stores is eligible exactly if the dispatch is routed, or along
a supplied route that routing would allow. Witness: routing rejects every other executor, and a supplied
route is taken as it is.
-/
theorem storesEligible_iff (adapters : Adapters) (args : DispatchArguments) (db : Database)
    (target : DispatchTarget) (read : readDispatch args = .ok target) (row : Row)
    (found : find db.taskRuns target.id = some row) (answer : Answer)
    (answered
      : ((dispatchTaskRun args : Operation adapters Answer).run db).1 = .ok answer)
    (ok : answer.isOk = true)
    : ∃ stored,
        find ((dispatchTaskRun args : Operation adapters Answer).run db).2.taskRuns target.id
          = some stored
        ∧ (IsEligible args.ambient
              (args.routeRequest (rowToTaskRun row) target.committer) stored.selectedExecutorId
            ↔ args.routesEligibly (rowToTaskRun row) target.committer = true) := by
  obtain ⟨receipt, stored, routed, there, chosen⟩ := stored_of_accepted read found answered ok
  refine ⟨stored, there, ?_⟩
  rw [chosen]
  exact isEligible_route_iff routed

namespace Sample

/-- The args of a dispatch of work that edits a repository. -/
def edit (preferred receipt : Value) : DispatchArguments where
  taskRunId := .string (text "tr:1")
  humanCommit := .bool true
  committedBy := actor
  preferredExecutor := preferred
  policyPreset := .undefined
  budgetEnvelope := .undefined
  requiredCapabilities := textList [text "repo.edit"]
  routeReceipt := receipt
  adapterOptions := .undefined
  ambient := Sample.ambient

/-- A route receipt that selects an executor which cannot edit. -/
def delegateReceipt : Value :=
  .literal
    [(text "selected_executor_id", .string (text "exec:cairnstone-delegate")),
      (text "selection_reason", .string (text "chosen")),
      (text "route_receipt_id", .string (text "errcpt:one"))]

/-- A database with one proposed run. -/
def proposed : Database :=
  (taskRunsAfter replies (.spawn (propose "tr:1" .null) :: steps 2 0)).state

def target : DispatchTarget where
  id := text "tr:1"
  committer := text "user:ann"

/-- Whether a dispatch of the proposed run is accepted. -/
def accepts (args : DispatchArguments) : Bool :=
  ((dispatchTaskRun args : Operation replies Answer).run proposed).1.toOption.any Answer.isOk

theorem answer_of_accepts {args : DispatchArguments} (accepted : accepts args = true)
    : ∃ answer,
        ((dispatchTaskRun args : Operation replies Answer).run proposed).1 = .ok answer
        ∧ answer.isOk = true := by
  unfold accepts at accepted
  cases said : ((dispatchTaskRun args : Operation replies Answer).run proposed).1 with
  | error message =>
    rw [said] at accepted
    cases accepted
  | ok answer =>
    rw [said] at accepted
    exact ⟨answer, rfl, accepted⟩

theorem proposed_found : ∃ row, find proposed.taskRuns (text "tr:1") = some row := by
  have present : (find proposed.taskRuns (text "tr:1")).isSome = true := by decide +kernel
  exact isSome_iff_exists.mp present

def eligibly (args : DispatchArguments) : Bool :=
  (find proposed.taskRuns (text "tr:1")).any (fun row =>
    args.routesEligibly (rowToTaskRun row) target.committer)

end Sample

/-- A dispatch with a preferred executor stores an eligible one. -/
theorem storesEligible_preferred
    : ∃ row stored,
        find Sample.proposed.taskRuns (text "tr:1") = some row
        ∧ find
            ((dispatchTaskRun (Sample.edit (.string (text "exec:cursor-cloud")) .undefined)
              : Operation Sample.replies Answer).run Sample.proposed).2.taskRuns
            (text "tr:1")
          = some stored
        ∧ IsEligible Sample.ambient
            ((Sample.edit (.string (text "exec:cursor-cloud")) .undefined).routeRequest
              (rowToTaskRun row) (text "user:ann"))
            stored.selectedExecutorId := by
  have accepted : accepts (edit (.string (text "exec:cursor-cloud")) .undefined) = true := by
    decide +kernel
  obtain ⟨row, found⟩ := proposed_found
  obtain ⟨answer, answered, ok⟩ := answer_of_accepts accepted
  obtain ⟨stored, there, eligible⟩ :=
    storesEligible_iff replies _ proposed target rfl row found answer answered ok
  exact ⟨row, stored, found, there, eligible.mpr rfl⟩

/-- A dispatch along a supplied route stores an executor which lacks a capability that the work requires.
-/
theorem storesIneligible
    : ∃ row stored,
        find Sample.proposed.taskRuns (text "tr:1") = some row
        ∧ Sample.accepts (Sample.edit .undefined Sample.delegateReceipt) = true
        ∧ find
            ((dispatchTaskRun (Sample.edit .undefined Sample.delegateReceipt)
              : Operation Sample.replies Answer).run Sample.proposed).2.taskRuns
            (text "tr:1")
          = some stored
        ∧ ¬ IsEligible Sample.ambient
            ((Sample.edit .undefined Sample.delegateReceipt).routeRequest (rowToTaskRun row)
              (text "user:ann"))
            stored.selectedExecutorId := by
  have accepted : accepts (edit .undefined delegateReceipt) = true := by
    decide +kernel
  have refused : eligibly (edit .undefined delegateReceipt) = false := by
    decide +kernel
  obtain ⟨row, found⟩ := proposed_found
  obtain ⟨answer, answered, ok⟩ := answer_of_accepts accepted
  have read : readDispatch (edit .undefined delegateReceipt) = .ok target := rfl
  obtain ⟨receipt, stored, routed, there, chosen⟩ := stored_of_accepted read found answered ok
  refine ⟨row, stored, found, accepted, there, ?_⟩
  rw [chosen]
  intro eligible
  have allowed := (isEligible_route_iff routed).mp eligible
  unfold eligibly at refused
  rw [found, any_some, allowed] at refused
  cases refused

end CairnStone.TaskRuns
