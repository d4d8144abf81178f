import CairnStone.TaskRuns.LifeCycle
import Mathlib.Logic.Relation

/-! Delegation ceilings. A proposal is checked against its parent once, while a dispatch replaces the
capabilities of a run by what its caller or its route lists. The ceilings hold throughout where no
dispatch lists more than the parent of its run has.
-/

namespace CairnStone.TaskRuns

open JavaScript Data Concurrency List Option Bool Database Command DispatchArguments

variable {adapters : Adapters} {h h' : History (store adapters)} {t : Nat} {call : Call} {id : Text}
  {cmd : Command}
  {row : Row}

def capabilitiesWithin (child parent : Value) : Bool :=
  match setElements child, setElements parent with
  | some own, some allowed => own.all (fun value => allowed.any (·.strictEquals value))
  | _, _ => false

structure WithinCeilings (parent child : Row) : Prop where
  capabilities : capabilitiesWithin child.requiredCapabilities parent.requiredCapabilities = true
  attachments
    : refsSubset child.attachmentRefs (orElse parent.attachmentRefs parent.objectRefs) = true
  objects : refsSubset child.objectRefs (orElse parent.objectRefs parent.attachmentRefs) = true
  depth : child.delegationDepth = parent.delegationDepth + 1
  bounded : child.delegationDepth ≤ TASK_RUN_MAX_DELEGATION_DEPTH

def IsChildOf (rows : List Row) (child parent : Row) : Prop :=
  child ∈ rows ∧ parent ∈ rows ∧ child.parentTaskRunId = some parent.taskRunId

/-- Every run with a parent is within its ceilings, and no run has a capability that one of its ancestors
lacks.
-/
structure Ceilings (db : Database) : Prop where
  kept
    : ∀ child ∈ db.taskRuns, ∀ parentId, child.parentTaskRunId = some parentId
      → ∃ parent ∈ db.taskRuns, parent.taskRunId = parentId ∧ WithinCeilings parent child
  contained
    : ∀ {run ancestor}, Relation.TransGen (IsChildOf db.taskRuns) run ancestor
      → capabilitiesWithin run.requiredCapabilities ancestor.requiredCapabilities = true

def DispatchArguments.listedCapabilities (args : DispatchArguments) (row : Row)
    (committer : Text)
    : Value :=
  let receipt := enrichRouteReceiptContext args.routeReceipt
  if args.suppliesRoute then
    (receipt.get (text "required_capabilities")).or (args.capabilities (rowToTaskRun row))
  else
    match requiredFor args.ambient (args.routeRequest (rowToTaskRun row) committer) with
    | .ok (required, _) => textList required
    | .error _ => .undefined

def isRestrained (rows : List Row) (args : DispatchArguments) (target : DispatchTarget)
    : Bool :=
  match find rows target.id with
  | none => true
  | some row =>
    (rowToTaskRun row).dispatchable
    && (row.parentTaskRunId.bind (find rows)).all (fun parent =>
      capabilitiesWithin (jsonCopy (args.listedCapabilities row target.committer))
        parent.requiredCapabilities)

/-- A dispatch is written only if it is restrained. -/
def restrained (config : Config (store adapters) Call Text Answer) (t : Nat) : Bool :=
  match (config.pending t : Option Command), config.call t with
  | some (.recordDispatch _ _), some (.dispatch args) =>
    match readDispatch args with
    | .ok target => isRestrained (Database.taskRuns config.state) args target
    | .error _ => true
  | _, _ => true

/-- Every step of the run is restrained. -/
abbrev Restrained (adapters : Adapters) (schedule : List (Action (store adapters) Call)) : Prop :=
  (Config.init (M := store adapters) Database.empty).Admitted (Call.body adapters)
    (fun config t => restrained config t = true) schedule

theorem capabilitiesWithin_iff {child parent : Value}
    : capabilitiesWithin child parent = true
      ↔ ∃ own allowed, setElements child = some own ∧ setElements parent = some allowed
        ∧ ∀ value ∈ own, ∃ element ∈ allowed, element.strictEquals value = true := by
  unfold capabilitiesWithin
  cases setElements child with
  | none => simp
  | some own =>
    cases setElements parent with
    | none => simp
    | some allowed => simp [List.all_eq_true, List.any_eq_true]

theorem capabilitiesWithin_trans {first second third : Value}
    (lower : capabilitiesWithin first second = true)
    (upper : capabilitiesWithin second third = true)
    : capabilitiesWithin first third = true := by
  obtain ⟨own, middle, elements, elements', within⟩ := capabilitiesWithin_iff.mp lower
  obtain ⟨middle', allowed, same, elements'', within'⟩ := capabilitiesWithin_iff.mp upper
  obtain rfl : middle = middle' := some.inj (elements'.symm.trans same)
  refine capabilitiesWithin_iff.mpr ⟨own, allowed, elements, elements'', ?_⟩
  intro value mem
  obtain ⟨between, mem', equal⟩ := within value mem
  obtain ⟨last, mem'', equal'⟩ := within' between mem'
  exact ⟨last, mem'', Value.strictEquals_trans equal' equal⟩

theorem within_of_capsSubset {capabilities : List Text} {parent : Value}
    (fine : capsSubset capabilities parent = some true)
    : capabilitiesWithin (textList capabilities) parent = true := by
  unfold capsSubset at fine
  cases elements : setElements parent with
  | none => simp [elements] at fine
  | some allowed =>
    have seen : setElements (textList capabilities) = some (capabilities.map .string) := by
      simp [setElements, textList, Value.truthy, List.map_map, Function.comp_def]
    refine capabilitiesWithin_iff.mpr ⟨_, allowed, seen, elements, ?_⟩
    intro value mem
    obtain ⟨capability, here, rfl⟩ := List.mem_map.mp mem
    simp only [elements, map_some, Option.some.injEq, List.all_eq_true,
      List.any_eq_true] at fine
    exact fine capability here

/-- Containment along parents is containment along every chain of ancestors. -/
theorem Ceilings.of_kept {db : Database} (keyed : Keyed Row.taskRunId db.taskRuns)
    (kept
      : ∀ child ∈ db.taskRuns, ∀ parentId, child.parentTaskRunId = some parentId
        → ∃ parent ∈ db.taskRuns, parent.taskRunId = parentId ∧ WithinCeilings parent child)
    : Ceilings db := by
  have step {child parent : Row} (related : IsChildOf db.taskRuns child parent)
      : capabilitiesWithin child.requiredCapabilities parent.requiredCapabilities = true := by
    obtain ⟨here, present', names⟩ := related
    obtain ⟨row, mem, same, within⟩ := kept child here _ names
    obtain rfl : row = parent := keyed.eq_of_key mem present' same
    exact within.capabilities
  refine ⟨kept, fun {run ancestor} chain => ?_⟩
  induction chain with
  | single related => exact step related
  | tail _ related ih => exact capabilitiesWithin_trans ih (step related)

/-- The newest state is the only one that a step adds to what was there. -/
theorem wasThere_exec (found : WasThere row (h.exec t cmd))
    : WasThere row h ∨ row ∈ taskRuns (h.exec t cmd).state := by
  obtain ⟨log, le, here⟩ := found
  rcases suffix_cons_iff.mp le with rfl | prior
  · exact .inr here
  · exact .inl ⟨log, prior, here⟩

theorem not_dispatchable_apply {update : DispatchUpdate}
    (dispatched : update.dispatchState ≠ .notDispatched)
    : ¬ isDispatchable (update.apply row) :=
  fun ready => dispatched ready.2

theorem not_dispatchable_cancel (row : Row) (reason now : Text)
    : ¬ isDispatchable (row.cancel reason now) :=
  fun ready => Status.noConfusion ready.1

/-- While a run can be dispatched, its capabilities are those that it was proposed with. -/
theorem Lives.undispatched (lives : Lives h)
    : ∀ row, WasThere row h
      → At h.state row.taskRunId (fun now => isDispatchable now
        → now.requiredCapabilities = row.requiredCapabilities) := by
  refine Kept.invariant
    (J := fun h => ∀ row, WasThere row h
      → At h.state row.taskRunId (fun now => isDispatchable now
        → now.requiredCapabilities = row.requiredCapabilities))
    lives ?_ ?_
  · rintro row ⟨log, le, here⟩
    cases suffix_nil.mp le
    exact absurd here not_mem_nil
  rintro g t cmd _ ⟨call, due⟩ same row found
  rcases wasThere_exec found with prior | here
  · refine (same row prior).keep (fun now _ equal => ?_)
    cases cmd with
    | setChildren id childTaskRunIds updatedAt =>
      simp only [rewrite]
      split
      · exact equal
      · exact equal
    | recordDispatch id update =>
      obtain ⟨⟨_, _, _, _, _, _, _, _, rfl, _, _, works⟩, _⟩ := due
      simp only [rewrite]
      split
      · exact fun ready =>
          absurd ready (not_dispatchable_apply (dispatchState_of_invoked works.2.2))
      · exact equal
    | recordCancel id reason now' =>
      simp only [rewrite]
      split
      · exact fun ready => absurd ready (not_dispatchable_cancel _ _ _)
      · exact equal
    | _ => exact equal
  · exact ⟨row, here, rfl, fun _ => rfl⟩

def Restrains (cmd : Command) (db : Database) : Prop :=
  match cmd with
  | .recordDispatch id update =>
    update.dispatchState ≠ .notDispatched
    ∧ At db id (fun row => isDispatchable row
      ∧ ∀ parent ∈ db.taskRuns, row.parentTaskRunId = some parent.taskRunId
        → capabilitiesWithin (jsonCopy update.requiredCapabilities) parent.requiredCapabilities
          = true)
  | _ => True

theorem listedCapabilities_eq {args : DispatchArguments} {target : DispatchTarget}
    {now : Row} {receipt : Value}
    (fine : checkDispatch args target (rowToTaskRun row) = .ok receipt)
    (same : SameRun row now)
    (capabilities : now.requiredCapabilities = row.requiredCapabilities)
    (result : AdapterResult)
    : (args.update (rowToTaskRun row) target.committer receipt result).requiredCapabilities
      = args.listedCapabilities now target.committer := by
  have routed := route_of_checked fine
  have named : args.capabilities (rowToTaskRun now)
      = args.capabilities (rowToTaskRun row) := by
    simp only [DispatchArguments.capabilities, rowToTaskRun, capabilities]
  unfold DispatchArguments.route at routed
  unfold listedCapabilities
  simp only [update]
  split at routed
  · rename_i supplies
    cases routed
    rw [if_pos supplies, named]
  · rename_i supplies
    rw [if_neg supplies]
    obtain ⟨⟨required, refs, inferred, seen⟩, _⟩ := routeExecutor_spec routed
    have inferred' : requiredFor args.ambient
          (args.routeRequest (rowToTaskRun now) target.committer)
        = .ok (required, refs) := by
      rw [← inferred]
      simp only [requiredFor, routeRequest, named]
      simp only [rowToTaskRun, same.attachmentRefs, same.objectRefs, same.note]
    rw [inferred', seen]
    rfl

theorem restrains_of_restrained {config : Config (store adapters) Call Text Answer}
    (lives : Lives config.history) (asked : config.call t = some call)
    (pending : config.pending t = some cmd)
    (due : Promise adapters t call cmd config.history)
    (now : restrained config t = true)
    : Restrains cmd config.state := by
  cases cmd with
  | recordDispatch id update =>
    obtain ⟨⟨args, target, row, receipt, result, rfl, routed, rfl, rfl, _, _, works⟩, _⟩ :=
      due
    refine ⟨dispatchState_of_invoked works.2.2, ?_⟩
    obtain ⟨current, here, same, run⟩ := routed.found.later lives
    have found : find (taskRuns config.state) target.id = some current := by
      rw [← routed.named, ← same]
      exact lives.keyed.find_eq here
    simp only [restrained, pending, asked, routed.read, isRestrained, found, and_eq_true]
      at now
    obtain ⟨open', within⟩ := now
    have ready := isDispatchable_iff.mp open'
    have capabilities := At.of_mem lives.keyed here (same ▸ lives.undispatched row routed.found)
    refine ⟨current, here, same.trans routed.named, ready, ?_⟩
    intro parent mem names
    have found' : find (taskRuns config.state) parent.taskRunId = some parent :=
      lives.keyed.find_eq mem
    rw [names] at within
    simp only [bind_some, found', all_some] at within
    rw [listedCapabilities_eq routed.checked run (capabilities ready) result]
    exact within
  | _ => trivial

/-- Once a run cannot be dispatched, a restrained step leaves its capabilities alone. -/
theorem Restrains.closed {db : Database} (restrains : Restrains cmd db)
    (keyed : Keyed Row.taskRunId db.taskRuns) (here : row ∈ db.taskRuns)
    (closed : ¬ isDispatchable row)
    : ¬ isDispatchable (cmd.rewrite row)
      ∧ (cmd.rewrite row).requiredCapabilities = row.requiredCapabilities := by
  cases cmd with
  | setChildren id childTaskRunIds updatedAt =>
    simp only [rewrite]
    split
    · exact ⟨closed, rfl⟩
    · exact ⟨closed, rfl⟩
  | recordDispatch id update =>
    obtain ⟨_, now⟩ := restrains
    have apart : row.taskRunId ≠ id := by
      rintro rfl
      exact closed (now.of_mem keyed here).1
    simp [rewrite, apart, closed]
  | recordCancel id reason now =>
    simp only [rewrite]
    split
    · exact ⟨not_dispatchable_cancel _ _ _, rfl⟩
    · exact ⟨closed, rfl⟩
  | _ => exact ⟨closed, rfl⟩

/-- What restrained steps keep: a run that could no longer be dispatched when it was read still has the
capabilities that it had then, and every child is within the ceilings of such a parent.
-/
structure Contained (h : History (store adapters)) : Prop where
  closed
    : ∀ row, WasThere row h → ¬ isDispatchable row
      → At h.state row.taskRunId (fun now =>
        ¬ isDispatchable now ∧ now.requiredCapabilities = row.requiredCapabilities)
  children
    : ∀ child ∈ Database.taskRuns h.state, ∀ parentId, child.parentTaskRunId = some parentId
      → ∃ parent ∈ Database.taskRuns h.state, parent.taskRunId = parentId
        ∧ ¬ isDispatchable parent ∧ WithinCeilings parent child

theorem of_checkCeilings {proposal : Proposal} {parent : Row}
    (fine : checkCeilings proposal (rowToTaskRun parent) = some (.ok ()))
    : ¬ isDispatchable parent
      ∧ WithinCeilings parent (proposal.row (parent.delegationDepth + 1)) := by
  unfold checkCeilings at fine
  simp only [] at fine
  split at fine
  · cases fine
  rename_i active
  split at fine
  · cases fine
  rename_i depth
  split at fine
  · cases fine
  split at fine
  · cases fine
  rename_i attachments
  split at fine
  · cases fine
  rename_i objects
  obtain ⟨within, subset, result⟩ := map_eq_some_iff.mp fine
  have all : within = true := by
    cases within with
    | true => rfl
    | false => cases result
  subst all
  refine ⟨?_, within_of_capsSubset subset, ?_, ?_, rfl, ?_⟩
  · rintro ⟨status, state⟩
    simp [rowToTaskRun, status, state] at active
  · have inside := not_eq_true' _ ▸ attachments
    exact of_not_eq_false inside
  · have inside := not_eq_true' _ ▸ objects
    exact of_not_eq_false inside
  · exact Nat.le_of_not_lt depth

theorem WithinCeilings.rewrite {parent child : Row} (within : WithinCeilings parent child)
    (cmd : Command)
    (capabilities
      : capabilitiesWithin (cmd.rewrite child).requiredCapabilities
          (cmd.rewrite parent).requiredCapabilities = true)
    : WithinCeilings (cmd.rewrite parent) (cmd.rewrite child) := by
  have ofChild := cmd.sameRun child
  have ofParent := cmd.sameRun parent
  refine ⟨capabilities, ?_, ?_, ?_, ?_⟩
  · rw [ofChild.attachmentRefs, ofParent.attachmentRefs, ofParent.objectRefs]
    exact within.attachments
  · rw [ofChild.objectRefs, ofParent.objectRefs, ofParent.attachmentRefs]
    exact within.objects
  · rw [ofChild.delegationDepth, ofParent.delegationDepth]
    exact within.depth
  · rw [ofChild.delegationDepth]
    exact within.bounded

theorem rewrite_capabilities (cmd : Command) (row : Row)
    : (cmd.rewrite row).requiredCapabilities = row.requiredCapabilities
      ∨ ∃ update, cmd = .recordDispatch row.taskRunId update
        ∧ (cmd.rewrite row).requiredCapabilities = jsonCopy update.requiredCapabilities := by
  cases cmd with
  | setChildren id childTaskRunIds updatedAt =>
    simp only [rewrite]
    split
    · exact .inl rfl
    · exact .inl rfl
  | recordDispatch id update =>
    simp only [rewrite]
    split
    · rename_i hit
      obtain rfl : row.taskRunId = id := eq_of_beq (and_eq_true_iff.mp hit).2
      exact .inr ⟨update, rfl, rfl⟩
    · exact .inl rfl
  | recordCancel id reason now =>
    simp only [rewrite]
    split
    · exact .inl rfl
    · exact .inl rfl
  | _ => exact .inl rfl

/-- A restrained step keeps every child within the ceilings of a parent that is no longer rewritten. -/
theorem Contained.exec (contained : Contained h) (lives : Lives h)
    (due : Promise adapters t call cmd h) (restrains : Restrains cmd h.state)
    : Contained (h.exec t cmd) := by
  have keyed := lives.keyed
  constructor
  · intro row found closed
    rcases wasThere_exec found with prior | here
    · obtain ⟨now, here, same, closed', capabilities⟩ := contained.closed row prior closed
      obtain ⟨still, stays⟩ := restrains.closed keyed here closed'
      exact ⟨_, rewrite_mem cmd here, (cmd.sameRun now).taskRunId.trans same, still,
        stays.trans capabilities⟩
    · exact ⟨row, here, rfl, closed, rfl⟩
  · intro child mem parentId names
    rcases mem_taskRuns_exec mem with ⟨old, here, rfl⟩ | ⟨rfl, _⟩
    · rw [(cmd.sameRun old).parentTaskRunId] at names
      obtain ⟨parent, present', rfl, closed, within⟩ :=
        contained.children old here parentId names
      obtain ⟨still, stays⟩ := restrains.closed keyed present' closed
      refine ⟨_, rewrite_mem cmd present', (cmd.sameRun parent).taskRunId, still,
        within.rewrite cmd ?_⟩
      rw [stays]
      rcases rewrite_capabilities cmd old with same | ⟨update, rfl, same⟩
      · rw [same]
        exact within.capabilities
      · rw [same]
        exact (restrains.2.of_mem keyed here).2 parent present' names
    · obtain ⟨⟨args, proposal, depth, _, _, rfl, placed⟩, _⟩ := due
      cases placed with
      | root free => cases free.symm.trans names
      | child row found named fine =>
        obtain rfl : row.taskRunId = parentId := some.inj (named.symm.trans names)
        obtain ⟨closed, within⟩ := of_checkCeilings fine
        obtain ⟨parent, here, same, run⟩ := found.later lives
        obtain ⟨closed', capabilities⟩ :=
          At.of_mem keyed here (same ▸ contained.closed row found closed)
        refine ⟨parent, ?_, same, closed', ?_⟩
        · have still
              : (Command.insertRun (proposal.row (row.delegationDepth + 1))).rewrite parent
                ∈ taskRuns
                  (h.exec t (.insertRun (proposal.row (row.delegationDepth + 1)))).state :=
            rewrite_mem _ here
          exact still
        · refine ⟨?_, ?_, ?_, ?_, ?_⟩
          · rw [capabilities]
            exact within.capabilities
          · rw [run.attachmentRefs, run.objectRefs]
            exact within.attachments
          · rw [run.attachmentRefs, run.objectRefs]
            exact within.objects
          · rw [run.delegationDepth]
            exact within.depth
          · exact within.bounded

/-- Where every dispatch lists no more than the parent of its run has, the ceilings hold in every state.
Witness: a run has no children before its own dispatch, and no later step changes its capabilities.
-/
theorem ceilings_of_restrained (adapters : Adapters)
    (schedule : List (Action (store adapters) Call)) (restrained : Restrained adapters schedule)
    : Ceilings (taskRunsAfter adapters schedule).state := by
  have start : Contained (⟨empty, []⟩ : History (store adapters)) := by
    refine ⟨?_, fun _ member => absurd member not_mem_nil⟩
    rintro row ⟨log, le, present⟩
    cases suffix_nil.mp le
    exact absurd present not_mem_nil
  have contained : Contained (taskRunsAfter adapters schedule).history := by
    refine (agreement adapters).admitted_run owes_body Kept.nil start ?_
      (fun event => isEmptyElim event) restrained
    intro config t call command sound asked pending promised now contained
    exact contained.exec sound.inv promised
      (restrains_of_restrained sound.inv asked pending promised now)
  refine .of_kept (lives_taskRuns adapters schedule).keyed (fun child present parentId names => ?_)
  obtain ⟨parent, present', same, _, within⟩ := contained.children child present parentId names
  exact ⟨parent, present', same, within⟩

namespace Sample

/-- A parent that is dispatched, and a child that is dispatched with a list of its own. -/
def delegation (capabilities : Value) : List (Action (store replies) Call) :=
  .spawn (propose "tr:1" .null) :: steps 2 0
    ++ .spawn (dispatch "tr:1" "exec:cairnstone-delegate" .undefined) :: steps 5 1
    ++ .spawn (propose "tr:2" (.string (text "tr:1"))) :: steps 5 2
    ++ .spawn (dispatch "tr:2" "exec:github-copilot" capabilities) :: steps 5 3

end Sample

/-- A child that is dispatched with what its parent has. -/
theorem ceilings_sample
    : Ceilings
        (taskRunsAfter Sample.replies (Sample.delegation (textList [text "repo.read"]))).state :=
  ceilings_of_restrained _ _ (by decide +kernel)

/-- A child that is dispatched along a route which lists more has more than its parent. -/
theorem dispatchWidensCapabilities
    : ¬ Ceilings
        (taskRunsAfter Sample.replies (Sample.delegation (textList [text "repo.edit"]))).state := by
  let rows := taskRuns
    (taskRunsAfter Sample.replies (Sample.delegation (textList [text "repo.edit"]))).state
  have widened
      : rows.any (fun child =>
          (child.parentTaskRunId.bind (find rows)).any (fun parent =>
            !capabilitiesWithin child.requiredCapabilities parent.requiredCapabilities))
        = true := by
    decide +kernel
  intro ceilings
  obtain ⟨child, present, widened⟩ := List.any_eq_true.mp widened
  obtain ⟨parent, named, widened⟩ := (Option.any_eq_true _ _).mp widened
  obtain ⟨parentId, names, found⟩ := bind_eq_some_iff.mp named
  obtain ⟨present', same⟩ := mem_of_find found
  obtain ⟨parent', present'', same', within⟩ := ceilings.kept child present parentId names
  obtain rfl : parent = parent' :=
    (lives_taskRuns _ _).keyed.eq_of_key present' present'' (same.trans same'.symm)
  rw [within.capabilities] at widened
  cases widened

end CairnStone.TaskRuns
