import CairnStone.Delegation.Loop
import CairnStone.JavaScript.Members

/-! The conduct of the brokered read loop, whatever its dependencies reply: it reads what is allowed and
was previewed, within its budget and its turns, and a result is reported as done exactly if the last
model turn proposed nothing, unless a turn proposes something once the budget is spent.
-/

namespace CairnStone.Delegation

open Concurrency JavaScript TaskRuns ToolBroker List Option Value Nat

variable {body routed : Value} {reply result : Except Unit Value}
  {spent executedThisTurn limit : Nat} {intent : Intent} {progress : Progress}
  {ended : Except Unit (Option Blocked × TurnProgress)}

abbrev Exchanged := Exchange Call Unit Value

-- Transcripts

def isExecution (exchange : Exchanged) : Bool :=
  match exchange.call with
  | .executeReadToolIntent _ => true
  | _ => false

def isModelCall (exchange : Exchanged) : Bool :=
  match exchange.call with
  | .modelRoute _ => true
  | _ => false

def modelTurn? (exchange : Exchanged) : Option Value :=
  match exchange.call, exchange.reply with
  | .modelRoute _, .ok routed => if (routed.get (text "ok")).isTrue then some routed else none
  | _, _ => none

def executions (log : List Exchanged) : Nat :=
  log.countP isExecution

def modelCalls (log : List Exchanged) : Nat :=
  log.countP isModelCall

def lastTurn (log : List Exchanged) : Option Value :=
  (log.filterMap modelTurn?).getLast?

def AllowedBy (body : Value) (exchange : Exchanged) : Prop :=
  ∃ previewed preview,
    exchange = ⟨.toolPolicyPreview previewed, .ok preview⟩
    ∧ previewed.get (text "context_package") = body.get (text "context_package")
    ∧ previewed.get (text "tool_intent") = body.get (text "tool_intent")
    ∧ (preview.get (text "ok")).isTrue = true
    ∧ isDecision (preview.get (text "decision")) "allow" = true

structure IsGuarded (request : LoopRequest) (earlier : Option Exchanged) (body : Value) : Prop where
  allowed
    : ∃ toolId, (body.get (text "tool_intent")).get (text "tool_id") = .string toolId
      ∧ IsAllowed request.registry request.profile toolId
  previewed
    : request.deps.toolPolicyPreview = true
      → ∃ exchange, earlier = some exchange ∧ AllowedBy body exchange

def Guards (request : LoopRequest) : Option Exchanged → List Exchanged → Prop
  | _, [] => True
  | earlier, exchange :: rest =>
    (∀ body, exchange.call = .executeReadToolIntent body → IsGuarded request earlier body)
    ∧ Guards request (some exchange) rest

structure IsTruthful (result : Value) (turn : Option Value) : Prop where
  ok_iff
    : (result.get (text "ok")).isTrue = true
      ↔ ∃ routed, turn = some routed ∧ proposedIntents routed = []
  text_of_ok
    : (result.get (text "ok")).isTrue = true
      → ∃ routed, turn = some routed
        ∧ (result.get (text "output")).get (text "text") = .string (outputText routed)

/-- What is asked of a loop. -/
structure Conducted (request : LoopRequest) (log : List Exchanged) (result : Except Unit Value) : Prop
    where
  guarded : Guards request none log
  within
    : request.initialToolsExecuted ≤ DELEGATE_LOOP_MAX_TOOL_CALLS
      → request.initialToolsExecuted + executions log ≤ DELEGATE_LOOP_MAX_TOOL_CALLS
  turns : modelCalls log ≤ request.maxTurns
  truthful : ∀ value, result = .ok value → IsTruthful value (lastTurn log)

def restsAt (spent : Nat) (exchange : Exchanged) : Bool :=
  match modelTurn? exchange with
  | none => true
  | some routed => decide (spent < DELEGATE_LOOP_MAX_TOOL_CALLS) || (proposedIntents routed).isEmpty

/-- No model turn proposes anything once the budget is spent. -/
def restsWhenSpent : Nat → List Exchanged → Bool
  | _, [] => true
  | spent, exchange :: rest =>
    restsAt spent exchange && restsWhenSpent (spent + executions [exchange]) rest

-- Transcripts in parts

variable {request : LoopRequest} {earlier : Option Exchanged} {log more : List Exchanged}

theorem executions_append : executions (log ++ more) = executions log + executions more :=
  countP_append

variable {exchange : Exchanged}

theorem executions_cons
    : executions (exchange :: log) = executions [exchange] + executions log :=
  (executions_append : executions ([exchange] ++ log) = _)

theorem modelCalls_append : modelCalls (log ++ more) = modelCalls log + modelCalls more :=
  countP_append

theorem modelTurn?_eq_none (other : isModelCall exchange = false)
    : modelTurn? exchange = none := by
  obtain ⟨call, reply⟩ := exchange
  cases call with
  | modelRoute body => cases other
  | _ => rfl

theorem IsGuarded.of_none (guarded : IsGuarded request none body)
    : IsGuarded request earlier body := by
  refine ⟨guarded.allowed, fun here => ?_⟩
  obtain ⟨exchange, never, _⟩ := guarded.previewed here
  cases never

theorem Guards.of_none (guards : Guards request none log) : Guards request earlier log := by
  cases log with
  | nil => trivial
  | cons exchange rest => exact ⟨fun body executes => (guards.1 body executes).of_none, guards.2⟩

/-- Guarded parts are guarded together. Witness: induction on the first part. -/
theorem Guards.append (first : Guards request earlier log) (second : Guards request none more)
    : Guards request earlier (log ++ more) := by
  induction log generalizing earlier with
  | nil => exact second.of_none
  | cons exchange rest ih => exact ⟨first.1, ih first.2⟩

/-- One more execution, guarded by what came before it. Witness: induction on the transcript. -/
theorem guards_snoc (guards : Guards request earlier log)
    (guard : IsGuarded request log.getLast? body)
    : Guards request earlier (log ++ [⟨.executeReadToolIntent body, reply⟩]) := by
  induction log generalizing earlier with
  | nil =>
    refine ⟨fun body' executes => ?_, trivial⟩
    cases Call.executeReadToolIntent.inj executes
    exact guard.of_none
  | cons exchange rest ih =>
    refine ⟨guards.1, ?_⟩
    cases rest with
    | nil =>
      refine ⟨fun body' executes => ?_, trivial⟩
      cases Call.executeReadToolIntent.inj executes
      exact guard
    | cons next others =>
      rw [getLast?_cons_cons] at guard
      exact ih guards.2 guard

theorem Guards.of_other (other : isExecution exchange = false)
    (guards : Guards request none log)
    : Guards request earlier (exchange :: log) := by
  refine ⟨fun body executes => ?_, guards.of_none⟩
  obtain ⟨call, reply⟩ := exchange
  simp only at executes
  subst executes
  cases other

theorem restsWhenSpent_cons
    : restsWhenSpent spent (exchange :: log)
      = (restsAt spent exchange && restsWhenSpent (spent + executions [exchange]) log) := rfl

/-- The budget of the second part is what the first has left. Witness: induction on the first part. -/
theorem restsWhenSpent_append
    : restsWhenSpent spent (log ++ more)
      = (restsWhenSpent spent log && restsWhenSpent (spent + executions log) more) := by
  induction log generalizing spent with
  | nil => rfl
  | cons exchange rest ih =>
    have counted : executions (exchange :: rest) = executions [exchange] + executions rest :=
      executions_cons
    rw [cons_append, restsWhenSpent_cons, restsWhenSpent_cons, ih, Bool.and_assoc, counted,
      add_assoc]

/-- Where nobody asks the model, nothing is proposed. Witness: induction on the transcript. -/
theorem restsWhenSpent_of_quiet (quiet : ∀ exchange ∈ log, isModelCall exchange = false)
    : restsWhenSpent spent log = true := by
  induction log generalizing spent with
  | nil => rfl
  | cons exchange rest ih =>
    have silent : restsAt spent exchange = true := by
      unfold restsAt
      rw [modelTurn?_eq_none (quiet exchange mem_cons_self)]
    rw [restsWhenSpent_cons, silent, Bool.true_and]
    exact ih (fun other here => quiet other (.tail _ here))

theorem lastTurn_append
    : lastTurn (log ++ more) = (lastTurn more).or (lastTurn log) := by
  unfold lastTurn
  rw [filterMap_append, getLast?_append]

theorem lastTurn_of_quiet (quiet : ∀ exchange ∈ log, isModelCall exchange = false)
    : lastTurn log = none := by
  have silent : log.filterMap modelTurn? = [] :=
    filterMap_eq_nil_iff.mpr (fun exchange here =>
      modelTurn?_eq_none (quiet exchange here))
  unfold lastTurn
  rw [silent]
  rfl

theorem modelCalls_of_quiet (quiet : ∀ exchange ∈ log, isModelCall exchange = false)
    : modelCalls log = 0 :=
  countP_eq_zero.mpr (fun exchange here => by
    rw [quiet exchange here]
    exact Bool.false_ne_true)

-- Intents

structure IntentConducted (request : LoopRequest) (spent : Nat) (added : List Exchanged)
    (result : Except Unit (Except Blocked TurnProgress))
    : Prop where
  guarded : Guards request none added
  quiet : ∀ exchange ∈ added, isModelCall exchange = false
  within : executions added ≤ DELEGATE_LOOP_MAX_TOOL_CALLS - spent
  counted
    : ∀ next, result = .ok (.ok next) → next.progress.toolsExecuted = spent + executions added

variable {host : Host} {world : Dependence} {turn : Turn}

theorem mem_of_contains {toolId : Text}
    (listed : (request.allowlist host).contains toolId = true)
    : IsAllowed request.registry request.profile toolId :=
  isAllowed_of_mem (contains_iff_mem.mp listed)

/-- An intent that nothing is objected to is for a listed tool, within the budget, and its preview allowed
it.
-/
theorem of_no_objection {verdict : PreviewVerdict}
    (none' : objection host request intent verdict spent = none)
    : IsAllowed request.registry request.profile intent.toolId
      ∧ (request.deps.toolPolicyPreview = true → isDecision verdict.decision "allow" = true)
      ∧ spent < DELEGATE_LOOP_MAX_TOOL_CALLS := by
  unfold objection at none'
  simp only [] at none'
  split at none'
  · cases none'
  split at none'
  · cases none'
  split at none'
  · cases none'
  rename_i listed
  split at none'
  · cases none'
  rename_i allows
  split at none'
  · cases none'
  rename_i within
  refine ⟨mem_of_contains (by simpa using listed), ?_, not_le.mp within⟩
  intro here
  simpa [here] using allows

def previewBody (bootstrap : Value) (intent : Intent) : Value :=
  .literal [(text "context_package", bootstrap), (text "tool_intent", intent.value)]

theorem intent_of_executionBody
    : (executionBody host request turn intent executedThisTurn).get (text "tool_intent")
      = intent.value := by
  unfold executionBody
  rw [get_literal, member_cons_of_ne (by decide), member_cons_self]

theorem package_of_executionBody
    : (executionBody host request turn intent executedThisTurn).get (text "context_package")
      = turn.bootstrap := by
  unfold executionBody
  rw [get_literal, member_cons_self]

theorem toolId_of_intent
    : intent.value.get (text "tool_id") = .string intent.toolId := by
  unfold Intent.value
  rw [get_literal, member_cons_of_ne (by decide), member_cons_self]

structure Previewed (request : LoopRequest) (turn : Turn) (intent : Intent) (added : List Exchanged)
    (result : Except Unit (Except Blocked PreviewVerdict))
    : Prop where
  other : ∀ exchange ∈ added, isExecution exchange = false ∧ isModelCall exchange = false
  said
    : ∀ verdict, result = .ok (.ok verdict) → request.deps.toolPolicyPreview = true
      → ∃ preview, added = [⟨.toolPolicyPreview (previewBody turn.bootstrap intent), .ok preview⟩]
        ∧ (preview.get (text "ok")).isTrue = true ∧ verdict.decision = preview.get (text "decision")

theorem adds_previewIntent {log : List Exchanged}
    : Adds (previewIntent request turn.bootstrap intent : Step world _) log
        (Previewed request turn intent) := by
  unfold previewIntent
  cases here : request.deps.toolPolicyPreview with
  | false =>
    rw [Bool.not_false, if_pos rfl]
    refine .done ⟨?_, ?_⟩
    · intro exchange never
      cases never
    · intro verdict _ never
      exact absurd (here.symm.trans never) Bool.false_ne_true
  | true =>
    rw [Bool.not_true, if_neg Bool.false_ne_true]
    have other (reply : Except Unit Value)
        : ∀ exchange ∈ ([⟨.toolPolicyPreview (previewBody turn.bootstrap intent), reply⟩]
            : List Exchanged),
            isExecution exchange = false ∧ isModelCall exchange = false := by
      intro exchange only
      rw [mem_singleton.mp only]
      exact ⟨rfl, rfl⟩
    refine .ask ?_ ?_
    · exact fun error => ⟨other _, fun verdict never => by cases never⟩
    · intro preview
      cases answered : (preview.get (text "ok")).isTrue with
      | false =>
        rw [Bool.not_false, if_pos rfl]
        exact .done ⟨other _, fun verdict never => by cases never⟩
      | true =>
        rw [Bool.not_true, if_neg Bool.false_ne_true]
        refine .done ⟨other _, fun verdict same _ => ⟨preview, rfl, answered, ?_⟩⟩
        rw [← Except.ok.inj (Except.ok.inj same)]

theorem guards_of_other (other : ∀ exchange ∈ log, isExecution exchange = false)
    : Guards request earlier log := by
  induction log generalizing earlier with
  | nil => trivial
  | cons exchange rest ih =>
    exact .of_other (other exchange (.head _))
      (ih (fun later here => other later (.tail _ here)))

theorem executions_of_other (other : ∀ exchange ∈ log, isExecution exchange = false)
    : executions log = 0 :=
  countP_eq_zero.mpr (fun exchange here => by
    rw [other exchange here]
    exact Bool.false_ne_true)

variable {added : List Exchanged}

theorem conducted_read {verdict : PreviewVerdict}
    {result : Except Unit (Except Blocked TurnProgress)}
    (previewed : Previewed request turn intent added (.ok (.ok verdict)))
    (allowed : IsAllowed request.registry request.profile intent.toolId)
    (allows : request.deps.toolPolicyPreview = true → isDecision verdict.decision "allow" = true)
    (within : spent < DELEGATE_LOOP_MAX_TOOL_CALLS)
    (counted : ∀ next, result = .ok (.ok next) → next.progress.toolsExecuted = spent + 1)
    : IntentConducted request spent
        (added
          ++ [⟨.executeReadToolIntent (executionBody host request turn intent executedThisTurn),
              reply⟩])
        result := by
  have others : ∀ exchange ∈ added, isExecution exchange = false :=
    fun exchange here => (previewed.other exchange here).1
  have once
      : executions
            (added
              ++ [⟨.executeReadToolIntent (executionBody host request turn intent executedThisTurn),
                  reply⟩])
        = 1 := by
    rw [executions_append, executions_of_other others]
    rfl
  have guard
      : IsGuarded request added.getLast?
          (executionBody host request turn intent executedThisTurn) := by
    refine ⟨⟨intent.toolId, ?_, allowed⟩, fun here => ?_⟩
    · rw [intent_of_executionBody, toolId_of_intent]
    · obtain ⟨preview, only, answered, said⟩ := previewed.said verdict rfl here
      refine ⟨⟨.toolPolicyPreview (previewBody turn.bootstrap intent), .ok preview⟩,
        ?_, _, preview, rfl, ?_, ?_, answered, ?_⟩
      · rw [only]
        rfl
      · rw [package_of_executionBody]
        unfold previewBody
        rw [get_literal, member_cons_self]
      · rw [intent_of_executionBody]
        unfold previewBody
        rw [get_literal, member_cons_of_ne (by decide), member_cons_self]
      · rw [← said]
        exact allows here
  refine ⟨guards_snoc (guards_of_other others) guard, ?_, ?_, ?_⟩
  · intro exchange here
    rcases mem_append.mp here with previewing | executing
    · exact (previewed.other exchange previewing).2
    · rw [mem_singleton.mp executing]
      rfl
  · rw [once]
    omega
  · intro next ended
    rw [once]
    exact counted next ended

/-- One proposed intent is read if it is allowed, within the budget. -/
theorem adds_runIntent {index : Nat} {raw : Value} {state : TurnProgress}
    : Adds (runIntent host request turn index raw state : Step world _) log
        (IntentConducted request state.progress.toolsExecuted) := by
  have nothing (blocked : Blocked)
      : IntentConducted request state.progress.toolsExecuted [] (.ok (.error blocked)) := by
    refine ⟨trivial, ?_, zero_le _, ?_⟩
    · intro exchange never
      cases never
    · intro next never
      cases never
  unfold runIntent
  cases normalized : normalizeIntent raw (fallbackIntentId host turn index raw) with
  | none => exact .done (nothing _)
  | some intent =>
    have idle {added : List Exchanged}
        (other : ∀ exchange ∈ added, isExecution exchange = false ∧ isModelCall exchange = false)
        {result : Except Unit (Except Blocked TurnProgress)}
        (stopped : ∀ next, result ≠ .ok (.ok next))
        : IntentConducted request state.progress.toolsExecuted added result := by
      refine ⟨guards_of_other (fun exchange here => (other exchange here).1),
        fun exchange here => (other exchange here).2, ?_, ?_⟩
      · rw [executions_of_other (fun exchange here => (other exchange here).1)]
        exact zero_le _
      · exact fun next ended => absurd ended (stopped next)
    refine adds_previewIntent.bind ?_ ?_
    · intro added error previewed
      exact idle previewed.other (fun next never => by cases never)
    · intro added value previewed
      cases value with
      | error blocked =>
        refine .done ?_
        rw [append_nil]
        exact idle previewed.other (fun next never => by cases never)
      | ok verdict =>
        simp only []
        cases objected
          : objection host request intent verdict state.progress.toolsExecuted with
        | some blocked =>
          refine .done ?_
          rw [append_nil]
          exact idle previewed.other (fun next never => by cases never)
        | none =>
          obtain ⟨allowed, allows, within⟩ := of_no_objection objected
          have read {reply : Except Unit Value}
              {result : Except Unit (Except Blocked TurnProgress)}
              (counted : ∀ next, result = .ok (.ok next)
                → next.progress.toolsExecuted = state.progress.toolsExecuted + 1)
              : IntentConducted request state.progress.toolsExecuted
                  (added
                    ++ [⟨.executeReadToolIntent
                          (executionBody host request turn intent state.executedThisTurn),
                        reply⟩])
                  result :=
            conducted_read previewed allowed allows within counted
          refine .ask ?_ ?_
          · exact fun error => read (fun next never => by cases never)
          · intro executed
            cases executionObjection intent executed with
            | some blocked =>
              exact .done (read (fun next never => by cases never))
            | none =>
              refine .done (read (fun next ended => ?_))
              rw [← Except.ok.inj (Except.ok.inj ended)]
              rfl

structure IntentsConducted (request : LoopRequest) (spent : Nat) (added : List Exchanged)
    (result : Except Unit (Option Blocked × TurnProgress))
    : Prop where
  guarded : Guards request none added
  quiet : ∀ exchange ∈ added, isModelCall exchange = false
  within : executions added ≤ DELEGATE_LOOP_MAX_TOOL_CALLS - spent
  counted
    : ∀ next, result = .ok (none, next) → next.progress.toolsExecuted = spent + executions added

/-- The intents of a turn stay within the budget. Witness: induction on the intents. -/
theorem adds_runIntents {index : Nat} {raws : List Value} {state : TurnProgress}
    : Adds (runIntents host request turn index raws state : Step world _) log
        (IntentsConducted request state.progress.toolsExecuted) := by
  induction raws generalizing index state log with
  | nil =>
    refine .done ⟨trivial, ?_, zero_le _, ?_⟩
    · intro exchange never
      cases never
    · intro next same
      rw [← (Prod.mk.inj (Except.ok.inj same)).2]
      rfl
  | cons raw rest ih =>
    refine adds_runIntent.bind ?_ ?_
    · intro added error intent
      exact ⟨intent.guarded, intent.quiet, intent.within, fun next never => by
        cases never⟩
    · intro added value intent
      cases value with
      | error blocked =>
        refine .done ?_
        rw [append_nil]
        exact ⟨intent.guarded, intent.quiet, intent.within, fun next never => by
          cases never⟩
      | ok next =>
        have counted := intent.counted next rfl
        refine ih.imp (fun more result later => ⟨intent.guarded.append later.guarded, ?_, ?_, ?_⟩)
        · intro exchange here
          rcases mem_append.mp here with first | second
          · exact intent.quiet exchange first
          · exact later.quiet exchange second
        · have first := intent.within
          have second := later.within
          rw [executions_append]
          omega
        · intro last ended
          rw [later.counted last ended, executions_append]
          omega

-- Turns

structure TurnsConducted (request : LoopRequest) (limit spent : Nat) (added : List Exchanged)
    (result : Except Unit Value)
    : Prop where
  guarded : Guards request none added
  within : executions added ≤ DELEGATE_LOOP_MAX_TOOL_CALLS - spent
  turns : modelCalls added ≤ limit
  truthful
    : (∀ value, result = .ok value → IsTruthful value (lastTurn added))
      ↔ restsWhenSpent spent added = true

theorem isTruthful_of_failure {value : Value} {last : Option Value}
    (failed : value.get (text "ok") = .bool false)
    (unfinished : ∀ routed, last = some routed → proposedIntents routed ≠ [])
    : IsTruthful value last := by
  have notOk : ¬ (value.get (text "ok")).isTrue = true := by
    rw [failed]
    exact Bool.false_ne_true
  refine ⟨⟨fun ok => absurd ok notOk, ?_⟩, fun ok => absurd ok notOk⟩
  rintro ⟨routed, same, empty⟩
  exact absurd empty (unfinished routed same)

/-- The end of a transcript without a model turn is truthful if it is a failure. -/
theorem turnsConducted_of_failure
    (silent : ∀ exchange ∈ added, isExecution exchange = false ∧ modelTurn? exchange = none)
    (calls : modelCalls added ≤ limit)
    (failed : ∀ value, result = .ok value → value.get (text "ok") = .bool false)
    : TurnsConducted request limit spent added result := by
  have others : ∀ exchange ∈ added, isExecution exchange = false :=
    fun exchange here => (silent exchange here).1
  have last : lastTurn added = none := by
    have nothing : added.filterMap modelTurn? = [] :=
      filterMap_eq_nil_iff.mpr (fun exchange here => (silent exchange here).2)
    unfold lastTurn
    rw [nothing]
    rfl
  have rests : restsWhenSpent spent added = true := by
    clear others last calls
    induction added generalizing spent with
    | nil => rfl
    | cons exchange rest ih =>
      have resting : restsAt spent exchange = true := by
        unfold restsAt
        rw [(silent exchange mem_cons_self).2]
      rw [restsWhenSpent_cons, resting, Bool.true_and]
      exact ih (fun other here => silent other (.tail _ here))
  refine ⟨guards_of_other others, ?_, calls, iff_of_true ?_ rests⟩
  · rw [executions_of_other others]
    exact zero_le _
  · intro value ended
    refine isTruthful_of_failure (failed value ended) (fun routed never => ?_)
    rw [last] at never
    cases never

theorem ok_finish {stop : Stop}
    : (finish host request stop progress).get (text "ok") = .bool (stop != .maxTurns) := by
  unfold finish
  simp only [cons_append]
  rw [get_literal, member_cons_self]

theorem ok_blockedResult {blocked : Blocked}
    : (blockedResult host request turn blocked progress).get (text "ok") = .bool false := by
  unfold blockedResult
  simp only [cons_append]
  rw [get_literal, member_cons_self]

theorem ok_bootstrapFailed {n : Nat} {bootstrap : Value}
    : (bootstrapFailed host request n bootstrap progress).get (text "ok") = .bool false := by
  unfold bootstrapFailed
  simp only [cons_append]
  rw [get_literal, member_cons_self]

theorem ok_routeFailed
    : (routeFailed host request turn progress).get (text "ok") = .bool false := by
  unfold routeFailed
  simp only [cons_append]
  rw [get_literal, member_cons_self]

theorem member_profileFields_append {grounding : Value} {properties : List (Text × Value)}
    : member (profileFields request grounding ++ properties) (text "output")
      = member properties (text "output") := by
  unfold profileFields
  split
  · rw [cons_append, cons_append, cons_append, nil_append,
      member_cons_of_ne (by decide), member_cons_of_ne (by decide),
      member_cons_of_ne (by decide)]
  · rfl

theorem text_finish {stop : Stop}
    : ((finish host request stop progress).get (text "output")).get (text "text")
      = .string progress.lastText := by
  unfold finish schemaField
  simp only [cons_append, nil_append, append_assoc]
  rw [get_literal, member_cons_of_ne (by decide), member_cons_of_ne (by decide),
    member_cons_of_ne (by decide), member_profileFields_append,
    member_cons_of_ne (by decide), member_cons_of_ne (by decide),
    member_cons_of_ne (by decide), member_cons_self, get_literal,
    member_cons_self]

structure IsTurn (exchange : Exchanged) (routed : Value) : Prop where
  asked : isModelCall exchange = true
  other : isExecution exchange = false
  answered : modelTurn? exchange = some routed

theorem isTurn_of_ok (ok : (routed.get (text "ok")).isTrue = true)
    : IsTurn ⟨.modelRoute body, .ok routed⟩ routed :=
  ⟨rfl, rfl, if_pos ok⟩

theorem IsTurn.executions_eq (isTurn : IsTurn exchange routed)
    : executions (exchange :: log) = executions log := by
  have none' : executions [exchange] = 0 :=
    executions_of_other (fun other only => by
      rw [mem_singleton.mp only]
      exact isTurn.other)
  rw [executions_cons, none', zero_add]

theorem IsTurn.modelCalls_eq (isTurn : IsTurn exchange routed)
    : modelCalls (exchange :: log) = modelCalls log + 1 := by
  unfold modelCalls
  rw [countP_cons, isTurn.asked, if_pos rfl]

theorem IsTurn.lastTurn_eq (isTurn : IsTurn exchange routed)
    : lastTurn (exchange :: log) = (lastTurn log).or (some routed) := by
  have single : lastTurn [exchange] = some routed := by
    unfold lastTurn
    rw [filterMap_cons, isTurn.answered]
    rfl
  have parts : lastTurn (exchange :: log) = (lastTurn log).or (lastTurn [exchange]) :=
    (lastTurn_append : lastTurn ([exchange] ++ log) = _)
  rw [parts, single]

theorem IsTurn.rests_eq (isTurn : IsTurn exchange routed)
    : restsWhenSpent spent (exchange :: log)
      = ((decide (spent < DELEGATE_LOOP_MAX_TOOL_CALLS) || (proposedIntents routed).isEmpty)
        && restsWhenSpent spent log) := by
  have none' : executions [exchange] = 0 :=
    executions_of_other (fun other only => by
      rw [mem_singleton.mp only]
      exact isTurn.other)
  rw [restsWhenSpent_cons, none', add_zero]
  unfold restsAt
  rw [isTurn.answered]

theorem turnsConducted_of_stopped (isTurn : IsTurn exchange routed)
    (proposed : proposedIntents routed ≠ []) (within : spent < DELEGATE_LOOP_MAX_TOOL_CALLS)
    (intents : IntentsConducted request spent added ended)
    (failed : ∀ value, result = .ok value → value.get (text "ok") = .bool false)
    : TurnsConducted request (limit + 1) spent (exchange :: added) result := by
  refine ⟨.of_other isTurn.other intents.guarded, ?_, ?_, iff_of_true ?_ ?_⟩
  · rw [isTurn.executions_eq]
    exact intents.within
  · rw [isTurn.modelCalls_eq, modelCalls_of_quiet intents.quiet]
    omega
  · intro value same
    refine isTruthful_of_failure (failed value same) (fun last found => ?_)
    rw [isTurn.lastTurn_eq, lastTurn_of_quiet intents.quiet, none_or] at found
    rw [← some.inj found]
    exact proposed
  · rw [isTurn.rests_eq, restsWhenSpent_of_quiet intents.quiet, decide_eq_true within]
    rfl

theorem turnsConducted_of_continued {later : List Exchanged} (isTurn : IsTurn exchange routed)
    (proposed : proposedIntents routed ≠ []) (within : spent < DELEGATE_LOOP_MAX_TOOL_CALLS)
    (intents : IntentsConducted request spent added ended)
    (rest : TurnsConducted request limit (spent + executions added) later result)
    : TurnsConducted request (limit + 1) spent (exchange :: (added ++ later)) result := by
  refine ⟨.of_other isTurn.other (intents.guarded.append rest.guarded), ?_, ?_, ?_⟩
  · have first := intents.within
    have second := rest.within
    rw [isTurn.executions_eq, executions_append]
    omega
  · have calls := rest.turns
    rw [isTurn.modelCalls_eq, modelCalls_append, modelCalls_of_quiet intents.quiet]
    omega
  · have rests
        : restsWhenSpent spent (exchange :: (added ++ later))
          = restsWhenSpent (spent + executions added) later := by
      rw [isTurn.rests_eq, restsWhenSpent_append, restsWhenSpent_of_quiet intents.quiet,
        decide_eq_true within]
      rfl
    have last
        : lastTurn (exchange :: (added ++ later)) = (lastTurn later).or (some routed) := by
      rw [isTurn.lastTurn_eq, lastTurn_append, lastTurn_of_quiet intents.quiet, or_none]
    rw [rests, ← rest.truthful, last]
    -- the turn itself proposed something, so it decides nothing
    cases found : lastTurn later with
    | some final => exact Iff.rfl
    | none =>
      have alike (value : Value) : IsTruthful value (some routed) ↔ IsTruthful value none := by
        constructor
        · intro told
          have notOk : ¬ (value.get (text "ok")).isTrue = true := by
            intro ok
            obtain ⟨_, same, empty⟩ := told.ok_iff.mp ok
            rw [← some.inj same] at empty
            exact proposed empty
          refine ⟨⟨fun ok => absurd ok notOk, ?_⟩, fun ok => absurd ok notOk⟩
          rintro ⟨_, never, _⟩
          cases never
        · intro told
          have notOk : ¬ (value.get (text "ok")).isTrue = true := by
            intro ok
            obtain ⟨_, never, _⟩ := told.ok_iff.mp ok
            cases never
          refine ⟨⟨fun ok => absurd ok notOk, ?_⟩, fun ok => absurd ok notOk⟩
          rintro ⟨_, same, empty⟩
          rw [← some.inj same] at empty
          exact absurd empty proposed
      exact forall_congr' (fun value => imp_congr_right (fun _ => alike value))

variable {next : Progress → Step world Value}

/-- What follows once the model has answered. -/
theorem adds_afterRoute (ok : (turn.routed.get (text "ok")).isTrue = true)
    (rest : ∀ later log, Adds (next later) log (TurnsConducted request limit later.toolsExecuted))
    : Adds (afterRoute host request turn progress next) log (fun added result =>
        TurnsConducted request (limit + 1) progress.toolsExecuted
          (⟨.modelRoute body, .ok turn.routed⟩ :: added) result) := by
  have isTurn : IsTurn ⟨.modelRoute body, .ok turn.routed⟩ turn.routed := isTurn_of_ok ok
  have single : lastTurn [⟨.modelRoute body, .ok turn.routed⟩] = some turn.routed := by
    rw [isTurn.lastTurn_eq]
    rfl
  have guarded : Guards request none [⟨.modelRoute body, .ok turn.routed⟩] :=
    .of_other isTurn.other trivial
  have calls : modelCalls [⟨.modelRoute body, .ok turn.routed⟩] ≤ limit + 1 := by
    rw [isTurn.modelCalls_eq]
    exact succ_le_succ (zero_le limit)
  have unread
      : executions [⟨.modelRoute body, .ok turn.routed⟩]
        ≤ DELEGATE_LOOP_MAX_TOOL_CALLS - progress.toolsExecuted := by
    rw [isTurn.executions_eq]
    exact zero_le _
  unfold afterRoute
  simp only []
  by_cases proposed : proposedIntents turn.routed = []
  · rw [if_pos proposed]
    refine .done ⟨guarded, unread, calls, iff_of_true ?_ ?_⟩
    · intro value ended
      rw [← Except.ok.inj ended, single]
      have done
          : ((finish host request .finalAnswer
              ((progress.routed host turn).traced turn 0 none)).get (text "ok")).isTrue = true := by
        rw [ok_finish]
        rfl
      exact ⟨iff_of_true done ⟨_, rfl, proposed⟩, fun _ => ⟨_, rfl, text_finish⟩⟩
    · rw [isTurn.rests_eq, proposed, isEmpty_nil, Bool.or_true]
      rfl
  · rw [if_neg proposed]
    have count : (progress.routed host turn).toolsExecuted = progress.toolsExecuted := rfl
    rw [count]
    by_cases spent : DELEGATE_LOOP_MAX_TOOL_CALLS ≤ progress.toolsExecuted
    · rw [if_pos spent]
      refine .done ⟨guarded, unread, calls, iff_of_false ?_ ?_⟩
      · intro truthful
        have told := truthful _ rfl
        rw [single] at told
        have done
            : ((finish host request .budget
                ((progress.routed host turn).traced turn 0 (some (text "budget")))).get
                (text "ok")).isTrue = true := by
          rw [ok_finish]
          rfl
        obtain ⟨_, same, empty⟩ := told.ok_iff.mp done
        rw [← some.inj same] at empty
        exact proposed empty
      · rw [isTurn.rests_eq, decide_eq_false (not_lt.mpr spent), Bool.false_or]
        intro rests
        exact proposed (List.isEmpty_iff.mp (Bool.and_eq_true_iff.mp rests).1)
    · rw [if_neg spent]
      have within := not_le.mp spent
      refine adds_runIntents.bind ?_ ?_
      · intro added error intents
        exact turnsConducted_of_stopped isTurn proposed within intents
          (fun value never => by cases never)
      · rintro added ⟨blocked, state⟩ intents
        cases blocked with
        | some blocked =>
          refine .done ?_
          rw [append_nil]
          refine turnsConducted_of_stopped isTurn proposed within intents (fun value ended => ?_)
          rw [← Except.ok.inj ended]
          exact ok_blockedResult
        | none =>
          have counted : state.progress.toolsExecuted = progress.toolsExecuted + executions added :=
            intents.counted state rfl
          refine (rest _ _).imp (fun later result conducted => ?_)
          refine turnsConducted_of_continued isTurn proposed within intents ?_
          rw [← counted]
          exact conducted

/-- A bootstrap before the turns changes nothing of what is asked of them. -/
theorem TurnsConducted.cons_bootstrap
    (conducted : TurnsConducted request limit spent added result)
    : TurnsConducted request limit spent (⟨.agentBootstrap body, reply⟩ :: added) result := by
  refine ⟨.of_other rfl conducted.guarded, conducted.within, conducted.turns, ?_⟩
  exact conducted.truthful

theorem adds_runTurn {n : Nat}
    (rest : ∀ later log, Adds (next later) log (TurnsConducted request limit later.toolsExecuted))
    : Adds (runTurn host request n progress next) log
        (TurnsConducted request (limit + 1) progress.toolsExecuted) := by
  have nothing {result : Except Unit Value}
      (failed : ∀ value, result = .ok value → value.get (text "ok") = .bool false)
      : TurnsConducted request (limit + 1) progress.toolsExecuted [] result := by
    refine turnsConducted_of_failure ?_ (zero_le _) failed
    intro exchange never
    cases never
  -- a call of the model that is not answered well counts as a call, and it is no turn
  have unanswered {body : Value} {reply : Except Unit Value} {result : Except Unit Value}
      (silent : modelTurn? ⟨.modelRoute body, reply⟩ = none)
      (failed : ∀ value, result = .ok value → value.get (text "ok") = .bool false)
      : TurnsConducted request (limit + 1) progress.toolsExecuted [⟨.modelRoute body, reply⟩]
          result := by
    refine turnsConducted_of_failure ?_ (succ_le_succ (zero_le limit)) failed
    intro exchange only
    rw [mem_singleton.mp only]
    exact ⟨rfl, silent⟩
  unfold runTurn
  refine .ask ?_ ?_
  · intro error
    exact (nothing (fun value never => by cases never)).cons_bootstrap
  · intro bootstrap
    cases (bootstrap.get (text "ok")).isTrue with
    | false =>
      rw [Bool.not_false, if_pos rfl]
      refine .done (nothing (fun value ended => ?_)).cons_bootstrap
      rw [← Except.ok.inj ended]
      exact ok_bootstrapFailed
    | true =>
      rw [Bool.not_true, if_neg Bool.false_ne_true]
      refine .ask ?_ ?_
      · intro error
        exact (unanswered rfl (fun value never => by cases never)).cons_bootstrap
      · intro routed
        cases ok : (routed.get (text "ok")).isTrue with
        | false =>
          rw [Bool.not_false, if_pos rfl]
          have silent (body : Value) : modelTurn? ⟨.modelRoute body, .ok routed⟩ = none :=
            if_neg (by rw [ok]; exact Bool.false_ne_true)
          refine .done (unanswered (silent _) (fun value ended => ?_)).cons_bootstrap
          rw [← Except.ok.inj ended]
          exact ok_routeFailed
        | true =>
          rw [Bool.not_true, if_neg Bool.false_ne_true]
          exact (adds_afterRoute ok rest).imp
            (fun added result conducted => conducted.cons_bootstrap)

/-- The turns that remain. Witness: induction on their number. -/
theorem adds_runTurns {remaining : Nat}
    : Adds (runTurns host request remaining progress : Step world Value) log
        (TurnsConducted request remaining progress.toolsExecuted) := by
  induction remaining generalizing progress log with
  | zero =>
    refine .done (turnsConducted_of_failure ?_ (zero_le _) (fun value ended => ?_))
    · intro exchange never
      cases never
    · rw [← Except.ok.inj ended, ok_finish]
      rfl
  | succ remaining ih => exact adds_runTurn (fun later log => ih)

-- The loop

theorem adds_runBrokeredReadLoop
    : Adds (runBrokeredReadLoop host request world) log
        (TurnsConducted request request.maxTurns request.initialToolsExecuted) := by
  have denied {value : Value} (failed : value.get (text "ok") = .bool false)
      : TurnsConducted request request.maxTurns request.initialToolsExecuted [] (.ok value) := by
    refine turnsConducted_of_failure ?_ (zero_le _) (fun answer ended => ?_)
    · intro exchange never
      cases never
    · rw [← Except.ok.inj ended]
      exact failed
  unfold runBrokeredReadLoop
  split
  · refine .done (denied ?_)
    unfold dependenciesMissing
    rw [get_literal, member_cons_self]
  split
  · refine .done (denied ?_)
    unfold executeUnavailable
    rw [get_literal, member_cons_self]
  split
  · refine .done (denied ?_)
    unfold allowlistEmpty
    simp only [cons_append]
    rw [get_literal, member_cons_self]
  · exact adds_runTurns

/-- What the loop exchanges with its dependencies, and what it ends with. -/
def loopLog (host : Host) (request : LoopRequest) (world : Dependence) : List Exchanged :=
  ((runBrokeredReadLoop host request world).run []).2

def loopResult (host : Host) (request : LoopRequest) (world : Dependence) : Except Unit Value :=
  ((runBrokeredReadLoop host request world).run []).1

/-- Whatever its dependencies reply, the loop is conducted as it should be exactly if no model turn
proposes anything once the budget is spent.
-/
theorem conducted_iff (host : Host) (request : LoopRequest) (world : Dependence)
    : Conducted request (loopLog host request world) (loopResult host request world)
      ↔ restsWhenSpent request.initialToolsExecuted (loopLog host request world) = true := by
  obtain ⟨added, grown, conducted⟩
    : Adds (runBrokeredReadLoop host request world) []
        (TurnsConducted request request.maxTurns request.initialToolsExecuted) :=
    adds_runBrokeredReadLoop
  have log : loopLog host request world = added := grown
  rw [log, ← conducted.truthful]
  refine ⟨fun whole => whole.truthful,
    fun truthful => ⟨conducted.guarded, ?_, conducted.turns, truthful⟩⟩
  intro initial
  have within := conducted.within
  omega

-- A loop that spends its budget

namespace Sample

def plain : Host where
  sha256Text := id
  localeLe := fun a b => decide (a ≤ b)
  toNumber := fun _ => .nan
  add := fun _ _ => .nan

def readBoard : Text := text "read_board"

def registry : Value :=
  .array
    [some (.literal
      [(text "tool_id", .string readBoard), (text "risk_class", .string (text "read")),
        (text "authorization", .string (text "automatic")), (text "available", .bool true)])]

def helpers : Helpers where
  compactDelegationEvidence := none
  compactDelegationRoute := none
  compactDelegationUsage := none
  compactDelegationObservability := none
  delegationReadOnlyPolicy := none
  defaultRegistry := .array []
  delegationResultSchema := .undefined

/-- A loop of at most four turns. -/
def delegated : LoopRequest where
  deps :=
    { agentBootstrapFromBody := true
      modelRouteFromBody := true, executeReadToolIntent := true, toolPolicyPreview := true
      registry }
  helpers
  actorId := .string (text "reader")
  effectiveActorId := .string (text "reader")
  baseTaskForBootstrap := text "Report on the board."
  chain := .string (text "board")
  route := .undefined
  generation := .undefined
  limits := .undefined
  includeInbox := .undefined
  profile := .null
  profileMeta := .null
  grounding := .null
  instructionsChain := .null
  initialToolsExecuted := 0
  maxTurns := 4

def proposing (n : Nat) : Value :=
  let intent : Value := .literal [(text "tool_id", .string readBoard)]
  .literal
    [(text "ok", .bool true),
      (text "output",
        .literal
          [(text "text", .string (text "So far I have found ...")),
            (text "tool_intents", .array (List.replicate n (some intent)))])]

def fine (members : List (Text × Value)) : Value :=
  .literal ((text "ok", .bool true) :: members)

/-- A model that proposes eight reads in each turn, and a broker that allows them all. -/
def eager : Dependence := fun _ call =>
  match call with
  | .agentBootstrap _ => .ok (fine [])
  | .modelRoute _ => .ok (proposing 8)
  | .toolPolicyPreview _ => .ok (fine [(text "decision", .string (text "allow"))])
  | .executeReadToolIntent _ => .ok (fine [(text "executed", .bool true)])

/-- Whether the loop reports that it is done, and how much its last turn proposed. -/
def reported : Bool × Option Nat :=
  let (result, log) := (runBrokeredReadLoop plain delegated eager).run []
  let done : Bool :=
    match result with
    | .ok value => (value.get (text "ok")).isTrue
    | .error _ => false
  (done, (lastTurn log).map (fun routed => (proposedIntents routed).length))

end Sample

open Sample in
/-- After sixteen reads the third turn proposes more, and its text is passed off as the answer. -/
theorem unfinishedIsReportedDone
    : reported = (true, some 8)
      ∧ ¬ Conducted delegated (loopLog plain delegated eager) (loopResult plain delegated eager) := by
  have told : reported = (true, some 8) := by decide +kernel
  refine ⟨told, fun conducted => ?_⟩
  obtain ⟨done, proposed⟩ := Prod.mk.inj told
  cases ended : loopResult plain delegated eager with
  | error thrown =>
    have failed : ((runBrokeredReadLoop plain delegated eager).run []).1 = .error thrown := ended
    simp only [failed] at done
    exact Bool.false_ne_true done
  | ok value =>
    have answered : ((runBrokeredReadLoop plain delegated eager).run []).1 = .ok value := ended
    simp only [answered] at done
    obtain ⟨routed, last, empty⟩ := (conducted.truthful value ended).ok_iff.mp done
    have turn : lastTurn ((runBrokeredReadLoop plain delegated eager).run []).2 = some routed := last
    rw [turn, map_some, empty] at proposed
    cases proposed

end CairnStone.Delegation
