import CairnStone.Concurrency.Admission

/-! The instants at which a call takes its steps. A call's answer depends only on the states that it
finds at these instants, which lie one after the other between its start and its answer.
-/

namespace CairnStone.Concurrency

open List Option Program

variable {M : Machine} {Call ε α β : Type}

namespace Program

variable {result : α}

def ended : Program M ε α → Option (Except ε α)
  | .done value => some (.ok value)
  | .fail error => some (.error error)
  | _ => none

def stepped (state : M.State) : Program M ε α → Program M ε α
  | .read next => next state
  | .exec cmd next => next (M.exec cmd state).1
  | finished => finished

inductive Answers : Program M ε α → List M.State → Except ε α → Prop
  | done (value : α) : Answers (.done value) [] (.ok value)
  | fail (error : ε) : Answers (.fail error) [] (.error error)
  | read {next : M.State → Program M ε α} {state : M.State} {states : List M.State}
    {answer : Except ε α} (rest : Answers (next state) states answer)
    : Answers (.read next) (state :: states) answer
  | exec {cmd : M.Command} {next : M.Reply cmd → Program M ε α} {state : M.State}
    {states : List M.State} {answer : Except ε α}
    (rest : Answers (next (M.exec cmd state).1) states answer)
    : Answers (.exec cmd next) (state :: states) answer

variable {p : Program M ε β} {states : List M.State}

/-- A sequence finds the states of its first part and then those of its rest.
Witness: induction on the first part.
-/
theorem Answers.of_bind {f : β → Program M ε α} {answer : Except ε α}
    (answers : (p.bind f).Answers states answer)
    : (∃ value first second, states = first ++ second ∧ p.Answers first (.ok value)
        ∧ (f value).Answers second answer)
      ∨ ∃ error, p.Answers states (.error error) ∧ answer = .error error := by
  induction p generalizing states with
  | done value => exact .inl ⟨value, [], states, rfl, .done value, answers⟩
  | fail error =>
    cases answers
    exact .inr ⟨error, .fail error, rfl⟩
  | read next ih =>
    cases answers with
    | @read _ state states _ rest =>
      rcases ih state rest with ⟨value, first, second, rfl, one, two⟩ | ⟨error, one, same⟩
      · exact .inl ⟨value, state :: first, second, rfl, .read one, two⟩
      · exact .inr ⟨error, .read one, same⟩
  | exec cmd next ih =>
    cases answers with
    | @exec _ _ state states _ rest =>
      rcases ih _ rest with ⟨value, first, second, rfl, one, two⟩ | ⟨error, one, same⟩
      · exact .inl ⟨value, state :: first, second, rfl, .exec one, two⟩
      · exact .inr ⟨error, .exec one, same⟩

/-- A successful sequence has a successful first part. -/
theorem Answers.of_bind_ok {f : β → Program M ε α}
    (answers : (p.bind f).Answers states (.ok result))
    : ∃ value first second, states = first ++ second ∧ p.Answers first (.ok value)
        ∧ (f value).Answers second (.ok result) := by
  rcases answers.of_bind with found | ⟨error, _, same⟩
  · exact found
  · cases same

/-- An observation finds one state. -/
theorem Answers.of_select {f : M.State → α}
    (answers : (select f : Program M ε α).Answers states (.ok result))
    : ∃ state, states = [state] ∧ result = f state := by
  cases answers with
  | @read _ state states _ rest =>
    cases rest
    exact ⟨state, rfl, rfl⟩

theorem Answers.of_done {value : α}
    (answers : (Program.done value : Program M ε α).Answers states (.ok result))
    : states = [] ∧ result = value := by
  cases answers
  exact ⟨rfl, rfl⟩

end Program

namespace Config

variable {body : Call → Program M ε α} {config : Config M Call ε α} {t : Nat}
  {call : Call} {answer : Except ε α}

def program (config : Config M Call ε α) (t : Nat) : Option (Program M ε α) :=
  config.threads[t]?.map Thread.program

variable {p : Program M ε α}

theorem answer_of_program (left : config.program t = some p)
    : config.answer t = p.ended := by
  obtain ⟨entry, found, same⟩ := map_eq_some_iff.mp left
  rw [answer, found, bind_some, ← same]
  unfold Thread.answer ended
  cases entry.program with
  | done value => rfl
  | fail error => rfl
  | read next => rfl
  | exec cmd next => rfl

/-- Only its own steps take a call further. -/
theorem program_act (left : config.program t = some p) {action : Action M Call}
    (other : action ≠ .step t)
    : (config.act body action).program t = some p := by
  obtain ⟨entry, found, rfl⟩ := map_eq_some_iff.mp left
  have replaced (u : Nat) (apart : u ≠ t) (changed : Thread M Call ε α)
      : (config.threads.set u changed)[t]?.map Thread.program = some entry.program := by
    rw [getElem?_set_ne apart]
    exact left
  cases action with
  | spawn call =>
    have inside : t < config.threads.length := (List.getElem?_eq_some_iff.mp found).1
    rw [program, act, getElem?_append_left inside]
    exact left
  | disturb event => exact left
  | step u =>
    have apart : u ≠ t := fun same => other (same ▸ rfl)
    simp only [act, advance]
    cases at_u : config.threads[u]? with
    | none => exact left
    | some thread =>
      cases step : thread.program with
      | done value => simpa only [step] using left
      | fail error => simpa only [step] using left
      | read next =>
        simp only [step]
        exact replaced u apart _
      | exec cmd next =>
        simp only [step]
        exact replaced u apart _

/-- A step of a call takes it to what follows the state that it finds. -/
theorem program_step (left : config.program t = some p)
    : (config.act body (.step t)).program t = some (p.stepped config.state) := by
  obtain ⟨entry, found, same⟩ := map_eq_some_iff.mp left
  have inside : t < config.threads.length := (List.getElem?_eq_some_iff.mp found).1
  have replaced (changed : Thread M Call ε α)
      : (config.threads.set t changed)[t]?.map Thread.program = some changed.program := by
    rw [getElem?_set_self inside]
    rfl
  simp only [act, advance, found]
  cases p with
  | done value => simpa only [same, stepped] using left
  | fail error => simpa only [same, stepped] using left
  | read next =>
    simp only [same]
    exact replaced _
  | exec cmd next =>
    simp only [same]
    exact replaced _

/-- A call that is given enough steps ends. Witness: induction on what is left of it. -/
theorem exists_ended (left : config.program t = some p)
    : ∃ n answer, (config.run body (List.replicate n (.step t))).answer t = some answer := by
  induction p generalizing config with
  | done value => exact ⟨0, .ok value, answer_of_program left⟩
  | fail error => exact ⟨0, .error error, answer_of_program left⟩
  | read next ih =>
    have stepped : (config.act body (.step t)).program t = some (next config.state) :=
      program_step left
    obtain ⟨n, answer, ended⟩ := ih config.state stepped
    exact ⟨n + 1, answer, ended⟩
  | exec cmd next ih =>
    have stepped
        : (config.act body (.step t)).program t = some (next (M.exec cmd config.state).1) :=
      program_step left
    obtain ⟨n, answer, ended⟩ := ih _ stepped
    exact ⟨n + 1, answer, ended⟩

structure InstantsOf (body : Call → Program M ε α) (config : Config M Call ε α) (t : Nat)
    (schedule : List (Action M Call)) (instants : List (List (Action M Call)))
    : Prop where
  ordered : instants.Pairwise (· <+: ·)
  steps : ∀ instant ∈ instants, instant ++ [.step t] <+: schedule
  unanswered : ∀ instant ∈ instants, (config.run body instant).answer t = none

variable {schedule : List (Action M Call)}

theorem InstantsOf.nil
    : InstantsOf body config t schedule [] :=
  ⟨.nil, forall_mem_nil _,
    forall_mem_nil _⟩

variable {rest : List (Action M Call)} {instants : List (List (Action M Call))}

theorem InstantsOf.cons {action : Action M Call}
    (found : InstantsOf body (config.act body action) t rest instants)
    : InstantsOf body config t (action :: rest) (instants.map (action :: ·)) := by
  refine ⟨?_, ?_, ?_⟩
  · refine pairwise_map.mpr (found.ordered.imp (fun le => ?_))
    exact cons_prefix_cons.mpr ⟨rfl, le⟩
  · intro when mem
    obtain ⟨later, here, rfl⟩ := List.mem_map.mp mem
    exact cons_prefix_cons.mpr ⟨rfl, found.steps later here⟩
  · intro when mem
    obtain ⟨later, here, rfl⟩ := List.mem_map.mp mem
    exact found.unanswered later here

/-- The present is the first of the instants of a call that takes its next step now. -/
theorem InstantsOf.first (found : InstantsOf body config t (.step t :: rest) instants)
    (unanswered : config.answer t = none)
    : InstantsOf body config t (.step t :: rest) ([] :: instants) := by
  refine ⟨pairwise_cons.mpr ⟨fun _ _ => nil_prefix, found.ordered⟩, ?_, ?_⟩
  · intro when mem
    rcases mem_cons.mp mem with rfl | later
    · exact cons_prefix_cons.mpr ⟨rfl, nil_prefix⟩
    · exact found.steps when later
  · intro when mem
    rcases mem_cons.mp mem with rfl | later
    · exact unanswered
    · exact found.unanswered when later

/-- A call that answers has found the states of its instants.
Witness: induction on the schedule; a step of the call itself adds an instant.
-/
theorem exists_instants (left : config.program t = some p)
    (said : (config.run body schedule).answer t = some answer)
    : ∃ instants, InstantsOf body config t schedule instants
      ∧ p.Answers (instants.map (fun when => (config.run body when).state)) answer := by
  induction schedule generalizing config p with
  | nil =>
    rw [run_nil, answer_of_program left] at said
    refine ⟨[], .nil, ?_⟩
    cases p with
    | done value =>
      cases said
      exact .done value
    | fail error =>
      cases said
      exact .fail error
    | read next => cases said
    | exec cmd next => cases said
  | cons action rest ih =>
    have states (instants : List (List (Action M Call)))
        : (instants.map (action :: ·)).map (fun when => (config.run body when).state)
          = instants.map (fun when => ((config.act body action).run body when).state) := by
      rw [List.map_map]
      rfl
    have pass (left' : (config.act body action).program t = some p)
        : ∃ instants, InstantsOf body config t (action :: rest) instants
          ∧ p.Answers (instants.map (fun when => (config.run body when).state)) answer := by
      obtain ⟨instants, found, answers⟩ := ih left' said
      exact ⟨_, found.cons, (states instants).symm ▸ answers⟩
    by_cases own : action = .step t
    · subst own
      have stepped : (config.act body (.step t)).program t = some (p.stepped config.state) :=
        program_step left
      cases p with
      | done value => exact pass stepped
      | fail error => exact pass stepped
      | read next =>
        obtain ⟨instants, found, answers⟩ := ih stepped said
        refine ⟨_, found.cons.first (answer_of_program left), ?_⟩
        rw [map_cons, states]
        exact .read answers
      | exec cmd next =>
        obtain ⟨instants, found, answers⟩ := ih stepped said
        refine ⟨_, found.cons.first (answer_of_program left), ?_⟩
        rw [map_cons, states]
        exact .exec answers
    · exact pass (program_act left own)

def Running (config : Config M Call ε α) (t : Nat) (call : Call) : Prop :=
  config.call t = some call ∧ config.answer t = none

/-- A call that has been issued stays issued. -/
theorem call_later (asked : config.call t = some call) (schedule : List (Action M Call))
    : (config.run body schedule).call t = some call :=
  run_induction (fun config => config.call t = some call)
    (fun _ action asked => call_act body action asked) asked schedule

theorem running_within (asked : config.call t = some call) {before : List (Action M Call)}
    (unanswered : (config.run body schedule).answer t = none) (le : before <+: schedule)
    : (config.run body before).Running t call := by
  refine ⟨call_later asked before, ?_⟩
  obtain ⟨later, rfl⟩ := le
  rw [run_append] at unanswered
  cases said : (config.run body before).answer t with
  | none => rfl
  | some answer => cases (answer_run body said later).symm.trans unanswered

/-- A call is issued at a place of its own in the schedule.
Witness: induction on the schedule.
-/
theorem exists_spawn {t : Nat} {call : Call}
    (asked : (schedule.filterMap spawned)[t]? = some call)
    : ∃ before later, schedule = before ++ .spawn call :: later
        ∧ (before.filterMap spawned).length = t := by
  induction schedule generalizing t with
  | nil => cases asked
  | cons action rest ih =>
    cases action with
    | spawn other =>
      cases t with
      | zero =>
        obtain rfl : other = call := some.inj asked
        exact ⟨[], rest, rfl, rfl⟩
      | succ t =>
        obtain ⟨before, later, rfl, length⟩ := ih asked
        exact ⟨.spawn other :: before, later, rfl, congrArg Nat.succ length⟩
    | step u =>
      obtain ⟨before, later, rfl, length⟩ := ih asked
      exact ⟨.step u :: before, later, rfl, length⟩
    | disturb event =>
      obtain ⟨before, later, rfl, length⟩ := ih asked
      exact ⟨.disturb event :: before, later, rfl, length⟩

/-- A call issued now is the newest thread, with its whole program left. -/
theorem program_spawn {config : Config M Call ε α} (length : config.threads.length = t)
    : (config.act body (.spawn call)).program t = some (body call) := by
  subst length
  simp [program, act]

/-- In a run from its start, a call that has answered found the states of some instants between its
issue and its answer. Witness: the instants after its issue, each with the schedule up to then.
-/
theorem instants_of_answer {state : M.State}
    (asked : ((init state).run body schedule).call t = some call)
    (said : ((init state).run body schedule).answer t = some answer)
    : ∃ instants : List (List (Action M Call)),
        instants.Pairwise (· <+: ·)
        ∧ (∀ when ∈ instants, when ++ [.step t] <+: schedule
          ∧ ((init state).run body when).Running t call)
        ∧ (body call).Answers
            (instants.map (fun when => ((init state).run body when).state)) answer := by
  rw [call_run] at asked
  obtain ⟨before, later, rfl, length⟩ := exists_spawn asked
  let issued := before ++ [.spawn call]
  have split : before ++ .spawn call :: later = issued ++ later := by simp [issued]
  have threads : ((init state).run body before).threads.length = t := by
    have calls := congrArg List.length (calls_run body (init state) before)
    simpa [init, length] using calls
  have left : ((init state).run body issued).program t = some (body call) := by
    rw [run_append]
    exact program_spawn threads
  have started : ((init state).run body issued).call t = some call := by
    rw [call_run, filterMap_append, getElem?_append_right (by omega), length]
    simp [spawned]
  rw [split, run_append] at said
  obtain ⟨instants, found, answers⟩ := exists_instants left said
  refine ⟨instants.map (issued ++ ·), ?_, ?_, ?_⟩
  · refine pairwise_map.mpr (found.ordered.imp (fun le => ?_))
    exact (prefix_append_right_inj issued).mpr le
  · intro when mem
    obtain ⟨after, here, rfl⟩ := List.mem_map.mp mem
    rw [split]
    rw [append_assoc]
    refine ⟨(prefix_append_right_inj issued).mpr (found.steps after here), ?_, ?_⟩
    · rw [run_append]
      exact call_later started after
    · rw [run_append]
      exact found.unanswered after here
  · rw [List.map_map]
    have same
        : instants.map ((fun when => ((init state).run body when).state) ∘ (issued ++ ·))
          = instants.map (fun when => (((init state).run body issued).run body when).state) :=
      map_congr_left (fun when _ => congrArg Config.state (run_append ..))
    rw [same]
    exact answers

/-- The configuration satisfies the property at every instant of the schedule. -/
def Throughout (body : Call → Program M ε α) (p : Config M Call ε α → Prop)
    (config : Config M Call ε α)
    : List (Action M Call) → Prop
  | [] => p config
  | action :: rest => p config ∧ Throughout body p (config.act body action) rest

instance decidableThroughout {p : Config M Call ε α → Prop} [∀ config, Decidable (p config)]
    : (config : Config M Call ε α) → (schedule : List (Action M Call))
      → Decidable (config.Throughout body p schedule)
  | config, [] => inferInstanceAs (Decidable (p config))
  | config, action :: rest =>
    have : Decidable ((config.act body action).Throughout body p rest) :=
      decidableThroughout (config.act body action) rest
    inferInstanceAs (Decidable (p config ∧ _))

theorem Throughout.at_instant {p : Config M Call ε α → Prop}
    (throughout : config.Throughout body p schedule) {when : List (Action M Call)}
    (le : when <+: schedule)
    : p (config.run body when) := by
  induction schedule generalizing config when with
  | nil =>
    cases prefix_nil.mp le
    exact throughout
  | cons action rest ih =>
    cases when with
    | nil => exact throughout.1
    | cons first when =>
      obtain ⟨rfl, within⟩ := cons_prefix_cons.mp le
      exact ih throughout.2 within

variable {β : Type}

/-- The thread's next command gives an observation a value that it has lost. -/
def Regains (f : M.State → β) (value : β) (config : Config M Call ε α) (t : Nat) : Prop :=
  ∃ cmd, config.pending t = some cmd ∧ f config.state ≠ value
    ∧ f (M.exec cmd config.state).2 = value
    ∧ ∃ issued ∈ config.history.log, f issued.before = value

def Lost (f : M.State → β) (value : β) (config : Config M Call ε α) : Prop :=
  f config.state ≠ value ∧ ∃ issued ∈ config.history.log, f issued.before = value

variable {f : M.State → β} {value : β}

/-- Once a value has been seen, it is still there or has been lost.
Witness: the command that takes the value away is logged with it.
-/
theorem lost_or_kept (undisturbed : ∀ event state, f (M.disturb event state) = f state)
    {config : Config M Call ε α} (now : f config.state = value) (schedule : List (Action M Call))
    : f (config.run body schedule).state = value ∨ (config.run body schedule).Lost f value := by
  refine run_induction (fun config => f config.state = value ∨ config.Lost f value)
    (fun config action seen => ?_) (.inl now) schedule
  by_cases after : f (config.act body action).state = value
  · exact .inl after
  refine .inr ⟨after, ?_⟩
  cases action with
  | spawn call =>
    rcases seen with kept | lost
    · exact absurd kept after
    · exact lost.2
  | disturb event =>
    rcases seen with kept | lost
    · exact absurd ((undisturbed event _).trans kept) after
    · exact lost.2
  | step t =>
    simp only [act, state, advance_history] at after ⊢
    cases pending : config.pending t with
    | none =>
      simp only [pending] at after ⊢
      exact seen.resolve_left after |>.2
    | some cmd =>
      simp only [pending, History.exec_log] at after ⊢
      rcases seen with kept | ⟨_, issued, mem, had⟩
      · exact ⟨_, .head _, kept⟩
      · exact ⟨issued, .tail _ mem, had⟩

/-- A lost value stays lost while no step regains it. Witness: induction on the schedule. -/
theorem Lost.stays (undisturbed : ∀ event state, f (M.disturb event state) = f state)
    {config : Config M Call ε α} (lost : config.Lost f value)
    (never
      : ∀ before u, before ++ [.step u] <+: schedule
        → ¬ (config.run body before).Regains f value u)
    : (config.run body schedule).Lost f value := by
  induction schedule generalizing config with
  | nil => exact lost
  | cons action rest ih =>
    refine ih ?_ (fun before u le => ?_)
    · cases action with
      | spawn call => exact lost
      | disturb event => exact ⟨fun same => lost.1 ((undisturbed event _).symm.trans same), lost.2⟩
      | step u =>
        have quiet := never [] u (cons_prefix_cons.mpr ⟨rfl, nil_prefix⟩)
        obtain ⟨gone, issued, mem, had⟩ := lost
        simp only [Lost, act, state, advance_history]
        cases pending : config.pending u with
        | none => exact ⟨gone, issued, mem, had⟩
        | some cmd =>
          refine ⟨fun same => ?_, issued, .tail _ mem, had⟩
          exact quiet ⟨cmd, pending, gone, same, issued, mem, had⟩
    · exact never (action :: before) u (cons_prefix_cons.mpr ⟨rfl, le⟩)

theorem kept_between (undisturbed : ∀ event state, f (M.disturb event state) = f state)
    {config : Config M Call ε α} (now : f config.state = value) (first second : List (Action M Call))
    (later : f ((config.run body first).run body second).state = value)
    (never
      : ∀ before u, before ++ [.step u] <+: second
        → ¬ ((config.run body first).run body before).Regains f value u)
    : f (config.run body first).state = value := by
  rcases lost_or_kept undisturbed now first with kept | lost
  · exact kept
  · exact absurd later (lost.stays undisturbed never).1

end Config

namespace History

variable {M : Machine} {β : Type} {f : M.State → β} {t : Nat} {h : History M}

def during (h : History M) (t : Nat) : List (Issued M) :=
  ((h.log.dropWhile (fun issued => issued.thread != t)).reverse.dropWhile
    (fun issued => issued.thread != t)).reverse

/-- Between the first and the last command of the thread, no value of the observation comes back after
another one has taken its place.
-/
def NeverReturns (f : M.State → β) (t : Nat) (h : History M) : Prop :=
  ∀ v ∈ (h.during t).map (fun issued => f issued.before),
    ∀ w ∈ (h.during t).map (fun issued => f issued.before),
      [v, w, v].Sublist ((h.during t).map (fun issued => f issued.before)) → w = v

instance decidableNeverReturns [DecidableEq β] (f : M.State → β) (t : Nat) (h : History M)
    : Decidable (NeverReturns f t h) :=
  inferInstanceAs (Decidable (∀ v ∈ _, ∀ w ∈ _, _ → _))

theorem filter_dropWhile_not {α : Type} (p : α → Bool) (l : List α)
    : (l.dropWhile (fun x => !p x)).filter p = l.filter p := by
  induction l with
  | nil => rfl
  | cons x rest ih =>
    rw [dropWhile_cons]
    cases own : p x with
    | true => rfl
    | false => simpa [own] using ih

theorem own_sublist_during : (h.own t).Sublist (h.during t) := by
  have same : (h.during t).filter (fun issued => issued.thread == t) = h.own t := by
    unfold during own
    rw [filter_reverse, ← reverse_inj, reverse_reverse]
    have inner := filter_dropWhile_not (fun issued : Issued M => issued.thread == t)
    change ((h.log.dropWhile (fun issued => !(issued.thread == t))).reverse.dropWhile
      (fun issued => !(issued.thread == t))).filter _ = _
    rw [inner, filter_reverse, inner]
  rw [← same]
  exact filter_sublist

/-- A value that a thread finds twice is there at each of its instants in between. -/
theorem NeverReturns.between (never : NeverReturns f t h) {first middle last : Issued M}
    (order : [last, middle, first].Sublist (h.own t)) (same : f last.before = f first.before)
    : f middle.before = f first.before := by
  have values := (order.trans own_sublist_during).map (fun issued : Issued M => f issued.before)
  simp only [map_cons, map_nil, same] at values
  refine never _ ?_ _ ?_ values
  · exact values.subset (.head _)
  · exact values.subset (.tail _ (.head _))

end History

end CairnStone.Concurrency
