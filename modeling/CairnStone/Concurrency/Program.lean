import Mathlib.Data.List.Induction

/-! Programs that are cut at their atomic steps, and the runs of many of them at once.
A program reads the shared state or issues a command; between two steps of one call any
number of steps of other calls and of the environment may happen.
-/

namespace CairnStone.Concurrency

open List

/-- A shared state with its atomic commands and the moves the environment may make. -/
structure Machine where
  (State Command : Type)
  Reply : Command → Type
  exec : (cmd : Command) → State → Reply cmd × State
  Event : Type
  disturb : Event → State → State

/-- A call that is cut at its atomic steps. Each `read` observes the state of one instant
and each `exec` is one command; both hand control back before the rest of the call runs.
-/
inductive Program (M : Machine) (ε α : Type) : Type where
  | done (value : α)
  | fail (error : ε)
  | read (next : M.State → Program M ε α)
  | exec (cmd : M.Command) (next : M.Reply cmd → Program M ε α)

namespace Program

variable {M : Machine} {ε α β : Type}

def bind : Program M ε α → (α → Program M ε β) → Program M ε β
  | .done value, f => f value
  | .fail error, _ => .fail error
  | .read next, f => .read (fun state => (next state).bind f)
  | .exec cmd next, f => .exec cmd (fun reply => (next reply).bind f)

instance : Monad (Program M ε) where
  pure := .done
  bind := bind

def select (f : M.State → α) : Program M ε α :=
  .read (fun state => .done (f state))

def perform (cmd : M.Command) : Program M ε (M.Reply cmd) :=
  .exec cmd .done

def ofExcept : Except ε α → Program M ε α
  | .ok value => .done value
  | .error error => .fail error

/-- `try … catch`: the handler runs from the instant at which the body failed. -/
def handle : Program M ε α → (ε → Program M ε α) → Program M ε α
  | .done value, _ => .done value
  | .fail error, f => f error
  | .read next, f => .read (fun state => (next state).handle f)
  | .exec cmd next, f => .exec cmd (fun reply => (next reply).handle f)

def attempt (p : Program M ε α) : Program M ε (Except ε α) :=
  (p.bind (fun value => .done (.ok value))).handle (fun error => .done (.error error))

/-- A whole call without interference. -/
def run : Program M ε α → M.State → Except ε α × M.State
  | .done value, state => (.ok value, state)
  | .fail error, state => (.error error, state)
  | .read next, state => (next state).run state
  | .exec cmd next, state => (next (M.exec cmd state).1).run (M.exec cmd state).2

def Issues (kind : M.Command → Prop) : Program M ε α → Prop
  | .done _ => True
  | .fail _ => True
  | .read next => ∀ state, (next state).Issues kind
  | .exec cmd next => kind cmd ∧ ∀ reply, (next reply).Issues kind

@[simp] theorem pure_eq (value : α) : (pure value : Program M ε α) = .done value := rfl

@[simp] theorem bind_eq (p : Program M ε α) (f : α → Program M ε β) : p >>= f = p.bind f := rfl

@[simp] theorem done_bind (value : α) (f : α → Program M ε β)
    : (done value : Program M ε α).bind f = f value := rfl

@[simp] theorem fail_bind (error : ε) (f : α → Program M ε β)
    : (fail error : Program M ε α).bind f = .fail error := rfl

@[simp] theorem read_bind (next : M.State → Program M ε α) (f : α → Program M ε β)
    : (read next).bind f = .read (fun state => (next state).bind f) := rfl

@[simp] theorem exec_bind (cmd : M.Command) (next : M.Reply cmd → Program M ε α)
    (f : α → Program M ε β)
    : (exec cmd next).bind f = .exec cmd (fun reply => (next reply).bind f) := rfl

@[simp] theorem run_done (value : α) (state : M.State)
    : (done value : Program M ε α).run state = (.ok value, state) := rfl

@[simp] theorem run_fail (error : ε) (state : M.State)
    : (fail error : Program M ε α).run state = (.error error, state) := rfl

@[simp] theorem run_read (next : M.State → Program M ε α) (state : M.State)
    : (read next).run state = (next state).run state := rfl

@[simp] theorem run_select (f : M.State → α) (state : M.State)
    : (select f : Program M ε α).run state = (.ok (f state), state) := rfl

@[simp] theorem run_exec (cmd : M.Command) (next : M.Reply cmd → Program M ε α)
    (state : M.State)
    : (exec cmd next).run state = (next (M.exec cmd state).1).run (M.exec cmd state).2 := rfl

@[simp] theorem run_perform (cmd : M.Command) (state : M.State)
    : (perform cmd : Program M ε (M.Reply cmd)).run state
      = (.ok (M.exec cmd state).1, (M.exec cmd state).2) := rfl

@[simp] theorem run_ofExcept (result : Except ε α) (state : M.State)
    : (ofExcept result : Program M ε α).run state = (result, state) := by
  cases result <;> rfl

/-- An uninterrupted sequence runs its second part from where the first one stopped.
Witness: induction on the first program.
-/
theorem run_bind (p : Program M ε α) (f : α → Program M ε β) (state : M.State)
    : (p.bind f).run state
      = match p.run state with
        | (.ok value, after) => (f value).run after
        | (.error error, after) => (.error error, after) := by
  induction p generalizing state with
  | done value => rfl
  | fail error => rfl
  | read next ih => exact ih state state
  | exec cmd next ih => exact ih _ _

variable {kind : M.Command → Prop} {p : Program M ε α}

theorem Issues.bind {f : α → Program M ε β} (first : p.Issues kind)
    (rest : ∀ value, (f value).Issues kind)
    : (p.bind f).Issues kind := by
  induction p with
  | done value => exact rest value
  | fail error => trivial
  | read next ih => exact fun state => ih state (first state)
  | exec cmd next ih => exact ⟨first.1, fun reply => ih reply (first.2 reply)⟩

theorem Issues.imp {kind' : M.Command → Prop} (issues : p.Issues kind)
    (weaken : ∀ cmd, kind cmd → kind' cmd)
    : p.Issues kind' := by
  induction p with
  | done value => trivial
  | fail error => trivial
  | read next ih => exact fun state => ih state (issues state)
  | exec cmd next ih => exact ⟨weaken cmd issues.1, fun reply => ih reply (issues.2 reply)⟩

theorem Issues.handle {f : ε → Program M ε α} (body : p.Issues kind)
    (handler : ∀ error, (f error).Issues kind)
    : (p.handle f).Issues kind := by
  induction p with
  | done value => trivial
  | fail error => exact handler error
  | read next ih => exact fun state => ih state (body state)
  | exec cmd next ih => exact ⟨body.1, fun reply => ih reply (body.2 reply)⟩

theorem Issues.anything (p : Program M ε α) : p.Issues (fun _ => True) := by
  induction p with
  | done value => trivial
  | fail error => trivial
  | read next ih => exact ih
  | exec cmd next ih => exact ⟨trivial, ih⟩

theorem Issues.ofExcept (result : Except ε α)
    : (ofExcept result : Program M ε α).Issues kind := by
  cases result <;> trivial

end Program

structure Issued (M : Machine) where
  thread : Nat
  command : M.Command
  before : M.State

/-- The current state and every command executed so far, the newest first. -/
structure History (M : Machine) where
  state : M.State
  log : List (Issued M)

namespace History

variable {M : Machine}

def exec (history : History M) (thread : Nat) (cmd : M.Command) : History M where
  state := (M.exec cmd history.state).2
  log := ⟨thread, cmd, history.state⟩ :: history.log

def disturb (history : History M) (event : M.Event) : History M :=
  { history with state := M.disturb event history.state }

@[simp] theorem exec_state (history : History M) (thread : Nat) (cmd : M.Command)
    : (history.exec thread cmd).state = (M.exec cmd history.state).2 := rfl

@[simp] theorem exec_log (history : History M) (thread : Nat) (cmd : M.Command)
    : (history.exec thread cmd).log = ⟨thread, cmd, history.state⟩ :: history.log := rfl

@[simp] theorem disturb_state (history : History M) (event : M.Event)
    : (history.disturb event).state = M.disturb event history.state := rfl

@[simp] theorem disturb_log (history : History M) (event : M.Event)
    : (history.disturb event).log = history.log := rfl

end History

structure Thread (M : Machine) (Call ε α : Type) where
  call : Call
  start : M.State
  program : Program M ε α

namespace Thread

variable {M : Machine} {Call ε α : Type}

/-- The call's answer, once it has ended. -/
def answer (thread : Thread M Call ε α) : Option (Except ε α) :=
  match thread.program with
  | .done value => some (.ok value)
  | .fail error => some (.error error)
  | _ => none

def pending (thread : Thread M Call ε α) : Option M.Command :=
  match thread.program with
  | .exec cmd _ => some cmd
  | _ => none

end Thread

/-- What happens next: a call is issued, a thread takes its next step, or the environment
moves.
-/
inductive Action (M : Machine) (Call : Type) where
  | spawn (call : Call)
  | step (thread : Nat)
  | disturb (event : M.Event)

/-- All calls issued so far, in call order, over one history. Finished calls stay. -/
structure Config (M : Machine) (Call ε α : Type) where
  history : History M
  threads : List (Thread M Call ε α)

namespace Config

variable {M : Machine} {Call ε α : Type}
  {config : Config M Call ε α} {thread : Nat} {entry : Thread M Call ε α}

def init (state : M.State) : Config M Call ε α :=
  { history := { state, log := [] }, threads := [] }

abbrev state (config : Config M Call ε α) : M.State :=
  config.history.state

def advance (config : Config M Call ε α) (thread : Nat) : Config M Call ε α :=
  match config.threads[thread]? with
  | none => config
  | some entry =>
    match entry.program with
    | .done _ => config
    | .fail _ => config
    | .read next =>
      { config with
        threads :=
          config.threads.set thread { entry with program := next config.history.state } }
    | .exec cmd next =>
      { history := config.history.exec thread cmd
        threads :=
          config.threads.set thread
            { entry with program := next (M.exec cmd config.history.state).1 } }

def act (body : Call → Program M ε α) (config : Config M Call ε α)
    : Action M Call → Config M Call ε α
  | .spawn call =>
    { config with
      threads := config.threads ++ [⟨call, config.history.state, body call⟩] }
  | .step thread => config.advance thread
  | .disturb event => { config with history := config.history.disturb event }

/-- Any schedule of actions, from left to right. -/
def run (body : Call → Program M ε α) (config : Config M Call ε α)
    (schedule : List (Action M Call))
    : Config M Call ε α :=
  schedule.foldl (act body) config

@[simp] theorem run_nil (body : Call → Program M ε α) (config : Config M Call ε α)
    : config.run body [] = config := rfl

@[simp] theorem run_cons (body : Call → Program M ε α) (config : Config M Call ε α)
    (action : Action M Call) (rest : List (Action M Call))
    : config.run body (action :: rest) = (config.act body action).run body rest := rfl

theorem run_append (body : Call → Program M ε α) (config : Config M Call ε α)
    (first second : List (Action M Call))
    : config.run body (first ++ second) = (config.run body first).run body second := by
  simp [run]

/-- What holds before every action and survives each one holds after every schedule.
Witness: induction on the schedule.
-/
theorem run_induction {body : Call → Program M ε α} (I : Config M Call ε α → Prop)
    (step : ∀ config action, I config → I (config.act body action)) (start : I config)
    (acts : List (Action M Call))
    : I (config.run body acts) := by
  induction acts generalizing config with
  | nil => exact start
  | cons action rest ih => exact ih (step config action start)

/-- A property of states that every command and every move of the environment keeps holds
after every schedule. Witness: one action executes at most one command.
-/
theorem run_state_induction (body : Call → Program M ε α) (config : Config M Call ε α)
    (I : M.State → Prop) (exec : ∀ state cmd, I state → I (M.exec cmd state).2)
    (disturb : ∀ state event, I state → I (M.disturb event state)) (start : I config.state)
    (acts : List (Action M Call))
    : I (config.run body acts).state := by
  refine run_induction (fun config => I config.state) (fun config action holds => ?_)
    start acts
  cases action with
  | spawn call => exact holds
  | disturb event => exact disturb _ event holds
  | step thread =>
    simp only [act, advance]
    split
    · exact holds
    · split
      · exact holds
      · exact holds
      · exact holds
      · exact exec _ _ holds

/-- The answer of a thread, once its call has ended. -/
def answer (config : Config M Call ε α) (thread : Nat) : Option (Except ε α) :=
  config.threads[thread]?.bind Thread.answer

/-- The call a thread was issued for. -/
def call (config : Config M Call ε α) (thread : Nat) : Option Call :=
  config.threads[thread]?.map Thread.call

def pending (config : Config M Call ε α) (thread : Nat) : Option M.Command :=
  config.threads[thread]?.bind Thread.pending

theorem call_of_pending {cmd : M.Command} (pending : config.pending thread = some cmd)
    : ∃ call, config.call thread = some call := by
  unfold Config.pending at pending
  cases found : config.threads[thread]? with
  | none => simp [found] at pending
  | some entry => exact ⟨entry.call, by simp [Config.call, found]⟩

/-- No action changes what a thread was issued for. Witness: steps replace only programs. -/
theorem call_act (body : Call → Program M ε α) (action : Action M Call) {call : Call}
    (asked : config.call thread = some call)
    : (config.act body action).call thread = some call := by
  have replaced (u : Nat) (entry : Thread M Call ε α) (program : Program M ε α)
      (found : config.threads[u]? = some entry)
      : ((config.threads.set u { entry with program })[thread]?).map Thread.call
        = some call := by
    rw [getElem?_set]
    split
    · rename_i same
      subst same
      rw [if_pos (List.getElem?_eq_some_iff.mp found).1]
      rwa [Config.call, found] at asked
    · exact asked
  cases action with
  | spawn other =>
    obtain ⟨entry, found, _⟩ := Option.map_eq_some_iff.mp asked
    have bound := (List.getElem?_eq_some_iff.mp found).1
    simpa [Config.call, act, getElem?_append_left bound] using asked
  | disturb event => exact asked
  | step u =>
    simp only [act, advance]
    cases found : config.threads[u]? with
    | none => exact asked
    | some entry =>
      cases program : entry.program with
      | done value => simpa only [program] using asked
      | fail error => simpa only [program] using asked
      | read next =>
        simp only [program]
        exact replaced u entry _ found
      | exec cmd next =>
        simp only [program]
        exact replaced u entry _ found

def spawned : Action M Call → Option Call
  | .spawn call => some call
  | _ => none

/-- Calls are issued one after the other, and steps keep them. -/
theorem calls_act (body : Call → Program M ε α) (config : Config M Call ε α)
    (action : Action M Call)
    : (config.act body action).threads.map Thread.call
      = config.threads.map Thread.call ++ (spawned action).toList := by
  have replaced (u : Nat) (entry : Thread M Call ε α) (program : Program M ε α)
      (found : config.threads[u]? = some entry)
      : (config.threads.set u { entry with program }).map Thread.call
        = config.threads.map Thread.call := by
    have same : (config.threads.map Thread.call)[u]? = some entry.call := by simp [found]
    rw [map_set]
    obtain ⟨bound, value⟩ := List.getElem?_eq_some_iff.mp same
    rw [← value]
    exact set_getElem_self bound
  cases action with
  | spawn call => simp [act, spawned]
  | disturb event => simp [act, spawned]
  | step u =>
    simp only [act, advance, spawned, Option.toList_none, append_nil]
    cases found : config.threads[u]? with
    | none => rfl
    | some entry =>
      cases program : entry.program with
      | done value => simp only [program]
      | fail error => simp only [program]
      | read next =>
        simp only [program]
        exact replaced u entry _ found
      | exec cmd next =>
        simp only [program]
        exact replaced u entry _ found

/-- The calls of a run are those that its schedule issues, in that order.
Witness: induction on the schedule.
-/
theorem calls_run (body : Call → Program M ε α) (config : Config M Call ε α)
    (acts : List (Action M Call))
    : (config.run body acts).threads.map Thread.call
      = config.threads.map Thread.call ++ acts.filterMap spawned := by
  induction acts generalizing config with
  | nil => simp
  | cons action rest ih =>
    rw [run_cons, ih, calls_act, append_assoc]
    cases action <;> rfl

theorem call_run (body : Call → Program M ε α) (state : M.State)
    (acts : List (Action M Call)) (thread : Nat)
    : ((init state : Config M Call ε α).run body acts).call thread
      = (acts.filterMap spawned)[thread]? := by
  have calls := calls_run body (init state : Config M Call ε α) acts
  rw [call, ← getElem?_map, calls]
  rfl

/-- Stepping a thread changes the state only by the command it had pending.
Witness: case analysis on the thread's program.
-/
theorem advance_history (config : Config M Call ε α) (thread : Nat)
    : (config.advance thread).history
      = match config.pending thread with
        | some cmd => config.history.exec thread cmd
        | none => config.history := by
  unfold advance pending
  cases config.threads[thread]? with
  | none => rfl
  | some entry => cases h : entry.program <;> simp [Thread.pending, h]

/-- A run only adds to the log. Witness: one action adds at most one entry. -/
theorem log_run (body : Call → Program M ε α) (config : Config M Call ε α)
    (acts : List (Action M Call))
    : config.history.log <:+ (config.run body acts).history.log := by
  refine run_induction (fun after => config.history.log <:+ after.history.log)
    (fun after action holds => ?_) (suffix_refl _) acts
  cases action with
  | spawn call => exact holds
  | disturb event => exact holds
  | step thread =>
    rw [act, advance_history]
    split
    · exact holds.trans (suffix_cons _ _)
    · exact holds

theorem start_act (body : Call → Program M ε α) (action : Action M Call)
    (found : (config.act body action).threads[thread]? = some entry)
    : (∃ before, config.threads[thread]? = some before ∧ before.start = entry.start)
      ∨ thread = config.threads.length ∧ entry.start = config.state := by
  have replaced (u : Nat) (other : Thread M Call ε α) (program : Program M ε α)
      (at_u : config.threads[u]? = some other)
      (after : (config.threads.set u { other with program })[thread]? = some entry)
      : ∃ before, config.threads[thread]? = some before ∧ before.start = entry.start := by
    rw [getElem?_set] at after
    split at after
    · rename_i same
      subst same
      split at after
      · cases after
        exact ⟨other, at_u, rfl⟩
      · cases after
    · exact ⟨entry, after, rfl⟩
  cases action with
  | spawn call =>
    rcases Nat.lt_trichotomy thread config.threads.length with old | new | beyond
    · rw [act, getElem?_append_left old] at found
      exact .inl ⟨entry, found, rfl⟩
    · obtain rfl : (⟨call, config.history.state, body call⟩ : Thread M Call ε α) = entry := by
        simpa [act, new] using found
      exact .inr ⟨new, rfl⟩
    · rw [act, getElem?_eq_none (by simp; omega)] at found
      cases found
  | disturb event => exact .inl ⟨entry, found, rfl⟩
  | step u =>
    simp only [act, advance] at found
    cases at_u : config.threads[u]? with
    | none => exact .inl ⟨entry, by simpa only [at_u] using found, rfl⟩
    | some other =>
      cases program : other.program with
      | read next => exact .inl (replaced u other _ at_u (by simpa only [at_u, program] using found))
      | exec cmd next =>
        exact .inl (replaced u other _ at_u (by simpa only [at_u, program] using found))
      | _ => exact .inl ⟨entry, by simpa only [at_u, program] using found, rfl⟩

/-- A call issued during a run started from a state of that run.
Witness: induction on the schedule from its end.
-/
theorem exists_start_run (body : Call → Program M ε α) (config : Config M Call ε α)
    (acts : List (Action M Call))
    (found : (config.run body acts).threads[thread]? = some entry)
    (later : config.threads.length ≤ thread)
    : ∃ first second, acts = first ++ second ∧ entry.start = (config.run body first).state := by
  induction acts using List.reverseRecOn generalizing entry with
  | nil =>
    rw [run_nil, getElem?_eq_none later] at found
    cases found
  | append_singleton before action ih =>
    rw [run_append, run_cons, run_nil] at found
    rcases start_act body action found with ⟨old, at_old, same⟩ | ⟨_, start⟩
    · obtain ⟨first, second, split, start⟩ := ih at_old
      exact ⟨first, second ++ [action], by rw [split, append_assoc], same ▸ start⟩
    · exact ⟨before, [action], rfl, start⟩

end Config

end CairnStone.Concurrency

/-! Machines within larger ones. A program of a part runs in the whole and does there what it does
alone.
-/

namespace CairnStone.Concurrency

open List

structure Embedding (M N : Machine) where
  view : N.State → M.State
  command : M.Command → N.Command
  reply : (c : M.Command) → N.Reply (command c) → M.Reply c
  replies : ∀ c state, reply c (N.exec (command c) state).1 = (M.exec c (view state)).1
  views : ∀ c state, view (N.exec (command c) state).2 = (M.exec c (view state)).2

namespace Program

variable {M N : Machine} {ε ε' α : Type}

def embed (part : Embedding M N) (raise : ε → ε') : Program M ε α → Program N ε' α
  | .done value => .done value
  | .fail error => .fail (raise error)
  | .read next => .read (fun state => (next (part.view state)).embed part raise)
  | .exec cmd next =>
    .exec (part.command cmd) (fun reply => (next (part.reply cmd reply)).embed part raise)

/-- An embedded call issues only commands of the part. Witness: induction on the program. -/
theorem issues_embed (part : Embedding M N) (raise : ε → ε') (p : Program M ε α)
    : (p.embed part raise).Issues (fun cmd => ∃ own, cmd = part.command own) := by
  induction p with
  | done value => trivial
  | fail error => trivial
  | read next ih => exact fun state => ih (part.view state)
  | exec cmd next ih => exact ⟨⟨cmd, rfl⟩, fun reply => ih (part.reply cmd reply)⟩

end Program

end CairnStone.Concurrency
