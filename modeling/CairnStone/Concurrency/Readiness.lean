import CairnStone.Concurrency.Admission

/-! Calls that choose a command by what they have just read. Until the command is issued, steps of other
calls may make it stale. While no admitted step does, every command fits the state that it finds.
-/

namespace CairnStone.Concurrency

open List

variable {M : Machine} {Call ε α β : Type}

namespace Program

variable {p : Program M ε α} {f : α → Program M ε β}

/-- The command that the program issues next, if any, fits the state. -/
def Fits (fit : M.State → M.Command → Prop) (state : M.State) : Program M ε α → Prop
  | .done _ => True
  | .fail _ => True
  | .read _ => True
  | .exec cmd _ => fit state cmd

def Heeds (fit : M.State → M.Command → Prop) : Program M ε α → Prop
  | .done _ => True
  | .fail _ => True
  | .read next => ∀ state, (next state).Heeds fit ∧ (next state).Fits fit state
  | .exec _ next => ∀ reply, (next reply).Heeds fit ∧ ∀ state, (next reply).Fits fit state

/-- The program may follow any other step. -/
def Heedful (fit : M.State → M.Command → Prop) (p : Program M ε α) : Prop :=
  p.Heeds fit ∧ ∀ state, p.Fits fit state

variable {fit : M.State → M.Command → Prop}

/-- A program whose commands fit every state is heedful. Witness: induction on the program. -/
theorem Issues.heedful (issues : p.Issues (fun cmd => ∀ state, fit state cmd))
    : p.Heedful fit := by
  induction p with
  | done value => exact ⟨trivial, fun _ => trivial⟩
  | fail error => exact ⟨trivial, fun _ => trivial⟩
  | read next ih =>
    exact ⟨fun state => ⟨(ih state (issues state)).1, (ih state (issues state)).2 state⟩,
      fun _ => trivial⟩
  | exec cmd next ih => exact ⟨fun reply => ih reply (issues.2 reply), issues.1⟩

/-- Where the first part ends, the second one may follow. -/
theorem Fits.bind {state : M.State} (first : p.Fits fit state)
    (rest : ∀ value, (f value).Heedful fit)
    : (p.bind f).Fits fit state := by
  cases p with
  | done value => exact (rest value).2 state
  | fail error => trivial
  | read next => trivial
  | exec cmd next => exact first

theorem Heeds.bind (first : p.Heeds fit) (rest : ∀ value, (f value).Heedful fit)
    : (p.bind f).Heeds fit := by
  induction p with
  | done value => exact (rest value).1
  | fail error => trivial
  | read next ih => exact fun state => ⟨ih state (first state).1, (first state).2.bind rest⟩
  | exec cmd next ih =>
    exact fun reply => ⟨ih reply (first reply).1, fun state => ((first reply).2 state).bind rest⟩

theorem Heedful.bind (first : p.Heedful fit) (rest : ∀ value, (f value).Heedful fit)
    : (p.bind f).Heedful fit :=
  ⟨first.1.bind rest, fun state => (first.2 state).bind rest⟩

theorem heedful_select_bind {f : M.State → α} {g : α → Program M ε β}
    (rest : ∀ state, (g (f state)).Heeds fit ∧ (g (f state)).Fits fit state)
    : ((select f).bind g).Heedful fit :=
  ⟨rest, fun _ => trivial⟩

end Program

namespace Config

variable {schedule : List (Action M Call)}

structure Heeding (fit : M.State → M.Command → Prop) (config : Config M Call ε α) : Prop where
  heeds : ∀ thread ∈ config.threads, thread.program.Heeds fit
  fits : ∀ thread ∈ config.threads, thread.program.Fits fit config.state

/-- The thread's next command leaves no command stale that another thread has in hand. -/
def Spares (fit : M.State → M.Command → Prop) (config : Config M Call ε α) (t : Nat) : Prop :=
  ∀ cmd, config.pending t = some cmd → fit config.state cmd →
    ∀ u waiting, u ≠ t → config.pending u = some waiting → fit config.state waiting →
      fit (M.exec cmd config.state).2 waiting

variable {fit : M.State → M.Command → Prop} {body : Call → Program M ε α}
  {allowed : Config M Call ε α → Nat → Prop} {config : Config M Call ε α}

theorem Heeding.fit_pending (heeding : config.Heeding fit) {t : Nat} {cmd : M.Command}
    (pending : config.pending t = some cmd)
    : fit config.state cmd := by
  obtain ⟨thread, found, in_hand⟩ := Option.bind_eq_some_iff.mp pending
  have fits := heeding.fits thread (mem_of_getElem? found)
  unfold Thread.pending at in_hand
  cases program : thread.program with
  | done value => simp [program] at in_hand
  | fail error => simp [program] at in_hand
  | read next => simp [program] at in_hand
  | exec issued next =>
    simp only [program, Option.some.injEq] at in_hand
    rw [program] at fits
    exact in_hand ▸ fits

/-- A step that spares the other threads' commands leaves none of them stale. Witness: cases on the step;
the thread itself has read the present state, or may follow any step.
-/
theorem Heeding.step (heeding : config.Heeding fit) {t : Nat} (spares : config.Spares fit t)
    : (config.act body (.step t)).Heeding fit := by
  rw [act]
  unfold advance
  cases at_t : config.threads[t]? with
  | none => exact heeding
  | some entry =>
    have heeds := heeding.heeds entry (mem_of_getElem? at_t)
    cases program : entry.program with
    | done value => simpa only [program] using heeding
    | fail error => simpa only [program] using heeding
    | read next =>
      rw [program] at heeds
      simp only [program]
      constructor
      · intro thread mem
        rcases mem_or_eq_of_mem_set mem with old | rfl
        · exact heeding.heeds thread old
        · exact (heeds config.state).1
      · intro thread mem
        rcases mem_or_eq_of_mem_set mem with old | rfl
        · exact heeding.fits thread old
        · exact (heeds config.state).2
    | exec cmd next =>
      rw [program] at heeds
      simp only [program]
      have pending : config.pending t = some cmd := by
        simp [Config.pending, at_t, Thread.pending, program]
      constructor
      · intro thread mem
        rcases mem_or_eq_of_mem_set mem with old | rfl
        · exact heeding.heeds thread old
        · exact (heeds _).1
      · intro thread mem
        obtain ⟨u, found⟩ := mem_iff_getElem?.mp mem
        by_cases same : u = t
        · cases same
          obtain ⟨inside, _⟩ := List.getElem?_eq_some_iff.mp at_t
          rw [getElem?_set_self inside] at found
          cases found
          exact (heeds _).2 _
        · rw [getElem?_set_ne (Ne.symm same)] at found
          have fits := heeding.fits thread (mem_of_getElem? found)
          cases theirs : thread.program with
          | done value => trivial
          | fail error => trivial
          | read next => trivial
          | exec in_hand next =>
            rw [theirs] at fits
            refine spares cmd pending (heeding.fit_pending pending) u in_hand same ?_ fits
            simp [Config.pending, found, Thread.pending, theirs]

/-- While every admitted step spares the other threads' commands, none of them becomes stale.
Witness: induction on the schedule.
-/
theorem Admitted.heeding (heedful : ∀ call, (body call).Heedful fit)
    (spares : ∀ config t, allowed config t → Spares fit config t)
    (disturb
      : ∀ event state cmd, fit state cmd → fit (M.disturb event state) cmd)
    (admitted : config.Admitted body allowed schedule) (start : config.Heeding fit)
    : (config.run body schedule).Heeding fit := by
  refine admitted.induction start (fun before action _ now heeding => ?_)
  generalize config.run body before = config at now heeding
  cases action with
  | spawn call =>
    constructor
    · intro thread mem
      rcases mem_append.mp mem with old | new
      · exact heeding.heeds thread old
      · rw [mem_singleton.mp new]
        exact (heedful call).1
    · intro thread mem
      rcases mem_append.mp mem with old | new
      · exact heeding.fits thread old
      · rw [mem_singleton.mp new]
        exact (heedful call).2 _
  | disturb event =>
    refine ⟨heeding.heeds, fun thread mem => ?_⟩
    have fits := heeding.fits thread mem
    cases program : thread.program with
    | done value => trivial
    | fail error => trivial
    | read next => trivial
    | exec cmd next =>
      rw [program] at fits
      exact disturb event _ cmd fits
  | step t => exact heeding.step (spares config t now)

theorem Admitted.history {J : History M → Prop}
    (admitted : config.Admitted body allowed schedule) (start : J config.history)
    (exec
      : ∀ before t cmd, config.Admitted body allowed before
        → allowed (config.run body before) t → (config.run body before).pending t = some cmd
        → J (config.run body before).history
        → J ((config.run body before).history.exec t cmd))
    (disturb : ∀ history event, J history → J (history.disturb event))
    : J (config.run body schedule).history := by
  refine admitted.induction (J := fun config => J config.history) start
    (fun before action prior now holds => ?_)
  have executes := exec before
  generalize config.run body before = config at now holds executes
  cases action with
  | spawn call => exact holds
  | disturb event => exact disturb _ event holds
  | step t =>
    rw [act, advance_history]
    cases pending : config.pending t with
    | none => exact holds
    | some cmd => exact executes t cmd prior now pending holds

end Config

end CairnStone.Concurrency
