import CairnStone.Concurrency.Replay

/-! Runs whose steps are admitted one by one: a condition on the configuration in which a thread takes
its next step. What the admitted steps keep holds after every admitted schedule.
-/

namespace CairnStone.Concurrency

open Config

variable {M : Machine} {Call ε α : Type}

/-- The action is no step, or one that the configuration admits. -/
def Action.Admitted (allowed : Config M Call ε α → Nat → Prop) (config : Config M Call ε α)
    : Action M Call → Prop
  | .step t => allowed config t
  | _ => True

namespace Config

variable {schedule : List (Action M Call)}

/-- Every step of the schedule is admitted by the configuration in which it is taken. -/
def Admitted (body : Call → Program M ε α) (allowed : Config M Call ε α → Nat → Prop)
    (config : Config M Call ε α)
    : List (Action M Call) → Prop
  | [] => True
  | action :: rest =>
    action.Admitted allowed config ∧ Admitted body allowed (config.act body action) rest

variable {body : Call → Program M ε α} {allowed : Config M Call ε α → Nat → Prop}
  {config : Config M Call ε α}

instance decidableActionAdmitted [∀ config t, Decidable (allowed config t)]
    (config : Config M Call ε α) (action : Action M Call)
    : Decidable (action.Admitted allowed config) :=
  match action with
  | .step t => inferInstanceAs (Decidable (allowed config t))
  | .spawn _ => inferInstanceAs (Decidable True)
  | .disturb _ => inferInstanceAs (Decidable True)

instance decidableAdmitted [∀ config t, Decidable (allowed config t)]
    : (config : Config M Call ε α) → (schedule : List (Action M Call))
      → Decidable (config.Admitted body allowed schedule)
  | _, [] => inferInstanceAs (Decidable True)
  | config, action :: rest =>
    have : Decidable ((config.act body action).Admitted body allowed rest) :=
      decidableAdmitted (config.act body action) rest
    inferInstanceAs (Decidable (action.Admitted allowed config ∧ _))

theorem admitted_append (first second : List (Action M Call))
    : config.Admitted body allowed (first ++ second)
      ↔ config.Admitted body allowed first
        ∧ (config.run body first).Admitted body allowed second := by
  induction first generalizing config with
  | nil => simp [Admitted]
  | cons action rest ih => simp only [List.cons_append, Admitted, ih, run_cons, and_assoc]

theorem Admitted.at_step {before : List (Action M Call)} {t : Nat}
    (fits : config.Admitted body allowed schedule) (le : before ++ [.step t] <+: schedule)
    : allowed (config.run body before) t := by
  obtain ⟨later, rfl⟩ := le
  obtain ⟨upTo, _⟩ := (admitted_append _ later).mp fits
  exact ((admitted_append before _).mp upTo).2.1

/-- What every admitted action keeps holds after every admitted schedule.
Witness: induction on the schedule, the newest action last.
-/
theorem Admitted.induction {J : Config M Call ε α → Prop}
    (fits : config.Admitted body allowed schedule) (start : J config)
    (step
      : ∀ before action, config.Admitted body allowed before
        → action.Admitted allowed (config.run body before) → J (config.run body before)
        → J ((config.run body before).act body action))
    : J (config.run body schedule) := by
  induction schedule using List.reverseRecOn with
  | nil => exact start
  | append_singleton before action ih =>
    obtain ⟨prior, now, _⟩ := (admitted_append before [action]).mp fits
    rw [run_append]
    exact step before action prior now (ih prior)

end Config

theorem Config.answer_act (body : Call → Program M ε α) {config : Config M Call ε α} {u : Nat}
    {answer : Except ε α} (said : config.answer u = some answer) (action : Action M Call)
    : (config.act body action).answer u = some answer := by
  obtain ⟨entry, found, ended⟩ := Option.bind_eq_some_iff.mp said
  have replaced (t : Nat) (other : Thread M Call ε α) (program : Program M ε α)
      (at_t : config.threads[t]? = some other) (unended : other.answer = none)
      : (config.threads.set t { other with program })[u]?.bind Thread.answer = some answer := by
    have apart : t ≠ u := by
      rintro rfl
      cases (at_t.symm.trans found)
      cases unended.symm.trans ended
    rw [List.getElem?_set_ne apart]
    exact said
  cases action with
  | spawn call =>
    have inside : u < config.threads.length := (List.getElem?_eq_some_iff.mp found).1
    unfold Config.answer Config.act
    rw [List.getElem?_append_left inside]
    exact said
  | disturb event => exact said
  | step t =>
    simp only [act, advance]
    cases at_t : config.threads[t]? with
    | none => exact said
    | some other =>
      cases program : other.program with
      | done value => simpa only [program] using said
      | fail error => simpa only [program] using said
      | read next =>
        simp only [program]
        exact replaced t other _ at_t (by simp [Thread.answer, program])
      | exec cmd next =>
        simp only [program]
        exact replaced t other _ at_t (by simp [Thread.answer, program])

theorem Config.answer_run (body : Call → Program M ε α) {config : Config M Call ε α} {u : Nat}
    {answer : Except ε α} (said : config.answer u = some answer)
    (schedule : List (Action M Call))
    : (config.run body schedule).answer u = some answer :=
  Config.run_induction (fun config => config.answer u = some answer)
    (fun _ action said => Config.answer_act body said action) said schedule

namespace Protocol

variable (P : Protocol M Call) {post : Nat → Call → M.State → Except ε α → History M → Prop}
  {body : Call → Program M ε α} {allowed : Config M Call ε α → Nat → Prop}
  {schedule : List (Action M Call)}

theorem admitted_from {J : Config M Call ε α → Prop}
    (meets
      : ∀ t call start, P.inv start → start.own t = []
        → P.Meets t call (body call) (post t call start.state) start) {state : M.State}
    (initial : P.inv ⟨state, []⟩) {before : List (Action M Call)}
    (start : J ((Config.init state).run body before))
    (act
      : ∀ {config : Config M Call ε α} {action}, P.Sound post config
        → action.Admitted allowed config → J config → J (config.act body action))
    (fits : ((Config.init state).run body before).Admitted body allowed schedule)
    : J ((Config.init state).run body (before ++ schedule)) := by
  rw [run_append]
  refine fits.induction start (fun between action _ now holds => ?_)
  have sound := P.sound meets initial (before ++ between)
  rw [run_append] at sound
  exact act sound now holds

/-- What every promised and admitted command keeps of the history holds after every admitted schedule.
Witness: a step executes at most its thread's pending command.
-/
theorem admitted_run {J : History M → Prop}
    (meets
      : ∀ t call start, P.inv start → start.own t = []
        → P.Meets t call (body call) (post t call start.state) start) {state : M.State}
    (initial : P.inv ⟨state, []⟩) (start : J ⟨state, []⟩)
    (exec
      : ∀ {config : Config M Call ε α} {t call cmd}, P.Sound post config
        → config.call t = some call → config.pending t = some cmd
        → P.pre t call cmd config.history → allowed config t → J config.history
        → J (config.history.exec t cmd))
    (disturb : ∀ {h} event, P.inv h → J h → J (h.disturb event))
    (fits : (Config.init state).Admitted body allowed schedule)
    : J ((Config.init state).run body schedule).history := by
  have kept {config : Config M Call ε α} {action : Action M Call} (sound : P.Sound post config)
      (now : action.Admitted allowed config) (holds : J config.history)
      : J (config.act body action).history := by
    cases action with
    | spawn call => exact holds
    | disturb event => exact disturb event sound.inv holds
    | step t =>
      rw [Config.act, advance_history]
      cases pending : config.pending t with
      | none => exact holds
      | some cmd =>
        obtain ⟨call, asked⟩ := call_of_pending pending
        exact exec sound asked pending (sound.pre_of_pending asked pending) now holds
  exact fits.induction (J := fun config => J config.history) start (fun before _ _ now holds =>
    kept (P.sound meets initial before) now holds)

theorem log_refl (h : History M) : h.log <:+ h.log :=
  List.suffix_refl h.log

theorem log_trans {h h' h'' : History M} (first : h.log <:+ h'.log) (second : h'.log <:+ h''.log)
    : h.log <:+ h''.log :=
  List.IsSuffix.trans first second

def pledging (start : M.State) (promise : Nat → Call → M.Command → History M → Prop)
    [IsEmpty M.Event]
    : Protocol M Call where
  inv := Kept start (fun t cmd h => ∃ call, promise t call cmd h)
  le h h' := h.log <:+ h'.log
  pre := promise
  refl := log_refl
  trans := log_trans
  exec_inv := fun kept promised => kept.exec ⟨_, promised⟩
  exec_le := fun _ _ => List.suffix_cons _ _
  disturb_inv := fun event => isEmptyElim event
  disturb_le := fun event => isEmptyElim event

end Protocol

end CairnStone.Concurrency
