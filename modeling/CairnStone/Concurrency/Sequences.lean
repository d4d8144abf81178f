import CairnStone.Concurrency.Program

/-! Calls that are run alone, one after the other. What each call keeps in every state it passes
through holds in every state of the sequence.
-/

namespace CairnStone.Concurrency

variable {M : Machine} {Call ε α β : Type}

namespace Program

variable {p : Program M ε α}

theorem bind_assoc {γ : Type} (p : Program M ε α) (f : α → Program M ε β) (g : β → Program M ε γ)
    : (p.bind f).bind g = p.bind (fun value => (f value).bind g) := by
  induction p with
  | done value => rfl
  | fail error => rfl
  | read next ih => exact congrArg _ (funext ih)
  | exec cmd next ih => exact congrArg _ (funext ih)

/-- The states that a call running alone leaves with its commands, in their order. -/
def visits : Program M ε α → M.State → List M.State
  | .done _, _ => []
  | .fail _, _ => []
  | .read next, state => (next state).visits state
  | .exec cmd next, state =>
    (M.exec cmd state).2
      :: (next (M.exec cmd state).1).visits (M.exec cmd state).2

/-- `p.Alone I Q state`: running alone from the state, the call leaves `I` true with each command, and
its answer satisfies `Q`.
-/
def Alone (I : M.State → Prop) (Q : Except ε α → M.State → Prop) : Program M ε α → M.State → Prop
  | .done value, state => Q (.ok value) state
  | .fail error, state => Q (.error error) state
  | .read next, state => (next state).Alone I Q state
  | .exec cmd next, state =>
    I (M.exec cmd state).2 ∧ (next (M.exec cmd state).1).Alone I Q (M.exec cmd state).2

variable {I : M.State → Prop} {Q Q' : Except ε α → M.State → Prop} {state : M.State}

/-- What a call promises alone is true of its run. Witness: induction on the program. -/
theorem Alone.of_run (alone : p.Alone I Q state)
    : (∀ visit ∈ p.visits state, I visit) ∧ Q (p.run state).1 (p.run state).2 := by
  induction p generalizing state with
  | done value => exact ⟨List.forall_mem_nil _, alone⟩
  | fail error => exact ⟨List.forall_mem_nil _, alone⟩
  | read next ih => exact ih state alone
  | exec cmd next ih =>
    obtain ⟨now, rest⟩ := alone
    obtain ⟨later, answers⟩ := ih _ rest
    refine ⟨fun visit mem => ?_, answers⟩
    rcases List.mem_cons.mp mem with rfl | left
    · exact now
    · exact later visit left

theorem Alone.consequence (alone : p.Alone I Q state)
    (weaken : ∀ answer after, Q answer after → Q' answer after)
    : p.Alone I Q' state := by
  induction p generalizing state with
  | done value => exact weaken _ _ alone
  | fail error => exact weaken _ _ alone
  | read next ih => exact ih state alone
  | exec cmd next ih => exact ⟨alone.1, ih _ alone.2⟩

/-- Sequencing: the continuation starts from wherever the first part answered.
Witness: induction on the first part.
-/
theorem Alone.seq {p : Program M ε β} {f : β → Program M ε α} {R : Except ε β → M.State → Prop}
    (first : p.Alone I R state)
    (next : ∀ value after, R (.ok value) after → (f value).Alone I Q after)
    (stop : ∀ error after, R (.error error) after → Q (.error error) after)
    : (p.bind f).Alone I Q state := by
  induction p generalizing state with
  | done value => exact next value state first
  | fail error => exact stop error state first
  | read following ih => exact ih state first
  | exec cmd following ih => exact ⟨first.1, ih _ first.2⟩

/-- Where every command keeps the invariant, so does the call. Witness: induction on the program. -/
theorem Alone.of_issues {kind : M.Command → Prop} (issues : p.Issues kind)
    (kept : ∀ cmd state, kind cmd → I state → I (M.exec cmd state).2)
    (now : I state)
    : p.Alone I (fun _ after => I after) state := by
  induction p generalizing state with
  | done value => exact now
  | fail error => exact now
  | read next ih => exact ih state (issues state) now
  | exec cmd next ih =>
    have after := kept cmd state issues.1 now
    exact ⟨after, ih _ (issues.2 _) after⟩

end Program

variable {body : Call → Program M ε α} {P P' : M.State → Call → Prop} {state : M.State}
  {calls : List Call}

/-- Each call of a sequence, with the state that it finds. -/
def EachCall (body : Call → Program M ε α) (P : M.State → Call → Prop)
    : M.State → List Call → Prop
  | _, [] => True
  | state, call :: rest => P state call ∧ EachCall body P ((body call).run state).2 rest

instance decidableEachCall [∀ state call, Decidable (P state call)]
    : (state : M.State) → (calls : List Call) → Decidable (EachCall body P state calls)
  | _, [] => inferInstanceAs (Decidable True)
  | state, call :: rest =>
    have : Decidable (EachCall body P ((body call).run state).2 rest) :=
      decidableEachCall ((body call).run state).2 rest
    inferInstanceAs (Decidable (P state call ∧ EachCall body P ((body call).run state).2 rest))

/-- What each call keeps, and shows while it is kept, holds along the sequence.
Witness: induction on the calls that are left.
-/
theorem EachCall.induction {J : M.State → List Call → Prop}
    (each : EachCall body P state calls) (start : J state calls)
    (step
      : ∀ {state call rest}, P state call → J state (call :: rest)
        → P' state call ∧ J ((body call).run state).2 rest)
    : EachCall body P' state calls := by
  induction calls generalizing state with
  | nil => trivial
  | cons call rest ih =>
    obtain ⟨shows, keeps⟩ := step each.1 start
    exact ⟨shows, ih each.2 keeps⟩

end CairnStone.Concurrency
