import CairnStone.Concurrency.Program

/-! Programs that only exchange calls and replies with what is outside. The state is the transcript of the
exchanges so far, and what is outside may reply to each call as it likes, after all of them.
-/

namespace CairnStone.Concurrency

structure Exchange (Call ε α : Type) where
  call : Call
  reply : Except ε α

/-- What each call is replied, after the exchanges before it. -/
abbrev World (Call ε α : Type) := List (Exchange Call ε α) → Call → Except ε α

variable {Call ε α β γ : Type}

def exchanging (world : World Call ε α) : Machine where
  State := List (Exchange Call ε α)
  Command := Call
  Reply _ := Except ε α
  exec call log := (world log call, log ++ [⟨call, world log call⟩])
  Event := Empty
  disturb := Empty.elim

def ask {world : World Call ε α} (call : Call) : Program (exchanging world) ε α :=
  .exec (M := exchanging world) call Program.ofExcept

/-- From the transcript, the program adds exchanges and ends with a result for which the condition holds.
-/
def Adds {world : World Call ε α} (p : Program (exchanging world) ε β)
    (log : List (Exchange Call ε α)) (post : List (Exchange Call ε α) → Except ε β → Prop)
    : Prop :=
  ∃ added, (p.run log).2 = log ++ added ∧ post added (p.run log).1

namespace Adds

variable {world : World Call ε α} {log : List (Exchange Call ε α)}
  {post : List (Exchange Call ε α) → Except ε β → Prop}
  {p : Program (exchanging world) ε β}

theorem done {value : β} (holds : post [] (.ok value))
    : Adds (.done value : Program (exchanging world) ε β) log post :=
  ⟨[], (List.append_nil log).symm, holds⟩

theorem imp {post' : List (Exchange Call ε α) → Except ε β → Prop} (adds : Adds p log post)
    (weaken : ∀ added result, post added result → post' added result)
    : Adds p log post' := by
  obtain ⟨added, grown, holds⟩ := adds
  exact ⟨added, grown, weaken added _ holds⟩

theorem bind {f : β → Program (exchanging world) ε γ}
    {mid : List (Exchange Call ε α) → Except ε β → Prop}
    {post : List (Exchange Call ε α) → Except ε γ → Prop} (first : Adds p log mid)
    (failed : ∀ added error, mid added (.error error) → post added (.error error))
    (rest : ∀ added value, mid added (.ok value)
      → Adds (f value) (log ++ added) (fun more result => post (added ++ more) result))
    : Adds (p.bind f) log post := by
  obtain ⟨added, grown, holds⟩ := first
  have whole := Program.run_bind p f log
  cases ended : p.run log with
  | mk result after =>
    rw [ended] at grown holds whole
    simp only at grown holds
    subst grown
    cases result with
    | error error =>
      refine ⟨added, ?_, ?_⟩
      · rw [whole]
      · rw [whole]
        exact failed added error holds
    | ok value =>
      obtain ⟨more, grown, holds⟩ := rest added value holds
      refine ⟨added ++ more, ?_, ?_⟩
      · rw [whole]
        exact grown.trans (List.append_assoc log added more)
      · rw [whole]
        exact holds

theorem ask {call : Call} {f : α → Program (exchanging world) ε γ}
    {post : List (Exchange Call ε α) → Except ε γ → Prop}
    (failed : ∀ error, post [⟨call, .error error⟩] (.error error))
    (rest : ∀ answer, Adds (f answer) (log ++ [⟨call, .ok answer⟩])
      (fun more result => post (⟨call, .ok answer⟩ :: more) result))
    : Adds ((Concurrency.ask call : Program (exchanging world) ε α).bind f) log post := by
  have asked
      : Adds (Concurrency.ask call : Program (exchanging world) ε α) log
          (fun added result => added = [⟨call, result⟩]) := by
    have ended
        : (Concurrency.ask call : Program (exchanging world) ε α).run log
          = (world log call, log ++ [⟨call, world log call⟩]) :=
      Program.run_ofExcept (M := exchanging world) (world log call) _
    exact ⟨_, congrArg Prod.snd ended, by rw [ended]⟩
  refine asked.bind ?_ ?_
  · rintro added error rfl
    exact failed error
  · rintro added answer rfl
    exact rest answer

end Adds

end CairnStone.Concurrency
