import CairnStone.CoreAuth.Effects
import CairnStone.CoreAuth.Calls

/-! The parts of a call under any agreement between the calls: a row that must be there, a condition
that must hold, and an insertion.
-/

namespace CairnStone.CoreAuth

open JavaScript Data Concurrency Protocol Option Meets Database

variable {Asked α β : Type} {P : Protocol authStore Asked} {t : Nat} {call : Asked}
  {h h' h'' : History authStore} {Q : Except Failure α → History authStore → Prop}
  {refusal : Refusal} {kind : Command → Prop}

theorem meets_refuse (denied : ∀ h', P.Interference t h h' → Q (.error (.refused refusal)) h')
    : P.Meets t call (refuse refusal) Q h :=
  fail denied

theorem meets_require_bind {found : Option β} {g : β → Auth α}
    (here : ∀ value, found = some value → P.Meets t call (g value) Q h)
    (lost : ∀ h', P.Interference t h h' → Q (.error (.refused refusal)) h')
    : P.Meets t call ((require found refusal).bind g) Q h := by
  cases found with
  | some value => exact here value rfl
  | none => exact meets_refuse lost

/-- A row is read and must be there. -/
theorem meets_fetch_bind {f : Database → Option β} {g : β → Auth α}
    (here
      : ∀ value h', P.Interference t h h' → f h'.state = some value
        → P.Meets t call (g value) Q h')
    (lost : ∀ h', P.Interference t h h' → Q (.error (.refused refusal)) h')
    : P.Meets t call ((select f).bind (fun row => (require row refusal).bind g)) Q h := by
  refine select_bind (fun h1 moved => ?_)
  refine meets_require_bind (fun value found => here value h1 moved found) (fun h2 moved' => ?_)
  exact lost h2 (moved.trans moved')

theorem meets_ensure_bind {cond : Prop} [Decidable cond] {g : Unit → Auth α}
    (holds : cond → P.Meets t call (g ()) Q h)
    (fails : ∀ h', P.Interference t h h' → Q (.error (.refused refusal)) h')
    : P.Meets t call ((ensure cond refusal).bind g) Q h := by
  unfold ensure
  split
  · rename_i cond
    exact holds cond
  · exact meets_refuse fails

/-- One statement, followed by the rest of the call. -/
theorem meets_perform_bind {cmd : Command} {g : cmd.Reply → Auth α}
    (pre : ∀ h', P.Interference t h h' → P.pre t call cmd h')
    (next
      : ∀ h', P.Interference t h h'
        → P.Meets t call (g (exec cmd h'.state).1) Q (h'.exec t cmd))
    : P.Meets t call ((perform cmd).bind g) Q h :=
  perform_bind (fun h' moved => ⟨pre h' moved, next h' moved⟩)

/-- An `INSERT`, followed by the rest of the call or ended by its exception. -/
theorem meets_insert_bind {row : Row} {g : Unit → Auth α}
    (pre : ∀ h', P.Interference t h h' → P.pre t call (.insert row) h')
    (added
      : ∀ h', P.Interference t h h' → taken h'.state row = false
        → P.Meets t call (g ()) Q (h'.exec t (.insert row)))
    (thrown : ∀ h', Q (.error (.thrown .unique)) h')
    : P.Meets t call ((insert row).bind g) Q h := by
  refine meets_perform_bind pre (fun h' moved => ?_)
  rcases exec_insert h'.state row with ⟨_, denied⟩ | ⟨free, put⟩
  · rw [denied]
    exact .fail (fun h'' _ => thrown h'')
  · rw [put]
    exact added h' moved free

/-- A row that must be there, or a condition that must hold, takes no statement. -/
theorem issues_require (found : Option α) (refusal : Refusal)
    : Program.Issues (M := authStore) kind (require found refusal) := by
  cases found with
  | some value => trivial
  | none => trivial

theorem issues_ensure (cond : Prop) [Decidable cond] (refusal : Refusal)
    : Program.Issues (M := authStore) kind (ensure cond refusal) := by
  unfold ensure
  split
  · trivial
  · trivial

theorem entry_of_answer {config : Config authStore Asked Failure α} {thread : Nat} {call : Asked}
    {answer : Except Failure α} (asked : config.call thread = some call)
    (said : config.answer thread = some answer)
    : ∃ entry, config.threads[thread]? = some entry ∧ entry.call = call
      ∧ entry.answer = some answer := by
  obtain ⟨entry, found, asked⟩ := map_eq_some_iff.mp asked
  obtain ⟨entry', found', said⟩ := bind_eq_some_iff.mp said
  obtain rfl : entry = entry' := some.inj (found.symm.trans found')
  exact ⟨entry, found, asked, said⟩

end CairnStone.CoreAuth
