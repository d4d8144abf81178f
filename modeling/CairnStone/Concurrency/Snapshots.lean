import CairnStone.Concurrency.Admission

/-! Cells that a call reads one by one. While at most one step changes any of them, and a step changes
at most one of them, what has been read is what the cells were together at some instant.
-/

namespace CairnStone.Concurrency

open List

variable {M : Machine} {Call ε α : Type}
  {recent : List (Issued M)}

namespace Config

variable {body : Call → Program M ε α} {config : Config M Call ε α} {t : Nat}

/-- A logged command was pending when its thread took the step. Witness: induction on the schedule. -/
theorem exists_step_of_logged {state : M.State} {acts : List (Action M Call)} {issued : Issued M}
    {prior : List (Issued M)}
    (noted : issued :: prior <:+ ((init state).run body acts).history.log)
    : ∃ before, before ++ [.step issued.thread] <+: acts
        ∧ ((init state).run body before).pending issued.thread = some issued.command
        ∧ ((init state).run body before).history = ⟨issued.before, prior⟩ := by
  induction acts using List.reverseRecOn with
  | nil => exact absurd (suffix_nil.mp noted) (cons_ne_nil _ _)
  | append_singleton before action ih =>
    rw [run_append, run_cons, run_nil] at noted
    have old (known : issued :: prior <:+ ((init state).run body before).history.log)
        : ∃ first, first ++ [.step issued.thread] <+: before ++ [action]
            ∧ ((init state).run body first).pending issued.thread = some issued.command
            ∧ ((init state).run body first).history = ⟨issued.before, prior⟩ := by
      obtain ⟨first, le, taken⟩ := ih known
      exact ⟨first, le.trans (prefix_append _ _), taken⟩
    cases action with
    | spawn call => exact old noted
    | disturb event => exact old noted
    | step u =>
      rw [act, advance_history] at noted
      cases pending : ((init state).run body before).pending u with
      | none => exact old (by simpa only [pending] using noted)
      | some cmd =>
        simp only [pending, History.exec_log] at noted
        rcases suffix_cons_iff.mp noted with newest | known
        · obtain ⟨rfl, rfl⟩ := cons.inj newest
          exact ⟨before, prefix_refl _, pending, rfl⟩
        · exact old known

/-- A call that is being served keeps the state that it started from. -/
theorem start_later {entry later : Thread M Call ε α} (found : config.threads[t]? = some entry)
    (acts : List (Action M Call))
    (afterwards : (config.run body acts).threads[t]? = some later)
    : later.start = entry.start := by
  induction acts using List.reverseRecOn generalizing later with
  | nil =>
    rw [run_nil, found] at afterwards
    cases afterwards
    rfl
  | append_singleton before action ih =>
    rw [run_append, run_cons, run_nil] at afterwards
    have inside : t < config.threads.length := (List.getElem?_eq_some_iff.mp found).1
    rcases start_act body action afterwards with ⟨old, at_old, same⟩ | ⟨newest, -⟩
    · rw [← same, ih at_old]
    · have grown : config.threads.length ≤ (config.run body before).threads.length := by
        have calls := congrArg List.length (calls_run body config before)
        simp only [length_map, length_append] at calls
        omega
      omega

end Config

variable {ι β : Type} {start : M.State} {cell : ι → M.State → β}
  {older low high : List (Issued M)} {key : ι} {keys : List ι} {values : List β}

def changesAny [DecidableEq β] (cell : ι → M.State → β) (keys : List ι) (issued : Issued M) : Bool :=
  keys.any (fun key => cell key (M.exec issued.command issued.before).2 != cell key issued.before)

def ChangesOne (cell : ι → M.State → β) (issued : Issued M) : Prop :=
  ∃ only, ∀ key, key ≠ only
    → cell key (M.exec issued.command issued.before).2 = cell key issued.before

inductive Along (start : M.State) (cell : ι → M.State → β)
    : List (Issued M) → List ι → List β → List (Issued M) → Prop where
  | nil {low high : List (Issued M)} (le : low <:+ high) : Along start cell low [] [] high
  | cons {low here high : List (Issued M)} {key : ι} {rest : List ι} {values : List β}
      (le : low <:+ here) (later : Along start cell here rest values high)
      : Along start cell low (key :: rest) (cell key (stateAfter start here) :: values) high

theorem Along.le (along : Along start cell low keys values high) : low <:+ high := by
  induction along with
  | nil le => exact le
  | cons le _ ih => exact le.trans ih

theorem cell_of_unchanged [DecidableEq β] (chained : Chained start (recent ++ older))
    (none : recent.countP (changesAny cell keys) = 0)
    : ∀ key ∈ keys,
        cell key (stateAfter start (recent ++ older)) = cell key (stateAfter start older) := by
  intro key mem
  induction recent with
  | nil => rfl
  | cons issued recent ih =>
    rw [countP_cons] at none
    have kept : changesAny cell keys issued = false := by
      cases edits : changesAny cell keys issued with
      | false => rfl
      | true => simp [edits] at none
    have same := any_eq_false.mp kept key mem
    have before : issued.before = stateAfter start (recent ++ older) := chained.1
    calc cell key (M.exec issued.command issued.before).2
        = cell key issued.before := by simpa using same
      _ = cell key (stateAfter start (recent ++ older)) := by rw [before]
      _ = cell key (stateAfter start older) := ih chained.2 (by omega)

/-- While at most one step changes any of the cells, the first one or all the others stay.
Witness: induction on the steps, up to the one that changes a cell.
-/
theorem first_or_others [DecidableEq β] (chained : Chained start (recent ++ older))
    (few : recent.countP (changesAny cell (key :: keys)) ≤ 1)
    (each : ∀ issued ∈ recent, ChangesOne cell issued) (apart : key ∉ keys)
    : cell key (stateAfter start (recent ++ older)) = cell key (stateAfter start older)
      ∨ ∀ other ∈ keys,
          cell other (stateAfter start (recent ++ older)) = cell other (stateAfter start older) := by
  induction recent with
  | nil => exact .inl rfl
  | cons issued recent ih =>
    rw [countP_cons] at few
    have before : issued.before = stateAfter start (recent ++ older) := chained.1
    cases edits : changesAny cell (key :: keys) issued with
    | false =>
      have kept (other : ι) (mem : other ∈ key :: keys)
          : cell other (M.exec issued.command issued.before).2
            = cell other (stateAfter start (recent ++ older)) := by
        have same := any_eq_false.mp edits other mem
        rw [← before]
        simpa using same
      have prior := ih chained.2 (by omega) (fun issued mem => each issued (.tail _ mem))
      refine prior.imp (fun same => ?_) (fun same other mem => ?_)
      · exact (kept key (.head _)).trans same
      · exact (kept other (.tail _ mem)).trans (same other mem)
    | true =>
      rw [edits] at few
      have unchanged (other : ι) (mem : other ∈ key :: keys)
          : cell other (stateAfter start (recent ++ older)) = cell other (stateAfter start older) :=
        cell_of_unchanged chained.2 (by simpa using few) other mem
      obtain ⟨only, alone⟩ := each issued (.head _)
      have kept (other : ι) (mem : other ∈ key :: keys) (different : other ≠ only)
          : cell other (M.exec issued.command issued.before).2
            = cell other (stateAfter start older) := by
        rw [alone other different, before]
        exact unchanged other mem
      by_cases first : key = only
      · refine .inr (fun other mem => ?_)
        refine kept other (.tail _ mem) (fun same => apart ?_)
        rwa [first, ← same]
      · exact .inl (kept key (.head _) first)

/-- What has been read one by one was there at one instant, if at most one step has changed any of it.
Witness: induction on the cells; the first one stays, or the others do.
-/
theorem Along.snapshot [DecidableEq β] (along : Along start cell low keys values high)
    (chained : Chained start high) (apart : keys.Nodup)
    (each : ∀ issued ∈ high, ChangesOne cell issued)
    (few : ∀ recent, recent ++ low = high → recent.countP (changesAny cell keys) ≤ 1)
    : ∃ when, low <:+ when ∧ when <:+ high
        ∧ values = keys.map (fun key => cell key (stateAfter start when)) := by
  induction along with
  | @nil low high le => exact ⟨low, suffix_refl _, le, rfl⟩
  | @cons low here high key rest values le later ih =>
    obtain ⟨first, split⟩ := later.le
    obtain ⟨start', split'⟩ := le
    obtain ⟨notIn, apart'⟩ := nodup_cons.mp apart
    have weaker (list : List (Issued M))
        : list.countP (changesAny cell rest) ≤ list.countP (changesAny cell (key :: rest)) := by
      refine countP_mono_left (fun issued _ edits => ?_)
      unfold changesAny at edits ⊢
      rw [any_cons, edits, Bool.or_true]
    have whole := few (first ++ start') (by rw [append_assoc, split', split])
    rw [countP_append] at whole
    have fewer (recent : List (Issued M)) (same : recent ++ here = high)
        : recent.countP (changesAny cell rest) ≤ 1 := by
      obtain rfl : recent = first := append_cancel_right (same.trans split.symm)
      have le := weaker recent
      omega
    obtain ⟨when, since, upTo, same⟩ := ih chained apart' each fewer
    obtain ⟨middle, rfl⟩ := since
    obtain ⟨last, split''⟩ := upTo
    have inner : Chained start (middle ++ here) := by
      rw [← split''] at chained
      clear split'' whole fewer few each
      induction last with
      | nil => exact chained
      | cons issued last ih' => exact ih' chained.2
    have once : middle.countP (changesAny cell (key :: rest)) ≤ 1 := by
      have parts : last ++ middle = first := by
        have same : (last ++ middle) ++ here = first ++ here := by
          rw [append_assoc, split'', split]
        exact append_cancel_right same
      rw [← parts, countP_append] at whole
      omega
    have each' (issued : Issued M) (mem : issued ∈ middle) : ChangesOne cell issued := by
      refine each issued ?_
      rw [← split'']
      exact mem_append_right _ (mem_append_left _ mem)
    rcases first_or_others inner once each' notIn with stays | stay
    · refine ⟨middle ++ here, ?_, ⟨last, split''⟩, ?_⟩
      · exact List.IsSuffix.trans ⟨start', split'⟩ ⟨middle, rfl⟩
      · rw [map_cons, same, stays]
    · refine ⟨here, ⟨start', split'⟩, ⟨first, split⟩, ?_⟩
      rw [map_cons, same, map_congr_left stay]

end CairnStone.Concurrency
