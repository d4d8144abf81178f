import Mathlib.Data.List.Perm.Basic
import CairnStone.Concurrency.Protocol
import CairnStone.Data.Table

/-! Histories that only commands change. The log of such a history determines its state, so what
every command promises at the instant at which it is issued can be followed through the log: from
the start, from any earlier instant, or thread by thread.
-/

namespace CairnStone.Concurrency

open List History

variable {M : Machine} {Call ε α : Type}
  {log : List (Issued M)} {p : M.State → Prop}

def stateAfter (start : M.State) : List (Issued M) → M.State
  | [] => start
  | issued :: _ => (M.exec issued.command issued.before).2

def Chained (start : M.State) : List (Issued M) → Prop
  | [] => True
  | issued :: earlier => issued.before = stateAfter start earlier ∧ Chained start earlier

structure Kept (start : M.State) (promise : Nat → M.Command → History M → Prop)
    (h : History M)
    : Prop where
  state : h.state = stateAfter start h.log
  chained : Chained start h.log
  promised : h.Respects promise

variable {start : M.State} {promise allowed : Nat → M.Command → History M → Prop}
  {h h' : History M}

namespace Kept

theorem nil : Kept start promise ⟨start, []⟩ :=
  ⟨rfl, trivial, trivial⟩

theorem exec (kept : Kept start promise h) {t : Nat} {cmd : M.Command}
    (promised : promise t cmd h)
    : Kept start promise (h.exec t cmd) :=
  ⟨rfl, ⟨kept.state, kept.chained⟩, ⟨promised, kept.promised⟩⟩

theorem before {state : M.State} {issued : Issued M} {earlier : List (Issued M)}
    (kept : Kept start promise ⟨state, issued :: earlier⟩)
    : Kept start promise ⟨issued.before, earlier⟩
      ∧ promise issued.thread issued.command ⟨issued.before, earlier⟩
      ∧ (⟨issued.before, earlier⟩ : History M).exec issued.thread issued.command
        = ⟨state, issued :: earlier⟩ := by
  obtain ⟨same, ⟨found, chained⟩, promised, respects⟩ := kept
  refine ⟨⟨found, chained, respects⟩, promised, ?_⟩
  rw [show state = stateAfter start (issued :: earlier) from same]
  rfl

theorem eq_of_log (kept : Kept start promise h) (kept' : Kept start promise h')
    (same : h.log = h'.log)
    : h = h' := by
  obtain ⟨state, log⟩ := h
  obtain ⟨state', log'⟩ := h'
  obtain rfl : log = log' := same
  rw [show state = stateAfter start log from kept.state,
    show state' = stateAfter start log from kept'.state]

variable {J : History M → Prop}

/-- What is true at one instant and kept by every allowed command is true at every later one.
Witness: induction on the part of the log in between.
-/
theorem grow (kept : Kept start promise h) (kept' : Kept start promise h')
    (le : h.log <:+ h'.log) (respects : h'.Respects allowed) (base : J h)
    (step
      : ∀ {g t c}, Kept start promise g → g.Respects allowed → promise t c g → allowed t c g
        → J g → J (g.exec t c))
    : J h' := by
  obtain ⟨between, split⟩ := le
  induction between generalizing h' with
  | nil => rwa [← eq_of_log kept kept' split]
  | cons issued between ih =>
    obtain ⟨state, log⟩ := h'
    obtain rfl : issued :: (between ++ h.log) = log := split
    obtain ⟨keptBefore, promised, executed⟩ := kept'.before
    obtain ⟨now, earlier⟩ := respects
    rw [← executed]
    exact step keptBefore earlier promised now (ih keptBefore earlier rfl)

/-- What holds at first and is kept by every allowed command holds in every run of such commands.
-/
theorem run (kept : Kept start promise h) (respects : h.Respects allowed)
    (initial : J ⟨start, []⟩)
    (step
      : ∀ {g t c}, Kept start promise g → g.Respects allowed → promise t c g → allowed t c g
        → J g → J (g.exec t c))
    : J h :=
  nil.grow kept (nil_suffix) respects initial step

theorem respects_true (h : History M) : h.Respects (fun _ _ _ => True) := by
  obtain ⟨state, log⟩ := h
  induction log with
  | nil => trivial
  | cons issued earlier ih => exact ⟨trivial, ih⟩

/-- The same for what every promised command keeps. -/
theorem invariant (kept : Kept start promise h) (initial : J ⟨start, []⟩)
    (step : ∀ {g t c}, Kept start promise g → promise t c g → J g → J (g.exec t c))
    : J h :=
  kept.run (respects_true h) initial (fun kept _ promised _ => step kept promised)

/-- A property of states that every command keeps is true from one instant on. -/
theorem state_grow {R : M.State → Prop} (kept : Kept start promise h)
    (kept' : Kept start promise h') (le : h.log <:+ h'.log) (base : R h.state)
    (step : ∀ state cmd, R state → R (M.exec cmd state).2)
    : R h'.state :=
  grow (J := fun g => R g.state) kept kept' le (respects_true h') base
    (fun _ _ _ _ holds => step _ _ holds)

end Kept

theorem History.Respects.earlier (respects : h'.Respects allowed) (le : h.log <:+ h'.log)
    : h.Respects allowed := by
  obtain ⟨between, split⟩ := le
  unfold Respects at respects ⊢
  rw [← split] at respects
  clear split
  induction between with
  | nil => exact respects
  | cons issued between ih => exact ih respects.2

theorem Kept.earlier (kept : Kept start promise h) (le : log <:+ h.log)
    : Kept start promise ⟨stateAfter start log, log⟩ := by
  obtain ⟨between, split⟩ := le
  induction between generalizing h with
  | nil =>
    obtain rfl : log = h.log := split
    exact ⟨rfl, kept.chained, kept.promised⟩
  | cons issued between ih =>
    obtain ⟨state, log'⟩ := h
    obtain rfl : issued :: (between ++ log) = log' := split
    exact ih kept.before.1 rfl

theorem Kept.at_issued (kept : Kept start promise h) {issued : Issued M}
    (mem : issued ∈ h.log)
    : ∃ earlier, issued :: earlier <:+ h.log
      ∧ Kept start promise ⟨issued.before, earlier⟩
      ∧ promise issued.thread issued.command ⟨issued.before, earlier⟩ := by
  obtain ⟨later, earlier, split⟩ := append_of_mem mem
  have le : issued :: earlier <:+ h.log := ⟨later, split.symm⟩
  obtain ⟨keptBefore, promised, _⟩ := (kept.earlier le).before
  exact ⟨earlier, le, keptBefore, promised⟩

section

variable {β κ : Type} {column : M.State → List β} {key : β → κ} {unused : β → Prop}
  {related : β → β → Prop} {issued issued' : Issued M} {earlier earlier' : List (Issued M)} {k : κ}

/-- Of two commands of a log, one is the other or came before it. -/
theorem suffix_cases (le : issued :: earlier <:+ log) (le' : issued' :: earlier' <:+ log)
    : issued :: earlier = issued' :: earlier' ∨ issued :: earlier <:+ earlier'
      ∨ issued' :: earlier' <:+ earlier := by
  rcases suffix_or_suffix_of_suffix le le' with before | before
  · rcases suffix_cons_iff.mp before with same | before
    · exact .inl same
    · exact .inr (.inl before)
  · rcases suffix_cons_iff.mp before with same | before
    · exact .inl same.symm
    · exact .inr (.inr before)

/-- The command finds the row with the key unused, and leaves it used. -/
structure Issued.Uses (column : M.State → List β) (key : β → κ) (unused : β → Prop) (k : κ)
    (issued : Issued M)
    : Prop where
  finds : ∃ row ∈ column issued.before, key row = k ∧ unused row
  leaves : ∃ row ∈ column (M.exec issued.command issued.before).2, key row = k ∧ ¬ unused row

def AtMostOnce (p : Issued M → Prop) (log : List (Issued M)) : Prop :=
  ∀ {issued issued' earlier earlier'}, issued :: earlier <:+ log → issued' :: earlier' <:+ log
    → p issued → p issued' → issued :: earlier = issued' :: earlier'

/-- What is never unused again is used by one command only. Witness: it is used at every instant
after the first of two, so the second would not find it unused.
-/
theorem Kept.uses_once (kept : Kept start promise h)
    (keyed : ∀ {g}, Kept start promise g → Data.Keyed key (column g.state))
    (continues : ∀ cmd state, Data.Continues related (column state) (column (M.exec cmd state).2))
    (lasts : ∀ {a b}, related a b → key b = key a ∧ (¬ unused a → ¬ unused b))
    : AtMostOnce (Issued.Uses column key unused k) h.log := by
  intro issued issued' earlier earlier' le le' uses uses'
  have never {i j : Issued M} {before between : List (Issued M)} (sooner : i :: before <:+ between)
      (le : j :: between <:+ h.log) (uses : i.Uses column key unused k)
      (again : j.Uses column key unused k)
      : False := by
    obtain ⟨now, _, _⟩ := (kept.earlier le).before
    obtain ⟨row, mem, named, used⟩ := state_grow
      (R := fun state => ∃ row ∈ column state, key row = k ∧ ¬ unused row)
      (kept.earlier (sooner.trans ((suffix_cons _ _).trans le))) now sooner uses.leaves
      (fun state cmd ⟨row, mem, named, used⟩ => by
        obtain ⟨row', mem', goes⟩ := continues cmd state row mem
        exact ⟨row', mem', (lasts goes).1.trans named, (lasts goes).2 used⟩)
    obtain ⟨row', mem', named', fresh⟩ := again.finds
    exact used ((keyed now).eq_of_key mem' mem (named'.trans named.symm) ▸ fresh)
  rcases suffix_cases le le' with same | sooner | sooner
  · exact same
  · exact (never sooner le' uses uses').elim
  · exact (never sooner le uses' uses).elim

end

def Protocol.promising (start : M.State) (promise : Nat → M.Command → History M → Prop)
    [IsEmpty M.Event]
    : Protocol M Call where
  inv := Kept start promise
  le h h' := h.log <:+ h'.log
  pre t _ cmd h := promise t cmd h
  refl h := List.suffix_refl h.log
  trans := List.IsSuffix.trans
  exec_inv := fun kept promised => kept.exec promised
  exec_le := fun _ _ => List.suffix_cons _ _
  disturb_inv := fun event => isEmptyElim event
  disturb_le := fun event => isEmptyElim event

/-- Some instant of the run satisfied the property. -/
def Seen (start : M.State) (p : M.State → Prop) (h : History M) : Prop :=
  ∃ log, log <:+ h.log ∧ p (stateAfter start log)

/-- Some instant satisfied the property, at or after one with the state `origin`. -/
def SeenSince (start origin : M.State) (p : M.State → Prop) (h : History M) : Prop :=
  ∃ early log, early <:+ log ∧ log <:+ h.log ∧ stateAfter start early = origin
    ∧ p (stateAfter start log)

theorem Seen.now (kept : Kept start promise h) (holds : p h.state)
    : Seen start p h :=
  ⟨h.log, suffix_refl _, kept.state ▸ holds⟩

theorem Seen.later (seen : Seen start p h) (le : h.log <:+ h'.log)
    : Seen start p h' := by
  obtain ⟨log, before, holds⟩ := seen
  exact ⟨log, before.trans le, holds⟩

theorem SeenSince.now (kept : Kept start promise h) (kept' : Kept start promise h')
    (le : h.log <:+ h'.log) (holds : p h'.state)
    : SeenSince start h.state p h' :=
  ⟨h.log, h'.log, le, suffix_refl _, kept.state.symm, kept'.state ▸ holds⟩

theorem SeenSince.later {origin : M.State} (seen : SeenSince start origin p h)
    (le : h.log <:+ h'.log)
    : SeenSince start origin p h' := by
  obtain ⟨early, log, after, before, found, holds⟩ := seen
  exact ⟨early, log, after, before.trans le, found, holds⟩

theorem History.own_suffix (le : h.log <:+ h'.log) (t : Nat) : h.own t <:+ h'.own t :=
  List.IsSuffix.filter _ le

/-- What the commands of other threads keep is still true when the thread has taken no step.
Witness: a step of its own would have made its part of the log longer.
-/
theorem Kept.undisturbed {J : History M → Prop} {t : Nat} (kept : Kept start promise h)
    (kept' : Kept start promise h') (le : h.log <:+ h'.log) (own : h'.own t = h.own t)
    (base : J h)
    (step
      : ∀ {g u c}, Kept start promise g → promise u c g → u ≠ t → h.log <:+ g.log
        → g.own t = h.own t → J g → J (g.exec u c))
    : J h' := by
  have both : h.log <:+ h'.log ∧ (h'.own t = h.own t → J h') := by
    refine Kept.grow (J := fun g => h.log <:+ g.log ∧ (g.own t = h.own t → J g)) kept kept' le
      (Kept.respects_true h') ⟨suffix_refl _, fun _ => base⟩ ?_
    rintro g u c keptNow _ promised _ ⟨later, holds⟩
    refine ⟨later.trans (suffix_cons _ _), fun same => ?_⟩
    by_cases itself : u = t
    · subst itself
      rw [own_exec_self] at same
      have longer := (own_suffix later u).length_le
      have lengths := congrArg List.length same
      rw [length_cons] at lengths
      omega
    · rw [own_exec_of_ne g itself] at same
      exact step keptNow promised itself later same (holds same)
  exact both.2 own

/-- If in every thread's part of a log there are at most as many entries of one kind as of
another, then there are in the whole log. Witness: induction on the length of the log; the newest
entry's thread is split off.
-/
theorem countP_le_of_threads {p q : Issued M → Bool}
    (each
      : ∀ t, (log.filter (·.thread == t)).countP p ≤ (log.filter (·.thread == t)).countP q)
    : log.countP p ≤ log.countP q := by
  induction size : log.length using Nat.strongRecOn generalizing log with
  | ind length ih =>
    cases log with
    | nil => exact Nat.le_refl _
    | cons issued earlier =>
      let own (other : Issued M) : Bool := other.thread == issued.thread
      let others := (issued :: earlier).filter (fun other => !own other)
      have others_eq : others = earlier.filter (fun other => !own other) := by
        simp [others, own]
      have shorter : others.length < length := by
        have filtered := length_filter_le (fun other => !own other) earlier
        rw [length_cons] at size
        rw [others_eq]
        omega
      have otherThreads (t : Nat)
          : (others.filter (·.thread == t)).countP p
            ≤ (others.filter (·.thread == t)).countP q := by
        by_cases same : t = issued.thread
        · have none : others.filter (·.thread == t) = [] := by
            simp [others, own, filter_filter, same]
          simp [none]
        · have all : others.filter (·.thread == t)
              = (issued :: earlier).filter (·.thread == t) := by
            rw [filter_filter]
            refine filter_congr (fun other _ => ?_)
            by_cases here : other.thread = t
            · simp [own, here, same]
            · simp [here]
          rw [all]
          exact each t
      rw [countP_eq_countP_filter_add (issued :: earlier) p own,
        countP_eq_countP_filter_add (issued :: earlier) q own]
      exact Nat.add_le_add (each issued.thread) (ih _ shorter otherThreads rfl)

end CairnStone.Concurrency

/-! Parts of a call that only read. Whatever they answer, nothing but interference has happened. -/

namespace CairnStone.Concurrency

open List

variable {M : Machine} {Call ε α β : Type}

namespace Program

variable {g : β → Program M ε α} {p : Program M ε β}

abbrev Reads (p : Program M ε α) : Prop :=
  p.Issues (fun _ => False)

theorem reads_select_bind {f : M.State → β} (rest : ∀ value, (g value).Reads)
    : ((select f).bind g).Reads :=
  fun state => rest (f state)

theorem Reads.bind (reads : p.Reads) (rest : ∀ value, (g value).Reads)
    : (p.bind g).Reads :=
  Issues.bind reads rest

/-- Reading leaves the state as it is. Witness: induction on the program. -/
theorem Reads.run_state {p : Program M ε α} (reads : p.Reads) (state : M.State)
    : (p.run state).2 = state := by
  induction p generalizing state with
  | done value => rfl
  | fail error => rfl
  | read next ih => exact ih state (reads state) state
  | exec cmd next ih => exact reads.1.elim

theorem Reads.run_bind (reads : p.Reads) {state : M.State} {value : β}
    (result : (p.run state).1 = .ok value) (g : β → Program M ε α)
    : (p.bind g).run state = (g value).run state := by
  have both : p.run state = (.ok value, state) := Prod.ext result (reads.run_state state)
  rw [Program.run_bind, both]

end Program

namespace Protocol

variable {P : Protocol M Call} {t : Nat} {call : Call} {Q : Except ε α → History M → Prop}
  {h : History M}

/-- A program that only reads meets what every answer after interference meets.
Witness: induction on the program.
-/
theorem Meets.reading {p : Program M ε α} (reads : p.Reads)
    (post : ∀ answer h', P.Interference t h h' → Q answer h')
    : P.Meets t call p Q h := by
  induction p generalizing h with
  | done value => exact fun h1 moved => post _ h1 moved
  | fail error => exact fun h1 moved => post _ h1 moved
  | read next ih =>
    intro h1 moved
    exact ih h1.state (reads h1.state) (fun answer h2 moved2 => post answer h2 (moved.trans moved2))
  | exec cmd next ih => exact reads.1.elim

/-- A part that only reads, followed by the rest of the call. -/
theorem Meets.reading_bind {p : Program M ε β} {g : β → Program M ε α} (reads : p.Reads)
    (next : ∀ value h', P.Interference t h h' → P.Meets t call (g value) Q h')
    (stop : ∀ error h', P.Interference t h h' → Q (.error error) h')
    : P.Meets t call (p.bind g) Q h := by
  refine Meets.bind (Meets.reading reads (fun answer h' moved => ?_))
  cases answer with
  | ok value => exact next value h' moved
  | error error => exact stop error h' moved

end Protocol

end CairnStone.Concurrency
