import CairnStone.Concurrency.Program

/-! A program logic for interleaved calls. A protocol names what every state of a run
satisfies, how states may grow between two steps of one call, and what a call promises for
each command it issues. A call that keeps its promises whenever it is resumed keeps them in
every interleaving.
-/

namespace CairnStone.Concurrency

open List History Config Program

variable {M : Machine} {Call ε α β : Type}

namespace History

/-- The commands of one thread, the newest first. -/
def own (history : History M) (thread : Nat) : List (Issued M) :=
  history.log.filter (fun issued => issued.thread == thread)

def RespectsLog (allowed : Nat → M.Command → History M → Prop) : List (Issued M) → Prop
  | [] => True
  | issued :: earlier =>
    allowed issued.thread issued.command ⟨issued.before, earlier⟩
    ∧ RespectsLog allowed earlier

/-- Every logged command satisfied the condition at the instant at which it was issued. -/
def Respects (allowed : Nat → M.Command → History M → Prop) (history : History M) : Prop :=
  RespectsLog allowed history.log

instance decidableRespectsLog {allowed : Nat → M.Command → History M → Prop}
    [∀ thread cmd history, Decidable (allowed thread cmd history)]
    : (log : List (Issued M)) → Decidable (RespectsLog allowed log)
  | [] => inferInstanceAs (Decidable True)
  | issued :: earlier =>
    have : Decidable (RespectsLog allowed earlier) := decidableRespectsLog earlier
    inferInstanceAs
      (Decidable (allowed issued.thread issued.command _ ∧ RespectsLog allowed earlier))

instance decidableRespects {allowed : Nat → M.Command → History M → Prop}
    [∀ thread cmd history, Decidable (allowed thread cmd history)]
    (history : History M)
    : Decidable (history.Respects allowed) :=
  decidableRespectsLog history.log

theorem own_exec_self (history : History M) (thread : Nat) (cmd : M.Command)
    : (history.exec thread cmd).own thread
      = ⟨thread, cmd, history.state⟩ :: history.own thread := by
  simp [own]

theorem own_exec_of_ne (history : History M) {thread other : Nat} (ne : other ≠ thread)
    (cmd : M.Command)
    : (history.exec other cmd).own thread = history.own thread := by
  simp [own, ne]

@[simp] theorem own_disturb (history : History M) (event : M.Event) (thread : Nat)
    : (history.disturb event).own thread = history.own thread := rfl

theorem mem_own {history : History M} {thread : Nat} {issued : Issued M}
    : issued ∈ history.own thread ↔ issued ∈ history.log ∧ issued.thread = thread := by
  simp [own]

end History

/-- The agreement between concurrent calls.
`inv` holds in every history, `le` relates a history to all later ones, and `pre` is what a
thread serving `call` promises about a command it issues.
-/
structure Protocol (M : Machine) (Call : Type) where
  inv : History M → Prop
  le : History M → History M → Prop
  pre : Nat → Call → M.Command → History M → Prop
  refl : ∀ h, le h h
  trans : ∀ {h1 h2 h3}, le h1 h2 → le h2 h3 → le h1 h3
  exec_inv : ∀ {h t call c}, inv h → pre t call c h → inv (h.exec t c)
  exec_le : ∀ {h t call c}, inv h → pre t call c h → le h (h.exec t c)
  disturb_inv : ∀ {h} e, inv h → inv (h.disturb e)
  disturb_le : ∀ {h} e, inv h → le h (h.disturb e)

namespace Protocol

variable (P : Protocol M Call) (t : Nat) (call : Call)
  {cmd : M.Command} {p : Program M ε α} {f g : β → Program M ε α}
  {kind : M.Command → Prop} {config : Config M Call ε α} {entry : Thread M Call ε α}
  {body : Call → Program M ε α} {state : M.State} {allowed : Nat → M.Command → History M → Prop}
  {J : History M → Prop}

/-- `h'` is a history of the protocol that `h` may have grown to. -/
structure After (h h' : History M) : Prop where
  le : P.le h h'
  inv : P.inv h'

/-- What may happen between two steps of thread `t`: the history grows, by steps of others.
-/
structure Interference (h h' : History M) : Prop extends After P h h' where
  own : h'.own t = h.own t

/-- `P.Meets t call p Q h`: from `h` on, under any interference that follows the protocol,
`p` issues only commands it promised and every answer it gives satisfies `Q`.
-/
def Meets : Program M ε α → (Except ε α → History M → Prop) → History M → Prop
  | .done value, Q, h => ∀ h', P.Interference t h h' → Q (.ok value) h'
  | .fail error, Q, h => ∀ h', P.Interference t h h' → Q (.error error) h'
  | .read next, Q, h => ∀ h', P.Interference t h h' → Meets (next h'.state) Q h'
  | .exec cmd next, Q, h =>
    ∀ h', P.Interference t h h'
      → P.pre t call cmd h' ∧ Meets (next (M.exec cmd h'.state).1) Q (h'.exec t cmd)

variable {P t call} {Q Q' : Except ε α → History M → Prop} {h h' h'' : History M}

theorem After.refl (inv : P.inv h) : P.After h h where
  le := P.refl h
  inv := inv

theorem After.trans (first : P.After h h') (second : P.After h' h'') : P.After h h'' where
  le := P.trans first.le second.le
  inv := second.inv

theorem After.exec (call : Call) (after : P.After h h') (pre : P.pre t call cmd h')
    : P.After h (h'.exec t cmd) where
  le := P.trans after.le (P.exec_le after.inv pre)
  inv := P.exec_inv after.inv pre

theorem Interference.refl (inv : P.inv h) : P.Interference t h h where
  toAfter := .refl inv
  own := rfl

theorem Interference.trans (first : P.Interference t h h')
    (second : P.Interference t h' h'')
    : P.Interference t h h'' where
  toAfter := first.toAfter.trans second.toAfter
  own := second.own.trans first.own

/-- An obligation survives interference, by transitivity of the order. -/
theorem Meets.later (hp : P.Meets t call p Q h) (moved : P.Interference t h h')
    : P.Meets t call p Q h' := by
  cases p with
  | done value => exact fun h1 moved1 => hp h1 (moved.trans moved1)
  | fail error => exact fun h1 moved1 => hp h1 (moved.trans moved1)
  | read next => exact fun h1 moved1 => hp h1 (moved.trans moved1)
  | exec cmd next => exact fun h1 moved1 => hp h1 (moved.trans moved1)

theorem Meets.of_later (hp : ∀ h', P.Interference t h h' → P.Meets t call p Q h')
    : P.Meets t call p Q h := by
  cases p with
  | done value => exact fun h1 moved => hp h1 moved h1 (.refl moved.inv)
  | fail error => exact fun h1 moved => hp h1 moved h1 (.refl moved.inv)
  | read next => exact fun h1 moved => hp h1 moved h1 (.refl moved.inv)
  | exec cmd next => exact fun h1 moved => hp h1 moved h1 (.refl moved.inv)

theorem Meets.done {value : α} (hq : ∀ h', P.Interference t h h' → Q (.ok value) h')
    : P.Meets t call (.done value) Q h :=
  hq

theorem Meets.fail {error : ε} (hq : ∀ h', P.Interference t h h' → Q (.error error) h')
    : P.Meets t call (.fail error) Q h :=
  hq

/-- A weaker postcondition is met as well. Witness: induction on the program. -/
theorem Meets.consequence (hp : P.Meets t call p Q h)
    (weaken : ∀ answer h', P.After h h' → Q answer h' → Q' answer h')
    : P.Meets t call p Q' h := by
  induction p generalizing h with
  | done value => exact fun h1 moved => weaken _ h1 moved.toAfter (hp h1 moved)
  | fail error => exact fun h1 moved => weaken _ h1 moved.toAfter (hp h1 moved)
  | read next ih =>
    intro h1 moved
    exact ih h1.state (hp h1 moved)
      (fun answer h2 after => weaken answer h2 (moved.toAfter.trans after))
  | exec cmd next ih =>
    intro h1 moved
    obtain ⟨pre, rest⟩ := hp h1 moved
    exact ⟨pre,
      ih _ rest
        (fun answer h2 after => weaken answer h2 ((moved.toAfter.exec call pre).trans after))⟩

/-- Sequencing: the continuation starts from wherever the first part answered.
Witness: induction on the first part.
-/
theorem Meets.bind {p : Program M ε β}
    (hp
      : P.Meets t call p
          (fun answer h' =>
            match answer with
            | .ok value => P.Meets t call (f value) Q h'
            | .error error => Q (.error error) h') h)
    : P.Meets t call (p.bind f) Q h := by
  induction p generalizing h with
  | done value => exact Meets.of_later hp
  | fail error => exact hp
  | read next ih => exact fun h1 moved => ih h1.state (hp h1 moved)
  | exec cmd next ih =>
    intro h1 moved
    exact ⟨(hp h1 moved).1, ih _ (hp h1 moved).2⟩

/-- Sequencing with a named postcondition between the parts. -/
theorem Meets.seq {p : Program M ε β} {R : Except ε β → History M → Prop}
    (hp : P.Meets t call p R h)
    (next : ∀ value h', P.After h h' → R (.ok value) h' → P.Meets t call (f value) Q h')
    (stop : ∀ error h', P.After h h' → R (.error error) h' → Q (.error error) h')
    : P.Meets t call (p.bind f) Q h := by
  refine Meets.bind (hp.consequence (fun answer h' after holds => ?_))
  cases answer with
  | ok value => exact next value h' after holds
  | error error => exact stop error h' after holds

/-- Guarding: the handler starts from wherever the body failed.
Witness: induction on the body.
-/
theorem Meets.handle {f : ε → Program M ε α}
    (hp
      : P.Meets t call p
          (fun answer h' =>
            match answer with
            | .ok value => Q (.ok value) h'
            | .error error => P.Meets t call (f error) Q h') h)
    : P.Meets t call (p.handle f) Q h := by
  induction p generalizing h with
  | done value => exact hp
  | fail error => exact Meets.of_later hp
  | read next ih => exact fun h1 moved => ih h1.state (hp h1 moved)
  | exec cmd next ih =>
    intro h1 moved
    exact ⟨(hp h1 moved).1, ih _ (hp h1 moved).2⟩

/-- A call that only converts its answer. Witness: induction on the program. -/
theorem Meets.map {p : Program M ε β} {f : β → α}
    (hp : P.Meets t call p (fun answer h' => Q (answer.map f) h') h)
    : P.Meets t call (p.bind (fun value => .done (f value))) Q h := by
  induction p generalizing h with
  | done value => exact hp
  | fail error => exact hp
  | read next ih => exact fun h1 moved => ih h1.state (hp h1 moved)
  | exec cmd next ih =>
    intro h1 moved
    exact ⟨(hp h1 moved).1, ih _ (hp h1 moved).2⟩

/-- A call that goes on with whatever its first part answers. -/
theorem Meets.attempt_bind {p : Program M ε β} {g : Except ε β → Program M ε α}
    (hp : P.Meets t call p (fun answer h' => P.Meets t call (g answer) Q h') h)
    : P.Meets t call (p.attempt.bind g) Q h := by
  refine Meets.bind (Meets.handle (Meets.bind (hp.consequence (fun answer h' _ holds => ?_))))
  cases answer with
  | ok value => exact .done (fun h1 moved => holds.later moved)
  | error error => exact .done (fun h1 moved => holds.later moved)

/-- One observation, followed by the rest of the call. -/
theorem Meets.select_bind {f : M.State → β}
    (hq : ∀ h', P.Interference t h h' → P.Meets t call (g (f h'.state)) Q h')
    : P.Meets t call ((select f).bind g) Q h :=
  fun h1 moved => Meets.of_later (fun _ moved1 => (hq h1 moved).later moved1)

theorem Meets.perform_bind {g : M.Reply cmd → Program M ε α}
    (hq
      : ∀ h', P.Interference t h h'
        → P.pre t call cmd h' ∧ P.Meets t call (g (M.exec cmd h'.state).1) Q (h'.exec t cmd))
    : P.Meets t call ((perform cmd).bind g) Q h :=
  hq

theorem Meets.ofExcept_bind {result : Except ε β}
    (ok : ∀ value, result = .ok value → P.Meets t call (g value) Q h)
    (error
      : ∀ e, result = .error e → ∀ h', P.Interference t h h' → Q (.error e) h')
    : P.Meets t call ((ofExcept result).bind g) Q h := by
  cases result with
  | ok value => exact ok value rfl
  | error e => exact error e rfl

/-- A call that issues only certain commands logs only such commands.
Witness: induction on the program; interference leaves the thread's own log alone.
-/
theorem Meets.issuing (hp : P.Meets t call p Q h) (issues : p.Issues kind)
    : P.Meets t call p
        (fun answer h' =>
          Q answer h' ∧ ∀ issued ∈ h'.own t, issued ∈ h.own t ∨ kind issued.command) h := by
  induction p generalizing h with
  | done value =>
    exact fun h1 moved => ⟨hp h1 moved, fun issued mem => .inl (moved.own ▸ mem)⟩
  | fail error =>
    exact fun h1 moved => ⟨hp h1 moved, fun issued mem => .inl (moved.own ▸ mem)⟩
  | read next ih =>
    intro h1 moved
    have rest := ih h1.state (hp h1 moved) (issues h1.state)
    rwa [moved.own] at rest
  | exec cmd next ih =>
    intro h1 moved
    obtain ⟨pre, later⟩ := hp h1 moved
    refine ⟨pre, (ih _ later (issues.2 _)).consequence (fun answer h2 _ holds => ?_)⟩
    refine ⟨holds.1, fun issued mem => ?_⟩
    rcases holds.2 issued mem with known | other
    · rw [own_exec_self] at known
      rcases mem_cons.mp known with rfl | old
      · exact .inr issues.1
      · exact .inl (moved.own ▸ old)
    · exact .inr other

/-- A call whose every possible command may be issued at any time meets every obligation that
any later answer meets. Witness: induction on the program.
-/
theorem Meets.of_issues (issues : p.Issues kind)
    (free : ∀ cmd h, kind cmd → P.pre t call cmd h)
    (post : ∀ answer h', P.After h h' → Q answer h')
    : P.Meets t call p Q h := by
  induction p generalizing h with
  | done value => exact fun h1 moved => post _ h1 moved.toAfter
  | fail error => exact fun h1 moved => post _ h1 moved.toAfter
  | read next ih =>
    intro h1 moved
    exact ih h1.state (issues h1.state)
      (fun answer h2 after => post answer h2 (moved.toAfter.trans after))
  | exec cmd next ih =>
    intro h1 moved
    have pre := free cmd h1 issues.1
    exact ⟨pre, ih _ (issues.2 _)
      (fun answer h2 after => post answer h2 ((moved.toAfter.exec call pre).trans after))⟩

variable (P) in
structure Sound (post : Nat → Call → M.State → Except ε α → History M → Prop)
    (config : Config M Call ε α)
    : Prop where
  inv : P.inv config.history
  logged : ∀ issued ∈ config.history.log, issued.thread < config.threads.length
  threads
    : ∀ {t entry}, config.threads[t]? = some entry
      → ∃ start, start.state = entry.start ∧ P.inv start ∧ P.le start config.history
        ∧ P.Meets t entry.call entry.program (post t entry.call entry.start) config.history

variable {post : Nat → Call → M.State → Except ε α → History M → Prop}

/-- Replacing one thread's program by one that meets the same obligation keeps soundness
when the history has only grown by that thread. Witness: the other threads' obligations
survive.
-/
theorem Sound.advance (sound : P.Sound post config) {t : Nat}
    (found : config.threads[t]? = some entry) {history : History M} {program : Program M ε α}
    (inv : P.inv history) (le : P.le config.history history)
    (others : ∀ u, u ≠ t → history.own u = config.history.own u)
    (logged : ∀ issued ∈ history.log, issued.thread < config.threads.length)
    (meets : P.Meets t entry.call program (post t entry.call entry.start) history)
    : P.Sound post
        { history, threads := config.threads.set t { entry with program } } := by
  refine ⟨inv, fun issued mem => by simpa using logged issued mem,
    fun {u other} at_u => ?_⟩
  rw [getElem?_set] at at_u
  split at at_u
  · rename_i same
    subst same
    split at at_u
    · cases at_u
      obtain ⟨start, starts, startInv, startLe, _⟩ := sound.threads found
      exact ⟨start, starts, startInv, P.trans startLe le, meets⟩
    · cases at_u
  · rename_i apart
    obtain ⟨start, starts, startInv, startLe, old⟩ := sound.threads at_u
    have moved : P.Interference u config.history history :=
      ⟨⟨le, inv⟩, others u (fun same => apart same.symm)⟩
    exact ⟨start, starts, startInv, P.trans startLe le, old.later moved⟩

/-- One action keeps soundness.
Witness: case analysis on the action; the acting thread uses its own obligation and every
other thread sees interference.
-/
theorem Sound.act
    (meets
      : ∀ t call start, P.inv start → start.own t = []
        → P.Meets t call (body call) (post t call start.state) start)
    (sound : P.Sound post config) (action : Action M Call)
    : P.Sound post (config.act body action) := by
  cases action with
  | spawn call =>
    refine ⟨sound.inv, fun issued mem => ?_, fun {t entry} found => ?_⟩
    · exact Nat.lt_of_lt_of_le (sound.logged issued mem) (by simp [Config.act])
    rcases Nat.lt_trichotomy t config.threads.length with old | new | beyond
    · exact sound.threads (by simpa [Config.act, getElem?_append_left old] using found)
    · obtain rfl : (⟨call, config.history.state, body call⟩ : Thread M Call ε α) = entry := by
        simpa [Config.act, new] using found
      have unlogged : config.history.own t = [] := by
        rw [eq_nil_iff_forall_not_mem]
        intro issued mem
        obtain ⟨logged, thread⟩ := mem_own.mp mem
        have := sound.logged issued logged
        omega
      exact ⟨config.history, rfl, sound.inv, P.refl _,
        meets t call config.history sound.inv unlogged⟩
    · rw [Config.act, getElem?_eq_none (by simp; omega)] at found
      cases found
  | disturb event =>
    refine ⟨P.disturb_inv event sound.inv, sound.logged, fun {t entry} found => ?_⟩
    obtain ⟨start, starts, startInv, startLe, old⟩ := sound.threads found
    have le := P.disturb_le event sound.inv
    exact ⟨start, starts, startInv, P.trans startLe le,
      old.later ⟨⟨le, P.disturb_inv event sound.inv⟩, rfl⟩⟩
  | step t =>
    simp only [Config.act, Config.advance]
    cases found : config.threads[t]? with
    | none => exact sound
    | some entry =>
      obtain ⟨_, _, _, _, own⟩ := sound.threads found
      cases program : entry.program with
      | done value => simpa only [program] using sound
      | fail error => simpa only [program] using sound
      | read next =>
        rw [program] at own
        simp only [program]
        exact sound.advance found sound.inv (P.refl _) (fun _ _ => rfl) sound.logged
          (own _ (.refl sound.inv))
      | exec cmd next =>
        rw [program] at own
        simp only [program]
        obtain ⟨pre, rest⟩ := own _ (.refl sound.inv)
        refine sound.advance found (P.exec_inv sound.inv pre) (P.exec_le sound.inv pre)
          (fun u apart => own_exec_of_ne _ apart.symm _) ?_ rest
        intro issued mem
        rcases mem_cons.mp mem with rfl | old
        · exact (List.getElem?_eq_some_iff.mp found).1
        · exact sound.logged issued old

/-- If every call meets its obligation from every state of the protocol, then so does
every thread of every interleaving.
Witness: induction on the schedule with one-action preservation.
-/
theorem sound
    (meets
      : ∀ t call start, P.inv start → start.own t = []
        → P.Meets t call (body call) (post t call start.state) start)
    (initial : P.inv ⟨state, []⟩) (acts : List (Action M Call))
    : P.Sound post ((Config.init state).run body acts) := by
  refine run_induction (P.Sound post) (fun _ action sound => sound.act meets action)
    ⟨initial, fun _ mem => ?_, fun found => ?_⟩ acts
  · cases mem
  · simp [Config.init] at found

/-- A sound configuration's pending commands satisfy what their thread promised.
Witness: the thread's obligation at the current history.
-/
theorem Sound.pre_of_pending (sound : P.Sound post config) {t : Nat} {call : Call}
    (asked : config.call t = some call) (pending : config.pending t = some cmd)
    : P.pre t call cmd config.history := by
  unfold Config.call at asked
  unfold Config.pending at pending
  cases found : config.threads[t]? with
  | none => simp [found] at asked
  | some entry =>
    obtain ⟨_, _, _, _, own⟩ := sound.threads found
    obtain rfl : entry.call = call := by simpa [found] using asked
    cases program : entry.program with
    | exec cmd' next =>
      obtain rfl : cmd' = cmd := by
        simpa [found, Thread.pending, program] using pending
      rw [program] at own
      exact (own _ (.refl sound.inv)).1
    | _ => simp [found, Thread.pending, program] at pending

/-- A sound configuration's answers satisfy their postcondition.
Witness: the obligation of a finished thread, at the current history.
-/
theorem Sound.post_of_answer (sound : P.Sound post config) {t : Nat} {answer : Except ε α}
    (found : config.threads[t]? = some entry) (said : entry.answer = some answer)
    : post t entry.call entry.start answer config.history := by
  obtain ⟨_, _, _, _, own⟩ := sound.threads found
  cases program : entry.program with
  | done value =>
    rw [program] at own
    obtain rfl : Except.ok value = answer := by
      simpa [Thread.answer, program] using said
    exact own _ (.refl sound.inv)
  | fail error =>
    rw [program] at own
    obtain rfl : Except.error error = answer := by
      simpa [Thread.answer, program] using said
    exact own _ (.refl sound.inv)
  | _ => simp [Thread.answer, program] at said

variable (P) in
def Promised (config : Config M Call ε α) (issued : Issued M) : Prop :=
  ∃ call history, config.call issued.thread = some call ∧ history.state = issued.before
    ∧ P.inv history ∧ P.pre issued.thread call issued.command history

/-- Every logged command was promised by the call of the thread that issued it, in the history that
the command found. Witness: induction on the schedule; a step executes its thread's pending command.
-/
theorem promised_at
    (meets
      : ∀ t call start, P.inv start → start.own t = []
        → P.Meets t call (body call) (post t call start.state) start)
    (initial : P.inv ⟨state, []⟩) (acts : List (Action M Call))
    : ∀ {issued prior},
        issued :: prior <:+ ((Config.init state).run body acts).history.log
        → ∃ call, ((Config.init state).run body acts).call issued.thread = some call
          ∧ P.inv ⟨issued.before, prior⟩
          ∧ P.pre issued.thread call issued.command ⟨issued.before, prior⟩ := by
  induction acts using List.reverseRecOn with
  | nil =>
    intro issued prior mem
    exact absurd (suffix_nil.mp mem) (cons_ne_nil _ _)
  | append_singleton before action ih =>
    have sound := P.sound meets initial before
    rw [run_append]
    simp only [run_cons, run_nil]
    intro issued prior mem
    have old
        (known : issued :: prior <:+ ((Config.init state).run body before).history.log)
        : ∃ call,
            (((Config.init state).run body before).act body action).call issued.thread
              = some call
            ∧ P.inv ⟨issued.before, prior⟩
            ∧ P.pre issued.thread call issued.command ⟨issued.before, prior⟩ := by
      obtain ⟨call, asked, due⟩ := ih known
      exact ⟨call, call_act body action asked, due⟩
    cases action with
    | spawn call => exact old mem
    | disturb event => exact old mem
    | step t =>
      have logged := mem
      rw [Config.act, advance_history] at logged
      cases pending : ((Config.init state).run body before).pending t with
      | none => exact old (by simpa only [pending] using logged)
      | some cmd =>
        simp only [pending, exec_log] at logged
        rcases suffix_cons_iff.mp logged with newest | known
        · obtain ⟨rfl, rfl⟩ := cons.inj newest
          obtain ⟨call, asked⟩ := call_of_pending pending
          exact ⟨call, call_act body _ asked, sound.inv,
            sound.pre_of_pending asked pending⟩
        · exact old known

theorem logged_promised
    (meets
      : ∀ t call start, P.inv start → start.own t = []
        → P.Meets t call (body call) (post t call start.state) start)
    (initial : P.inv ⟨state, []⟩) (acts : List (Action M Call))
    : ∀ issued ∈ ((Config.init state).run body acts).history.log,
        P.Promised ((Config.init state).run body acts) issued := by
  intro issued mem
  obtain ⟨later, prior, split⟩ := append_of_mem mem
  obtain ⟨call, asked, inv, pre⟩ := P.promised_at meets initial acts ⟨later, split.symm⟩
  exact ⟨call, ⟨issued.before, prior⟩, asked, rfl, inv, pre⟩

/-- What every promised command keeps holds after every run of such commands, also when
only runs that respect a further condition are considered.
Witness: induction on the schedule; a step executes at most its thread's pending command.
-/
theorem run_respecting
    (meets
      : ∀ t call start, P.inv start → start.own t = []
        → P.Meets t call (body call) (post t call start.state) start)
    (initial : P.inv ⟨state, []⟩) (start : J ⟨state, []⟩)
    (exec
      : ∀ {h t call c}, P.inv h → P.pre t call c h → allowed t c h → J h → J (h.exec t c))
    (disturb : ∀ {h} e, P.inv h → J h → J (h.disturb e)) (acts : List (Action M Call))
    (respects : ((Config.init state).run body acts).history.Respects allowed)
    : J ((Config.init state).run body acts).history := by
  induction acts using List.reverseRecOn with
  | nil => exact start
  | append_singleton before action ih =>
    have sound := P.sound meets initial before
    rw [run_append] at respects ⊢
    simp only [run_cons, run_nil] at respects ⊢
    cases action with
    | spawn call => exact ih respects
    | disturb event => exact disturb event sound.inv (ih respects)
    | step t =>
      rw [Config.act, advance_history] at respects ⊢
      cases pending : Config.pending _ t with
      | none => exact ih (by simpa only [pending] using respects)
      | some cmd =>
        simp only [pending] at respects ⊢
        obtain ⟨now, prior⟩ := respects
        obtain ⟨call, asked⟩ := call_of_pending pending
        exact exec sound.inv (sound.pre_of_pending asked pending) now (ih prior)

def Anything (_ : Nat) (_ : Call) (_ : M.State) (_ : Except ε α) (_ : History M) : Prop :=
  True

theorem run_promised
    (meets
      : ∀ t call start, P.inv start → start.own t = []
        → P.Meets t call (body call) (fun _ _ => True) start) (initial : P.inv ⟨state, []⟩)
    (start : J ⟨state, []⟩)
    (exec
      : ∀ {h t call c}, P.inv h → P.pre t call c h → allowed t c h → J h → J (h.exec t c))
    (disturb : ∀ {h} e, P.inv h → J h → J (h.disturb e)) (acts : List (Action M Call))
    (respects : ((Config.init state).run body acts).history.Respects allowed)
    : J ((Config.init state).run body acts).history := by
  have anything (t : Nat) (call : Call) (start : History M) (inv : P.inv start)
      (fresh : start.own t = [])
      : P.Meets t call (body call) (Anything t call start.state) start :=
    meets t call start inv fresh
  exact run_respecting anything initial start exec disturb acts respects

end Protocol

end CairnStone.Concurrency
