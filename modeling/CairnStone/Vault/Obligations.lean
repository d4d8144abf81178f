import CairnStone.Vault.Statements
import CairnStone.Vault.Stones

/-! What a call on the vault keeps to, whatever other calls do in between. A promise says what each
command of a call may be issued for; the rules go through a call step by step.
-/

namespace CairnStone.Vault

open JavaScript Data Concurrency Protocol Tables Meets Program
open Workspace (isHex)

variable {env : Env} {promise : Nat → Command → History (vault env) → Prop} {Call : Type} {t : Nat}
  {call : Call} {α β : Type} {R : α → History (vault env) → Prop} {h h' h'' : History (vault env)}
  {g : β → Operation env α} {p : Operation env α} {cmd : Command} {statement : Write}
  {value : Value} {kind : Command → Prop}

abbrev Lives (promise : Nat → Command → History (vault env) → Prop) (h : History (vault env)) : Prop :=
  Kept (M := vault env) Tables.empty promise h

abbrev agreement (promise : Nat → Command → History (vault env) → Prop) (Call : Type)
    : Protocol (vault env) Call :=
  Protocol.promising Tables.empty promise

/-- A postcondition of answers; a call that throws owes nothing. -/
def Returns (R : α → History (vault env) → Prop) : Except Text α → History (vault env) → Prop
  | .ok value, h => R value h
  | .error _, _ => True

/-- Serving `call` as thread `t`, the program keeps the promise from `h` on. -/
abbrev Keeps (promise : Nat → Command → History (vault env) → Prop) (t : Nat) (call : Call)
    (p : Operation env α) (R : α → History (vault env) → Prop) (h : History (vault env))
    : Prop :=
  (agreement promise Call).Meets t call p (Returns R) h

/-- What may have happened until the thread's next step. -/
abbrev Later (promise : Nat → Command → History (vault env) → Prop) (Call : Type) (t : Nat)
    (h h' : History (vault env))
    : Prop :=
  (agreement promise Call).Interference t h h'

/-- What may have happened since, the thread's own steps included. -/
abbrev Onward (promise : Nat → Command → History (vault env) → Prop) (Call : Type)
    (h h' : History (vault env))
    : Prop :=
  (agreement promise Call).After h h'

theorem keeps_done {value : α} (post : ∀ h', Later promise Call t h h' → R value h')
    : Keeps promise t call (.done value) R h :=
  Meets.done post

theorem keeps_fail {error : Text} : Keeps promise t call (.fail error) R h :=
  Meets.fail (fun _ _ => trivial)

theorem keeps_bind {S : β → History (vault env) → Prop} {p : Operation env β}
    (first : Keeps promise t call p S h)
    (next
      : ∀ value h', Onward promise Call h h' → S value h' → Keeps promise t call (g value) R h')
    : Keeps promise t call (p.bind g) R h :=
  seq first next (fun _ _ _ _ => trivial)

theorem Keeps.weaken {S : α → History (vault env) → Prop} (keeps : Keeps promise t call p S h)
    (weaken : ∀ value h', Onward promise Call h h' → S value h' → R value h')
    : Keeps promise t call p R h := by
  refine consequence keeps (fun answer h' onward holds => ?_)
  cases answer with
  | ok value => exact weaken value h' onward holds
  | error error => trivial

theorem keeps_select_bind {f : Tables → β}
    (next : ∀ h', Later promise Call t h h' → Keeps promise t call (g (f h'.state)) R h')
    : Keeps promise t call ((select f).bind g) R h :=
  select_bind next

theorem keeps_perform_bind {g : cmd.Reply → Operation env α}
    (next
      : ∀ h', Later promise Call t h h'
        → promise t cmd h'
          ∧ Keeps promise t call (g (exec env cmd h'.state).1) R (h'.exec t cmd))
    : Keeps promise t call ((perform cmd).bind g) R h :=
  perform_bind next

theorem Later.onward (later : Later promise Call t h h') : Onward promise Call h h' :=
  later.toAfter

theorem Onward.le (onward : Onward promise Call h h') : h.log <:+ h'.log :=
  Protocol.After.le onward

theorem Onward.lives (onward : Onward promise Call h h') : Lives promise h' :=
  Protocol.After.inv onward

theorem Onward.trans (onward : Onward promise Call h h') (onward' : Onward promise Call h' h'')
    : Onward promise Call h h'' :=
  Protocol.After.trans onward onward'

/-- A step that the thread takes itself. -/
theorem Later.step (later : Later promise Call t h h') (due : promise t cmd h')
    : Onward promise Call h (h'.exec t cmd) :=
  ⟨later.le.trans (List.suffix_cons _ _), later.inv.exec due⟩

/-- A command that is always allowed, and of whose answer nothing is known. -/
theorem keeps_free_bind {g : cmd.Reply → Operation env α} (free : ∀ h, promise t cmd h)
    (next : ∀ reply h', Onward promise Call h h' → Keeps promise t call (g reply) R h')
    : Keeps promise t call ((perform cmd).bind g) R h :=
  keeps_perform_bind (fun h1 later => ⟨free h1, next _ _ (later.step (free h1))⟩)

theorem keeps_readChainHead_bind {chain : Text} {g : Option ChainHeadRow → Operation env α}
    (next
      : ∀ h', Later promise Call t h h'
        → promise t (.readChainHead chain) h'
          ∧ Keeps promise t call (g (h'.state.chainHead chain)) R (h'.exec t (.readChainHead chain)))
    : Keeps promise t call ((perform (.readChainHead chain)).bind g) R h :=
  keeps_perform_bind next

theorem keeps_fetchFile_bind {file : GitHubFile} {g : Fetched → Operation env α}
    (next
      : ∀ h', Later promise Call t h h'
        → promise t (.fetchFile file) h'
          ∧ Keeps promise t call (g (env.fetchFile h'.state.steps file)) R
            (h'.exec t (.fetchFile file)))
    : Keeps promise t call ((perform (.fetchFile file)).bind g) R h :=
  keeps_perform_bind next

/-- The tree of a repository, as GitHub answers it at this step. -/
theorem keeps_fetchTree_bind {owner repo ref : Text}
    {g : Except Text (List TreeFile) → Operation env α}
    (next
      : ∀ h', Later promise Call t h h'
        → promise t (.fetchTree owner repo ref) h'
          ∧ Keeps promise t call (g (env.fetchTree h'.state.steps owner repo ref)) R
            (h'.exec t (.fetchTree owner repo ref)))
    : Keeps promise t call ((perform (.fetchTree owner repo ref)).bind g) R h :=
  keeps_perform_bind next

def Clocked (env : Env) (stamp : Text) : Prop :=
  ∃ steps, stamp = env.now steps

theorem keeps_clock_bind {g : Text → Operation env α} (free : ∀ h, promise t .now h)
    (next
      : ∀ stamp h', Onward promise Call h h' → Clocked env stamp
        → Keeps promise t call (g stamp) R h')
    : Keeps promise t call (clock.bind g) R h :=
  keeps_perform_bind (fun h1 later =>
    ⟨free h1, next _ _ (later.step (free h1)) ⟨h1.state.steps, rfl⟩⟩)

theorem keeps_require_bind {g : Unit → Operation env α}
    (next
      : ∀ h', Later promise Call t h h'
        → promise t (.write statement) h'
          ∧ (h'.state.Succeeds env statement
              → Keeps promise t call (g ()) R (h'.exec t (.write statement))))
    : Keeps promise t call ((require statement).bind g) R h := by
  refine perform_bind (fun h1 later => ?_)
  obtain ⟨due, rest⟩ := next h1 later
  refine ⟨due, ?_⟩
  cases reply : (exec env (.write statement) h1.state).1 with
  | true => exact rest (succeeds_of_reply reply)
  | false => exact .fail (fun _ _ => trivial)

/-- A statement whose failure ends the call, at the end of a call or of a part of it. -/
theorem keeps_require {R : Unit → History (vault env) → Prop}
    (next
      : ∀ h', Later promise Call t h h'
        → promise t (.write statement) h'
          ∧ (h'.state.Succeeds env statement
              → ∀ h'', Later promise Call t (h'.exec t (.write statement)) h'' → R () h''))
    : Keeps promise t call (require statement) R h := by
  refine keeps_perform_bind (fun h1 later => ?_)
  obtain ⟨due, rest⟩ := next h1 later
  refine ⟨due, ?_⟩
  cases reply : (exec env (.write statement) h1.state).1 with
  | true => exact keeps_done (rest (succeeds_of_reply reply))
  | false => exact keeps_fail

theorem keeps_bound_bind {g : Option Text → Operation env α}
    (next : ∀ stored, columnOf env value = some stored → Keeps promise t call (g stored) R h)
    : Keeps promise t call ((bound value).bind g) R h := by
  unfold bound
  cases column : columnOf env value with
  | some stored => exact next stored column
  | none => exact keeps_fail

theorem keeps_boundText_bind {g : Text → Operation env α}
    (next : ∀ stored, columnOf env value = some (some stored) → Keeps promise t call (g stored) R h)
    : Keeps promise t call ((boundText value).bind g) R h := by
  unfold boundText bound
  cases column : columnOf env value with
  | none => exact keeps_fail
  | some stored =>
    cases stored with
    | none => exact keeps_fail
    | some stored => exact next stored column

theorem keeps_upsertHead {chain : Value} {hash stamp : Text}
    (due
      : ∀ column h', columnOf env chain = some (some column) → Later promise Call t h h'
        → promise t (.write (.upsertHead ⟨column, hash, stamp⟩)) h')
    : Keeps promise t call (upsertHead chain hash stamp) (fun _ _ => True) h := by
  refine keeps_boundText_bind (fun column bound => ?_)
  exact keeps_require (fun h1 later => ⟨due column h1 bound later, fun _ _ _ => trivial⟩)

theorem keeps_upsertPathHead {chain : Text} {path : Value} {hash stamp : Text}
    (due
      : ∀ column h', columnOf env path = some (some column) → Later promise Call t h h'
        → promise t (.write (.upsertPathHead ⟨chain, column, hash, stamp⟩)) h')
    : Keeps promise t call (upsertPathHead chain path hash stamp) (fun _ _ => True) h := by
  refine keeps_boundText_bind (fun column bound => ?_)
  exact keeps_require (fun h1 later => ⟨due column h1 bound later, fun _ _ _ => trivial⟩)

theorem keeps_whenever {cond : Bool} {p : Operation env Unit}
    (keeps : cond = true → Keeps promise t call p (fun _ _ => True) h)
    : Keeps promise t call (whenever cond p) (fun _ _ => True) h := by
  cases cond with
  | true => exact keeps rfl
  | false => exact keeps_done (fun _ _ => trivial)

theorem keeps_requiredString_bind {name : String} {g : Text → Operation env α}
    (next : ∀ s, value = .string s → trim s ≠ [] → Keeps promise t call (g s) R h)
    : Keeps promise t call ((requiredString value name).bind g) R h := by
  unfold requiredString
  cases value with
  | string s =>
    by_cases blank : trim s = []
    · simpa [blank] using keeps_fail
    · simpa [blank] using next s rfl blank
  | _ => exact keeps_fail

/-- A program whose every command is always allowed. -/
theorem keeps_of_issues (issues : p.Issues kind)
    (free : ∀ cmd h, kind cmd → promise t cmd h)
    : Keeps promise t call p (fun _ _ => True) h := by
  refine of_issues issues free (fun answer _ _ => ?_)
  cases answer <;> trivial

theorem keeps_anything (anything : ∀ cmd h, promise t cmd h)
    : Keeps promise t call p (fun _ _ => True) h :=
  keeps_of_issues (.anything p) (fun cmd h _ => anything cmd h)

/-- What other threads and the program's own commands keep is still true where the program ends.
Witness: induction on the program.
-/
theorem keeps_through {J : History (vault env) → Prop} (issues : p.Issues kind)
    (free : ∀ cmd h, kind cmd → promise t cmd h)
    (others : ∀ h h', Lives promise h → Later promise Call t h h' → J h → J h')
    (own : ∀ cmd h, Lives promise h → kind cmd → J h → J (h.exec t cmd))
    (lives : Lives promise h) (start : J h)
    : Keeps promise t call p (fun _ h' => J h') h := by
  induction p generalizing h with
  | done value => exact keeps_done (fun h1 later => others h h1 lives later start)
  | fail error => exact keeps_fail
  | read next ih =>
    intro h1 later
    exact ih h1.state (issues h1.state) later.inv (others h h1 lives later start)
  | exec cmd next ih =>
    intro h1 later
    have due := free cmd h1 issues.1
    have lives1 : Lives promise h1 := later.inv
    exact ⟨due, ih _ (issues.2 _) (lives1.exec due)
      (own cmd h1 lives1 issues.1 (others h h1 lives later start))⟩

theorem lives_run {body : Call → Operation env α}
    (keeps
      : ∀ t call start, Lives promise start → start.own t = []
        → Keeps promise t call (body call) (fun _ _ => True) start)
    (acts : List (Action (vault env) Call))
    : Lives promise ((Config.init empty).run body acts).history := by
  have meets (t : Nat) (call : Call) (start : History (vault env)) (lives : Lives promise start)
      (fresh : start.own t = [])
      : (agreement promise Call).Meets t call (body call) (Protocol.Anything t call start.state)
          start :=
    consequence (keeps t call start lives fresh) (fun _ _ _ _ => trivial)
  have initial : Lives promise ⟨empty, []⟩ := Kept.nil
  exact ((agreement promise Call).sound meets initial acts).inv

/-- Rows that are never changed stay. -/
theorem Onward.grows (onward : Onward promise Call h h') (lives : Lives promise h)
    : Grows h.state h'.state :=
  lives.state_grow (R := fun tables => Grows h.state tables) onward.lives onward.le
    (Grows.refl _) (fun state cmd grows => grows.trans (grows_exec env state cmd))

def Harmless : Command → Prop
  | .write (.insertEdge _) => True
  | .write (.insertFts _) => True
  | .write _ => False
  | .fetchTree _ _ _ => False
  | _ => True

theorem harmless_requiredString (value : Value) (name : String)
    : (requiredString value name : Operation env Text).Issues Harmless := by
  unfold requiredString
  cases value with
  | string s =>
    simp only
    split <;> trivial
  | _ => trivial

theorem harmless_bound (value : Value) : (bound value : Operation env _).Issues Harmless := by
  unfold bound
  split <;> trivial

theorem harmless_perform (harmless : Harmless cmd)
    : (perform cmd : Operation env _).Issues Harmless :=
  ⟨harmless, fun _ => trivial⟩

theorem harmless_require (harmless : Harmless (.write statement))
    : (require statement : Operation env Unit).Issues Harmless := by
  refine (harmless_perform harmless).bind (fun succeeded => ?_)
  cases succeeded <;> trivial

theorem harmless_requireEach {statements : List Write}
    (harmless : ∀ statement ∈ statements, Harmless (.write statement))
    : (requireEach statements : Operation env Unit).Issues Harmless := by
  induction statements with
  | nil => trivial
  | cons statement rest ih =>
    refine (harmless_require (harmless statement (.head _))).bind (fun _ => ?_)
    exact ih (fun other mem => harmless other (.tail _ mem))

theorem harmless_ftsIndexRefs (rows : List FtsRow)
    : (ftsIndexRefs rows : Operation env Unit).Issues Harmless := by
  refine Issues.handle (harmless_requireEach (fun statement mem => ?_)) (fun _ => trivial)
  obtain ⟨row, _, rfl⟩ := List.mem_map.mp mem
  trivial

theorem harmless_resolveGitHubCommit (file : GitHubFile)
    : (resolveGitHubCommit file : Operation env _).Issues Harmless := by
  unfold resolveGitHubCommit
  by_cases full : isHex 40 file.ref
  · rw [if_pos full]
    trivial
  · rw [if_neg full]
    exact ⟨trivial, fun _ => trivial⟩

theorem harmless_resolveStoneHash (input : Value)
    : (resolveStoneHash input : Operation env _).Issues Harmless := by
  refine (harmless_requiredString input "hash").bind (fun value => ?_)
  split
  · exact fun _ => trivial
  · split
    · trivial
    · exact fun _ => trivial

theorem harmless_linkStones (fromHash toHash edgeType note : Value)
    : (linkStones fromHash toHash edgeType note : Operation env _).Issues Harmless := by
  refine (harmless_requiredString _ _).bind (fun fromHash => ?_)
  refine (harmless_requiredString _ _).bind (fun toHash => ?_)
  refine (harmless_requiredString _ _).bind (fun edgeType => ?_)
  split
  · trivial
  · refine fun tables => ?_
    simp only [done_bind]
    split
    · trivial
    · refine fun tables' => ?_
      simp only [done_bind]
      split
      · trivial
      · have harmless : Harmless .now := trivial
        refine (harmless_perform harmless).bind (fun createdAt => ?_)
        refine (harmless_bound _).bind (fun note => ?_)
        exact (harmless_require (by trivial)).bind (fun _ => trivial)

theorem harmless_commitEdge (stoneHash : Text) (edge : Value)
    : (commitEdge stoneHash edge : Operation env _).Issues Harmless := by
  unfold commitEdge
  simp only
  split
  · refine (harmless_resolveStoneHash _).bind (fun target => ?_)
    cases target with
    | error error => trivial
    | ok hash =>
      simp only
      split
      · trivial
      · refine (harmless_linkStones _ _ _ _).bind (fun linked => ?_)
        cases linked <;> trivial
  · trivial

theorem harmless_commitEdges (stoneHash : Text) (edges : List Value)
    : (commitEdges stoneHash edges : Operation env _).Issues Harmless := by
  induction edges with
  | nil => trivial
  | cons edge rest ih =>
    refine (harmless_commitEdge stoneHash edge).bind (fun result => ?_)
    exact ih.bind (fun results => trivial)

/-- A part of a call that accepted state does not depend on, followed by the rest of the call. -/
theorem keeps_harmless_bind {p : Operation env β} (harmless : p.Issues Harmless)
    (free : ∀ cmd h, Harmless cmd → promise t cmd h)
    (next : ∀ value h', Onward promise Call h h' → Keeps promise t call (g value) R h')
    : Keeps promise t call (p.bind g) R h :=
  keeps_bind (keeps_of_issues harmless free) (fun value h' onward _ => next value h' onward)

end CairnStone.Vault
