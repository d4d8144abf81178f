import CairnStone.ToolAuthorization.Orderly

/-! Every call keeps the promises about its request: what it has read stays true of the row, and
what it has issued itself says which updates are its own.
-/

namespace CairnStone.ToolAuthorization

open JavaScript Data Concurrency List Option Kept Program Database ToolAuthorization

variable {env : Env} {h h' h'' : History (store env)} {t u : Nat} {id : Text} {call : Call}
  {α β : Type} {Q : Except Text α → History (store env) → Prop}
  {row : Row}

instance eventIsEmpty : IsEmpty (store env).Event :=
  inferInstanceAs (IsEmpty Empty)

def agreement (env : Env) : Protocol (store env) Call where
  inv := Lives env
  le h h' := h.log <:+ h'.log
  pre t call cmd h := Promise env t call.requestId cmd h
  refl h := List.suffix_refl h.log
  trans := List.IsSuffix.trans
  exec_inv := fun lives promise => lives.exec ⟨_, promise⟩
  exec_le := fun _ _ => List.suffix_cons _ _
  disturb_inv := fun event => isEmptyElim event
  disturb_le := fun event => isEmptyElim event

/-- Serving `call` as thread `t`, the program keeps its promises from `h` on. -/
abbrev Obliged {α : Type} (t : Nat) (call : Call) (p : Program (store env) Text α)
    (Q : Except Text α → History (store env) → Prop) (h : History (store env))
    : Prop :=
  (agreement env).Meets t call p Q h

abbrev Moved (t : Nat) (h h' : History (store env)) : Prop :=
  (agreement env).Interference t h h'

theorem SameRequest.refl (row : Row) : SameRequest row row :=
  ⟨rfl, rfl, rfl⟩

theorem SameRequest.trans {first second third : Row} (one : SameRequest first second)
    (other : SameRequest second third)
    : SameRequest first third :=
  ⟨other.id.trans one.id, other.requestJson.trans one.requestJson,
    other.argumentDigest.trans one.argumentDigest⟩

theorem SameRequest.requestOf_request {old new : Row} (same : SameRequest old new)
    : (requestOf env new).request = (requestOf env old).request := by
  simp [requestOf, rowToAuthorization, same.requestJson]

theorem row_later (lives : Lives env h) (lives' : Lives env h') (le : h.log <:+ h'.log)
    (mem : row ∈ rows h.state)
    : At h'.state row.authorizationRequestId (SameRequest row) := by
  refine grow (J := fun g => At g.state row.authorizationRequestId (SameRequest row))
    lives lives' le (respects_true h') ⟨row, mem, rfl, .refl row⟩ ?_
  rintro g t cmd _ _ ⟨id, promise⟩ _ now
  exact now.exec (fun old here _ same => same.trans (progress promise here).sameRequest)

structure Granted (old new : Row) : Prop where
  request : SameRequest old new
  expiresAt : new.expiresAt = old.expiresAt
  approved : new.status ∈ approvedStatuses

theorem Finishing.expiresAt {fields : List Assignment} (finishing : Finishing fields) (row : Row)
    : (row.setAll fields).expiresAt = row.expiresAt := by
  cases finishing with
  | failed error => rfl
  | guardFailed receipt result => rfl
  | outcome finalError receipt result => rfl

/-- No step but a settling one moves the expiry, and a settled row is not settled again. -/
theorem Granted.step {old new : Row} {cmd : Command} (granted : Granted row old)
    (orderly : Orderly h) (mem : old ∈ rows h.state)
    (step : Progress (h.own t) cmd old new)
    : Granted row new := by
  have request := granted.request.trans step.sameRequest
  cases step with
  | same => exact granted
  | claim decision subject method pending valid =>
    have approved := granted.approved
    rw [pending] at approved
    exact absurd approved (by decide)
  | expire authorized =>
    exact ⟨request, granted.expiresAt, by simp [Row.set, approvedStatuses]⟩
  | consume consumptionId startedAt authorized =>
    exact ⟨request, granted.expiresAt, by simp [Row.set, approvedStatuses]⟩
  | settle decision fields deciding settling updates =>
    have approved := granted.approved
    rw [orderly.status_of_deciding deciding mem rfl] at approved
    exact absurd approved (by decide)
  | finish fields consuming finishing updates =>
    refine ⟨request, (finishing.expiresAt old).trans granted.expiresAt, ?_⟩
    have now := finishing.status old
    revert now
    generalize (old.setAll fields).status = status
    cases status <;> decide

theorem granted_later (lives : Lives env h) (lives' : Lives env h') (le : h.log <:+ h'.log)
    (mem : row ∈ rows h.state) (approved : row.status ∈ approvedStatuses)
    : At h'.state row.authorizationRequestId (Granted row) := by
  refine grow (J := fun g => At g.state row.authorizationRequestId (Granted row))
    lives lives' le (respects_true h') ⟨row, mem, rfl, .refl row, rfl, approved⟩ ?_
  rintro g t cmd keptNow _ ⟨id, promise⟩ _ now
  exact now.exec (fun old here _ granted =>
    granted.step (Lives.orderly keptNow) here (progress promise here))

def Command.Free : Command → Prop
  | .insertPending _ | .transition _ _ _ _ | .update _ _ | .invokeTool _ _ => False
  | _ => True

theorem Command.Free.promise {cmd : Command} (free : cmd.Free)
    : Promise env t id cmd h := by
  cases cmd with
  | insertPending record => exact free.elim
  | transition id fromStatus toStatus fields => exact free.elim
  | update id fields => exact free.elim
  | invokeTool handler args => exact free.elim
  | _ => trivial

abbrev Free {α : Type} (p : Program (store env) Text α) : Prop :=
  Program.Issues (M := store env) Command.Free p

def FreelyGrown (trace trace' : Trace env) : Prop :=
  ∃ added, trace' = added ++ trace ∧ ∀ issued ∈ added, Command.Free issued.command

namespace FreelyGrown

variable {trace trace' trace'' : Trace env}

theorem refl (trace : Trace env) : FreelyGrown trace trace :=
  ⟨[], rfl, forall_mem_nil _⟩

theorem cons {issued : Issued (store env)} (free : Command.Free issued.command)
    (grown : FreelyGrown trace trace')
    : FreelyGrown trace (issued :: trace') := by
  obtain ⟨added, rfl, all⟩ := grown
  refine ⟨issued :: added, rfl, fun other mem => ?_⟩
  rcases mem_cons.mp mem with rfl | prior
  · exact free
  · exact all other prior

theorem trans (one : FreelyGrown trace trace') (other : FreelyGrown trace' trace'')
    : FreelyGrown trace trace'' := by
  obtain ⟨added, rfl, all⟩ := one
  obtain ⟨added', rfl, all'⟩ := other
  refine ⟨added' ++ added, (append_assoc _ _ _).symm, fun issued mem => ?_⟩
  rcases mem_append.mp mem with newer | older
  · exact all' issued newer
  · exact all issued older

theorem subset (grown : FreelyGrown trace trace') : trace ⊆ trace' := by
  obtain ⟨added, rfl, _⟩ := grown
  exact subset_append_right added trace

theorem updatesTo (grown : FreelyGrown trace trace') {statuses : List Status}
    (none : ∀ issued ∈ trace, ¬ UpdatesTo id statuses issued)
    : ∀ issued ∈ trace', ¬ UpdatesTo id statuses issued := by
  obtain ⟨added, rfl, free⟩ := grown
  intro issued mem
  rcases mem_append.mp mem with newer | older
  · rintro ⟨fields, updates, _⟩
    have := free issued newer
    rw [show issued.command = .update id fields from updates] at this
    exact this
  · exact none issued older

theorem consumes (grown : FreelyGrown trace trace')
    (none : ∀ issued ∈ trace, ¬ Consumes id issued)
    : ∀ issued ∈ trace', ¬ Consumes id issued := by
  obtain ⟨added, rfl, free⟩ := grown
  intro issued mem
  rcases mem_append.mp mem with newer | older
  · rintro ⟨fields, moves, _⟩
    have := free issued newer
    rw [show issued.command = .transition id .authorized .consuming fields from moves] at this
    exact this
  · exact none issued older

theorem invokes (grown : FreelyGrown trace trace')
    : trace'.countP invokes = trace.countP invokes := by
  obtain ⟨added, rfl, free⟩ := grown
  have none : added.countP invokes = 0 := by
    refine countP_eq_zero.mpr (fun issued mem => ?_)
    have := free issued mem
    unfold invokes
    split
    · rename_i handler args invoked
      rw [show issued.command = .invokeTool handler args from invoked] at this
      exact this.elim
    · exact Bool.false_ne_true
  rw [countP_append, none, Nat.zero_add]

theorem deciding (grown : FreelyGrown trace trace') {decision : Decision}
    (deciding : Deciding trace id decision)
    : Deciding trace' id decision := by
  obtain ⟨⟨issued, mem, records⟩, unsettled⟩ := deciding
  exact ⟨⟨issued, grown.subset mem, records⟩, grown.updatesTo unsettled⟩

theorem consuming (grown : FreelyGrown trace trace') (consuming : Consuming trace id)
    : Consuming trace' id := by
  obtain ⟨⟨issued, mem, consumes⟩, unfinished⟩ := consuming
  exact ⟨⟨issued, grown.subset mem, consumes⟩, grown.updatesTo unfinished⟩

end FreelyGrown

/-- A part that issues free steps only, followed by the rest of the call.
Witness: induction on the part.
-/
theorem Obliged.free_bind {p : Program (store env) Text β} {f : β → Program (store env) Text α}
    (free : Free p)
    (rest
      : ∀ value h', (agreement env).After h h' → FreelyGrown (h.own t) (h'.own t)
        → Obliged t call (f value) Q h')
    (stop : ∀ error h', Q (.error error) h')
    : Obliged t call (p.bind f) Q h := by
  induction p generalizing h with
  | done value =>
    refine Protocol.Meets.of_later (fun h' moved => ?_)
    refine rest value h' moved.toAfter ?_
    rw [moved.own]
    exact .refl _
  | fail error => exact fun h' _ => stop error h'
  | read next ih =>
    intro h' moved
    refine ih h'.state (free h'.state) (fun value h'' after grown => ?_)
    rw [moved.own] at grown
    exact rest value h'' (moved.toAfter.trans after) grown
  | exec cmd next ih =>
    intro h' moved
    refine ⟨Command.Free.promise free.1, ih _ (free.2 _) (fun value h'' after grown => ?_)⟩
    have promise : (agreement env).pre t call cmd h' := Command.Free.promise free.1
    refine rest value h'' ((moved.toAfter.exec call promise).trans after) ?_
    rw [History.own_exec_self, moved.own] at grown
    exact (FreelyGrown.cons free.1 (.refl _)).trans grown

theorem free_perform (cmd : Command) (free : cmd.Free)
    : Free (perform (M := store env) cmd) :=
  ⟨free, fun _ => trivial⟩

theorem free_ask (cmd : Command) (free : cmd.Free)
    (f : (store env).Reply cmd → Except Text α)
    : Free ((perform (M := store env) cmd).bind
        (fun reply => ofExcept (f reply))) :=
  (free_perform cmd free).bind (fun _ => .ofExcept _)

theorem free_load (id : Text) : Free (load env.toPlatform (deps env) id) :=
  fun _ => trivial

theorem free_createEvidenceStone (body : Value) : Free (createEvidenceStone (deps env) body) := by
  unfold createEvidenceStone
  cases offered : env.createStone with
  | none =>
    simp only [deps, offered]
    trivial
  | some answer =>
    simp only [deps, offered]
    refine Issues.bind (free_ask (.createStone body) trivial _) (fun made => ?_)
    split
    · trivial
    · trivial

theorem free_linkEvidence (fromHash toHash : Option Text) (note : String)
    : Free (linkEvidence (deps env) fromHash toHash note) := by
  unfold linkEvidence
  split
  · rename_i fromHash toHash linkStones _ _ offered
    simp only [deps, map_eq_some_iff] at offered
    obtain ⟨answer, _, rfl⟩ := offered
    refine Issues.handle (Issues.bind ?_ (fun _ => trivial)) (fun _ => trivial)
    exact free_ask (.linkStones _) trivial _
  · trivial

theorem free_makeExecutionReceipt (authorization : Authorization) (fields : ExecutionFields)
    : Free (makeExecutionReceipt env.toPlatform (deps env) authorization fields) := by
  unfold makeExecutionReceipt
  refine Issues.bind (free_perform (.dateNow .completion) trivial)
    (fun completedAt => ?_)
  refine Issues.bind (free_createEvidenceStone _) (fun evidence => ?_)
  cases evidence with
  | error error => trivial
  | ok hash =>
    refine Issues.bind (free_linkEvidence _ _ _) (fun _ => ?_)
    exact .bind (free_linkEvidence _ _ _) (fun _ => trivial)

theorem free_parseOrThrow (source : Text)
    : Free (parseOrThrow (M := store env) env.toPlatform source) := by
  unfold parseOrThrow
  split
  · trivial
  · trivial

theorem free_replayed (result : Text) : Free (replayed (M := store env) env.toPlatform result) :=
  (free_parseOrThrow result).bind (fun _ => trivial)

theorem free_checkPolicy (toolId requiredAuthorization : Value)
    : Free (checkPolicy (deps env) toolId requiredAuthorization) := by
  unfold checkPolicy
  split
  · trivial
  · rename_i validateRegisteredMutation offered
    simp only [deps, map_eq_some_iff] at offered
    obtain ⟨answer, _, rfl⟩ := offered
    exact free_ask (.validateRegisteredMutation _ _) trivial _

theorem free_verifyOutcome (authorization : Authorization) (mutationPerformed : Bool)
    (downstream : Value)
    : Free (verifyOutcome (deps env) authorization mutationPerformed downstream) := by
  unfold verifyOutcome
  split
  · rename_i verifyMutation offered
    simp only [deps, map_eq_some_iff] at offered
    obtain ⟨answer, _, rfl⟩ := offered
    exact free_ask (.verifyMutation _ _ _) trivial _
  · trivial

end CairnStone.ToolAuthorization
