import CairnStone.ToolAuthorization.Obligations

/-! An execution invokes the tool of the row that it has read, checked and consumed, and updates
the row only from its consumption on.
-/

namespace CairnStone.ToolAuthorization

open JavaScript Data Concurrency Protocol List History Meets Option Database Authorization

variable {env : Env} {h h' : History (store env)} {t : Nat} {id : Text} {call : Call}
  {request authorization : Authorization}
  {α : Type} {row : Row} {fields : List Assignment}
  {invokeTool : Value → Value → Program (store env) Text Value}

/-- The program keeps its promises, whatever it answers. -/
abbrev Honest {α : Type} (t : Nat) (call : Call) (p : Program (store env) Text α)
    (h : History (store env))
    : Prop :=
  Obliged t call p (fun _ _ => True) h

theorem honest_done (value : α)
    : Honest t call (.done value : Program (store env) Text α) h :=
  fun _ _ => trivial

theorem honest_fail (error : Text)
    : Honest t call (.fail error : Program (store env) Text α) h :=
  fun _ _ => trivial

theorem honest_of_free {p : Program (store env) Text α} (free : Free p)
    : Honest t call p h :=
  of_issues free (fun _ _ free => Command.Free.promise free) (fun _ _ _ => trivial)

theorem honest_free_bind {β : Type} {p : Program (store env) Text β}
    {f : β → Program (store env) Text α} (free : Free p)
    (rest
      : ∀ value h', (agreement env).After h h' → FreelyGrown (h.own t) (h'.own t)
        → Honest t call (f value) h')
    : Honest t call (p.bind f) h :=
  Obliged.free_bind free rest (fun _ _ => trivial)

def Loaded (id : Text) (request : Authorization) (row : Row) (h : History (store env)) : Prop :=
  ∃ h0, Lives env h0 ∧ h0.log <:+ h.log ∧ row ∈ Database.rows h0.state
    ∧ row.authorizationRequestId = id ∧ row.status = .authorized ∧ request = requestOf env row

theorem Loaded.later (loaded : Loaded id request row h) (le : h.log <:+ h'.log)
    : Loaded id request row h' := by
  obtain ⟨h0, lives, before, facts⟩ := loaded
  exact ⟨h0, lives, before.trans le, facts⟩

theorem Loaded.granted (loaded : Loaded id request row h) (lives : Lives env h)
    : At h.state id (Granted row) := by
  obtain ⟨h0, lives0, le, mem, rfl, authorized, _⟩ := loaded
  exact granted_later lives0 lives le mem (by rw [authorized]; decide)

structure Idle (trace : Trace env) (id : Text) : Prop where
  unconsumed : ∀ issued ∈ trace, ¬ Consumes id issued
  unfinished : ∀ issued ∈ trace, ¬ UpdatesTo id finished issued
  uninvoked : trace.countP invokes = 0

theorem Idle.nil : Idle ([] : Trace env) id where
  unconsumed _ mem := absurd mem not_mem_nil
  unfinished _ mem := absurd mem not_mem_nil
  uninvoked := rfl

theorem Idle.grown {trace trace' : Trace env} (idle : Idle trace id)
    (grown : FreelyGrown trace trace')
    : Idle trace' id where
  unconsumed := grown.consumes idle.unconsumed
  unfinished := grown.updatesTo idle.unfinished
  uninvoked := grown.invokes.trans idle.uninvoked

structure Ready (t : Nat) (id : Text) (request : Authorization) (h : History (store env))
    : Prop where
  consuming : Consuming (h.own t) id
  uninvoked : (h.own t).countP invokes = 0
  checked
    : ∃ row expiresAt, Loaded id request row h ∧ row.expiresAt = some expiresAt
      ∧ ChecksExpiry (h.own t) expiresAt

theorem ChecksExpiry.mono {trace trace' : Trace env} {expiresAt : Int}
    (checks : ChecksExpiry trace expiresAt) (subset : trace ⊆ trace')
    : ChecksExpiry trace' expiresAt := by
  obtain ⟨issued, mem, facts⟩ := checks
  exact ⟨issued, subset mem, facts⟩

theorem Ready.grown (ready : Ready t id request h) (after : (agreement env).After h h')
    (grown : FreelyGrown (h.own t) (h'.own t))
    : Ready t id request h' := by
  obtain ⟨row, expiresAt, loaded, expires, checks⟩ := ready.checked
  exact ⟨grown.consuming ready.consuming, grown.invokes.trans ready.uninvoked,
    row, expiresAt, loaded.later after.le, expires, checks.mono grown.subset⟩

theorem Ready.later (ready : Ready t id request h) (moved : Moved t h h')
    : Ready t id request h' := by
  refine ready.grown moved.toAfter ?_
  rw [moved.own]
  exact .refl _

/-- A call that is ready is entitled to invoke the tool of the row as it is now. -/
theorem Ready.entitled (ready : Ready t id request h) (lives : Lives env h)
    : At h.state id
        (Entitled env (h.own t) (request.target.get (text "handler")) request.arguments) := by
  obtain ⟨row, expiresAt, loaded, expires, checks⟩ := ready.checked
  obtain ⟨now, mem, same, granted⟩ := loaded.granted lives
  obtain ⟨_, _, _, _, _, _, rfl⟩ := loaded
  have request : (requestOf env now).request = (requestOf env row).request :=
    granted.request.requestOf_request
  have left : now.status ≠ .pending := by
    intro pending
    have approved := granted.approved
    rw [pending] at approved
    exact absurd approved (by decide)
  refine ⟨now, mem, same, ?_⟩
  constructor
  case verified => exact lives.orderly.verified now mem left
  case handler => rw [target, target, request]
  case arguments =>
    rw [arguments, arguments, target,
      target, request]
  case unexpired => exact ⟨expiresAt, granted.expiresAt.trans expires, checks⟩

theorem honest_finish (same : id = call.requestId) (finishing : Finishing fields)
    (consuming : Consuming (h.own t) id) (value : α)
    : Honest t call (((deps env).updateAuthorization id fields).bind (fun _ => .done value)) h := by
  refine perform_bind (fun h' moved => ⟨⟨same, .inr ⟨?_, finishing⟩⟩, ?_⟩)
  · rw [moved.own, ← same]
    exact consuming
  · exact honest_done value

/-- The invocation leaves the call owner of the execution. -/
theorem honest_invoke (same : id = call.requestId)
    (offered : (deps env).invokeTool = some invokeTool) (ready : Ready t id request h)
    : Obliged t call (invoke invokeTool request) (fun _ h' => Consuming (h'.own t) id) h := by
  simp only [deps, map_eq_some_iff] at offered
  obtain ⟨answer, _, rfl⟩ := offered
  refine handle (perform_bind (fun h' moved => ⟨?_, ?_⟩))
  · have now := ready.later moved
    rw [same] at now
    exact ⟨now.consuming, now.uninvoked, now.entitled moved.inv⟩
  · have consuming : Consuming
        ((h'.exec t (.invokeTool (request.target.get (text "handler")) request.arguments)).own t)
        id := by
      obtain ⟨⟨issued, mem, consumes⟩, unfinished⟩ := (ready.later moved).consuming
      rw [own_exec_self]
      refine ⟨⟨issued, .tail _ mem, consumes⟩, fun other mem => ?_⟩
      rcases mem_cons.mp mem with rfl | prior
      · rintro ⟨fields, updates, _⟩
        cases updates
      · exact unfinished other prior
    cases ((store env).exec (.invokeTool (request.target.get (text "handler")) request.arguments)
        h'.state).1 with
    | ok value =>
      refine Meets.done (fun h'' moved' => ?_)
      rw [moved'.own]
      exact consuming
    | error error =>
      refine Meets.fail (fun h'' moved' => ?_)
      refine Meets.done (fun h''' moved'' => ?_)
      rw [moved''.own, moved'.own]
      exact consuming

theorem honest_runTool (same : id = call.requestId) (startedAt : Int) (guard : Value)
    (offered : (deps env).invokeTool = some invokeTool) (ready : Ready t id request h)
    : Honest t call
        (runTool env.toPlatform (deps env) id request authorization startedAt guard invokeTool)
        h := by
  refine seq (honest_invoke same offered ready) ?_ (fun _ _ _ _ => trivial)
  intro downstream h1 _ consuming
  refine honest_free_bind (free_verifyOutcome _ _ _) (fun verification h2 _ grown => ?_)
  refine honest_free_bind (free_makeExecutionReceipt _ _) (fun receipt h3 _ grown' => ?_)
  exact honest_finish same (.outcome _ _ _) (grown'.consuming (grown.consuming consuming)) _

theorem honest_invokeGuarded (same : id = call.requestId) (startedAt : Int) (guard : Value)
    (ready : Ready t id request h)
    : Honest t call
        (invokeGuarded env.toPlatform (deps env) id request authorization startedAt guard) h := by
  unfold invokeGuarded
  split
  · exact honest_finish same (.failed _) ready.consuming _
  · rename_i invokeTool offered
    exact honest_runTool same startedAt guard offered ready

theorem honest_runConsumed (same : id = call.requestId) (startedAt : Int)
    (ready : Ready t id request h)
    : Honest t call (runConsumed env.toPlatform (deps env) id request authorization startedAt)
        h := by
  unfold runConsumed
  dsimp only
  split
  · exact honest_invokeGuarded same startedAt _ ready
  · split
    · exact honest_finish same (.failed _) ready.consuming _
    · rename_i observeGuard offered
      simp only [deps, map_eq_some_iff] at offered
      obtain ⟨answer, _, rfl⟩ := offered
      refine honest_free_bind (free_ask (.observeGuard _) trivial _) ?_
      intro observed h1 after grown
      split
      · exact honest_invokeGuarded same startedAt _ (ready.grown after grown)
      · refine honest_free_bind (free_makeExecutionReceipt _ _) (fun receipt h2 _ grown' => ?_)
        exact honest_finish same (.guardFailed _ _)
          (grown'.consuming (grown.consuming ready.consuming)) _

structure Checked (t : Nat) (id : Text) (request : Authorization) (h : History (store env))
    : Prop where
  idle : Idle (h.own t) id
  checked
    : ∃ row expiresAt, Loaded id request row h ∧ row.expiresAt = some expiresAt
      ∧ ChecksExpiry (h.own t) expiresAt

theorem Checked.grown (checked : Checked t id request h) (after : (agreement env).After h h')
    (grown : FreelyGrown (h.own t) (h'.own t))
    : Checked t id request h' := by
  obtain ⟨row, expiresAt, loaded, expires, checks⟩ := checked.checked
  exact ⟨checked.idle.grown grown, row, expiresAt, loaded.later after.le, expires,
    checks.mono grown.subset⟩

theorem moves_of_changes {fromStatus toStatus : Status}
    (edits
      : ((store env).exec (.transition id fromStatus toStatus fields) h.state).1 = (1 : Nat))
    : Moves id fromStatus toStatus fields
        (⟨t, .transition id fromStatus toStatus fields, h.state⟩ : Issued (store env)) := by
  have counted : (rows h.state).countP (inStatus id fromStatus) = 1 := edits
  have found : 0 < (rows h.state).countP (inStatus id fromStatus) := by omega
  obtain ⟨row, mem, holds⟩ := countP_pos_iff.mp found
  have hit : row.authorizationRequestId = id ∧ row.status = fromStatus := by
    simpa [inStatus] using holds
  exact ⟨rfl, row, mem, hit⟩

theorem Checked.ready (checked : Checked t id request h)
    (edits
      : ((store env).exec (.transition id .authorized .consuming fields) h.state).1 = (1 : Nat))
    : Ready t id request (h.exec t (.transition id .authorized .consuming fields)) := by
  obtain ⟨row, expiresAt, loaded, expires, checks⟩ := checked.checked
  constructor
  case consuming =>
    rw [own_exec_self]
    refine ⟨⟨_, .head _, fields, moves_of_changes edits⟩, fun other mem => ?_⟩
    rcases mem_cons.mp mem with rfl | prior
    · rintro ⟨fields, updates, _⟩
      cases updates
    · exact checked.idle.unfinished other prior
  case uninvoked =>
    rw [own_exec_self, countP_cons, checked.idle.uninvoked]
    rfl
  case checked =>
    refine ⟨row, expiresAt, loaded.later (suffix_cons _ _), expires, checks.mono ?_⟩
    rw [own_exec_self]
    exact subset_cons_self _ _

theorem honest_consume (same : id = call.requestId) (checked : Checked t id request h)
    : Honest t call (consume env.toPlatform (deps env) id request) h := by
  refine honest_free_bind (free_perform .randomUUID trivial) ?_
  intro nonce h1 after1 grown1
  refine honest_free_bind (free_perform (.dateNow .start) trivial) ?_
  intro startedAt h2 after2 grown2
  have now := (checked.grown after1 grown1).grown after2 grown2
  refine perform_bind (fun h3 moved => ?_)
  have promise (consumptionId : Text)
      : (agreement env).pre t call
          (.transition id .authorized .consuming
            [.consumptionId consumptionId, .consumedAt startedAt]) h3 :=
    ⟨same, .inr (.inr ⟨rfl, rfl, consumptionId, startedAt, rfl⟩)⟩
  refine ⟨promise _, honest_free_bind (free_load id) (fun current h4 after4 grown4 => ?_)⟩
  split
  · rename_i edits
    cases current with
    | none => exact honest_fail _
    | some authorization =>
      have own : FreelyGrown (h2.own t) (h3.own t) := by
        rw [moved.own]
        exact .refl _
      have ready := ((now.grown moved.toAfter own).ready edits).grown after4 grown4
      exact honest_runConsumed same startedAt ready
  · cases current with
    | none => exact honest_done _
    | some authorization =>
      dsimp only
      split
      · exact honest_of_free (free_replayed _)
      · exact honest_done _

/-- The stored request is the one that the row was created for, so no check on it fails. -/
theorem honest_checkAndConsume (same : id = call.requestId)
    (checked : Checked t id request h)
    : Honest t call (checkAndConsume env.toPlatform (deps env) id request) h := by
  obtain ⟨row, expiresAt, loaded, _⟩ := checked.checked
  obtain ⟨h0, lives0, _, mem, _, authorized, rfl⟩ := loaded
  have valid := lives0.orderly.verified row mem (by rw [authorized]; decide)
  unfold checkAndConsume
  split
  · rename_i corrupt
    simp [valid.target, valid.arguments] at corrupt
  · split
    · rename_i mismatch
      have digest : argumentDigest env.toPlatform (requestOf env row).arguments
          = (requestOf env row).row.argumentDigest := valid.digest
      have stated : ((requestOf env row).request.get (text "argument_digest")).strictEquals
          (.string (requestOf env row).row.argumentDigest) = true := valid.stated
      simp [digest, stated] at mismatch
    · refine honest_free_bind (free_checkPolicy _ _) (fun registry h1 after grown => ?_)
      split
      · exact honest_done _
      · split
        · exact honest_done _
        · exact honest_consume same (checked.grown after grown)

theorem honest_executeLoaded (same : id = call.requestId) {h0 : History (store env)}
    (lives0 : Lives env h0) (le : h0.log <:+ h.log) (mem : row ∈ rows h0.state)
    (named : row.authorizationRequestId = id) (idle : Idle (h.own t) id)
    : Honest t call (executeLoaded env.toPlatform (deps env) id (requestOf env row)) h := by
  have expire (h1 : History (store env))
      : Honest t call
          (((deps env).transitionAuthorization id .authorized .expired
            [.errorType (some (text "authorization_expired"))]).bind
            (fun _ => .done (refusalFor (text "authorization_expired") id))) h1 := by
    refine perform_bind (fun h2 _ => ⟨?_, honest_done _⟩)
    exact ⟨same, .inr (.inl ⟨rfl, rfl, rfl⟩)⟩
  unfold executeLoaded
  split
  · exact honest_of_free (free_replayed _)
  · rename_i authorized
    split
    · exact expire h
    · rename_i expiresAt expires
      refine perform_bind (fun h1 moved => ⟨trivial, ?_⟩)
      split
      · exact expire _
      · rename_i unexpired
        have promise : (agreement env).pre t call (.dateNow .expiryCheck) h1 := trivial
        have after := moved.toAfter.exec call promise
        have free : Command.Free (.dateNow .expiryCheck) := trivial
        have grown : FreelyGrown (h.own t) ((h1.exec t (.dateNow .expiryCheck)).own t) := by
          rw [own_exec_self, moved.own]
          exact .cons free (.refl _)
        refine honest_checkAndConsume same ⟨idle.grown grown, row, expiresAt, ?_, expires, ?_⟩
        · exact ⟨h0, lives0, le.trans after.le, mem, named, authorized, rfl⟩
        · refine ⟨⟨t, .dateNow .expiryCheck, h1.state⟩, ?_, rfl, ?_⟩
          · rw [own_exec_self]
            exact .head _
          · exact Int.not_le.mp unexpired
  · exact honest_done _

/-- An execution keeps its promises, whether it is a call of its own or ends a decision. -/
theorem honest_execute (body : Value)
    (same : trimmed body "authorization_request_id" = call.requestId)
    (idle : Idle (h.own t) call.requestId)
    : Honest t call (executeAuthorizedToolFromBody env.toPlatform (deps env) body) h := by
  unfold executeAuthorizedToolFromBody
  split
  · exact honest_done _
  · split
    · exact honest_done _
    · dsimp only
      split
      · exact honest_done _
      · unfold load
        refine bind (select_bind (fun h1 moved => ?_))
        refine Meets.done (fun h2 moved' => ?_)
        dsimp only
        split
        · exact honest_done _
        · rename_i authorization found
          obtain ⟨row, there, rfl⟩ := map_eq_some_iff.mp found
          obtain ⟨mem, named⟩ := mem_of_find there
          have stays : h2.own t = h.own t := moved'.own.trans moved.own
          refine honest_executeLoaded same moved.inv moved'.le mem named ?_
          rwa [stays, same]

end CairnStone.ToolAuthorization
