import CairnStone.ToolAuthorization.Ownership

/-! The order in which a row moves, in every run of promised steps: it is claimed once, settled by
the call that claimed it, consumed once, and finished by the call that consumed it.
-/

namespace CairnStone.ToolAuthorization

open JavaScript Data Concurrency List Database History Command

variable {env : Env} {h h' : History (store env)} {t u : Nat} {id : Text} {cmd : Command}
  {decision : Decision} {fields : List Assignment} {issued : Issued (store env)}

inductive Progress (trace : Trace env) (cmd : Command) (old : Row) : Row → Prop where
  | same : Progress trace cmd old old
  | claim (decision : Decision) (subject method : Text) (pending : old.status = .pending)
      (verified : Verified env old)
      : Progress trace cmd old
          (old.setAll (.status .deciding :: claimFields decision subject method))
  | expire (authorized : old.status = .authorized)
      : Progress trace cmd old
          (old.setAll [.status .expired, .errorType (some (text "authorization_expired"))])
  | consume (consumptionId : Text) (startedAt : Int) (authorized : old.status = .authorized)
      : Progress trace cmd old
          (old.setAll [.status .consuming, .consumptionId consumptionId, .consumedAt startedAt])
  | settle (decision : Decision) (fields : List Assignment)
      (deciding : Deciding trace old.authorizationRequestId decision)
      (settling : Settling decision fields)
      (updates : cmd = .update old.authorizationRequestId fields)
      : Progress trace cmd old (old.setAll fields)
  | finish (fields : List Assignment) (consuming : Consuming trace old.authorizationRequestId)
      (finishing : Finishing fields)
      (updates : cmd = .update old.authorizationRequestId fields)
      : Progress trace cmd old (old.setAll fields)

/-- A promised step makes progress with every row.
Witness: case analysis on the command; the promise names the fields that it assigns.
-/
theorem progress (promise : Promise env t id cmd h) {row : Row}
    (mem : row ∈ rows h.state)
    : Progress (h.own t) cmd row (cmd.rewrite row) := by
  cases cmd with
  | transition id' fromStatus toStatus fields =>
    obtain ⟨rfl, shape⟩ := promise
    simp only [rewrite]
    split
    · rename_i hit
      have hit : row.authorizationRequestId = id' ∧ row.status = fromStatus := by
        simpa [inStatus] using hit
      rcases shape with ⟨rfl, rfl, ⟨decision, subject, method, rfl⟩, verified⟩
        | ⟨rfl, rfl, rfl⟩ | ⟨rfl, rfl, consumptionId, startedAt, rfl⟩
      · exact .claim decision subject method hit.2 (verified row mem hit.1)
      · exact .expire hit.2
      · exact .consume consumptionId startedAt hit.2
    · exact .same
  | update id' fields =>
    obtain ⟨rfl, shape⟩ := promise
    simp only [rewrite]
    split
    · rename_i hit
      obtain rfl : row.authorizationRequestId = id' := eq_of_beq hit
      rcases shape with ⟨decision, deciding, settling⟩ | ⟨consuming, finishing⟩
      · exact .settle decision fields deciding settling rfl
      · exact .finish fields consuming finishing rfl
    · exact .same
  | _ => exact .same

structure SameRequest (old new : Row) : Prop where
  id : new.authorizationRequestId = old.authorizationRequestId
  requestJson : new.requestJson = old.requestJson
  argumentDigest : new.argumentDigest = old.argumentDigest

theorem SameRequest.setAll (row : Row) (fields : List Assignment)
    : SameRequest row (row.setAll fields) :=
  ⟨(row.setAll_request fields).1, (row.setAll_request fields).2.1,
    (row.setAll_request fields).2.2⟩

theorem Settling.status (settling : Settling decision fields) (row : Row)
    : (row.setAll fields).status ∈ settled
      ∧ ((row.setAll fields).status = .authorized
        → decision = .approved ∧ .status .authorized ∈ fields) := by
  cases settling with
  | failed error => simp [failureFields, Row.set, settled]
  | decided issuedAt expiresAt hash =>
    cases decision with
    | approved => simp [decidedFields, Row.set, settled]
    | denied => simp [decidedFields, Row.set, settled]

theorem Finishing.status (finishing : Finishing fields) (row : Row)
    : (row.setAll fields).status ∈ finished := by
  cases finishing with
  | failed error => simp [failureFields, Row.set, finished]
  | guardFailed receipt result => simp [guardFailedFields, Row.set, finished]
  | outcome finalError receipt result =>
    cases finalError with
    | none => simp [outcomeFields, Row.set, finished]
    | some error => simp [outcomeFields, Row.set, finished]

theorem Settling.updatesTo (settling : Settling decision fields)
    (updates : issued.command = .update id fields)
    : UpdatesTo id settled issued := by
  cases settling with
  | failed error => exact ⟨_, updates, _, by decide, .head _⟩
  | decided issuedAt expiresAt hash =>
    refine ⟨_, updates, _, ?_, .head _⟩
    split
    · decide
    · decide

theorem Finishing.updatesTo (finishing : Finishing fields)
    (updates : issued.command = .update id fields)
    : UpdatesTo id finished issued := by
  cases finishing with
  | failed error => exact ⟨_, updates, _, by decide, .head _⟩
  | guardFailed receipt result => exact ⟨_, updates, _, by decide, .head _⟩
  | outcome finalError receipt result =>
    refine ⟨_, updates, _, ?_, .head _⟩
    split
    · decide
    · decide

theorem Progress.sameRequest {trace : Trace env} {old new : Row}
    (step : Progress trace cmd old new)
    : SameRequest old new := by
  cases step with
  | same => exact ⟨rfl, rfl, rfl⟩
  | _ => exact .setAll old _

theorem Verified.of_sameRequest {old new : Row} (verified : Verified env old)
    (same : SameRequest old new)
    : Verified env new := by
  have request : (requestOf env new).request = (requestOf env old).request := by
    simp [requestOf, rowToAuthorization, same.requestJson]
  obtain ⟨target, arguments, digest, stated⟩ := verified
  constructor
  case target => rwa [Authorization.target, request]
  case arguments => rwa [Authorization.arguments, Authorization.target, request]
  case digest =>
    rw [Authorization.arguments, Authorization.target, request, same.argumentDigest]
    exact digest
  case stated => rwa [request, same.argumentDigest]

def approvedStatuses : List Status :=
  [.authorized, .expired, .consuming, .executed, .guardFailed, .executionFailed]

def spent : List Status := [.consuming, .executed, .guardFailed, .executionFailed]

def Creates (row : Row) (issued : Issued (store env)) : Prop :=
  ∃ record, issued.command = .insertPending record
    ∧ SameRequest record.row row
    ∧ ∀ old ∈ Database.rows issued.before,
        old.authorizationRequestId ≠ row.authorizationRequestId

def Approves (trace : Trace env) (id : Text) : Prop :=
  (∃ issued ∈ trace, Records id .approved issued)
  ∧ ∃ issued ∈ trace, UpdatesTo id [.authorized] issued

/-- What holds of the table and the trace after any number of promised steps. -/
structure Orderly (h : History (store env)) : Prop where
  keyed : Keyed Row.authorizationRequestId (Database.rows h.state)
  created : ∀ row ∈ Database.rows h.state, ∃ issued ∈ h.log, Creates row issued
  verified : ∀ row ∈ Database.rows h.state, row.status ≠ .pending → Verified env row
  deciding
    : ∀ {u id decision}, Deciding (h.own u) id decision
      → At h.state id (fun row => row.status = .deciding)
  recorded
    : ∀ {id decision issued}, issued ∈ h.log → Records id decision issued
      → At h.state id (fun row => row.status ≠ .pending)
  decidedOnce
    : ∀ {id decision decision' issued issued'}, issued ∈ h.log → issued' ∈ h.log
      → Records id decision issued → Records id decision' issued' → issued = issued'
  approved
    : ∀ row ∈ Database.rows h.state, row.status ∈ approvedStatuses
      → ∃ u, Approves (h.own u) row.authorizationRequestId
  consuming
    : ∀ {u id}, Consuming (h.own u) id → At h.state id (fun row => row.status = .consuming)
  consumed
    : ∀ {id issued}, issued ∈ h.log → Consumes id issued
      → At h.state id (fun row => row.status ∈ spent)
  consumedOnce
    : ∀ {id issued issued'}, issued ∈ h.log → issued' ∈ h.log → Consumes id issued
      → Consumes id issued' → issued = issued'

/-- What a row satisfies carries over to what the step makes of it. -/
theorem At.exec {p q : Row → Prop} (at1 : At h.state id p)
    (step
      : ∀ row ∈ rows h.state, row.authorizationRequestId = id → p row
        → q (cmd.rewrite row))
    : At (h.exec t cmd).state id q := by
  obtain ⟨row, mem, same, holds⟩ := at1
  exact ⟨cmd.rewrite row, rewrite_mem cmd mem, (cmd.rewrite_id row).trans same,
    step row mem same holds⟩

namespace Orderly

variable (orderly : Orderly h)
  {row : Row}

include orderly

/-- One call decides on a request. -/
theorem decider_unique {decision decision' : Decision} (one : Deciding (h.own t) id decision)
    (other : Deciding (h.own u) id decision')
    : t = u := by
  obtain ⟨issued, mem, records⟩ := one.1
  obtain ⟨issued', mem', records'⟩ := other.1
  obtain ⟨noted, thread⟩ := mem_own.mp mem
  obtain ⟨logged', thread'⟩ := mem_own.mp mem'
  cases orderly.decidedOnce noted logged' records records'
  exact thread.symm.trans thread'

/-- One call executes a request. -/
theorem consumer_unique (one : ∃ issued ∈ h.own t, Consumes id issued)
    (other : ∃ issued ∈ h.own u, Consumes id issued)
    : t = u := by
  obtain ⟨issued, mem, consumes⟩ := one
  obtain ⟨issued', mem', consumes'⟩ := other
  obtain ⟨noted, thread⟩ := mem_own.mp mem
  obtain ⟨logged', thread'⟩ := mem_own.mp mem'
  cases orderly.consumedOnce noted logged' consumes consumes'
  exact thread.symm.trans thread'

theorem status_of_deciding {decision : Decision} (deciding : Deciding (h.own u) id decision)
    (mem : row ∈ rows h.state) (same : row.authorizationRequestId = id)
    : row.status = .deciding := by
  obtain ⟨row', mem', same', status⟩ := orderly.deciding deciding
  cases orderly.keyed.eq_of_key mem mem' (same.trans same'.symm)
  exact status

theorem status_of_consuming (consuming : Consuming (h.own u) id)
    (mem : row ∈ rows h.state) (same : row.authorizationRequestId = id)
    : row.status = .consuming := by
  obtain ⟨row', mem', same', status⟩ := orderly.consuming consuming
  cases orderly.keyed.eq_of_key mem mem' (same.trans same'.symm)
  exact status

inductive Moved (trace : Trace env) (cmd : Command) (old new : Row) : Prop where
  | stays (same : new = old)
  | claimed (before : old.status = .pending) (after : new.status = .deciding)
      (verified : Verified env old)
  | expired (before : old.status = .authorized) (after : new.status = .expired)
  | consumed (before : old.status = .authorized) (after : new.status = .consuming)
  | settled (decision : Decision) (fields : List Assignment) (before : old.status = .deciding)
      (after : new.status ∈ ToolAuthorization.settled)
      (deciding : Deciding trace old.authorizationRequestId decision)
      (settling : Settling decision fields)
      (updates : cmd = .update old.authorizationRequestId fields)
      (approved : new.status = .authorized → decision = .approved ∧ .status .authorized ∈ fields)
  | finished (fields : List Assignment) (before : old.status = .consuming)
      (after : new.status ∈ ToolAuthorization.finished)
      (consuming : Consuming trace old.authorizationRequestId) (finishing : Finishing fields)
      (updates : cmd = .update old.authorizationRequestId fields)

/-- Owners find the row as they left it, so progress is from one status to the next. -/
theorem moved {new : Row} (mem : row ∈ rows h.state)
    (step : Progress (h.own t) cmd row new)
    : Moved (h.own t) cmd row new := by
  cases step with
  | same => exact .stays rfl
  | claim decision subject method pending verified => exact .claimed pending rfl verified
  | expire authorized => exact .expired authorized rfl
  | consume consumptionId startedAt authorized => exact .consumed authorized rfl
  | settle decision fields deciding settling updates =>
    exact .settled decision fields (orderly.status_of_deciding deciding mem rfl)
      (settling.status row).1 deciding settling updates (settling.status row).2
  | finish fields consuming finishing updates =>
    exact .finished fields (orderly.status_of_consuming consuming mem rfl)
      (finishing.status row) consuming finishing updates

end Orderly

/-- Whoever is deciding after a step was deciding before it, or has just claimed the row. -/
theorem Deciding.before (deciding : Deciding ((h.exec t cmd).own u) id decision)
    : Deciding (h.own u) id decision ∧ (u = t → ¬ UpdatesTo id settled ⟨t, cmd, h.state⟩)
      ∨ ∃ subject method, Moves id .pending .deciding (claimFields decision subject method)
          (⟨t, cmd, h.state⟩ : Issued (store env)) := by
  by_cases same : u = t
  · subst same
    obtain ⟨⟨issued, mem, records⟩, unsettled⟩ := deciding
    rw [own_exec_self] at mem unsettled
    rcases mem_cons.mp mem with rfl | prior
    · exact .inr records
    · refine .inl ⟨⟨⟨issued, prior, records⟩, fun other old => ?_⟩, fun _ => ?_⟩
      · exact unsettled other (.tail _ old)
      · exact unsettled _ (.head _)
  · rw [own_exec_of_ne h (Ne.symm same)] at deciding
    exact .inl ⟨deciding, fun equal => absurd equal same⟩

/-- Whoever is consuming after a step was consuming before it, or has just consumed the row. -/
theorem Consuming.before (consuming : Consuming ((h.exec t cmd).own u) id)
    : Consuming (h.own u) id ∧ (u = t → ¬ UpdatesTo id finished ⟨t, cmd, h.state⟩)
      ∨ Consumes id (⟨t, cmd, h.state⟩ : Issued (store env)) := by
  by_cases same : u = t
  · subst same
    obtain ⟨⟨issued, mem, consumes⟩, unfinished⟩ := consuming
    rw [own_exec_self] at mem unfinished
    rcases mem_cons.mp mem with rfl | prior
    · exact .inr consumes
    · refine .inl ⟨⟨⟨issued, prior, consumes⟩, fun other old => ?_⟩, fun _ => ?_⟩
      · exact unfinished other (.tail _ old)
      · exact unfinished _ (.head _)
  · rw [own_exec_of_ne h (Ne.symm same)] at consuming
    exact .inl ⟨consuming, fun equal => absurd equal same⟩

theorem At.of_moves {fromStatus toStatus : Status}
    (moves : Moves id fromStatus toStatus fields (⟨t, cmd, h.state⟩ : Issued (store env)))
    : At (h.exec t cmd).state id
        (fun row => ∃ old : Row, old.status = fromStatus
          ∧ row = old.setAll (.status toStatus :: fields)) := by
  obtain ⟨issues, row, mem, same, status⟩ := moves
  obtain rfl : cmd = .transition id fromStatus toStatus fields := issues
  refine ⟨_, @rewrite_mem env _ (.transition id fromStatus toStatus fields) _ mem, ?_,
    row, status, ?_⟩
  · exact (rewrite_id _ row).trans same
  · simp [rewrite, inStatus, same, status]

/-- A step that consumes a row assigns no status but the transition's. -/
theorem Consumes.moves {other : Text} (promise : Promise env t id cmd h)
    (consumes : Consumes other (⟨t, cmd, h.state⟩ : Issued (store env)))
    : ∃ consumptionId startedAt,
        Moves other .authorized .consuming [.consumptionId consumptionId, .consumedAt startedAt]
          (⟨t, cmd, h.state⟩ : Issued (store env)) := by
  obtain ⟨fields, issues, found⟩ := consumes
  obtain rfl : cmd = .transition other .authorized .consuming fields := issues
  obtain ⟨rfl, shape⟩ := promise
  rcases shape with ⟨never, _⟩ | ⟨_, never, _⟩ | ⟨_, _, consumptionId, startedAt, rfl⟩
  · cases never
  · cases never
  · exact ⟨consumptionId, startedAt, rfl, found⟩

namespace Orderly

variable (orderly : Orderly h) (promise : Promise env t id cmd h)
  {other : Text} {decision : Decision} {issued : Issued (store env)}

include orderly promise

theorem exec_deciding (deciding : Deciding ((h.exec t cmd).own u) other decision)
    : At (h.exec t cmd).state other (fun row => row.status = .deciding) := by
  rcases deciding.before with ⟨before, unsettled⟩ | ⟨subject, method, moves⟩
  · refine (orderly.deciding before).exec (fun row mem same status => ?_)
    cases orderly.moved mem (progress promise mem) with
    | stays unchanged => rwa [unchanged]
    | claimed was _ _ => cases status.symm.trans was
    | expired was _ => cases status.symm.trans was
    | consumed was _ => cases status.symm.trans was
    | finished _ was _ _ _ _ => cases status.symm.trans was
    | settled decision' fields _ _ deciding' settling updates _ =>
      subst same
      have owner := orderly.decider_unique before deciding'
      exact absurd (settling.updatesTo updates) (unsettled owner)
  · obtain ⟨row, mem, same, old, _, rfl⟩ := At.of_moves moves
    exact ⟨_, mem, same, rfl⟩

theorem exec_consuming (consuming : Consuming ((h.exec t cmd).own u) other)
    : At (h.exec t cmd).state other (fun row => row.status = .consuming) := by
  rcases consuming.before with ⟨before, unfinished⟩ | ⟨fields, moves⟩
  · refine (orderly.consuming before).exec (fun row mem same status => ?_)
    cases orderly.moved mem (progress promise mem) with
    | stays unchanged => rwa [unchanged]
    | claimed was _ _ => cases status.symm.trans was
    | expired was _ => cases status.symm.trans was
    | consumed was _ => cases status.symm.trans was
    | settled _ _ was _ _ _ _ _ => cases status.symm.trans was
    | finished fields _ _ consuming' finishing updates =>
      subst same
      have owner := orderly.consumer_unique before.1 consuming'.1
      exact absurd (finishing.updatesTo updates) (unfinished owner)
  · obtain ⟨_, _, moves⟩ := Consumes.moves promise ⟨fields, moves⟩
    obtain ⟨row, mem, same, old, _, rfl⟩ := At.of_moves moves
    exact ⟨_, mem, same, rfl⟩

theorem exec_created
    : ∀ row ∈ rows (h.exec t cmd).state,
        ∃ issued ∈ (h.exec t cmd).log, Creates row issued := by
  intro row mem
  rcases mem_rows_exec mem with ⟨old, here, rfl⟩ | ⟨record, issues, rfl, free⟩
  · obtain ⟨issued, noted, record, adds, same, free⟩ := orderly.created old here
    have same' := (progress promise here).sameRequest
    refine ⟨issued, .tail _ noted, record, adds, ?_, ?_⟩
    · exact ⟨same'.id.trans same.id, same'.requestJson.trans same.requestJson,
        same'.argumentDigest.trans same.argumentDigest⟩
    · rwa [same'.id]
  · exact ⟨_, .head _, record, issues, ⟨rfl, rfl, rfl⟩, free⟩

theorem exec_verified
    : ∀ row ∈ rows (h.exec t cmd).state, row.status ≠ .pending → Verified env row := by
  intro row mem left
  rcases mem_rows_exec mem with ⟨old, here, rfl⟩ | ⟨record, _, rfl, _⟩
  · have step := progress promise here
    have verified : Verified env old := by
      cases orderly.moved here step with
      | stays unchanged =>
        rw [unchanged] at left
        exact orderly.verified old here left
      | claimed _ _ verified => exact verified
      | expired was _ => exact orderly.verified old here (by rw [was]; decide)
      | consumed was _ => exact orderly.verified old here (by rw [was]; decide)
      | settled _ _ was _ _ _ _ _ => exact orderly.verified old here (by rw [was]; decide)
      | finished _ was _ _ _ _ => exact orderly.verified old here (by rw [was]; decide)
    exact verified.of_sameRequest step.sameRequest
  · exact absurd rfl left

theorem exec_recorded (noted : issued ∈ (h.exec t cmd).log)
    (records : Records other decision issued)
    : At (h.exec t cmd).state other (fun row => row.status ≠ .pending) := by
  rcases mem_cons.mp noted with rfl | prior
  · obtain ⟨subject, method, moves⟩ := records
    obtain ⟨row, mem, same, old, _, rfl⟩ := At.of_moves moves
    exact ⟨_, mem, same, fun pending => by cases pending⟩
  · refine (orderly.recorded prior records).exec (fun row mem _ left => ?_)
    cases orderly.moved mem (progress promise mem) with
    | stays unchanged => rwa [unchanged]
    | claimed was _ _ => exact absurd was left
    | expired _ now => exact fun pending => by cases pending.symm.trans now
    | consumed _ now => exact fun pending => by cases pending.symm.trans now
    | settled _ _ _ now _ _ _ _ => exact fun pending => absurd (pending ▸ now) (by decide)
    | finished _ _ now _ _ _ => exact fun pending => absurd (pending ▸ now) (by decide)

theorem exec_consumed (noted : issued ∈ (h.exec t cmd).log)
    (consumes : Consumes other issued)
    : At (h.exec t cmd).state other (fun row => row.status ∈ spent) := by
  rcases mem_cons.mp noted with rfl | prior
  · obtain ⟨_, _, moves⟩ := Consumes.moves promise consumes
    obtain ⟨row, mem, same, old, _, rfl⟩ := At.of_moves moves
    exact ⟨_, mem, same, .head _⟩
  · refine (orderly.consumed prior consumes).exec (fun row mem _ isSpent => ?_)
    cases orderly.moved mem (progress promise mem) with
    | stays unchanged => rwa [unchanged]
    | claimed was _ _ => exact absurd (was ▸ isSpent) (by decide)
    | expired was _ => exact absurd (was ▸ isSpent) (by decide)
    | consumed was _ => exact absurd (was ▸ isSpent) (by decide)
    | settled _ _ was _ _ _ _ _ => exact absurd (was ▸ isSpent) (by decide)
    | finished _ _ now _ _ _ => exact .tail _ now

omit promise in
theorem unrecorded {decision' : Decision} (noted : issued ∈ h.log)
    (records : Records other decision issued)
    : ¬ Records other decision' (⟨t, cmd, h.state⟩ : Issued (store env)) := by
  rintro ⟨subject, method, _, row, mem, same, pending⟩
  obtain ⟨row', mem', same', left⟩ := orderly.recorded noted records
  cases orderly.keyed.eq_of_key mem mem' (same.trans same'.symm)
  exact left pending

omit promise in
theorem unconsumed (noted : issued ∈ h.log) (consumes : Consumes other issued)
    : ¬ Consumes other (⟨t, cmd, h.state⟩ : Issued (store env)) := by
  rintro ⟨fields, _, row, mem, same, authorized⟩
  obtain ⟨row', mem', same', isSpent⟩ := orderly.consumed noted consumes
  cases orderly.keyed.eq_of_key mem mem' (same.trans same'.symm)
  rw [show row.status = .authorized from authorized] at isSpent
  revert isSpent
  decide

theorem exec_approved
    : ∀ row ∈ rows (h.exec t cmd).state, row.status ∈ approvedStatuses
      → ∃ u, Approves ((h.exec t cmd).own u) row.authorizationRequestId := by
  have later {u : Nat} {other : Text} (approves : Approves (h.own u) other)
      : Approves ((h.exec t cmd).own u) other := by
    obtain ⟨⟨issued, mem, records⟩, issued', mem', updates⟩ := approves
    have grown := (own_suffix (suffix_cons _ _) u :
      h.own u <:+ (h.exec t cmd).own u).subset
    exact ⟨⟨issued, grown mem, records⟩, issued', grown mem', updates⟩
  intro row mem status
  rcases mem_rows_exec mem with ⟨old, here, rfl⟩ | ⟨record, _, rfl, _⟩
  · rw [cmd.rewrite_id old]
    have before (was : old.status ∈ approvedStatuses)
        : ∃ u, Approves ((h.exec t cmd).own u) old.authorizationRequestId := by
      obtain ⟨u, approves⟩ := orderly.approved old here was
      exact ⟨u, later approves⟩
    cases orderly.moved here (progress promise here) with
    | stays unchanged =>
      rw [unchanged] at status
      exact before status
    | claimed _ now _ => exact absurd (now ▸ status) (by decide)
    | expired was _ => exact before (by rw [was]; decide)
    | consumed was _ => exact before (by rw [was]; decide)
    | finished _ was _ _ _ _ => exact before (by rw [was]; decide)
    | settled decision fields _ now deciding _ updates approved =>
      have authorized : (cmd.rewrite old).status = .authorized := by
        revert status now
        generalize (cmd.rewrite old).status = new
        cases new <;> decide
      obtain ⟨rfl, sets⟩ := approved authorized
      obtain ⟨⟨issued, own, records⟩, _⟩ := deciding
      refine ⟨t, ⟨issued, ?_, records⟩, ⟨t, cmd, h.state⟩, ?_, fields, updates, _,
        mem_singleton.mpr rfl, sets⟩
      · rw [own_exec_self]
        exact .tail _ own
      · rw [own_exec_self]
        exact .head _
  · exact absurd status (by simp [PendingRecord.row, approvedStatuses])

/-- One promised step keeps the table in order. -/
theorem exec : Orderly (h.exec t cmd) := by
  constructor
  case keyed => exact keyed_exec cmd orderly.keyed
  case created => exact orderly.exec_created promise
  case verified => exact orderly.exec_verified promise
  case deciding => exact orderly.exec_deciding promise
  case recorded => exact orderly.exec_recorded promise
  case decidedOnce =>
    intro other decision decision' issued issued' noted logged' records records'
    rcases mem_cons.mp noted with rfl | prior
    · rcases mem_cons.mp logged' with rfl | earlier'
      · rfl
      · exact absurd records (orderly.unrecorded earlier' records')
    · rcases mem_cons.mp logged' with rfl | earlier'
      · exact absurd records' (orderly.unrecorded prior records)
      · exact orderly.decidedOnce prior earlier' records records'
  case approved => exact orderly.exec_approved promise
  case consuming => exact orderly.exec_consuming promise
  case consumed => exact orderly.exec_consumed promise
  case consumedOnce =>
    intro other issued issued' noted logged' consumes consumes'
    rcases mem_cons.mp noted with rfl | prior
    · rcases mem_cons.mp logged' with rfl | earlier'
      · rfl
      · exact absurd consumes (orderly.unconsumed earlier' consumes')
    · rcases mem_cons.mp logged' with rfl | earlier'
      · exact absurd consumes' (orderly.unconsumed prior consumes)
      · exact orderly.consumedOnce prior earlier' consumes consumes'

end Orderly

/-- The empty table is in order. -/
theorem orderly_empty : Orderly (⟨empty, []⟩ : History (store env)) := by
  constructor
  case keyed => exact Keyed.nil
  case created => exact fun row mem => absurd mem not_mem_nil
  case verified => exact fun row mem => absurd mem not_mem_nil
  case deciding => exact fun deciding => absurd deciding.1 (by simp [History.own])
  case recorded => exact fun noted => absurd noted not_mem_nil
  case decidedOnce => exact fun noted => absurd noted not_mem_nil
  case approved => exact fun row mem => absurd mem not_mem_nil
  case consuming => exact fun consuming => absurd consuming.1 (by simp [History.own])
  case consumed => exact fun noted => absurd noted not_mem_nil
  case consumedOnce => exact fun noted => absurd noted not_mem_nil

/-- Every run of promised steps keeps the table in order. -/
theorem Lives.orderly (lives : Lives env h) : Orderly h :=
  Kept.invariant lives orderly_empty (fun _ due orderly => by
    obtain ⟨id, promise⟩ := due
    exact orderly.exec promise)

end CairnStone.ToolAuthorization
