import CairnStone.ToolAuthorization.Decisions

/-! An authorization is worth one invocation, of what was requested, by a human's approval and
before its expiry; what has ended stays ended.
-/

namespace CairnStone.ToolAuthorization

open JavaScript Data Concurrency List History Kept Authorization

variable {env : Env} {h h' : History (store env)} {t u : Nat} {id : Text}
  {issued : Issued (store env)}

def finalStatuses : List Status :=
  [.denied, .expired, .executed, .guardFailed, .executionFailed]

/-- Every row whose status is final is there later, with that status. -/
def Final (db db' : Database) : Prop :=
  ∀ row ∈ db.rows, row.status ∈ finalStatuses
    → At db' row.authorizationRequestId (fun now => now.status = row.status)

/-- What precedes an invocation for the request `id`, with the trace up to it. -/
structure Licensed (env : Env) (id : Text) (handler args : Value) (t : Nat) (before : Database)
    (earlier : Trace env)
    : Prop where
  consumed : At before id (fun row => row.status = .consuming)
  requested
    : ∃ record created, created ∈ earlier ∧ created.command = .insertPending record
      ∧ record.authorizationRequestId = id
      ∧ (∀ old ∈ Database.rows created.before, old.authorizationRequestId ≠ id)
      ∧ argumentDigest env.toPlatform args = record.argumentDigest
      ∧ args = (requestOf env record.row).arguments
      ∧ handler = (requestOf env record.row).target.get (text "handler")
  approved : ∃ issued ∈ earlier, Records id .approved issued
  undenied : ∀ issued ∈ earlier, ¬ Records id .denied issued
  unexpired
    : ∃ expiresAt, At before id (fun row => row.expiresAt = some expiresAt)
      ∧ ∃ check ∈ earlier, check.thread = t ∧ check.command = .dateNow .expiryCheck
        ∧ env.clock (Database.steps check.before) < expiresAt

/-- The thread serves a call about the request. -/
def serves (config : Config (store env) Call Text Value) (id : Text) (t : Nat) : Bool :=
  (config.call t).map Call.requestId == some id

/-- One invocation at most, and each one licensed. -/
structure OneTime (config : Config (store env) Call Text Value) (id : Text) : Prop where
  once
    : config.history.log.countP (fun issued => invokes issued && serves config id issued.thread) ≤ 1
  licensed
    : ∀ {issued earlier handler args},
        issued :: earlier <:+ config.history.log → serves config id issued.thread = true
        → issued.command = .invokeTool handler args
        → Licensed env id handler args issued.thread issued.before earlier

theorem final_step {row new : Row} {cmd : Command} (orderly : Orderly h)
    (mem : row ∈ Database.rows h.state) (final : row.status ∈ finalStatuses)
    (step : Progress (h.own t) cmd row new)
    : new.status = row.status := by
  cases orderly.moved mem step with
  | stays same => rw [same]
  | claimed was _ _ => exact absurd (was ▸ final) (by decide)
  | expired was _ => exact absurd (was ▸ final) (by decide)
  | consumed was _ => exact absurd (was ▸ final) (by decide)
  | settled _ _ was _ _ _ _ _ => exact absurd (was ▸ final) (by decide)
  | finished _ was _ _ _ _ => exact absurd (was ▸ final) (by decide)

theorem Lives.final (lives : Lives env h) (lives' : Lives env h') (le : h.log <:+ h'.log)
    : Final h.state h'.state := by
  intro row mem final
  refine grow
    (J := fun g => At g.state row.authorizationRequestId (fun now => now.status = row.status))
    lives lives' le (respects_true h') ⟨row, mem, rfl, rfl⟩ ?_
  rintro g t cmd keptNow _ ⟨id, promise⟩ _ now
  refine now.exec (fun old here _ same => ?_)
  have isFinal : old.status ∈ finalStatuses := by rwa [same]
  exact (final_step (Lives.orderly keptNow) here isFinal (progress promise here)).trans same

/-- What the invoking call knows is a licence. -/
theorem licensed_of_promise {handler args : Value} (lives : Lives env h)
    (promise : Promise env t id (.invokeTool handler args) h)
    : Licensed env id handler args t h.state h.log := by
  have orderly := lives.orderly
  obtain ⟨consuming, _, row, mem, same, entitled⟩ := promise
  have status := orderly.status_of_consuming consuming mem same
  obtain ⟨made, noted, record, adds, request, free⟩ := orderly.created row mem
  have named : record.authorizationRequestId = id := request.id.symm.trans same
  have stored : (requestOf env record.row).request = (requestOf env row).request :=
    request.requestOf_request.symm
  obtain ⟨w, ⟨issued, own, records⟩, _⟩ :=
    orderly.approved row mem (by rw [status]; decide)
  have approved : issued ∈ h.log := (mem_own.mp own).1
  obtain ⟨expiresAt, expires, check, checks, reads, ahead⟩ := entitled.unexpired
  rw [same] at records
  constructor
  case consumed => exact ⟨row, mem, same, status⟩
  case requested =>
    refine ⟨record, made, noted, adds, named, ?_, ?_, ?_, ?_⟩
    · rwa [← same]
    · have digest := entitled.verified.digest
      rw [← entitled.arguments, request.argumentDigest] at digest
      exact digest
    · rw [entitled.arguments, arguments, arguments,
        target, target, stored]
    · rw [entitled.handler, target, target, stored]
  case approved => exact ⟨issued, approved, records⟩
  case undenied =>
    intro other prior denied
    cases orderly.decidedOnce approved prior records denied
    obtain ⟨subject, method, moves, _⟩ := records
    obtain ⟨subject', method', moves', _⟩ := denied
    have both := moves.symm.trans moves'
    simp [claimFields] at both
  case unexpired =>
    obtain ⟨noted, thread⟩ := mem_own.mp checks
    exact ⟨expiresAt, ⟨row, mem, same, expires⟩, check, noted, thread, reads, ahead⟩

theorem authorization_promised (acts : List (Action (store env) Call))
    {prior : Trace env}
    (le : issued :: prior <:+ (authorizationRun env acts).history.log)
    : ∃ call, (authorizationRun env acts).call issued.thread = some call
      ∧ Lives env ⟨issued.before, prior⟩
      ∧ Promise env issued.thread call.requestId issued.command ⟨issued.before, prior⟩ :=
  (agreement env).promised_at owes_body nil acts le

theorem authorization_lives (acts : List (Action (store env) Call))
    : Lives env (authorizationRun env acts).history :=
  ((agreement env).sound owes_body nil acts).inv

/-- An invocation is by the consumer of the request that it is for, and its first one. -/
theorem promise_of_invokes (acts : List (Action (store env) Call)) {prior : Trace env}
    (le : issued :: prior <:+ (authorizationRun env acts).history.log)
    (invoked : invokes issued = true)
    : (∀ id, serves (authorizationRun env acts) id issued.thread = true
        → ∃ consumed ∈ (authorizationRun env acts).history.own issued.thread,
          Consumes id consumed)
      ∧ (prior.filter (·.thread == issued.thread)).countP invokes = 0 := by
  obtain ⟨call, asked, _, promise⟩ := authorization_promised acts le
  unfold invokes at invoked
  split at invoked
  · rename_i handler args invocation
    rw [show issued.command = .invokeTool handler args from invocation] at promise
    obtain ⟨⟨⟨consumed, own, consumes⟩, _⟩, uninvoked, _⟩ := promise
    refine ⟨fun id served => ⟨consumed, ?_, ?_⟩, uninvoked⟩
    · obtain ⟨noted, thread⟩ := mem_own.mp own
      exact mem_own.mpr ⟨le.subset (.tail _ noted), thread⟩
    · rw [serves, asked] at served
      obtain rfl : call.requestId = id := by simpa using served
      exact consumes
  · cases invoked

/-- A call invokes at most once. Witness: induction on the part of the log so far; a further
invocation finds none of its call.
-/
theorem own_invokes_le_one (acts : List (Action (store env) Call)) (t : Nat) {log : Trace env}
    (le : log <:+ (authorizationRun env acts).history.log)
    : (log.filter (·.thread == t)).countP invokes ≤ 1 := by
  induction log with
  | nil => exact Nat.zero_le 1
  | cons issued prior ih =>
    have before := ih ((suffix_cons _ _).trans le)
    by_cases own : issued.thread = t
    · rw [filter_cons_of_pos (by simpa using own), countP_cons]
      cases invoked : invokes issued with
      | false => simpa using before
      | true =>
        have first := (promise_of_invokes acts le invoked).2
        rw [own] at first
        simp [first]
    · rwa [filter_cons_of_neg (by simpa using own)]

/-- Calls about one request invoke at most once together. Witness: an invocation is preceded by a
consumption of its call, and the request is consumed once.
-/
theorem invokes_once (acts : List (Action (store env) Call)) (id : Text)
    : (authorizationRun env acts).history.log.countP
        (fun issued => invokes issued && serves (authorizationRun env acts) id issued.thread)
      ≤ 1 := by
  have orderly := (authorization_lives acts).orderly
  have consumer {issued : Issued (store env)}
      (mem : issued ∈ (authorizationRun env acts).history.log)
      (hit
        : (invokes issued && serves (authorizationRun env acts) id issued.thread) = true)
      : invokes issued = true
        ∧ ∃ consumed ∈ (authorizationRun env acts).history.own issued.thread,
          Consumes id consumed := by
    obtain ⟨invoked, served⟩ := Bool.and_eq_true_iff.mp hit
    obtain ⟨later, prior, split⟩ := append_of_mem mem
    exact ⟨invoked, (promise_of_invokes acts ⟨later, split.symm⟩ invoked).1 id served⟩
  by_cases any
    : ∃ issued ∈ (authorizationRun env acts).history.log,
        (invokes issued && serves (authorizationRun env acts) id issued.thread) = true
  · obtain ⟨first, mem, hit⟩ := any
    have ours := (consumer mem hit).2
    calc (authorizationRun env acts).history.log.countP
          (fun issued =>
            invokes issued && serves (authorizationRun env acts) id issued.thread)
        ≤ (authorizationRun env acts).history.log.countP
            (fun issued => invokes issued && (issued.thread == first.thread)) := by
          refine countP_mono_left (fun issued noted holds => ?_)
          obtain ⟨invoked, theirs⟩ := consumer noted holds
          have same := orderly.consumer_unique theirs ours
          simp [invoked, same]
      _ = ((authorizationRun env acts).history.log.filter
            (·.thread == first.thread)).countP invokes := by
          rw [countP_filter]
      _ ≤ 1 := own_invokes_le_one acts first.thread (suffix_refl _)
  · have none : (authorizationRun env acts).history.log.countP
        (fun issued => invokes issued && serves (authorizationRun env acts) id issued.thread)
        = 0 :=
      countP_eq_zero.mpr (fun issued mem hit => any ⟨issued, mem, hit⟩)
    omega

/-- For every interleaving of requests, decisions and executions, and whatever the dependencies
answer, an authorization is worth one invocation, after an approval and no denial, before its
expiry and with the arguments whose digest was stored; and what has ended stays ended.
-/
theorem authorizations_are_one_time (env : Env) (before after : List (Action (store env) Call))
    (id : Text)
    : OneTime (authorizationRun env (before ++ after)) id
      ∧ Final (authorizationRun env before).state (authorizationRun env (before ++ after)).state := by
  constructor
  · constructor
    case once => exact invokes_once (before ++ after) id
    case licensed =>
      intro issued earlier handler args le served invocation
      obtain ⟨call, asked, lives, promise⟩ := authorization_promised (before ++ after) le
      rw [serves, asked] at served
      obtain rfl : call.requestId = id := by simpa using served
      rw [invocation] at promise
      exact licensed_of_promise lives promise
  · refine (authorization_lives before).final (authorization_lives (before ++ after)) ?_
    rw [authorizationRun, authorizationRun, Config.run_append]
    exact Config.log_run _ _ after

end CairnStone.ToolAuthorization
