import CairnStone.ToolAuthorization.Executions

/-! A decision settles the row that it has claimed, and goes on as an execution at most. -/

namespace CairnStone.ToolAuthorization

open JavaScript Data Concurrency Protocol List Meets History Deciding

variable {env : Env} {h h' : History (store env)} {t : Nat} {call : Call}
  {id : Text} {decision : Decision} {fields : List Assignment} {body : DecisionBody}
  {row : Row}

theorem readDecision_id {platform : Platform} {body : Value} {decision : DecisionBody}
    (read : readDecision platform body = .ok decision)
    : decision.id = trimmed body "authorization_request_id" := by
  unfold readDecision at read
  dsimp only at read
  split at read
  · cases read
  · split at read
    · cases read
    · split at read
      · cases read
      · split at read
        · cases read
        · split at read
          · cases read
          · split at read
            · cases read
            · cases read
              rfl

theorem trimmed_literal (body : Value)
    : trimmed
        (.literal
          [(text "authorization_request_id",
            .string (trimmed body "authorization_request_id"))])
        "authorization_request_id"
      = trimmed body "authorization_request_id" := by
  have read (s : Text)
      : trimmed (.literal [(text "authorization_request_id", .string s)])
          "authorization_request_id"
        = trim s := rfl
  rw [read]
  unfold trimmed
  split
  · exact trim_trim _
  · rfl

/-- The decision is claimed and not settled; nothing else has been done yet. -/
structure Deciding.Alone (t : Nat) (id : Text) (decision : Decision) (h : History (store env))
    : Prop where
  deciding : Deciding (h.own t) id decision
  idle : Idle (h.own t) id

theorem Deciding.Alone.grown (alone : Alone t id decision h)
    (grown : FreelyGrown (h.own t) (h'.own t))
    : Alone t id decision h' :=
  ⟨grown.deciding alone.deciding, alone.idle.grown grown⟩

theorem Settling.not_finished (settling : Settling decision fields) {status : Status}
    (assigned : .status status ∈ fields)
    : status ∉ finished := by
  cases settling with
  | failed error =>
    obtain rfl : status = .authorizationFailed := by
      simpa [failureFields] using assigned
    decide
  | decided issuedAt expiresAt hash =>
    obtain rfl : status = if decision = .approved then .authorized else .denied := by
      simpa [decidedFields] using assigned
    split
    · decide
    · decide

theorem honest_settle {α : Type} (alone : Alone t call.requestId decision h)
    (settling : Settling decision fields) {rest : Unit → Program (store env) Text α}
    (next : ∀ h', Idle (h'.own t) call.requestId → Honest t call (rest ()) h')
    : Honest t call (((deps env).updateAuthorization call.requestId fields).bind rest) h := by
  refine perform_bind (fun h' moved => ⟨⟨rfl, .inl ⟨decision, ?_, settling⟩⟩, ?_⟩)
  · rw [moved.own]
    exact alone.deciding
  · refine next _ ?_
    have idle := alone.idle
    rw [own_exec_self, moved.own]
    constructor
    case unconsumed =>
      intro issued mem
      rcases mem_cons.mp mem with rfl | prior
      · rintro ⟨fields, moves, _⟩
        cases moves
      · exact idle.unconsumed issued prior
    case unfinished =>
      intro issued mem
      rcases mem_cons.mp mem with rfl | prior
      · rintro ⟨fields', updates, status, isFinished, assigned⟩
        cases updates
        exact settling.not_finished assigned isFinished
      · exact idle.unfinished issued prior
    case uninvoked =>
      rw [countP_cons, idle.uninvoked]
      rfl

theorem honest_decide (input : Value)
    (asked : body.id = trimmed input "authorization_request_id")
    (same : body.id = call.requestId) (current : Authorization)
    (alone : Alone t call.requestId body.decision h)
    : Honest t call (decide env.toPlatform (deps env) body current) h := by
  unfold ToolAuthorization.decide
  refine honest_free_bind (free_perform (.dateNow .decision) trivial) ?_
  intro issuedAt h1 _ grown1
  refine honest_free_bind (free_perform (.dateNow .decision) trivial) ?_
  intro now h2 _ grown2
  refine honest_free_bind (free_createEvidenceStone _) (fun evidence h3 _ grown3 => ?_)
  have alone3 := ((alone.grown grown1).grown grown2).grown grown3
  cases evidence with
  | error error =>
    dsimp only
    rw [same]
    exact honest_settle alone3 (.failed error) (fun h' _ => honest_done _)
  | ok hash =>
    refine honest_free_bind (free_linkEvidence _ _ _) (fun _ h4 _ grown4 => ?_)
    rw [same]
    refine honest_settle (alone3.grown grown4) (.decided issuedAt _ hash) (fun h5 idle => ?_)
    refine honest_free_bind (free_load _) (fun decided h6 _ grown6 => ?_)
    dsimp only
    split
    · refine seq (honest_execute _ ?_ (idle.grown grown6))
        (fun execution h7 _ _ => honest_done _) (fun _ _ _ _ => trivial)
      rw [← same, asked]
      exact trimmed_literal input
    · exact honest_done _

theorem Deciding.Alone.claimed {subject method : Text} (free : FreelyGrown [] (h.own t))
    (edits
      : ((store env).exec
          (.transition id .pending .deciding (claimFields decision subject method)) h.state).1
        = (1 : Nat))
    : Alone t id decision
        (h.exec t (.transition id .pending .deciding (claimFields decision subject method))) := by
  have idle : Idle (h.own t) id := Idle.nil.grown free
  have unsettled : ∀ issued ∈ h.own t, ¬ UpdatesTo id settled issued :=
    free.updatesTo (forall_mem_nil _)
  constructor
  case deciding =>
    rw [own_exec_self]
    refine ⟨⟨_, .head _, subject, method, moves_of_changes edits⟩, ?_⟩
    intro issued mem
    rcases mem_cons.mp mem with rfl | prior
    · rintro ⟨fields, updates, _⟩
      cases updates
    · exact unsettled issued prior
  case idle =>
    rw [own_exec_self]
    constructor
    case unconsumed =>
      intro issued mem
      rcases mem_cons.mp mem with rfl | prior
      · rintro ⟨fields, moves, _⟩
        cases moves
      · exact idle.unconsumed issued prior
    case unfinished =>
      intro issued mem
      rcases mem_cons.mp mem with rfl | prior
      · rintro ⟨fields, updates, _⟩
        cases updates
      · exact idle.unfinished issued prior
    case uninvoked =>
      rw [countP_cons, idle.uninvoked]
      rfl

def Examined (row : Row) (id : Text) (h : History (store env)) : Prop :=
  ∃ h0, Lives env h0 ∧ h0.log <:+ h.log ∧ row ∈ Database.rows h0.state
    ∧ row.authorizationRequestId = id ∧ Verified env row

theorem Examined.verified (examined : Examined row id h) (lives : Lives env h)
    : ∀ now ∈ Database.rows h.state, now.authorizationRequestId = id → Verified env now := by
  obtain ⟨h0, lives0, le, mem, rfl, verified⟩ := examined
  intro now here named
  obtain ⟨kept, there, same, request⟩ := row_later lives0 lives le mem
  cases lives.orderly.keyed.eq_of_key there here (same.trans named.symm)
  exact verified.of_sameRequest request

theorem honest_claimDecision (input : Value)
    (asked : body.id = trimmed input "authorization_request_id")
    (same : body.id = call.requestId) (examined : Examined row body.id h)
    (free : FreelyGrown [] (h.own t)) (current : Authorization)
    : Honest t call (claimDecision env.toPlatform (deps env) body current) h := by
  refine perform_bind (fun h' moved => ⟨?_, ?_⟩)
  · obtain ⟨h0, lives0, le, facts⟩ := examined
    refine ⟨same, .inl ⟨rfl, rfl, ⟨_, _, _, rfl⟩, ?_⟩⟩
    rw [← same]
    exact Examined.verified ⟨h0, lives0, le.trans moved.le, facts⟩ moved.inv
  · split
    · rename_i edits
      have own : FreelyGrown [] (h'.own t) := by rwa [moved.own]
      have alone := Alone.claimed own edits
      rw [same] at alone
      refine honest_decide input asked same current ?_
      rw [same]
      exact alone
    · exact honest_free_bind (free_load _) (fun current h'' _ _ => honest_done _)

theorem honest_decideLoaded (input : Value)
    (asked : body.id = trimmed input "authorization_request_id")
    (same : body.id = call.requestId) (examined : Examined row body.id h)
    (free : FreelyGrown [] (h.own t)) (current : Authorization)
    : Honest t call (decideLoaded env.toPlatform (deps env) body current) h := by
  unfold decideLoaded
  split
  · dsimp only
    split
    · exact honest_free_bind (free_parseOrThrow _) (fun _ _ _ _ => honest_done _)
    · exact honest_done _
  · exact honest_done _
  · exact honest_done _
  · exact honest_claimDecision input asked same examined free current
  · exact honest_done _

theorem honest_verifyAndDecide (input : Value)
    (asked : body.id = trimmed input "authorization_request_id")
    (same : body.id = call.requestId) {h0 : History (store env)} (lives0 : Lives env h0)
    (le : h0.log <:+ h.log) (mem : row ∈ Database.rows h0.state)
    (named : row.authorizationRequestId = body.id) (free : FreelyGrown [] (h.own t))
    : Honest t call (verifyAndDecide env.toPlatform (deps env) body (requestOf env row)) h := by
  unfold verifyAndDecide
  dsimp only
  split
  · exact honest_done _
  · rename_i wellFormed
    split
    · exact honest_done _
    · rename_i intact
      split
      · exact honest_done _
      · refine honest_free_bind (free_checkPolicy _ _) (fun registry h1 after grown => ?_)
        split
        · exact honest_done _
        · have examined (verified : Verified env row) : Examined row body.id h1 :=
            ⟨h0, lives0, le.trans after.le, mem, named, verified⟩
          refine honest_decideLoaded input asked same (examined ?_) (free.trans grown) _
          simp only [Bool.not_eq_true, Bool.not_eq_false', Bool.and_eq_true] at wellFormed
          simp only [Bool.or_eq_true, decide_eq_true_eq, Bool.not_eq_true', not_or, ne_eq,
            Decidable.not_not, Bool.not_eq_false] at intact
          exact ⟨wellFormed.1.2, wellFormed.2, intact.1, intact.2⟩

theorem honest_authorize (body : Value)
    (same : trimmed body "authorization_request_id" = call.requestId)
    (fresh : h.own t = [])
    : Honest t call (authorizeToolRequestFromBody env.toPlatform (deps env) body) h := by
  unfold authorizeToolRequestFromBody
  split
  · exact honest_done _
  · rename_i decision read
    have asked := readDecision_id read
    unfold load
    refine bind (select_bind (fun h1 moved => ?_))
    refine Meets.done (fun h2 moved' => ?_)
    dsimp only
    split
    · exact honest_done _
    · rename_i authorization found
      obtain ⟨row, there, rfl⟩ := Option.map_eq_some_iff.mp found
      obtain ⟨mem, named⟩ := mem_of_find there
      have stays : h2.own t = [] := (moved'.own.trans moved.own).trans fresh
      refine honest_verifyAndDecide body asked (asked.trans same) moved.inv moved'.le mem named
        ?_
      rw [stays]
      exact .refl _

theorem honest_persistPending (record : PendingRecord)
    : Honest t (.persistPending record) (Call.body env (.persistPending record)) h := by
  refine perform_bind (fun h' _ => ⟨rfl, ?_⟩)
  refine honest_free_bind (free_load _) (fun current h'' _ _ => ?_)
  split
  · exact honest_done _
  · split
    · exact honest_done _
    · exact honest_done _

/-- Every call keeps its promises. -/
theorem owes_body (t : Nat) (call : Call) (h : History (store env)) (_ : Lives env h)
    (fresh : h.own t = [])
    : Obliged t call (call.body env) (Protocol.Anything t call h.state) h := by
  cases call with
  | persistPending record => exact honest_persistPending record
  | authorize body => exact honest_authorize body rfl fresh
  | execute body =>
    refine honest_execute body rfl ?_
    rw [fresh]
    exact Idle.nil

end CairnStone.ToolAuthorization
