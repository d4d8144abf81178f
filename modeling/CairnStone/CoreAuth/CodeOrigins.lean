import CairnStone.CoreAuth.Runs

/-! Where authorization codes come from: every code was inserted by a call that had approved one
session, for a user who had given evidence in that session. Approvals, invites and challenges are
used once.
-/

namespace CairnStone.CoreAuth

open JavaScript Data Concurrency List Database Kept History Lives

variable {env : Env} {clients : List ClientRow} {start : Database} {h : History authStore}
  {log log' earlier earlier' : Trace} {issued issued' : Issued authStore}
  {sessionId : Text} {code : CodeRow} {status status' : SessionStatus} {t : Nat}

def Inserts (code : CodeRow) (issued : Issued authStore) : Prop :=
  issued.command = .insert (.code code) ∧ taken issued.before (.code code) = false

/-- The newest statement inserted the code, in a call that had approved the session. -/
def Gives (sessionId : Text) (code : CodeRow) : Trace → Prop
  | [] => False
  | issued :: earlier =>
    Inserts code issued
    ∧ Approves ((⟨issued.before, earlier⟩ : History authStore).own issued.thread) sessionId

def Was (start : Database) (sessionId : Text) (status : SessionStatus) (log : Trace) : Prop :=
  ∃ row ∈ sessions (stateAfter (M := authStore) start log),
    row.sessionId = sessionId ∧ row.status = status

/-- At the instant `h`, the session has gone through its three states, the code is for its user and
its request, and the user gave evidence in it.
-/
structure Earns (env : Env) (start : Database) (sessionId : Text) (code : CodeRow)
    (h : History authStore)
    : Prop where
  path
    : ∃ pending authenticated, pending <:+ authenticated ∧ authenticated <:+ h.log
      ∧ Was start sessionId .pendingAuth pending ∧ Was start sessionId .authenticated authenticated
  grants
    : ∃ session ∈ sessions h.state,
        session.sessionId = sessionId ∧ session.status = .approved ∧ session.Grants code
  evidence : Evidence env h sessionId code.accountId

structure CodesAreEarned (env : Env) (start : Database) (h : History authStore) : Prop where
  origin
    : ∀ {issued earlier code}, issued :: earlier <:+ h.log → Inserts code issued
      → ∃ sessionId, Gives sessionId code (issued :: earlier)
        ∧ Earns env start sessionId code ⟨issued.before, earlier⟩
        ∧ ∀ other, Gives other code (issued :: earlier) → other = sessionId
  once
    : ∀ {sessionId code code' log log'}, log <:+ h.log → log' <:+ h.log
      → Gives sessionId code log → Gives sessionId code' log' → log = log'
  ended
    : ∀ {sessionId code log log'}, log <:+ h.log → log' <:+ h.log
      → Was start sessionId .denied log ∨ Was start sessionId .expired log
      → ¬ Gives sessionId code log'

-- Statements in the order of the log

theorem mem_own_of_suffix (le : issued :: earlier <:+ earlier')
    : issued ∈ (⟨issued'.before, earlier'⟩ : History authStore).own issued.thread :=
  mem_own.mpr ⟨le.subset (.head _), rfl⟩

theorem Lives.approves_once (lives : Lives env start h) {other : Text}
    (first : Approves (h.own t) sessionId) (second : Approves (h.own t) other)
    : sessionId = other := by
  obtain ⟨issued, mem, command, _⟩ := first
  obtain ⟨issued', mem', command', _⟩ := second
  obtain ⟨noted, rfl⟩ := mem_own.mp mem
  obtain ⟨noted', thread⟩ := mem_own.mp mem'
  obtain ⟨earlier, le, _, due⟩ := at_issued lives noted
  obtain ⟨earlier', le', _, due'⟩ := at_issued lives noted'
  rw [command] at due
  rw [command'] at due'
  rcases suffix_cases le le' with same | before | before
  · rw [(cons.inj same).1, command'] at command
    exact (Command.approveSession.inj command).symm
  · exact absurd command (due' issued (thread ▸ mem_own_of_suffix before) _)
  · exact absurd command' (due issued' (thread ▸ mem_own_of_suffix before) _)

-- The states of a session

theorem Lives.stays_closed (lives : Lives env (First clients) h) (le : log <:+ log')
    (le' : log' <:+ h.log) (was : Was (First clients) sessionId status log)
    (was' : Was (First clients) sessionId status' log')
    (closed : status ≠ .pendingAuth ∧ status ≠ .authenticated)
    : status' = status := by
  obtain ⟨row, mem, id, rfl⟩ := was
  obtain ⟨row', mem', id', rfl⟩ := was'
  obtain ⟨next, present, becomes⟩ :=
    (lives.instant (le.trans le')).session_later (lives.instant le') le mem
  have one : next = row' := by
    refine (lives.instant le').lawful.sessions.eq_of_key present mem' ?_
    rw [becomes.columns]
    exact id.trans id'.symm
  rcases becomes.progress with same | pending | ⟨authenticated, _⟩
  · rw [← one, same]
  · exact absurd pending closed.1
  · exact absurd authenticated closed.2

def SessionRow.IsOpen (session : SessionRow) : Prop :=
  session.status = .pendingAuth ∨ session.status = .authenticated

theorem SessionRow.Becomes.closed {a b : SessionRow} (becomes : a.Becomes b)
    : b.sessionId = a.sessionId ∧ (¬ a.IsOpen → ¬ b.IsOpen) := by
  refine ⟨by rw [becomes.columns], fun closed stillOpen => ?_⟩
  rcases becomes.progress with same | pending | ⟨authenticated, _⟩
  · exact closed (by rwa [SessionRow.IsOpen, same] at stillOpen)
  · exact closed (.inl pending)
  · exact closed (.inr authenticated)

/-- The approval of a session: it was authenticated before, and is approved after. -/
theorem Lives.approval (lives : Lives env (First clients) h)
    (approves : Approves (h.own t) sessionId)
    : ∃ issued earlier, issued :: earlier <:+ h.log ∧ issued.thread = t
      ∧ issued.Uses (M := authStore) sessions (·.sessionId) SessionRow.IsOpen sessionId
      ∧ Was (First clients) sessionId .authenticated earlier
      ∧ Was (First clients) sessionId .approved (issued :: earlier) := by
  obtain ⟨issued, mem, command, row, present, rfl, authenticated⟩ := approves
  obtain ⟨noted, thread⟩ := mem_own.mp mem
  obtain ⟨earlier, le, before, _⟩ := at_issued lives noted
  have now : issued.before = stateAfter (M := authStore) (First clients) earlier := before.state
  have approved : { row with status := .approved }
      ∈ sessions (exec issued.command issued.before).2 := by
    rw [command]
    exact mem_updateWhere.mpr ⟨row, present, by simp [authenticated]⟩
  exact ⟨issued, earlier, le, thread,
    ⟨⟨row, present, rfl, .inr authenticated⟩, _, approved, rfl, by simp [SessionRow.IsOpen]⟩,
    ⟨row, now ▸ present, rfl, authenticated⟩, _, approved, rfl, rfl⟩

theorem Lives.pending (lives : Lives env (First clients) h)
    : ∀ row ∈ sessions h.state,
        ∃ log, log <:+ h.log ∧ Was (First clients) row.sessionId .pendingAuth log := by
  refine invariant
    (J := fun h => ∀ row ∈ sessions h.state,
      ∃ log, log <:+ h.log ∧ Was (First clients) row.sessionId .pendingAuth log)
    lives (forall_mem_nil _) ?_
  intro g t cmd _ due known row mem
  rcases (revises_sessions _ g.state).mem .refl mem with ⟨old, present, steps⟩ | ⟨rfl, _⟩
  · obtain ⟨log, le, was⟩ := known old present
    rw [steps.becomes.columns]
    exact ⟨log, le.trans (suffix_cons _ _), was⟩
  · exact ⟨_, suffix_refl _, row, mem, rfl, due.2.1⟩

/-- The user of a session gave evidence in it. -/
theorem Lives.evidenced (lives : Lives env (First clients) h)
    : ∀ row ∈ sessions h.state, ∀ accountId, row.accountId = some accountId
        → Evidence env h row.sessionId accountId := by
  refine invariant
    (J := fun h => ∀ row ∈ sessions h.state, ∀ accountId, row.accountId = some accountId
      → Evidence env h row.sessionId accountId)
    lives (forall_mem_nil _) ?_
  intro g t cmd lives due known row mem accountId user
  have onward : Onward env (First clients) g (g.exec t cmd) :=
    ⟨suffix_cons _ _, lives.exec due⟩
  rcases (revises_sessions _ g.state).mem .refl mem with ⟨old, present, steps⟩ | ⟨rfl, _⟩
  · rw [steps.becomes.columns]
    rcases steps.account with same | ⟨authentication, rfl, given⟩
    · exact (known old present accountId (same ▸ user)).later lives onward
    · rw [given] at user
      cases user
      exact Evidence.later due lives onward
  · rw [due.2.2.1] at user
    cases user

-- Codes

theorem Lives.given (lives : Lives env (First clients) h) (le : log <:+ h.log)
    (gives : Gives sessionId code log)
    : ∃ issued earlier approval before, log = issued :: earlier
      ∧ issued.command = .insert (.code code) ∧ approval :: before <:+ earlier
      ∧ approval.thread = issued.thread
      ∧ (∀ other ∈ (⟨issued.before, earlier⟩ : History authStore).own issued.thread,
          ∀ row, other.command ≠ .insert (.code row))
      ∧ approval.Uses (M := authStore) sessions (·.sessionId) SessionRow.IsOpen sessionId
      ∧ Was (First clients) sessionId .approved (approval :: before) := by
  cases log with
  | nil => cases gives
  | cons issued earlier =>
    obtain ⟨⟨command, _⟩, approves⟩ := gives
    obtain ⟨lives', due, _⟩ := (lives.instant le).before
    rw [command] at due
    obtain ⟨_, _, _, _, _, only⟩ := due
    obtain ⟨approval, before, le', thread, uses, _, became⟩ := approval lives' approves
    exact ⟨issued, earlier, approval, before, rfl, command, le', thread, only, uses, became⟩

theorem Lives.origin (lives : Lives env (First clients) h) (le : issued :: earlier <:+ h.log)
    (inserts : Inserts code issued)
    : ∃ sessionId, Gives sessionId code (issued :: earlier)
      ∧ Earns env (First clients) sessionId code ⟨issued.before, earlier⟩
      ∧ ∀ other, Gives other code (issued :: earlier) → other = sessionId := by
  obtain ⟨lives', due, _⟩ := (lives.instant le).before
  rw [inserts.1] at due
  obtain ⟨session, present, approved, grants, approves, _⟩ := due
  refine ⟨session.sessionId, ⟨inserts, approves⟩, ⟨?_, ⟨session, present, rfl, approved, grants⟩,
    evidenced lives' session present _ grants.accountId⟩,
    fun other gives => approves_once lives' gives.2 approves⟩
  obtain ⟨_, before, le', _, _, was, _⟩ := approval lives' approves
  have sooner : before <:+ earlier := (suffix_cons _ _).trans le'
  obtain ⟨row, mem, id, status⟩ := was
  obtain ⟨pending, le'', began⟩ := (instant lives' sooner).pending row mem
  exact ⟨pending, before, le'', sooner, id ▸ began, row, mem, id, status⟩

/-- Every authorization code comes from one authenticated and approved session, a session has at
most one, and one that was denied or has expired has none. Witness: a call approves at most one
session, inserts at most one code, and a session is only approved while it is authenticated.
-/
theorem codesAreEarned (env : Env) (clients : List ClientRow)
    (schedule : List (Action authStore Call))
    : CodesAreEarned env (First clients) (authRun env clients schedule).history := by
  have lives := lives_authRun env clients schedule
  refine ⟨lives.origin, fun {sessionId code code' log log'} le le' gives gives' => ?once,
    fun {sessionId code log log'} le le' ended gives => ?ended⟩
  case once =>
    obtain ⟨issued, earlier, approval, before, rfl, command, within, thread, only, uses, _⟩ :=
      lives.given le gives
    obtain ⟨issued', earlier', approval', before', rfl, command', within', thread', only', uses', _⟩ :=
      lives.given le' gives'
    have same := uses_once lives (fun lives => (lawful lives).sessions) sessions_exec
      SessionRow.Becomes.closed (within.trans ((suffix_cons _ _).trans le))
      (within'.trans ((suffix_cons _ _).trans le')) uses uses'
    have threads : issued.thread = issued'.thread := by
      rw [← thread, ← thread', (cons.inj same).1]
    rcases suffix_cases le le' with same | sooner | sooner
    · exact same
    · exact absurd command (only' issued (threads ▸ mem_own_of_suffix sooner) code)
    · exact absurd command' (only issued' (threads ▸ mem_own_of_suffix sooner) code')
  case ended =>
    obtain ⟨issued, earlier, approval, before, rfl, _, within, _, _, _, became⟩ :=
      lives.given le' gives
    have place := within.trans ((suffix_cons _ _).trans le')
    rcases suffix_or_suffix_of_suffix le place with sooner | later
    · rcases ended with denied | expired
      · cases lives.stays_closed sooner place denied became (by simp)
      · cases lives.stays_closed sooner place expired became (by simp)
    · rcases ended with denied | expired
      · cases lives.stays_closed later le became denied (by simp)
      · cases lives.stays_closed later le became expired (by simp)

def Spends (inviteHash : Text) (issued : Issued authStore) : Prop :=
  (∃ sessionId, issued.command = .redeemInvite inviteHash sessionId)
  ∧ ∃ row ∈ invites issued.before, row.inviteHash = inviteHash ∧ row.status = .unused

def Answers (challengeHash : Text) (issued : Issued authStore) : Prop :=
  issued.command = .useChallenge challengeHash
  ∧ ∃ row ∈ challenges issued.before,
      row.challengeHash = challengeHash ∧ row.status = .unused

structure ProofsAreSingleUse (log : Trace) : Prop where
  invites : ∀ inviteHash, AtMostOnce (Spends inviteHash) log
  challenges : ∀ challengeHash, AtMostOnce (Answers challengeHash) log

/-- No login invite is redeemed twice and no challenge is answered twice, by whatever calls. -/
theorem proofsAreSingleUse (env : Env) (clients : List ClientRow)
    (schedule : List (Action authStore Call))
    : ProofsAreSingleUse (authRun env clients schedule).history.log := by
  have lives := lives_authRun env clients schedule
  constructor
  case invites =>
    intro inviteHash issued issued' earlier earlier' le le' spends spends'
    have uses {issued : Issued authStore} (spends : Spends inviteHash issued)
        : issued.Uses invites (·.inviteHash) (·.status = .unused) inviteHash := by
      obtain ⟨⟨sessionId, command⟩, row, mem, rfl, unused⟩ := spends
      refine ⟨⟨row, mem, rfl, unused⟩,
        { row with status := .redeemed, redeemedBySession := some sessionId }, ?_, rfl, by simp⟩
      change _ ∈ (exec issued.command issued.before).2.invites
      rw [command]
      exact mem_updateWhere.mpr ⟨row, mem, by simp [unused]⟩
    exact uses_once lives (fun lives => (lawful lives).invites) invites_exec
      (fun becomes => ⟨by rw [becomes.columns], fun used => by rwa [becomes.ended used]⟩)
      le le' (uses spends) (uses spends')
  case challenges =>
    intro challengeHash issued issued' earlier earlier' le le' answers answers'
    have uses {issued : Issued authStore} (answers : Answers challengeHash issued)
        : issued.Uses challenges (·.challengeHash) (·.status = .unused) challengeHash := by
      obtain ⟨command, row, mem, rfl, unused⟩ := answers
      refine ⟨⟨row, mem, rfl, unused⟩, { row with status := .used }, ?_, rfl, by simp⟩
      change _ ∈ (exec issued.command issued.before).2.challenges
      rw [command]
      exact mem_updateWhere.mpr ⟨row, mem, by simp [unused]⟩
    exact uses_once lives (fun lives => (lawful lives).challenges) challenges_exec
      (fun becomes => ⟨by rw [becomes.columns], becomes.ended⟩)
      le le' (uses answers) (uses answers')

end CairnStone.CoreAuth
