import CairnStone.CoreAuth.Calls
import CairnStone.CoreAuth.Effects

/-! What every call promises about the statements it issues, in any interleaving: a refresh token
is inserted on the strength of a new family or of a token marked rotated, a code for a session
that the same call has approved, and a session is authenticated on evidence.
-/

namespace CairnStone.CoreAuth

open JavaScript Data Concurrency Protocol Database Meets Protocol.After

variable {refusal : Refusal}

/-- Executed statements, the newest first. -/
abbrev Trace := List (Issued authStore)

def addsRefreshToken (tokenFamilyId : Text) (issued : Issued authStore) : Bool :=
  match issued.command with
  | .insert (.refreshToken row) =>
    row.tokenFamilyId == tokenFamilyId
    && !Database.taken issued.before (.refreshToken row)
  | _ => false

def permitsRefreshToken (tokenFamilyId : Text) (issued : Issued authStore) : Bool :=
  match issued.command with
  | .insert (.family row) =>
    row.tokenFamilyId == tokenFamilyId && !Database.taken issued.before (.family row)
  | .markRotated tokenHash =>
    (Database.refreshTokens issued.before).any (fun row =>
      row.tokenHash == tokenHash && row.tokenFamilyId == tokenFamilyId)
  | _ => false

def Credit (tokenFamilyId : Text) (trace : Trace) : Prop :=
  trace.countP (addsRefreshToken tokenFamilyId) < trace.countP (permitsRefreshToken tokenFamilyId)

def Approves (trace : Trace) (sessionId : Text) : Prop :=
  ∃ issued ∈ trace, issued.command = .approveSession sessionId
    ∧ ∃ row ∈ Database.sessions issued.before,
        row.sessionId = sessionId ∧ row.status = .authenticated

def Consumes (trace : Trace) (sessionId : Text) (purpose : ChallengePurpose)
    (challengeHash : Text)
    : Prop :=
  ∃ issued ∈ trace, issued.command = .useChallenge challengeHash
    ∧ ∃ row ∈ Database.challenges issued.before,
        row.challengeHash = challengeHash ∧ row.status = .unused ∧ row.purpose = purpose
        ∧ row.sessionId = sessionId

inductive Evidence (env : Env) (h : History authStore) (sessionId accountId : Text) : Prop where
  | invite (row : InviteRow) (mem : row ∈ Database.invites h.state)
      (redeemed : row.status = .redeemed) (session : row.redeemedBySession = some sessionId)
      (target : row.targetAccountId = accountId)
  | passkey (row : PasskeyRow) (mem : row ∈ Database.passkeys h.state)
      (owner : row.accountId = accountId) (assertion : Assertion)
      (credential : assertion.credentialId = row.credentialId)
      (key : assertion.publicKey = row.publicKey) (signCount : Nat)
      (verified : env.verifyAssertion assertion = .ok signCount)
      (consumed
        : Consumes h.log sessionId .assertion (hashSecret env assertion.expectedChallenge))

/-- The code is for the user and the request of the session. -/
structure SessionRow.Grants (session : SessionRow) (code : CodeRow) : Prop where
  accountId : session.accountId = some code.accountId
  tenantId : session.tenantId = some code.tenantId
  clientId : session.clientId = code.clientId
  redirectUri : session.redirectUri = code.redirectUri
  codeChallenge : session.codeChallenge = code.codeChallenge
  resource : session.resource = code.resource
  scopes : session.scopes = code.scopes
  iss : session.iss = code.iss

def TokenFamilyRow.Stamped (family : TokenFamilyRow) (start : Database)
    (h : History authStore)
    : Prop :=
  Seen (M := authStore) start
    (fun db => ∃ account ∈ Database.accounts db,
      account.accountId = family.accountId ∧ account.authzVersion = family.authzVersion) h

def TokenFamilyRow.Homed (family : TokenFamilyRow) (db : Database) : Prop :=
  ∃ membership ∈ db.memberships, membership.key = (family.accountId, family.tenantId)

/-- The family is of a connection that was for the same tenant. -/
def TokenFamilyRow.Connected (family : TokenFamilyRow) (start : Database)
    (h : History authStore)
    : Prop :=
  Seen (M := authStore) start
    (fun db => ∃ connection ∈ Database.connections db,
      connection.connectionId = family.connectionId ∧ connection.tenantId = family.tenantId) h

def RowPromise (start : Database) (t : Nat) (h : History authStore) : Row → Prop
  | .family row =>
    row.status = .active ∧ row.Stamped start h ∧ row.Homed h.state ∧ row.Connected start h
  | .refreshToken row =>
    (∃ family ∈ Database.families h.state, family.tokenFamilyId = row.tokenFamilyId)
    ∧ Credit row.tokenFamilyId (h.own t)
  | .challenge row => row.sessionId ≠ []
  | .session row =>
    row.sessionId ≠ [] ∧ row.status = .pendingAuth ∧ row.accountId = none
    ∧ parseScopes row.scopes = row.scopes
  | .code row =>
    ∃ session ∈ Database.sessions h.state, session.status = .approved ∧ session.Grants row
      ∧ Approves (h.own t) session.sessionId
      ∧ ∀ issued ∈ h.own t, ∀ other, issued.command ≠ .insert (.code other)
  | _ => True

def Promise (env : Env) (start : Database) (t : Nat) (cmd : Command) (h : History authStore)
    : Prop :=
  match cmd with
  | .insert row => RowPromise start t h row
  | .markRotated tokenHash => ∃ row ∈ Database.refreshTokens h.state, row.tokenHash = tokenHash
  | .authenticateSession sessionId authentication =>
    Evidence env h sessionId authentication.accountId
  | .approveSession _ => ∀ issued ∈ h.own t, ∀ other, issued.command ≠ .approveSession other
  | _ => True

abbrev authProtocol (env : Env) (start : Database) : Protocol authStore Call :=
  Protocol.promising (M := authStore) start (Promise env start)

/-- From `h` on, the program keeps every promise and answers as required. -/
abbrev Obliged (env : Env) (start : Database) (t : Nat) (call : Call) {α : Type} (p : Auth α)
    (Q : Except Failure α → History authStore → Prop) (h : History authStore)
    : Prop :=
  (authProtocol env start).Meets t call p Q h

/-- Other calls have taken steps. -/
abbrev Later (env : Env) (start : Database) (t : Nat) (h h' : History authStore) : Prop :=
  (authProtocol env start).Interference t h h'

abbrev Lives (env : Env) (start : Database) (h : History authStore) : Prop :=
  Kept (M := authStore) start (Promise env start) h

variable {env : Env} {start : Database} {t : Nat} {call : Call} {α β : Type}
  {h h' h'' : History authStore}

/-- Rows go on through a run as they go on through each statement.
Witness: induction on the part of the log in between.
-/
theorem Continues.through {γ : Type} {column : Database → List γ} {related : γ → γ → Prop}
    (transitive : ∀ {a b c}, related a b → related b c → related a c)
    (step
      : ∀ cmd db, Continues related (column db) (column (exec cmd db).2))
    (lives : Lives env start h) (lives' : Lives env start h') (le : h.log <:+ h'.log) {row : γ}
    (related' : related row row) (mem : row ∈ column h.state)
    : ∃ row' ∈ column h'.state, related row row' := by
  refine Kept.state_grow (R := fun db : Database => ∃ row' ∈ column db, related row row')
    lives lives' le ⟨row, mem, related'⟩ ?_
  rintro db cmd ⟨row', here, soFar⟩
  obtain ⟨row'', present', next⟩ := step cmd db row' here
  exact ⟨row'', present', transitive soFar next⟩

/-- Every earlier instant of a run is a run. -/
theorem Lives.instant (lives : Lives env start h) {log : Trace} (le : log <:+ h.log)
    : Lives env start ⟨stateAfter (M := authStore) start log, log⟩ :=
  Kept.earlier lives le

section

variable (lives : Lives env start h) (lives' : Lives env start h') (le : h.log <:+ h'.log)
include lives lives' le

theorem Lives.account_later {row : AccountRow} (mem : row ∈ accounts h.state)
    : ∃ row' ∈ accounts h'.state, row.Becomes row' :=
  Continues.through .trans accounts_exec lives lives' le (.refl row) mem

theorem Lives.membership_later {row : MembershipRow} (mem : row ∈ memberships h.state)
    : ∃ row' ∈ memberships h'.state, row.Becomes row' :=
  Continues.through .trans memberships_exec lives lives' le (.refl row) mem

theorem Lives.connection_later {row : ConnectionRow} (mem : row ∈ connections h.state)
    : ∃ row' ∈ connections h'.state, row.Becomes row' :=
  Continues.through .trans connections_exec lives lives' le (.refl row) mem

theorem Lives.family_later {row : TokenFamilyRow} (mem : row ∈ families h.state)
    : ∃ row' ∈ families h'.state, row.Becomes row' :=
  Continues.through .trans families_exec lives lives' le (.refl row) mem

theorem Lives.accessToken_later {row : AccessTokenRow}
    (mem : row ∈ accessTokens h.state)
    : ∃ row' ∈ accessTokens h'.state, row.Becomes row' :=
  Continues.through .trans accessTokens_exec lives lives' le (.refl row) mem

theorem Lives.refreshToken_later {row : RefreshTokenRow}
    (mem : row ∈ refreshTokens h.state)
    : ∃ row' ∈ refreshTokens h'.state, row.Becomes row' :=
  Continues.through .trans refreshTokens_exec lives lives' le (.refl row) mem

theorem Lives.passkey_later {row : PasskeyRow} (mem : row ∈ passkeys h.state)
    : ∃ row' ∈ passkeys h'.state, row.Becomes row' :=
  Continues.through .trans passkeys_exec lives lives' le (.refl row) mem

theorem Lives.challenge_later {row : ChallengeRow} (mem : row ∈ challenges h.state)
    : ∃ row' ∈ challenges h'.state, row.Becomes row' :=
  Continues.through .trans challenges_exec lives lives' le (.refl row) mem

theorem Lives.invite_later {row : InviteRow} (mem : row ∈ invites h.state)
    : ∃ row' ∈ invites h'.state, row.Becomes row' :=
  Continues.through .trans invites_exec lives lives' le (.refl row) mem

theorem Lives.session_later {row : SessionRow} (mem : row ∈ sessions h.state)
    : ∃ row' ∈ sessions h'.state, row.Becomes row' :=
  Continues.through .trans sessions_exec lives lives' le (.refl row) mem

end

/-- Unique columns are unique throughout a run. -/
theorem Lives.lawful {clients : List ClientRow}
    (lives : Lives env (initial clients) h)
    : Lawful h.state :=
  lives.invariant (J := fun h => Lawful h.state) (lawful_initial clients)
    (fun _ _ lawful => lawful.exec _)

theorem Later.le (later : Later env start t h h') : h.log <:+ h'.log :=
  Protocol.After.le later.toAfter

theorem Later.lives (later : Later env start t h h') : Lives env start h' :=
  inv later.toAfter

/-- The run has gone on, by steps of any call. -/
abbrev Onward (env : Env) (start : Database) (h h' : History authStore) : Prop :=
  (authProtocol env start).After h h'

theorem Onward.le (onward : Onward env start h h') : h.log <:+ h'.log :=
  Protocol.After.le onward

theorem Onward.lives (onward : Onward env start h h') : Lives env start h' :=
  inv onward

theorem Onward.trans (onward : Onward env start h h') (onward' : Onward env start h' h'')
    : Onward env start h h'' :=
  Protocol.After.trans onward onward'

theorem Onward.later (onward : Onward env start h h') (later : Later env start t h' h'')
    : Onward env start h h'' :=
  Protocol.After.trans onward later.toAfter

theorem Later.onward (later : Later env start t h h') : Onward env start h h' :=
  later.toAfter

/-- A statement goes on with the run. -/
theorem Onward.perform (call : Call) (onward : Onward env start h h') {cmd : Command}
    (promise : Promise env start t cmd h')
    : Onward env start h (h'.exec t cmd) :=
  exec call onward promise

variable {Q : Except Failure α → History authStore → Prop} {g : β → Auth α}

theorem owes_select_bind {f : Database → β}
    (next
      : ∀ h', Later env start t h h' → Obliged env start t call (g (f h'.state)) Q h')
    : Obliged env start t call ((select f).bind g) Q h :=
  select_bind next

theorem owes_refuse (post : ∀ h', Later env start t h h' → Q (.error (.refused refusal)) h')
    : Obliged env start t call (refuse refusal) Q h :=
  fail post

theorem owes_require_bind {found : Option β}
    (some : ∀ value, found = some value → Obliged env start t call (g value) Q h)
    (none
      : found = none → ∀ h', Later env start t h h' → Q (.error (.refused refusal)) h')
    : Obliged env start t call ((require found refusal).bind g) Q h := by
  cases found with
  | some value => exact some value rfl
  | none => exact owes_refuse (none rfl)

/-- A row is read and must be there. -/
theorem owes_fetch_bind {f : Database → Option β}
    (found
      : ∀ value h', Later env start t h h' → f h'.state = some value
        → Obliged env start t call (g value) Q h')
    (lost
      : ∀ h' h'', Later env start t h h' → f h'.state = none → Later env start t h' h''
        → Q (.error (.refused refusal)) h'')
    : Obliged env start t call
        ((select f).bind (fun row => (require row refusal).bind g)) Q h :=
  owes_select_bind (fun h' later =>
    owes_require_bind (fun value same => found value h' later same)
      (fun none h'' later' => lost h' h'' later none later'))

theorem owes_ensure_bind {cond : Prop} [Decidable cond] {g : Unit → Auth α}
    (holds : cond → Obliged env start t call (g ()) Q h)
    (fails
      : ¬ cond → ∀ h', Later env start t h h' → Q (.error (.refused refusal)) h')
    : Obliged env start t call ((ensure cond refusal).bind g) Q h := by
  unfold ensure
  split
  · rename_i cond
    exact holds cond
  · rename_i cond
    exact owes_refuse (fails cond)

theorem owes_refuseOn_bind {result : Except Refusal β}
    (ok : ∀ value, result = .ok value → Obliged env start t call (g value) Q h)
    (error : ∀ refusal h', Later env start t h h' → Q (.error (.refused refusal)) h')
    : Obliged env start t call ((refuseOn result).bind g) Q h := by
  cases result with
  | ok value => exact ok value rfl
  | error refusal => exact owes_refuse (error refusal)

/-- One statement, followed by the rest of the call. -/
theorem owes_perform_bind {cmd : Command} {g : cmd.Reply → Auth α}
    (promise : ∀ h', Later env start t h h' → Promise env start t cmd h')
    (next
      : ∀ h', Later env start t h h' → Onward env start h (h'.exec t cmd)
        → Obliged env start t call (g (exec cmd h'.state).1) Q (h'.exec t cmd))
    : Obliged env start t call ((perform cmd).bind g) Q h := by
  refine perform_bind (fun h' later => ?_)
  have due := promise h' later
  exact ⟨due, next h' later ((Later.onward later).perform call due)⟩

/-- After an `INSERT` that found its unique columns free. -/
theorem exec_insert_state {row : Row} (free : taken h.state row = false)
    : (h.exec t (.insert row)).state = add h.state row :=
  congrArg Prod.snd (exec_insert_of_free h.state free)

/-- An `INSERT`, followed by the rest of the call or ended by its exception. -/
theorem owes_insert_bind {row : Row} {g : Unit → Auth α}
    (promise : ∀ h', Later env start t h h' → RowPromise start t h' row)
    (added
      : ∀ h', Later env start t h h' → taken h'.state row = false
        → Onward env start h (h'.exec t (.insert row))
        → Obliged env start t call (g ()) Q (h'.exec t (.insert row)))
    (thrown : ∀ h', Onward env start h h' → Q (.error (.thrown .unique)) h')
    : Obliged env start t call ((insert row).bind g) Q h := by
  refine owes_perform_bind promise (fun h' later onward => ?_)
  rcases exec_insert h'.state row with ⟨_, denied⟩ | ⟨free, put⟩
  · rw [denied]
    exact .fail (fun h'' later' => thrown h'' (onward.later later'))
  · rw [put]
    exact added h' later free onward

end CairnStone.CoreAuth
