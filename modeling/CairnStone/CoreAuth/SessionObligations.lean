import CairnStone.CoreAuth.TokenObligations

/-! What browser sessions, login invites, passkeys and consent keep to, whatever other calls do in
between: a session is authenticated on evidence, and a code is for a session that was approved.
-/

namespace CairnStone.CoreAuth

open JavaScript Data Concurrency Protocol List Option Database Lives Protocol.Interference Nat

variable {env : Env} {clients : List ClientRow} {t : Nat} {call : Call} {α β : Type}
  {h h' : History authStore} {Q : Except Failure α → History authStore → Prop}
  {scopes : List Text} {url : Url} {start : Database} {now : Int}
  {sessionToken sessionId : Text} {purpose : ChallengePurpose} {bytes : Bytes}

theorem mem_distinct {value : Text} : ∀ {values : List Text}, value ∈ distinct values ↔ value ∈ values
  | [] => Iff.rfl
  | first :: rest => by
    rw [distinct, mem_cons, mem_cons, mem_filter, mem_distinct]
    by_cases same : value = first
    · simp [same]
    · simp [same]

theorem nodup_distinct : ∀ values, (distinct values).Nodup
  | [] => nodup_nil
  | first :: rest => by
    refine nodup_cons.mpr ⟨fun mem => ?_, (nodup_distinct rest).filter _⟩
    simp at mem

theorem distinct_eq_self : ∀ {values : List Text}, values.Nodup → distinct values = values
  | [], _ => rfl
  | first :: rest, nodup => by
    obtain ⟨absent, nodup⟩ := nodup_cons.mp nodup
    rw [distinct, distinct_eq_self nodup, filter_eq_self.mpr]
    intro value mem
    simpa using fun same : value = first => absent (same ▸ mem)

/-- A list of scopes that is already in order is not changed. -/
theorem parseScopes_eq_self (trimmed : ∀ scope ∈ scopes, trim scope = scope)
    (filled : ∀ scope ∈ scopes, scope ≠ []) (nodup : scopes.Nodup) (short : scopes.length ≤ 64)
    : parseScopes scopes = scopes := by
  have mapped : scopes.map trim = scopes := by
    conv_rhs => rw [← List.map_id scopes]
    exact map_congr_left trimmed
  have filtered : scopes.filter (fun scope => decide (scope ≠ [])) = scopes := by
    rw [filter_eq_self]
    exact fun scope mem => decide_eq_true (filled scope mem)
  rw [parseScopes, mapped, filtered, distinct_eq_self nodup, take_of_length_le short]

theorem trim_of_registered {scope : Text} {klass : ResourceClass}
    (owner : registeredScopeOwner scope = some klass)
    : trim scope = scope ∧ scope ≠ [] := by
  unfold registeredScopeOwner at owner
  split at owner
  · rename_i core
    rw [core]
    exact ⟨by decide, by decide⟩
  · split at owner
    · rename_i messages
      simp only [MESSAGES_SCOPES, mem_cons, not_mem_nil, or_false] at messages
      rcases messages with rfl | rfl
      · exact ⟨by decide, by decide⟩
      · exact ⟨by decide, by decide⟩
    · cases owner

theorem parseScopes_of_owned {klass : ResourceClass}
    (owned : ∀ scope ∈ scopes, registeredScopeOwner scope = some klass) (nodup : scopes.Nodup)
    (short : scopes.length ≤ 64)
    : parseScopes scopes = scopes :=
  parseScopes_eq_self (fun scope mem => (trim_of_registered (owned scope mem)).1)
    (fun scope mem => (trim_of_registered (owned scope mem)).2) nodup short

theorem length_parseScopes_le (scopes : List Text) : (parseScopes scopes).length ≤ 64 := by
  unfold parseScopes
  exact length_take_le _ _

theorem length_distinct_le : ∀ values, (distinct values).length ≤ values.length
  | [] => le_refl _
  | first :: rest => by
    have filtered := length_filter_le (fun value => decide (value ≠ first)) (distinct rest)
    have shorter := length_distinct_le rest
    rw [distinct, length_cons, length_cons]
    omega

theorem parseScopes_of_policy {resource : Text} {scope : Option Text}
    (granted : resolveResourceScopePolicy env resource scope url = .ok scopes)
    : parseScopes scopes = scopes := by
  unfold resolveResourceScopePolicy at granted
  split at granted
  · cases granted
  · rename_i klass _
    simp only at granted
    split at granted
    · cases granted
      cases klass with
      | core => exact parseScopes_eq_self (by decide) (by decide) (by decide) (by decide)
      | messages => exact parseScopes_eq_self (by decide) (by decide) (by decide) (by decide)
    · split at granted
      · cases granted
      · split at granted
        · cases granted
        · cases granted
          have owned (scope' : Text)
              (mem : scope' ∈ distinct ((parseRequestedScopes scope).filter (fun scope =>
                registeredScopeOwner scope = some klass && scope ∈ klass.allowedScopes)))
              : registeredScopeOwner scope' = some klass := by
            have kept := (mem_filter.mp (mem_distinct.mp mem)).2
            exact of_decide_eq_true (Bool.and_eq_true_iff.mp kept).1
          refine parseScopes_of_owned owned (nodup_distinct _) ?_
          exact (length_distinct_le _).trans
            ((length_filter_le _ _).trans (length_parseScopes_le _))

theorem Lives.sessions_named (lives : Lives env (First clients) h)
    : ∀ row ∈ sessions h.state,
        row.sessionId ≠ [] ∧ parseScopes row.scopes = row.scopes := by
  refine Kept.invariant
    (J := fun h => ∀ row ∈ sessions h.state,
      row.sessionId ≠ [] ∧ parseScopes row.scopes = row.scopes)
    lives (fun row mem => absurd mem not_mem_nil) ?_
  intro g t cmd _ due known row mem
  rcases (revises_sessions _ g.state).mem .refl mem with ⟨old, here, steps⟩ | ⟨rfl, _⟩
  · rw [steps.becomes.columns]
    exact known old here
  · exact ⟨due.1, due.2.2.2⟩

theorem Lives.challenges_bound (lives : Lives env (First clients) h)
    : ∀ row ∈ challenges h.state, row.sessionId ≠ [] := by
  refine Kept.invariant (J := fun h => ∀ row ∈ challenges h.state, row.sessionId ≠ [])
    lives (fun row mem => absurd mem not_mem_nil) ?_
  intro g t cmd _ due known row mem
  rcases (revises_challenges _ g.state).mem .refl mem with ⟨old, here, goes⟩ | ⟨rfl, _⟩
  · rw [goes.columns]
    exact known old here
  · exact due

theorem mintId_ne_nil (kind : IdKind) (bytes : Bytes) : mintId kind bytes ≠ [] := by
  unfold mintId randomToken
  simp

theorem owes_beginOauthAuthorize {params : AuthorizeParams}
    {allowlisted : Except String Unit} {draw : SessionDraw}
    : Obliged env start t call (beginOauthAuthorize env params allowlisted url draw now)
        (fun _ _ => True) h := by
  refine owes_ensure_bind (fun _ => ?_) (fun _ _ _ => trivial)
  have registered : Quiet (requireClient (trim params.clientId) (trim params.redirectUri) allowlisted) := by
    unfold requireClient
    split
    · split
      · trivial
      · exact quiet_refuse _
    · exact quiet_fetch_bind (fun _ => quiet_require_bind (fun _ => quiet_ensure _ _))
  refine owes_refuseOn_bind (fun scopes granted => ?_) (fun _ _ _ => trivial)
  refine owes_ensure_bind (fun _ => ?_) (fun _ _ _ => trivial)
  refine owes_ensure_bind (fun _ => ?_) (fun _ _ _ => trivial)
  refine registered.owes_bind (fun _ h1 _ => ?_) (fun _ _ _ => trivial)
  refine owes_insert_bind (fun h2 _ => ?_) (fun h2 _ _ _ => ?_) (fun _ _ => trivial)
  · exact ⟨mintId_ne_nil _ _, rfl, rfl, parseScopes_of_policy granted⟩
  · exact .done (fun _ _ => trivial)

theorem owes_loadAuthorizeSessionByToken_bind {g : SessionRow → Auth α}
    (next
      : ∀ row h', Later env start t h h' → row ∈ sessions h'.state
        → row.status = .pendingAuth ∨ row.status = .authenticated
        → Obliged env start t call (g row) Q h')
    (stop : ∀ error h', Onward env start h h' → Q (.error error) h')
    : Obliged env start t call ((loadAuthorizeSessionByToken env sessionToken now).bind g) Q h := by
  refine Meets.bind (owes_ensure_bind (fun _ => ?_)
    (fun _ h1 later1 => stop _ h1 (Later.onward later1)))
  refine owes_fetch_bind (fun row h1 later1 found => ?_)
    (fun h1 h2 later1 _ later2 => stop _ h2 (later1.onward.later later2))
  have onward1 := later1.onward
  split
  · refine owes_quiet_bind trivial (fun h2 later2 onward2 => owes_refuse (fun h3 later3 => ?_))
    exact stop _ h3 ((onward1.trans onward2).later later3)
  · refine owes_ensure_bind (fun isOpen => ?_) (fun _ h2 later2 => stop _ h2 (onward1.later later2))
    exact .done (fun h2 later2 =>
      (next row h1 later1 (mem_of_find found).1 isOpen).later later2)

theorem owes_createWebAuthnChallenge {Q : Except Failure Text → History authStore → Prop}
    (named : sessionId ≠ []) (post : ∀ answer h', Onward env start h h' → Q answer h')
    : Obliged env start t call (createWebAuthnChallenge env purpose sessionId bytes now) Q h := by
  refine owes_insert_bind (fun _ _ => named) (fun h1 _ _ onward1 => ?_)
    (fun h1 onward1 => post _ h1 onward1)
  exact .done (fun h2 later2 => post _ h2 (onward1.later later2))

theorem owes_createAssertionOptions
    : Obliged env (First clients) t call (createAssertionOptions env sessionToken bytes now)
        (fun _ _ => True) h := by
  refine owes_loadAuthorizeSessionByToken_bind (fun row h1 later1 mem _ => ?_)
    (fun _ _ _ => trivial)
  refine owes_ensure_bind (fun _ => ?_) (fun _ _ _ => trivial)
  exact owes_createWebAuthnChallenge (later1.lives.sessions_named row mem).1
    (fun _ _ _ => trivial)

theorem owes_createRegistrationOptions
    : Obliged env (First clients) t call (createRegistrationOptions env sessionToken bytes now)
        (fun _ _ => True) h := by
  refine owes_loadAuthorizeSessionByToken_bind (fun row h1 later1 mem _ => ?_)
    (fun _ _ _ => trivial)
  refine owes_ensure_bind (fun _ => ?_) (fun _ _ _ => trivial)
  refine Meets.bind (owes_createWebAuthnChallenge
    (later1.lives.sessions_named row mem).1 (fun answer h2 _ => ?_))
  cases answer with
  | error error => trivial
  | ok challenge => exact owes_select_bind (fun _ _ => .done (fun _ _ => trivial))

theorem Consumes.later {challengeHash : Text}
    (consumes : Consumes h.log sessionId purpose challengeHash) (le : h.log <:+ h'.log)
    : Consumes h'.log sessionId purpose challengeHash := by
  obtain ⟨issued, mem, rest⟩ := consumes
  exact ⟨issued, le.subset mem, rest⟩

/-- Evidence lasts. Witness: a redeemed invite is not touched again, and passkeys keep owner and
key.
-/
theorem Evidence.later {accountId : Text} (evidence : Evidence env h sessionId accountId)
    (lives : Lives env start h) (onward : Onward env start h h')
    : Evidence env h' sessionId accountId := by
  cases evidence with
  | invite row mem redeemed session target =>
    obtain ⟨row', mem', goes⟩ :=
      invite_later lives onward.lives onward.le mem
    have same : row' = row := goes.ended (by rw [redeemed]; exact fun same => by cases same)
    exact .invite row (same ▸ mem') redeemed session target
  | passkey row mem owner assertion credential key signCount valid consumed =>
    obtain ⟨row', mem', goes⟩ :=
      passkey_later lives onward.lives onward.le mem
    refine .passkey row' mem' ?_ assertion ?_ ?_ signCount valid (consumed.later onward.le)
    · rw [goes.columns]
      exact owner
    · rw [goes.columns]
      exact credential
    · rw [goes.columns]
      exact key

theorem owes_markSessionAuthenticated_bind {session : SessionRow}
    {authentication : SessionAuthentication} {value : α} (lives : Lives env start h)
    (evidence : Evidence env h session.sessionId authentication.accountId)
    (post : ∀ answer h', Onward env start h h' → Q answer h')
    : Obliged env start t call
        ((markSessionAuthenticated session authentication).bind (fun _ => .done value)) Q h := by
  refine owes_perform_bind (fun h1 later1 => evidence.later lives later1.onward)
    (fun h1 later1 onward1 => ?_)
  exact .done (fun h2 later2 => post _ h2 (onward1.later later2))

theorem quiet_consumeInviteRateLimit (clientIp clientId : Text) (clock : Int)
    : Quiet (consumeInviteRateLimit env clientIp clientId clock) := by
  have window : Quiet (rateWindowStart env clock) := by
    unfold rateWindowStart
    dsimp only
    split
    · trivial
    · trivial
  have bucket (bucketKey : Text) (windowStart : Int)
      : Quiet (bumpRateBucket env bucketKey windowStart) := by
    refine quiet_select_bind (fun row => ?_)
    split
    · exact quiet_perform_bind trivial (fun _ => trivial)
    · exact quiet_ensure_bind (quiet_perform_bind trivial (fun _ => trivial))
  refine window.bind (fun windowStart => (bucket _ _).bind (fun _ => ?_))
  split
  · trivial
  · exact bucket _ _

theorem quiet_ensureInviteAuthenticator (accountId : Text) (bytes : Bytes)
    : Quiet (ensureInviteAuthenticator accountId bytes) := by
  refine quiet_select_bind (fun existing => ?_)
  cases existing with
  | some authenticator => trivial
  | none => exact quiet_insert_bind trivial trivial

theorem evidence_of_redeemed {invite : InviteRow} {inviteHash : Text}
    (lives : Lives env (First clients) h) (mem : invite ∈ invites h.state)
    (hash : invite.inviteHash = inviteHash) (later : Later env (First clients) t h h')
    (counted : (exec (.redeemInvite inviteHash sessionId) h'.state).1 = (1 : Nat))
    : Evidence env (h'.exec t (.redeemInvite inviteHash sessionId)) sessionId
        invite.targetAccountId := by
  have pos
      : 0 < (invites h'.state).countP
          (fun row => row.inviteHash == inviteHash && row.status == .unused) :=
    lt_of_lt_of_eq one_pos counted.symm
  obtain ⟨row, here, hit⟩ := countP_pos_iff.mp pos
  obtain ⟨same, unused⟩ := Bool.and_eq_true_iff.mp hit
  obtain ⟨invite', present', goes⟩ :=
    invite_later lives later.lives later.le mem
  have one : row = invite' := by
    refine later.lives.lawful.invites.eq_of_key here present' ?_
    rw [goes.columns]
    exact (eq_of_beq same).trans hash.symm
  refine .invite { row with status := .redeemed, redeemedBySession := some sessionId } ?_ rfl rfl ?_
  · exact mem_updateWhere.mpr ⟨row, here, by rw [if_pos hit]⟩
  · rw [one, goes.columns]

theorem owes_redeemLoginInviteForSession {args : InviteArgs} {clock : Int}
    : Obliged env (First clients) t call
        (redeemLoginInviteForSession env args bytes now clock) (fun _ _ => True) h := by
  refine owes_loadAuthorizeSessionByToken_bind (fun session _ _ _ _ => ?_) (fun _ _ _ => trivial)
  refine owes_ensure_bind (fun _ => ?_) (fun _ _ _ => trivial)
  refine (quiet_consumeInviteRateLimit _ _ _).owes_bind (fun _ _ _ => ?_) (fun _ _ _ => trivial)
  refine owes_ensure_bind (fun _ => ?_) (fun _ _ _ => trivial)
  refine owes_fetch_bind (fun invite h1 later1 found => ?_) (fun _ _ _ _ _ => trivial)
  obtain ⟨mem, hash⟩ := mem_of_find found
  refine owes_ensure_bind (fun _ => ?_) (fun _ _ _ => trivial)
  split
  · exact owes_quiet_bind trivial (fun _ _ _ => owes_refuse (fun _ _ => trivial))
  · refine owes_quiet_bind trivial (fun h2 later2 onward2 => ?_)
    generalize counted : (exec (.redeemInvite _ session.sessionId) h2.state).1 = edits
    change Nat at edits
    refine owes_ensure_bind (fun one => ?_) (fun _ _ _ => trivial)
    have evidence := evidence_of_redeemed later1.lives mem hash later2 (one ▸ counted)
    refine owes_fetch_bind (fun account h3 later3 picked => ?_) (fun _ _ _ _ _ => trivial)
    obtain ⟨picked, _⟩ := filter_eq_some_iff.mp picked
    obtain ⟨_, accountId⟩ := mem_of_account picked
    refine (quiet_ensureInviteAuthenticator _ _).owes_bind (fun authenticator h4 onward4 => ?_)
      (fun _ _ _ => trivial)
    refine owes_markSessionAuthenticated_bind onward4.lives ?_ (fun _ _ _ => trivial)
    have later := evidence.later onward2.lives (later3.onward.trans onward4)
    rwa [← accountId] at later

/-- The one challenge that changed is the one that was read, and it belongs to the session. -/
theorem consumes_of_used {challenge : ChallengeRow} {challengeHash : Text}
    (lives : Lives env (First clients) h) (mem : challenge ∈ challenges h.state)
    (hash : challenge.challengeHash = challengeHash)
    (bound : challenge.sessionId = [] ∨ challenge.sessionId = sessionId)
    (later : Later env (First clients) t h h')
    (counted : (exec (.useChallenge challengeHash) h'.state).1 = (1 : Nat))
    : Consumes (h'.exec t (.useChallenge challengeHash)).log sessionId challenge.purpose
        challengeHash := by
  have pos
      : 0 < (challenges h'.state).countP
          (fun row => row.challengeHash == challengeHash && row.status == .unused) :=
    lt_of_lt_of_eq one_pos counted.symm
  obtain ⟨row, here, hit⟩ := countP_pos_iff.mp pos
  obtain ⟨same, unused⟩ := Bool.and_eq_true_iff.mp hit
  obtain ⟨challenge', present', goes⟩ :=
    challenge_later lives later.lives later.le mem
  have one : row = challenge' := by
    refine later.lives.lawful.challenges.eq_of_key here present' ?_
    rw [goes.columns]
    exact (eq_of_beq same).trans hash.symm
  have session : challenge.sessionId = sessionId :=
    bound.resolve_left (lives.challenges_bound challenge mem)
  refine ⟨_, .head _, rfl, row, here, eq_of_beq same, eq_of_beq unused, ?_, ?_⟩
  · rw [one, goes.columns]
  · rw [one, goes.columns]
    exact session

theorem owes_consumeWebAuthnChallenge_bind {challenge : Text} {g : Unit → Auth α}
    (next
      : ∀ h', Onward env (First clients) h h'
        → Consumes h'.log sessionId purpose (hashSecret env challenge)
        → Obliged env (First clients) t call (g ()) Q h')
    (stop : ∀ error h', Onward env (First clients) h h' → Q (.error error) h')
    : Obliged env (First clients) t call
        ((consumeWebAuthnChallenge env challenge purpose sessionId now).bind g) Q h := by
  refine Meets.bind (owes_fetch_bind (fun row h1 later1 found => ?_)
    (fun h1 h2 later1 _ later2 => stop _ h2 (later1.onward.later later2)))
  have onward1 := later1.onward
  obtain ⟨mem, hash⟩ := mem_of_find found
  have stop1 {error : Failure} (h2 : History authStore)
      (later2 : Later env (First clients) t h1 h2)
      : Q (.error error) h2 :=
    stop _ h2 (onward1.later later2)
  refine owes_ensure_bind (fun purposed => ?_) (fun _ => stop1)
  refine owes_ensure_bind (fun bound => ?_) (fun _ => stop1)
  refine owes_ensure_bind (fun _ => ?_) (fun _ => stop1)
  split
  · refine owes_quiet_bind trivial (fun h2 later2 onward2 => owes_refuse (fun h3 later3 => ?_))
    exact stop _ h3 ((onward1.trans onward2).later later3)
  · refine owes_quiet_bind trivial (fun h2 later2 onward2 => ?_)
    have onward2 := onward1.trans onward2
    generalize counted : (exec (.useChallenge _) h2.state).1 = edits
    change Nat at edits
    unfold ensure
    split
    · rename_i one
      have consumes :=
        consumes_of_used later1.lives mem hash bound later2 (counted.trans one)
      refine Meets.done (fun h3 later3 => ?_)
      exact next h3 (onward2.later later3) (purposed ▸ consumes.later (Later.le later3))
    · exact owes_refuse (fun h3 later3 => stop _ h3 (onward2.later later3))

theorem owes_verifyAssertionForSession {credential : Credential}
    : Obliged env (First clients) t call
        (verifyAssertionForSession env sessionToken credential url now) (fun _ _ => True) h := by
  refine owes_loadAuthorizeSessionByToken_bind (fun session _ _ _ _ => ?_) (fun _ _ _ => trivial)
  refine owes_ensure_bind (fun _ => ?_) (fun _ _ _ => trivial)
  refine owes_require_bind (fun clientDataJSON _ => ?_) (fun _ _ _ => trivial)
  refine owes_require_bind (fun expectedChallenge _ => ?_) (fun _ _ _ => trivial)
  refine owes_consumeWebAuthnChallenge_bind (fun h1 onward1 consumes => ?_) (fun _ _ _ => trivial)
  refine owes_require_bind (fun credentialId _ => ?_) (fun _ _ _ => trivial)
  refine owes_fetch_bind (fun passkey h2 later2 picked => ?_) (fun _ _ _ _ _ => trivial)
  obtain ⟨picked, _⟩ := filter_eq_some_iff.mp picked
  obtain ⟨mem, id⟩ := mem_of_find picked
  dsimp only
  split
  · exact owes_refuse (fun _ _ => trivial)
  · rename_i signCount valid
    have evidence : Evidence env h2 session.sessionId passkey.accountId :=
      .passkey passkey mem rfl _ id.symm rfl signCount valid (consumes.later later2.le)
    refine owes_quiet_bind trivial (fun h3 later3 onward3 => ?_)
    refine owes_fetch_bind (fun account h4 later4 found => ?_) (fun _ _ _ _ _ => trivial)
    obtain ⟨found, _⟩ := filter_eq_some_iff.mp found
    obtain ⟨_, accountId⟩ := mem_of_account found
    refine owes_markSessionAuthenticated_bind later4.lives ?_ (fun _ _ _ => trivial)
    have later := evidence.later later2.lives (onward3.later later4)
    rwa [← accountId] at later

theorem owes_verifyRegistrationForSession {credential : Credential}
    : Obliged env (First clients) t call
        (verifyRegistrationForSession env sessionToken credential url bytes now)
        (fun _ _ => True) h := by
  refine owes_loadAuthorizeSessionByToken_bind (fun session _ _ _ _ => ?_) (fun _ _ _ => trivial)
  refine owes_ensure_bind (fun _ => ?_) (fun _ _ _ => trivial)
  refine owes_require_bind (fun clientDataJSON _ => ?_) (fun _ _ _ => trivial)
  refine owes_require_bind (fun expectedChallenge _ => ?_) (fun _ _ _ => trivial)
  refine owes_consumeWebAuthnChallenge_bind (fun h1 onward1 _ => ?_) (fun _ _ _ => trivial)
  dsimp only
  split
  · exact owes_refuse (fun _ _ => trivial)
  · refine owes_select_bind (fun _ _ => owes_ensure_bind (fun _ => ?_) (fun _ _ _ => trivial))
    split
    · exact .fail (fun _ _ => trivial)
    · refine owes_insert_bind (fun _ _ => trivial) (fun _ _ _ _ => ?_) (fun _ _ => trivial)
      refine owes_insert_bind (fun _ _ => trivial) (fun _ _ _ _ => ?_) (fun _ _ => trivial)
      exact owes_quiet_bind trivial (fun _ _ _ => .done (fun _ _ => trivial))

theorem approved_of_counted {session : SessionRow} (lives : Lives env (First clients) h)
    (mem : session ∈ sessions h.state) (same : session.sessionId = sessionId)
    (later : Later env (First clients) t h h')
    (counted : (exec (.approveSession sessionId) h'.state).1 = (1 : Nat))
    : Approves ((h'.exec t (.approveSession sessionId)).own t) sessionId
      ∧ ∃ approved ∈ sessions (h'.exec t (.approveSession sessionId)).state,
          approved.status = .approved ∧ session.Becomes approved := by
  have pos
      : 0 < (sessions h'.state).countP
          (fun row => row.sessionId == sessionId && row.status == .authenticated) :=
    lt_of_lt_of_eq one_pos counted.symm
  obtain ⟨row, here, hit⟩ := countP_pos_iff.mp pos
  obtain ⟨id, status⟩ := Bool.and_eq_true_iff.mp hit
  obtain ⟨session', present', goes⟩ :=
    session_later lives later.lives later.le mem
  have one : row = session' := by
    refine later.lives.lawful.sessions.eq_of_key here present' ?_
    rw [goes.columns]
    exact (eq_of_beq id).trans same.symm
  constructor
  · rw [History.own_exec_self]
    exact ⟨_, .head _, rfl, row, here, eq_of_beq id, eq_of_beq status⟩
  · refine ⟨{ row with status := .approved }, ?_, rfl, ?_⟩
    · exact mem_updateWhere.mpr ⟨row, here, by rw [if_pos hit]⟩
    · refine (one ▸ goes).trans ⟨rfl, fun _ => ⟨rfl, rfl⟩, .inr (.inr ⟨?_, ?_⟩)⟩
      · exact eq_of_beq status
      · exact fun same => by cases same

theorem SessionRow.Becomes.approved {a b : SessionRow} (becomes : a.Becomes b)
    (approved : a.status = .approved)
    : b.status = .approved := by
  rcases becomes.progress with same | pending | ⟨authenticated, _⟩
  · rw [same, approved]
  · rw [approved] at pending
    cases pending
  · rw [approved] at authenticated
    cases authenticated

theorem owes_approveAuthorizeSession (fresh : h.own t = [])
    : Obliged env (First clients) t call
        (approveAuthorizeSession env sessionToken bytes now) (fun _ _ => True) h := by
  refine owes_loadAuthorizeSessionByToken_bind (fun session h1 later1 mem _ => ?_)
    (fun _ _ _ => trivial)
  have fresh1 : h1.own t = [] := (own later1).trans fresh
  refine owes_ensure_bind (fun authenticated => ?_) (fun _ _ _ => trivial)
  refine owes_require_bind (fun accountId isAccount => ?_) (fun _ _ _ => trivial)
  refine owes_require_bind (fun tenantId isTenant => ?_) (fun _ _ _ => trivial)
  refine owes_require_bind (fun authenticatorId _ => ?_) (fun _ _ _ => trivial)
  refine owes_perform_bind (fun h2 later2 => ?_) (fun h2 later2 onward2 => ?_)
  · intro issued noted
    rw [own later2, fresh1] at noted
    exact absurd noted not_mem_nil
  have own2 : (h2.exec t (.approveSession session.sessionId)).own t
      = [⟨t, .approveSession session.sessionId, h2.state⟩] := by
    rw [History.own_exec_self, own later2, fresh1]
  generalize counted : (exec (.approveSession session.sessionId) h2.state).1 = edits
  change Nat at edits
  refine owes_ensure_bind (fun one => ?_) (fun _ _ _ => trivial)
  obtain ⟨approves, approved, here, status, goes⟩ :=
    approved_of_counted later1.lives mem rfl later2 (counted.trans one)
  have named := (later1.lives.sessions_named session mem).2
  have code : Obliged env (First clients) t call
      (createAuthorizationCode env
        { accountId, tenantId, authenticatorId, clientId := session.clientId
          redirectUri := session.redirectUri, codeChallenge := session.codeChallenge
          resource := session.resource, scopes := session.scopes, iss := session.iss
          stepUpConfirmed := session.stepUpConfirmed } bytes now)
      (fun _ _ => True) (h2.exec t (.approveSession session.sessionId)) := by
    refine owes_insert_bind (fun h3 later3 => ?_)
      (fun _ _ _ _ => .done (fun _ _ => trivial)) (fun _ _ => trivial)
    obtain ⟨session', present', continues'⟩ :=
      session_later onward2.lives later3.lives later3.le here
    have whole := goes.trans continues'
    have user := whole.user (by rw [authenticated]; exact fun same => by cases same)
    refine ⟨session', present', continues'.approved status, ?_, ?_, ?_⟩
    · refine ⟨?_, ?_, ?_, ?_, ?_, ?_, ?_, ?_⟩
      · exact user.1.trans (filter_eq_some_iff.mp isAccount).1
      · exact user.2.trans (filter_eq_some_iff.mp isTenant).1
      · rw [whole.columns]
      · rw [whole.columns]
      · rw [whole.columns]
      · rw [whole.columns]
      · rw [whole.columns]
        exact named.symm
      · rw [whole.columns]
    · have same : session'.sessionId = session.sessionId := by rw [whole.columns]
      rw [same, own later3]
      exact approves
    · intro issued noted other
      rw [own later3, own2] at noted
      cases mem_singleton.mp noted
      exact fun same => by cases same
  refine Meets.bind (code.consequence (fun answer h3 _ _ => ?_))
  cases answer with
  | error error => trivial
  | ok value => exact .done (fun _ _ => trivial)

theorem owes_denyAuthorizeSession
    : Obliged env start t call (denyAuthorizeSession env sessionToken now) (fun _ _ => True) h := by
  refine owes_loadAuthorizeSessionByToken_bind (fun session _ _ _ _ => ?_) (fun _ _ _ => trivial)
  exact owes_quiet_bind trivial (fun _ _ _ => .done (fun _ _ => trivial))

theorem quiet_provisionAccount (draw : AccountDraw) (displayName : Option Text)
    (homeWorkspaceId : Text → Text)
    : Quiet (provisionAccount draw displayName homeWorkspaceId) :=
  quiet_insert_bind trivial (quiet_insert_bind trivial (quiet_insert_bind trivial trivial))

theorem quiet_createOwnerAccount (displayName accountKey : Text) (draw : AccountDraw)
    : Quiet (createOwnerAccount displayName accountKey draw) := by
  refine quiet_select_bind (fun byMarker => ?_)
  cases byMarker with
  | some account => trivial
  | none => exact (quiet_provisionAccount _ _ _).bind (fun _ => trivial)

theorem quiet_mintLoginInvite (accountId : Text) (ttlSeconds : Int) (draw : InviteDraw) (now : Int)
    : Quiet (mintLoginInvite env accountId ttlSeconds draw now) :=
  quiet_fetch_bind (fun _ => quiet_ensure_bind (quiet_insert_bind trivial trivial))

end CairnStone.CoreAuth
