import CairnStone.CoreAuth.Audience
import CairnStone.CoreAuth.CodeRedemption

/-! The audience of an access token is the one that the authorization has stored from which the token was
obtained. Session and code are found again by their digests, which no two rows share.
-/

namespace CairnStone.CoreAuth

open JavaScript Data Concurrency Protocol List Option Database Config Meets Kept

variable {db : Database}

def addedRow (issued : Issued authStore) : Option Row :=
  match issued.command with
  | .insert row => if Database.taken issued.before row then none else some row
  | _ => none

def Row.asSession : Row → Option SessionRow
  | .session row => some row
  | _ => none

def Row.asCode : Row → Option CodeRow
  | .code row => some row
  | _ => none

def Row.asAccessToken : Row → Option AccessTokenRow
  | .accessToken row => some row
  | _ => none

def added {α : Type} (pick : Row → Option α) (config : Config authStore Call Failure Answer)
    (thread : Nat)
    : List α :=
  (config.history.own thread).filterMap (fun issued => (addedRow issued).bind pick)

/-- The token was obtained with the session that the thread has begun: by approving it and by redeeming the
code of the approval.
-/
def ObtainedFrom (env : Env) (config : Config authStore Call Failure Answer) (begun : Nat)
    (token : AccessTokenRow)
    : Prop :=
  ∃ session ∈ added Row.asSession config begun,
    ∃ approving sessionToken bytes approvedAt,
      config.call approving = some (.approveAuthorizeSession sessionToken bytes approvedAt)
      ∧ hashSecret env sessionToken = session.tokenHash
      ∧ ∃ code ∈ added Row.asCode config approving,
          ∃ redeeming args draw now mintedAt,
            config.call redeeming = some (.redeemAuthorizationCode args draw now mintedAt)
            ∧ hashSecret env args.code = code.codeHash
            ∧ token ∈ added Row.asAccessToken config redeeming

namespace Sample

def url : Url where
  origin := text "https://o"
  hostname := text "o"

/-- A request for the resource. -/
def authorizing (resource : Option Text) : AuthorizeParams where
  responseType := text "code"
  clientId := text "c"
  redirectUri := text "https://c/cb"
  codeChallenge := pkceChallengeS256 env (text "v")
  codeChallengeMethod := none
  resource := resource
  scope := none
  state := none

/-- An account and an invite, an authorization for the resource that the invite authenticates and its user
approves, and the redemption of the code.
-/
def obtaining (resource : Option Text) : List (Action authStore Call) :=
  let sessionToken := randomToken "oastok" [0]
  .spawn (.createOwnerAccount (text "o") (text "k") { tenantId := [0], accountId := [0] })
    :: steps 10 0
    ++ .spawn (.mintLoginInvite (mintId .account [0]) 0 { inviteId := [0], inviteCode := [0] } 0)
    :: steps 10 1
    ++ .spawn
        (.beginOauthAuthorize (authorizing resource) (.ok ()) url
          { sessionId := [0], sessionToken := [0] } 0)
    :: steps 10 2
    ++ .spawn
        (.redeemLoginInviteForSession
          { sessionToken, inviteCode := randomToken "csinv" [0], clientIp := text "i" } [0] 0 0)
    :: steps 20 3
    ++ .spawn (.approveAuthorizeSession sessionToken [0] 0) :: steps 10 4
    ++ .spawn (.redeemAuthorizationCode unresourced (connectionDraw 0) 0 0) :: steps 20 5

def obtains (resource : Option Text) : Bool :=
  (added Row.asSession (authRun env [client] (obtaining resource)) 2).any (fun session =>
    session.tokenHash == hashSecret env (randomToken "oastok" [0]))
  && (added Row.asCode (authRun env [client] (obtaining resource)) 4).any (fun code =>
    code.codeHash == hashSecret env unresourced.code)
  && (added Row.asAccessToken (authRun env [client] (obtaining resource)) 5).any (fun _ => true)

end Sample

theorem mem_added {α : Type} {pick : Row → Option α}
    {config : Config authStore Call Failure Answer} {thread : Nat} {value : α}
    : value ∈ added pick config thread
      ↔ ∃ issued ∈ config.history.own thread, ∃ row, issued.command = .insert row
          ∧ taken issued.before row = false ∧ pick row = some value := by
  unfold added addedRow
  rw [mem_filterMap]
  constructor
  · rintro ⟨issued, own, picked⟩
    split at picked
    · rename_i row cmd
      split at picked
      · cases picked
      · rename_i free
        exact ⟨issued, own, row, cmd, by simpa using free, picked⟩
    · cases picked
  · rintro ⟨issued, own, row, cmd, free, picked⟩
    refine ⟨issued, own, ?_⟩
    simp [cmd, free, picked]

def CodeFor (env : Env) (codeHash resource : Text) (db : Database) : Prop :=
  ∃ code ∈ db.codes, code.codeHash = codeHash
    ∧ resource = (truthy (some code.resource)).getD (canonicalCoreAuthResource env none)

def SessionFor (tokenHash resource : Text) (db : Database) : Prop :=
  ∃ session ∈ db.sessions, session.tokenHash = tokenHash ∧ session.resource = resource

def AudiencePromise (env : Env) (_ : Nat) (call : Call) (cmd : Command) (h : History authStore)
    : Prop :=
  match call with
  | .beginOauthAuthorize params _ url _ _ =>
    ∀ row, cmd = .insert (.session row)
      → (requestedClass env params url).isSome = true
        ∧ row.resource = storedAudience env params url
  | .approveAuthorizeSession sessionToken _ _ =>
    ∀ row, cmd = .insert (.code row)
      → SessionFor (hashSecret env sessionToken) row.resource h.state
  | .redeemAuthorizationCode args _ _ _ =>
    ∀ row, cmd = .insert (.accessToken row)
      → CodeFor env (hashSecret env args.code) row.resource h.state
  | _ => True

abbrev audienceProtocol (env : Env) (start : Database) : Protocol authStore Call :=
  Protocol.pledging (M := authStore) start (AudiencePromise env)

variable {env : Env} {start : Database} {t : Nat} {h h' : History authStore} {α : Type}

theorem CodeFor.exec {codeHash resource : Text} (known : CodeFor env codeHash resource db)
    (cmd : Command)
    : CodeFor env codeHash resource (Database.exec cmd db).2 := by
  obtain ⟨code, mem, rfl, rfl⟩ := known
  obtain ⟨code', mem', becomes⟩ := codes_exec cmd db code mem
  refine ⟨code', mem', ?_, ?_⟩
  · rw [becomes.columns]
  · rw [becomes.columns]

theorem SessionFor.exec {tokenHash resource : Text} (known : SessionFor tokenHash resource db)
    (cmd : Command)
    : SessionFor tokenHash resource (Database.exec cmd db).2 := by
  obtain ⟨session, mem, rfl, rfl⟩ := known
  obtain ⟨session', mem', becomes⟩ := sessions_exec cmd db session mem
  refine ⟨session', mem', ?_, ?_⟩
  · rw [becomes.columns]
  · rw [becomes.columns]

theorem audience_later {R : Database → Prop} (holds : R h.state)
    (keeps : ∀ db cmd, R db → R (exec cmd db).2)
    (inv : (audienceProtocol env start).inv h)
    (after : (audienceProtocol env start).After h h')
    : R h'.state :=
  state_grow (R := R) inv after.inv after.le holds keeps

theorem class_of_policy {resource : Text} {scope : Option Text} {url : Url} {scopes : List Text}
    (granted : resolveResourceScopePolicy env resource scope url = .ok scopes)
    : (resolveResourceClass env resource url).isSome = true := by
  unfold resolveResourceScopePolicy at granted
  cases klass : resolveResourceClass env resource url with
  | none => simp [klass] at granted
  | some klass => rfl

theorem silent_requireClient (clientId redirectUri : Text) (allowlisted : Except String Unit)
    : Program.Issues (M := authStore) (fun _ => False)
        (requireClient clientId redirectUri allowlisted) := by
  unfold requireClient
  split
  · split
    · trivial
    · trivial
  · intro db
    refine (issues_require _ _).bind (fun client => ?_)
    refine (issues_require _ _).bind (fun uris => ?_)
    exact issues_ensure _ _

theorem meets_beginOauthAuthorize {params : AuthorizeParams} {allowlisted : Except String Unit}
    {url : Url} {draw : SessionDraw} {now : Int}
    : (audienceProtocol env start).Meets t (.beginOauthAuthorize params allowlisted url draw now)
        (beginOauthAuthorize env params allowlisted url draw now) (fun _ _ => True) h := by
  refine meets_ensure_bind (fun _ => ?_) (fun _ _ => trivial)
  dsimp only
  cases granted : resolveResourceScopePolicy env (requestedResource env params url) params.scope url with
  | error why =>
    unfold requestedResource at granted
    rw [granted]
    exact meets_refuse (fun _ _ => trivial)
  | ok scopes =>
    have classed : (requestedClass env params url).isSome = true := class_of_policy granted
    unfold requestedResource at granted
    rw [granted]
    refine meets_ensure_bind (fun _ => ?_) (fun _ _ => trivial)
    refine meets_ensure_bind (fun _ => ?_) (fun _ _ => trivial)
    refine seq (of_issues (silent_requireClient _ _ _)
      (fun _ _ never => never.elim) (fun _ _ _ => trivial)) (fun _ _ _ _ => ?_)
      (fun _ _ _ _ => trivial)
    refine meets_insert_bind (fun _ _ row same => ?_) (fun _ _ _ => ?_) (fun _ => trivial)
    · cases same
      exact ⟨classed, rfl⟩
    · exact .done (fun _ _ => trivial)

theorem meets_loadAuthorizeSession {sessionToken : Text} {bytes : Bytes} {now : Int}
    : (audienceProtocol env start).Meets t (.approveAuthorizeSession sessionToken bytes now)
        (loadAuthorizeSessionByToken env sessionToken now)
        (fun answer h' => ∀ session, answer = .ok session →
          SessionFor (hashSecret env sessionToken) session.resource h'.state) h := by
  refine meets_ensure_bind (fun _ => ?_) (fun _ _ _ denied => by cases denied)
  refine meets_fetch_bind (fun row h1 moved1 found => ?_) (fun _ _ _ denied => by cases denied)
  obtain ⟨mem, hash⟩ := mem_of_find found
  have known : SessionFor (hashSecret env sessionToken) row.resource h1.state :=
    ⟨row, mem, hash, rfl⟩
  split
  · refine meets_perform_bind (fun _ _ _ same => by cases same) (fun _ _ => ?_)
    exact meets_refuse (fun _ _ _ denied => by cases denied)
  · refine meets_ensure_bind (fun _ => ?_) (fun _ _ _ denied => by cases denied)
    refine Meets.done (fun h2 moved2 session same => ?_)
    cases same
    exact audience_later known (fun _ cmd known => known.exec cmd) moved1.inv moved2.toAfter

/-- The code of an approval takes over the resource of its session. -/
theorem meets_approveAuthorizeSession {sessionToken : Text} {bytes : Bytes} {now : Int}
    : (audienceProtocol env start).Meets t (.approveAuthorizeSession sessionToken bytes now)
        (approveAuthorizeSession env sessionToken bytes now) (fun _ _ => True) h := by
  refine seq meets_loadAuthorizeSession (fun session h1 after1 known => ?_)
    (fun _ _ _ _ => trivial)
  have known := known session rfl
  refine meets_ensure_bind (fun _ => ?_) (fun _ _ => trivial)
  refine meets_require_bind (fun accountId _ => ?_) (fun _ _ => trivial)
  refine meets_require_bind (fun tenantId _ => ?_) (fun _ _ => trivial)
  refine meets_require_bind (fun authenticatorId _ => ?_) (fun _ _ => trivial)
  refine meets_perform_bind (fun _ _ _ same => by cases same) (fun h2 moved2 => ?_)
  generalize counted : (exec (.approveSession session.sessionId) h2.state).1 = edits
  change Nat at edits
  refine meets_ensure_bind (fun _ => ?_) (fun _ _ => trivial)
  refine bind ?_
  refine meets_insert_bind (fun h3 moved3 row same => ?_) (fun _ _ _ => ?_) (fun _ => trivial)
  · cases same
    have pre
        : (audienceProtocol env start).pre t (.approveAuthorizeSession sessionToken bytes now)
            (.approveSession session.sessionId) h2 :=
      fun _ same => by cases same
    exact audience_later known (fun _ cmd known => known.exec cmd) after1.inv
      ((moved2.toAfter.exec _ pre).trans moved3.toAfter)
  · exact .done (fun _ _ => .done (fun _ _ => trivial))

section

variable {args : RedeemArgs} {draw : ConnectionDraw} {now mintedAt : Int} {resource : Text}
  {clock : Int}

theorem meets_onward_bind {Q : Except Failure α → History authStore → Prop} {cmd : Command}
    {g : cmd.Reply → Auth α} (inv : (audienceProtocol env start).inv h)
    (known : CodeFor env (hashSecret env args.code) resource h.state)
    (other : ∀ row, cmd ≠ .insert (.accessToken row))
    (next
      : ∀ h' reply, (audienceProtocol env start).inv h'
        → CodeFor env (hashSecret env args.code) resource h'.state
        → (audienceProtocol env start).Meets t (.redeemAuthorizationCode args draw now mintedAt)
            (g reply) Q h')
    : (audienceProtocol env start).Meets t (.redeemAuthorizationCode args draw now mintedAt)
        ((perform cmd).bind g) Q h := by
  have due (g : History authStore)
      : (audienceProtocol env start).pre t (.redeemAuthorizationCode args draw now mintedAt)
          cmd g :=
    fun row same => absurd same (other row)
  refine meets_perform_bind (fun h1 _ => due h1) (fun h1 moved1 => ?_)
  have after : (audienceProtocol env start).After h (h1.exec t cmd) :=
    moved1.toAfter.exec _ (due h1)
  exact next _ _ after.inv (audience_later known (fun _ cmd known => known.exec cmd) inv after)

theorem meets_issueAudience {family : TokenFamilyRow} {generation : Nat} {pair : PairDraw}
    (inv : (audienceProtocol env start).inv h)
    (known : CodeFor env (hashSecret env args.code) family.resource h.state)
    : (audienceProtocol env start).Meets t (.redeemAuthorizationCode args draw now mintedAt)
        (issueTokenPair env family generation pair clock) (fun _ _ => True) h := by
  refine meets_insert_bind (fun h1 moved1 row same => ?_) (fun _ _ _ => ?_) (fun _ => trivial)
  · cases same
    exact audience_later known (fun _ cmd known => known.exec cmd) inv moved1.toAfter
  · refine meets_insert_bind (fun _ _ row same => by cases same) (fun _ _ _ => ?_) (fun _ => trivial)
    exact .done (fun _ _ => trivial)

theorem meets_insertion_bind {row : Row} {g : Unit → Auth α}
    (inv : (audienceProtocol env start).inv h)
    (known : CodeFor env (hashSecret env args.code) resource h.state)
    (other : row.asAccessToken = none)
    (next
      : ∀ h', (audienceProtocol env start).inv h'
        → CodeFor env (hashSecret env args.code) resource h'.state
        → (audienceProtocol env start).Meets t (.redeemAuthorizationCode args draw now mintedAt)
            (g ()) (fun _ _ => True) h')
    : (audienceProtocol env start).Meets t (.redeemAuthorizationCode args draw now mintedAt)
        ((insert row).bind g) (fun _ _ => True) h := by
  refine bind ?_
  refine meets_onward_bind inv known (fun _ same => ?_) (fun h1 put inv1 known1 => ?_)
  · rw [Command.insert.inj same] at other
    cases other
  · cases put with
    | ok _ => exact .done (fun h2 moved2 => (next h1 inv1 known1).later moved2)
    | error error => exact .fail (fun _ _ => trivial)

theorem meets_openAudience {connection : ConnectionRow} {authenticatorId : Text}
    {scopes : List Text} {authzVersion : Nat} {family : FamilyDraw}
    (aliases : connection.routingAliases = []) (inv : (audienceProtocol env start).inv h)
    (known : CodeFor env (hashSecret env args.code) resource h.state)
    : (audienceProtocol env start).Meets t (.redeemAuthorizationCode args draw now mintedAt)
        (openConnection env connection authenticatorId resource scopes authzVersion family clock)
        (fun _ _ => True) h := by
  refine meets_insertion_bind inv known rfl (fun h1 inv1 known1 => ?_)
  rw [aliases]
  refine meets_insertion_bind inv1 known1 rfl (fun h2 inv2 known2 => ?_)
  exact Meets.map ((meets_issueAudience inv2 known2).consequence (fun _ _ _ _ => trivial))

theorem meets_mintAudience {minting : MintArgs} {connection : ConnectionDraw}
    (aliases : minting.routingAliases = []) (inv : (audienceProtocol env start).inv h)
    (known
      : CodeFor env (hashSecret env args.code)
          ((truthy minting.resource).getD (canonicalCoreAuthResource env none)) h.state)
    : (audienceProtocol env start).Meets t (.redeemAuthorizationCode args draw now mintedAt)
        (mintConnectionUnderAccount env minting connection clock) (fun _ _ => True) h := by
  refine meets_fetch_bind (fun account h1 moved1 _ => ?_) (fun _ _ => trivial)
  refine meets_ensure_bind (fun _ => ?_) (fun _ _ => trivial)
  refine meets_fetch_bind (fun membership h2 moved2 _ => ?_) (fun _ _ => trivial)
  refine meets_fetch_bind (fun authenticator h3 moved3 _ => ?_) (fun _ _ => trivial)
  have moved := (moved1.trans moved2).trans moved3
  have known3 := audience_later known (fun _ cmd known => known.exec cmd) inv moved.toAfter
  refine Meets.map ((meets_openAudience ?_ moved.inv known3).consequence ?_)
  · simp [aliases]
  · exact fun _ _ _ _ => trivial

/-- The tokens of a redemption have the resource of its code. -/
theorem meets_redeemAudience
    : (audienceProtocol env start).Meets t (.redeemAuthorizationCode args draw now mintedAt)
        (redeemAuthorizationCode env args draw now mintedAt) (fun _ _ => True) h := by
  refine meets_fetch_bind (fun row h1 moved1 found => ?_) (fun _ _ => trivial)
  obtain ⟨mem, hash⟩ := mem_of_find found
  have known
      : CodeFor env (hashSecret env args.code)
          ((truthy (some row.resource)).getD (canonicalCoreAuthResource env none)) h1.state :=
    ⟨row, mem, hash, rfl⟩
  refine meets_ensure_bind (fun _ => ?_) (fun _ _ => trivial)
  split
  · refine meets_perform_bind (fun _ _ _ same => by cases same) (fun _ _ => ?_)
    exact meets_refuse (fun _ _ => trivial)
  · refine meets_ensure_bind (fun _ => ?_) (fun _ _ => trivial)
    refine meets_ensure_bind (fun _ => ?_) (fun _ _ => trivial)
    refine meets_ensure_bind (fun _ => ?_) (fun _ _ => trivial)
    refine meets_ensure_bind (fun _ => ?_) (fun _ _ => trivial)
    refine meets_ensure_bind (fun _ => ?_) (fun _ _ => trivial)
    refine meets_onward_bind moved1.inv known (fun _ same => by cases same)
      (fun h2 (edits : Nat) inv2 known2 => ?_)
    refine meets_ensure_bind (fun _ => ?_) (fun _ _ => trivial)
    exact meets_mintAudience rfl inv2 known2

end

/-- Every call keeps to the agreement. -/
theorem meets_audience {call : Call}
    : (audienceProtocol env start).Meets t call (call.body env)
        (Protocol.Anything t call h.state) h := by
  cases call with
  | beginOauthAuthorize params allowlisted url draw now =>
    exact Meets.map (meets_beginOauthAuthorize.consequence (fun _ _ _ _ => trivial))
  | approveAuthorizeSession sessionToken bytes now =>
    exact Meets.map (meets_approveAuthorizeSession.consequence (fun _ _ _ _ => trivial))
  | redeemAuthorizationCode args draw now mintedAt =>
    exact Meets.map (meets_redeemAudience.consequence (fun _ _ _ _ => trivial))
  | _ => exact of_issues (.anything _) (fun _ _ _ => trivial) (fun _ _ _ => trivial)

theorem SessionFor.unique {tokenHash resource resource' : Text} (lawful : Lawful db)
    (first : SessionFor tokenHash resource db) (second : SessionFor tokenHash resource' db)
    : resource = resource' := by
  obtain ⟨session, mem, hash, rfl⟩ := first
  obtain ⟨session', mem', hash', rfl⟩ := second
  rw [lawful.sessionTokens.eq_of_key mem mem' (hash.trans hash'.symm)]

theorem CodeFor.unique {codeHash resource resource' : Text} (lawful : Lawful db)
    (first : CodeFor env codeHash resource db) (second : CodeFor env codeHash resource' db)
    : resource = resource' := by
  obtain ⟨code, mem, hash, rfl⟩ := first
  obtain ⟨code', mem', hash', rfl⟩ := second
  rw [lawful.codes.eq_of_key mem mem' (hash.trans hash'.symm)]

/-- A session that is added is known by its digest. -/
theorem sessionFor_insert {row : SessionRow} (free : taken db (.session row) = false)
    : SessionFor row.tokenHash row.resource (exec (.insert (.session row)) db).2 := by
  rw [exec_insert_of_free db free]
  exact ⟨row, mem_append_right _ (mem_singleton_self row), rfl, rfl⟩

theorem codeFor_insert {row : CodeRow} (free : taken db (.code row) = false)
    : CodeFor env row.codeHash
        ((truthy (some row.resource)).getD (canonicalCoreAuthResource env none))
        (exec (.insert (.code row)) db).2 := by
  rw [exec_insert_of_free db free]
  exact ⟨row, mem_append_right _ (mem_singleton_self row), rfl, rfl⟩

section

variable (env) (clients : List ClientRow) (schedule : List (Action authStore Call))
  {params : AuthorizeParams} {allowlisted : Except String Unit} {url : Url}

theorem sound_audience
    : (audienceProtocol env (initial clients)).Sound Protocol.Anything
        (authRun env clients schedule) :=
  (audienceProtocol env (initial clients)).sound (fun _ _ _ _ _ => meets_audience) nil
    schedule

theorem lawful_authRun : Lawful (authRun env clients schedule).state :=
  invariant (J := fun h => Lawful h.state) (sound_audience env clients schedule).inv
    (lawful_initial clients) (fun _ _ lawful => lawful.exec _)

/-- A thread's statement was promised, and what is true before or after it and kept is true at the end. -/
theorem promised_audience {thread : Nat} {call : Call} {issued : Issued authStore}
    (asked : (authRun env clients schedule).call thread = some call)
    (own : issued ∈ (authRun env clients schedule).history.own thread)
    : ∃ prior, AudiencePromise env thread call issued.command ⟨issued.before, prior⟩
      ∧ ∀ R : Database → Prop, (∀ db cmd, R db → R (exec cmd db).2)
        → R (exec issued.command issued.before).2
        → R (authRun env clients schedule).state := by
  obtain ⟨noted, rfl⟩ := History.mem_own.mp own
  obtain ⟨later, prior, split⟩ := append_of_mem noted
  have le : issued :: prior <:+ (authRun env clients schedule).history.log := ⟨later, split.symm⟩
  obtain ⟨call', same, inv, due⟩ :=
    Protocol.promised_at (fun _ _ _ _ _ => meets_audience) nil schedule le
  cases (same.symm.trans asked)
  refine ⟨prior, due, fun R keeps holds => ?_⟩
  have executed
      : (audienceProtocol env (initial clients)).inv
          (History.exec ⟨issued.before, prior⟩ issued.thread issued.command) :=
    Protocol.exec_inv _ inv due
  exact audience_later holds keeps executed ⟨le, (sound_audience env clients schedule).inv⟩

variable {env clients schedule}

theorem session_of_added {begun : Nat} {draw : SessionDraw} {now : Int} {session : SessionRow}
    (began
      : (authRun env clients schedule).call begun
        = some (.beginOauthAuthorize params allowlisted url draw now))
    (adds : session ∈ added Row.asSession (authRun env clients schedule) begun)
    : (requestedClass env params url).isSome = true
      ∧ SessionFor session.tokenHash (storedAudience env params url)
          (authRun env clients schedule).state := by
  obtain ⟨issued, own, row, cmd, free, picked⟩ := mem_added.mp adds
  obtain ⟨_, stores, keeps⟩ := promised_audience env clients schedule began own
  cases row with
  | session row =>
    obtain rfl := some.inj picked
    obtain ⟨classed, stored⟩ := stores row cmd
    refine ⟨classed, keeps _ (fun _ cmd known => known.exec cmd) ?_⟩
    rw [cmd, ← stored]
    exact sessionFor_insert free
  | _ => cases picked

theorem code_of_added {approving : Nat} {sessionToken : Text} {bytes : Bytes} {now : Int}
    {code : CodeRow}
    (approves
      : (authRun env clients schedule).call approving
        = some (.approveAuthorizeSession sessionToken bytes now))
    (adds : code ∈ added Row.asCode (authRun env clients schedule) approving)
    : SessionFor (hashSecret env sessionToken) code.resource (authRun env clients schedule).state
      ∧ CodeFor env code.codeHash
          ((truthy (some code.resource)).getD (canonicalCoreAuthResource env none))
          (authRun env clients schedule).state := by
  obtain ⟨issued, own, row, cmd, free, picked⟩ := mem_added.mp adds
  obtain ⟨_, takesOver, keeps⟩ := promised_audience env clients schedule approves own
  cases row with
  | code row =>
    obtain rfl := some.inj picked
    constructor
    · exact keeps _ (fun _ cmd known => known.exec cmd) ((takesOver row cmd).exec _)
    · refine keeps _ (fun _ cmd known => known.exec cmd) ?_
      rw [cmd]
      exact codeFor_insert free
  | _ => cases picked

theorem token_of_added {redeeming : Nat} {args : RedeemArgs} {draw : ConnectionDraw}
    {now mintedAt : Int} {token : AccessTokenRow}
    (redeems
      : (authRun env clients schedule).call redeeming
        = some (.redeemAuthorizationCode args draw now mintedAt))
    (adds : token ∈ added Row.asAccessToken (authRun env clients schedule) redeeming)
    : CodeFor env (hashSecret env args.code) token.resource
        (authRun env clients schedule).state := by
  obtain ⟨issued, own, row, cmd, free, picked⟩ := mem_added.mp adds
  obtain ⟨_, inherits, keeps⟩ := promised_audience env clients schedule redeems own
  cases row with
  | accessToken row =>
    obtain rfl := some.inj picked
    exact keeps _ (fun _ cmd known => known.exec cmd) ((inherits row cmd).exec _)
  | _ => cases picked

/-- A registered resource is stored as something. -/
theorem storedAudience_ne_nil (classed : (requestedClass env params url).isSome = true)
    : storedAudience env params url ≠ [] := by
  obtain ⟨klass, registered⟩ := isSome_iff_exists.mp classed
  have visible := trim_ne_nil_of_class registered
  cases messages : isCanonicalMessagesResource (requestedResource env params url) with
  | true =>
    rw [storedAudience, canonicalizeOauthResource_of_messages messages visible]
    decide
  | false => rwa [storedAudience, canonicalizeOauthResource_of_other messages visible]

/-- A token that was obtained with a session has the audience that the session's authorization stored.
Witness: the approval has found that session, and the redemption its code.
-/
theorem audience_of_obtained {begun : Nat} {draw : SessionDraw} {now : Int}
    {token : AccessTokenRow}
    (began
      : (authRun env clients schedule).call begun
        = some (.beginOauthAuthorize params allowlisted url draw now))
    (obtained : ObtainedFrom env (authRun env clients schedule) begun token)
    : (requestedClass env params url).isSome = true
      ∧ token.resource = storedAudience env params url := by
  have lawful := lawful_authRun env clients schedule
  obtain ⟨session, begins, approving, sessionToken, bytes, approvedAt, approves, hash, code, grants,
    redeeming, args, redemption, redeemedAt, mintedAt, redeems, hash', mints⟩ := obtained
  obtain ⟨classed, stored⟩ := session_of_added began begins
  obtain ⟨takenOver, granted⟩ := code_of_added approves grants
  have inherited := token_of_added redeems mints
  rw [hash] at takenOver
  rw [hash'] at inherited
  have approved : code.resource = storedAudience env params url := takenOver.unique lawful stored
  have redeemed := inherited.unique lawful granted
  have given : truthy (some code.resource) = some code.resource := by
    have nonempty : code.resource ≠ [] := approved ▸ storedAudience_ne_nil classed
    simp [truthy, Option.filter, nonempty]
  rw [given, getD_some, approved] at redeemed
  exact ⟨classed, redeemed⟩

variable (env clients schedule)

end

theorem exists_obtained {resource : Option Text} (obtains : Sample.obtains resource = true)
    : ∃ token, ObtainedFrom Sample.env
        (authRun Sample.env [Sample.client] (Sample.obtaining resource)) 2 token := by
  simp only [Sample.obtains, Bool.and_eq_true, List.any_eq_true, beq_iff_eq] at obtains
  obtain ⟨⟨⟨session, begins, hash⟩, code, grants, hash'⟩, token, mints, _⟩ := obtains
  exact ⟨token, session, begins, 4, randomToken "oastok" [0], [0], 0, call_run _ _ _ 4,
    hash.symm, code, grants, 5, Sample.unresourced, Sample.connectionDraw 0, 0, 0,
    call_run _ _ _ 5, hash'.symm, mints⟩

theorem exists_refused {resource : Option Text} (obtains : Sample.obtains resource = true)
    (misspelled : ¬ SpelledAsEnforced Sample.env (Sample.authorizing resource) Sample.url)
    : ∃ token,
        ObtainedFrom Sample.env (authRun Sample.env [Sample.client] (Sample.obtaining resource)) 2
          token
        ∧ ¬ AudiencesAgree Sample.env (Sample.authorizing resource) Sample.url token.resource := by
  obtain ⟨token, obtained⟩ := exists_obtained obtains
  have began
      : (authRun Sample.env [Sample.client] (Sample.obtaining resource)).call 2
        = some
            (.beginOauthAuthorize (Sample.authorizing resource) (.ok ()) Sample.url
              { sessionId := [0], sessionToken := [0] } 0) :=
    call_run _ _ _ 2
  obtain ⟨classed, stored⟩ := audience_of_obtained began obtained
  obtain ⟨klass, registered⟩ := isSome_iff_exists.mp classed
  refine ⟨token, obtained, fun agree => misspelled ?_⟩
  rw [stored] at agree
  exact (audiencesAgree_storedAudience registered).mp agree

end CairnStone.CoreAuth
