import CairnStone.CoreAuth.Tokens

/-! User authentication for `/oauth/authorize`: browser sessions, login invites, passkeys, and
consent. Every operation reads its session first and goes on with that copy.
-/

namespace CairnStone.CoreAuth

open JavaScript Concurrency

def AUTHORIZE_SESSION_TTL_SECONDS : Nat := 600

def WEBAUTHN_CHALLENGE_TTL_SECONDS : Nat := 120

def LOGIN_INVITE_TTL_SECONDS : Int := 15 * 60

def DEFAULT_WEBAUTHN_RP_ID : Text :=
  text "cairnstone-v6.jaredtechfit.workers.dev"

structure Owner where
  existing : Bool
  (accountId homeTenantId : Text)
  deriving DecidableEq

def ownerMarker (accountKey : Text) : Text :=
  let key := (accountKey.filter isWord).take 32
  text "owner_home_" ++ (if key = [] then text "owner" else key)

def createOwnerAccount (displayName accountKey : Text) (draw : AccountDraw) : Auth Owner := do
  let marker := ownerMarker accountKey
  let byMarker ← select (fun db => db.accounts.find? (·.homeWorkspaceId == some marker))
  match byMarker with
  | some account =>
    .done
      { existing := true, accountId := account.accountId, homeTenantId := account.homeTenantId }
  | none =>
    let (accountId, tenantId) ← provisionAccount draw (some displayName) (fun _ => marker)
    .done { existing := false, accountId, homeTenantId := tenantId }

structure InviteDraw where
  (inviteId inviteCode : Bytes)

structure InviteMinted where
  (inviteId inviteCode accountId tenantId : Text)
  (expiresIn expiresAt : Int)
  deriving DecidableEq

variable (env : Env)

def mintLoginInvite (accountId : Text) (ttlSeconds : Int) (draw : InviteDraw) (now : Int)
    : Auth InviteMinted := do
  let account ← require (← select (·.account accountId))
    { error := "account_not_found", status := some 404 }
  ensure (account.status = .active) { error := "account_not_active", status := some 403 }
  let ttl :=
    max 60 (min (if ttlSeconds = 0 then LOGIN_INVITE_TTL_SECONDS else ttlSeconds) (60 * 60))
  let inviteId := mintId .invite draw.inviteId
  let inviteCode := randomToken "csinv" draw.inviteCode
  let expiresAt := now + ttl * 1000
  insert
    (.invite
      { inviteHash := hashSecret env inviteCode, inviteId, targetAccountId := account.accountId
        targetTenantId := account.homeTenantId, status := .unused, expiresAt
        redeemedBySession := none })
  .done
    { inviteId, inviteCode, accountId := account.accountId, tenantId := account.homeTenantId
      expiresIn := ttl, expiresAt }

/-- The session behind a cookie, if it awaits authentication or approval. A session that has run
out is expired on the way.
-/
def loadAuthorizeSessionByToken (sessionToken : Text) (now : Int) : Auth SessionRow := do
  ensure (sessionToken ≠ []) { error := "authorize_session_required", status := some 401 }
  let row ← require (← select (·.sessionByToken (hashSecret env sessionToken)))
    { error := "authorize_session_not_found", status := some 401 }
  if row.expiresAt < now then
    let _ ← perform (.expireSession row.sessionId)
    refuse { error := "authorize_session_expired", status := some 401 }
  else
    ensure (row.status = .pendingAuth ∨ row.status = .authenticated)
      { error := "authorize_session_complete", status := some 400 }
    .done row

structure AuthorizeParams where
  (responseType clientId redirectUri codeChallenge : Text)
  (codeChallengeMethod resource scope state : Option Text)

/-- Random bytes of a browser session. -/
structure SessionDraw where
  (sessionId sessionToken : Bytes)

structure SessionStarted where
  (sessionId sessionToken : Text)
  scopes : List Text
  resource : Text
  state : Option Text
  iss : Text
  deriving DecidableEq

def requireRegisteredOpaqueClientRedirect (clientId redirectUri : Text) : Auth Unit := do
  let client ← require (← select (fun db => (db.client clientId).filter (·.active)))
    { error := "invalid_client", status := some 400, detail := some "unknown_client" }
  let uris ← require client.redirectUris
    { error := "invalid_client", status := some 400, detail := some "corrupt_client_record" }
  ensure (redirectUri ∈ uris)
    { error := "invalid_request", status := some 400, detail := some "redirect_uri_mismatch" }

/-- The client may be sent to the redirect URI. `allowlisted` is what fetching the metadata
document of a client that is named by its URL answers.
-/
def requireClient (clientId redirectUri : Text) (allowlisted : Except String Unit) : Auth Unit :=
  if isCimdClientId clientId then
    match allowlisted with
    | .ok _ => .done ()
    | .error error => refuse { error, status := some 400 }
  else requireRegisteredOpaqueClientRedirect clientId redirectUri

/-- Starts a pending session. -/
def beginOauthAuthorize (params : AuthorizeParams) (allowlisted : Except String Unit) (url : Url)
    (draw : SessionDraw) (now : Int)
    : Auth SessionStarted := do
  ensure (params.responseType = text "code")
    { error := "unsupported_response_type", status := some 400 }
  let clientId := trim params.clientId
  let redirectUri := trim params.redirectUri
  let codeChallenge := trim params.codeChallenge
  let resourceRaw :=
    (truthy (params.resource.map trim)).getD (canonicalCoreAuthResource env (some url))
  let resource := canonicalizeOauthResource resourceRaw
  let iss := authorizationServerIssuer env (some url)
  let scopes ← refuseOn (resolveResourceScopePolicy env resourceRaw params.scope url)
  ensure (clientId ≠ [] ∧ redirectUri ≠ [] ∧ codeChallenge ≠ [])
    { error := "invalid_request", status := some 400
      detail := some "client_id, redirect_uri, and code_challenge required" }
  ensure ((truthy params.codeChallengeMethod).all (· = text "S256"))
    { error := "invalid_request", status := some 400, detail := some "S256 required" }
  requireClient clientId redirectUri allowlisted
  let sessionId := mintId .session draw.sessionId
  let sessionToken := randomToken "oastok" draw.sessionToken
  insert
    (.session
      { sessionId, tokenHash := hashSecret env sessionToken, clientId, redirectUri, codeChallenge
        resource, scopes, state := params.state, iss, status := .pendingAuth, accountId := none
        tenantId := none, authenticatorId := none, authMethod := none, stepUpConfirmed := false
        offerPasskeyEnroll := false
        expiresAt := plusSeconds AUTHORIZE_SESSION_TTL_SECONDS now })
  .done { sessionId, sessionToken, scopes, resource, state := params.state, iss }

def markSessionAuthenticated (session : SessionRow) (authentication : SessionAuthentication)
    : Auth Unit := do
  let _ ← perform (.authenticateSession session.sessionId authentication)
  .done ()

/-- What a successful authentication reports. -/
structure Authenticated where
  (accountId tenantId authenticatorId : Text)
  authMethod : SessionMethod
  stepUpConfirmed : Bool
  deriving DecidableEq

def bumpRateBucket (bucketKey : Text) (windowStart : Int) : Auth Unit := do
  let row ← select (·.rateBucket bucketKey)
  match row.filter (·.windowStart == windowStart) with
  | none =>
    let _ ← perform (.resetRateBucket bucketKey windowStart)
    .done ()
  | some row =>
    ensure (row.count < env.loginInviteRateLimitMax)
      { error := "slow_down", status := some 429 }
    let _ ← perform (.setRateCount bucketKey (row.count + 1))
    .done ()

def rateWindowStart (clock : Int) : Auth Int :=
  let window : Int := env.loginInviteRateLimitWindowSeconds * 1000
  if window = 0 then .fail .rangeError else .done (clock - clock % window)

def consumeInviteRateLimit (clientIp clientId : Text) (clock : Int) : Auth Unit := do
  let windowStart ← rateWindowStart env clock
  bumpRateBucket env (text "ip:" ++ (if clientIp = [] then text "unknown" else clientIp))
    windowStart
  if clientId = [] then .done ()
  else bumpRateBucket env (text "client:" ++ clientId.take 128) windowStart

def ensureInviteAuthenticator (accountId : Text) (bytes : Bytes) : Auth AuthenticatorRow := do
  let existing ← select (fun db =>
    db.authenticators.find? (fun row =>
      row.accountId == accountId && row.method == .otherApproved && row.status == .active))
  match existing with
  | some authenticator => .done authenticator
  | none =>
    let authenticator : AuthenticatorRow :=
      { authenticatorId := mintId .authenticator bytes, accountId, method := .otherApproved
        status := .active, assuranceClass := .otherApproved, walletAccountId := none }
    insert (.authenticator authenticator)
    .done authenticator

structure InviteArgs where
  (sessionToken inviteCode clientIp : Text)

/-- `now` is the caller's reading of the clock, and `clock` the one that the rate limit makes. -/
def redeemLoginInviteForSession (args : InviteArgs) (bytes : Bytes) (now clock : Int)
    : Auth Authenticated := do
  let session ← loadAuthorizeSessionByToken env args.sessionToken now
  ensure (session.status = .pendingAuth)
    { error := "authorize_session_not_pending", status := some 400 }
  consumeInviteRateLimit env args.clientIp session.clientId clock
  ensure (trim args.inviteCode ≠ []) { error := "invalid_invite", status := some 400 }
  let inviteHash := hashSecret env (trim args.inviteCode)
  let invite ← require (← select (·.invite inviteHash))
    { error := "invalid_invite", status := some 400 }
  ensure (invite.status = .unused) { error := "invite_reuse_rejected", status := some 400 }
  if invite.expiresAt < now then
    let _ ← perform (.expireInvite inviteHash)
    refuse { error := "invite_expired", status := some 400 }
  else
    let changes : Nat ← perform (.redeemInvite inviteHash session.sessionId)
    ensure (changes = 1) { error := "invite_reuse_rejected", status := some 400 }
    let account ← require
      (← select (fun db => (db.account invite.targetAccountId).filter (·.status == .active)))
      { error := "account_not_active", status := some 403 }
    let authenticator ← ensureInviteAuthenticator account.accountId bytes
    markSessionAuthenticated session
      { accountId := account.accountId
        tenantId :=
          if invite.targetTenantId = [] then account.homeTenantId else invite.targetTenantId
        authenticatorId := authenticator.authenticatorId, authMethod := .inviteCode
        stepUpConfirmed := false, offerPasskeyEnroll := true }
    .done
      { accountId := account.accountId, tenantId := account.homeTenantId
        authenticatorId := authenticator.authenticatorId, authMethod := .inviteCode
        stepUpConfirmed := false }

/-- What a browser sends. Members that are no strings are `none`. -/
structure Credential where
  (id rawId clientDataJSON authenticatorData signature attestationObject : Option Text)

def Credential.credentialId (credential : Credential) : Option Text :=
  match truthy credential.rawId with
  | some rawId => some rawId
  | none => credential.id

def resolveWebAuthnRp (url : Url) : Text × Text :=
  let rpId :=
    match truthy (env.webAuthnRpId.map trim) with
    | some rpId => rpId
    | none => if url.hostname = [] then DEFAULT_WEBAUTHN_RP_ID else url.hostname
  (rpId, (configuredUrl env.webAuthnOrigin).getD url.origin)

def createWebAuthnChallenge (purpose : ChallengePurpose) (sessionId : Text) (bytes : Bytes)
    (now : Int)
    : Auth Text := do
  let challenge := base64Url (bytes.map Fin.val)
  insert
    (.challenge
      { challengeHash := hashSecret env challenge, purpose, sessionId, status := .unused
        expiresAt := plusSeconds WEBAUTHN_CHALLENGE_TTL_SECONDS now })
  .done challenge

def consumeWebAuthnChallenge (challenge : Text) (purpose : ChallengePurpose) (sessionId : Text)
    (now : Int)
    : Auth Unit := do
  let challengeHash := hashSecret env challenge
  let row ← require (← select (·.challenge challengeHash))
    { error := "challenge_invalid", status := some 400 }
  ensure (row.purpose = purpose) { error := "challenge_purpose_mismatch", status := some 400 }
  ensure (row.sessionId = [] ∨ row.sessionId = sessionId)
    { error := "challenge_session_mismatch", status := some 400 }
  ensure (row.status = .unused) { error := "challenge_reuse_rejected", status := some 400 }
  if row.expiresAt < now then
    let _ ← perform (.expireChallenge challengeHash)
    refuse { error := "challenge_expired", status := some 400 }
  else
    let changes : Nat ← perform (.useChallenge challengeHash)
    ensure (changes = 1) { error := "challenge_reuse_rejected", status := some 400 }

def createAssertionOptions (sessionToken : Text) (bytes : Bytes) (now : Int) : Auth Text := do
  let session ← loadAuthorizeSessionByToken env sessionToken now
  ensure (session.status = .pendingAuth)
    { error := "authorize_session_not_pending", status := some 400 }
  createWebAuthnChallenge env .assertion session.sessionId bytes now

def verifyAssertionForSession (sessionToken : Text) (credential : Credential) (url : Url)
    (now : Int)
    : Auth Authenticated := do
  let session ← loadAuthorizeSessionByToken env sessionToken now
  ensure (session.status = .pendingAuth)
    { error := "authorize_session_not_pending", status := some 400 }
  let (rpId, origin) := resolveWebAuthnRp env url
  let clientDataJSON ← require credential.clientDataJSON
    { error := "assertion_missing_client_data", status := some 400 }
  let expectedChallenge ← require (env.clientDataChallenge clientDataJSON)
    { error := "client_data_json_invalid", status := some 400 }
  consumeWebAuthnChallenge env expectedChallenge .assertion session.sessionId now
  let credentialId ← require (truthy credential.credentialId)
    { error := "credential_id_required", status := some 400 }
  let passkey ← require (← select (fun db => (db.passkey credentialId).filter (·.active)))
    { error := "passkey_not_found", status := some 400 }
  let verified :=
    env.verifyAssertion
      { credentialId, authenticatorData := credential.authenticatorData, clientDataJSON
        signature := credential.signature, expectedChallenge, expectedOrigin := origin, rpId
        publicKey := passkey.publicKey, previousSignCount := passkey.signCount }
  match verified with
  | .error error => refuse { error, status := some 400 }
  | .ok signCount =>
    let _ ← perform (.setSignCount credentialId signCount)
    let account ← require
      (← select (fun db => (db.account passkey.accountId).filter (·.status == .active)))
      { error := "account_not_active", status := some 403 }
    markSessionAuthenticated session
      { accountId := account.accountId, tenantId := account.homeTenantId
        authenticatorId := passkey.authenticatorId, authMethod := .passkeyWebauthn
        stepUpConfirmed := true, offerPasskeyEnroll := false }
    .done
      { accountId := account.accountId, tenantId := account.homeTenantId
        authenticatorId := passkey.authenticatorId, authMethod := .passkeyWebauthn
        stepUpConfirmed := true }

def createRegistrationOptions (sessionToken : Text) (bytes : Bytes) (now : Int)
    : Auth (Text × List Text) := do
  let session ← loadAuthorizeSessionByToken env sessionToken now
  ensure (session.status = .authenticated)
    { error := "authorize_session_not_authenticated", status := some 401 }
  let challenge ← createWebAuthnChallenge env .registration session.sessionId bytes now
  let excludeCredentials ← select (fun db =>
    (db.passkeys.filter (fun row => some row.accountId == session.accountId && row.active)).map
      (·.credentialId))
  .done (challenge, excludeCredentials)

structure Enrolled where
  (accountId authenticatorId credentialId : Text)
  deriving DecidableEq

def verifyRegistrationForSession (sessionToken : Text) (credential : Credential) (url : Url)
    (bytes : Bytes) (now : Int)
    : Auth Enrolled := do
  let session ← loadAuthorizeSessionByToken env sessionToken now
  ensure (session.status = .authenticated)
    { error := "authorize_session_not_authenticated", status := some 401 }
  let (rpId, origin) := resolveWebAuthnRp env url
  let clientDataJSON ← require credential.clientDataJSON
    { error := "registration_missing_client_data", status := some 400 }
  let expectedChallenge ← require (env.clientDataChallenge clientDataJSON)
    { error := "client_data_json_invalid", status := some 400 }
  consumeWebAuthnChallenge env expectedChallenge .registration session.sessionId now
  let verified :=
    env.verifyRegistration
      { credentialId := credential.credentialId
        attestationObject := credential.attestationObject, clientDataJSON, expectedChallenge
        expectedOrigin := origin, rpId }
  match verified with
  | .error error => refuse { error, status := some 400 }
  | .ok enrolled =>
    let existingCred ← select (·.passkey enrolled.credentialId)
    ensure existingCred.isNone { error := "passkey_already_registered", status := some 400 }
    let authenticatorId := mintId .authenticator bytes
    match session.accountId with
    | none => .fail (.thrown .notNull)
    | some accountId =>
      insert
        (.authenticator
          { authenticatorId, accountId, method := .passkeyWebauthn, status := .active
            assuranceClass := .webauthn, walletAccountId := none })
      insert
        (.passkey
          { credentialId := enrolled.credentialId, accountId, authenticatorId
            publicKey := enrolled.publicKey, signCount := enrolled.signCount
            active := true })
      let _ ← perform (.preferPasskey session.sessionId authenticatorId)
      .done { accountId, authenticatorId, credentialId := enrolled.credentialId }

structure Approved where
  (code redirectUri iss : Text)
  state : Option Text
  accountId : Text
  scopes : List Text
  stepUpConfirmed : Bool
  deriving DecidableEq

def approveAuthorizeSession (sessionToken : Text) (bytes : Bytes) (now : Int)
    : Auth Approved := do
  let session ← loadAuthorizeSessionByToken env sessionToken now
  ensure (session.status = .authenticated)
    { error := "authentication_required", status := some 401
      detail := some "Sign in before approving" }
  let unauthenticated : Refusal := { error := "authentication_required", status := some 401 }
  let accountId ← require (truthy session.accountId) unauthenticated
  let tenantId ← require (truthy session.tenantId) unauthenticated
  let authenticatorId ← require (truthy session.authenticatorId) unauthenticated
  let changes : Nat ← perform (.approveSession session.sessionId)
  ensure (changes = 1)
    { error := "authorize_already_approved", status := some 409
      detail := some "This authorization request was already approved" }
  let code ← createAuthorizationCode env
    { accountId, tenantId, authenticatorId, clientId := session.clientId
      redirectUri := session.redirectUri, codeChallenge := session.codeChallenge
      resource := session.resource, scopes := session.scopes, iss := session.iss
      stepUpConfirmed := session.stepUpConfirmed }
    bytes now
  .done
    { code, redirectUri := session.redirectUri, iss := session.iss, state := session.state
      accountId, scopes := session.scopes, stepUpConfirmed := session.stepUpConfirmed }

def denyAuthorizeSession (sessionToken : Text) (now : Int) : Auth SessionRow := do
  let session ← loadAuthorizeSessionByToken env sessionToken now
  let _ ← perform (.denySession session.sessionId)
  .done session

end CairnStone.CoreAuth
