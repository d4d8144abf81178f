import CairnStone.CoreAuth.Resources

/-! Accounts, connections and token families: provisioning, minting, rotation, revocation, the
authorization versions, and the validation of access tokens. Canary admissions are written on
the way, and read by none of these calls; they are left out.
-/

namespace CairnStone.CoreAuth

open JavaScript Concurrency

/-- A parameter that is given and not empty. -/
def truthy (value : Option Text) : Option Text :=
  value.filter (· ≠ [])

def ACCESS_TOKEN_TTL_SECONDS : Nat := 900

def REFRESH_TOKEN_TTL_SECONDS : Nat := 30 * 24 * 60 * 60

def AUTH_CODE_TTL_SECONDS : Nat := 120

def plusSeconds (seconds : Nat) (now : Int) : Int :=
  now + seconds * 1000

def AccountRow.Barred (account : AccountRow) : Prop :=
  account.status = .suspended ∨ account.status = .closed

instance (account : AccountRow) : Decidable account.Barred :=
  inferInstanceAs (Decidable (_ ∨ _))

structure PairDraw where
  (accessToken refreshToken : Bytes)

structure FamilyDraw extends PairDraw where
  tokenFamilyId : Bytes

/-- Random bytes of a connection. -/
structure ConnectionDraw extends FamilyDraw where
  (connectionId principalId : Bytes)

structure TokenPair where
  (accessToken refreshToken : Text)
  expiresIn : Nat
  (scope resource : Text)
  deriving DecidableEq

structure Minted extends TokenPair where
  tokenFamily : TokenFamilyRow
  deriving DecidableEq

variable (env : Env)

def issueTokenPair (family : TokenFamilyRow) (refreshGeneration : Nat) (draw : PairDraw)
    (now : Int)
    : Auth TokenPair := do
  let accessToken := randomToken "csat" draw.accessToken
  let refreshToken := randomToken "csrt" draw.refreshToken
  insert
    (.accessToken
      { tokenHash := hashSecret env accessToken, tokenFamilyId := family.tokenFamilyId
        principalId := family.principalId, accountId := family.accountId
        tenantId := family.tenantId, connectionId := family.connectionId
        resource := family.resource, scopes := family.scopes, authzVersion := family.authzVersion
        expiresAt := plusSeconds ACCESS_TOKEN_TTL_SECONDS now, revokedAt := none })
  insert
    (.refreshToken
      { tokenHash := hashSecret env refreshToken, tokenFamilyId := family.tokenFamilyId
        principalId := family.principalId, accountId := family.accountId
        tenantId := family.tenantId, connectionId := family.connectionId, refreshGeneration
        status := .active, expiresAt := plusSeconds REFRESH_TOKEN_TTL_SECONDS now })
  .done
    { accessToken, refreshToken, expiresIn := ACCESS_TOKEN_TTL_SECONDS
      scope := List.intercalate [0x20] family.scopes, resource := family.resource }

def mintTokenFamily (connection : ConnectionRow) (authenticatorId resource : Text)
    (scopes : List Text) (authzVersion : Nat) (draw : FamilyDraw) (now : Int)
    : Auth Minted := do
  let family : TokenFamilyRow :=
    { tokenFamilyId := mintId .tokenFamily draw.tokenFamilyId
      connectionId := connection.connectionId, principalId := connection.principalId
      accountId := connection.accountId, tenantId := connection.tenantId
      originAuthenticatorId := authenticatorId, resource, scopes := parseScopes scopes
      status := .active, authzVersion, refreshGeneration := 0 }
  insert (.family family)
  let tokens ← issueTokenPair env family 0 draw.toPairDraw now
  .done { toTokenPair := tokens, tokenFamily := family }

def claimRoutingAlias (connection : ConnectionRow) (aliasName : Text) : Auth Unit := do
  let existing ← select (·.routingAlias aliasName)
  match existing with
  | some row =>
    ensure (row.active ∧ row.principalId = connection.principalId)
      { error := "alias_claim_conflict", status := some 403 }
  | none =>
    let inserted : Except SqlError Unit ←
      perform
        (.insert
          (.routingAlias
            { aliasName, principalId := connection.principalId
              accountId := connection.accountId, tenantId := connection.tenantId
              active := true }))
    match inserted with
    | .ok _ => .done ()
    | .error _ => refuse { error := "alias_claim_race", status := some 403 }

def claimRoutingAliases (connection : ConnectionRow) : List Text → Auth Unit
  | [] => .done ()
  | aliasName :: rest => do
    claimRoutingAlias connection aliasName
    claimRoutingAliases connection rest

def openConnection (connection : ConnectionRow) (authenticatorId resource : Text)
    (scopes : List Text) (authzVersion : Nat) (draw : FamilyDraw) (now : Int)
    : Auth Minted := do
  insert (.connection connection)
  claimRoutingAliases connection connection.routingAliases
  mintTokenFamily env connection authenticatorId resource scopes authzVersion draw now

structure MintArgs where
  accountId : Text
  tenantId : Option Text
  (authenticatorId clientFamily : Text)
  routingAliases : List Text
  resource : Option Text
  scopes : List Text
  stepUpConfirmed : Bool

structure ConnectionMinted where
  account : AccountRow
  authenticator : AuthenticatorRow
  connection : ConnectionRow
  stepUpConfirmed : Bool
  minted : Minted
  deriving DecidableEq

def mintConnectionUnderAccount (args : MintArgs) (draw : ConnectionDraw) (now : Int)
    : Auth ConnectionMinted := do
  let resource := (truthy args.resource).getD (canonicalCoreAuthResource env none)
  let account ← require (← select (·.account args.accountId)) { error := "account_not_found" }
  ensure (¬ account.Barred)
    { error := "account_not_active", accountStatus := some account.status }
  let tenantId := (truthy args.tenantId).getD account.homeTenantId
  let _ ← require (← select (·.activeMembership args.accountId tenantId))
    { error := "tenant_membership_required", status := some 403 }
  let authenticator ← require
    (← select (fun db =>
      (db.authenticatorOf args.authenticatorId args.accountId).filter (·.status == .active)))
    { error := "authenticator_not_found" }
  let connection : ConnectionRow :=
    { connectionId := mintId .connection draw.connectionId
      principalId := mintId .principal draw.principalId, accountId := args.accountId, tenantId
      status := .active, clientFamily := args.clientFamily
      routingAliases := args.routingAliases.take 16 }
  let minted ← openConnection env connection args.authenticatorId resource (parseScopes args.scopes)
    account.authzVersion draw.toFamilyDraw now
  .done
    { account, authenticator, connection, stepUpConfirmed := args.stepUpConfirmed, minted }

structure AccountDraw where
  (tenantId accountId : Bytes)

/-- Random bytes of a provisioned account. -/
structure BootstrapDraw extends ConnectionDraw where
  account : AccountDraw
  (walletAccountId authenticatorId : Bytes)

def AUTHENTICATOR_METHOD_ASSURANCE : AuthenticatorMethod → AssuranceClass
  | .walletProof => .walletOwnership
  | .passkeyWebauthn => .webauthn
  | .custodialIdp => .oidc
  | .otherApproved => .otherApproved

def validateAuthenticatorPair (method : AuthenticatorMethod) (assuranceClass : AssuranceClass)
    : Auth Unit :=
  ensure (assuranceClass = AUTHENTICATOR_METHOD_ASSURANCE method)
    { error := "authenticator_method_assurance_mismatch" }

def provisionAccount (draw : AccountDraw) (displayName : Option Text)
    (homeWorkspaceId : Text → Text)
    : Auth (Text × Text) := do
  let tenantId := mintId .tenant draw.tenantId
  let accountId := mintId .account draw.accountId
  insert (.tenant tenantId)
  insert
    (.account
      { accountId, homeTenantId := tenantId, status := .active, displayName
        homeWorkspaceId := some (homeWorkspaceId accountId)
        homeCodeSessionId := some (text "cs_home_" ++ (accountId.take 21).drop 5)
        authzVersion := 1 })
  insert (.membership { accountId, tenantId, status := .active, authzVersion := 1 })
  .done (accountId, tenantId)

structure BootstrapArgs where
  clientFamily : Text
  method : AuthenticatorMethod
  assuranceClass : AssuranceClass
  displayName : Option Text
  routingAliases : List Text
  resource : Option Text
  scopes : List Text
  (existingAccountId selectTenantId : Option Text)
  mintConnection : Bool

structure Bootstrapped where
  account : AccountRow
  authenticator : AuthenticatorRow
  minted : Option (ConnectionRow × Minted)
  deriving DecidableEq

/-- The account and the tenant to provision under: the given ones, or new ones. A new account is
read back.
-/
def bootstrapAccount (args : BootstrapArgs) (draw : AccountDraw) : Auth (AccountRow × Text) := do
  match truthy args.existingAccountId with
  | some accountId =>
    let account ← require (← select (·.account accountId)) { error := "account_not_found" }
    ensure (¬ account.Barred)
      { error := "account_not_active", accountStatus := some account.status }
    let tenantId := (truthy args.selectTenantId).getD account.homeTenantId
    let _ ← require (← select (·.activeMembership accountId tenantId))
      { error := "tenant_membership_required", status := some 403 }
    .done (account, tenantId)
  | none =>
    let (accountId, tenantId) ← provisionAccount draw args.displayName
      (fun accountId => text "ws_home_" ++ (accountId.take 21).drop 5)
    let account ← require (← select (·.account accountId)) { error := "account_not_found" }
    .done (account, tenantId)

def provisionWallet (method : AuthenticatorMethod) (bytes : Bytes) : Auth (Option Text) :=
  if method = .walletProof then do
    let walletAccountId := mintId .walletAccount bytes
    insert (.walletAccount walletAccountId)
    .done (some walletAccountId)
  else .done none

def bootstrapAccountConnection (args : BootstrapArgs) (draw : BootstrapDraw) (now : Int)
    : Auth Bootstrapped := do
  validateAuthenticatorPair args.method args.assuranceClass
  let resource := (truthy args.resource).getD (canonicalCoreAuthResource env none)
  let (account, tenantId) ← bootstrapAccount args draw.account
  let walletAccountId ← provisionWallet args.method draw.walletAccountId
  let authenticator : AuthenticatorRow :=
    { authenticatorId := mintId .authenticator draw.authenticatorId
      accountId := account.accountId, method := args.method, status := .active
      assuranceClass := args.assuranceClass, walletAccountId }
  insert (.authenticator authenticator)
  if args.mintConnection then
    let connection : ConnectionRow :=
      { connectionId := mintId .connection draw.connectionId
        principalId := mintId .principal draw.principalId, accountId := account.accountId
        tenantId, status := .active, clientFamily := args.clientFamily
        routingAliases := args.routingAliases.take 16 }
    let minted ← openConnection env connection authenticator.authenticatorId resource
      (parseScopes args.scopes) account.authzVersion draw.toFamilyDraw now
    .done { account, authenticator, minted := some (connection, minted) }
  else .done { account, authenticator, minted := none }

def revokeTokenFamily (tokenFamilyId : Text) (now : Int) : Auth Unit := do
  let _ ← require (← select (·.family tokenFamilyId)) { error := "token_family_not_found" }
  let _ ← perform (.revokeFamily tokenFamilyId)
  let _ ← perform (.revokeRefreshTokens tokenFamilyId)
  let _ ← perform (.revokeAccessTokens tokenFamilyId now)
  .done ()

def revokeTokenFamilies (now : Int) : List Text → Auth Unit
  | [] => .done ()
  | tokenFamilyId :: rest => do
    let _ ← (revokeTokenFamily tokenFamilyId now).attempt
    revokeTokenFamilies now rest

def revokeConnection (connectionId : Text) (now : Int) : Auth Unit := do
  let _ ← require (← select (·.connection connectionId)) { error := "connection_not_found" }
  let _ ← perform (.revokeConnection connectionId)
  let listed : List Text ← perform (.listFamiliesOfConnection connectionId)
  revokeTokenFamilies now listed

def revokeAuthenticator (authenticatorId : Text) (stepUpConfirmed : Bool) (now : Int)
    : Auth Nat := do
  ensure stepUpConfirmed { error := "step_up_required", status := some 403 }
  let _ ← require (← select (·.authenticator authenticatorId))
    { error := "authenticator_not_found" }
  let _ ← perform (.revokeAuthenticator authenticatorId)
  let listed : List Text ← perform (.listFamiliesOfAuthenticator authenticatorId)
  revokeTokenFamilies now listed
  .done listed.length

structure ReplaceArgs where
  (accountId previousAuthenticatorId : Text)
  method : AuthenticatorMethod
  assuranceClass : AssuranceClass
  stepUpConfirmed : Bool

structure ReplaceDraw where
  (walletAccountId authenticatorId : Bytes)

def replacementWallet (previous : AuthenticatorRow) (method : AuthenticatorMethod)
    (bytes : Bytes)
    : Auth (Option Text) :=
  match truthy previous.walletAccountId with
  | some walletAccountId => .done (some walletAccountId)
  | none => provisionWallet method bytes

def replaceAuthenticator (args : ReplaceArgs) (draw : ReplaceDraw) : Auth Text := do
  ensure args.stepUpConfirmed { error := "step_up_required", status := some 403 }
  validateAuthenticatorPair args.method args.assuranceClass
  let _ ← require (← select (·.account args.accountId)) { error := "account_not_found" }
  let previous ← require
    (← select (·.authenticatorOf args.previousAuthenticatorId args.accountId))
    { error := "authenticator_not_found" }
  let _ ← perform (.replaceAuthenticator args.previousAuthenticatorId)
  let walletAccountId ← replacementWallet previous args.method draw.walletAccountId
  let authenticatorId := mintId .authenticator draw.authenticatorId
  insert
    (.authenticator
      { authenticatorId, accountId := args.accountId, method := args.method, status := .active
        assuranceClass := args.assuranceClass, walletAccountId })
  .done authenticatorId

def bumpAuthzVersion (accountId : Text) (tenantId : Option Text) : Auth Nat := do
  match truthy tenantId with
  | some tenantId =>
    let membership ← require (← select (·.membership accountId tenantId))
      { error := "membership_not_found" }
    let next := membership.authzVersion + 1
    let _ ← perform (.revokeMembership accountId tenantId next)
    .done next
  | none =>
    let account ← require (← select (·.account accountId)) { error := "account_not_found" }
    let next := account.authzVersion + 1
    let _ ← perform (.setAccountVersion accountId next)
    .done next

def ensureTenant (tenantId : Text) : Auth Unit := do
  let known ← select (·.tenants.contains tenantId)
  if known then .done () else insert (.tenant tenantId)

def joinTenant (accountId tenantId : Text) : Auth Unit := do
  let _ ← require (← select (·.account accountId)) { error := "account_not_found" }
  ensureTenant tenantId
  let _ ← perform (.upsertMembership accountId tenantId)
  .done ()

def bindConnectionTenant (connectionId tenantId : Text) : Auth Unit := do
  let connection ← require (← select (·.connection connectionId))
    { error := "connection_not_found" }
  let _ ← require (← select (·.activeMembership connection.accountId tenantId))
    { error := "tenant_membership_required", status := some 403 }
  let _ ← perform (.setConnectionTenant connectionId tenantId)
  .done ()

structure Freshness where
  account : AccountRow
  membership : MembershipRow
  connection : ConnectionRow

/-- The account and the membership are not newer than the family, and the connection stands. Each
row is read at an instant of its own.
-/
def enforceAuthzFreshness (family : TokenFamilyRow) : Auth Freshness := do
  let account ← require (← select (·.account family.accountId))
    { error := "account_not_found", status := some 401 }
  ensure (¬ account.Barred) { error := "account_not_active", status := some 403 }
  let membership ← require (← select (·.activeMembership family.accountId family.tenantId))
    { error := "stale_authz_version", status := some 403 }
  ensure (max account.authzVersion membership.authzVersion ≤ family.authzVersion)
    { error := "stale_authz_version", status := some 403 }
  let connection ← require
    (← select (fun db => (db.connection family.connectionId).filter (·.status == .active)))
    { error := "connection_revoked", status := some 401 }
  .done { account, membership, connection }

structure Rotated extends TokenPair where
  tokenFamilyId : Text
  refreshGeneration : Nat
  deriving DecidableEq

def rotateRefreshToken (refreshToken : Text) (expectedResource : Option Text) (draw : PairDraw)
    (now : Int)
    : Auth Rotated := do
  let invalidGrant : Refusal := { error := "invalid_grant", status := some 401 }
  let tokenHash := hashSecret env refreshToken
  let row ← require (← select (·.refreshToken tokenHash)) invalidGrant
  if row.status ≠ .active then
    let _ ← (revokeTokenFamily row.tokenFamilyId now).attempt
    refuse { invalidGrant with familyRevoked := true }
  else
    ensure (now ≤ row.expiresAt) invalidGrant
    let family ← require
      (← select (fun db => (db.family row.tokenFamilyId).filter (·.status == .active)))
      invalidGrant
    ensure ((truthy expectedResource).all (oauthResourcesMatch family.resource)) invalidGrant
    let _ ← enforceAuthzFreshness family
    -- How many rows this changes is not looked at.
    let _ ← perform (.markRotated tokenHash)
    let nextGen := family.refreshGeneration + 1
    let _ ← perform (.setRefreshGeneration family.tokenFamilyId nextGen)
    let tokens ← issueTokenPair env family nextGen draw now
    .done
      { toTokenPair := tokens, tokenFamilyId := family.tokenFamilyId
        refreshGeneration := nextGen }

structure ValidateArgs where
  accessToken : Text
  expectedResource : Option Text
  acceptedResources : List Text
  url : Option Url

structure AuthContext where
  (accountId tenantId connectionId principalId : Text)
  authenticatorAssurance : Option AssuranceClass
  (clientFamily resource : Text)
  scopes : List Text
  tokenFamilyId : Text
  authzVersion : Nat
  accountStatus : AccountStatus
  (connectionStatus tokenFamilyStatus : GrantStatus)
  (homeWorkspaceId homeCodeSessionId : Option Text)
  deriving DecidableEq

/-- The context names the tenant of the connection. -/
def buildAuthContext (account : AccountRow) (connection : ConnectionRow)
    (tokenFamily : TokenFamilyRow) (authenticator : Option AuthenticatorRow)
    (scopes : List Text) (resource : Text)
    : AuthContext where
  accountId := account.accountId
  tenantId := connection.tenantId
  connectionId := connection.connectionId
  principalId := connection.principalId
  authenticatorAssurance := authenticator.map (·.assuranceClass)
  clientFamily := connection.clientFamily
  resource := resource
  scopes := scopes
  tokenFamilyId := tokenFamily.tokenFamilyId
  authzVersion := tokenFamily.authzVersion
  accountStatus := account.status
  connectionStatus := connection.status
  tokenFamilyStatus := tokenFamily.status
  homeWorkspaceId := account.homeWorkspaceId
  homeCodeSessionId := account.homeCodeSessionId

structure Validated where
  context : AuthContext
  expiresAt : Int
  deriving DecidableEq

/-- `/\/mcp-b\/?$/` -/
def isMcpB (resource : Text) : Bool :=
  (text "/mcp-b").isSuffixOf resource || (text "/mcp-b/").isSuffixOf resource

def validateAccessToken (args : ValidateArgs) (now : Int) : Auth Validated := do
  let invalidToken : Refusal := { error := "invalid_token", status := some 401 }
  ensure (trim args.accessToken ≠ []) invalidToken
  ensure ((text "csat_").isPrefixOf args.accessToken)
    { error := "foreign_or_malformed_token", status := some 401 }
  let row ← require (← select (·.accessToken (hashSecret env (trim args.accessToken))))
    invalidToken
  ensure row.revokedAt.isNone invalidToken
  ensure (now ≤ row.expiresAt) invalidToken
  let resource := (truthy args.expectedResource).getD (canonicalCoreAuthResource env args.url)
  let allowedAudiences :=
    if args.acceptedResources ≠ [] then args.acceptedResources else [resource]
  ensure (row.resource ∈ allowedAudiences)
    { invalidToken with reason := some "audience_mismatch" }
  ensure (¬ isMcpB row.resource) { invalidToken with reason := some "mcp_b_not_auth" }
  let family ← require
    (← select (fun db => (db.family row.tokenFamilyId).filter (·.status == .active)))
    invalidToken
  ensure (row.principalId = family.principalId ∧ row.connectionId = family.connectionId)
    { invalidToken with reason := some "family_principal_mismatch" }
  let fresh ← enforceAuthzFreshness family
  let authenticator ← select (·.authenticator family.originAuthenticatorId)
  .done
    { context :=
        buildAuthContext fresh.account fresh.connection family authenticator row.scopes
          row.resource
      expiresAt := row.expiresAt }

structure CodeArgs where
  (accountId tenantId authenticatorId clientId redirectUri codeChallenge resource : Text)
  scopes : List Text
  iss : Text
  stepUpConfirmed : Bool

def createAuthorizationCode (args : CodeArgs) (bytes : Bytes) (now : Int) : Auth Text := do
  let code := randomToken "csac" bytes
  insert
    (.code
      { codeHash := hashSecret env code, accountId := args.accountId, tenantId := args.tenantId
        authenticatorId := args.authenticatorId, clientId := args.clientId
        redirectUri := args.redirectUri, codeChallenge := args.codeChallenge
        resource := args.resource, scopes := parseScopes args.scopes, iss := args.iss
        status := .unused, expiresAt := plusSeconds AUTH_CODE_TTL_SECONDS now
        stepUpConfirmed := args.stepUpConfirmed })
  .done code

structure RedeemArgs where
  (code codeVerifier redirectUri clientId : Text)
  (resource expectedIss : Option Text)

def isCimdClientId (clientId : Text) : Bool :=
  (text "https://").isPrefixOf clientId

/-- `now` is the caller's reading of the clock, and `mintedAt` the one that minting makes. -/
def redeemAuthorizationCode (args : RedeemArgs) (draw : ConnectionDraw) (now mintedAt : Int)
    : Auth ConnectionMinted := do
  let invalidGrant : Refusal := { error := "invalid_grant" }
  let codeHash := hashSecret env args.code
  let row ← require (← select (·.code codeHash)) invalidGrant
  ensure (row.status = .unused) invalidGrant
  if row.expiresAt < now then
    let _ ← perform (.expireCode codeHash)
    refuse invalidGrant
  else
    ensure (row.clientId = args.clientId) invalidGrant
    ensure (row.redirectUri = args.redirectUri) invalidGrant
    ensure ((truthy args.expectedIss).all (row.iss = ·))
      { invalidGrant with reason := some "issuer_mismatch" }
    ensure ((truthy args.resource).all (oauthResourcesMatch row.resource))
      { invalidGrant with reason := some "resource_mismatch" }
    ensure (pkceChallengeS256 env args.codeVerifier = row.codeChallenge)
      { invalidGrant with reason := some "pkce_mismatch" }
    let changes : Nat ← perform (.useCode codeHash)
    ensure (changes = 1) invalidGrant
    mintConnectionUnderAccount env
      { accountId := row.accountId, tenantId := some row.tenantId
        authenticatorId := row.authenticatorId
        clientFamily := if isCimdClientId args.clientId then text "cimd" else args.clientId.take 64
        routingAliases := [], resource := some row.resource, scopes := row.scopes
        stepUpConfirmed := row.stepUpConfirmed }
      draw mintedAt

end CairnStone.CoreAuth
