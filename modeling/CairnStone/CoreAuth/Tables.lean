import CairnStone.Concurrency.Program
import CairnStone.Data.Table
import CairnStone.JavaScript.Text

/-! The tables of the auth database. Rows are never deleted, so whatever a row refers to stays.
Columns that no call reads are left out, as is the audit trail.
-/

namespace CairnStone.CoreAuth

open JavaScript Data Concurrency

inductive AccountStatus where
  | active
  | suspended
  | recovering
  | closed
  deriving DecidableEq

/-- A row of `auth_accounts`. Versions are at least 1, by a `CHECK`. -/
structure AccountRow where
  (accountId homeTenantId : Text)
  status : AccountStatus
  (displayName homeWorkspaceId homeCodeSessionId : Option Text)
  authzVersion : Nat
  deriving DecidableEq

inductive MembershipStatus where
  | active
  | revoked
  deriving DecidableEq

structure MembershipRow where
  (accountId tenantId : Text)
  status : MembershipStatus
  authzVersion : Nat
  deriving DecidableEq

/-- The primary key of a membership. -/
def MembershipRow.key (row : MembershipRow) : Text × Text :=
  (row.accountId, row.tenantId)

inductive AuthenticatorMethod where
  | walletProof
  | passkeyWebauthn
  | custodialIdp
  | otherApproved
  deriving DecidableEq

inductive AssuranceClass where
  | walletOwnership
  | webauthn
  | oidc
  | otherApproved
  deriving DecidableEq

inductive AuthenticatorStatus where
  | active
  | replaced
  | revoked
  deriving DecidableEq

structure AuthenticatorRow where
  (authenticatorId accountId : Text)
  method : AuthenticatorMethod
  status : AuthenticatorStatus
  assuranceClass : AssuranceClass
  walletAccountId : Option Text
  deriving DecidableEq

inductive GrantStatus where
  | active
  | revoked
  | superseded
  deriving DecidableEq

structure ConnectionRow where
  (connectionId principalId accountId tenantId : Text)
  status : GrantStatus
  clientFamily : Text
  routingAliases : List Text
  deriving DecidableEq

structure TokenFamilyRow where
  (tokenFamilyId connectionId principalId accountId tenantId originAuthenticatorId : Text)
  resource : Text
  scopes : List Text
  status : GrantStatus
  (authzVersion refreshGeneration : Nat)
  deriving DecidableEq

structure AccessTokenRow where
  (tokenHash tokenFamilyId principalId accountId tenantId connectionId resource : Text)
  scopes : List Text
  authzVersion : Nat
  expiresAt : Int
  revokedAt : Option Int
  deriving DecidableEq

inductive RefreshStatus where
  | active
  | rotated
  | revoked
  | reuseDetected
  deriving DecidableEq

structure RefreshTokenRow where
  (tokenHash tokenFamilyId principalId accountId tenantId connectionId : Text)
  refreshGeneration : Nat
  status : RefreshStatus
  expiresAt : Int
  deriving DecidableEq

inductive CodeStatus where
  | unused
  | used
  | expired
  | revoked
  deriving DecidableEq

structure CodeRow where
  (codeHash accountId tenantId authenticatorId clientId redirectUri codeChallenge : Text)
  resource : Text
  scopes : List Text
  iss : Text
  status : CodeStatus
  expiresAt : Int
  stepUpConfirmed : Bool
  deriving DecidableEq

/-- A row of `auth_routing_aliases`. `active` is its status. -/
structure AliasRow where
  (aliasName principalId accountId tenantId : Text)
  active : Bool
  deriving DecidableEq

/-- A row of `auth_passkeys`. `active` is its status, and the public key stands for its JWK. -/
structure PasskeyRow where
  (credentialId accountId authenticatorId publicKey : Text)
  signCount : Nat
  active : Bool
  deriving DecidableEq

inductive ChallengePurpose where
  | assertion
  | registration
  deriving DecidableEq

inductive ChallengeStatus where
  | unused
  | used
  | expired
  deriving DecidableEq

structure ChallengeRow where
  challengeHash : Text
  purpose : ChallengePurpose
  sessionId : Text
  status : ChallengeStatus
  expiresAt : Int
  deriving DecidableEq

inductive InviteStatus where
  | unused
  | redeemed
  | expired
  | revoked
  deriving DecidableEq

structure InviteRow where
  (inviteHash inviteId targetAccountId targetTenantId : Text)
  status : InviteStatus
  expiresAt : Int
  redeemedBySession : Option Text
  deriving DecidableEq

structure RateBucketRow where
  bucketKey : Text
  windowStart : Int
  count : Nat
  deriving DecidableEq

inductive SessionStatus where
  | pendingAuth
  | authenticated
  | approved
  | denied
  | expired
  deriving DecidableEq

inductive SessionMethod where
  | passkeyWebauthn
  | inviteCode
  deriving DecidableEq

structure SessionRow where
  (sessionId tokenHash clientId redirectUri codeChallenge resource : Text)
  scopes : List Text
  state : Option Text
  iss : Text
  status : SessionStatus
  (accountId tenantId authenticatorId : Option Text)
  authMethod : Option SessionMethod
  (stepUpConfirmed offerPasskeyEnroll : Bool)
  expiresAt : Int
  deriving DecidableEq

/-- A row of `auth_oauth_clients`. Redirect URIs that are no JSON are `none`. -/
structure ClientRow where
  clientId : Text
  active : Bool
  redirectUris : Option (List Text)
  deriving DecidableEq

/-- The auth database. Of tenants and wallet accounts only the ids are ever read. -/
structure Database where
  accounts : List AccountRow
  tenants : List Text
  memberships : List MembershipRow
  authenticators : List AuthenticatorRow
  walletAccounts : List Text
  connections : List ConnectionRow
  aliases : List AliasRow
  families : List TokenFamilyRow
  accessTokens : List AccessTokenRow
  refreshTokens : List RefreshTokenRow
  codes : List CodeRow
  passkeys : List PasskeyRow
  challenges : List ChallengeRow
  invites : List InviteRow
  rateBuckets : List RateBucketRow
  sessions : List SessionRow
  clients : List ClientRow

namespace Database

def initial (clients : List ClientRow) : Database where
  accounts := []
  tenants := []
  memberships := []
  authenticators := []
  walletAccounts := []
  connections := []
  aliases := []
  families := []
  accessTokens := []
  refreshTokens := []
  codes := []
  passkeys := []
  challenges := []
  invites := []
  rateBuckets := []
  sessions := []
  clients := clients

variable (db : Database)

def account (accountId : Text) : Option AccountRow :=
  db.accounts.find? (·.accountId == accountId)

def membership (accountId tenantId : Text) : Option MembershipRow :=
  db.memberships.find? (·.key == (accountId, tenantId))

/-- `… AND status = 'active'` -/
def activeMembership (accountId tenantId : Text) : Option MembershipRow :=
  (db.membership accountId tenantId).filter (·.status == .active)

def authenticator (authenticatorId : Text) : Option AuthenticatorRow :=
  db.authenticators.find? (·.authenticatorId == authenticatorId)

/-- `… WHERE authenticator_id = ? AND account_id = ?` -/
def authenticatorOf (authenticatorId accountId : Text) : Option AuthenticatorRow :=
  (db.authenticator authenticatorId).filter (·.accountId == accountId)

def connection (connectionId : Text) : Option ConnectionRow :=
  db.connections.find? (·.connectionId == connectionId)

def routingAlias (aliasName : Text) : Option AliasRow :=
  db.aliases.find? (·.aliasName == aliasName)

def family (tokenFamilyId : Text) : Option TokenFamilyRow :=
  db.families.find? (·.tokenFamilyId == tokenFamilyId)

def accessToken (tokenHash : Text) : Option AccessTokenRow :=
  db.accessTokens.find? (·.tokenHash == tokenHash)

def refreshToken (tokenHash : Text) : Option RefreshTokenRow :=
  db.refreshTokens.find? (·.tokenHash == tokenHash)

def code (codeHash : Text) : Option CodeRow :=
  db.codes.find? (·.codeHash == codeHash)

def passkey (credentialId : Text) : Option PasskeyRow :=
  db.passkeys.find? (·.credentialId == credentialId)

def challenge (challengeHash : Text) : Option ChallengeRow :=
  db.challenges.find? (·.challengeHash == challengeHash)

def invite (inviteHash : Text) : Option InviteRow :=
  db.invites.find? (·.inviteHash == inviteHash)

def rateBucket (bucketKey : Text) : Option RateBucketRow :=
  db.rateBuckets.find? (·.bucketKey == bucketKey)

def sessionByToken (tokenHash : Text) : Option SessionRow :=
  db.sessions.find? (·.tokenHash == tokenHash)

def client (clientId : Text) : Option ClientRow :=
  db.clients.find? (·.clientId == clientId)

end Database

end CairnStone.CoreAuth
