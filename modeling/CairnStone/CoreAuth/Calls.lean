import CairnStone.CoreAuth.UserAuth

/-! The calls of the authorization server, and any interleaving of them over one database. -/

namespace CairnStone.CoreAuth

open JavaScript Concurrency

/-- A call with its args, the random bytes it draws, and its clock readings. -/
inductive Call where
  | bootstrapAccountConnection (args : BootstrapArgs) (draw : BootstrapDraw) (now : Int)
  | mintConnectionUnderAccount (args : MintArgs) (draw : ConnectionDraw) (now : Int)
  | redeemAuthorizationCode (args : RedeemArgs) (draw : ConnectionDraw) (now mintedAt : Int)
  | rotateRefreshToken (refreshToken : Text) (expectedResource : Option Text) (draw : PairDraw)
      (now : Int)
  | revokeTokenFamily (tokenFamilyId : Text) (now : Int)
  | revokeConnection (connectionId : Text) (now : Int)
  | revokeAuthenticator (authenticatorId : Text) (stepUpConfirmed : Bool) (now : Int)
  | replaceAuthenticator (args : ReplaceArgs) (draw : ReplaceDraw)
  | bumpAuthzVersion (accountId : Text) (tenantId : Option Text)
  | joinTenant (accountId tenantId : Text)
  | bindConnectionTenant (connectionId tenantId : Text)
  | validateAccessToken (args : ValidateArgs) (now : Int)
  | createOwnerAccount (displayName accountKey : Text) (draw : AccountDraw)
  | mintLoginInvite (accountId : Text) (ttlSeconds : Int) (draw : InviteDraw) (now : Int)
  | beginOauthAuthorize (params : AuthorizeParams) (allowlisted : Except String Unit) (url : Url)
      (draw : SessionDraw) (now : Int)
  | redeemLoginInviteForSession (args : InviteArgs) (bytes : Bytes) (now clock : Int)
  | createAssertionOptions (sessionToken : Text) (bytes : Bytes) (now : Int)
  | verifyAssertionForSession (sessionToken : Text) (credential : Credential) (url : Url)
      (now : Int)
  | createRegistrationOptions (sessionToken : Text) (bytes : Bytes) (now : Int)
  | verifyRegistrationForSession (sessionToken : Text) (credential : Credential) (url : Url)
      (bytes : Bytes) (now : Int)
  | approveAuthorizeSession (sessionToken : Text) (bytes : Bytes) (now : Int)
  | denyAuthorizeSession (sessionToken : Text) (now : Int)

/-- What a successful call answers. -/
inductive Answer where
  | done
  | count (n : Nat)
  | text (value : Text)
  | bootstrapped (result : Bootstrapped)
  | minted (result : ConnectionMinted)
  | rotated (result : Rotated)
  | validated (result : Validated)
  | owner (result : Owner)
  | inviteMinted (result : InviteMinted)
  | sessionStarted (result : SessionStarted)
  | authenticated (result : Authenticated)
  | registrationOptions (challenge : Text) (excludeCredentials : List Text)
  | enrolled (result : Enrolled)
  | approved (result : Approved)
  deriving DecidableEq

def answering {α : Type} (p : Auth α) (answer : α → Answer) : Auth Answer :=
  p.bind (fun value => .done (answer value))

def Call.body (env : Env) : Call → Auth Answer
  | .bootstrapAccountConnection args draw now =>
    answering (CoreAuth.bootstrapAccountConnection env args draw now) .bootstrapped
  | .mintConnectionUnderAccount args draw now =>
    answering (CoreAuth.mintConnectionUnderAccount env args draw now) .minted
  | .redeemAuthorizationCode args draw now mintedAt =>
    answering (CoreAuth.redeemAuthorizationCode env args draw now mintedAt) .minted
  | .rotateRefreshToken refreshToken expectedResource draw now =>
    answering (CoreAuth.rotateRefreshToken env refreshToken expectedResource draw now) .rotated
  | .revokeTokenFamily tokenFamilyId now =>
    answering (CoreAuth.revokeTokenFamily tokenFamilyId now) (fun _ => .done)
  | .revokeConnection connectionId now =>
    answering (CoreAuth.revokeConnection connectionId now) (fun _ => .done)
  | .revokeAuthenticator authenticatorId stepUpConfirmed now =>
    answering (CoreAuth.revokeAuthenticator authenticatorId stepUpConfirmed now) .count
  | .replaceAuthenticator args draw =>
    answering (CoreAuth.replaceAuthenticator args draw) .text
  | .bumpAuthzVersion accountId tenantId =>
    answering (CoreAuth.bumpAuthzVersion accountId tenantId) .count
  | .joinTenant accountId tenantId =>
    answering (CoreAuth.joinTenant accountId tenantId) (fun _ => .done)
  | .bindConnectionTenant connectionId tenantId =>
    answering (CoreAuth.bindConnectionTenant connectionId tenantId) (fun _ => .done)
  | .validateAccessToken args now =>
    answering (CoreAuth.validateAccessToken env args now) .validated
  | .createOwnerAccount displayName accountKey draw =>
    answering (CoreAuth.createOwnerAccount displayName accountKey draw) .owner
  | .mintLoginInvite accountId ttlSeconds draw now =>
    answering (CoreAuth.mintLoginInvite env accountId ttlSeconds draw now) .inviteMinted
  | .beginOauthAuthorize params allowlisted url draw now =>
    answering (CoreAuth.beginOauthAuthorize env params allowlisted url draw now) .sessionStarted
  | .redeemLoginInviteForSession args bytes now clock =>
    answering (CoreAuth.redeemLoginInviteForSession env args bytes now clock) .authenticated
  | .createAssertionOptions sessionToken bytes now =>
    answering (CoreAuth.createAssertionOptions env sessionToken bytes now) .text
  | .verifyAssertionForSession sessionToken credential url now =>
    answering (CoreAuth.verifyAssertionForSession env sessionToken credential url now)
      .authenticated
  | .createRegistrationOptions sessionToken bytes now =>
    answering (CoreAuth.createRegistrationOptions env sessionToken bytes now)
      (fun options => .registrationOptions options.1 options.2)
  | .verifyRegistrationForSession sessionToken credential url bytes now =>
    answering (CoreAuth.verifyRegistrationForSession env sessionToken credential url bytes now)
      .enrolled
  | .approveAuthorizeSession sessionToken bytes now =>
    answering (CoreAuth.approveAuthorizeSession env sessionToken bytes now) .approved
  | .denyAuthorizeSession sessionToken now =>
    answering (CoreAuth.denyAuthorizeSession env sessionToken now) (fun _ => .done)

/-- Any interleaving of calls, over a database with nothing but registered clients. -/
abbrev authRun (env : Env) (clients : List ClientRow) (schedule : List (Action authStore Call))
    : Config authStore Call Failure Answer :=
  (Config.init (Database.initial clients)).run (Call.body env) schedule

namespace Sample

/-- A deployment whose digest is the identity, and in which no assertion verifies. -/
def env : Env where
  sha256Text := id
  coreAuthResource := none
  coreAuthIssuer := none
  webAuthnRpId := none
  webAuthnOrigin := none
  loginInviteRateLimitMax := 10
  loginInviteRateLimitWindowSeconds := 3600
  clientDataChallenge := some
  verifyAssertion := fun _ => .error "assertion_signature_invalid"
  verifyRegistration := fun _ => .error "registration_invalid"

def steps (n thread : Nat) : List (Action authStore Call) :=
  List.replicate n (.step thread)

/-- The account with the bytes `[n]`, its tenant, an authenticator and a connection. -/
def bootstrap (n : Fin 256) : Call :=
  .bootstrapAccountConnection
    { clientFamily := text "c", method := .passkeyWebauthn, assuranceClass := .webauthn
      displayName := none, routingAliases := [], resource := none, scopes := [CORE_SCOPE]
      existingAccountId := none, selectTenantId := none, mintConnection := true }
    { accessToken := [n], refreshToken := [n], tokenFamilyId := [n], connectionId := [n]
      principalId := [n], account := { tenantId := [n], accountId := [n] }
      walletAccountId := [n], authenticatorId := [n] } 0

end Sample

end CairnStone.CoreAuth
