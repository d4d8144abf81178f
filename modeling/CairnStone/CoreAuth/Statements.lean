import CairnStone.CoreAuth.Tables

/-! The statements that change the auth database, and the two `SELECT`s by which a revocation
lists the token families it goes on to revoke. Foreign keys are not checked: a call inserts
only rows whose references it has read or inserted.
-/

namespace CairnStone.CoreAuth

open JavaScript Data Concurrency

structure SessionAuthentication where
  (accountId tenantId authenticatorId : Text)
  authMethod : SessionMethod
  (stepUpConfirmed offerPasskeyEnroll : Bool)

/-- A row to insert. -/
inductive Row where
  | tenant (tenantId : Text)
  | account (row : AccountRow)
  | membership (row : MembershipRow)
  | walletAccount (walletAccountId : Text)
  | authenticator (row : AuthenticatorRow)
  | connection (row : ConnectionRow)
  | routingAlias (row : AliasRow)
  | family (row : TokenFamilyRow)
  | accessToken (row : AccessTokenRow)
  | refreshToken (row : RefreshTokenRow)
  | code (row : CodeRow)
  | passkey (row : PasskeyRow)
  | challenge (row : ChallengeRow)
  | invite (row : InviteRow)
  | session (row : SessionRow)

inductive Command where
  | insert (row : Row)
  | upsertMembership (accountId tenantId : Text)
  | revokeMembership (accountId tenantId : Text) (authzVersion : Nat)
  | setAccountVersion (accountId : Text) (authzVersion : Nat)
  | revokeAuthenticator (authenticatorId : Text)
  | replaceAuthenticator (authenticatorId : Text)
  | setConnectionTenant (connectionId tenantId : Text)
  | revokeConnection (connectionId : Text)
  | setRefreshGeneration (tokenFamilyId : Text) (refreshGeneration : Nat)
  | revokeFamily (tokenFamilyId : Text)
  | listFamiliesOfConnection (connectionId : Text)
  | listFamiliesOfAuthenticator (authenticatorId : Text)
  | revokeAccessTokens (tokenFamilyId : Text) (now : Int)
  | markRotated (tokenHash : Text)
  | revokeRefreshTokens (tokenFamilyId : Text)
  | expireCode (codeHash : Text)
  | useCode (codeHash : Text)
  | setSignCount (credentialId : Text) (signCount : Nat)
  | expireChallenge (challengeHash : Text)
  | useChallenge (challengeHash : Text)
  | expireInvite (inviteHash : Text)
  | redeemInvite (inviteHash sessionId : Text)
  | resetRateBucket (bucketKey : Text) (windowStart : Int)
  | setRateCount (bucketKey : Text) (count : Nat)
  | expireSession (sessionId : Text)
  | authenticateSession (sessionId : Text) (authentication : SessionAuthentication)
  | preferPasskey (sessionId authenticatorId : Text)
  | approveSession (sessionId : Text)
  | denySession (sessionId : Text)

inductive SqlError where
  | unique
  | notNull
  deriving DecidableEq

/-- What a statement answers: whether a row could be inserted, how many rows changed where the
caller looks at it, or the listed token families.
-/
def Command.Reply : Command → Type
  | .insert _ => Except SqlError Unit
  | .useCode _ | .useChallenge _ | .redeemInvite _ _ | .approveSession _ => Nat
  | .listFamiliesOfConnection _ | .listFamiliesOfAuthenticator _ => List Text
  | _ => Unit

namespace Database

def taken (db : Database) : Row → Bool
  | .tenant tenantId => db.tenants.contains tenantId
  | .account row => (db.account row.accountId).isSome
  | .membership row => (db.membership row.accountId row.tenantId).isSome
  | .walletAccount walletAccountId => db.walletAccounts.contains walletAccountId
  | .authenticator row => (db.authenticator row.authenticatorId).isSome
  | .connection row =>
    (db.connection row.connectionId).isSome
    || db.connections.any (·.principalId == row.principalId)
  | .routingAlias row => (db.routingAlias row.aliasName).isSome
  | .family row => (db.family row.tokenFamilyId).isSome
  | .accessToken row => (db.accessToken row.tokenHash).isSome
  | .refreshToken row => (db.refreshToken row.tokenHash).isSome
  | .code row => (db.code row.codeHash).isSome
  | .passkey row => (db.passkey row.credentialId).isSome
  | .challenge row => (db.challenge row.challengeHash).isSome
  | .invite row =>
    (db.invite row.inviteHash).isSome || db.invites.any (·.inviteId == row.inviteId)
  | .session row =>
    (db.sessionByToken row.tokenHash).isSome
    || db.sessions.any (·.sessionId == row.sessionId)

def add (db : Database) : Row → Database
  | .tenant tenantId => { db with tenants := db.tenants ++ [tenantId] }
  | .account row => { db with accounts := db.accounts ++ [row] }
  | .membership row => { db with memberships := db.memberships ++ [row] }
  | .walletAccount walletAccountId =>
    { db with walletAccounts := db.walletAccounts ++ [walletAccountId] }
  | .authenticator row => { db with authenticators := db.authenticators ++ [row] }
  | .connection row => { db with connections := db.connections ++ [row] }
  | .routingAlias row => { db with aliases := db.aliases ++ [row] }
  | .family row => { db with families := db.families ++ [row] }
  | .accessToken row => { db with accessTokens := db.accessTokens ++ [row] }
  | .refreshToken row => { db with refreshTokens := db.refreshTokens ++ [row] }
  | .code row => { db with codes := db.codes ++ [row] }
  | .passkey row => { db with passkeys := db.passkeys ++ [row] }
  | .challenge row => { db with challenges := db.challenges ++ [row] }
  | .invite row => { db with invites := db.invites ++ [row] }
  | .session row => { db with sessions := db.sessions ++ [row] }

/-- `INSERT … ON CONFLICT DO UPDATE SET status = 'active'`. A known membership keeps its
version.
-/
def upsertMembership (db : Database) (accountId tenantId : Text) : List MembershipRow :=
  match db.membership accountId tenantId with
  | none => db.memberships ++ [{ accountId, tenantId, status := .active, authzVersion := 1 }]
  | some _ =>
    updateWhere (·.key == (accountId, tenantId))
      (fun row => { row with status := .active }) db.memberships

/-- `INSERT … ON CONFLICT DO UPDATE SET window_start_iso = …, count = 1` -/
def resetRateBucket (db : Database) (bucketKey : Text) (windowStart : Int)
    : List RateBucketRow :=
  match db.rateBucket bucketKey with
  | none => db.rateBuckets ++ [{ bucketKey, windowStart, count := 1 }]
  | some _ =>
    updateWhere (·.bucketKey == bucketKey) (fun row => { row with windowStart, count := 1 })
      db.rateBuckets

def isOpen (sessionId : Text) (row : SessionRow) : Bool :=
  row.sessionId == sessionId && (row.status == .pendingAuth || row.status == .authenticated)

def exec : (cmd : Command) → Database → cmd.Reply × Database
  | .insert row, db => if db.taken row then (.error .unique, db) else (.ok (), db.add row)
  | .upsertMembership accountId tenantId, db =>
    ((), { db with memberships := db.upsertMembership accountId tenantId })
  | .revokeMembership accountId tenantId authzVersion, db =>
    ((), { db with
      memberships :=
        updateWhere (·.key == (accountId, tenantId))
          (fun row => { row with status := .revoked, authzVersion }) db.memberships })
  | .setAccountVersion accountId authzVersion, db =>
    ((), { db with
      accounts :=
        updateWhere (·.accountId == accountId) (fun row => { row with authzVersion })
          db.accounts })
  | .revokeAuthenticator authenticatorId, db =>
    ((), { db with
      authenticators :=
        updateWhere (·.authenticatorId == authenticatorId)
          (fun row => { row with status := .revoked }) db.authenticators })
  | .replaceAuthenticator authenticatorId, db =>
    ((), { db with
      authenticators :=
        updateWhere (·.authenticatorId == authenticatorId)
          (fun row => { row with status := .replaced }) db.authenticators })
  | .setConnectionTenant connectionId tenantId, db =>
    ((), { db with
      connections :=
        updateWhere (·.connectionId == connectionId) (fun row => { row with tenantId })
          db.connections })
  | .revokeConnection connectionId, db =>
    ((), { db with
      connections :=
        updateWhere (·.connectionId == connectionId) (fun row => { row with status := .revoked })
          db.connections })
  | .setRefreshGeneration tokenFamilyId refreshGeneration, db =>
    ((), { db with
      families :=
        updateWhere (·.tokenFamilyId == tokenFamilyId)
          (fun row => { row with refreshGeneration }) db.families })
  | .revokeFamily tokenFamilyId, db =>
    ((), { db with
      families :=
        updateWhere (·.tokenFamilyId == tokenFamilyId)
          (fun row => { row with status := .revoked }) db.families })
  | .listFamiliesOfConnection connectionId, db =>
    ((db.families.filter
      (fun row => row.connectionId == connectionId && row.status == .active)).map
        (·.tokenFamilyId), db)
  | .listFamiliesOfAuthenticator authenticatorId, db =>
    ((db.families.filter
      (fun row => row.originAuthenticatorId == authenticatorId && row.status == .active)).map
        (·.tokenFamilyId), db)
  | .revokeAccessTokens tokenFamilyId now, db =>
    ((), { db with
      accessTokens :=
        updateWhere (fun row => row.tokenFamilyId == tokenFamilyId && row.revokedAt.isNone)
          (fun row => { row with revokedAt := some now }) db.accessTokens })
  | .markRotated tokenHash, db =>
    ((), { db with
      refreshTokens :=
        updateWhere (fun row => row.tokenHash == tokenHash && row.status == .active)
          (fun row => { row with status := .rotated }) db.refreshTokens })
  | .revokeRefreshTokens tokenFamilyId, db =>
    ((), { db with
      refreshTokens :=
        updateWhere (fun row => row.tokenFamilyId == tokenFamilyId && row.status == .active)
          (fun row => { row with status := .revoked }) db.refreshTokens })
  | .expireCode codeHash, db =>
    ((), { db with
      codes :=
        updateWhere (·.codeHash == codeHash) (fun row => { row with status := .expired })
          db.codes })
  | .useCode codeHash, db =>
    let unused : CodeRow → Bool := fun row => row.codeHash == codeHash && row.status == .unused
    (db.codes.countP unused,
      { db with codes := updateWhere unused (fun row => { row with status := .used }) db.codes })
  | .setSignCount credentialId signCount, db =>
    ((), { db with
      passkeys :=
        updateWhere (·.credentialId == credentialId) (fun row => { row with signCount })
          db.passkeys })
  | .expireChallenge challengeHash, db =>
    ((), { db with
      challenges :=
        updateWhere (·.challengeHash == challengeHash) (fun row => { row with status := .expired })
          db.challenges })
  | .useChallenge challengeHash, db =>
    let unused : ChallengeRow → Bool :=
      fun row => row.challengeHash == challengeHash && row.status == .unused
    (db.challenges.countP unused,
      { db with
        challenges := updateWhere unused (fun row => { row with status := .used }) db.challenges })
  | .expireInvite inviteHash, db =>
    ((), { db with
      invites :=
        updateWhere (fun row => row.inviteHash == inviteHash && row.status == .unused)
          (fun row => { row with status := .expired }) db.invites })
  | .redeemInvite inviteHash sessionId, db =>
    let unused : InviteRow → Bool :=
      fun row => row.inviteHash == inviteHash && row.status == .unused
    (db.invites.countP unused,
      { db with
        invites :=
          updateWhere unused
            (fun row => { row with status := .redeemed, redeemedBySession := some sessionId })
            db.invites })
  | .resetRateBucket bucketKey windowStart, db =>
    ((), { db with rateBuckets := db.resetRateBucket bucketKey windowStart })
  | .setRateCount bucketKey count, db =>
    ((), { db with
      rateBuckets :=
        updateWhere (·.bucketKey == bucketKey) (fun row => { row with count }) db.rateBuckets })
  | .expireSession sessionId, db =>
    ((), { db with
      sessions :=
        updateWhere (isOpen sessionId) (fun row => { row with status := .expired })
          db.sessions })
  | .authenticateSession sessionId authentication, db =>
    ((), { db with
      sessions :=
        updateWhere (fun row => row.sessionId == sessionId && row.status == .pendingAuth)
          (fun row =>
            { row with
              status := .authenticated
              accountId := some authentication.accountId
              tenantId := some authentication.tenantId
              authenticatorId := some authentication.authenticatorId
              authMethod := some authentication.authMethod
              stepUpConfirmed := authentication.stepUpConfirmed
              offerPasskeyEnroll := authentication.offerPasskeyEnroll })
          db.sessions })
  | .preferPasskey sessionId authenticatorId, db =>
    ((), { db with
      sessions :=
        updateWhere (·.sessionId == sessionId)
          (fun row =>
            { row with
              authenticatorId := some authenticatorId
              authMethod := some .passkeyWebauthn
              stepUpConfirmed := true
              offerPasskeyEnroll := false })
          db.sessions })
  | .approveSession sessionId, db =>
    let authenticated : SessionRow → Bool :=
      fun row => row.sessionId == sessionId && row.status == .authenticated
    (db.sessions.countP authenticated,
      { db with
        sessions :=
          updateWhere authenticated (fun row => { row with status := .approved }) db.sessions })
  | .denySession sessionId, db =>
    ((), { db with
      sessions :=
        updateWhere (isOpen sessionId) (fun row => { row with status := .denied })
          db.sessions })

end Database

/-- The auth database as a machine. Nothing but the calls changes it. -/
abbrev authStore : Machine where
  State := Database
  Command := Command
  Reply := Command.Reply
  exec := Database.exec
  Event := Empty
  disturb := fun event _ => event.elim

end CairnStone.CoreAuth
