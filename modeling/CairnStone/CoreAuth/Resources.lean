import CairnStone.CoreAuth.Statements
import CairnStone.JavaScript.Json
import CairnStone.JavaScript.TextMethods

/-! Deployment settings, identifiers and secrets, and the resources that tokens are issued for:
which scopes a resource admits and when two resources are the same audience.
-/

namespace CairnStone.CoreAuth

open JavaScript Data Concurrency

/-- A result `{ ok: false, … }`. -/
structure Refusal where
  error : String
  status : Option Nat := none
  reason : Option String := none
  detail : Option String := none
  familyRevoked : Bool := false
  accountStatus : Option AccountStatus := none
  disallowed : List Text := []
  deriving DecidableEq

/-- How a call ends without success: with a result, or by an exception. -/
inductive Failure where
  | refused (refusal : Refusal)
  | thrown (error : SqlError)
  | rangeError
  deriving DecidableEq

abbrev Auth := Program authStore Failure

/-- One statement. -/
def perform (cmd : Command) : Auth cmd.Reply :=
  Program.perform (M := authStore) cmd

def select {α : Type} (f : Database → α) : Auth α :=
  Program.select (M := authStore) f

def refuse {α : Type} (refusal : Refusal) : Auth α :=
  .fail (.refused refusal)

/-- An `INSERT` whose exception ends the call. -/
def insert (row : Row) : Auth Unit := do
  let inserted : Except SqlError Unit ← perform (.insert row)
  match inserted with
  | .ok _ => .done ()
  | .error error => .fail (.thrown error)

def refuseOn {α : Type} : Except Refusal α → Auth α
  | .ok value => .done value
  | .error refusal => refuse refusal

/-- A row that must be there. -/
def require {α : Type} (found : Option α) (refusal : Refusal) : Auth α :=
  match found with
  | some value => .done value
  | none => refuse refusal

def ensure (condition : Prop) [Decidable condition] (refusal : Refusal) : Auth Unit :=
  if condition then .done () else refuse refusal

structure Url where
  (origin hostname : Text)

structure Assertion where
  credentialId : Text
  authenticatorData : Option Text
  clientDataJSON : Text
  signature : Option Text
  (expectedChallenge expectedOrigin rpId publicKey : Text)
  previousSignCount : Nat

structure Registration where
  (credentialId attestationObject : Option Text)
  (clientDataJSON expectedChallenge expectedOrigin rpId : Text)

/-- What a verified registration yields. -/
structure NewCredential where
  (credentialId publicKey : Text)
  signCount : Nat

/-- The settings of a deployment, and the functions whose results are taken as given: the digest,
the challenge inside a `clientDataJSON`, and the two WebAuthn verifications. A rate-limit setting
is the configured number, rounded down, or its default.
-/
structure Env where
  sha256Text : Text → Text
  (coreAuthResource coreAuthIssuer webAuthnRpId webAuthnOrigin : Option Text)
  (loginInviteRateLimitMax loginInviteRateLimitWindowSeconds : Nat)
  clientDataChallenge : Text → Option Text
  verifyAssertion : Assertion → Except String Nat
  verifyRegistration : Registration → Except String NewCredential

abbrev Bytes := List (Fin 256)

scoped instance neZero_bytes : NeZero 256 :=
  ⟨by decide⟩

def hexByte (byte : Fin 256) : Text :=
  [hexDigit (byte.val / 16), hexDigit (byte.val % 16)]

def randomToken (label : String) (bytes : Bytes) : Text :=
  text label ++ 0x5F :: bytes.flatMap hexByte

inductive IdKind where
  | account
  | tenant
  | authenticator
  | connection
  | principal
  | tokenFamily
  | walletAccount
  | invite
  | session

def IdKind.label : IdKind → String
  | .account => "acct"
  | .tenant => "ten"
  | .authenticator => "authn"
  | .connection => "conn"
  | .principal => "prin"
  | .tokenFamily => "tfam"
  | .walletAccount => "walacct"
  | .invite => "linv"
  | .session => "oas"

def mintId (kind : IdKind) (bytes : Bytes) : Text :=
  randomToken kind.label bytes

variable (env : Env)

def hashSecret (value : Text) : Text :=
  env.sha256Text value

def base64UrlDigit (n : Nat) : CodeUnit :=
  Fin.ofNat 65536
    (if n < 26 then 0x41 + n else if n < 52 then 0x61 + (n - 26)
      else if n < 62 then 0x30 + (n - 52) else if n = 62 then 0x2D else 0x5F)

/-- `btoa`, with the URL-safe alphabet and without padding. -/
def base64Url : List Nat → Text
  | [] => []
  | [a] => [base64UrlDigit (a / 4), base64UrlDigit (a % 4 * 16)]
  | [a, b] =>
    [base64UrlDigit (a / 4), base64UrlDigit (a % 4 * 16 + b / 16),
      base64UrlDigit (b % 16 * 4)]
  | a :: b :: c :: rest =>
    base64UrlDigit (a / 4) :: base64UrlDigit (a % 4 * 16 + b / 16)
      :: base64UrlDigit (b % 16 * 4 + c / 64) :: base64UrlDigit (c % 64) :: base64Url rest

def unhexBytes : Text → List Nat
  | [] => []
  | [a] => [unhex a]
  | a :: b :: rest => (unhex a * 16 + unhex b) :: unhexBytes rest

def pkceChallengeS256 (verifier : Text) : Text :=
  base64Url (unhexBytes (env.sha256Text verifier))

/-- `env.X.trim().replace(/\/$/, "")`, if it is set. -/
def configuredUrl (value : Option Text) : Option Text :=
  (value.filter (fun s => trim s ≠ [])).map (fun s =>
    if (trim s).getLast? = some 0x2F then (trim s).dropLast else trim s)

def canonicalCoreAuthResource (url : Option Url) : Text :=
  (configuredUrl env.coreAuthResource).getD
    ((url.map (·.origin)).getD [] ++ text "/mcp/core-auth")

def authorizationServerIssuer (url : Option Url) : Text :=
  (configuredUrl env.coreAuthIssuer).getD ((url.map (·.origin)).getD [] ++ text "/oauth")

def CANONICAL_MESSAGES_RESOURCE : Text :=
  text "https://cairnstone-messages.jaredtechfit.workers.dev"

def CANONICAL_CORE_RESOURCE : Text :=
  text "https://cairnstone-v6.jaredtechfit.workers.dev/mcp/core-auth"

/-- Trailing slashes do not matter. -/
def normalizeRegisteredResource (value : Text) : Text :=
  ((trim value).reverse.dropWhile (· = 0x2F)).reverse

def isCanonicalMessagesResource (value : Text) : Bool :=
  normalizeRegisteredResource value = CANONICAL_MESSAGES_RESOURCE
  || normalizeRegisteredResource value = CANONICAL_MESSAGES_RESOURCE ++ text "/mcp"

def canonicalizeMessagesResource (value : Text) : Option Text :=
  if isCanonicalMessagesResource value then some CANONICAL_MESSAGES_RESOURCE else none

def canonicalizeOauthResource (resource : Text) : Text :=
  if trim resource = [] then resource
  else (canonicalizeMessagesResource resource).getD (trim resource)

def messagesResourcesEquivalent (a b : Text) : Bool :=
  isCanonicalMessagesResource a && isCanonicalMessagesResource b

def oauthResourcesMatch (stored requested : Text) : Bool :=
  stored = requested || messagesResourcesEquivalent stored requested

/-- `[...new Set(values)]` -/
def distinct : List Text → List Text
  | [] => []
  | first :: rest => first :: (distinct rest).filter (· ≠ first)

def parseScopes (scopes : List Text) : List Text :=
  (distinct ((scopes.map trim).filter (· ≠ []))).take 64

/-- `parseRequestedScopes` on a query parameter. -/
def parseRequestedScopes (scope : Option Text) : List Text :=
  parseScopes ((scope.getD []).splitOnP isWhiteSpace)

inductive ResourceClass where
  | core
  | messages
  deriving DecidableEq

def CORE_SCOPE : Text :=
  text "mcp:core"

def MESSAGES_SCOPES : List Text :=
  [text "messages.read", text "messages.write"]

def ResourceClass.defaultScopes : ResourceClass → List Text
  | .core => [CORE_SCOPE]
  | .messages => [text "messages.read"]

def ResourceClass.allowedScopes : ResourceClass → List Text
  | .core => [CORE_SCOPE]
  | .messages => MESSAGES_SCOPES

def isCanonicalCoreResource (value : Text) (url : Url) : Bool :=
  let resource := normalizeRegisteredResource value
  let configured := normalizeRegisteredResource (env.coreAuthResource.getD [])
  let origin := normalizeRegisteredResource url.origin
  resource ≠ []
  && ((configured ≠ [] && resource = configured) || resource = CANONICAL_CORE_RESOURCE
    || (origin ≠ [] && resource = origin ++ text "/mcp/core-auth"))

def resolveResourceClass (resource : Text) (url : Url) : Option ResourceClass :=
  if isCanonicalCoreResource env resource url then some .core
  else if isCanonicalMessagesResource resource then some .messages
  else none

def registeredScopeOwner (scope : Text) : Option ResourceClass :=
  if scope = CORE_SCOPE then some .core
  else if scope ∈ MESSAGES_SCOPES then some .messages
  else none

def resolveResourceScopePolicy (resource : Text) (scope : Option Text) (url : Url)
    : Except Refusal (List Text) :=
  match resolveResourceClass env resource url with
  | none =>
    .error
      { error := "invalid_target", status := some 400, reason := some "unregistered_resource" }
  | some klass =>
    let requested := parseRequestedScopes scope
    let unknown := requested.filter (fun scope => (registeredScopeOwner scope).isNone)
    let eligible :=
      distinct
        (requested.filter (fun scope =>
          registeredScopeOwner scope = some klass && scope ∈ klass.allowedScopes))
    let foreign :=
      requested.filter (fun scope =>
        (registeredScopeOwner scope).isSome
        && !(registeredScopeOwner scope = some klass && scope ∈ klass.allowedScopes))
    let disallow (disallowed : List Text) : Except Refusal (List Text) :=
      .error
        { error := "invalid_scope", status := some 400
          reason := some "scope_not_allowed_for_resource", disallowed }
    if requested = [] then .ok klass.defaultScopes
    else if unknown ≠ [] then disallow unknown
    else if eligible = [] then disallow foreign
    else .ok eligible

end CairnStone.CoreAuth
