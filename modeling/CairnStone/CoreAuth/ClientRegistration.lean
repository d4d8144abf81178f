import CairnStone.Concurrency.Admission
import CairnStone.Concurrency.ReadModifyWrite
import CairnStone.CoreAuth.Resources
import CairnStone.JavaScript.Conversions
import Mathlib.Data.PNat.Basic

/-! Dynamic registration of OAuth clients. A registration passes the initial access token, the rate limit
of its address and the cap on active clients before its metadata are looked at. Each of the two limits is
read by one statement and written by a later one.
-/

namespace CairnStone.CoreAuth

open JavaScript Data Concurrency

def DCR_MAX_REDIRECT_URIS : Nat := 8

def DCR_MAX_REDIRECT_URI_CHARS : Nat := 2048

def DCR_MAX_CLIENT_NAME_CHARS : Nat := 256

def DCR_MAX_SOFTWARE_ID_CHARS : Nat := 256

/-- `new URL(text)`, as far as it is read. -/
structure RedirectUrl where
  (protocol username password hostname hash href : Text)

/-- The settings of a deployment, and the functions whose results are taken as given. A limit is the
configured number, rounded down, or its default, and at least 1.
-/
structure DcrSettings where
  enabled : Bool
  initialAccessToken : Option Text
  (rateLimitMax rateLimitMaxUnknown rateLimitWindowSeconds maxActiveClients : ℕ+)
  (sha256Text toLowerCase : Text → Text)
  parseUrl : Text → Option RedirectUrl

/-- Where a request comes from: its headers, or what the caller says of them. -/
structure DcrContext where
  (cfConnectingIp xForwardedFor authorizationHeader clientIp authorization : Option Text)

structure RegisterRequest where
  body : Value
  ctx : DcrContext
  bytes : Bytes
  (now registeredAt : Int)

/-- A result `{ ok: false, … }`. -/
structure DcrRefusal where
  error : String
  status : Nat
  detail : Option String := none
  retryAfter : Option Int := none
  active : Option Nat := none
  max : Option Nat := none
  deriving DecidableEq

inductive DcrFailure where
  | refused (refusal : DcrRefusal)
  | thrown (error : SqlError)
  deriving DecidableEq

/-- A row of `auth_oauth_clients`. `active` is its status. -/
structure OauthClientRow where
  clientId : Text
  (clientName softwareId : Option Text)
  (redirectUris grantTypes responseTypes : List Text)
  applicationType : Option Text
  active : Bool
  createdAt : Int
  deriving DecidableEq

/-- The tables of registrations. A bucket is a row of `auth_dcr_rate_buckets`. -/
structure DcrDatabase where
  buckets : List RateBucketRow
  clients : List OauthClientRow

inductive DcrCommand where
  | readBucket (bucketKey : Text)
  | recordBucket (bucketKey : Text) (windowStart : Int) (count : Nat)
  | countClients
  | insertClient (row : OauthClientRow)
  deriving DecidableEq

def DcrCommand.Reply : DcrCommand → Type
  | .readBucket _ => Option RateBucketRow
  | .recordBucket _ _ _ => Unit
  | .countClients => Nat
  | .insertClient _ => Except SqlError Unit

namespace DcrDatabase

variable (db : DcrDatabase)

def bucket (bucketKey : Text) : Option RateBucketRow :=
  db.buckets.find? (·.bucketKey == bucketKey)

/-- `SELECT COUNT(*) … WHERE status = 'active'` -/
def activeClients : Nat :=
  db.clients.countP (·.active)

/-- `INSERT … ON CONFLICT DO UPDATE SET window_start_iso = …, count = …` -/
def recordBucket (bucketKey : Text) (windowStart : Int) (count : Nat) : List RateBucketRow :=
  match db.bucket bucketKey with
  | none => db.buckets ++ [{ bucketKey, windowStart, count }]
  | some _ =>
    updateWhere (·.bucketKey == bucketKey) (fun row => { row with windowStart, count }) db.buckets

def exec : (cmd : DcrCommand) → DcrDatabase → cmd.Reply × DcrDatabase
  | .readBucket bucketKey, db => (db.bucket bucketKey, db)
  | .recordBucket bucketKey windowStart count, db =>
    ((), { db with buckets := db.recordBucket bucketKey windowStart count })
  | .countClients, db => (db.activeClients, db)
  | .insertClient row, db =>
    if db.clients.any (·.clientId == row.clientId) then (.error .unique, db)
    else (.ok (), { db with clients := db.clients ++ [row] })

end DcrDatabase

/-- The tables of registrations as a machine. Nothing but the calls changes them. -/
abbrev dcrStore : Machine where
  State := DcrDatabase
  Command := DcrCommand
  Reply := DcrCommand.Reply
  exec := DcrDatabase.exec
  Event := Empty
  disturb := fun event _ => event.elim

abbrev Dcr := Program dcrStore DcrFailure

def statement (cmd : DcrCommand) : Dcr cmd.Reply :=
  Program.perform (M := dcrStore) cmd

def refuseDcr {α : Type} (refusal : DcrRefusal) : Dcr α :=
  .fail (.refused refusal)

def ensureDcr (condition : Prop) [Decidable condition] (refusal : DcrRefusal) : Dcr Unit :=
  if condition then .done () else refuseDcr refusal

variable (settings : DcrSettings)

def nonBlank (value : Option Text) : Option Text :=
  (value.map trim).filter (· ≠ [])

def resolveDcrClientIp (ctx : DcrContext) : Text :=
  match nonBlank ctx.cfConnectingIp with
  | some ip => ip
  | none =>
    match nonBlank ((nonBlank ctx.xForwardedFor).map (fun hops => (splitAtUnit 0x2C hops).headD []))
    with
    | some ip => ip
    | none => (nonBlank ctx.clientIp).getD (text "unknown")

def isLineTerminator (u : CodeUnit) : Bool :=
  u = 0x0A || u = 0x0D || u = 0x2028 || u = 0x2029

/-- What `/^Bearer\s+(.+)$/i` captures, trimmed; the empty text if it does not match. -/
def bearerToken (header : Text) : Text :=
  let rest := header.drop 6
  let lower := fun u => if isUpper u then u + 0x20 else u
  let token := trimStart rest
  if (header.take 6).map lower = text "bearer" ∧ token ≠ rest ∧ ¬ token.any isLineTerminator then
    trim token
  else []

def enforceDcrInitialAccessToken (ctx : DcrContext) : Dcr Unit :=
  match nonBlank settings.initialAccessToken with
  | none => .done ()
  | some expected =>
    let header :=
      match ctx.authorization with
      | some authorization => authorization
      | none => ctx.authorizationHeader.getD []
    let provided := bearerToken header
    ensureDcr (provided ≠ [] ∧ settings.sha256Text provided = settings.sha256Text expected)
      { error := "invalid_token", status := 401, detail := some "initial_access_token_required" }

def dcrRateLimitMax (clientIp : Text) : Nat :=
  if clientIp = text "unknown" then settings.rateLimitMaxUnknown else settings.rateLimitMax

def dcrBucketKey (clientIp : Text) : Text :=
  text "ip:" ++ clientIp

def dcrWindow : Int :=
  (settings.rateLimitWindowSeconds : Nat) * 1000

def currentWindow (row : Option RateBucketRow) (now : Int) : Int × Nat :=
  match row.filter (fun row => now - row.windowStart < dcrWindow settings) with
  | some row => (row.windowStart, row.count)
  | none => (now, 0)

def consumeDcrRateLimit (clientIp : Text) (now : Int) : Dcr Unit := do
  let row : Option RateBucketRow ← statement (.readBucket (dcrBucketKey clientIp))
  let window := currentWindow settings row now
  ensureDcr (window.2 < dcrRateLimitMax settings clientIp)
    { error := "slow_down", status := 429, detail := some "dcr_rate_limit_exceeded"
      retryAfter := some (max 1 ((window.1 + dcrWindow settings - now + 999) / 1000)) }
  let _ ← statement (.recordBucket (dcrBucketKey clientIp) window.1 (window.2 + 1))
  .done ()

def enforceDcrActiveClientCap : Dcr Unit := do
  let active : Nat ← statement .countClients
  ensureDcr (active < settings.maxActiveClients)
    { error := "dcr_capacity_exceeded", status := 403, detail := some "active_oauth_clients_cap"
      active := some active, max := some settings.maxActiveClients }

def validateDcrRedirectUri (redirectUri : Value) : Except String Text :=
  match redirectUri.string?.filter (fun uri => trim uri ≠ []) with
  | none => .error "invalid_redirect_uri"
  | some uri =>
    if DCR_MAX_REDIRECT_URI_CHARS < uri.length then .error "redirect_uri_too_long"
    else
      match settings.parseUrl uri with
      | none => .error "invalid_redirect_uri"
      | some parsed =>
        let host := settings.toLowerCase parsed.hostname
        let isLoopback :=
          host = text "127.0.0.1" ∨ host = text "localhost" ∨ host = text "[::1]"
            ∨ host = text "::1"
        if parsed.username ≠ [] ∨ parsed.password ≠ [] then
          .error "redirect_uri_userinfo_forbidden"
        else if parsed.hash ≠ [] then .error "redirect_uri_fragment_forbidden"
        else if parsed.protocol = text "https:" then .ok parsed.href
        else if parsed.protocol = text "http:" ∧ isLoopback then .ok parsed.href
        else .error "redirect_uri_scheme_forbidden"

def normalizeDcrRedirectUris (redirectUris : Value) : Except String (List Text) :=
  match redirectUris with
  | .array slots =>
    if slots = [] then .error "redirect_uris_required"
    else if DCR_MAX_REDIRECT_URIS < slots.length then .error "too_many_redirect_uris"
    else
      (slots.mapM (fun slot => validateDcrRedirectUri settings (slot.getD .undefined))).map distinct
  | _ => .error "redirect_uris_required"

def distinctTexts (value : Value) (default : List Text) : List Text :=
  match value with
  | .array slots => distinct (slots.map (fun slot => (slot.getD .undefined).toText))
  | _ => distinct default

structure ClientMetadata where
  (redirectUris grantTypes responseTypes : List Text)
  (clientName softwareId applicationType : Option Text)
  deriving DecidableEq

def clientMetadata (body : Value) : Except String ClientMetadata := do
  let redirectUris ← normalizeDcrRedirectUris settings (body.get (text "redirect_uris"))
  let code := text "authorization_code"
  let grantTypes := distinctTexts (body.get (text "grant_types")) [code]
  if code ∉ grantTypes ∨ ∃ grant ∈ grantTypes, grant ≠ code ∧ grant ≠ text "refresh_token" then
    .error "grant_types_unsupported"
  let responseTypes := distinctTexts (body.get (text "response_types")) [text "code"]
  if responseTypes ≠ [text "code"] then .error "response_types_must_be_code"
  let authMethod := (body.get (text "token_endpoint_auth_method")).string?.getD (text "none")
  if authMethod ≠ text "none" then .error "token_endpoint_auth_method_must_be_none"
  let given (key : String) : Bool :=
    match body.get (text key) with
    | .undefined | .null => false
    | _ => true
  if given "client_secret" ∨ given "client_secret_expires_at" then
    .error "client_secret_not_supported"
  let clientName :=
    (nonBlank (body.get (text "client_name")).string?).map (·.take DCR_MAX_CLIENT_NAME_CHARS)
  let softwareId :=
    (nonBlank (body.get (text "software_id")).string?).map (·.take DCR_MAX_SOFTWARE_ID_CHARS)
  let applicationType :=
    (nonBlank (body.get (text "application_type")).string?).map settings.toLowerCase
  if ∃ type ∈ applicationType, type ≠ text "web" ∧ type ≠ text "native" then
    .error "application_type_invalid"
  if (nonBlank (body.get (text "client_id")).string?).isSome then
    .error "client_id_server_minted_only"
  .ok { redirectUris, grantTypes, responseTypes, clientName, softwareId, applicationType }

structure Registered extends ClientMetadata where
  clientId : Text
  clientIdIssuedAt : Int
  deriving DecidableEq

def registerClient (metadata : ClientMetadata) (bytes : Bytes) (registeredAt : Int)
    : Dcr Registered := do
  let clientId := randomToken "dcr" bytes
  let inserted : Except SqlError Unit ←
    statement
      (.insertClient
        { clientId, clientName := metadata.clientName, softwareId := metadata.softwareId
          redirectUris := metadata.redirectUris, grantTypes := metadata.grantTypes
          responseTypes := metadata.responseTypes, applicationType := metadata.applicationType
          active := true, createdAt := registeredAt })
  match inserted with
  | .ok _ => .done { toClientMetadata := metadata, clientId, clientIdIssuedAt := registeredAt / 1000 }
  | .error error => .fail (.thrown error)

def handleOauthRegisterRequest (request : RegisterRequest) : Dcr Registered := do
  ensureDcr settings.enabled { error := "dcr_disabled", status := 403 }
  enforceDcrInitialAccessToken settings request.ctx
  consumeDcrRateLimit settings (resolveDcrClientIp request.ctx) request.now
  enforceDcrActiveClientCap settings
  match clientMetadata settings request.body with
  | .error detail =>
    refuseDcr { error := "invalid_client_metadata", status := 400, detail := some detail }
  | .ok metadata => registerClient metadata request.bytes request.registeredAt

/-- Any interleaving of registrations. -/
abbrev dcrRun (start : DcrDatabase) (schedule : List (Action dcrStore RegisterRequest))
    : Config dcrStore RegisterRequest DcrFailure Registered :=
  (Config.init start).run (handleOauthRegisterRequest settings) schedule

end CairnStone.CoreAuth
