import CairnStone.Gateway.RealmGuard

/-! What an authenticated caller may say: the context that a token gives, the checks of identity and of
resources against it, and the caller that is filled in.
-/

namespace CairnStone.Gateway

open JavaScript TaskRuns ToolBroker

/-- The rows behind a token, the resource it is for, and the scopes it came with. -/
structure TokenRows where
  (account connection tokenFamily authenticator scopes resource : Value)

/-- `[value].filter(Boolean)` -/
def truthyOnly (value : Value) : Value :=
  .array (if value.truthy then [some value] else [])

def authorityClosed : List (Text × Value) :=
  [(text "accepted_state_authority", .bool false), (text "chain_heads_mutated", .bool false),
    (text "path_heads_mutated", .bool false), (text "spend_authority", .bool false),
    (text "economic_grant", .bool false)]

def buildAuthContext (rows : TokenRows) : Value :=
  let account (key : String) : Value := rows.account.get (text key)
  let connection (key : String) : Value := rows.connection.get (text key)
  let tokenFamily (key : String) : Value := rows.tokenFamily.get (text key)
  .literal
    ([(text "schema", .string (text "cairnstone-core-auth-context-v1")),
        (text "realm", .string (text "core-auth")), (text "account_id", account "account_id"),
        (text "tenant_id", connection "tenant_id"),
        (text "connection_id", connection "connection_id"),
        (text "principal_id", connection "principal_id"),
        (text "authenticator_assurance", (rows.authenticator.get (text "assurance_class")).or .null),
        (text "client_family", connection "client_family"), (text "resource", rows.resource),
        (text "scopes", if isArray rows.scopes then rows.scopes else tokenFamily "scopes"),
        (text "token_family_id", tokenFamily "token_family_id"),
        (text "authz_version", tokenFamily "authz_version"),
        (text "account_status", account "status"), (text "connection_status", connection "status"),
        (text "token_family_status", tokenFamily "status"),
        (text "home_workspace_id", (account "home_workspace_id").orNullish .null),
        (text "home_code_session_id", (account "home_code_session_id").orNullish .null),
        (text "visible_workspace_ids", truthyOnly (account "home_workspace_id")),
        (text "visible_code_session_ids", truthyOnly (account "home_code_session_id"))]
      ++ authorityClosed)

def STRICT_CALLER_IDENTITY_FIELDS : List Text :=
  [text "account_id", text "tenant_id", text "principal_id", text "connection_id"]

def CHECKED_CALLER_ASSERTION_FIELDS : List Text :=
  [text "from", text "recipient_id", text "actor_id"]

/-- A denied assertion. -/
structure Denial where
  (error field hint : Text)

def presented? (args : Value) (field : Text) : Option Text :=
  match args.get field with
  | .undefined => none
  | .null => none
  | .string [] => none
  | value => if hasOwn args field then some value.toText else none

/-- The denial of `assertCallerIdentity(args, authContext)`, without aliases, if it denies -/
def assertCallerIdentity (args authContext : Value) : Option Denial :=
  let mismatched :=
    STRICT_CALLER_IDENTITY_FIELDS.find? (fun field =>
      (presented? args field).any (fun presented =>
        !(authContext.get field).strictEquals (.string presented)))
  let forbidden :=
    CHECKED_CALLER_ASSERTION_FIELDS.find? (fun field =>
      (presented? args field).any (fun presented =>
        !(authContext.get (text "principal_id")).strictEquals (.string presented)))
  if !authContext.truthy || !args.isObject then none
  else
    match mismatched, forbidden with
    | some field, _ =>
      some
        { error := text "caller_identity_mismatch"
          field
          hint :=
            text "Caller-supplied identity must equal server-derived context; never rewritten." }
    | none, some field =>
      some
        { error := text "caller_assertion_forbidden"
          field
          hint :=
            text "from/recipient_id/actor_id must resolve to the authenticated principal or an"
            ++ text " authorized delegated alias." }
    | none, none => none

/-- `[home, ...visible].filter(Boolean)` holds the text -/
def isVisible (authContext : Value) (home visible : String) (s : Text) : Bool :=
  (authContext.get (text home) :: listOf (authContext.get (text visible))).any (fun allowed =>
    allowed.truthy && allowed.strictEquals (.string s))

def selectedWorkspace (args : Value) : Option Text :=
  nonEmptyString (args.get (text "workspace_id"))

def selectedSession (args : Value) : Option Text :=
  (nonEmptyString (args.get (text "code_session_id"))).or
    (nonEmptyString (args.get (text "session_id")))

def isForeignWorkspace (args authContext : Value) : Bool :=
  (selectedWorkspace args).any (fun s =>
    !isVisible authContext "home_workspace_id" "visible_workspace_ids" s)

def isForeignSession (args authContext : Value) : Bool :=
  (selectedSession args).any (fun s =>
    !isVisible authContext "home_code_session_id" "visible_code_session_ids" s)

def claimsInvite (args : Value) (toolName : Text) : Bool :=
  let given (key : String) : Bool := (args.get (text key)).truthy
  (toolName == text "cairnstone_workspace_invite_claim"
    || (nonEmptyString (args.get (text "invite_id"))).isSome)
  && !(given "mailbox_capability" || given "invite_capability" || given "workspace_capability"
    || given "grant_id")

/-- The denial of `assertResourceSelectors(args, authContext, { toolName })`, if it denies -/
def assertResourceSelectors (args authContext : Value) (toolName : Text) : Option Denial :=
  if !authContext.truthy || !args.isObject then none
  else if isForeignWorkspace args authContext then
    some
      { error := text "workspace_idor_denied"
        field := text "workspace_id"
        hint :=
          text "workspace_id is a RESOURCE_SELECTOR constrained by server-derived membership; never"
          ++ text " leaks foreign rows." }
  else if isForeignSession args authContext then
    some
      { error := text "code_session_idor_denied"
        field := text "code_session_id"
        hint := text "Code Session selectors are constrained by server-derived membership." }
  else if claimsInvite args toolName then
    some
      { error := text "invite_confused_deputy"
        field := text "invite_id"
        hint :=
          text "Invite claim requires an explicit grant/capability; authenticated caller alone is"
          ++ text " not enough." }
  else none

/-- `if (!next[field]) next[field] = principal` -/
def withCaller (principal : Value) (next : List (Text × Value)) (field : Text)
    : List (Text × Value) :=
  if ((Value.literal next).get field).truthy then next
  else Value.setProperty next field principal

def injectServerDerivedCaller (args authContext : Value) : Value :=
  if !authContext.truthy then args
  else
    .literal
      ([text "from", text "actor_id", text "recipient_id"].foldl
        (withCaller (authContext.get (text "principal_id")))
        (if args.isObject then args.spread else []))

end CairnStone.Gateway
