import CairnStone.Data.Lookup
import CairnStone.JavaScript.Value

/-! The authority input of the private realm: identifier patterns, typed failures, and the
validation of a Home scope and of a selector.
-/

namespace CairnStone.PrivateRealm

open JavaScript

/-- `[A-Za-z0-9:._-]` -/
def isMessageUnit (u : CodeUnit) : Bool :=
  isWord u || u == 0x3A || u == 0x2E

/-- `[a-z0-9_.-]` -/
def isLabelUnit (u : CodeUnit) : Bool :=
  isLower u || isDigit u || u == 0x5F || u == 0x2E || u == 0x2D

namespace ID_PATTERNS

def acct : Pattern := { start := text "acct_", unit := isWord, least := 4, most := 60 }
def ten : Pattern := { start := text "ten_", unit := isWord, least := 4, most := 60 }
def prin : Pattern := { start := text "prin_", unit := isWord, least := 4, most := 60 }
def conn : Pattern := { start := text "conn_", unit := isWord, least := 4, most := 60 }
def home : Pattern := { start := text "home_", unit := isWord, least := 8, most := 70 }
def ibx : Pattern := { start := text "ibx_", unit := isWord, least := 4, most := 70 }
def message : Pattern := { start := [], unit := isMessageUnit, least := 8, most := 120 }
def thread : Pattern := { start := [], unit := isMessageUnit, least := 1, most := 120 }

end ID_PATTERNS

/-- `/^[a-z0-9_.-]{1,40}$/` -/
def providerLabelPattern : Pattern :=
  { start := [], unit := isLabelUnit, least := 1, most := 40 }

inductive HomeRole where
  | admin
  | member
  deriving DecidableEq

inductive InboxScope where
  | home
  | connection
  | agentIdentity
  deriving DecidableEq

inductive InboxPlane where
  | chat
  | work
  | notifications
  | control
  deriving DecidableEq

inductive Capability where
  | read
  | send
  | ack
  deriving DecidableEq

/-- `HOME_ROLES.includes(value)`, as the role it names. -/
def HomeRole.ofValue? : Value → Option HomeRole
  | .string s =>
    if s = text "admin" then some .admin
    else if s = text "member" then some .member
    else none
  | _ => none

/-- `INBOX_SCOPES.includes(value)`, as the scope it names. -/
def InboxScope.ofValue? : Value → Option InboxScope
  | .string s =>
    if s = text "home" then some .home
    else if s = text "connection" then some .connection
    else if s = text "agent_identity" then some .agentIdentity
    else none
  | _ => none

/-- `INBOX_PLANES.includes(value)`, as the plane it names. -/
def InboxPlane.ofValue? : Value → Option InboxPlane
  | .string s =>
    if s = text "chat" then some .chat
    else if s = text "work" then some .work
    else if s = text "notifications" then some .notifications
    else if s = text "control" then some .control
    else none
  | _ => none

/-- `CAPABILITY_SET.has(key)` -/
def Capability.ofText? (s : Text) : Option Capability :=
  if s = text "read" then some .read
  else if s = text "send" then some .send
  else if s = text "ack" then some .ack
  else none

def Capability.ofValue? : Value → Option Capability
  | .string s => Capability.ofText? s
  | _ => none

def HomeRole.name : HomeRole → String
  | .admin => "admin"
  | .member => "member"

def Capability.name : Capability → String
  | .read => "read"
  | .send => "send"
  | .ack => "ack"

/-- Why a statement was refused by the database. -/
inductive SqlError where
  | unique
  | foreignKey
  | check
  | abort (message : String)
  deriving DecidableEq

/-- What a store method can throw: a typed `PrivateRealmError` with its code, or a raw
error of the database, of the body bucket, or of the language.
-/
inductive Failure where
  | realm (code : String)
  | sql (error : SqlError)
  | bucket
  | typeError
  deriving DecidableEq

/-- A validated Home scope. Its identifiers match their patterns by construction. -/
structure HomeScope where
  (accountId tenantId principalId connectionId : Text)
  homeRole : HomeRole
  providerLabel : Text
  accountIdValid : ID_PATTERNS.acct.test accountId
  tenantIdValid : ID_PATTERNS.ten.test tenantId
  principalIdValid : ID_PATTERNS.prin.test principalId
  connectionIdValid : ID_PATTERNS.conn.test connectionId
  providerLabelValid : providerLabelPattern.test providerLabel
  deriving DecidableEq

def requireId (value : Value) (pattern : Pattern) (code : String)
    : Except Failure { s : Text // pattern.test s } :=
  match value with
  | .string s => if valid : pattern.test s then .ok ⟨s, valid⟩ else .error (.realm code)
  | _ => .error (.realm code)

def assertHomeScope (scope : Value) : Except Failure HomeScope :=
  match scope with
  | .object _ _ => do
    let accountId ← requireId (scope.get (text "account_id")) ID_PATTERNS.acct
      "invalid_account_id"
    let tenantId ← requireId (scope.get (text "tenant_id")) ID_PATTERNS.ten
      "invalid_tenant_id"
    let principalId ← requireId (scope.get (text "principal_id")) ID_PATTERNS.prin
      "invalid_principal_id"
    let connectionId ← requireId (scope.get (text "connection_id")) ID_PATTERNS.conn
      "invalid_connection_id"
    let role := (scope.get (text "home_role")).orDefault (.string (text "member"))
    match HomeRole.ofValue? role with
    | none => .error (.realm "invalid_home_role")
    | some homeRole => do
      let label :=
        (scope.get (text "provider_label")).orDefault (.string (text "unspecified"))
      let providerLabel ← requireId label providerLabelPattern "invalid_provider_label"
      if scope.has (text "home_id") || scope.has (text "inbox_id") then
        .error (.realm "scope_must_not_carry_selectors")
      else
        .ok {
          accountId := accountId.1
          tenantId := tenantId.1
          principalId := principalId.1
          connectionId := connectionId.1
          homeRole
          providerLabel := providerLabel.1
          accountIdValid := accountId.2
          tenantIdValid := tenantId.2
          principalIdValid := principalId.2
          connectionIdValid := connectionId.2
          providerLabelValid := providerLabel.2
        }
  | _ => .error (.realm "home_scope_required")

structure Selector where
  homeId : Option Text
  deriving DecidableEq

def assertSelector (selector : Value) : Except Failure Selector :=
  match selector with
  | .undefined => .ok ⟨none⟩
  | .null => .ok ⟨none⟩
  | .object _ _ =>
    match selector.get (text "homeId") with
    | .undefined => .ok ⟨none⟩
    | .null => .ok ⟨none⟩
    | .string s =>
      if ID_PATTERNS.home.test s then .ok ⟨some s⟩ else .error (.realm "invalid_selector")
    | _ => .error (.realm "invalid_selector")
  | _ => .error (.realm "invalid_selector")

/-- `isInboxId(value)`, as the id. -/
def inboxId? : Value → Option Text
  | .string s => if ID_PATTERNS.ibx.test s then some s else none
  | _ => none

/-- `isConnectionId(value)`, as the id. -/
def connectionId? : Value → Option Text
  | .string s => if ID_PATTERNS.conn.test s then some s else none
  | _ => none

theorem inboxId?_eq_some {value : Value} {s : Text}
    : inboxId? value = some s ↔ value = .string s ∧ ID_PATTERNS.ibx.test s := by
  cases value <;> simp [inboxId?]
  constructor
  · rintro ⟨valid, rfl⟩
    exact ⟨rfl, valid⟩
  · rintro ⟨rfl, valid⟩
    exact ⟨valid, rfl⟩

end CairnStone.PrivateRealm
