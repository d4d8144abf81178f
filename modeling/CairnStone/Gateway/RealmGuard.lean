import CairnStone.ToolBroker.Policy

/-! The guard of the private realm: calls without an authenticated context may not name its addresses
where a mailbox tool takes an actor. `toLowerCase()` is a parameter.
-/

namespace CairnStone.Gateway

open JavaScript TaskRuns ToolBroker

def PRIVATE_REALM_NAMESPACES : List Text :=
  [text "prin", text "conn", text "home", text "acct", text "ten", text "inbox"]

def PRIVATE_REALM_ID_PREFIXES : List Text :=
  [text "prin_", text "conn_", text "acct_", text "ten_", text "authn_", text "tfam_",
    text "walacct_", text "home_", text "ibx_"]

def AC1_MAILBOX_TOOLS : List Text :=
  [text "cairnstone_send_message", text "cairnstone_dispatch_handoff",
    text "cairnstone_forward_with_note", text "cairnstone_get_inbox",
    text "cairnstone_list_threads", text "cairnstone_get_thread", text "cairnstone_read_message",
    text "cairnstone_note_self", text "cairnstone_get_notes",
    text "cairnstone_mailbox_policy_preview", text "cairnstone_run_task_request"]

def SINGLE_ACTOR_FIELDS : List Text :=
  [text "from", text "recipient_id", text "actor_id", text "worker_actor_id"]

def LIST_ACTOR_FIELDS : List Text := [text "to"]

inductive RealmGuardMode where
  | off
  | shadow
  | enforce
  deriving DecidableEq

variable (toLowerCase : Text → Text)

def resolveRealmGuardMode (setting : Value) : RealmGuardMode :=
  let raw := toLowerCase (trim (setting.string?.getD []))
  if raw = text "shadow" then .shadow
  else if raw = text "enforce" then .enforce
  else .off

/-- `text.slice(0, colon)` before the first colon, if there is one, and what follows it -/
def splitNamespace (s : Text) : Text × Text :=
  let colon : CodeUnit := 0x3A
  if s.contains colon then (s.takeWhile (· != colon), (s.dropWhile (· != colon)).drop 1)
  else ([], s)

def isReserved (s : Text) : Bool :=
  let (space, identifier) := splitNamespace s
  s != []
  && ((space != [] && PRIVATE_REALM_NAMESPACES.contains space)
    || PRIVATE_REALM_ID_PREFIXES.any (fun reserved =>
      reserved.isPrefixOf s || reserved.isPrefixOf identifier))

def isPrivateRealmActor (value : Value) : Bool :=
  match value with
  | .string s => isReserved (toLowerCase (trim s))
  | _ => false

def itemsOf (value : Value) : List Value :=
  match value with
  | .array _ => listOf value
  | .undefined => []
  | .null => []
  | item => [item]

/-- `findPrivateRealmActorFields(toolName, args).fields`, which is empty where it does not apply -/
def findPrivateRealmActorFields (toolName : Text) (args : Value) : List Text :=
  if !AC1_MAILBOX_TOOLS.contains toolName || !args.isObject then []
  else
    SINGLE_ACTOR_FIELDS.filter (fun field => isPrivateRealmActor toLowerCase (args.get field))
    ++ LIST_ACTOR_FIELDS.filter (fun field =>
        (itemsOf (args.get field)).any (isPrivateRealmActor toLowerCase))

def realmHint : Text :=
  text "This address belongs to the authenticated private realm and cannot be named on the legacy"
  ++ text " surface. Connect through an authenticated endpoint."

/-- The denial of `applyRealmGuard(toolName, args, env, { authContext })`, if it denies -/
def applyRealmGuard (toolName : Text) (args setting authContext : Value) : Option Value :=
  let fields := findPrivateRealmActorFields toLowerCase toolName args
  if authContext.truthy then none
  else if resolveRealmGuardMode toLowerCase setting ≠ .enforce then none
  else
    match fields with
    | [] => none
    | first :: _ =>
      some
        (.literal
          [(text "ok", .bool false), (text "status", countValue 403),
            (text "error", .string (text "private_realm_actor_forbidden")),
            (text "field", .string first), (text "fields", textList fields),
            (text "hint", .string realmHint), (text "transport_only", .bool true),
            (text "accepted_state_authority", .bool false)])

end CairnStone.Gateway
