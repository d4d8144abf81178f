import CairnStone.Conversation.Sessions

/-! Standing policies: what an account allows for a workspace, for a chain and for itself, and which
of these is in effect for a scope.
-/

namespace CairnStone.Conversation

open JavaScript Data
open TaskRuns (Refusal refuse textList)

inductive PolicyMode where
  | on
  | off
  | ask
  deriving DecidableEq

def PolicyMode.text : PolicyMode → Text
  | .on => JavaScript.text "on"
  | .off => JavaScript.text "off"
  | .ask => JavaScript.text "ask"

inductive PayloadMode where
  | fullTurns
  | decisionsTasks
  | summaries
  deriving DecidableEq

def PayloadMode.text : PayloadMode → Text
  | .fullTurns => JavaScript.text "full_turns"
  | .decisionsTasks => JavaScript.text "decisions_tasks"
  | .summaries => JavaScript.text "summaries"

inductive ScopeKind where
  | account
  | workspace
  | chain
  deriving DecidableEq

def ScopeKind.text : ScopeKind → Text
  | .account => JavaScript.text "account"
  | .workspace => JavaScript.text "workspace"
  | .chain => JavaScript.text "chain"

/-- What a policy is about. -/
structure ScopeRef where
  kind : ScopeKind
  key : Text
  deriving DecidableEq

/-- Whose policies are meant. -/
structure Owner where
  (accountId tenantId : Text)
  deriving DecidableEq

structure PolicyRow where
  policyId : Text
  owner : Owner
  scope : ScopeRef
  mode : PolicyMode
  payloadMode : PayloadMode
  revision : Nat
  (updatedByPrincipalId updatedByConnectionId createdAt updatedAt : Text)
  deriving DecidableEq

def clean (max : Nat) (s : Text) : Text :=
  if (trim s).length ≤ max then trim s else []

/-- What a session's turns are synchronized under. -/
structure SyncScope where
  (workspaceId chain : Option Text)
  deriving DecidableEq

/-- `String(value || "").trim() || null` -/
def trimmed (value : Option Text) : Option Text :=
  match value with
  | some s => if trim s = [] then none else some (trim s)
  | none => none

def turnSyncScopeFromSession (session : SessionRow) : SyncScope where
  workspaceId := trimmed session.workspaceId
  chain := trimmed session.selectedChain

def scopeCandidate (kind : ScopeKind) (key : Option Text) : List ScopeRef :=
  match clean 300 (key.getD []) with
  | [] => []
  | cleaned => [⟨kind, cleaned⟩]

def policyScopeCandidates (scope : SyncScope) : List ScopeRef :=
  scopeCandidate .workspace scope.workspaceId ++ scopeCandidate .chain scope.chain
    ++ [⟨.account, text "*"⟩]

def effectivePolicyFromRows (rows : List PolicyRow) (scope : SyncScope) : Option PolicyRow :=
  (policyScopeCandidates scope).findSome? (fun candidate =>
    rows.reverse.find? (fun row => row.scope == candidate))

def effectiveMode (effective : Option PolicyRow) : PolicyMode :=
  (effective.map PolicyRow.mode).getD .ask

def effectivePayloadMode (effective : Option PolicyRow) : PayloadMode :=
  (effective.map PolicyRow.payloadMode).getD .fullTurns

/-- What a standing policy says about an append. -/
inductive Gate where
  | allowed
  | denied (error : Text) (requiresHumanConfirmation : Bool)

def evaluateTurnSyncStandingPolicy (effective : Option PolicyRow) : Gate :=
  match effectiveMode effective with
  | .off => .denied (text "turnsync_sync_disabled") false
  | .ask => .denied (text "turnsync_confirmation_required") true
  | .on =>
    match effectivePayloadMode effective with
    | .fullTurns => .allowed
    | _ => .denied (text "turnsync_payload_transform_required") false

def Gate.allowAppend : Gate → Bool
  | .allowed => true
  | .denied _ _ => false

def Gate.requiresHumanConfirmation : Gate → Bool
  | .allowed => false
  | .denied _ required => required

def oneTimeConfirmed (effective : Option PolicyRow) (syncConfirmed : Value) : Bool :=
  (evaluateTurnSyncStandingPolicy effective).requiresHumanConfirmation && syncConfirmed.isTrue
    && effectivePayloadMode effective == .fullTurns

/-- Whether the policy in effect lets a turn in. -/
def letsIn (effective : Option PolicyRow) (syncConfirmed : Value) : Bool :=
  (evaluateTurnSyncStandingPolicy effective).allowAppend || oneTimeConfirmed effective syncConfirmed

/-- `SELECT * FROM auth_turnsync_policies WHERE …`: the policy of an owner for a scope -/
def findPolicy (policies : List PolicyRow) (owner : Owner) (scope : ScopeRef) : Option PolicyRow :=
  policies.find? (fun row => row.owner == owner && row.scope == scope)

/-- `SELECT * FROM auth_turnsync_policies WHERE policy_id = ?` -/
def findPolicyById (policies : List PolicyRow) (id : Text) : Option PolicyRow :=
  policies.find? (·.policyId == id)

/-- `INSERT INTO auth_turnsync_policies`: whether the id and the scope were free. -/
def insertPolicy (policies : List PolicyRow) (row : PolicyRow) : Bool × List PolicyRow :=
  if (findPolicyById policies row.policyId).isSome || (findPolicy policies row.owner row.scope).isSome
  then (false, policies)
  else (true, policies ++ [row])

/-- What `turnSyncPolicySetFromBody` writes into an existing row. -/
structure PolicyUpdate where
  mode : PolicyMode
  payloadMode : PayloadMode
  (updatedByPrincipalId updatedByConnectionId updatedAt : Text)

/-- `WHERE policy_id = ? AND revision = ?` -/
def matchesPolicy (id : Text) (revision : Nat) (row : PolicyRow) : Bool :=
  row.policyId == id && row.revision == revision

/-- `UPDATE auth_turnsync_policies SET …, revision = revision + 1 WHERE …`: whether a row matched,
and the rows afterwards.
-/
def swapPolicy (policies : List PolicyRow) (id : Text) (revision : Nat) (update : PolicyUpdate)
    : Bool × List PolicyRow :=
  (policies.any (matchesPolicy id revision),
    updateWhere (matchesPolicy id revision)
      (fun row =>
        { row with
          mode := update.mode
          payloadMode := update.payloadMode
          revision := row.revision + 1
          updatedByPrincipalId := update.updatedByPrincipalId
          updatedByConnectionId := update.updatedByConnectionId
          updatedAt := update.updatedAt })
      policies)

/-- The args of `turnSyncPolicySetFromBody`. `baseRevision` is `Number(base_revision)`, if one
is given.
-/
structure PolicyArguments where
  (humanCommit scopeKind scopeKey mode payloadMode : Value)
  baseRevision : Option Number
  ambient : TaskRuns.Ambient

/-- `String(value ?? "")` -/
def givenText (value : Value) : Text :=
  match value with
  | .undefined => []
  | .null => []
  | given => given.toText

/-- `clean(value, max).toLowerCase()`, as one of the names -/
def cleanName {α : Type} (args : PolicyArguments) (max : Nat) (names : List α)
    (spelling : α → Text) (error : String) (value : Value)
    : Except Refusal α :=
  match names.find? (fun name =>
      spelling name == args.ambient.toLowerCase (clean max (givenText value))) with
  | some name => .ok name
  | none => .error (refuse error)

structure PolicyWrite where
  scope : ScopeRef
  mode : PolicyMode
  payloadMode : PayloadMode
  baseRevision : Option Nat

def scopeKeyOf (kind : ScopeKind) (value : Value) : Except Refusal Text :=
  match kind with
  | .account => .ok (text "*")
  | _ =>
    match clean 300 (givenText value) with
    | [] => .error (refuse "turnsync_policy_scope_key_required")
    | key => .ok key

def readPolicyRevision (baseRevision : Option Number) : Except Refusal (Option Nat) :=
  match baseRevision with
  | none => .ok none
  | some n =>
    match revisionOf (.number n) with
    | some revision => .ok (some revision)
    | none => .error (refuse "turnsync_policy_base_revision_invalid")

def normalizePolicyWrite (args : PolicyArguments) : Except Refusal PolicyWrite := do
  let kind ← cleanName args 32 [ScopeKind.account, .workspace, .chain] ScopeKind.text
    "turnsync_policy_scope_invalid" args.scopeKind
  let mode ← cleanName args 32 [PolicyMode.on, .off, .ask] PolicyMode.text
    "turnsync_policy_mode_invalid" args.mode
  let payloadMode ← cleanName args 64
    [PayloadMode.fullTurns, .decisionsTasks, .summaries] PayloadMode.text
    "turnsync_policy_payload_invalid" args.payloadMode
  let key ← scopeKeyOf kind args.scopeKey
  let baseRevision ← readPolicyRevision args.baseRevision
  .ok { scope := ⟨kind, key⟩, mode, payloadMode, baseRevision }

end CairnStone.Conversation
