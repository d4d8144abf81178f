import CairnStone.PrivateRealm.Calls
import CairnStone.PrivateRealm.Platform

/-! `createD1HomeStore`: every method authorizes first, writes with the authority evaluated
inside the statement, and re-reads when a write changed nothing or failed.
-/

namespace CairnStone.PrivateRealm.D1Store

open JavaScript Data Concurrency

/-- What the store is created with besides its bindings: the digest and the inline limit. -/
structure StoreConfig where
  sha256Hex : Text → Text
  inlineBodyMax : Nat

abbrev Async (α : Type) := Program machine Failure α

def fail {α : Type} (code : String) : Async α :=
  .fail (.realm code)

/-- One atomic step of the Worker. -/
def command (c : Command) : Async c.Reply :=
  @Program.perform machine Failure c

/-- One atomic look at what the Worker holds. -/
def observe {α : Type} (f : World → α) : Async α :=
  @Program.select machine Failure α f

def now : Async Time :=
  command .now

def mintId (kind : String) (bytes : Nat) : Async Text :=
  command (.mintId kind bytes)

/-- One `SELECT`. -/
def select {α : Type} (f : Database → α) : Async α :=
  observe (fun w => f w.db)

def require (condition : Prop) [Decidable condition] (otherwise : Async Unit) : Async Unit :=
  if condition then pure () else otherwise

-- Audit and typed denials

def audit (homeId : Option Text) (scope : HomeScope) (action outcome : String)
    (reason : Option String)
    : Async Unit := do
  let createdAt ← now
  command
    (.audit
      { homeId, connectionId := some scope.connectionId
        principalId := some scope.principalId, action, outcome, reason, createdAt })

def denyAuth {α : Type} (homeId : Option Text) (scope : HomeScope) (action reason : String)
    : Async α := do
  audit homeId scope action "deny" (some reason)
  fail "scope_not_authorized"

def denyCapability {α : Type} (homeId : Text) (scope : HomeScope) (action reason : String)
    : Async α := do
  audit (some homeId) scope action "deny" (some reason)
  fail "capability_denied"

-- Authorization

structure AuthContext where
  scope : HomeScope
  homeId : Text
  conn : ConnectionRow

def authRow (connectionId : Text) (db : Database) : Option (ConnectionRow × HomeRow) :=
  (db.connections.filter (·.connectionId == connectionId)).findSome?
    (fun c => (db.homes.find? (·.homeId == c.homeId)).map (fun h => (c, h)))

def authorize (scopeIn selectorIn : Value) (action : String) : Async AuthContext := do
  let scope ← .ofExcept (assertHomeScope scopeIn)
  let selector ← .ofExcept (assertSelector selectorIn)
  match ← select (authRow scope.connectionId) with
  | none => denyAuth none scope action "connection_unknown"
  | some (conn, home) => do
    require (home.accountId = scope.accountId ∧ home.tenantId = scope.tenantId)
      (denyAuth (some conn.homeId) scope action "account_or_tenant_mismatch")
    require (conn.principalId = scope.principalId)
      (denyAuth (some conn.homeId) scope action "principal_mismatch")
    require (home.status = .active) (denyAuth (some conn.homeId) scope action "home_inactive")
    require (conn.status = .active)
      (denyAuth (some conn.homeId) scope action "connection_revoked")
    require (∀ homeId ∈ selector.homeId, homeId = conn.homeId)
      (denyAuth (some conn.homeId) scope action "selector_mismatch")
    pure { scope, homeId := conn.homeId, conn }

def inboxRow (homeId inboxId : Text) (db : Database) : Option InboxRow :=
  db.inboxes.find? (fun i => i.homeId == homeId && i.inboxId == inboxId)

def activeInboxRow (homeId inboxId : Text) (db : Database) : Option InboxRow :=
  db.inboxes.find? (fun i => i.homeId == homeId && i.inboxId == inboxId && i.status == .active)

def liveGrantRow (homeId inboxId connectionId : Text) (db : Database) : Option GrantRow :=
  db.grants.find?
    (fun g =>
      g.homeId == homeId && g.inboxId == inboxId && g.connectionId == connectionId
      && g.revokedAt == none)

def connectionRow (homeId connectionId : Text) (db : Database) : Option ConnectionRow :=
  db.connections.find? (fun c => c.homeId == homeId && c.connectionId == connectionId)

def activeConnectionRow (homeId connectionId : Text) (db : Database)
    : Option ConnectionRow :=
  db.connections.find?
    (fun c => c.homeId == homeId && c.connectionId == connectionId && c.status == .active)

def requireCapability (ctx : AuthContext) (inboxIdIn : Value) (capability : Capability)
    (action : String)
    : Async Text :=
  match inboxId? inboxIdIn with
  | none => denyCapability ctx.homeId ctx.scope action "invalid_inbox_id"
  | some inboxId => do
    match ← select (activeInboxRow ctx.homeId inboxId) with
    | none => denyCapability ctx.homeId ctx.scope action "inbox_unavailable"
    | some inbox => do
      require
        (inbox.scope ≠ .connection ∨ inbox.ownerConnectionId = some ctx.conn.connectionId)
        (denyCapability ctx.homeId ctx.scope action "connection_private_sibling_denied")
      match ← select (liveGrantRow ctx.homeId inboxId ctx.conn.connectionId) with
      | none => denyCapability ctx.homeId ctx.scope action "no_grant"
      | some grant => do
        require (grant.can capability = true)
          (denyCapability ctx.homeId ctx.scope action "capability_not_granted")
        pure inboxId

def requireAdmin (ctx : AuthContext) (action : String) : Async Unit :=
  require (ctx.conn.role = .admin) (denyCapability ctx.homeId ctx.scope action "admin_required")

def failedGuard (scopeIn selector : Value) (action : String) (admin : Bool)
    : Async AuthContext := do
  let ctx ← authorize scopeIn selector action
  require (admin = true → ctx.conn.role = .admin)
    (denyCapability ctx.homeId ctx.scope action "admin_required")
  pure ctx

def connGuard (ctx : AuthContext) (admin : Bool) : ConnGuard where
  homeId := ctx.homeId
  scope := ctx.scope
  admin := admin

def grantGuard (ctx : AuthContext) (inboxId : Text) (capability : Capability) : GrantGuard where
  homeId := ctx.homeId
  inboxId := inboxId
  connectionId := ctx.scope.connectionId
  capability := capability

/-- A statement outside every `try`: its error escapes. -/
def orThrow {α : Type} (reply : Except SqlError α) : Async α :=
  match reply with
  | .ok value => pure value
  | .error error => .fail (.sql error)

-- Homes and connections

def knownConnection (connectionId : Text) (db : Database) : Bool :=
  db.connections.any (·.connectionId == connectionId)

def defaultHome (accountId : Text) (db : Database) : Option HomeRow :=
  db.homes.find? (fun h => h.accountId == accountId && h.isDefault)

def principalClash (homeId principalId : Text) (db : Database) : Bool :=
  db.connections.any (fun c => c.homeId == homeId && c.principalId == principalId)

/-- The passes of `ensureDefaultHome` that are left, and the error of the last failed one. -/
def ensurePass (scopeIn : Value) (scope : HomeScope)
    : Nat → Option Failure → Async (Answer Time)
  | 0, lastError => .fail (lastError.getD (.realm "concurrent_state_change"))
  | passes + 1, lastError => do
    if ← select (knownConnection scope.connectionId) then
      -- Re-authorized every time: the row's existence alone is never trusted.
      let ctx ← authorize scopeIn .null "ensure_home"
      audit (some ctx.homeId) scope "ensure_home" "allow"
        (some (if passes + 1 = MAX_PASSES then "idempotent" else "idempotent_race"))
      pure (.ensured ctx.homeId false false ctx.conn.role)
    else
      match ← select (defaultHome scope.accountId) with
      | none => do
        let stamp ← now
        let homeId ← mintId "home" 12
        match ← command (.createHome homeId scope stamp) with
        | .error error => ensurePass scopeIn scope passes (some (.sql error))
        | .ok () => do
          audit (some homeId) scope "ensure_home" "allow" (some "created")
          pure (.ensured homeId true true .admin)
      | some home => do
        let stamp ← now
        require (home.tenantId = scope.tenantId)
          (denyAuth (some home.homeId) scope "ensure_home" "account_tenant_mismatch")
        require (home.status = .active)
          (denyAuth (some home.homeId) scope "ensure_home" "home_inactive")
        require (¬ (← select (principalClash home.homeId scope.principalId)))
          (denyAuth (some home.homeId) scope "ensure_home" "principal_conflict")
        match ← command (.attachConnection home.homeId scope stamp) with
        | .error error => ensurePass scopeIn scope passes (some (.sql error))
        | .ok none => ensurePass scopeIn scope passes lastError
        | .ok (some role) => do
          audit (some home.homeId) scope "ensure_home" "allow"
            (some
              (if role = .admin then "attached_admin_recovery"
              else if scope.homeRole = .admin then "role_downgraded_to_member"
              else "attached"))
          pure (.ensured home.homeId false true role)

def ensureDefaultHome (scopeIn : Value) : Async (Answer Time) := do
  let scope ← .ofExcept (assertHomeScope scopeIn)
  ensurePass scopeIn scope MAX_PASSES none

def resolveHome (scopeIn selector : Value) : Async (Answer Time) := do
  let ctx ← authorize scopeIn selector "resolve_home"
  audit (some ctx.homeId) ctx.scope "resolve_home" "allow" none
  pure (.resolved ctx.homeId ctx.conn.role)

/-- Why the `UPDATE` of `setConnectionRole` matched nothing. -/
def explainSetRole (scopeIn selector : Value) (target : Text) (role : HomeRole)
    : Async (Answer Time) := do
  let fresh ← failedGuard scopeIn selector "set_role" true
  match ← select (activeConnectionRow fresh.homeId target) with
  | none => denyCapability fresh.homeId fresh.scope "set_role" "target_not_active_in_home"
  | some still => do
    require (¬ (still.role = .admin ∧ role = .member))
      (denyCapability fresh.homeId fresh.scope "set_role" "last_admin_protected")
    fail "concurrent_state_change"

def setConnectionRole (scopeIn targetIn roleIn selector : Value) : Async (Answer Time) := do
  let ctx ← authorize scopeIn selector "set_role"
  requireAdmin ctx "set_role"
  match HomeRole.ofValue? roleIn with
  | none => fail "invalid_home_role"
  | some role =>
    match connectionId? targetIn with
    | none => denyCapability ctx.homeId ctx.scope "set_role" "target_not_active_in_home"
    | some target => do
      require ((← select (activeConnectionRow ctx.homeId target)).isSome)
        (denyCapability ctx.homeId ctx.scope "set_role" "target_not_active_in_home")
      let reply ← command (.setRole role target (connGuard ctx true))
      let changes ← orThrow reply
      if changes = 0 then
        explainSetRole scopeIn selector target role
      else do
        audit (some ctx.homeId) ctx.scope "set_role" "allow" (some ("role_" ++ role.name))
        pure (.roleSet target role)

/-- Why the first `UPDATE` of `revokeConnection` matched nothing. -/
def explainRevoke (scopeIn selector : Value) (target : Text) (self : Bool)
    : Async (Answer Time) := do
  let fresh ← failedGuard scopeIn selector "revoke_connection" (!self)
  match ← select (connectionRow fresh.homeId target) with
  | none => denyCapability fresh.homeId fresh.scope "revoke_connection" "target_not_in_home"
  | some still =>
    if still.status = .revoked then do
      audit (some fresh.homeId) fresh.scope "revoke_connection" "allow" (some "already_revoked")
      pure (.connectionRevoked target false)
    else do
      require (still.role ≠ .admin)
        (denyCapability fresh.homeId fresh.scope "revoke_connection"
          "last_admin_protected")
      fail "concurrent_state_change"

/-- The connection a revocation is aimed at: the caller's own unless one was passed. -/
def revokeTarget (ctx : AuthContext) (targetIn : Value) : Except Failure Text :=
  match targetIn with
  | .undefined => .ok ctx.conn.connectionId
  | value =>
    match connectionId? value with
    | some target => .ok target
    | none => realmError "invalid_connection_id"

def revokeConnection (scopeIn targetIn selector : Value) : Async (Answer Time) := do
  let ctx ← authorize scopeIn selector "revoke_connection"
  let target ← .ofExcept (revokeTarget ctx targetIn)
  let self := target == ctx.conn.connectionId
  require (self = true ∨ ctx.conn.role = .admin)
    (denyCapability ctx.homeId ctx.scope "revoke_connection" "admin_required")
  match ← select (connectionRow ctx.homeId target) with
  | none => denyCapability ctx.homeId ctx.scope "revoke_connection" "target_not_in_home"
  | some row =>
    if row.status = .revoked then do
      audit (some ctx.homeId) ctx.scope "revoke_connection" "allow" (some "already_revoked")
      pure (.connectionRevoked target false)
    else do
      let stamp ← now
      let reply ← command (.revokeConnection stamp target (connGuard ctx (!self)))
      let changes ← orThrow reply
      if changes = 0 then
        explainRevoke scopeIn selector target self
      else do
        audit (some ctx.homeId) ctx.scope "revoke_connection" "allow" (some "revoked")
        pure (.connectionRevoked target true)

-- Inboxes and grants

def classifyInbox (ctx : AuthContext) (options : CreateInboxOptions) (inboxId : Text)
    (owner : Option Text)
    : Async (Option (Answer Time)) := do
  match ← select (inboxRow ctx.homeId inboxId) with
  | none => pure none
  | some existing => do
    require
      (existing.scope = options.scope ∧ existing.plane = options.plane
        ∧ existing.ownerConnectionId = owner)
      (denyCapability ctx.homeId ctx.scope "create_inbox" "inbox_conflict")
    audit (some ctx.homeId) ctx.scope "create_inbox" "allow" (some "idempotent")
    pure (some (.inboxCreated inboxId false))

/-- The batch wrote nothing: re-authorize, then look whether the inbox is there now. -/
def explainCreateInbox (scopeIn selector : Value) (ctx : AuthContext)
    (options : CreateInboxOptions) (inboxId : Text) (owner : Option Text) (needsAdmin : Bool)
    (otherwise : Failure)
    : Async (Answer Time) := do
  let _ ← failedGuard scopeIn selector "create_inbox" needsAdmin
  match ← classifyInbox ctx options inboxId owner with
  | some raced => pure raced
  | none => .fail otherwise

def newInboxId (options : CreateInboxOptions) : Async Text :=
  match options.inboxId with
  | some inboxId => pure inboxId
  | none => mintId "ibx" 10

/-- `createInbox` once the caller is authorized and the id is settled. -/
def createNamedInbox (scopeIn selector : Value) (ctx : AuthContext)
    (options : CreateInboxOptions) (inboxId : Text)
    : Async (Answer Time) := do
  let needsAdmin := options.scope != .connection
  let owner := if options.scope = .connection then some ctx.conn.connectionId else none
  match ← classifyInbox ctx options inboxId owner with
  | some early => pure early
  | none => do
    let stamp ← now
    let row : InboxRow :=
      { homeId := ctx.homeId, inboxId, scope := options.scope, plane := options.plane
        ownerConnectionId := owner, label := toWellFormed options.label
        status := .active, createdAt := stamp }
    match ← command (.createInbox row options.grantToCreator (connGuard ctx needsAdmin)) with
    | .error error =>
      explainCreateInbox scopeIn selector ctx options inboxId owner needsAdmin (.sql error)
    | .ok changes =>
      if changes = 0 then
        explainCreateInbox scopeIn selector ctx options inboxId owner needsAdmin
          (.realm "concurrent_state_change")
      else do
        audit (some ctx.homeId) ctx.scope "create_inbox" "allow" (some "created")
        pure (.inboxCreated inboxId true)

def createInbox (scopeIn opts selector : Value) : Async (Answer Time) := do
  let ctx ← authorize scopeIn selector "create_inbox"
  let options ← .ofExcept (parseCreateInbox opts)
  require (options.scope ≠ .connection → ctx.conn.role = .admin)
    (denyCapability ctx.homeId ctx.scope "create_inbox" "admin_required")
  let inboxId ← newInboxId options
  createNamedInbox scopeIn selector ctx options inboxId

def listedInboxes (ctx : AuthContext) (db : Database) : List InboxListing :=
  let listing (i : InboxRow) : Option InboxListing :=
    let grant := liveGrantRow ctx.homeId i.inboxId ctx.conn.connectionId db
    if i.homeId = ctx.homeId ∧ i.status = .active
        ∧ (i.scope ≠ .connection ∨ i.ownerConnectionId = some ctx.conn.connectionId)
        ∧ (grant.isSome ∨ (ctx.conn.role = .admin ∧ i.scope ≠ .connection)) then
      some
        { inboxId := i.inboxId, scope := i.scope, plane := i.plane, label := i.label
          granted := grant.isSome }
    else
      none
  (db.inboxes.filterMap listing).insertionSort (fun a b => a.inboxId ≤ b.inboxId)

def listInboxes (scopeIn selector : Value) : Async (Answer Time) := do
  let ctx ← authorize scopeIn selector "list_inboxes"
  let rows ← select (listedInboxes ctx)
  audit (some ctx.homeId) ctx.scope "list_inboxes" "allow" none
  pure (.inboxes rows)

def grantInbox (scopeIn opts selector : Value) : Async (Answer Time) := do
  let ctx ← authorize scopeIn selector "grant"
  requireAdmin ctx "grant"
  match inboxId? (opts.get (text "inboxId")) with
  | none => denyCapability ctx.homeId ctx.scope "grant" "inbox_unavailable"
  | some inboxId => do
    match ← select (activeInboxRow ctx.homeId inboxId) with
    | none => denyCapability ctx.homeId ctx.scope "grant" "inbox_unavailable"
    | some inbox => do
      require (inbox.scope ≠ .connection)
        (denyCapability ctx.homeId ctx.scope "grant" "connection_private_sibling_denied")
      match connectionId? (opts.get (text "targetConnectionId")) with
      | none => denyCapability ctx.homeId ctx.scope "grant" "target_not_active_in_home"
      | some target => do
        require ((← select (activeConnectionRow ctx.homeId target)).isSome)
          (denyCapability ctx.homeId ctx.scope "grant" "target_not_active_in_home")
        let caps ← .ofExcept (parseCaps (opts.get (text "caps")))
        let stamp ← now
        let reply ← command
          (.upsertGrant
            { homeId := ctx.homeId, inboxId, connectionId := target
              canRead := caps.read, canSend := caps.send, canAck := caps.ack
              grantedAt := stamp, revokedAt := none }
            (connGuard ctx true))
        let changes ← orThrow reply
        if changes = 0 then do
          let fresh ← failedGuard scopeIn selector "grant" true
          denyCapability fresh.homeId fresh.scope "grant" "target_or_inbox_changed"
        else do
          audit (some ctx.homeId) ctx.scope "grant" "allow" (some "granted")
          pure .granted

def grantRow (homeId inboxId connectionId : Text) (db : Database) : Option GrantRow :=
  db.grants.find?
    (fun g => g.homeId == homeId && g.inboxId == inboxId && g.connectionId == connectionId)

/-- Why the `UPDATE` of `revokeGrant` matched nothing. -/
def explainRevokeGrant (scopeIn selector : Value) (inboxId target : Text)
    : Async (Answer Time) := do
  let fresh ← failedGuard scopeIn selector "revoke_grant" true
  let grant ← select (grantRow fresh.homeId inboxId target)
  require (∀ live ∈ grant, live.revokedAt.isSome) (fail "concurrent_state_change")
  audit (some fresh.homeId) fresh.scope "revoke_grant" "allow" (some "already_absent")
  pure (.grantRevoked false)

def revokeGrant (scopeIn opts selector : Value) : Async (Answer Time) := do
  let ctx ← authorize scopeIn selector "revoke_grant"
  requireAdmin ctx "revoke_grant"
  match inboxId? (opts.get (text "inboxId")) with
  | none => denyCapability ctx.homeId ctx.scope "revoke_grant" "inbox_unavailable"
  | some inboxId => do
    match ← select (inboxRow ctx.homeId inboxId) with
    | none => denyCapability ctx.homeId ctx.scope "revoke_grant" "inbox_unavailable"
    | some inbox => do
      require (inbox.scope ≠ .connection)
        (denyCapability ctx.homeId ctx.scope "revoke_grant"
          "connection_private_sibling_denied")
      match connectionId? (opts.get (text "targetConnectionId")) with
      | none => do
        audit (some ctx.homeId) ctx.scope "revoke_grant" "allow" (some "already_absent")
        pure (.grantRevoked false)
      | some target => do
        let stamp ← now
        let reply ← command (.revokeGrant stamp inboxId target (connGuard ctx true))
        let changes ← orThrow reply
        if changes = 0 then
          explainRevokeGrant scopeIn selector inboxId target
        else do
          audit (some ctx.homeId) ctx.scope "revoke_grant" "allow" (some "revoked")
          pure (.grantRevoked true)

def probedGrant (homeId inboxId connectionId : Text) (db : Database) : Option GrantRow :=
  db.grants.find?
    (fun g =>
      g.homeId == homeId && g.inboxId == inboxId && g.connectionId == connectionId
      && g.revokedAt == none
      && db.inboxes.any
        (fun i =>
          i.homeId == g.homeId && i.inboxId == g.inboxId && i.status == .active
          && (i.scope != .connection || i.ownerConnectionId == some connectionId)))

def canLabel (capabilityIn : Value) : String :=
  "can_" ++ ((Capability.ofValue? capabilityIn).map Capability.name).getD "invalid"

def can (scopeIn inboxIdIn capabilityIn selector : Value) : Async (Answer Time) :=
  let probe : Async (Answer Time) := do
    let ctx ← authorize scopeIn selector (canLabel capabilityIn)
    match Capability.ofValue? capabilityIn with
    | none => pure (.permitted false)
    | some capability =>
      match inboxId? inboxIdIn with
      | none => pure (.permitted false)
      | some inboxId => do
        match ← select (probedGrant ctx.homeId inboxId ctx.conn.connectionId) with
        | none => pure (.permitted false)
        | some grant => pure (.permitted (grant.can capability))
  probe.handle
    (fun error =>
      if error = .realm "scope_not_authorized" ∨ error = .realm "capability_denied" then
        pure (.permitted false)
      else
        .fail error)

-- Messages

/-- The validated request of a `send`. `sparse` records an empty recipient slot, which
`every` skips and `new Set` turns into `undefined`.
-/
structure SendRequest where
  (messageId thread body : Text)
  recipients : List Text
  sparse : Bool
  fromInboxId : Value

def stringSlots : List (Option Value) → Option (List Text)
  | [] => some []
  | none :: rest => stringSlots rest
  | some (.string s) :: rest => (stringSlots rest).map (s :: ·)
  | some _ :: _ => none

def parseMessageId : Value → Except Failure Text
  | .string s =>
    if ID_PATTERNS.message.test s then .ok s else realmError "invalid_message_id"
  | _ => realmError "invalid_message_id"

/-- `threadId || messageId`, after the pattern check. -/
def parseThreadId (messageId : Text) : Value → Except Failure Text
  | .undefined => .ok messageId
  | .string s =>
    if ID_PATTERNS.thread.test s then .ok s else realmError "invalid_thread_id"
  | _ => realmError "invalid_thread_id"

def parseBody : Value → Except Failure Text
  | .string s =>
    if s.length = 0 ∨ MAX_BODY_CHARS < s.length then realmError "invalid_body" else .ok s
  | _ => realmError "invalid_body"

def parseSend (opts : Value) : Except Failure SendRequest := do
  let messageId ← parseMessageId (opts.get (text "messageId"))
  let thread ← parseThreadId messageId (opts.get (text "threadId"))
  let body ← parseBody (opts.get (text "body"))
  match opts.get (text "toInboxIds") with
  | .array slots =>
    if slots.length = 0 ∨ MAX_TARGETS < slots.length then
      realmError "invalid_recipients"
    else
      match stringSlots slots with
      | none => realmError "invalid_recipients"
      | some recipients =>
        .ok {
          messageId, thread, body, recipients := recipientSet recipients
          sparse := slots.any Option.isNone
          fromInboxId := opts.get (text "fromInboxId")
        }
  | _ => realmError "invalid_recipients"

def requireTargets (ctx : AuthContext) : List Text → Async Unit
  | [] => pure ()
  | target :: rest => do
    let _ ← requireCapability ctx (.string target) .send "send"
    requireTargets ctx rest

/-- `checkAuthority`: the `send` capability on the sender inbox and on every target. -/
def checkAuthority (ctx : AuthContext) (request : SendRequest) : Async Text := do
  let fromInboxId ← requireCapability ctx request.fromInboxId .send "send"
  requireTargets ctx request.recipients
  if request.sparse then do
    let _ ← requireCapability ctx .undefined .send "send"
    pure fromInboxId
  else
    pure fromInboxId

def messageRow (homeId messageId : Text) (db : Database) : Option MessageRow :=
  db.messages.find? (fun m => m.homeId == homeId && m.messageId == messageId)

def deliveredTo (homeId messageId : Text) (db : Database) : List Text :=
  ((db.deliveries.filter (fun d => d.homeId == homeId && d.messageId == messageId)).map
    (·.inboxId)).insertionSort (· ≤ ·)

/-- Is the message there already, and does everything about it match the request? -/
def classifySend (ctx : AuthContext) (request : SendRequest) (fromInboxId bodySha256 : Text)
    : Async (Option (Answer Time)) := do
  match ← select (messageRow ctx.homeId request.messageId) with
  | none => pure none
  | some existing => do
    let have_ ← select (deliveredTo ctx.homeId request.messageId)
    require
      (existing.bodySha256 = bodySha256
        ∧ existing.senderConnectionId = ctx.conn.connectionId
        ∧ existing.threadId = request.thread ∧ existing.senderInboxId = fromInboxId
        ∧ have_ = request.recipients)
      (denyCapability ctx.homeId ctx.scope "send" "idempotency_conflict")
    audit (some ctx.homeId) ctx.scope "send" "allow" (some "idempotent")
    pure (some (.sent request.messageId false (some request.recipients.length)))

/-- `/^[0-9a-f]{64}$/` -/
def shaPattern : Pattern :=
  { start := [], unit := fun u => isDigit u || (0x61 ≤ u && u ≤ 0x66), least := 64, most := 64 }

/-- `private/{home_id}/{message_id}/{body_sha256}`, derived from validated parts only. -/
def privateBodyKey (homeId messageId bodySha256 : Text) : Except Failure Text :=
  if !ID_PATTERNS.home.test homeId then realmError "invalid_home_id"
  else if !ID_PATTERNS.message.test messageId then realmError "invalid_message_id"
  else if !shaPattern.test bodySha256 then realmError "invalid_body_hash"
  else
    .ok (text "private/" ++ homeId ++ text "/" ++ messageId ++ text "/" ++ bodySha256)

/-- The body goes to the bucket under its derived key. The digest of the bytes that are
stored was computed from the same body, so its check cannot fail here.
-/
def putPrivateBody (homeId messageId bodySha256 body : Text) : Async Text := do
  let key ← .ofExcept (privateBodyKey homeId messageId bodySha256)
  let stored : Bool ← command (.putBody key (toWellFormed body))
  require (stored = true) (.fail .bucket)
  pure key

def hasBucket : Async Bool :=
  observe (fun w => w.r2.isSome)

def explainSend (scopeIn selector : Value) (ctx : AuthContext) (request : SendRequest)
    (fromInboxId bodySha256 : Text)
    : Async (Answer Time) := do
  let fresh ← authorize scopeIn selector "send"
  let _ ← checkAuthority fresh request
  match ← classifySend ctx request fromInboxId bodySha256 with
  | some raced => pure raced
  | none => fail "concurrent_state_change"

def storeBody (config : StoreConfig) (ctx : AuthContext) (request : SendRequest)
    (bodySha256 : Text)
    : Async (Option Text × Option Text) :=
  if config.inlineBodyMax < request.body.length then do
    let key ← putPrivateBody ctx.homeId request.messageId bodySha256 request.body
    pure (none, some key)
  else
    pure (some (toWellFormed request.body), none)

/-- A `send` up to its batch: the early answer of a replay, or the message to insert. -/
def prepareSend (config : StoreConfig) (scopeIn selector : Value) (request : SendRequest)
    : Async (Answer Time ⊕ AuthContext × MessageRow) := do
  let ctx ← authorize scopeIn selector "send"
  let fromInboxId ← checkAuthority ctx request
  let bodySha256 := config.sha256Hex request.body
  require (config.inlineBodyMax < request.body.length → (← hasBucket) = true)
    (fail "private_r2_required")
  match ← classifySend ctx request fromInboxId bodySha256 with
  | some early => pure (.inl early)
  | none => do
    let (bodyText, bodyR2Key) ← storeBody config ctx request bodySha256
    let stamp ← now
    pure
      (.inr
        (ctx,
          { homeId := ctx.homeId, messageId := request.messageId
            threadId := request.thread, senderInboxId := fromInboxId
            senderConnectionId := ctx.conn.connectionId, bodySha256, bodyText, bodyR2Key
            createdAt := stamp }))

/-- The batch of a `send`, and what follows it. -/
def commitSend (scopeIn selector : Value) (ctx : AuthContext) (request : SendRequest)
    (message : MessageRow)
    : Async (Answer Time) := do
  match ← command (.deliver message request.recipients) with
  | .error _ =>
    explainSend scopeIn selector ctx request message.senderInboxId message.bodySha256
  | .ok () => do
    audit (some ctx.homeId) ctx.scope "send" "allow" (some "sent")
    pure (.sent request.messageId true (some request.recipients.length))

def send (config : StoreConfig) (scopeIn opts selector : Value) : Async (Answer Time) := do
  let request ← .ofExcept (parseSend opts)
  match ← prepareSend config scopeIn selector request with
  | .inl early => pure early
  | .inr (ctx, message) => commitSend scopeIn selector ctx request message

def inboxRows (homeId inboxId : Text) (limit : Nat) (db : Database)
    : List (DeliveryRow × MessageRow) :=
  let joined :=
    (db.deliveries.filter (fun d => d.homeId == homeId && d.inboxId == inboxId)).flatMap
      (fun d =>
        (db.messages.filter
          (fun m => m.homeId == d.homeId && m.messageId == d.messageId)).map (fun m => (d, m)))
  (joined.insertionSort
    (fun a b =>
      b.1.deliveredAt < a.1.deliveredAt
      ∨ (a.1.deliveredAt = b.1.deliveredAt ∧ b.1.messageId ≤ a.1.messageId))).take limit

def listInbox (scopeIn opts selector : Value) : Async (Answer Time) := do
  let inboxIdIn := opts.get (text "inboxId")
  let limit ← .ofExcept (clampLimit (opts.get (text "limit")))
  let ctx ← authorize scopeIn selector "list_inbox"
  let inboxId ← requireCapability ctx inboxIdIn .read "list_inbox"
  let rows ← select (inboxRows ctx.homeId inboxId limit)
  let finalCtx ← authorize scopeIn selector "list_inbox"
  let _ ← requireCapability finalCtx inboxIdIn .read "list_inbox"
  audit (some ctx.homeId) ctx.scope "list_inbox" "allow" none
  pure
    (.listed
      (rows.map
        (fun (d, m) =>
          { messageId := m.messageId, threadId := m.threadId
            senderInboxId := m.senderInboxId, bodySha256 := m.bodySha256
            deliveredAt := d.deliveredAt, readAt := d.readAt, ackedAt := d.ackedAt })))

/-- What `get` on the bucket gives: the object's text, unless it is missing or the bucket
rejects.
-/
def bucketText (key : Text) (w : World) : Option Text :=
  match w.r2 with
  | some bucket =>
    if bucket.failing then none
    else (bucket.objects.find? (·.1 == key)).map (·.2)
  | none => none

def getPrivateBody (config : StoreConfig) (homeId : Text) (message : MessageRow)
    : Async (BodyStatus × Option Text) := do
  let key ← .ofExcept (privateBodyKey homeId message.messageId message.bodySha256)
  if message.bodyR2Key ≠ some key then
    pure (.integrityFailed, none)
  else
    match ← observe (bucketText key) with
    | none => pure (.unavailable, none)
    | some body =>
      if config.sha256Hex body ≠ message.bodySha256 then
        pure (.integrityFailed, none)
      else
        pure (.ok, some body)

def resolveBody (config : StoreConfig) (homeId : Text) (message : MessageRow)
    : Async (BodyStatus × Option Text) :=
  match message.bodyText with
  | some body => pure (.ok, some body)
  | none => getPrivateBody config homeId message

def resolveRows (config : StoreConfig) (homeId : Text)
    : List (DeliveryRow × MessageRow) → Async (List (MessageReading Time))
  | [] => pure []
  | (d, m) :: rest => do
    let (bodyStatus, body) ← resolveBody config homeId m
    let later ← resolveRows config homeId rest
    pure
      ({ messageId := m.messageId, threadId := m.threadId, senderInboxId := m.senderInboxId
         body, bodyStatus, bodySha256 := m.bodySha256, createdAt := m.createdAt
         deliveredAt := d.deliveredAt, readAt := d.readAt } :: later)

def unreadWithBody (returned : List (MessageReading Time)) : List Text :=
  (returned.filter (fun r => r.readAt == none && r.bodyStatus == .ok)).map (·.messageId)

def standingStamps (homeId inboxId : Text) (messageIds : List Text) (db : Database)
    : List (Text × Option Time) :=
  (db.deliveries.filter
    (fun d =>
      d.homeId == homeId && d.inboxId == inboxId && messageIds.contains d.messageId)).map
    (fun d => (d.messageId, d.readAt))

/-- `if (byId.has(id) && byId.get(id)) row.read_at = byId.get(id)`, on every row. -/
def withStanding (standing : List (Text × Option Time)) (row : MessageReading Time)
    : MessageReading Time :=
  match (standing.find? (·.1 == row.messageId)).bind (·.2) with
  | some stamp => { row with readAt := some stamp }
  | none => row

def markRead (scopeIn inboxIdIn selector : Value) (ctx : AuthContext) (inboxId : Text)
    (returned : List (MessageReading Time))
    : Async (List (MessageReading Time)) :=
  let toMark := unreadWithBody returned
  if toMark = [] then
    pure returned
  else do
    let stamp ← now
    let reply ← command
      (.stampRead stamp toMark (connGuard ctx false) (grantGuard ctx inboxId .read))
    let changes ← orThrow reply
    if changes < toMark.length then do
      let fresh ← authorize scopeIn selector "read_inbox"
      let _ ← requireCapability fresh inboxIdIn .read "read_inbox"
      let standing ← select (standingStamps ctx.homeId inboxId toMark)
      pure (returned.map (withStanding standing))
    else
      pure
        (returned.map
          (fun r => if toMark.contains r.messageId then { r with readAt := some stamp } else r))

def readInbox (config : StoreConfig) (scopeIn opts selector : Value) : Async (Answer Time) := do
  let inboxIdIn := opts.get (text "inboxId")
  let limit ← .ofExcept (clampLimit (opts.get (text "limit")))
  let ctx ← authorize scopeIn selector "read_inbox"
  let inboxId ← requireCapability ctx inboxIdIn .read "read_inbox"
  let rows ← select (inboxRows ctx.homeId inboxId limit)
  let resolved ← resolveRows config ctx.homeId rows
  let returned ← markRead scopeIn inboxIdIn selector ctx inboxId resolved
  let finalCtx ← authorize scopeIn selector "read_inbox"
  let _ ← requireCapability finalCtx inboxIdIn .read "read_inbox"
  audit (some ctx.homeId) ctx.scope "read_inbox" "allow" none
  pure (.readings returned)

def deliveryRow (homeId messageId inboxId : Text) (db : Database) : Option DeliveryRow :=
  db.deliveries.find?
    (fun d => d.homeId == homeId && d.messageId == messageId && d.inboxId == inboxId)

/-- Why the `UPDATE` of `ack` matched nothing. -/
def explainAck (scopeIn inboxIdIn selector : Value) (inboxId messageId : Text)
    : Async (Answer Time) := do
  let fresh ← authorize scopeIn selector "ack"
  let _ ← requireCapability fresh inboxIdIn .ack "ack"
  match ← select (deliveryRow fresh.homeId messageId inboxId) with
  | none => denyCapability fresh.homeId fresh.scope "ack" "delivery_not_found"
  | some delivery =>
    if delivery.ackedAt.isSome then do
      audit (some fresh.homeId) fresh.scope "ack" "allow" (some "already_acked")
      pure (.acked messageId false)
    else
      fail "concurrent_state_change"

def ack (scopeIn opts selector : Value) : Async (Answer Time) := do
  let inboxIdIn := opts.get (text "inboxId")
  let ctx ← authorize scopeIn selector "ack"
  let inboxId ← requireCapability ctx inboxIdIn .ack "ack"
  match parseMessageId (opts.get (text "messageId")) with
  | .error _ => denyCapability ctx.homeId ctx.scope "ack" "delivery_not_found"
  | .ok messageId => do
    let stamp ← now
    let reply ← command
      (.stampAck stamp messageId (connGuard ctx false) (grantGuard ctx inboxId .ack))
    let changes ← orThrow reply
    if changes = 0 then
      explainAck scopeIn inboxIdIn selector inboxId messageId
    else do
      audit (some ctx.homeId) ctx.scope "ack" "allow" (some "acked")
      pure (.acked messageId true)

/-- The store method that a call names. -/
def body (config : StoreConfig) : Call → Async (Answer Time)
  | .ensureDefaultHome scope => ensureDefaultHome scope
  | .resolveHome scope selector => resolveHome scope selector
  | .setConnectionRole scope target role selector =>
    setConnectionRole scope target role selector
  | .revokeConnection scope target selector => revokeConnection scope target selector
  | .createInbox scope opts selector => createInbox scope opts selector
  | .listInboxes scope selector => listInboxes scope selector
  | .grantInbox scope opts selector => grantInbox scope opts selector
  | .revokeGrant scope opts selector => revokeGrant scope opts selector
  | .can scope inboxId capability selector => can scope inboxId capability selector
  | .send scope opts selector => send config scope opts selector
  | .listInbox scope opts selector => listInbox scope opts selector
  | .readInbox scope opts selector => readInbox config scope opts selector
  | .ack scope opts selector => ack scope opts selector

end CairnStone.PrivateRealm.D1Store
