import CairnStone.Concurrency.Program
import CairnStone.PrivateRealm.Schema

/-! What one private storage Worker shares between its calls: the database, the clock, the
source of minted ids and the body bucket. Each command is one prepared statement or one
`db.batch`, hence one atomic step.
-/

namespace CairnStone.PrivateRealm

open JavaScript Data Concurrency

/-- The private R2 bucket. While it is failing, `put` and `get` reject. -/
structure Bucket where
  objects : List (Text × Text)
  failing : Bool
  deriving DecidableEq

/-- The shared state. `mints` is what `mintId` returns, in call order. -/
structure World where
  db : Database
  clock : Time
  mints : Nat → Text
  r2 : Option Bucket

/-- The commands of the store, one per call site of `run`, `first … RETURNING` and `batch`.
-/
inductive Command where
  | now
  | mintId (kind : String) (bytes : Nat)
  | putBody (key body : Text)
  | audit (row : AuditRow)
  | createHome (homeId : Text) (scope : HomeScope) (stamp : Time)
  | attachConnection (homeId : Text) (scope : HomeScope) (stamp : Time)
  | setRole (role : HomeRole) (target : Text) (actor : ConnGuard)
  | revokeConnection (stamp : Time) (target : Text) (actor : ConnGuard)
  | createInbox (row : InboxRow) (grantToCreator : Bool) (actor : ConnGuard)
  | upsertGrant (row : GrantRow) (actor : ConnGuard)
  | revokeGrant (stamp : Time) (inboxId target : Text) (actor : ConnGuard)
  | deliver (message : MessageRow) (targets : List Text)
  | stampRead (stamp : Time) (messageIds : List Text) (actor : ConnGuard) (grant : GrantGuard)
  | stampAck (stamp : Time) (messageId : Text) (actor : ConnGuard) (grant : GrantGuard)

/-- What a command answers: a value, the number of changed rows, or a refusal. -/
def Command.Reply : Command → Type
  | .now => Time
  | .mintId _ _ => Text
  | .putBody _ _ => Bool
  | .audit _ => Unit
  | .attachConnection _ _ _ => Except SqlError (Option HomeRole)
  | .createHome _ _ _ => Except SqlError Unit
  | .deliver _ _ => Except SqlError Unit
  | _ => Except SqlError Nat

/-- Moves of the outside world: time passes, the bucket fails or recovers, and an operator
archives an inbox or changes the status of a Home.
-/
inductive Disturbance where
  | tick (by_ : Nat)
  | bucket (failing : Bool)
  | setInboxStatus (homeId inboxId : Text) (status : InboxStatus)
  | setHomeStatus (homeId : Text) (status : HomeStatus)

namespace Database

def newHome (homeId : Text) (scope : HomeScope) (stamp : Time) : HomeRow where
  homeId := homeId
  accountId := scope.accountId
  tenantId := scope.tenantId
  isDefault := true
  status := .active
  createdAt := stamp

def newConnection (homeId : Text) (scope : HomeScope) (role : HomeRole) (stamp : Time)
    : ConnectionRow where
  homeId := homeId
  connectionId := scope.connectionId
  principalId := scope.principalId
  providerLabel := scope.providerLabel
  role := role
  status := .active
  createdAt := stamp
  revokedAt := none

/-- The batch of a first `ensureDefaultHome`: the default Home and its first admin. -/
def createHome (db : Database) (homeId : Text) (scope : HomeScope) (stamp : Time)
    : Outcome Database := do
  let db ← db.insertHome (newHome homeId scope stamp)
  db.insertConnection (newConnection homeId scope .admin stamp)

/-- The role computed inside the attaching `INSERT`: a requested admin is honoured only
while the Home has no active admin.
-/
def attachRole (db : Database) (homeId : Text) (requested : HomeRole) : HomeRole :=
  if requested = .admin ∧ (db.activeAdmins homeId).length = 0 then .admin else .member

/-- `INSERT INTO priv_home_connections … SELECT … FROM priv_homes … RETURNING role`. -/
def attachConnection (db : Database) (homeId : Text) (scope : HomeScope) (stamp : Time)
    : Outcome (Option HomeRole × Database) :=
  if ∃ h ∈ db.homes, h.homeId = homeId ∧ h.accountId = scope.accountId
      ∧ h.tenantId = scope.tenantId ∧ h.status = .active then do
    let role := db.attachRole homeId scope.homeRole
    let db ← db.insertConnection (newConnection homeId scope role stamp)
    .ok (some role, db)
  else
    .ok (none, db)

/-- The rows that the `UPDATE` of `setConnectionRole` rewrites. -/
def roleMatches (db : Database) (role : HomeRole) (target : Text) (actor : ConnGuard)
    (row : ConnectionRow)
    : Bool :=
  row.homeId == actor.homeId && row.connectionId == target && row.status == .active
  && decide (db.ConnGuarded actor)
  && (role != .member || row.role != .admin || 1 < (db.activeAdmins actor.homeId).length)

def setRole (db : Database) (role : HomeRole) (target : Text) (actor : ConnGuard)
    : Nat × Database :=
  (db.connections.countP (db.roleMatches role target actor),
    { db with
      connections :=
        updateWhere (db.roleMatches role target actor) ({ · with role }) db.connections })

/-- The rows that the first `UPDATE` of `revokeConnection` rewrites. -/
def revokeMatches (db : Database) (target : Text) (actor : ConnGuard) (row : ConnectionRow)
    : Bool :=
  row.homeId == actor.homeId && row.connectionId == target && row.status == .active
  && decide (db.ConnGuarded actor)
  && (row.role != .admin || 1 < (db.activeAdmins actor.homeId).length)

/-- The rows that the second `UPDATE` of `revokeConnection` rewrites: live grants of a target
that the batch, or an earlier one with an equal stamp, has revoked.
-/
def revokeGrantsMatches (db : Database) (stamp : Time) (homeId target : Text)
    (row : GrantRow)
    : Bool :=
  row.homeId == homeId && row.connectionId == target && row.revokedAt == none
  && decide
    (∃ rc ∈ db.connections, rc.homeId = homeId ∧ rc.connectionId = target
      ∧ rc.status = .revoked ∧ rc.revokedAt = some stamp)

def revokeGrantsOf (db : Database) (stamp : Time) (homeId target : Text) : Database :=
  { db with
    grants :=
      updateWhere (db.revokeGrantsMatches stamp homeId target)
        ({ · with revokedAt := some stamp }) db.grants }

def revokeConnection (db : Database) (stamp : Time) (target : Text) (actor : ConnGuard)
    : Nat × Database :=
  let marked :=
    { db with
      connections :=
        updateWhere (db.revokeMatches target actor)
          ({ · with status := .revoked, revokedAt := some stamp }) db.connections }
  (db.connections.countP (db.revokeMatches target actor),
    marked.revokeGrantsOf stamp actor.homeId target)

/-- The full grant that `createInbox` writes for an owner or for the creating admin. -/
def fullGrant (row : InboxRow) (connectionId : Text) : GrantRow where
  homeId := row.homeId
  inboxId := row.inboxId
  connectionId := connectionId
  canRead := true
  canSend := true
  canAck := true
  grantedAt := row.createdAt
  revokedAt := none

/-- `INSERT INTO priv_inboxes … SELECT … WHERE <guard>`. -/
def insertGuardedInbox (db : Database) (row : InboxRow) (actor : ConnGuard)
    : Outcome (Nat × Database) :=
  if db.ConnGuarded actor then
    (db.insertInboxRow row).map (1, ·)
  else
    .ok (0, db)

def grantOwner (db : Database) (row : InboxRow) (actor : ConnGuard) : Outcome Database :=
  match row.ownerConnectionId with
  | none => .ok db
  | some owner =>
    if db.ConnGuarded actor
        ∧ ∃ oi ∈ db.inboxes, oi.homeId = row.homeId ∧ oi.inboxId = row.inboxId
          ∧ oi.ownerConnectionId = some owner then
      db.insertGrantRow (fullGrant row owner)
    else
      .ok db

def grantCreator (db : Database) (row : InboxRow) (grantToCreator : Bool) (actor : ConnGuard)
    : Outcome Database :=
  if grantToCreator = true ∧ db.ConnGuarded actor
      ∧ ∃ ci ∈ db.inboxes, ci.homeId = row.homeId ∧ ci.inboxId = row.inboxId
        ∧ ci.scope ≠ .connection ∧ ci.status = .active then
    db.insertGrantRow (fullGrant row actor.scope.connectionId)
  else
    .ok db

/-- The batch of `createInbox`. Each statement re-evaluates the guard. -/
def createInbox (db : Database) (row : InboxRow) (grantToCreator : Bool) (actor : ConnGuard)
    : Outcome (Nat × Database) := do
  let inboxed ← db.insertGuardedInbox row actor
  let owned ← inboxed.2.grantOwner row actor
  let granted ← owned.grantCreator row grantToCreator actor
  .ok (inboxed.1, granted)

/-- `INSERT … SELECT … ON CONFLICT DO UPDATE` of `grantInbox`. -/
def upsertGrant (db : Database) (row : GrantRow) (actor : ConnGuard)
    : Outcome (Nat × Database) :=
  if db.ConnGuarded actor
      ∧ (∃ xi ∈ db.inboxes, xi.homeId = row.homeId ∧ xi.inboxId = row.inboxId
        ∧ xi.status = .active ∧ xi.scope ≠ .connection)
      ∧ ∃ xc ∈ db.connections, xc.homeId = row.homeId ∧ xc.connectionId = row.connectionId
        ∧ xc.status = .active then
    if ∃ old ∈ db.grants, old.key = row.key then
      .ok (1,
        { db with
          grants := updateWhere (fun old => old.key == row.key) (fun _ => row) db.grants })
    else do
      let db ← db.insertGrantRow row
      .ok (1, db)
  else
    .ok (0, db)

/-- The rows that the `UPDATE` of `revokeGrant` rewrites. -/
def revokeGrantMatches (db : Database) (inboxId target : Text) (actor : ConnGuard)
    (row : GrantRow)
    : Bool :=
  row.homeId == actor.homeId && row.inboxId == inboxId && row.connectionId == target
  && row.revokedAt == none && decide (db.ConnGuarded actor)

def revokeGrant (db : Database) (stamp : Time) (inboxId target : Text) (actor : ConnGuard)
    : Nat × Database :=
  (db.grants.countP (db.revokeGrantMatches inboxId target actor),
    { db with
      grants :=
        updateWhere (db.revokeGrantMatches inboxId target actor)
          ({ · with revokedAt := some stamp }) db.grants })

def newDelivery (message : MessageRow) (inboxId : Text) : DeliveryRow where
  homeId := message.homeId
  messageId := message.messageId
  inboxId := inboxId
  deliveredAt := message.createdAt
  readAt := none
  ackedAt := none

/-- The batch of `send`: the message, then one delivery per target. -/
def deliver (db : Database) (message : MessageRow) (targets : List Text)
    : Outcome Database := do
  let db ← db.insertMessage message
  targets.foldlM (fun db inboxId => db.insertDelivery (newDelivery message inboxId)) db

/-- The rows that the `UPDATE` of `readInbox` rewrites. -/
def readMatches (db : Database) (messageIds : List Text) (actor : ConnGuard)
    (grant : GrantGuard) (row : DeliveryRow)
    : Bool :=
  row.homeId == grant.homeId && row.inboxId == grant.inboxId
  && messageIds.contains row.messageId && row.readAt == none
  && decide (db.ConnGuarded actor) && decide (db.GrantGuarded grant)

def stampRead (db : Database) (stamp : Time) (messageIds : List Text) (actor : ConnGuard)
    (grant : GrantGuard)
    : Outcome (Nat × Database) :=
  db.updateDeliveries (db.readMatches messageIds actor grant) ({ · with readAt := some stamp })

/-- The rows that the `UPDATE` of `ack` rewrites. -/
def ackMatches (db : Database) (messageId : Text) (actor : ConnGuard) (grant : GrantGuard)
    (row : DeliveryRow)
    : Bool :=
  row.homeId == grant.homeId && row.messageId == messageId && row.inboxId == grant.inboxId
  && row.ackedAt == none
  && decide (db.ConnGuarded actor) && decide (db.GrantGuarded grant)

/-- `read_at = COALESCE(read_at, ?), acked_at = max(COALESCE(read_at, ?), ?)` -/
def stampAck (db : Database) (stamp : Time) (messageId : Text) (actor : ConnGuard)
    (grant : GrantGuard)
    : Outcome (Nat × Database) :=
  db.updateDeliveries (db.ackMatches messageId actor grant)
    (fun row =>
      { row with
        readAt := some (row.readAt.getD stamp)
        ackedAt := some (max (row.readAt.getD stamp) stamp) })

end Database

namespace World

/-- A statement that failed leaves the database as it was. -/
def commit {α : Type} (w : World) (outcome : Except SqlError (α × Database))
    : Except SqlError α × World :=
  match outcome with
  | .ok (value, db) => (.ok value, { w with db })
  | .error error => (.error error, w)

def putBody (w : World) (key body : Text) : Bool × World :=
  match w.r2 with
  | some bucket =>
    if bucket.failing then
      (false, w)
    else
      (true,
        { w with
          r2 := some { bucket with objects := (key, body) :: bucket.objects } })
  | none => (false, w)

def exec : (command : Command) → World → command.Reply × World
  | .now, w => (w.clock, w)
  | .mintId _ _, w => (w.mints 0, { w with mints := fun n => w.mints (n + 1) })
  | .putBody key body, w => w.putBody key body
  | .audit row, w => ((), { w with db := w.db.insertAudit row })
  | .createHome homeId scope stamp, w =>
    w.commit ((w.db.createHome homeId scope stamp).map ((), ·))
  | .attachConnection homeId scope stamp, w =>
    w.commit (w.db.attachConnection homeId scope stamp)
  | .setRole role target actor, w => w.commit (.ok (w.db.setRole role target actor))
  | .revokeConnection stamp target actor, w =>
    w.commit (.ok (w.db.revokeConnection stamp target actor))
  | .createInbox row grantToCreator actor, w =>
    w.commit (w.db.createInbox row grantToCreator actor)
  | .upsertGrant row actor, w => w.commit (w.db.upsertGrant row actor)
  | .revokeGrant stamp inboxId target actor, w =>
    w.commit (.ok (w.db.revokeGrant stamp inboxId target actor))
  | .deliver message targets, w => w.commit ((w.db.deliver message targets).map ((), ·))
  | .stampRead stamp messageIds actor grant, w =>
    w.commit (w.db.stampRead stamp messageIds actor grant)
  | .stampAck stamp messageId actor grant, w =>
    w.commit (w.db.stampAck stamp messageId actor grant)

def disturb : Disturbance → World → World
  | .tick by_, w => { w with clock := w.clock + by_ }
  | .bucket failing, w => { w with r2 := w.r2.map ({ · with failing }) }
  | .setInboxStatus homeId inboxId status, w =>
    { w with
      db :=
        { w.db with
          inboxes :=
            updateWhere (fun row => row.homeId == homeId && row.inboxId == inboxId)
              ({ · with status }) w.db.inboxes } }
  | .setHomeStatus homeId status, w =>
    { w with
      db :=
        { w.db with
          homes :=
            updateWhere (fun row => row.homeId == homeId) ({ · with status })
              w.db.homes } }

end World

/-- The private storage Worker as a machine. -/
def machine : Machine where
  State := World
  Command := Command
  Reply := Command.Reply
  exec := World.exec
  Event := Disturbance
  disturb := World.disturb

end CairnStone.PrivateRealm
