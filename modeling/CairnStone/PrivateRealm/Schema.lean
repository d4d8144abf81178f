import CairnStone.PrivateRealm.Scope

/-! The private D1 schema: rows, constraints, foreign keys and triggers of the migration, and
one function per SQL statement of the store. A statement either fails and changes nothing or
returns the number of rows it changed with the new database.
-/

namespace CairnStone.PrivateRealm

open JavaScript Data

/-- A clock reading. ISO 8601 strings of one format compare like the instants they name. -/
abbrev Time := Nat

inductive HomeStatus where
  | active
  | suspended
  | exporting
  | retired
  deriving DecidableEq

inductive ConnectionStatus where
  | active
  | revoked
  deriving DecidableEq

inductive InboxStatus where
  | active
  | archived
  deriving DecidableEq

structure HomeRow where
  (homeId accountId tenantId : Text)
  isDefault : Bool
  status : HomeStatus
  createdAt : Time
  deriving DecidableEq

structure ConnectionRow where
  (homeId connectionId principalId providerLabel : Text)
  role : HomeRole
  status : ConnectionStatus
  createdAt : Time
  revokedAt : Option Time
  deriving DecidableEq

structure InboxRow where
  (homeId inboxId : Text)
  scope : InboxScope
  plane : InboxPlane
  ownerConnectionId : Option Text
  label : Text
  status : InboxStatus
  createdAt : Time
  deriving DecidableEq

structure GrantRow where
  (homeId inboxId connectionId : Text)
  (canRead canSend canAck : Bool)
  grantedAt : Time
  revokedAt : Option Time
  deriving DecidableEq

/-- `row[can_<capability>] === 1` -/
def GrantRow.can (row : GrantRow) : Capability → Bool
  | .read => row.canRead
  | .send => row.canSend
  | .ack => row.canAck

structure MessageRow where
  (homeId messageId threadId senderInboxId senderConnectionId bodySha256 : Text)
  (bodyText bodyR2Key : Option Text)
  createdAt : Time
  deriving DecidableEq

structure DeliveryRow where
  (homeId messageId inboxId : Text)
  deliveredAt : Time
  (readAt ackedAt : Option Time)
  deriving DecidableEq

structure AuditRow where
  (homeId connectionId principalId : Option Text)
  (action outcome : String)
  reason : Option String
  createdAt : Time
  deriving DecidableEq

structure Database where
  homes : List HomeRow
  connections : List ConnectionRow
  inboxes : List InboxRow
  grants : List GrantRow
  messages : List MessageRow
  deliveries : List DeliveryRow
  audit : List AuditRow
  deriving DecidableEq

namespace Database

def empty : Database := ⟨[], [], [], [], [], [], []⟩

end Database

def InboxRow.key (row : InboxRow) : Text × Text :=
  (row.homeId, row.inboxId)

def GrantRow.key (row : GrantRow) : Text × Text × Text :=
  (row.homeId, row.inboxId, row.connectionId)

def MessageRow.key (row : MessageRow) : Text × Text :=
  (row.homeId, row.messageId)

def DeliveryRow.key (row : DeliveryRow) : Text × Text × Text :=
  (row.homeId, row.messageId, row.inboxId)

def asciiLower (u : CodeUnit) : CodeUnit :=
  if isUpper u then u + 0x20 else u

/-- `column LIKE '<start>%'`: a prefix test that ignores ASCII case. -/
def likePrefix (start s : Text) : Bool :=
  (start.map asciiLower).isPrefixOf (s.map asciiLower)

/-- SQLite's `length(text)`: a surrogate pair is one character. -/
def sqlLength : Text → Nat
  | [] => 0
  | [_] => 1
  | first :: second :: rest =>
    if isHighSurrogate first && isLowSurrogate second then
      1 + sqlLength rest
    else
      1 + sqlLength (second :: rest)

def lengthBetween (s : Text) (least most : Nat) : Bool :=
  least ≤ sqlLength s && sqlLength s ≤ most

def HomeRow.check (row : HomeRow) : Bool :=
  likePrefix (text "home_") row.homeId && lengthBetween row.homeId 12 80
  && likePrefix (text "acct_") row.accountId && likePrefix (text "ten_") row.tenantId

def ConnectionRow.check (row : ConnectionRow) : Bool :=
  likePrefix (text "conn_") row.connectionId && likePrefix (text "prin_") row.principalId

def InboxRow.check (row : InboxRow) : Bool :=
  likePrefix (text "ibx_") row.inboxId && lengthBetween row.inboxId 8 80
  && (row.scope == .connection) == row.ownerConnectionId.isSome

def MessageRow.check (row : MessageRow) : Bool :=
  lengthBetween row.messageId 8 120 && sqlLength row.bodySha256 == 64
  && (row.bodyText.isSome || row.bodyR2Key.isSome)

/-- The args of `connGuard(ctx, { admin })`. -/
structure ConnGuard where
  homeId : Text
  scope : HomeScope
  admin : Bool
  deriving DecidableEq

/-- The args of `grantGuard(ctx, inboxId, capability)`. -/
structure GrantGuard where
  (homeId inboxId connectionId : Text)
  capability : Capability
  deriving DecidableEq

namespace Database

def ConnGuarded (db : Database) (guard : ConnGuard) : Prop :=
  ∃ gc ∈ db.connections, ∃ gh ∈ db.homes,
    gh.homeId = gc.homeId
    ∧ gc.homeId = guard.homeId
    ∧ gc.connectionId = guard.scope.connectionId
    ∧ gc.principalId = guard.scope.principalId
    ∧ gc.status = .active
    ∧ gh.status = .active
    ∧ gh.accountId = guard.scope.accountId
    ∧ gh.tenantId = guard.scope.tenantId
    ∧ (guard.admin = true → gc.role = .admin)

def GrantGuarded (db : Database) (guard : GrantGuard) : Prop :=
  ∃ gg ∈ db.grants, ∃ gi ∈ db.inboxes,
    gi.homeId = gg.homeId
    ∧ gi.inboxId = gg.inboxId
    ∧ gg.homeId = guard.homeId
    ∧ gg.inboxId = guard.inboxId
    ∧ gg.connectionId = guard.connectionId
    ∧ gg.revokedAt = none
    ∧ gg.can guard.capability = true
    ∧ gi.status = .active
    ∧ (gi.scope ≠ .connection ∨ gi.ownerConnectionId = some gg.connectionId)

instance (db : Database) (guard : ConnGuard) : Decidable (db.ConnGuarded guard) :=
  inferInstanceAs (Decidable (∃ gc ∈ db.connections, ∃ gh ∈ db.homes, _))

instance (db : Database) (guard : GrantGuard) : Decidable (db.GrantGuarded guard) :=
  inferInstanceAs (Decidable (∃ gg ∈ db.grants, ∃ gi ∈ db.inboxes, _))

def ActiveMember (db : Database) (homeId connectionId : Text) : Prop :=
  ∃ c ∈ db.connections, ∃ h ∈ db.homes,
    h.homeId = c.homeId ∧ c.homeId = homeId ∧ c.connectionId = connectionId
    ∧ c.status = .active ∧ h.status = .active

instance (db : Database) (homeId connectionId : Text)
    : Decidable (db.ActiveMember homeId connectionId) :=
  inferInstanceAs (Decidable (∃ c ∈ db.connections, ∃ h ∈ db.homes, _))

/-- The condition of trigger `priv_messages_sender_authorized`, negated. -/
def SenderAuthorized (db : Database) (row : MessageRow) : Prop :=
  db.ActiveMember row.homeId row.senderConnectionId
  ∧ db.GrantGuarded ⟨row.homeId, row.senderInboxId, row.senderConnectionId, .send⟩

/-- The condition of trigger `priv_deliveries_target_authorized`, negated. -/
def TargetAuthorized (db : Database) (homeId messageId inboxId : Text) : Prop :=
  ∃ m ∈ db.messages,
    m.homeId = homeId ∧ m.messageId = messageId
    ∧ db.ActiveMember homeId m.senderConnectionId
    ∧ db.GrantGuarded ⟨homeId, inboxId, m.senderConnectionId, .send⟩

instance (db : Database) (row : MessageRow) : Decidable (db.SenderAuthorized row) :=
  inferInstanceAs (Decidable (_ ∧ _))

instance (db : Database) (homeId messageId inboxId : Text)
    : Decidable (db.TargetAuthorized homeId messageId inboxId) :=
  inferInstanceAs (Decidable (∃ m ∈ db.messages, _))

/-- `SELECT COUNT(*) … WHERE home_id = ? AND status = 'active' AND role = 'admin'` -/
def activeAdmins (db : Database) (homeId : Text) : List ConnectionRow :=
  db.connections.filter (fun c => c.homeId == homeId && c.status == .active && c.role == .admin)

end Database

namespace Database

/-- A failed statement or batch leaves no trace, so only its error is returned. -/
abbrev Outcome (α : Type) := Except SqlError α

def insertHome (db : Database) (row : HomeRow) : Outcome Database :=
  if !row.check then
    .error .check
  else if ∃ old ∈ db.homes,
      old.homeId = row.homeId
      ∨ (old.isDefault = true ∧ row.isDefault = true ∧ old.accountId = row.accountId) then
    .error .unique
  else
    .ok { db with homes := db.homes ++ [row] }

def insertConnection (db : Database) (row : ConnectionRow) : Outcome Database :=
  if !row.check then
    .error .check
  else if ∃ old ∈ db.connections,
      old.connectionId = row.connectionId
      ∨ (old.homeId = row.homeId ∧ old.principalId = row.principalId) then
    .error .unique
  else if ¬ ∃ home ∈ db.homes, home.homeId = row.homeId then
    .error .foreignKey
  else
    .ok { db with connections := db.connections ++ [row] }

def insertInboxRow (db : Database) (row : InboxRow) : Outcome Database :=
  if !row.check then
    .error .check
  else if ∃ old ∈ db.inboxes, old.key = row.key then
    .error .unique
  else if ¬ ((∃ home ∈ db.homes, home.homeId = row.homeId)
      ∧ ∀ owner ∈ row.ownerConnectionId, ∃ c ∈ db.connections,
          c.homeId = row.homeId ∧ c.connectionId = owner) then
    .error .foreignKey
  else
    .ok { db with inboxes := db.inboxes ++ [row] }

/-- Both foreign keys of `priv_inbox_grants`. -/
def GrantReferences (db : Database) (row : GrantRow) : Prop :=
  (∃ inbox ∈ db.inboxes, inbox.homeId = row.homeId ∧ inbox.inboxId = row.inboxId)
  ∧ ∃ c ∈ db.connections, c.homeId = row.homeId ∧ c.connectionId = row.connectionId

instance (db : Database) (row : GrantRow) : Decidable (db.GrantReferences row) :=
  inferInstanceAs (Decidable (_ ∧ _))

def insertGrantRow (db : Database) (row : GrantRow) : Outcome Database :=
  if ∃ old ∈ db.grants, old.key = row.key then
    .error .unique
  else if ¬ db.GrantReferences row then
    .error .foreignKey
  else
    .ok { db with grants := db.grants ++ [row] }

/-- `INSERT INTO priv_messages`, behind its `BEFORE INSERT` trigger. -/
def insertMessage (db : Database) (row : MessageRow) : Outcome Database :=
  if ¬ db.SenderAuthorized row then
    .error (.abort "sender_not_authorized")
  else if !row.check then
    .error .check
  else if ∃ old ∈ db.messages, old.key = row.key then
    .error .unique
  else if ¬ ((∃ inbox ∈ db.inboxes,
        inbox.homeId = row.homeId ∧ inbox.inboxId = row.senderInboxId)
      ∧ ∃ c ∈ db.connections,
          c.homeId = row.homeId ∧ c.connectionId = row.senderConnectionId) then
    .error .foreignKey
  else
    .ok { db with messages := db.messages ++ [row] }

/-- `INSERT INTO priv_deliveries`, behind its `BEFORE INSERT` trigger. -/
def insertDelivery (db : Database) (row : DeliveryRow) : Outcome Database :=
  if ¬ db.TargetAuthorized row.homeId row.messageId row.inboxId then
    .error (.abort "delivery_not_authorized")
  else if ∃ old ∈ db.deliveries, old.key = row.key then
    .error .unique
  else if ¬ ((∃ m ∈ db.messages, m.homeId = row.homeId ∧ m.messageId = row.messageId)
      ∧ ∃ inbox ∈ db.inboxes,
          inbox.homeId = row.homeId ∧ inbox.inboxId = row.inboxId) then
    .error .foreignKey
  else
    .ok { db with deliveries := db.deliveries ++ [row] }

/-- The condition of trigger `priv_deliveries_frozen_identity`, negated. -/
def deliveryIdentityKept (old new : DeliveryRow) : Bool :=
  new.key == old.key && new.deliveredAt == old.deliveredAt

/-- The condition of trigger `priv_deliveries_no_unread`, negated. -/
def deliveryMovesForward (old new : DeliveryRow) : Bool :=
  (old.readAt == none || new.readAt == old.readAt)
  && (old.ackedAt == none || new.ackedAt == old.ackedAt)

/-- An update of delivery rows, behind the `BEFORE UPDATE` triggers. -/
def updateDeliveries (db : Database) (p : DeliveryRow → Bool) (f : DeliveryRow → DeliveryRow)
    : Outcome (Nat × Database) :=
  if ∃ old ∈ db.deliveries, p old = true ∧ deliveryIdentityKept old (f old) = false then
    .error (.abort "priv_deliveries identity is immutable")
  else if ∃ old ∈ db.deliveries, p old = true ∧ deliveryMovesForward old (f old) = false then
    .error (.abort "delivery state cannot move backwards")
  else
    .ok (db.deliveries.countP p, { db with deliveries := updateWhere p f db.deliveries })

def insertAudit (db : Database) (row : AuditRow) : Database :=
  { db with audit := db.audit ++ [row] }

end Database

end CairnStone.PrivateRealm
