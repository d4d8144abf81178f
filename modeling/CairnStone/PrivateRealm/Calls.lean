import CairnStone.PrivateRealm.Schema
import Mathlib.Data.List.Dedup
import Mathlib.Data.List.Sort

/-! The calls that a Home store answers, the answers it gives, and the argument checks that
both store implementations share.
-/

namespace CairnStone.PrivateRealm

open JavaScript

def MAX_BODY_CHARS : Nat := 65536
def MAX_LABEL_CHARS : Nat := 120
def MAX_TARGETS : Nat := 20
def MAX_LIST : Nat := 200
def MAX_PASSES : Nat := 5

/-- One call of a store method with the args its caller passed. -/
inductive Call where
  | ensureDefaultHome (scope : Value)
  | resolveHome (scope selector : Value)
  | setConnectionRole (scope target role selector : Value)
  | revokeConnection (scope target selector : Value)
  | createInbox (scope opts selector : Value)
  | listInboxes (scope selector : Value)
  | grantInbox (scope opts selector : Value)
  | revokeGrant (scope opts selector : Value)
  | can (scope inboxId capability selector : Value)
  | send (scope opts selector : Value)
  | listInbox (scope opts selector : Value)
  | readInbox (scope opts selector : Value)
  | ack (scope opts selector : Value)

/-- The scope argument of a call. -/
def Call.scope : Call → Value
  | .ensureDefaultHome scope => scope
  | .resolveHome scope _ => scope
  | .setConnectionRole scope _ _ _ => scope
  | .revokeConnection scope _ _ => scope
  | .createInbox scope _ _ => scope
  | .listInboxes scope _ => scope
  | .grantInbox scope _ _ => scope
  | .revokeGrant scope _ _ => scope
  | .can scope _ _ _ => scope
  | .send scope _ _ => scope
  | .listInbox scope _ _ => scope
  | .readInbox scope _ _ => scope
  | .ack scope _ _ => scope

inductive BodyStatus where
  | ok
  | unavailable
  | integrityFailed
  deriving DecidableEq

structure InboxListing where
  inboxId : Text
  scope : InboxScope
  plane : InboxPlane
  label : Text
  granted : Bool
  deriving DecidableEq

/-- A row of `listInbox`; `τ` is the type of time stamps. -/
structure MessageListing (τ : Type) where
  (messageId threadId senderInboxId bodySha256 : Text)
  deliveredAt : τ
  (readAt ackedAt : Option τ)
  deriving DecidableEq

/-- A row of `readInbox`; `τ` is the type of time stamps. -/
structure MessageReading (τ : Type) where
  (messageId threadId senderInboxId : Text)
  body : Option Text
  bodyStatus : BodyStatus
  bodySha256 : Text
  (createdAt deliveredAt : τ)
  readAt : Option τ
  deriving DecidableEq

/-- The answer of a store method; `τ` is the type of time stamps. -/
inductive Answer (τ : Type) where
  | ensured (homeId : Text) (created connectionAttached : Bool) (role : HomeRole)
  | resolved (homeId : Text) (role : HomeRole)
  | roleSet (connectionId : Text) (role : HomeRole)
  | connectionRevoked (connectionId : Text) (changed : Bool)
  | inboxCreated (inboxId : Text) (created : Bool)
  | inboxes (rows : List InboxListing)
  | granted
  | grantRevoked (changed : Bool)
  | permitted (allowed : Bool)
  | sent (messageId : Text) (created : Bool) (deliveredTo : Option Nat)
  | listed (rows : List (MessageListing τ))
  | readings (rows : List (MessageReading τ))
  | acked (messageId : Text) (changed : Bool)
  deriving DecidableEq

def realmError {α : Type} (code : String) : Except Failure α :=
  .error (.realm code)

/-- The validated options of `createInbox`. `inboxId` is absent when the caller passed none.
-/
structure CreateInboxOptions where
  scope : InboxScope
  plane : InboxPlane
  label : Text
  inboxId : Option Text
  grantToCreator : Bool
  notForConnection : ¬ (grantToCreator = true ∧ scope = .connection)

def optionalInboxId : Value → Except Failure (Option Text)
  | .undefined => .ok none
  | value =>
    match inboxId? value with
    | some inboxId => .ok (some inboxId)
    | none => realmError "invalid_inbox_id"

def parseCreateInbox (opts : Value) : Except Failure CreateInboxOptions :=
  match InboxScope.ofValue? (opts.get (text "scope")) with
  | none => realmError "invalid_inbox_scope"
  | some scope =>
    match (opts.get (text "grantToCreator")).orDefault (.bool false) with
    | .bool grantToCreator =>
      if invalid : grantToCreator = true ∧ scope = .connection then
        realmError "invalid_options"
      else
        match InboxPlane.ofValue?
            ((opts.get (text "plane")).orDefault (.string (text "chat"))) with
        | none => realmError "invalid_plane"
        | some plane =>
          match (opts.get (text "label")).orDefault (.string []) with
          | .string label =>
            if MAX_LABEL_CHARS < label.length then
              realmError "invalid_label"
            else do
              let inboxId ← optionalInboxId (opts.get (text "inboxId"))
              .ok {
                scope, plane, label, inboxId, grantToCreator
                notForConnection := invalid
              }
          | _ => realmError "invalid_label"
    | _ => realmError "invalid_options"

structure Capabilities where
  (read send ack : Bool)
  some_ : read || send || ack

/-- One `for … of Object.keys(caps)` pass: the flags after the entry, or an unknown key. -/
def applyCap (flags : Bool × Bool × Bool) (entry : Text × Value)
    : Except Failure (Bool × Bool × Bool) :=
  let on := entry.2.isTrue || entry.2.isOne
  match Capability.ofText? entry.1 with
  | some .read => .ok (on, flags.2.1, flags.2.2)
  | some .send => .ok (flags.1, on, flags.2.2)
  | some .ack => .ok (flags.1, flags.2.1, on)
  | none => realmError "invalid_caps"

def parseCaps (caps : Value) : Except Failure Capabilities :=
  match caps.entries? with
  | none => realmError "invalid_caps"
  | some entries => do
    let (read, send, ack) ← entries.foldlM applyCap (false, false, false)
    if present : read || send || ack then
      .ok { read, send, ack, some_ := present }
    else
      realmError "invalid_caps"

/-- `[...new Set(recipients)].sort()` on strings. -/
def recipientSet (recipients : List Text) : List Text :=
  recipients.dedup.insertionSort (· ≤ ·)

theorem nodup_recipientSet (recipients : List Text) : (recipientSet recipients).Nodup :=
  (List.perm_insertionSort _ _).nodup_iff.mpr (List.nodup_dedup recipients)

def clampLimit : Value → Except Failure Nat
  | .undefined => .ok 50
  | .number n =>
    match n.toInt? with
    | some limit =>
      if limit < 1 then realmError "invalid_limit" else .ok (min MAX_LIST limit.toNat)
    | none => realmError "invalid_limit"
  | _ => realmError "invalid_limit"

namespace Sample

/-- A plain object with string keys. -/
def object (properties : List (String × Value)) : Value :=
  .object .objectPrototype (properties.map (fun (key, value) => (text key, value)))

def string (s : String) : Value :=
  .string (text s)

/-- The scope of one connection of the first sample account. -/
def scope (connection role : String) : Value :=
  object
    [("account_id", string "acct_1111"), ("tenant_id", string "ten_1111"),
      ("principal_id", string ("prin_" ++ connection)),
      ("connection_id", string ("conn_" ++ connection)), ("home_role", string role)]

def sharedInbox : Value :=
  object
    [("scope", string "home"), ("inboxId", string "ibx_shared"), ("grantToCreator", .bool true)]

def message (messageId body : String) : Value :=
  object
    [("fromInboxId", string "ibx_shared"), ("toInboxIds", .array [some (string "ibx_shared")]),
      ("messageId", string messageId), ("body", string body)]

def ackOf (messageId : String) : Value :=
  object [("inboxId", string "ibx_shared"), ("messageId", string messageId)]

def homeId : Text := text "home_11111111"

/-- The SHA-256 digests of the sample bodies. -/
def sha256Hex (body : Text) : Text :=
  if body = text "a" then
    text "ca978112ca1bbdcafac231b39a23dc4da786eff8147c4e72b9807785afee48bb"
  else
    text "fb8e20fc2e4c3f248c60c39bd652f3c1347298bb977b8b4d5903b85055620603"

end Sample

end CairnStone.PrivateRealm
