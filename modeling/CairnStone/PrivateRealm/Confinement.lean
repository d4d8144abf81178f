import CairnStone.PrivateRealm.Invariants

/-! Confinement of connection-private inboxes and of revoked connections, as an invariant of
the private database under the commands that the store issues.
-/

namespace CairnStone.PrivateRealm

open JavaScript Data Concurrency List Database

structure Confined (db : Database) : Prop where
  liveGrant
    : ∀ g ∈ db.grants, g.revokedAt = none
      → ∃ c ∈ db.connections,
          c.homeId = g.homeId ∧ c.connectionId = g.connectionId ∧ c.status = .active
  privateGrant
    : ∀ g ∈ db.grants, ∀ i ∈ db.inboxes, i.key = g.inboxKey → i.scope = .connection
      → i.ownerConnectionId = some g.connectionId
  privateDelivery
    : ∀ d ∈ db.deliveries, ∀ i ∈ db.inboxes, i.key = d.inboxKey → i.scope = .connection
      → ∀ m ∈ db.messages, m.key = d.messageKey
      → i.ownerConnectionId = some m.senderConnectionId

def Command.WellAddressed : Command → Prop
  | .createInbox row _ actor =>
    row.homeId = actor.homeId
    ∧ ∀ owner ∈ row.ownerConnectionId, owner = actor.scope.connectionId
  | _ => True

theorem of_mem_inboxGrants {row : InboxRow} {grantToCreator : Bool} {actor : ConnGuard}
    {g : GrantRow} (mem : g ∈ inboxGrants row grantToCreator actor)
    : g.homeId = row.homeId
      ∧ (row.ownerConnectionId = some g.connectionId
        ∨ (row.ownerConnectionId = none ∧ g.connectionId = actor.scope.connectionId)) := by
  unfold inboxGrants at mem
  split at mem
  · rename_i owner owned
    cases mem_singleton.mp mem
    exact ⟨rfl, .inl owned⟩
  · rename_i shared
    split at mem
    · cases mem_singleton.mp mem
      exact ⟨rfl, .inr ⟨shared, rfl⟩⟩
    · cases mem

namespace Confined

variable {db db' : Database}

/-- A batch that creates an inbox keeps confinement.
Witness: nothing refers to the new key yet, and its grants go to the guarded connection.
-/
theorem inboxCreated (keys : Keys db) (inside : Confined db) {row : InboxRow}
    {grantToCreator : Bool} {actor : ConnGuard}
    (addressed : (Command.createInbox row grantToCreator actor).WellAddressed)
    (safe : db.ConnGuarded actor) (fine : row.check = true)
    (fresh : ∀ old ∈ db.inboxes, old.key ≠ row.key)
    : Confined
        { db with
          inboxes := db.inboxes ++ [row]
          grants := db.grants ++ inboxGrants row grantToCreator actor } where
  liveGrant := by
    intro g mem live
    rcases mem_append.mp mem with old | new
    · exact inside.liveGrant g old live
    · obtain ⟨home, holder⟩ := of_mem_inboxGrants new
      have creator : g.connectionId = actor.scope.connectionId := by
        rcases holder with owned | ⟨_, made⟩
        · exact addressed.2 g.connectionId owned
        · exact made
      obtain ⟨gc, here, _, _, _, gcHome, id, _, active, _⟩ := safe
      exact ⟨gc, here, gcHome.trans (addressed.1.symm.trans home.symm),
        id.trans creator.symm, active⟩
  privateGrant := by
    intro g grantMember i inboxMember same isPrivate
    rcases mem_append.mp grantMember with oldGrant | newGrant
    · rcases mem_append.mp inboxMember with oldInbox | newInbox
      · exact inside.privateGrant g oldGrant i oldInbox same isPrivate
      · cases mem_singleton.mp newInbox
        obtain ⟨old, here, oldSame⟩ := mem_map.mp (keys.grantInbox g oldGrant)
        exact absurd (oldSame.trans same.symm) (fresh old here)
    · rcases mem_append.mp inboxMember with oldInbox | newInbox
      · have sameRow := same.trans (inboxKey_of_mem_inboxGrants newGrant)
        exact absurd sameRow (fresh i oldInbox)
      · cases mem_singleton.mp newInbox
        rcases (of_mem_inboxGrants newGrant).2 with owned | ⟨shared, _⟩
        · exact owned
        · have owner := (InboxRow.owner_of_check fine).mp isPrivate
          simp [shared] at owner
  privateDelivery := by
    intro d deliveryMember i inboxMember same isPrivate
    rcases mem_append.mp inboxMember with oldInbox | newInbox
    · exact inside.privateDelivery d deliveryMember i oldInbox same isPrivate
    · cases mem_singleton.mp newInbox
      obtain ⟨old, here, oldSame⟩ := mem_map.mp (keys.deliveryInbox d deliveryMember)
      exact absurd (oldSame.trans same.symm) (fresh old here)

/-- A grant on a shared inbox to an active connection may be inserted or replace another.
Witness: an inbox key names one inbox, and that one is shared.
-/
theorem grantWritten (keys : Keys db) (inside : Confined db) {row : GrantRow}
    (inbox
      : ∃ xi ∈ db.inboxes, xi.homeId = row.homeId ∧ xi.inboxId = row.inboxId
        ∧ xi.status = .active ∧ xi.scope ≠ .connection)
    (target
      : ∃ xc ∈ db.connections, xc.homeId = row.homeId ∧ xc.connectionId = row.connectionId
        ∧ xc.status = .active)
    {grants : List GrantRow} (put : ∀ g ∈ grants, g ∈ db.grants ∨ g = row)
    : Confined { db with grants } :=
  { inside with
    liveGrant := by
      intro g mem live
      rcases put g mem with old | rfl
      · exact inside.liveGrant g old live
      · exact target
    privateGrant := by
      intro g mem i here same isPrivate
      rcases put g mem with old | rfl
      · exact inside.privateGrant g old i here same isPrivate
      · obtain ⟨xi, known, home, id, _, shared⟩ := inbox
        have sameKey : i.key = xi.key := same.trans (Prod.ext home.symm id.symm)
        cases keys.inboxes.eq_of_key here known sameKey
        exact absurd isPrivate shared }

theorem grantsRevoked (inside : Confined db) {p : GrantRow → Bool} {stamp : Time}
    : Confined
        { db with grants := updateWhere p ({ · with revokedAt := some stamp }) db.grants } :=
  { inside with
    liveGrant := by
      intro g mem live
      obtain ⟨old, here, rfl⟩ := mem_updateWhere.mp mem
      split at live
      · cases live
      · rename_i unmatched
        rw [if_neg unmatched]
        exact inside.liveGrant old here live
    privateGrant := by
      intro g mem i known same isPrivate
      obtain ⟨old, here, rfl⟩ := mem_updateWhere.mp mem
      have kept := inside.privateGrant old here i known
      split at same <;> rename_i hit
      · rw [if_pos hit]
        exact kept same isPrivate
      · rw [if_neg hit]
        exact kept same isPrivate }

/-- Changing roles keeps confinement. -/
theorem roleSet (inside : Confined db) {p : ConnectionRow → Bool} {role : HomeRole}
    : Confined { db with connections := updateWhere p ({ · with role }) db.connections } :=
  { inside with
    liveGrant := by
      intro g mem live
      obtain ⟨c, here, home, id, active⟩ := inside.liveGrant g mem live
      refine ⟨_, mem_updateWhere.mpr ⟨c, here, rfl⟩, ?_⟩
      split <;> exact ⟨home, id, active⟩ }

/-- The batch that revokes a connection keeps confinement.
Witness: a connection that the first statement marks is one whose live grants the second
statement revokes.
-/
theorem connectionRevoked (inside : Confined db) {stamp : Time} {target : Text}
    {actor : ConnGuard}
    : Confined (db.revokeConnection stamp target actor).2 := by
  refine {
    inside with
    liveGrant := ?_
    privateGrant := (grantsRevoked inside).privateGrant
  }
  intro g mem live
  obtain ⟨old, here, rfl⟩ := mem_updateWhere.mp mem
  by_cases hit
      : (revokeGrantsMatches
          { db with
            connections :=
              updateWhere (db.revokeMatches target actor)
                ({ · with status := .revoked, revokedAt := some stamp }) db.connections }
          stamp actor.homeId target old) = true
  · rw [if_pos hit] at live
    cases live
  · rw [if_neg hit] at live ⊢
    obtain ⟨c, connected, home, id, active⟩ := inside.liveGrant old here live
    by_cases marked : db.revokeMatches target actor c = true
    · exfalso
      apply hit
      have aimed := marked
      simp only [revokeMatches, Bool.and_eq_true, beq_iff_eq] at aimed
      obtain ⟨⟨⟨⟨cHome, cId⟩, _⟩, _⟩, _⟩ := aimed
      simp only [revokeGrantsMatches, Bool.and_eq_true, beq_iff_eq,
        decide_eq_true_eq]
      refine ⟨⟨⟨home.symm.trans cHome, id.symm.trans cId⟩, live⟩, ?_⟩
      refine ⟨_, mem_updateWhere.mpr ⟨c, connected, rfl⟩, ?_⟩
      rw [if_pos marked]
      exact ⟨cHome, cId, rfl, rfl⟩
    · refine ⟨c, mem_updateWhere.mpr ⟨c, connected, by rw [if_neg marked]⟩, ?_⟩
      exact ⟨home, id, active⟩

/-- The batch that sends a message keeps confinement.
Witness: each delivery was checked against a grant that reaches the inbox, and messages and
deliveries that were there refer to older ones.
-/
theorem delivered (keys : Keys db) (inside : Confined db) {message : MessageRow}
    {targets : List Text} (fresh : ∀ old ∈ db.messages, old.key ≠ message.key)
    (authorized
      : ∀ inboxId ∈ targets,
          db.GrantGuarded ⟨message.homeId, inboxId, message.senderConnectionId, .send⟩)
    : Confined
        { db with
          messages := db.messages ++ [message]
          deliveries := db.deliveries ++ targets.map (newDelivery message) } :=
  { inside with
    privateDelivery := by
      intro d deliveryMember i known same isPrivate m messageMember sameMessage
      rcases mem_append.mp deliveryMember with oldDelivery | newDelivery
      · rcases mem_append.mp messageMember with oldMessage | newMessage
        · exact inside.privateDelivery d oldDelivery i known same isPrivate m oldMessage
            sameMessage
        · cases mem_singleton.mp newMessage
          obtain ⟨old, here, oldSame⟩ := mem_map.mp (keys.deliveryMessage d oldDelivery)
          exact absurd (oldSame.trans sameMessage.symm) (fresh old here)
      · obtain ⟨inboxId, target, rfl⟩ := mem_map.mp newDelivery
        obtain ⟨g, _, gi, here, home, id, gHome, gId, holder, _, _, _, reach⟩ :=
          authorized inboxId target
        have sameKey : i.key = gi.key :=
          same.trans (Prod.ext (home.trans gHome).symm (id.trans gId).symm)
        cases keys.inboxes.eq_of_key known here sameKey
        have owned : i.ownerConnectionId = some message.senderConnectionId := by
          rcases reach with shared | owned
          · exact absurd isPrivate shared
          · rw [owned, holder]
        rcases mem_append.mp messageMember with oldMessage | newMessage
        · exact absurd sameMessage (fresh m oldMessage)
        · cases mem_singleton.mp newMessage
          exact owned }

theorem stamped (inside : Confined db) {p : DeliveryRow → Bool}
    {f : DeliveryRow → DeliveryRow} (same : ∀ row, (f row).key = row.key)
    : Confined { db with deliveries := updateWhere p f db.deliveries } :=
  { inside with
    privateDelivery := by
      intro d mem i known sameInbox isPrivate m stored sameMessage
      obtain ⟨old, here, rfl⟩ := mem_updateWhere.mp mem
      have key : (if p old then f old else old).key = old.key := by
        split
        · exact same old
        · rfl
      simp only [DeliveryRow.key, Prod.mk.injEq] at key
      have inboxKey : (if p old then f old else old).inboxKey = old.inboxKey :=
        Prod.ext key.1 key.2.2
      have messageKey : (if p old then f old else old).messageKey = old.messageKey :=
        Prod.ext key.1 key.2.1
      exact inside.privateDelivery old here i known (sameInbox.trans inboxKey) isPrivate m
        stored (sameMessage.trans messageKey) }

/-- New connections and Homes keep confinement. -/
theorem grown (inside : Confined db) {homes : List HomeRow}
    {connections : List ConnectionRow}
    : Confined { db with homes, connections := db.connections ++ connections } :=
  { inside with
    liveGrant := by
      intro g mem live
      obtain ⟨c, here, holds⟩ := inside.liveGrant g mem live
      exact ⟨c, mem_append_left _ here, holds⟩ }

theorem effect (keys : Keys db) (inside : Confined db) {command : Command}
    (addressed : command.WellAddressed) (effect : Effect db command db')
    : Confined db' := by
  cases effect with
  | unchanged => exact inside
  | audited => exact { inside with }
  | homeCreated => exact inside.grown
  | attached => exact inside.grown
  | roleSet => exact inside.roleSet
  | connectionRevoked => exact inside.connectionRevoked
  | inboxCreated safe fine fresh =>
    exact inboxCreated keys inside addressed safe fine fresh
  | grantInserted safe inbox target fresh =>
    refine grantWritten keys inside inbox target (fun g mem => ?_)
    simpa using mem
  | grantReplaced safe inbox target =>
    refine grantWritten keys inside inbox target (fun g mem => ?_)
    obtain ⟨old, here, rfl⟩ := mem_updateWhere.mp mem
    split
    · exact .inr rfl
    · exact .inl here
  | grantRevoked => exact inside.grantsRevoked
  | delivered sender fresh authorized => exact delivered keys inside fresh authorized
  | readStamped => exact inside.stamped (fun _ => rfl)
  | ackStamped => exact inside.stamped (fun _ => rfl)

/-- The moves of the outside world keep confinement: they change only statuses. -/
theorem disturb {w : World} (inside : Confined w.db) (event : Disturbance)
    : Confined (World.disturb event w).db := by
  cases event with
  | tick by_ => exact inside
  | bucket failing => exact inside
  | setHomeStatus homeId status => exact { inside with }
  | setInboxStatus homeId inboxId status =>
    exact {
      inside with
      privateGrant := by
        intro g mem i known same isPrivate
        obtain ⟨old, here, rfl⟩ := mem_updateWhere.mp known
        have kept := inside.privateGrant g mem old here
        split at same <;> rename_i hit
        · rw [if_pos hit] at isPrivate ⊢
          exact kept same isPrivate
        · rw [if_neg hit] at isPrivate ⊢
          exact kept same isPrivate
      privateDelivery := by
        intro d mem i known same isPrivate
        obtain ⟨old, here, rfl⟩ := mem_updateWhere.mp known
        have kept := inside.privateDelivery d mem old here
        split at same <;> rename_i hit
        · rw [if_pos hit] at isPrivate ⊢
          exact kept same isPrivate
        · rw [if_neg hit] at isPrivate ⊢
          exact kept same isPrivate
    }

theorem empty : Confined Database.empty where
  liveGrant := by simp [Database.empty]
  privateGrant := by simp [Database.empty]
  privateDelivery := by simp [Database.empty]

end Confined

end CairnStone.PrivateRealm
