import CairnStone.PrivateRealm.Platform

/-! What each command can do to the database, guards included. Every invariant of the store
is derived from this one inversion.
-/

namespace CairnStone.PrivateRealm

open JavaScript Data List Database Except

theorem InboxRow.owner_of_check {row : InboxRow} (fine : row.check = true)
    : row.scope = .connection ↔ row.ownerConnectionId.isSome = true := by
  have tied := (Bool.and_eq_true _ _ ▸ fine).2
  cases owner : row.ownerConnectionId.isSome with
  | true => simpa [owner] using tied
  | false => simpa [owner] using tied

namespace Database

variable {db db' : Database}

theorem insertHome_eq_ok {row : HomeRow} (h : db.insertHome row = .ok db')
    : (∀ old ∈ db.homes,
        old.homeId ≠ row.homeId
        ∧ (old.isDefault = true → row.isDefault = true → old.accountId ≠ row.accountId))
      ∧ db' = { db with homes := db.homes ++ [row] } := by
  unfold insertHome at h
  split at h
  · cases h
  split at h
  · cases h
  · rename_i fresh
    refine ⟨fun old mem => ⟨fun same => ?_, fun isDefault new same => ?_⟩, ?_⟩
    · exact fresh ⟨old, mem, .inl same⟩
    · exact fresh ⟨old, mem, .inr ⟨isDefault, new, same⟩⟩
    · exact (ok.inj h).symm

theorem insertConnection_eq_ok {row : ConnectionRow} (h : db.insertConnection row = .ok db')
    : (∀ old ∈ db.connections,
        old.connectionId ≠ row.connectionId
        ∧ (old.homeId = row.homeId → old.principalId ≠ row.principalId))
      ∧ (∃ home ∈ db.homes, home.homeId = row.homeId)
      ∧ db' = { db with connections := db.connections ++ [row] } := by
  unfold insertConnection at h
  split at h
  · cases h
  split at h
  · cases h
  split at h
  · cases h
  · rename_i fresh home
    refine ⟨fun old mem => ⟨fun same => ?_, fun here same => ?_⟩, not_not.mp home, ?_⟩
    · exact fresh ⟨old, mem, .inl same⟩
    · exact fresh ⟨old, mem, .inr ⟨here, same⟩⟩
    · exact (ok.inj h).symm

theorem insertInboxRow_eq_ok {row : InboxRow} (h : db.insertInboxRow row = .ok db')
    : row.check = true
      ∧ (∀ old ∈ db.inboxes, old.key ≠ row.key)
      ∧ (∀ owner ∈ row.ownerConnectionId, ∃ c ∈ db.connections,
          c.homeId = row.homeId ∧ c.connectionId = owner)
      ∧ db' = { db with inboxes := db.inboxes ++ [row] } := by
  unfold insertInboxRow at h
  split at h
  · cases h
  split at h
  · cases h
  split at h
  · cases h
  · rename_i fine fresh references
    refine ⟨by simpa using fine, fun old mem same => fresh ⟨old, mem, same⟩,
      (not_not.mp references).2, (ok.inj h).symm⟩

theorem insertGrantRow_eq_ok {row : GrantRow} (h : db.insertGrantRow row = .ok db')
    : (∀ old ∈ db.grants, old.key ≠ row.key)
      ∧ db.GrantReferences row
      ∧ db' = { db with grants := db.grants ++ [row] } := by
  unfold insertGrantRow at h
  split at h
  · cases h
  split at h
  · cases h
  · rename_i fresh references
    exact ⟨fun old mem same => fresh ⟨old, mem, same⟩, not_not.mp references,
      (ok.inj h).symm⟩

theorem insertMessage_eq_ok {row : MessageRow} (h : db.insertMessage row = .ok db')
    : db.SenderAuthorized row
      ∧ (∀ old ∈ db.messages, old.key ≠ row.key)
      ∧ db' = { db with messages := db.messages ++ [row] } := by
  unfold insertMessage at h
  split at h
  · cases h
  split at h
  · cases h
  split at h
  · cases h
  split at h
  · cases h
  · rename_i authorized _ fresh _
    exact ⟨not_not.mp authorized, fun old mem same => fresh ⟨old, mem, same⟩,
      (ok.inj h).symm⟩

theorem insertDelivery_eq_ok {row : DeliveryRow} (h : db.insertDelivery row = .ok db')
    : db.TargetAuthorized row.homeId row.messageId row.inboxId
      ∧ (∀ old ∈ db.deliveries, old.key ≠ row.key)
      ∧ db' = { db with deliveries := db.deliveries ++ [row] } := by
  unfold insertDelivery at h
  split at h
  · cases h
  split at h
  · cases h
  split at h
  · cases h
  · rename_i authorized fresh _
    exact ⟨not_not.mp authorized, fun old mem same => fresh ⟨old, mem, same⟩,
      (ok.inj h).symm⟩

theorem updateDeliveries_eq_ok {p : DeliveryRow → Bool} {f : DeliveryRow → DeliveryRow}
    {edits : Nat} (h : db.updateDeliveries p f = .ok (edits, db'))
    : (∀ old ∈ db.deliveries, p old = true
        → deliveryIdentityKept old (f old) = true ∧ deliveryMovesForward old (f old) = true)
      ∧ edits = db.deliveries.countP p
      ∧ db' = { db with deliveries := updateWhere p f db.deliveries } := by
  unfold updateDeliveries at h
  split at h
  · cases h
  split at h
  · cases h
  · rename_i kept forward
    simp only [ok.injEq, Prod.mk.injEq] at h
    refine ⟨fun old mem hit => ⟨?_, ?_⟩, h.1.symm, h.2.symm⟩
    · by_contra broken
      exact kept ⟨old, mem, hit, by simpa using broken⟩
    · by_contra broken
      exact forward ⟨old, mem, hit, by simpa using broken⟩

/-- The deliveries of one batch: each target was authorized and none was there before.
Witness: induction on the targets; a delivery changes nothing the trigger looks at.
-/
theorem insertDeliveries_eq_ok {message : MessageRow} {targets : List Text}
    (h
      : targets.foldlM (fun db inboxId => db.insertDelivery (newDelivery message inboxId)) db
        = .ok db')
    : (∀ inboxId ∈ targets, db.TargetAuthorized message.homeId message.messageId inboxId)
      ∧ (∀ inboxId ∈ targets, ∀ old ∈ db.deliveries,
          old.key ≠ (newDelivery message inboxId).key)
      ∧ targets.Nodup
      ∧ db' = { db with deliveries := db.deliveries ++ targets.map (newDelivery message) } := by
  induction targets generalizing db with
  | nil =>
    obtain rfl : db = db' := ok.inj h
    exact ⟨by simp, by simp, nodup_nil, by simp⟩
  | cons first rest ih =>
    rw [foldlM_cons] at h
    obtain ⟨middle, put, later⟩ := bind_eq_ok.mp h
    obtain ⟨authorized, fresh, rfl⟩ := insertDelivery_eq_ok put
    obtain ⟨restAuthorized, restFresh, nodup, rfl⟩ := ih later
    have firstAbsent : first ∉ rest := by
      intro mem
      exact restFresh first mem (newDelivery message first) (by simp) rfl
    refine ⟨?_, ?_, nodup_cons.mpr ⟨firstAbsent, nodup⟩, by simp⟩
    · intro inboxId mem
      rcases mem_cons.mp mem with rfl | later
      · exact authorized
      · exact restAuthorized inboxId later
    · intro inboxId mem old present
      rcases mem_cons.mp mem with rfl | later
      · exact fresh old present
      · exact restFresh inboxId later old (mem_append_left _ present)

end Database

def inboxGrants (row : InboxRow) (grantToCreator : Bool) (actor : ConnGuard)
    : List GrantRow :=
  match row.ownerConnectionId with
  | some owner => [Database.fullGrant row owner]
  | none =>
    if grantToCreator = true ∧ row.status = .active then
      [Database.fullGrant row actor.scope.connectionId]
    else
      []

/-- `Effect db command db'`: executing `command` in `db` can lead to `db'`. A command that
fails, or that only reads the clock, mints an id or stores a body, changes nothing.
-/
inductive Effect (db : Database) : Command → Database → Prop
  | unchanged {command} : Effect db command db
  | audited {row} : Effect db (.audit row) (db.insertAudit row)
  | homeCreated {homeId scope stamp}
    (freshHome : ∀ old ∈ db.homes, old.homeId ≠ homeId)
    (freshAccount
      : ∀ old ∈ db.homes, old.isDefault = true → old.accountId ≠ scope.accountId)
    (freshConnection : ∀ old ∈ db.connections, old.connectionId ≠ scope.connectionId)
    : Effect db (.createHome homeId scope stamp)
        { db with
          homes := db.homes ++ [Database.newHome homeId scope stamp]
          connections :=
            db.connections ++ [Database.newConnection homeId scope .admin stamp] }
  | attached {homeId scope stamp}
    (home
      : ∃ h ∈ db.homes, h.homeId = homeId ∧ h.accountId = scope.accountId
        ∧ h.tenantId = scope.tenantId ∧ h.status = .active)
    (freshConnection : ∀ old ∈ db.connections, old.connectionId ≠ scope.connectionId)
    (freshPrincipal
      : ∀ old ∈ db.connections, old.homeId = homeId → old.principalId ≠ scope.principalId)
    : Effect db (.attachConnection homeId scope stamp)
        { db with
          connections :=
            db.connections
            ++ [Database.newConnection homeId scope (db.attachRole homeId scope.homeRole)
                  stamp] }
  | roleSet {role target actor}
    : Effect db (.setRole role target actor) (db.setRole role target actor).2
  | connectionRevoked {stamp target actor}
    : Effect db (.revokeConnection stamp target actor)
        (db.revokeConnection stamp target actor).2
  | inboxCreated {row grantToCreator actor}
    (guarded : db.ConnGuarded actor)
    (checked : row.check = true)
    (fresh : ∀ old ∈ db.inboxes, old.key ≠ row.key)
    (freshGrants
      : ∀ g ∈ inboxGrants row grantToCreator actor, ∀ old ∈ db.grants, old.key ≠ g.key)
    : Effect db (.createInbox row grantToCreator actor)
        { db with
          inboxes := db.inboxes ++ [row]
          grants := db.grants ++ inboxGrants row grantToCreator actor }
  | grantInserted {row actor}
    (guarded : db.ConnGuarded actor)
    (inbox
      : ∃ xi ∈ db.inboxes, xi.homeId = row.homeId ∧ xi.inboxId = row.inboxId
        ∧ xi.status = .active ∧ xi.scope ≠ .connection)
    (target
      : ∃ xc ∈ db.connections, xc.homeId = row.homeId ∧ xc.connectionId = row.connectionId
        ∧ xc.status = .active)
    (fresh : ∀ old ∈ db.grants, old.key ≠ row.key)
    : Effect db (.upsertGrant row actor) { db with grants := db.grants ++ [row] }
  | grantReplaced {row actor}
    (guarded : db.ConnGuarded actor)
    (inbox
      : ∃ xi ∈ db.inboxes, xi.homeId = row.homeId ∧ xi.inboxId = row.inboxId
        ∧ xi.status = .active ∧ xi.scope ≠ .connection)
    (target
      : ∃ xc ∈ db.connections, xc.homeId = row.homeId ∧ xc.connectionId = row.connectionId
        ∧ xc.status = .active)
    : Effect db (.upsertGrant row actor)
        { db with
          grants := updateWhere (fun old => old.key == row.key) (fun _ => row) db.grants }
  | grantRevoked {stamp inboxId target actor}
    : Effect db (.revokeGrant stamp inboxId target actor)
        (db.revokeGrant stamp inboxId target actor).2
  | delivered {message targets}
    (sender : db.SenderAuthorized message)
    (fresh : ∀ old ∈ db.messages, old.key ≠ message.key)
    (authorized
      : ∀ inboxId ∈ targets,
          db.GrantGuarded ⟨message.homeId, inboxId, message.senderConnectionId, .send⟩)
    (freshDeliveries
      : ∀ inboxId ∈ targets, ∀ old ∈ db.deliveries,
          old.key ≠ (Database.newDelivery message inboxId).key)
    (nodup : targets.Nodup)
    : Effect db (.deliver message targets)
        { db with
          messages := db.messages ++ [message]
          deliveries := db.deliveries ++ targets.map (Database.newDelivery message) }
  | readStamped {stamp messageIds actor grant}
    : Effect db (.stampRead stamp messageIds actor grant)
        { db with
          deliveries :=
            updateWhere (db.readMatches messageIds actor grant)
              ({ · with readAt := some stamp }) db.deliveries }
  | ackStamped {stamp messageId actor grant}
    : Effect db (.stampAck stamp messageId actor grant)
        { db with
          deliveries :=
            updateWhere (db.ackMatches messageId actor grant)
              (fun row =>
                { row with
                  readAt := some (row.readAt.getD stamp)
                  ackedAt := some (max (row.readAt.getD stamp) stamp) }) db.deliveries }

namespace Database

variable {db db' : Database} {row : InboxRow} {grantToCreator : Bool} {actor : ConnGuard}
  {homeId : Text} {scope : HomeScope} {stamp : Time}

/-- A successful message batch inserted a new message with exactly its deliveries.
Witness: the inserts in order; the triggers of the deliveries look only at the new message
and at tables that the batch leaves alone.
-/
theorem deliver_eq_ok {message : MessageRow} {targets : List Text}
    (h : db.deliver message targets = .ok db')
    : (∀ old ∈ db.messages, old.key ≠ message.key)
      ∧ db'
        = { db with
            messages := db.messages ++ [message]
            deliveries := db.deliveries ++ targets.map (newDelivery message) }
      ∧ Effect db (.deliver message targets) db' := by
  obtain ⟨middle, put, rest⟩ := bind_eq_ok.mp h
  obtain ⟨sender, fresh, rfl⟩ := insertMessage_eq_ok put
  obtain ⟨authorized, freshDeliveries, nodup, rfl⟩ := insertDeliveries_eq_ok rest
  refine ⟨fresh, rfl, .delivered sender fresh ?_ freshDeliveries nodup⟩
  intro inboxId mem
  obtain ⟨m, stored, home, id, _, safe⟩ := authorized inboxId mem
  rcases mem_append.mp stored with old | new
  · exact absurd (Prod.ext home id) (fresh m old)
  · obtain rfl : m = message := by simpa using new
    exact safe

/-- Without its guard, the batch that creates an inbox changes nothing. -/
theorem createInbox_of_not_guarded (unguarded : ¬ db.ConnGuarded actor)
    : db.createInbox row grantToCreator actor = .ok (0, db) := by
  have inboxed : db.insertGuardedInbox row actor = .ok (0, db) := by
    simp [insertGuardedInbox, unguarded]
  have owned : db.grantOwner row actor = .ok db := by
    unfold grantOwner
    cases row.ownerConnectionId <;> simp [unguarded]
  have granted : db.grantCreator row grantToCreator actor = .ok db := by
    simp [grantCreator, unguarded]
  simp [createInbox, inboxed, owned, granted, Bind.bind, Except.bind]

theorem eq_of_inserted (fresh : ∀ old ∈ db.inboxes, old.key ≠ row.key)
    : ∀ inbox ∈ db.inboxes ++ [row],
        inbox.homeId = row.homeId → inbox.inboxId = row.inboxId → inbox = row := by
  intro inbox mem home id
  rcases mem_append.mp mem with old | new
  · exact absurd (Prod.ext home id) (fresh inbox old)
  · simpa using new

/-- The owner's grant of a new private inbox; another inbox gets none from this statement.
Witness: the owner test finds the row just inserted.
-/
theorem grantOwner_eq_ok (safe : db.ConnGuarded actor) (present : row ∈ db.inboxes)
    (h : db.grantOwner row actor = .ok db')
    : match row.ownerConnectionId with
      | none => db' = db
      | some owner =>
        (∀ old ∈ db.grants, old.key ≠ (fullGrant row owner).key)
        ∧ db' = { db with grants := db.grants ++ [fullGrant row owner] } := by
  unfold grantOwner at h
  cases owned : row.ownerConnectionId with
  | none => simpa [owned, eq_comm] using h
  | some owner =>
    simp only [owned] at h ⊢
    rw [if_pos ⟨safe, row, present, rfl, rfl, owned⟩] at h
    obtain ⟨fresh, _, rfl⟩ := insertGrantRow_eq_ok h
    exact ⟨fresh, rfl⟩

/-- The creator's grant needs a shared inbox, so a private one gets none. -/
theorem grantCreator_eq_ok (safe : db.ConnGuarded actor) (present : row ∈ db.inboxes)
    (only : ∀ i ∈ db.inboxes, i.homeId = row.homeId → i.inboxId = row.inboxId → i = row)
    (h : db.grantCreator row grantToCreator actor = .ok db')
    : if grantToCreator = true ∧ row.scope ≠ .connection ∧ row.status = .active then
        (∀ old ∈ db.grants, old.key ≠ (fullGrant row actor.scope.connectionId).key)
        ∧ db' = { db with grants := db.grants ++ [fullGrant row actor.scope.connectionId] }
      else
        db' = db := by
  unfold grantCreator at h
  split
  · rename_i wanted
    rw [if_pos ⟨wanted.1, safe, row, present, rfl, rfl, wanted.2⟩] at h
    obtain ⟨fresh, _, rfl⟩ := insertGrantRow_eq_ok h
    exact ⟨fresh, rfl⟩
  · rename_i unwanted
    rw [if_neg ?_] at h
    · exact (ok.inj h).symm
    · rintro ⟨asked, _, ci, mem, home, id, shared⟩
      cases only ci mem home id
      exact unwanted ⟨asked, shared⟩

/-- Under its guard, a successful batch inserted the inbox and its grants.
Witness: the existence tests of the grant statements find the row just inserted.
-/
theorem createInbox_eq_ok {edits : Nat} (safe : db.ConnGuarded actor)
    (h : db.createInbox row grantToCreator actor = .ok (edits, db'))
    : edits = 1
      ∧ db'
        = { db with
            inboxes := db.inboxes ++ [row]
            grants := db.grants ++ inboxGrants row grantToCreator actor }
      ∧ Effect db (.createInbox row grantToCreator actor) db' := by
  obtain ⟨inboxed, insert, h⟩ := bind_eq_ok.mp h
  obtain ⟨owned, ownerGrant, h⟩ := bind_eq_ok.mp h
  obtain ⟨granted, creatorGrant, h⟩ := bind_eq_ok.mp h
  obtain ⟨rfl, rfl⟩ := Prod.mk.inj (ok.inj h)
  rw [insertGuardedInbox, if_pos safe] at insert
  obtain ⟨put, insertedRow, same⟩ := map_eq_ok.mp insert
  obtain ⟨fine, fresh, _, rfl⟩ := insertInboxRow_eq_ok insertedRow
  obtain rfl : (1, _) = inboxed := same
  have owner := InboxRow.owner_of_check fine
  have still : ({ db with inboxes := db.inboxes ++ [row] } : Database).ConnGuarded actor :=
    safe
  have only := eq_of_inserted fresh
  have ownerGrant := grantOwner_eq_ok still (by simp) ownerGrant
  have shape
      : granted
        = { db with
            inboxes := db.inboxes ++ [row]
            grants := db.grants ++ inboxGrants row grantToCreator actor }
        ∧ ∀ g ∈ inboxGrants row grantToCreator actor, ∀ old ∈ db.grants, old.key ≠ g.key := by
    cases ownedBy : row.ownerConnectionId with
    | some connection =>
      simp only [ownedBy, Option.isSome_some, iff_true] at ownerGrant owner
      obtain ⟨freshGrant, rfl⟩ := ownerGrant
      have creatorGrant := grantCreator_eq_ok
        (by simpa only [ConnGuarded] using safe) (by simp) only creatorGrant
      rw [if_neg (by simp [owner])] at creatorGrant
      subst creatorGrant
      simpa only [inboxGrants, ownedBy, mem_singleton, forall_eq, true_and]
        using freshGrant
    | none =>
      simp only [ownedBy, Option.isSome_none, Bool.false_eq_true, iff_false] at ownerGrant owner
      subst ownerGrant
      have creatorGrant := grantCreator_eq_ok still (by simp) only creatorGrant
      simp only [inboxGrants, ownedBy]
      by_cases wanted : grantToCreator = true ∧ row.status = .active
      · rw [if_pos ⟨wanted.1, owner, wanted.2⟩] at creatorGrant
        obtain ⟨freshGrant, rfl⟩ := creatorGrant
        simpa only [if_pos wanted, mem_singleton, forall_eq, true_and] using freshGrant
      · rw [if_neg (fun h => wanted ⟨h.1, h.2.2⟩)] at creatorGrant
        subst creatorGrant
        simp [if_neg wanted]
  obtain ⟨rfl, freshGrants⟩ := shape
  exact ⟨rfl, rfl, .inboxCreated safe fine fresh freshGrants⟩

/-- A successful attaching insert answers the role it computed. -/
theorem attachConnection_eq_ok {role : HomeRole}
    (h : db.attachConnection homeId scope stamp = .ok (some role, db'))
    : role = db.attachRole homeId scope.homeRole
      ∧ db'
        = { db with
            connections := db.connections ++ [newConnection homeId scope role stamp] }
      ∧ Effect db (.attachConnection homeId scope stamp) db' := by
  unfold attachConnection at h
  split at h
  · rename_i home
    obtain ⟨put, insert, same⟩ := bind_eq_ok.mp h
    obtain ⟨fresh, _, rfl⟩ := insertConnection_eq_ok insert
    obtain ⟨role, rfl⟩ := Prod.mk.inj (ok.inj same)
    cases role
    exact ⟨rfl, rfl,
      .attached home (fun old mem => (fresh old mem).1) (fun old mem => (fresh old mem).2)⟩
  · cases h

/-- An attaching insert that answers no row found no Home and changed nothing. -/
theorem attachConnection_eq_ok_none
    (h : db.attachConnection homeId scope stamp = .ok (none, db'))
    : db' = db := by
  unfold attachConnection at h
  split at h
  · obtain ⟨_, _, same⟩ := bind_eq_ok.mp h
    cases ok.inj same
  · exact (Prod.mk.inj (ok.inj h)).2.symm

/-- A successful first `ensureDefaultHome` inserted the Home and its admin. -/
theorem createHome_eq_ok (h : db.createHome homeId scope stamp = .ok db')
    : db'
        = { db with
            homes := db.homes ++ [newHome homeId scope stamp]
            connections := db.connections ++ [newConnection homeId scope .admin stamp] }
      ∧ Effect db (.createHome homeId scope stamp) db' := by
  obtain ⟨homed, home, connection⟩ := bind_eq_ok.mp h
  obtain ⟨freshHome, rfl⟩ := insertHome_eq_ok home
  obtain ⟨freshConnection, _, rfl⟩ := insertConnection_eq_ok connection
  exact ⟨rfl,
    .homeCreated (fun old mem => (freshHome old mem).1)
      (fun old mem isDefault => (freshHome old mem).2 isDefault rfl)
      (fun old mem => (freshConnection old mem).1)⟩

/-- A successful upsert inserted the grant, replaced it, or found its guard unmet.
Witness: the two branches of `ON CONFLICT`.
-/
theorem upsertGrant_effect {row : GrantRow} {edits : Nat}
    (h : db.upsertGrant row actor = .ok (edits, db'))
    : Effect db (.upsertGrant row actor) db' := by
  unfold upsertGrant at h
  split at h
  · rename_i safe
    obtain ⟨safe, inbox, target⟩ := safe
    split at h
    · obtain ⟨_, rfl⟩ := Prod.mk.inj (ok.inj h)
      exact .grantReplaced safe inbox target
    · obtain ⟨put, insert, same⟩ := bind_eq_ok.mp h
      obtain ⟨fresh, _, rfl⟩ := insertGrantRow_eq_ok insert
      obtain ⟨_, rfl⟩ := Prod.mk.inj (ok.inj same)
      exact .grantInserted safe inbox target fresh
  · obtain ⟨_, rfl⟩ := Prod.mk.inj (ok.inj h)
    exact .unchanged

end Database

namespace World

theorem commit_effect {α : Type} {w : World} {res : Except SqlError (α × Database)}
    {command : Command}
    (ok : ∀ value db, res = .ok (value, db) → Effect w.db command db)
    : Effect w.db command (w.commit res).2.db := by
  cases res with
  | error error => exact .unchanged
  | ok result => exact ok result.1 result.2 rfl

/-- Whatever a command does to the database is one of the effects listed for it.
Witness: case analysis on the command, with the inversion of its statements.
-/
theorem exec_effect (w : World) (command : Command)
    : Effect w.db command (w.exec command).2.db := by
  cases command with
  | now => exact .unchanged
  | mintId kind bytes => exact .unchanged
  | putBody key body =>
    simp only [exec, putBody]
    split
    · split <;> exact .unchanged
    · exact .unchanged
  | audit row => exact .audited
  | createHome homeId scope stamp =>
    refine commit_effect (fun value db h => ?_)
    obtain ⟨put, insert, same⟩ := map_eq_ok.mp h
    obtain ⟨_, rfl⟩ := Prod.mk.inj same
    exact (createHome_eq_ok insert).2
  | attachConnection homeId scope stamp =>
    refine commit_effect (fun value db h => ?_)
    cases value with
    | none =>
      cases attachConnection_eq_ok_none h
      exact .unchanged
    | some role => exact (attachConnection_eq_ok h).2.2
  | setRole role target actor => exact .roleSet
  | revokeConnection stamp target actor => exact .connectionRevoked
  | createInbox row grantToCreator actor =>
    refine commit_effect (fun value db h => ?_)
    by_cases safe : w.db.ConnGuarded actor
    · exact (createInbox_eq_ok safe h).2.2
    · rw [createInbox_of_not_guarded safe] at h
      obtain ⟨_, rfl⟩ := Prod.mk.inj (ok.inj h)
      exact .unchanged
  | upsertGrant row actor =>
    exact commit_effect (fun value db h => upsertGrant_effect h)
  | revokeGrant stamp inboxId target actor => exact .grantRevoked
  | deliver message targets =>
    refine commit_effect (fun value db h => ?_)
    obtain ⟨put, insert, same⟩ := map_eq_ok.mp h
    obtain ⟨_, rfl⟩ := Prod.mk.inj same
    exact (deliver_eq_ok insert).2.2
  | stampRead stamp messageIds actor grant =>
    refine commit_effect (fun value db h => ?_)
    obtain ⟨_, _, rfl⟩ := updateDeliveries_eq_ok h
    exact .readStamped
  | stampAck stamp messageId actor grant =>
    refine commit_effect (fun value db h => ?_)
    obtain ⟨_, _, rfl⟩ := updateDeliveries_eq_ok h
    exact .ackStamped

end World

end CairnStone.PrivateRealm
