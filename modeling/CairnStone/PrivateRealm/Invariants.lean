import CairnStone.PrivateRealm.D1Store
import CairnStone.PrivateRealm.Effects

/-! What every state of the private database satisfies, whoever issues the commands: keys
and references hold, and every Home keeps an active admin.
-/

namespace CairnStone.PrivateRealm

open JavaScript Data Concurrency List Bool Database World DeliveryRow Keyed

def GrantRow.inboxKey (row : GrantRow) : Text × Text :=
  (row.homeId, row.inboxId)

def DeliveryRow.messageKey (row : DeliveryRow) : Text × Text :=
  (row.homeId, row.messageId)

def DeliveryRow.inboxKey (row : DeliveryRow) : Text × Text :=
  (row.homeId, row.inboxId)

def ConnectionRow.identity (row : ConnectionRow) : Text × Text × Text :=
  (row.connectionId, row.homeId, row.principalId)

def HomeRow.identity (row : HomeRow) : Text × Text × Text :=
  (row.homeId, row.accountId, row.tenantId)

def InboxRow.identity (row : InboxRow) : (Text × Text) × InboxScope × InboxPlane × Option Text :=
  (row.key, row.scope, row.plane, row.ownerConnectionId)

structure Keys (db : Database) : Prop where
  homes : Keyed HomeRow.homeId db.homes
  connections : Keyed ConnectionRow.connectionId db.connections
  inboxes : Keyed InboxRow.key db.inboxes
  grants : Keyed GrantRow.key db.grants
  messages : Keyed MessageRow.key db.messages
  deliveries : Keyed DeliveryRow.key db.deliveries
  connectionHome : ∀ c ∈ db.connections, c.homeId ∈ db.homes.map HomeRow.homeId
  grantInbox : ∀ g ∈ db.grants, g.inboxKey ∈ db.inboxes.map InboxRow.key
  deliveryMessage : ∀ d ∈ db.deliveries, d.messageKey ∈ db.messages.map MessageRow.key
  deliveryInbox : ∀ d ∈ db.deliveries, d.inboxKey ∈ db.inboxes.map InboxRow.key

def Administered (db : Database) : Prop :=
  ∀ h ∈ db.homes, ∃ c ∈ db.connections,
    c.homeId = h.homeId ∧ c.status = .active ∧ c.role = .admin

theorem keyed_inboxGrants (row : InboxRow) (grantToCreator : Bool) (actor : ConnGuard)
    : Keyed GrantRow.key (inboxGrants row grantToCreator actor) := by
  unfold inboxGrants Keyed
  split
  · simp
  · split <;> simp

theorem inboxKey_of_mem_inboxGrants {row : InboxRow} {grantToCreator : Bool}
    {actor : ConnGuard} {g : GrantRow} (mem : g ∈ inboxGrants row grantToCreator actor)
    : g.inboxKey = row.key := by
  unfold inboxGrants at mem
  split at mem
  · cases mem_singleton.mp mem
    rfl
  · split at mem
    · cases mem_singleton.mp mem
      rfl
    · cases mem

/-- No command breaks a key or a reference. Witness: the tests each insert made, and the
columns each update leaves alone.
-/
theorem Keys.effect {db db' : Database} {command : Command} (keys : Keys db)
    (effect : Effect db command db')
    : Keys db' := by
  cases effect with
  | unchanged => exact keys
  | audited => exact { keys with }
  | homeCreated freshHome _ freshConnection =>
    exact {
      keys with
      homes := keys.homes.append_singleton freshHome
      connections := keys.connections.append_singleton freshConnection
      connectionHome :=
        forall_mem_append (fun _ => mem_map_append) keys.connectionHome
          (by simp [newConnection, newHome])
    }
  | attached home freshConnection freshPrincipal =>
    obtain ⟨h, mem, rfl, _⟩ := home
    exact {
      keys with
      connections := keys.connections.append_singleton freshConnection
      connectionHome :=
        forall_mem_append (fun _ => id) keys.connectionHome
          (by simpa [newConnection] using ⟨h, mem, rfl⟩)
    }
  | roleSet =>
    exact {
      keys with
      connections := keys.connections.updateWhere (fun _ _ => rfl)
      connectionHome := forall_mem_updateWhere (fun _ _ => rfl) keys.connectionHome
    }
  | connectionRevoked =>
    exact {
      keys with
      connections := keys.connections.updateWhere (fun _ _ => rfl)
      connectionHome := forall_mem_updateWhere (fun _ _ => rfl) keys.connectionHome
      grants := keys.grants.updateWhere (fun _ _ => rfl)
      grantInbox := forall_mem_updateWhere (fun _ _ => rfl) keys.grantInbox
    }
  | inboxCreated safe fine fresh freshGrants =>
    exact {
      keys with
      inboxes := keys.inboxes.append_singleton fresh
      grants := append keys.grants (keyed_inboxGrants _ _ _) freshGrants
      grantInbox :=
        forall_mem_append (fun _ => mem_map_append) keys.grantInbox
          (fun g mem => by simp [inboxKey_of_mem_inboxGrants mem])
      deliveryInbox := fun d mem => mem_map_append (keys.deliveryInbox d mem)
    }
  | grantInserted safe inbox target fresh =>
    rename_i row actor
    have resolves : row.inboxKey ∈ db.inboxes.map InboxRow.key := by
      obtain ⟨i, here, home, inboxId, _⟩ := inbox
      exact mem_map.mpr ⟨i, here, Prod.ext home inboxId⟩
    exact {
      keys with
      grants := keys.grants.append_singleton fresh
      grantInbox :=
        forall_mem_append (fun _ => id) keys.grantInbox (by simpa using resolves)
    }
  | grantReplaced safe inbox target =>
    rename_i row actor
    have kept : ∀ old : GrantRow, (old.key == row.key) = true → row.key = old.key :=
      fun old same => (beq_iff_eq.mp same).symm
    have inboxKept
        : ∀ old : GrantRow, (old.key == row.key) = true → row.inboxKey = old.inboxKey := by
      intro old same
      have sameKey := kept old same
      simp only [GrantRow.key, Prod.mk.injEq] at sameKey
      exact Prod.ext sameKey.1 sameKey.2.1
    exact {
      keys with
      grants := keys.grants.updateWhere kept
      grantInbox := forall_mem_updateWhere inboxKept keys.grantInbox
    }
  | grantRevoked =>
    exact {
      keys with
      grants := keys.grants.updateWhere (fun _ _ => rfl)
      grantInbox := forall_mem_updateWhere (fun _ _ => rfl) keys.grantInbox
    }
  | delivered sender fresh authorized freshDeliveries nodup =>
    exact {
      keys with
      messages := keys.messages.append_singleton fresh
      deliveries := append keys.deliveries
        (by
          unfold Keyed
          rw [map_map]
          refine nodup.map (fun a b same => ?_)
          simpa [newDelivery, key] using same)
        (by simpa using freshDeliveries)
      deliveryMessage :=
        forall_mem_append (fun _ => mem_map_append) keys.deliveryMessage
          (by simp [newDelivery, messageKey, MessageRow.key])
      deliveryInbox :=
        forall_mem_append (fun _ => id) keys.deliveryInbox
          (by
            intro d mem
            obtain ⟨inboxId, target, rfl⟩ := mem_map.mp mem
            obtain ⟨g, _, i, here, home, id, gHome, gId, _⟩ := authorized inboxId target
            exact mem_map.mpr ⟨i, here, Prod.ext (home.trans gHome) (id.trans gId)⟩)
    }
  | readStamped =>
    exact {
      keys with
      deliveries := keys.deliveries.updateWhere (fun _ _ => rfl)
      deliveryMessage := forall_mem_updateWhere (fun _ _ => rfl) keys.deliveryMessage
      deliveryInbox := forall_mem_updateWhere (fun _ _ => rfl) keys.deliveryInbox
    }
  | ackStamped =>
    exact {
      keys with
      deliveries := keys.deliveries.updateWhere (fun _ _ => rfl)
      deliveryMessage := forall_mem_updateWhere (fun _ _ => rfl) keys.deliveryMessage
      deliveryInbox := forall_mem_updateWhere (fun _ _ => rfl) keys.deliveryInbox
    }

/-- The moves of the outside world change no column that a key or a reference uses. -/
theorem Keys.disturb {w : World} (keys : Keys w.db) (event : Disturbance)
    : Keys (World.disturb event w).db := by
  have inboxesKept {p : InboxRow → Bool} {status : InboxStatus}
      : (updateWhere p ({ · with status }) w.db.inboxes).map InboxRow.key
        = w.db.inboxes.map InboxRow.key :=
    map_updateWhere (fun _ _ => rfl)
  have homesKept {p : HomeRow → Bool} {status : HomeStatus}
      : (updateWhere p ({ · with status }) w.db.homes).map HomeRow.homeId
        = w.db.homes.map HomeRow.homeId :=
    map_updateWhere (fun _ _ => rfl)
  cases event with
  | tick by_ => exact keys
  | bucket failing => exact keys
  | setInboxStatus homeId inboxId status =>
    exact {
      keys with
      inboxes := keys.inboxes.updateWhere (fun _ _ => rfl)
      grantInbox := fun g mem => inboxesKept ▸ keys.grantInbox g mem
      deliveryInbox := fun d mem => inboxesKept ▸ keys.deliveryInbox d mem
    }
  | setHomeStatus homeId status =>
    exact {
      keys with
      homes := keys.homes.updateWhere (fun _ _ => rfl)
      connectionHome := fun c mem => homesKept ▸ keys.connectionHome c mem
    }

theorem Keys.empty : Keys Database.empty where
  homes := nil
  connections := nil
  inboxes := nil
  grants := nil
  messages := nil
  deliveries := nil
  connectionHome := by simp [Database.empty]
  grantInbox := by simp [Database.empty]
  deliveryMessage := by simp [Database.empty]
  deliveryInbox := by simp [Database.empty]

/-- An update aimed at one connection leaves every Home an admin, if it keeps that
connection an active admin or the Home has two of them.
Witness: of two active admins the update can match only one.
-/
theorem Administered.update {db : Database} (keys : Keys db) (admins : Administered db)
    {p : ConnectionRow → Bool} {f : ConnectionRow → ConnectionRow} {homeId target : Text}
    (aimed : ∀ row, p row = true → row.homeId = homeId ∧ row.connectionId = target)
    (sameHome : ∀ row, (f row).homeId = row.homeId)
    (safe
      : ∀ row, p row = true → row.role = .admin
        → ((f row).status = .active ∧ (f row).role = .admin)
          ∨ 1 < (db.activeAdmins homeId).length)
    : Administered { db with connections := updateWhere p f db.connections } := by
  intro h mem
  obtain ⟨c, here, home, active, admin⟩ := admins h mem
  by_cases hit : p c = true
  · rcases safe c hit admin with ⟨stillActive, stillAdmin⟩ | two
    · refine ⟨f c, mem_updateWhere.mpr ⟨c, here, by rw [if_pos hit]⟩, ?_⟩
      exact ⟨(sameHome c).trans home, stillActive, stillAdmin⟩
    · obtain ⟨other, otherPresent, otherAdmin, unmatched⟩ :=
        exists_unmatched_of_two keys.connections
          (fun row _ rowMatched => (aimed row rowMatched).2) two
      simp only [and_eq_true, beq_iff_eq] at otherAdmin
      refine ⟨other, mem_updateWhere.mpr ⟨other, otherPresent, by simp [unmatched]⟩, ?_⟩
      exact ⟨otherAdmin.1.1.trans ((aimed c hit).1.symm.trans home), otherAdmin.1.2,
        otherAdmin.2⟩
  · exact ⟨c, mem_updateWhere.mpr ⟨c, here, by simp [hit]⟩, home, active, admin⟩

/-- No command takes a Home's last active admin.
Witness: only a role change and a revocation touch an admin, and both count admins in the
same statement.
-/
theorem Administered.effect {db db' : Database} {command : Command} (keys : Keys db)
    (admins : Administered db) (effect : Effect db command db')
    : Administered db' := by
  have grown {added : List ConnectionRow} {h : HomeRow} (mem : h ∈ db.homes)
      : ∃ c ∈ db.connections ++ added,
          c.homeId = h.homeId ∧ c.status = .active ∧ c.role = .admin := by
    obtain ⟨c, here, admin⟩ := admins h mem
    exact ⟨c, mem_append_left _ here, admin⟩
  cases effect with
  | homeCreated =>
    intro h mem
    rcases mem_append.mp mem with old | new
    · exact grown old
    · cases mem_singleton.mp new
      exact ⟨_, mem_append_right _ (mem_singleton_self _), rfl, rfl, rfl⟩
  | attached => exact fun h mem => grown mem
  | @roleSet role target actor =>
    have matches_ {row : ConnectionRow} (h : db.roleMatches role target actor row = true)
        : row.homeId = actor.homeId ∧ row.connectionId = target ∧ row.status = .active
          ∧ (role = .admin ∨ row.role ≠ .admin
            ∨ 1 < (db.activeAdmins actor.homeId).length) := by
      simp only [roleMatches, and_eq_true, or_eq_true, beq_iff_eq,
        bne_iff_ne, decide_eq_true_eq] at h
      refine ⟨h.1.1.1.1, h.1.1.1.2, h.1.1.2, ?_⟩
      rcases h.2 with (demoting | notAdmin) | two
      · cases role with
        | admin => exact .inl rfl
        | member => exact absurd rfl demoting
      · exact .inr (.inl notAdmin)
      · exact .inr (.inr two)
    refine Administered.update keys admins
      (fun row h => ⟨(matches_ h).1, (matches_ h).2.1⟩) (fun _ => rfl) (fun row h admin => ?_)
    obtain ⟨_, _, active, promoting | notAdmin | two⟩ := matches_ h
    · exact .inl ⟨active, promoting⟩
    · exact absurd admin notAdmin
    · exact .inr two
  | @connectionRevoked stamp target actor =>
    have matches_ {row : ConnectionRow} (h : db.revokeMatches target actor row = true)
        : row.homeId = actor.homeId ∧ row.connectionId = target
          ∧ (row.role ≠ .admin ∨ 1 < (db.activeAdmins actor.homeId).length) := by
      simp only [revokeMatches, and_eq_true, or_eq_true, beq_iff_eq,
        bne_iff_ne, decide_eq_true_eq] at h
      exact ⟨h.1.1.1.1, h.1.1.1.2, h.2⟩
    refine Administered.update keys admins
      (fun row h => ⟨(matches_ h).1, (matches_ h).2.1⟩) (fun _ => rfl) (fun row h admin => ?_)
    rcases (matches_ h).2.2 with notAdmin | two
    · exact absurd admin notAdmin
    · exact .inr two
  | _ => exact admins

/-- The moves of the outside world touch no connection. -/
theorem Administered.disturb {w : World} (admins : Administered w.db) (event : Disturbance)
    : Administered (World.disturb event w).db := by
  cases event with
  | setHomeStatus homeId status =>
    intro h mem
    obtain ⟨old, here, rfl⟩ := mem_updateWhere.mp mem
    obtain ⟨c, connected, home, admin⟩ := admins old here
    refine ⟨c, connected, ?_, admin⟩
    split <;> exact home
  | _ => exact admins

variable (store : D1Store.StoreConfig) (clock : Time) (mints : Nat → Text) (r2 : Option Bucket)

/-- The Worker before its first call. -/
def World.fresh : World where
  db := .empty
  clock := clock
  mints := mints
  r2 := r2

/-- All calls and the Worker after a schedule, from an empty database. -/
def D1Store.reached (schedule : List (Action machine Call))
    : Config machine Call Failure (Answer Time) :=
  (Config.init (World.fresh clock mints r2)).run (D1Store.body store) schedule

/-- Calls issued one after the other, each given more steps than it takes. -/
def callsInTurn (calls : List Call) : List (Action machine Call) :=
  calls.zipIdx.flatMap (fun (call, thread) => .spawn call :: List.replicate 60 (.step thread))

/-- A Home with a shared inbox, made by the admin of the sample account. -/
def Sample.homeCalls : List Call :=
  [.ensureDefaultHome (Sample.scope "1111" "admin"),
    .createInbox (Sample.scope "1111" "admin") Sample.sharedInbox .undefined]

def Sample.send (body : String) : Call :=
  .send (Sample.scope "1111" "admin") (Sample.message "msg-0001" body) .undefined

def Sample.ack : Call :=
  .ack (Sample.scope "1111" "admin") (Sample.ackOf "msg-0001") .undefined

def Sample.reached (schedule : List (Action machine Call))
    : Config machine Call Failure (Answer Time) :=
  D1Store.reached ⟨Sample.sha256Hex, 1⟩ 0 (fun _ => Sample.homeId) none schedule

theorem keys_reached (schedule : List (Action machine Call))
    : Keys (D1Store.reached store clock mints r2 schedule).state.db :=
  Config.run_state_induction (D1Store.body store) (.init (fresh clock mints r2))
    (fun w : World => Keys w.db) (fun w command keys => keys.effect (w.exec_effect command))
    (fun _ event keys => keys.disturb event) Keys.empty schedule

/-- However the calls interleave, every Home has an active admin at every instant.
Witness: keys and admins are kept by every effect a command can have.
-/
theorem homeKeepsActiveAdmin (schedule : List (Action machine Call))
    : Administered (D1Store.reached store clock mints r2 schedule).state.db := by
  have start
      : Keys (fresh clock mints r2).db ∧ Administered (fresh clock mints r2).db :=
    ⟨Keys.empty, by simp [Administered, fresh, empty]⟩
  have both :=
    Config.run_state_induction (D1Store.body store) (.init (fresh clock mints r2))
      (fun w : World => Keys w.db ∧ Administered w.db)
      (fun w command holds =>
        ⟨holds.1.effect (w.exec_effect command),
          Administered.effect holds.1 holds.2 (w.exec_effect command)⟩)
      (fun _ event holds => ⟨holds.1.disturb event, holds.2.disturb event⟩) start schedule
  exact both.2

end CairnStone.PrivateRealm
