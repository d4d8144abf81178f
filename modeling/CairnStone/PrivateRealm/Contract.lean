import CairnStone.Concurrency.Protocol
import CairnStone.PrivateRealm.Confinement
import CairnStone.PrivateRealm.Growth

/-! The agreement between concurrent store calls: what each call promises about the commands
it issues, and what all of them may rely on.
-/

namespace CairnStone.PrivateRealm

open JavaScript Data Concurrency D1Store List Database World

variable {db db' : Database} {store : StoreConfig} {command : Command} {h : History machine}

structure Registered (db : Database) (scope : HomeScope) (homeId : Text) : Prop where
  connection
    : ∃ c ∈ db.connections, c.identity = (scope.connectionId, homeId, scope.principalId)
  home : ∃ h ∈ db.homes, h.identity = (homeId, scope.accountId, scope.tenantId)

def Unrevoked (db : Database) (connectionId : Text) : Prop :=
  ∀ c ∈ db.connections, c.connectionId = connectionId → c.status ≠ .revoked

def Reachable (db : Database) (homeId inboxId connectionId : Text) : Prop :=
  ∃ i ∈ db.inboxes, i.key = (homeId, inboxId)
    ∧ (i.scope ≠ .connection ∨ i.ownerConnectionId = some connectionId)

theorem Registered.grows {scope : HomeScope} {homeId : Text}
    (registered : Registered db scope homeId) (grows : Grows db db')
    : Registered db' scope homeId where
  connection := by
    obtain ⟨c, mem, identity⟩ := registered.connection
    obtain ⟨c', mem', same, _⟩ := grows.connections c mem
    exact ⟨c', mem', same.trans identity⟩
  home := by
    obtain ⟨h, mem, identity⟩ := registered.home
    obtain ⟨h', mem', same⟩ := grows.homes h mem
    exact ⟨h', mem', same.trans identity⟩

/-- Who is unrevoked now was unrevoked before, because revocation is final. -/
theorem Unrevoked.of_grows {connectionId : Text} (unrevoked : Unrevoked db' connectionId)
    (grows : Grows db db')
    : Unrevoked db connectionId := by
  intro c mem id revoked
  obtain ⟨c', mem', same, kept⟩ := grows.connections c mem
  have sameId : c'.connectionId = c.connectionId := congrArg Prod.fst same
  exact unrevoked c' mem' (sameId.trans id) (kept revoked)

theorem Reachable.grows {homeId inboxId connectionId : Text}
    (reachable : Reachable db homeId inboxId connectionId) (grows : Grows db db')
    : Reachable db' homeId inboxId connectionId := by
  obtain ⟨i, mem, key, reach⟩ := reachable
  obtain ⟨i', mem', same⟩ := grows.inboxes i mem
  simp only [InboxRow.identity, Prod.mk.injEq] at same
  obtain ⟨sameKey, scope, _, owner⟩ := same
  exact ⟨i', mem', sameKey.trans key, by rwa [scope, owner]⟩

def Call.Speaks (call : Call) (scope : HomeScope) : Prop :=
  assertHomeScope call.scope = .ok scope

/-- A message batch that carries out the request of a `send` call. -/
structure CarriesOut (store : StoreConfig) (call : Call) (message : MessageRow)
    (targets : List Text) (scope : HomeScope) (request : SendRequest) (db : Database)
    : Prop where
  asked : ∃ scopeIn opts selector, call = .send scopeIn opts selector
    ∧ parseSend opts = .ok request
  speaks : call.Speaks scope
  registered : Registered db scope message.homeId
  full : request.sparse = false
  messageId : message.messageId = request.messageId
  threadId : message.threadId = request.thread
  senderInboxId : request.fromInboxId = .string message.senderInboxId
  senderConnectionId : message.senderConnectionId = scope.connectionId
  bodySha256 : message.bodySha256 = store.sha256Hex request.body
  targets : targets = request.recipients

variable {call : Call}

theorem CarriesOut.grows {message : MessageRow} {targets : List Text} {scope : HomeScope}
    {request : SendRequest}
    (carriesOut : CarriesOut store call message targets scope request db)
    (grows : Grows db db')
    : CarriesOut store call message targets scope request db' :=
  { carriesOut with registered := carriesOut.registered.grows grows }

structure OwnStamp (call : Call) (stamp : Time) (actor : ConnGuard) (grant : GrantGuard)
    (capability : Capability) (w : World)
    : Prop where
  speaks : call.Speaks actor.scope
  home : grant.homeId = actor.homeId
  connection : grant.connectionId = actor.scope.connectionId
  capability : grant.capability = capability
  past : stamp ≤ w.clock

/-- What thread `t` serving `call` promises about a command at the instant it issues it. -/
def Promise (store : StoreConfig) (t : Nat) (call : Call) (command : Command)
    (h : History machine)
    : Prop :=
  let w : World := h.state
  match command with
  | .createHome _ scope _ => call.Speaks scope
  | .attachConnection _ scope _ => call.Speaks scope
  | .setRole _ _ actor => call.Speaks actor.scope ∧ actor.admin = true
  | .revokeConnection _ target actor =>
    call.Speaks actor.scope ∧ (actor.admin = true ∨ target = actor.scope.connectionId)
  | .createInbox row _ actor =>
    call.Speaks actor.scope ∧ command.WellAddressed
    ∧ (row.scope ≠ .connection → actor.admin = true)
  | .upsertGrant row actor =>
    call.Speaks actor.scope ∧ actor.admin = true ∧ row.homeId = actor.homeId
  | .revokeGrant _ _ _ actor => call.Speaks actor.scope ∧ actor.admin = true
  | .deliver message targets =>
    message.createdAt ≤ w.clock
    ∧ ∃ scope request, CarriesOut store call message targets scope request w.db
  | .stampRead stamp messageIds actor grant =>
    OwnStamp call stamp actor grant .read w
    ∧ ∀ d ∈ w.db.deliveries, d.inboxKey = (grant.homeId, grant.inboxId)
        → d.messageId ∈ messageIds → d.deliveredAt ≤ stamp
  | .stampAck stamp _ actor grant =>
    OwnStamp call stamp actor grant .ack w
    ∧ ∃ earlier before, h.own t = ⟨t, .now, before⟩ :: earlier ∧ before.clock = stamp
  | _ => True

theorem Promise.wellAddressed {t : Nat} (promise : Promise store t call command h)
    : command.WellAddressed := by
  cases command with
  | createInbox row grantToCreator actor => exact promise.2.1
  | _ => trivial

structure Inserts (issued : Issued machine) (message : MessageRow)
    (targets : List Text)
    : Prop where
  command : issued.command = .deliver message targets
  fresh : message.key ∉ issued.before.db.messages.map MessageRow.key
  inserted : message ∈ (World.exec issued.command issued.before).2.db.messages

structure Recorded (h : History machine) : Prop where
  origin
    : ∀ m ∈ h.state.db.messages, ∃ issued ∈ h.log, ∃ targets, Inserts issued m targets
        ∧ ∀ inboxId,
            (∃ d ∈ h.state.db.deliveries, d.messageKey = m.key ∧ d.inboxId = inboxId)
              ↔ inboxId ∈ targets
  stored
    : ∀ issued ∈ h.log, ∀ {m targets}, Inserts issued m targets → m ∈ h.state.db.messages
  once
    : ∀ i ∈ h.log, ∀ i' ∈ h.log, ∀ {m targets m' targets'}, Inserts i m targets
        → Inserts i' m' targets' → m.key = m'.key → i.thread = i'.thread

def Past (w : World) : Prop :=
  ∀ d ∈ w.db.deliveries, d.deliveredAt ≤ w.clock

structure Lawful (h : History machine) : Prop where
  keys : Keys h.state.db
  confined : Confined h.state.db
  recorded : Recorded h
  past : Past h.state
  grown : ∀ issued ∈ h.log, Grows issued.before.db h.state.db

structure Continues (h h' : History machine) : Prop where
  db : Grows h.state.db h'.state.db
  clock : h.state.clock ≤ h'.state.clock
  log : h.log <:+ h'.log

/-- A stored message is an old one or the one that a successful batch has just inserted. -/
theorem Effect.messages (effect : Effect db command db') {m : MessageRow}
    (mem : m ∈ db'.messages)
    : m ∈ db.messages
      ∨ ∃ targets, command = .deliver m targets
        ∧ m.key ∉ db.messages.map MessageRow.key
        ∧ db'.deliveries = db.deliveries ++ targets.map (newDelivery m) := by
  cases effect with
  | @delivered message targets sender fresh authorized freshDeliveries nodup =>
    rcases mem_append.mp mem with old | new
    · exact .inl old
    · cases mem_singleton.mp new
      refine .inr ⟨targets, rfl, fun known => ?_, rfl⟩
      obtain ⟨old, stored, same⟩ := mem_map.mp known
      exact fresh old stored same
  | _ => exact .inl mem

theorem Grows.deliveredInto_iff (grows : Grows db db') {m : MessageRow}
    (stored : m ∈ db.messages) (inboxId : Text)
    : (∃ d ∈ db'.deliveries, d.messageKey = m.key ∧ d.inboxId = inboxId)
      ↔ ∃ d ∈ db.deliveries, d.messageKey = m.key ∧ d.inboxId = inboxId := by
  have sameInbox {d d' : DeliveryRow} (evolves : d.Evolves d') : d'.inboxId = d.inboxId := by
    have key := evolves.key
    simp only [DeliveryRow.key, Prod.mk.injEq] at key
    exact key.2.2
  constructor
  · rintro ⟨d', mem, ofMessage, into⟩
    obtain ⟨d, old, evolves⟩ :=
      grows.delivered d' mem (mem_map.mpr ⟨m, stored, ofMessage.symm⟩)
    exact ⟨d, old, evolves.messageKey.symm.trans ofMessage, (sameInbox evolves).symm.trans into⟩
  · rintro ⟨d, mem, ofMessage, into⟩
    obtain ⟨d', new, evolves⟩ := grows.deliveries d mem
    exact ⟨d', new, evolves.messageKey.trans ofMessage, (sameInbox evolves).trans into⟩

/-- A command keeps the record of the messages.
Witness: an old message keeps its deliveries; a new one has exactly those of its batch,
because no delivery refers to a message before it is there, and no batch inserts twice.
-/
theorem Recorded.exec (keys : Keys h.state.db) (recorded : Recorded h) (t : Nat)
    (command : Command)
    : Recorded (h.exec t command) := by
  have effect : Effect h.state.db command (h.exec t command).state.db :=
    exec_effect h.state command
  have grows := Grows.effect effect
  have newer {i : Issued machine} {m m' : MessageRow} {targets targets' : List Text}
      (old : i ∈ h.log) (inserted : Inserts i m targets)
      (now : Inserts ⟨t, command, h.state⟩ m' targets')
      : m.key ≠ m'.key := by
    intro same
    exact now.fresh (mem_map.mpr ⟨m, recorded.stored i old inserted, same⟩)
  refine ⟨fun m mem => ?_, fun issued noted m targets adds => ?_,
    fun i noted i' logged' m targets m' targets' adds inserts' same => ?_⟩
  · rcases effect.messages mem with old | ⟨targets, rfl, fresh, deliveries⟩
    · obtain ⟨issued, noted, targets, adds, into⟩ := recorded.origin m old
      exact ⟨issued, .tail _ noted, targets, adds,
        fun inboxId => (grows.deliveredInto_iff old inboxId).trans (into inboxId)⟩
    · refine ⟨_, .head _, targets, ⟨rfl, fresh, mem⟩, fun inboxId => ?_⟩
      rw [deliveries]
      constructor
      · rintro ⟨d, delivered, ofMessage, rfl⟩
        rcases mem_append.mp delivered with prior | now
        · exact absurd (ofMessage ▸ keys.deliveryMessage d prior) fresh
        · obtain ⟨target, asked, rfl⟩ := mem_map.mp now
          exact asked
      · intro asked
        exact ⟨newDelivery m inboxId,
          mem_append_right _ (mem_map_of_mem asked), rfl, rfl⟩
  · rcases mem_cons.mp noted with rfl | old
    · exact adds.inserted
    · exact grows.messages m (recorded.stored issued old adds)
  · rcases mem_cons.mp noted with rfl | old <;>
      rcases mem_cons.mp logged' with rfl | old'
    · rfl
    · exact absurd same.symm (newer old' inserts' adds)
    · exact absurd same (newer old adds inserts')
    · exact recorded.once i old i' old' adds inserts' same

theorem Recorded.disturb (recorded : Recorded h) (event : Disturbance)
    : Recorded (h.disturb event) := by
  have messages : (h.disturb event).state.db.messages = h.state.db.messages := by
    cases event <;> rfl
  have grows : Grows h.state.db (h.disturb event).state.db := Grows.disturb h.state event
  refine ⟨fun m mem => ?_, fun issued noted m targets adds => ?_, recorded.once⟩
  · rw [messages] at mem
    obtain ⟨issued, noted, targets, inserted, into⟩ := recorded.origin m mem
    exact ⟨issued, noted, targets, inserted,
      fun inboxId => (grows.deliveredInto_iff mem inboxId).trans (into inboxId)⟩
  · rw [messages]
    exact recorded.stored issued noted adds

theorem World.clock_exec (w : World) (command : Command)
    : (w.exec command).2.clock = w.clock := by
  have committed {α : Type} (res : Except SqlError (α × Database))
      : (w.commit res).2.clock = w.clock := by
    cases res <;> rfl
  cases command with
  | now => rfl
  | mintId kind bytes => rfl
  | putBody key body =>
    simp only [exec, putBody]
    split
    · split <;> rfl
    · rfl
  | audit row => rfl
  | _ => exact committed _

theorem World.clock_disturb (w : World) (event : Disturbance)
    : w.clock ≤ (World.disturb event w).clock := by
  cases event with
  | tick by_ => exact Nat.le_add_right _ _
  | _ => exact Nat.le_refl _

/-- A delivery's own stamp is an old one or the stamp of the batch that inserted it. -/
theorem Effect.deliveredAt (effect : Effect db command db') {d' : DeliveryRow}
    (mem : d' ∈ db'.deliveries)
    : (∃ d ∈ db.deliveries, d'.deliveredAt = d.deliveredAt)
      ∨ ∃ message targets, command = .deliver message targets
        ∧ d'.deliveredAt = message.createdAt := by
  cases effect with
  | @delivered message targets sender fresh authorized freshDeliveries nodup =>
    rcases mem_append.mp mem with old | new
    · exact .inl ⟨d', old, rfl⟩
    · obtain ⟨inboxId, _, rfl⟩ := mem_map.mp new
      exact .inr ⟨message, targets, rfl, rfl⟩
  | readStamped =>
    obtain ⟨d, old, rfl⟩ := mem_updateWhere.mp mem
    refine .inl ⟨d, old, ?_⟩
    split <;> rfl
  | ackStamped =>
    obtain ⟨d, old, rfl⟩ := mem_updateWhere.mp mem
    refine .inl ⟨d, old, ?_⟩
    split <;> rfl
  | _ => exact .inl ⟨d', mem, rfl⟩

/-- No command delivers into the future: a batch carries a past clock reading. -/
theorem Past.exec {t : Nat} (past : Past h.state) (promise : Promise store t call command h)
    : Past (h.exec t command).state := by
  intro d' mem
  have clock : (h.exec t command).state.clock = h.state.clock :=
    clock_exec h.state command
  rw [clock]
  have effect : Effect h.state.db command (h.exec t command).state.db :=
    exec_effect h.state command
  rcases effect.deliveredAt mem with ⟨d, old, same⟩ | ⟨message, targets, rfl, stamp⟩
  · exact same.le.trans (past d old)
  · exact stamp.le.trans promise.1

theorem Past.disturb {w : World} (past : Past w) (event : Disturbance)
    : Past (World.disturb event w) := by
  have deliveries : (World.disturb event w).db.deliveries = w.db.deliveries := by
    cases event <;> rfl
  intro d mem
  rw [deliveries] at mem
  exact (past d mem).trans (w.clock_disturb event)

def contract (store : StoreConfig) : Protocol machine Call where
  inv := Lawful
  le := Continues
  pre := Promise store
  refl h := ⟨.refl _, Nat.le_refl _, List.suffix_rfl⟩
  trans first second :=
    ⟨first.db.trans second.db, Nat.le_trans first.clock second.clock,
      first.log.trans second.log⟩
  exec_inv {h t _ c} inv pre := by
    have effect : Effect h.state.db c (h.exec t c).state.db := World.exec_effect h.state c
    refine ⟨inv.keys.effect effect, .effect inv.keys inv.confined pre.wellAddressed effect,
      inv.recorded.exec inv.keys t c, inv.past.exec pre, fun issued logged => ?_⟩
    rcases List.mem_cons.mp logged with rfl | old
    · exact .effect effect
    · exact (inv.grown issued old).trans (.effect effect)
  exec_le {h _ _ c} _ _ :=
    ⟨.effect (World.exec_effect h.state c), Nat.le_of_eq (World.clock_exec h.state c).symm,
      List.suffix_cons _ _⟩
  disturb_inv {h} e inv :=
    ⟨Keys.disturb (w := h.state) inv.keys e, Confined.disturb (w := h.state) inv.confined e,
      inv.recorded.disturb e, Past.disturb (w := h.state) inv.past e,
      fun issued logged => (inv.grown issued logged).trans (.disturb h.state e)⟩
  disturb_le {h} e _ :=
    ⟨.disturb h.state e, World.clock_disturb h.state e, List.suffix_rfl⟩

theorem lawful_fresh (clock : Time) (mints : Nat → Text) (r2 : Option Bucket)
    : Lawful ⟨fresh clock mints r2, []⟩ where
  keys := Keys.empty
  confined := Confined.empty
  recorded :=
    ⟨by simp [fresh, empty], fun _ noted => absurd noted not_mem_nil,
      fun _ noted => absurd noted not_mem_nil⟩
  past := by simp [Past, fresh, empty]
  grown := fun _ noted => absurd noted not_mem_nil

end CairnStone.PrivateRealm
