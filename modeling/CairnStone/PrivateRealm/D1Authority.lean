import CairnStone.PrivateRealm.D1Send

/-! What every interleaving of calls of the D1 store guarantees. -/

namespace CairnStone.PrivateRealm.D1Store

open JavaScript Data Concurrency List Bool Database DeliveryRow

def AnswerWorth (store : StoreConfig) (t : Nat) (call : Call) (start : World)
    (answer : Except Failure (Answer Time)) (h : History machine)
    : Prop :=
  match call with
  | .can scope inboxId _ _ => AnswersReader scope inboxId start.db answer h
  | .listInbox scope opts _ =>
    AnswersReader scope (opts.get (text "inboxId")) start.db answer h
  | .readInbox scope opts _ =>
    AnswersReader scope (opts.get (text "inboxId")) start.db answer h
  | .ack scope opts _ => AnswersReader scope (opts.get (text "inboxId")) start.db answer h
  | .send scope opts selector =>
    SendAnswer store t call scope opts selector start.db answer h
  | _ => AnswersCaller call.scope start.db answer h

/-- Every call keeps the contract. Witness: one obligation for each method. -/
theorem owes_body (store : StoreConfig) (t : Nat) (call : Call) (h : History machine)
    (unlogged : h.own t = [])
    : Obliged store t call (body store call) (AnswerWorth store t call h.state) h := by
  cases call with
  | ensureDefaultHome scope => exact owes_ensureDefaultHome rfl
  | resolveHome scope selector => exact owes_resolveHome
  | setConnectionRole scope target role selector => exact owes_setConnectionRole rfl
  | revokeConnection scope target selector => exact owes_revokeConnection rfl
  | createInbox scope opts selector => exact owes_createInbox rfl
  | listInboxes scope selector => exact owes_listInboxes
  | grantInbox scope opts selector => exact owes_grantInbox rfl
  | revokeGrant scope opts selector => exact owes_revokeGrant rfl
  | can scope inboxId capability selector => exact owes_can
  | send scope opts selector => exact owes_send rfl unlogged
  | listInbox scope opts selector => exact owes_listInbox
  | readInbox scope opts selector => exact owes_readInbox rfl
  | ack scope opts selector => exact owes_ack rfl

variable (store : StoreConfig) (clock : Time) (mints : Nat → Text) (r2 : Option Bucket)

theorem sound_reached (schedule : List (Action machine Call))
    : (contract store).Sound (AnswerWorth store) (reached store clock mints r2 schedule) :=
  Protocol.sound (fun t call h _ unlogged => owes_body store t call h unlogged)
    (lawful_fresh clock mints r2) schedule

theorem promised_reached (schedule : List (Action machine Call))
    : ∀ issued ∈ (reached store clock mints r2 schedule).history.log,
        (contract store).Promised (reached store clock mints r2 schedule) issued :=
  Protocol.logged_promised (fun t call h _ unlogged => owes_body store t call h unlogged)
    (lawful_fresh clock mints r2) schedule

def Untouched (before after : Database) : Prop :=
  { after with audit := before.audit } = before

/-- Everything that differs between two states was written on behalf of a scope whose
authority was live in the first of them.
-/
structure WrittenBy (scope : HomeScope) (before after : Database) : Prop where
  messages
    : ∀ m ∈ after.messages, m ∉ before.messages
      → before.ConnGuarded ⟨m.homeId, scope, false⟩
        ∧ m.senderConnectionId = scope.connectionId
        ∧ before.GrantGuarded ⟨m.homeId, m.senderInboxId, scope.connectionId, .send⟩
        ∧ ∀ d ∈ after.deliveries, d.messageKey = m.key
            → before.GrantGuarded ⟨d.homeId, d.inboxId, scope.connectionId, .send⟩
  deliveries
    : ∀ d ∈ after.deliveries, d.key ∉ before.deliveries.map DeliveryRow.key
      → before.ConnGuarded ⟨d.homeId, scope, false⟩
        ∧ before.GrantGuarded ⟨d.homeId, d.inboxId, scope.connectionId, .send⟩
  readStamps
    : ∀ d ∈ before.deliveries, ∀ d' ∈ after.deliveries, d'.key = d.key
      → d'.readAt ≠ d.readAt
      → before.ConnGuarded ⟨d.homeId, scope, false⟩
        ∧ (before.GrantGuarded ⟨d.homeId, d.inboxId, scope.connectionId, .read⟩
          ∨ (d'.ackedAt ≠ d.ackedAt
            ∧ before.GrantGuarded ⟨d.homeId, d.inboxId, scope.connectionId, .ack⟩))
  ackStamps
    : ∀ d ∈ before.deliveries, ∀ d' ∈ after.deliveries, d'.key = d.key
      → d'.ackedAt ≠ d.ackedAt
      → before.ConnGuarded ⟨d.homeId, scope, false⟩
        ∧ before.GrantGuarded ⟨d.homeId, d.inboxId, scope.connectionId, .ack⟩
  inboxes
    : ∀ i ∈ after.inboxes, i ∉ before.inboxes
      → (i.scope ≠ .connection → before.ConnGuarded ⟨i.homeId, scope, true⟩)
        ∧ (i.scope = .connection
          → before.ConnGuarded ⟨i.homeId, scope, false⟩
            ∧ i.ownerConnectionId = some scope.connectionId)
  grants
    : ∀ g ∈ after.grants, g ∉ before.grants
      → before.ConnGuarded ⟨g.homeId, scope, true⟩
        ∨ (before.ConnGuarded ⟨g.homeId, scope, false⟩
          ∧ g.connectionId = scope.connectionId
          ∧ (g.revokedAt ≠ none
            ∨ ∃ i ∈ after.inboxes, i ∉ before.inboxes ∧ i.key = g.inboxKey
              ∧ i.ownerConnectionId = some scope.connectionId))
  roles
    : ∀ c ∈ before.connections, ∀ c' ∈ after.connections,
        c'.connectionId = c.connectionId → c'.role ≠ c.role
      → before.ConnGuarded ⟨c.homeId, scope, true⟩
  revocations
    : ∀ c ∈ before.connections, ∀ c' ∈ after.connections,
        c'.connectionId = c.connectionId → c'.status ≠ c.status
      → before.ConnGuarded ⟨c.homeId, scope, c.connectionId != scope.connectionId⟩

/-- A guard that does not ask for the admin role follows from one that does. -/
theorem connGuarded_of_le {db : Database} {homeId : Text} {scope : HomeScope}
    {admin admin' : Bool} (safe : db.ConnGuarded ⟨homeId, scope, admin⟩)
    (le : admin' = true → admin = true)
    : db.ConnGuarded ⟨homeId, scope, admin'⟩ := by
  obtain ⟨gc, connected, gh, homed, h1, h2, h3, h4, h5, h6, h7, h8, role⟩ := safe
  exact ⟨gc, connected, gh, homed, h1, h2, h3, h4, h5, h6, h7, h8, fun on => role (le on)⟩

/-- An active member that is registered under a scope satisfies the scope's guard.
Witness: ids name one connection and one Home.
-/
theorem connGuarded_of_activeMember {db : Database} (keys : Keys db) {homeId : Text}
    {scope : HomeScope} (registered : Registered db scope homeId)
    (mem : db.ActiveMember homeId scope.connectionId)
    : db.ConnGuarded ⟨homeId, scope, false⟩ := by
  obtain ⟨c, connected, h, homed, ofHome, home, id, active, homeActive⟩ := mem
  obtain ⟨c', connected', identity⟩ := registered.connection
  obtain ⟨h', homed', homeIdentity⟩ := registered.home
  simp only [ConnectionRow.identity, HomeRow.identity, Prod.mk.injEq] at identity homeIdentity
  cases keys.connections.eq_of_key connected connected' (id.trans identity.1.symm)
  obtain rfl :=
    keys.homes.eq_of_key homed homed' ((ofHome.trans home).trans homeIdentity.1.symm)
  exact ⟨c, connected, h, homed, ofHome, home, id, identity.2.2, active, homeActive,
    homeIdentity.2.1, homeIdentity.2.2, fun on => by cases on⟩

namespace WrittenBy

variable {scope : HomeScope} {db : Database}
  {homeId : Text}

/-- Where nothing changed nothing needed authority. -/
theorem refl (keys : Keys db) : WrittenBy scope db db where
  messages := fun _ mem new => absurd mem new
  deliveries := fun _ mem new => absurd (mem_map_of_mem mem) new
  readStamps := fun _ mem _ mem' same changed =>
    absurd (congrArg _ (keys.deliveries.eq_of_key mem' mem same)) changed
  ackStamps := fun _ mem _ mem' same changed =>
    absurd (congrArg _ (keys.deliveries.eq_of_key mem' mem same)) changed
  inboxes := fun _ mem new => absurd mem new
  grants := fun _ mem new => absurd mem new
  roles := fun _ mem _ mem' same changed =>
    absurd (congrArg _ (keys.connections.eq_of_key mem' mem same)) changed
  revocations := fun _ mem _ mem' same changed =>
    absurd (congrArg _ (keys.connections.eq_of_key mem' mem same)) changed

/-- A new connection changes no role and no status. -/
theorem connected (keys : Keys db) {row : ConnectionRow} {homes : List HomeRow}
    (fresh : ∀ old ∈ db.connections, old.connectionId ≠ row.connectionId)
    : WrittenBy scope db { db with homes, connections := db.connections ++ [row] } := by
  have kept {c c' : ConnectionRow} (mem : c ∈ db.connections)
      (mem' : c' ∈ db.connections ++ [row]) (same : c'.connectionId = c.connectionId)
      : c' = c := by
    rcases mem_append.mp mem' with old | new
    · exact keys.connections.eq_of_key old mem same
    · cases mem_singleton.mp new
      exact absurd same.symm (fresh c mem)
  exact {
    refl keys with
    roles := fun c mem c' mem' same changed =>
      absurd (congrArg _ (kept mem mem' same)) changed
    revocations := fun c mem c' mem' same changed =>
      absurd (congrArg _ (kept mem mem' same)) changed
  }

theorem granted (keys : Keys db) {grants : List GrantRow}
    (put
      : ∀ g ∈ grants, g ∉ db.grants → db.ConnGuarded ⟨g.homeId, scope, true⟩)
    : WrittenBy scope db { db with grants } :=
  { refl keys with grants := fun g mem new => .inl (put g mem new) }

/-- A role change is guarded by the admin role. -/
theorem roleSet (keys : Keys db) {role : HomeRole} {target : Text}
    : WrittenBy scope db (db.setRole role target ⟨homeId, scope, true⟩).2 := by
  have origin {c c' : ConnectionRow} (mem : c ∈ db.connections)
      (mem' : c' ∈ (db.setRole role target ⟨homeId, scope, true⟩).2.connections)
      (same : c'.connectionId = c.connectionId)
      : c'.status = c.status
        ∧ (c'.role = c.role ∨ (c.homeId = homeId ∧ db.ConnGuarded ⟨homeId, scope, true⟩)) := by
    obtain ⟨old, here, rfl⟩ := mem_updateWhere.mp mem'
    obtain rfl : old = c :=
      keys.connections.eq_of_key here mem (by split at same <;> exact same)
    split
    · rename_i matched
      simp only [roleMatches, and_eq_true, beq_iff_eq,
        decide_eq_true_eq] at matched
      exact ⟨rfl, .inr ⟨matched.1.1.1.1, matched.1.2⟩⟩
    · exact ⟨rfl, .inl rfl⟩
  exact {
    refl keys with
    roles := by
      intro c mem c' mem' same changed
      rcases (origin mem mem' same).2 with kept | ⟨home, safe⟩
      · exact absurd kept changed
      · rw [home]
        exact safe
    revocations := fun c mem c' mem' same changed =>
      absurd (origin mem mem' same).1 changed
  }

/-- A revocation is guarded by the admin role, unless it is aimed at its own caller.
Witness: grants are only revoked with a connection that was active, so with one that the
first statement matched.
-/
theorem connectionRevoked (keys : Keys db) (inside : Confined db) {stamp : Time}
    {target : Text} {admin : Bool} (allowed : admin = true ∨ target = scope.connectionId)
    : WrittenBy scope db (db.revokeConnection stamp target ⟨homeId, scope, admin⟩).2 := by
  have aimed {c : ConnectionRow}
      (matched : db.revokeMatches target ⟨homeId, scope, admin⟩ c = true)
      : c.homeId = homeId ∧ c.connectionId = target
        ∧ db.ConnGuarded ⟨homeId, scope, admin⟩ := by
    simp only [revokeMatches, and_eq_true, beq_iff_eq,
      decide_eq_true_eq] at matched
    exact ⟨matched.1.1.1.1, matched.1.1.1.2, matched.1.2⟩
  have origin {c c' : ConnectionRow} (mem : c ∈ db.connections)
      (mem' : c' ∈ (db.revokeConnection stamp target ⟨homeId, scope, admin⟩).2.connections)
      (same : c'.connectionId = c.connectionId)
      : c'.role = c.role
        ∧ (c'.status = c.status
          ∨ (c.homeId = homeId ∧ c.connectionId = target
            ∧ db.ConnGuarded ⟨homeId, scope, admin⟩)) := by
    obtain ⟨old, here, rfl⟩ := mem_updateWhere.mp mem'
    obtain rfl : old = c :=
      keys.connections.eq_of_key here mem (by split at same <;> exact same)
    split
    · rename_i matched
      exact ⟨rfl, .inr (aimed matched)⟩
    · exact ⟨rfl, .inl rfl⟩
  exact {
    refl keys with
    roles := fun c mem c' mem' same changed =>
      absurd (origin mem mem' same).1 changed
    revocations := by
      intro c mem c' mem' same changed
      rcases (origin mem mem' same).2 with kept | ⟨home, id, safe⟩
      · exact absurd kept changed
      · rw [home, id]
        refine connGuarded_of_le safe (fun other => ?_)
        rcases allowed with isAdmin | self
        · exact isAdmin
        · simp [self] at other
    grants := by
      intro g mem new
      obtain ⟨old, here, rfl⟩ := mem_updateWhere.mp mem
      split at new <;> rename_i matched
      · rw [if_pos matched]
        simp only [revokeGrantsMatches, and_eq_true, beq_iff_eq,
          decide_eq_true_eq] at matched
        obtain ⟨⟨⟨home, id⟩, live⟩, rc, marked, rcHome, rcId, revoked, _⟩ := matched
        obtain ⟨c, connected, cHome, cId, active⟩ := inside.liveGrant old here live
        obtain ⟨c0, present0, rfl⟩ := mem_updateWhere.mp marked
        obtain rfl : c0 = c := by
          refine keys.connections.eq_of_key present0 connected ?_
          rw [cId, id, ← rcId]
          split <;> rfl
        split at revoked
        · rename_i hit
          obtain ⟨_, _, safe⟩ := aimed hit
          rcases allowed with isAdmin | self
          · subst isAdmin
            exact .inl (by rw [home]; exact safe)
          · refine .inr ⟨?_, id.trans self, .inl (by simp)⟩
            rw [home]
            exact connGuarded_of_le safe (fun on => by cases on)
        · rw [active] at revoked
          cases revoked
      · exact absurd here new
  }

theorem inboxCreated (keys : Keys db) {row : InboxRow} {grantToCreator : Bool} {admin : Bool}
    (home : row.homeId = homeId)
    (owners : ∀ owner ∈ row.ownerConnectionId, owner = scope.connectionId)
    (shared : row.scope ≠ .connection → admin = true)
    (safe : db.ConnGuarded ⟨homeId, scope, admin⟩) (fine : row.check = true)
    (fresh : ∀ old ∈ db.inboxes, old.key ≠ row.key)
    : WrittenBy scope db
        { db with
          inboxes := db.inboxes ++ [row]
          grants := db.grants ++ inboxGrants row grantToCreator ⟨homeId, scope, admin⟩ } := by
  have mem : db.ConnGuarded ⟨homeId, scope, false⟩ :=
    connGuarded_of_le safe (fun on => by cases on)
  have asAdmin (notPrivate : row.scope ≠ .connection)
      : db.ConnGuarded ⟨homeId, scope, true⟩ :=
    connGuarded_of_le safe (fun _ => shared notPrivate)
  have owned (isPrivate : row.scope = .connection)
      : row.ownerConnectionId = some scope.connectionId := by
    obtain ⟨owner, some⟩ :=
      Option.isSome_iff_exists.mp ((InboxRow.owner_of_check fine).mp isPrivate)
    rw [some, owners owner some]
  exact {
    refl keys with
    inboxes := by
      intro i here new
      rcases mem_append.mp here with old | added
      · exact absurd old new
      · cases mem_singleton.mp added
        rw [home]
        exact ⟨asAdmin, fun isPrivate => ⟨mem, owned isPrivate⟩⟩
    grants := by
      intro g here new
      rcases mem_append.mp here with old | added
      · exact absurd old new
      · obtain ⟨gHome, holder⟩ := of_mem_inboxGrants added
        rw [gHome, home]
        by_cases isPrivate : row.scope = .connection
        · have owner := owned isPrivate
          refine .inr ⟨mem, ?_, .inr ⟨row, by simp, fun old => ?_, ?_, owner⟩⟩
          · rcases holder with held | ⟨none, _⟩
            · exact Option.some.inj (held.symm.trans owner)
            · rw [none] at owner
              cases owner
          · exact fresh row old rfl
          · exact (inboxKey_of_mem_inboxGrants added).symm
        · exact .inl (asAdmin isPrivate)
  }

theorem delivered (keys : Keys db) {message : MessageRow} {targets : List Text}
    (registered : Registered db scope message.homeId)
    (speaks : message.senderConnectionId = scope.connectionId)
    (sender : db.SenderAuthorized message)
    (fresh : ∀ old ∈ db.messages, old.key ≠ message.key)
    (authorized
      : ∀ inboxId ∈ targets,
          db.GrantGuarded ⟨message.homeId, inboxId, message.senderConnectionId, .send⟩)
    (freshDeliveries
      : ∀ inboxId ∈ targets, ∀ old ∈ db.deliveries,
          old.key ≠ (newDelivery message inboxId).key)
    : WrittenBy scope db
        { db with
          messages := db.messages ++ [message]
          deliveries := db.deliveries ++ targets.map (newDelivery message) } := by
  obtain ⟨active, granted⟩ := sender
  rw [speaks] at active granted
  have safe := connGuarded_of_activeMember keys registered active
  have target {d : DeliveryRow} (new : d ∈ targets.map (newDelivery message))
      : d.homeId = message.homeId
        ∧ db.GrantGuarded ⟨d.homeId, d.inboxId, scope.connectionId, .send⟩ := by
    obtain ⟨inboxId, asked, rfl⟩ := mem_map.mp new
    exact ⟨rfl, speaks ▸ authorized inboxId asked⟩
  have kept {d d' : DeliveryRow} (mem : d ∈ db.deliveries)
      (mem' : d' ∈ db.deliveries ++ targets.map (newDelivery message))
      (same : d'.key = d.key)
      : d' = d := by
    rcases mem_append.mp mem' with old | new
    · exact keys.deliveries.eq_of_key old mem same
    · obtain ⟨inboxId, asked, rfl⟩ := mem_map.mp new
      exact absurd same.symm (freshDeliveries inboxId asked d mem)
  exact {
    refl keys with
    messages := by
      intro m mem new
      rcases mem_append.mp mem with old | added
      · exact absurd old new
      · cases mem_singleton.mp added
        refine ⟨safe, speaks, granted, fun d delivery ofMessage => ?_⟩
        rcases mem_append.mp delivery with old | added
        · obtain ⟨known, stored, same⟩ := mem_map.mp (keys.deliveryMessage d old)
          exact absurd (same.trans ofMessage) (fresh known stored)
        · exact (target added).2
    deliveries := by
      intro d mem new
      rcases mem_append.mp mem with old | added
      · exact absurd (mem_map_of_mem old) new
      · obtain ⟨home, capability⟩ := target added
        rw [home] at capability ⊢
        exact ⟨safe, capability⟩
    readStamps := fun d mem d' mem' same changed =>
      absurd (congrArg _ (kept mem mem' same)) changed
    ackStamps := fun d mem d' mem' same changed =>
      absurd (congrArg _ (kept mem mem' same)) changed
  }

theorem stamped (keys : Keys db) {p : DeliveryRow → Bool} {f : DeliveryRow → DeliveryRow}
    (same : ∀ row, (f row).key = row.key)
    (matched
      : ∀ row, p row = true
        → db.ConnGuarded ⟨row.homeId, scope, false⟩
          ∧ ((f row).readAt ≠ row.readAt
            → db.GrantGuarded ⟨row.homeId, row.inboxId, scope.connectionId, .read⟩
              ∨ ((f row).ackedAt ≠ row.ackedAt
                ∧ db.GrantGuarded ⟨row.homeId, row.inboxId, scope.connectionId, .ack⟩))
          ∧ ((f row).ackedAt ≠ row.ackedAt
            → db.GrantGuarded ⟨row.homeId, row.inboxId, scope.connectionId, .ack⟩))
    : WrittenBy scope db { db with deliveries := updateWhere p f db.deliveries } := by
  have origin {d d' : DeliveryRow} (mem : d ∈ db.deliveries)
      (mem' : d' ∈ updateWhere p f db.deliveries) (sameKey : d'.key = d.key)
      : d' = d ∨ (p d = true ∧ d' = f d) := by
    obtain ⟨old, here, rfl⟩ := mem_updateWhere.mp mem'
    by_cases hit : p old = true
    · rw [if_pos hit] at sameKey ⊢
      cases keys.deliveries.eq_of_key here mem ((same old).symm.trans sameKey)
      exact .inr ⟨hit, rfl⟩
    · rw [if_neg hit] at sameKey ⊢
      exact .inl (keys.deliveries.eq_of_key here mem sameKey)
  exact {
    refl keys with
    messages := fun m mem new => absurd mem new
    deliveries := by
      intro d' mem' new
      have keysKept
          : (updateWhere p f db.deliveries).map key
            = db.deliveries.map key :=
        map_updateWhere (fun row _ => same row)
      exact absurd (keysKept ▸ mem_map_of_mem mem') new
    readStamps := by
      intro d mem d' mem' sameKey changed
      rcases origin mem mem' sameKey with rfl | ⟨hit, rfl⟩
      · exact absurd rfl changed
      · exact ⟨(matched d hit).1, (matched d hit).2.1 changed⟩
    ackStamps := by
      intro d mem d' mem' sameKey changed
      rcases origin mem mem' sameKey with rfl | ⟨hit, rfl⟩
      · exact absurd rfl changed
      · exact ⟨(matched d hit).1, (matched d hit).2.2 changed⟩
  }

end WrittenBy

/-- Whatever a promised command changes was written under live authority of its caller.
Witness: one case for each effect, with the guard evaluated in the same statement.
-/
theorem written_of_promise {t : Nat} {call : Call} {command : Command} {h : History machine}
    (lawful : Lawful h) (promise : Promise store t call command h) {db' : Database}
    (effect : Effect h.state.db command db')
    : Untouched h.state.db db'
      ∨ ∃ scope, call.Speaks scope ∧ WrittenBy scope h.state.db db' := by
  have keys := lawful.keys
  cases effect with
  | unchanged => exact .inl rfl
  | audited => exact .inl rfl
  | homeCreated _ _ freshConnection =>
    exact .inr ⟨_, promise, .connected keys freshConnection⟩
  | attached _ freshConnection _ =>
    exact .inr ⟨_, promise, .connected keys freshConnection⟩
  | @roleSet role target actor =>
    obtain ⟨homeId, scope, admin⟩ := actor
    obtain rfl : admin = true := promise.2
    exact .inr ⟨scope, promise.1, .roleSet keys⟩
  | @connectionRevoked stamp target actor =>
    exact .inr ⟨actor.scope, promise.1,
      .connectionRevoked keys lawful.confined promise.2⟩
  | @inboxCreated row grantToCreator actor safe fine fresh freshGrants =>
    obtain ⟨speaks, ⟨home, owners⟩, shared⟩ := promise
    exact .inr ⟨actor.scope, speaks,
      .inboxCreated keys home owners shared safe fine fresh⟩
  | @grantInserted row actor safe inbox target fresh =>
    obtain ⟨homeId, scope, admin⟩ := actor
    obtain ⟨speaks, isAdmin, home⟩ := promise
    obtain rfl : admin = true := isAdmin
    obtain rfl : row.homeId = homeId := home
    refine .inr ⟨scope, speaks, .granted keys (fun g mem new => ?_)⟩
    rcases mem_append.mp mem with old | added
    · exact absurd old new
    · cases mem_singleton.mp added
      exact safe
  | @grantReplaced row actor safe inbox target =>
    obtain ⟨homeId, scope, admin⟩ := actor
    obtain ⟨speaks, isAdmin, home⟩ := promise
    obtain rfl : admin = true := isAdmin
    obtain rfl : row.homeId = homeId := home
    refine .inr ⟨scope, speaks, .granted keys (fun g mem new => ?_)⟩
    obtain ⟨old, here, rfl⟩ := mem_updateWhere.mp mem
    split at new <;> rename_i hit
    · rw [if_pos hit]
      exact safe
    · exact absurd here new
  | @grantRevoked stamp inboxId target actor =>
    obtain ⟨homeId, scope, admin⟩ := actor
    obtain ⟨speaks, isAdmin⟩ := promise
    obtain rfl : admin = true := isAdmin
    refine .inr ⟨scope, speaks, .granted keys (fun g mem new => ?_)⟩
    obtain ⟨old, here, rfl⟩ := mem_updateWhere.mp mem
    split at new <;> rename_i hit
    · rw [if_pos hit]
      simp only [revokeGrantMatches, and_eq_true, beq_iff_eq,
        decide_eq_true_eq] at hit
      rw [hit.1.1.1.1]
      exact hit.2
    · exact absurd here new
  | @delivered message targets sender fresh authorized freshDeliveries nodup =>
    obtain ⟨_, scope, request, carriesOut⟩ := promise
    exact .inr ⟨scope, carriesOut.speaks,
      .delivered keys carriesOut.registered carriesOut.senderConnectionId sender fresh
        authorized freshDeliveries⟩
  | @readStamped stamp messageIds actor grant =>
    obtain ⟨own, _⟩ := promise
    refine .inr ⟨actor.scope, own.speaks, .stamped keys (fun _ => rfl) (fun row hit => ?_)⟩
    simp only [readMatches, and_eq_true, beq_iff_eq,
      decide_eq_true_eq] at hit
    obtain ⟨⟨⟨⟨⟨home, inbox⟩, _⟩, _⟩, mem⟩, granted⟩ := hit
    obtain ⟨gHome, gInbox, gConnection, gCapability⟩ := grant
    obtain ⟨aHome, aScope, aAdmin⟩ := actor
    obtain ⟨_, sameHome, connection, capability, _⟩ := own
    simp only at home inbox sameHome connection capability
    subst home inbox sameHome connection capability
    exact ⟨connGuarded_of_le mem (fun on => by cases on), fun _ => .inl granted,
      fun changed => absurd rfl changed⟩
  | @ackStamped stamp messageId actor grant =>
    obtain ⟨own, _⟩ := promise
    refine .inr ⟨actor.scope, own.speaks, .stamped keys (fun _ => rfl) (fun row hit => ?_)⟩
    simp only [ackMatches, and_eq_true, beq_iff_eq,
      decide_eq_true_eq] at hit
    obtain ⟨⟨⟨⟨⟨home, _⟩, inbox⟩, unacked⟩, mem⟩, granted⟩ := hit
    obtain ⟨gHome, gInbox, gConnection, gCapability⟩ := grant
    obtain ⟨aHome, aScope, aAdmin⟩ := actor
    obtain ⟨_, sameHome, connection, capability, _⟩ := own
    simp only at home inbox sameHome connection capability
    subst home inbox sameHome connection capability
    exact ⟨connGuarded_of_le mem (fun on => by cases on),
      fun _ => .inr ⟨by simp [unacked], granted⟩, fun _ => granted⟩

/-- Every statement that a run has executed wrote under live authority: the state that it
found already held what its caller needed.
-/
def WritesHaveAuthority (config : Concurrency.Config machine Call Failure (Answer Time))
    : Prop :=
  ∀ issued ∈ config.history.log,
    let before := issued.before.db
    let after := (World.exec issued.command issued.before).2.db
    Untouched before after
    ∨ ∃ call scope, config.call issued.thread = some call ∧ call.Speaks scope
      ∧ WrittenBy scope before after

/-- No write commits without live authority at the instant at which it commits.
Witness: every logged command was promised by its call, and a promised command writes only
under the guards that are evaluated with it.
-/
theorem writeHasLiveAuthority (schedule : List (Action machine Call))
    : WritesHaveAuthority (reached store clock mints r2 schedule) := by
  intro issued logged
  obtain ⟨call, h, asked, found, lawful, promise⟩ :=
    promised_reached store clock mints r2 schedule issued logged
  have written :=
    written_of_promise store lawful promise (World.exec_effect h.state issued.command)
  rw [found] at written
  rcases written with untouched | ⟨scope, speaks, written⟩
  · exact .inl untouched
  · exact .inr ⟨call, scope, asked, speaks, written⟩

/-- At every instant, rows refer to rows of their own Home, live grants are of active connections,
and a connection's own inbox is granted to, and written to by, that connection alone.
Witness: a command that a call issues is addressed well, and such commands keep confinement.
-/
theorem tablesAreConfined (schedule : List (Action machine Call))
    : Keys (reached store clock mints r2 schedule).state.db
      ∧ Confined (reached store clock mints r2 schedule).state.db := by
  have lawful := (sound_reached store clock mints r2 schedule).inv
  exact ⟨lawful.keys, lawful.confined⟩

end CairnStone.PrivateRealm.D1Store
