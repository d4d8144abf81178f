import CairnStone.PrivateRealm.D1Admission
import CairnStone.PrivateRealm.D1ExactlyOnce

/-! One default Home for an account. Every pass of `ensureDefaultHome` that loses a race leaves behind what
decides a later pass, so the passes that the loop allows are enough.
-/

namespace CairnStone.PrivateRealm.D1Store

open JavaScript Data Concurrency Protocol List Database World History Meets Protocol.After Prod Bool

variable {w : World} {home : HomeRow} {passes : Nat}

-- Homes and their creation

structure Creates (issued : Issued machine) (accountId homeId : Text) : Prop where
  command
    : ∃ scope stamp, issued.command = .createHome homeId scope stamp ∧ scope.accountId = accountId
  fresh : ∀ home ∈ issued.before.db.homes, home.homeId ≠ homeId
  created
    : ∃ home ∈ (World.exec issued.command issued.before).2.db.homes, home.homeId = homeId

def Registers (scope : HomeScope) : Command → Prop
  | .createHome _ scope' _ => scope' = scope
  | .attachConnection _ scope' _ => scope' = scope
  | _ => False

structure Housed (h : History machine) : Prop where
  keys : Keys h.state.db
  isDefault : ∀ home ∈ h.state.db.homes, home.isDefault = true
  accounts : Keyed HomeRow.accountId h.state.db.homes
  origin
    : ∀ home ∈ h.state.db.homes, ∃ issued ∈ h.log, Creates issued home.accountId home.homeId
  stored
    : ∀ issued ∈ h.log, ∀ {accountId homeId}, Creates issued accountId homeId
      → ∃ home ∈ h.state.db.homes, home.accountId = accountId ∧ home.homeId = homeId
  once
    : ∀ issued ∈ h.log, ∀ issued' ∈ h.log, ∀ {accountId homeId homeId'},
        Creates issued accountId homeId → Creates issued' accountId homeId'
        → issued.thread = issued'.thread
  attached
    : ∀ c ∈ h.state.db.connections, ∃ issued ∈ h.log, ∃ scope, Registers scope issued.command
        ∧ c.identity = (scope.connectionId, c.homeId, scope.principalId)
        ∧ ∃ home ∈ h.state.db.homes, home.identity = (c.homeId, scope.accountId, scope.tenantId)

theorem housed_fresh (clock : Time) (mints : Nat → Text) (r2 : Option Bucket)
    : Housed ⟨fresh clock mints r2, []⟩ where
  keys := Keys.empty
  isDefault := by simp [fresh, empty]
  accounts := nodup_nil
  origin := by simp [fresh, empty]
  stored := fun _ noted => absurd noted not_mem_nil
  once := fun _ noted => absurd noted not_mem_nil
  attached := by simp [fresh, empty]

theorem homes_exec (t : Nat) (command : Command) (w : World)
    (isDefault : ∀ home ∈ w.db.homes, home.isDefault = true)
    : (World.exec command w).2.db.homes = w.db.homes
      ∨ ∃ homeId scope stamp, command = .createHome homeId scope stamp
        ∧ Creates ⟨t, command, w⟩ scope.accountId homeId
        ∧ (World.exec command w).2.db.homes = w.db.homes ++ [newHome homeId scope stamp]
        ∧ ∀ home ∈ w.db.homes, home.accountId ≠ scope.accountId := by
  have effect := exec_effect w command
  generalize after : (World.exec command w).2.db = db' at effect
  cases effect with
  | homeCreated freshHome freshAccount =>
    rename_i homeId scope stamp _
    refine .inr ⟨homeId, scope, stamp, rfl, ⟨⟨scope, stamp, rfl, rfl⟩, freshHome, ?_⟩, rfl,
      fun home mem => freshAccount home mem (isDefault home mem)⟩
    rw [after]
    exact ⟨_, mem_append_right _ (mem_singleton_self _), rfl⟩
  | _ => exact .inl rfl

/-- A connection of a later state is an old one, or the command has registered it. -/
theorem connections_exec (command : Command) (w : World) {c' : ConnectionRow}
    (mem : c' ∈ (World.exec command w).2.db.connections)
    : (∃ c ∈ w.db.connections, c.identity = c'.identity)
      ∨ ∃ scope, Registers scope command
        ∧ c'.identity = (scope.connectionId, c'.homeId, scope.principalId)
        ∧ ∃ home ∈ (World.exec command w).2.db.homes,
            home.identity = (c'.homeId, scope.accountId, scope.tenantId) := by
  have effect := exec_effect w command
  generalize after : (World.exec command w).2.db = db' at effect mem
  cases effect with
  | homeCreated =>
    rename_i homeId scope stamp _ _ _
    rcases mem_append.mp mem with old | new
    · exact .inl ⟨c', old, rfl⟩
    · cases mem_singleton.mp new
      exact .inr ⟨scope, rfl, rfl, _, mem_append_right _ (mem_singleton_self _), rfl⟩
  | attached home =>
    rename_i homeId scope stamp _ _
    rcases mem_append.mp mem with old | new
    · exact .inl ⟨c', old, rfl⟩
    · cases mem_singleton.mp new
      obtain ⟨home, stored, ofId, account, tenant, _⟩ := home
      refine .inr ⟨scope, rfl, rfl, home, stored, ?_⟩
      rw [HomeRow.identity, ofId, account, tenant]
      rfl
  | roleSet =>
    obtain ⟨c, old, rfl⟩ := mem_updateWhere.mp mem
    refine .inl ⟨c, old, ?_⟩
    split <;> rfl
  | connectionRevoked =>
    obtain ⟨c, old, rfl⟩ := mem_updateWhere.mp mem
    refine .inl ⟨c, old, ?_⟩
    split <;> rfl
  | _ => exact .inl ⟨c', mem, rfl⟩

theorem Creates.appends {t : Nat} {command : Command} {accountId homeId : Text}
    (creates : Creates ⟨t, command, w⟩ accountId homeId)
    (isDefault : ∀ home ∈ w.db.homes, home.isDefault = true)
    : (∃ home ∈ (World.exec command w).2.db.homes,
          home.accountId = accountId ∧ home.homeId = homeId)
      ∧ ∀ home ∈ w.db.homes, home.accountId ≠ accountId := by
  obtain ⟨scope, stamp, asked, rfl⟩ := creates.command
  rcases homes_exec t command w isDefault with kept | ⟨homeId', scope', stamp', named, _, appended, none⟩
  · obtain ⟨home, mem, id⟩ := creates.created
    exact absurd id (creates.fresh home (kept ▸ mem))
  · obtain ⟨rfl, rfl, rfl⟩ := Command.createHome.inj ((asked : command = _).symm.trans named)
    exact ⟨⟨_, appended ▸ mem_append_right _ (mem_singleton_self _), rfl, rfl⟩, none⟩

theorem home_stays (command : Command) (isDefault : ∀ home ∈ w.db.homes, home.isDefault = true)
    (mem : home ∈ w.db.homes)
    : home ∈ (World.exec command w).2.db.homes := by
  rcases homes_exec 0 command w isDefault with kept | ⟨_, _, _, _, _, appended, _⟩
  · exact kept ▸ mem
  · exact appended ▸ mem_append_left _ mem

theorem Housed.exec {h : History machine} (housed : Housed h) (t : Nat) (command : Command)
    : Housed (h.exec t command) := by
  have stays {home : HomeRow} (mem : home ∈ h.state.db.homes)
      : home ∈ (World.exec command h.state).2.db.homes :=
    home_stays command housed.isDefault mem
  have newer {issued : Issued machine} {accountId homeId homeId' : Text} (old : issued ∈ h.log)
      (creates : Creates issued accountId homeId)
      : ¬ Creates ⟨t, command, h.state⟩ accountId homeId' := by
    intro again
    obtain ⟨home, mem, account, _⟩ := housed.stored issued old creates
    exact (again.appends housed.isDefault).2 home mem account
  refine {
    keys := housed.keys.effect (exec_effect h.state command)
    isDefault := fun home mem => ?_
    accounts := ?_
    origin := fun home mem => ?_
    stored := fun issued noted accountId homeId creates => ?_
    once := fun issued noted issued' logged' accountId homeId homeId' creates creates' => ?_
    attached := fun c mem => ?_
  }
  · rcases homes_exec t command h.state housed.isDefault with kept | ⟨_, _, _, _, _, appended, _⟩
    · exact housed.isDefault home (kept ▸ mem)
    · rcases mem_append.mp (appended ▸ mem) with old | new
      · exact housed.isDefault home old
      · cases mem_singleton.mp new
        rfl
  · rcases homes_exec t command h.state housed.isDefault with kept | ⟨_, _, _, _, _, appended, fresh⟩
    · change Keyed HomeRow.accountId (World.exec command h.state).2.db.homes
      rw [kept]
      exact housed.accounts
    · change Keyed HomeRow.accountId (World.exec command h.state).2.db.homes
      rw [appended]
      exact housed.accounts.append_singleton (fun old mem same => fresh old mem same)
  · rcases homes_exec t command h.state housed.isDefault with kept | ⟨_, _, _, _, creates, appended, _⟩
    · obtain ⟨issued, noted, creates⟩ := housed.origin home (kept ▸ mem)
      exact ⟨issued, .tail _ noted, creates⟩
    · rcases mem_append.mp (appended ▸ mem) with old | new
      · obtain ⟨issued, noted, creates⟩ := housed.origin home old
        exact ⟨issued, .tail _ noted, creates⟩
      · cases mem_singleton.mp new
        exact ⟨_, .head _, creates⟩
  · rcases mem_cons.mp noted with rfl | old
    · exact (creates.appends housed.isDefault).1
    · obtain ⟨home, mem, same⟩ := housed.stored issued old creates
      exact ⟨home, stays mem, same⟩
  · rcases mem_cons.mp noted with rfl | old
    · rcases mem_cons.mp logged' with rfl | old'
      · rfl
      · exact absurd creates (newer old' creates')
    · rcases mem_cons.mp logged' with rfl | old'
      · exact absurd creates' (newer old creates)
      · exact housed.once issued old issued' old' creates creates'
  · rcases connections_exec command h.state mem with ⟨c', old, same⟩ | ⟨scope, registers, placed⟩
    · obtain ⟨issued, noted, scope, registers, identity, home, stored, homeIdentity⟩ :=
        housed.attached c' old
      have atHome : c'.homeId = c.homeId := (mk.inj (mk.inj same).2).1
      rw [same, atHome] at identity
      rw [atHome] at homeIdentity
      exact ⟨issued, .tail _ noted, scope, registers, identity, home, stays stored,
        homeIdentity⟩
    · exact ⟨_, .head _, scope, registers, placed⟩

theorem Housed.disturb {h : History machine} (housed : Housed h) (event : Disturbance)
    : Housed (h.disturb event) := by
  have keys : Keys (h.disturb event).state.db := Keys.disturb (w := h.state) housed.keys event
  cases event with
  | setHomeStatus homeId status =>
    have moved {home : HomeRow} (mem : home ∈ h.state.db.homes)
        : ∃ home' ∈ (h.disturb (.setHomeStatus homeId status)).state.db.homes,
            home'.identity = home.identity := by
      refine ⟨_, mem_updateWhere.mpr ⟨home, mem, rfl⟩, ?_⟩
      split <;> rfl
    refine { housed with
      keys := keys
      isDefault := fun home mem => ?_
      accounts := housed.accounts.updateWhere (fun _ _ => rfl)
      origin := fun home mem => ?_
      stored := fun issued noted accountId homeId creates => ?_
      attached := fun c mem => ?_
    }
    · obtain ⟨old, stored, rfl⟩ := mem_updateWhere.mp mem
      have isDefault := housed.isDefault old stored
      split <;> exact isDefault
    · obtain ⟨old, stored, rfl⟩ := mem_updateWhere.mp mem
      have origin := housed.origin old stored
      split <;> exact origin
    · obtain ⟨home, mem, account, id⟩ := housed.stored issued noted creates
      obtain ⟨home', mem', same⟩ := moved mem
      simp only [HomeRow.identity, Prod.mk.injEq] at same
      exact ⟨home', mem', same.2.1.trans account, same.1.trans id⟩
    · obtain ⟨issued, noted, scope, registers, identity, home, stored, homeIdentity⟩ :=
        housed.attached c mem
      obtain ⟨home', mem', same⟩ := moved stored
      exact ⟨issued, noted, scope, registers, identity, home', mem',
        same.trans homeIdentity⟩
  | _ => exact { housed with keys := keys }

/-- A command that registers a connection serves an `ensureDefaultHome` of the scope. -/
def Housing (call : Call) (command : Command) : Prop :=
  ∀ scope, Registers scope command
    → ∃ scopeIn, call = .ensureDefaultHome scopeIn ∧ assertHomeScope scopeIn = .ok scope

def housing : Protocol machine Call where
  inv := Housed
  le h h' := Grows h.state.db h'.state.db ∧ h.log <:+ h'.log
  pre _ call command _ := Housing call command
  refl := advances_refl
  trans := @advances_trans
  exec_inv housed _ := housed.exec _ _
  exec_le {h _ _ c} _ _ := ⟨.effect (World.exec_effect h.state c), List.suffix_cons _ _⟩
  disturb_inv e housed := housed.disturb e
  disturb_le {h} e _ := ⟨.disturb h.state e, List.suffix_rfl⟩

theorem permissive_housing : Permissive housing where
  grows := And.left
  free {_ _ command _} incidental := by
    intro scope registers
    cases command with
    | createHome homeId scope' stamp => cases incidental
    | attachConnection homeId scope' stamp => cases incidental
    | _ => cases registers

-- Passes

/-- What the environment grants: minted ids are fresh, statements fail on unique columns only, and the
Home that a connection is attached to is still active.
-/
def Assumed (command : Command) (w : World) : Prop :=
  match command with
  | .createHome homeId scope stamp =>
    (∀ home ∈ w.db.homes, home.homeId ≠ homeId)
      ∧ ∀ error, w.db.createHome homeId scope stamp = .error error → error = .unique
  | .attachConnection homeId scope stamp =>
    (∀ home ∈ w.db.homes, home.homeId = homeId → home.status = .active)
      ∧ ∀ error, w.db.attachConnection homeId scope stamp = .error error → error = .unique
  | _ => True

def Known (scope : HomeScope) (db : Database) : Prop :=
  ∃ c ∈ db.connections, c.connectionId = scope.connectionId

def Clashes (scope : HomeScope) (db : Database) : Prop :=
  ∃ home ∈ db.homes, home.accountId = scope.accountId
    ∧ ∃ c ∈ db.connections, c.homeId = home.homeId ∧ c.principalId = scope.principalId

/-- How many passes the state of the database still needs at most. -/
def Stage (scope : HomeScope) (db : Database) : Nat → Prop
  | 0 => False
  | 1 => Known scope db ∨ Clashes scope db
  | 2 => Known scope db ∨ ∃ home ∈ db.homes, home.accountId = scope.accountId
  | _ => True

variable {scope : HomeScope} {db db' : Database}

theorem Known.grows (known : Known scope db) (grows : Grows db db') : Known scope db' := by
  obtain ⟨c, mem, id⟩ := known
  obtain ⟨c', mem', same, _⟩ := grows.connections c mem
  exact ⟨c', mem', (mk.inj same).1.trans id⟩

theorem account_grows (grows : Grows db db')
    (homed : ∃ home ∈ db.homes, home.accountId = scope.accountId)
    : ∃ home ∈ db'.homes, home.accountId = scope.accountId := by
  obtain ⟨home, mem, account⟩ := homed
  obtain ⟨home', mem', same⟩ := grows.homes home mem
  simp only [HomeRow.identity, Prod.mk.injEq] at same
  exact ⟨home', mem', same.2.1.trans account⟩

theorem Clashes.grows (clashes : Clashes scope db) (grows : Grows db db') : Clashes scope db' := by
  obtain ⟨home, mem, account, c, connected, ofHome, principal⟩ := clashes
  obtain ⟨home', mem', sameHome⟩ := grows.homes home mem
  obtain ⟨c', connected', same, _⟩ := grows.connections c connected
  simp only [HomeRow.identity, ConnectionRow.identity, Prod.mk.injEq] at sameHome same
  exact ⟨home', mem', sameHome.2.1.trans account, c', connected',
    same.2.1.trans (ofHome.trans sameHome.1.symm), same.2.2.trans principal⟩

theorem Stage.grows (stage : Stage scope db passes) (grows : Grows db db')
    : Stage scope db' passes := by
  unfold Stage at *
  split at stage
  · exact stage
  · exact stage.imp (fun known => known.grows grows) (fun clashes => clashes.grows grows)
  · exact stage.imp (fun known => known.grows grows) (account_grows grows)
  · exact trivial

section

variable {homeId : Text} {stamp : Time}
  {w : World}

theorem taken_of_insertConnection {row : ConnectionRow}
    (failed : db.insertConnection row = .error .unique)
    : ∃ old ∈ db.connections, old.connectionId = row.connectionId
        ∨ (old.homeId = row.homeId ∧ old.principalId = row.principalId) := by
  unfold insertConnection at failed
  split at failed
  · cases failed
  split at failed
  · assumption
  split at failed
  · cases failed
  · cases failed

/-- A creation that fails lost a race, and the state shows to whom. -/
theorem stage_of_createHome_error {error : SqlError} (keys : Keys w.db)
    (assumed : Assumed (.createHome homeId scope stamp) w)
    (failed : w.db.createHome homeId scope stamp = .error error)
    : Stage scope w.db 2 := by
  obtain ⟨fresh, unique⟩ := assumed
  cases unique error failed
  unfold createHome at failed
  cases put : w.db.insertHome (newHome homeId scope stamp) with
  | error error =>
    rw [put] at failed
    cases failed
    unfold insertHome at put
    split at put
    · cases put
    split at put
    · rename_i taken
      obtain ⟨old, mem, sameId | ⟨_, _, account⟩⟩ := taken
      · exact absurd sameId (fresh old mem)
      · exact .inr ⟨old, mem, account⟩
    · cases put
  | ok db' =>
    rw [put] at failed
    obtain ⟨_, rfl⟩ := insertHome_eq_ok put
    obtain ⟨old, mem, known | ⟨atHome, _⟩⟩ := taken_of_insertConnection failed
    · exact .inl ⟨old, mem, known⟩
    · obtain ⟨home, stored, same⟩ := mem_map.mp (keys.connectionHome old mem)
      exact absurd (same.trans atHome) (fresh home stored)

/-- An attachment that fails lost a race, and the state shows to whom. -/
theorem stage_of_attachConnection_error {error : SqlError}
    (assumed : Assumed (.attachConnection homeId scope stamp) w)
    (failed : w.db.attachConnection homeId scope stamp = .error error)
    : Stage scope w.db 1 := by
  cases assumed.2 error failed
  unfold attachConnection at failed
  split at failed
  · rename_i found
    obtain ⟨home, stored, ofId, account, _, _⟩ := found
    cases put : w.db.insertConnection
        (newConnection homeId scope (w.db.attachRole homeId scope.homeRole) stamp) with
    | ok db' =>
      simp only [put] at failed
      cases failed
    | error error =>
      have inserted' := put
      simp only [put] at failed
      cases failed
      obtain ⟨old, mem, known | ⟨atHome, principal⟩⟩ := taken_of_insertConnection inserted'
      · exact .inl ⟨old, mem, known⟩
      · exact .inr ⟨home, stored, account, old, mem, atHome.trans ofId.symm, principal⟩
  · cases failed

/-- An attachment to an active Home of the account and tenant answers a role. -/
theorem attachConnection_ne_none (assumed : Assumed (.attachConnection homeId scope stamp) w)
    (homed : ∃ home ∈ w.db.homes, home.identity = (homeId, scope.accountId, scope.tenantId))
    : w.db.attachConnection homeId scope stamp ≠ .ok (none, db') := by
  intro said
  obtain ⟨home, stored, identity⟩ := homed
  simp only [HomeRow.identity, Prod.mk.injEq] at identity
  unfold attachConnection at said
  split at said
  · obtain ⟨_, _, same⟩ := bind_eq_ok.mp said
    cases Except.ok.inj same
  · rename_i missing
    exact missing ⟨home, stored, identity.1, identity.2.1, identity.2.2,
      assumed.1 home stored identity.1⟩

end

-- The call

variable {t : Nat} {call : Call} {h h' : History machine} {scopeIn : Value}

def Creating (t : Nat) (h : History machine) : Prop :=
  ∃ issued ∈ h.own t, ∃ accountId homeId, Creates issued accountId homeId

/-- The environment has failed the call. -/
def Spoilt (t : Nat) (h : History machine) : Prop :=
  ∃ issued ∈ h.own t, ¬ Assumed issued.command issued.before

/-- What an answer of `ensureDefaultHome` is worth: it places the connection, or the scope is denied. -/
def Places (t : Nat) (scope : HomeScope) : Except Failure (Answer Time) → History machine → Prop
  | .ok answer, h =>
    ∃ homeId created attached role, answer = .ensured homeId created attached role
      ∧ Registered h.state.db scope homeId ∧ (created = true ↔ Creating t h)
  | .error e, h => e = .realm "scope_not_authorized" ∧ ¬ Creating t h

theorem not_creates_of_incidental {issued : Issued machine} {accountId homeId : Text}
    (incidental : Incidental issued.command)
    : ¬ Creates issued accountId homeId := by
  intro creates
  obtain ⟨scope, stamp, command, _⟩ := creates.command
  rw [command] at incidental
  exact incidental

theorem idle_later (idle : ¬ Creating t h) (only : OnlyIncidental t h h') : ¬ Creating t h' := by
  rintro ⟨issued, known, accountId, homeId, creates⟩
  rcases only issued known with old | incidental
  · exact idle ⟨issued, old, accountId, homeId, creates⟩
  · exact not_creates_of_incidental incidental creates

theorem Spoilt.later (spoilt : Spoilt t h) (after : housing.After h h') : Spoilt t h' := by
  obtain ⟨issued, known, violated⟩ := spoilt
  obtain ⟨noted, thread⟩ := mem_own.mp known
  exact ⟨issued, mem_own.mpr ⟨after.le.2.subset noted, thread⟩, violated⟩

theorem Creating.later (creating : Creating t h) (after : housing.After h h') : Creating t h' := by
  obtain ⟨issued, known, accountId, homeId, creates⟩ := creating
  obtain ⟨noted, thread⟩ := mem_own.mp known
  exact ⟨issued, mem_own.mpr ⟨after.le.2.subset noted, thread⟩, accountId, homeId, creates⟩

def PlacesUnlessSpoilt (t : Nat) (scope : HomeScope) (answer : Except Failure (Answer Time))
    (h : History machine)
    : Prop :=
  Spoilt t h ∨ Places t scope answer h

/-- Later passes start where an earlier one has lost a race, with enough passes left for it. -/
def Winnable (t : Nat) (scope : HomeScope) (passes : Nat) (h : History machine) : Prop :=
  Spoilt t h ∨ ∃ n ≤ passes, Stage scope h.state.db n

theorem Winnable.later (winnable : Winnable t scope passes h) (after : housing.After h h')
    : Winnable t scope passes h' := by
  rcases winnable with spoilt | ⟨n, le, stage⟩
  · exact .inl (spoilt.later after)
  · exact .inr ⟨n, le, stage.grows after.le.1⟩

/-- Where the connection id is free and the account has no Home, a pass is left for losing the race. -/
theorem Winnable.without_home (winnable : Winnable t scope (passes + 1) h)
    (unknown : ¬ Known scope h.state.db)
    (homeless : ¬ ∃ home ∈ h.state.db.homes, home.accountId = scope.accountId)
    : Spoilt t h ∨ 2 ≤ passes := by
  rcases winnable with spoilt | ⟨n, le, stage⟩
  · exact .inl spoilt
  · refine .inr ?_
    rcases n with _ | _ | _ | n
    · exact stage.elim
    · rcases stage with known | ⟨home, mem, account, _⟩
      · exact absurd known unknown
      · exact absurd ⟨home, mem, account⟩ homeless
    · rcases stage with known | homed
      · exact absurd known unknown
      · exact absurd homed homeless
    · omega

/-- Where the connection id and the principal are free, a pass is left for losing the race. -/
theorem Winnable.without_clash (winnable : Winnable t scope (passes + 1) h)
    (unknown : ¬ Known scope h.state.db) (free : ¬ Clashes scope h.state.db)
    : Spoilt t h ∨ 1 ≤ passes := by
  rcases winnable with spoilt | ⟨n, le, stage⟩
  · exact .inl spoilt
  · refine .inr ?_
    rcases n with _ | _ | n
    · exact stage.elim
    · rcases stage with known | clashes
      · exact absurd known unknown
      · exact absurd clashes free
    · omega

theorem knownConnection_iff : knownConnection scope.connectionId db = true ↔ Known scope db := by
  simp only [knownConnection, any_eq_true, beq_iff_eq, Known]

theorem idle_exec {command : Command} (idle : ¬ Creating t h)
    (no : ∀ accountId homeId, ¬ Creates ⟨t, command, h.state⟩ accountId homeId)
    : ¬ Creating t (h.exec t command) := by
  rintro ⟨issued, known, accountId, homeId, creates⟩
  have own : (h.exec t command).own t = ⟨t, command, h.state⟩ :: h.own t :=
    own_exec_self _ _ _
  rw [own] at known
  rcases mem_cons.mp known with rfl | old
  · exact no accountId homeId creates
  · exact idle ⟨issued, old, accountId, homeId, creates⟩

theorem spoilt_exec {command : Command} (violated : ¬ Assumed command h.state)
    : Spoilt t (h.exec t command) := by
  have own : (h.exec t command).own t = ⟨t, command, h.state⟩ :: h.own t :=
    own_exec_self _ _ _
  exact ⟨_, own ▸ mem_cons_self, violated⟩

theorem not_creates_of_homes {command : Command}
    (kept : (World.exec command w).2.db.homes = w.db.homes) (accountId homeId : Text)
    : ¬ Creates ⟨t, command, w⟩ accountId homeId := by
  intro creates
  obtain ⟨home, mem, id⟩ := creates.created
  exact creates.fresh home (kept ▸ mem) id

/-- Whether a pass may go on after losing a race. -/
theorem winnable_exec {command : Command} {n : Nat} (left : Spoilt t h ∨ n ≤ passes)
    (after : housing.After h (h.exec t command))
    (lost : Assumed command h.state → Stage scope h.state.db n)
    : Winnable t scope passes (h.exec t command) := by
  by_cases assumed : Assumed command h.state
  · rcases left with spoilt | le
    · exact .inl (spoilt.later after)
    · exact .inr ⟨n, le, (lost assumed).grows after.le.1⟩
  · exact .inl (spoilt_exec assumed)

/-- A pass of a known connection: it is authorized again. -/
theorem meets_known (valid : assertHomeScope scopeIn = .ok scope) (idle : ¬ Creating t h)
    {reason : Option String}
    : housing.Meets t call
        ((authorize scopeIn .null "ensure_home").bind (fun ctx =>
          (audit (some ctx.homeId) scope "ensure_home" "allow" reason).bind (fun _ =>
            .done (.ensured ctx.homeId false false ctx.conn.role))))
        (PlacesUnlessSpoilt t scope) h := by
  refine incidental_seq (issues_authorize ..) (meets_authorize permissive_housing)
    (fun ctx h1 _ only1 fits => ?_) (fun error h1 _ only1 failed => ?_)
  · obtain ⟨valid', registered⟩ := fits
    cases (valid.symm.trans valid')
    refine meets_audit_bind permissive_housing (fun h2 after2 only2 => ?_)
    refine Meets.done (fun h3 moved3 => .inr ⟨_, _, _, _, rfl, ?_, ?_⟩)
    · exact (registered.grows after2.le.1).grows moved3.le.1
    · have still := idle_later idle (only1.trans (only2.trans (onlyIncidental_of_own moved3.own)))
      exact ⟨fun created => absurd created false_ne_true, fun creating => absurd creating still⟩
  · rcases failed with malformed | malformed | rfl
    · rw [valid] at malformed
      cases malformed
    · cases malformed
    · exact .inr ⟨rfl, idle_later idle only1⟩

/-- A pass that finds no Home: it creates one, or loses the race for it. -/
theorem meets_createHome (asked : call = .ensureDefaultHome scopeIn)
    (valid : assertHomeScope scopeIn = .ok scope) {homeId : Text} {stamp : Time}
    {g : Except SqlError Unit → Async (Answer Time)} (left : Spoilt t h ∨ 2 ≤ passes)
    (idle : ¬ Creating t h)
    (created
      : g (.ok ())
        = (audit (some homeId) scope "ensure_home" "allow" (some "created")).bind
            (fun _ => .done (.ensured homeId true true .admin)))
    (lost
      : ∀ error h', housing.After h h' → Winnable t scope passes h' → ¬ Creating t h'
        → housing.Meets t call (g (.error error)) (PlacesUnlessSpoilt t scope) h')
    : housing.Meets t call ((command (.createHome homeId scope stamp)).bind g)
        (PlacesUnlessSpoilt t scope) h := by
  refine perform_bind (fun h1 moved1 => ?_)
  have pre : Housing call (.createHome homeId scope stamp) := by
    intro scope' registers
    obtain rfl : scope = scope' := registers
    exact ⟨scopeIn, asked, valid⟩
  refine ⟨pre, ?_⟩
  let create : Command := .createHome homeId scope stamp
  have after1 : housing.After h1 (h1.exec t create) :=
    exec call (refl moved1.inv) pre
  have idle1 : ¬ Creating t h1 := idle_later idle (onlyIncidental_of_own moved1.own)
  have left1 : Spoilt t h1 ∨ 2 ≤ passes :=
    left.imp (fun spoilt => spoilt.later moved1.toAfter) id
  change housing.Meets t call (g (World.exec create h1.state).1) _ (h1.exec t create)
  have executed : World.exec create h1.state
      = h1.state.commit ((h1.state.db.createHome homeId scope stamp).map ((), ·)) := rfl
  cases res : h1.state.db.createHome homeId scope stamp with
  | error error =>
    rw [res] at executed
    have kept : (World.exec create h1.state).2.db.homes = h1.state.db.homes := by
      rw [executed]
      rfl
    have replied : (World.exec create h1.state).1 = .error error := by
      rw [executed]
      rfl
    rw [replied]
    refine lost error _ (moved1.toAfter.trans after1) (winnable_exec left1 after1 ?_)
      (idle_exec idle1 (not_creates_of_homes kept))
    exact fun assumed => stage_of_createHome_error moved1.inv.keys assumed res
  | ok db' =>
    rw [res] at executed
    obtain ⟨put, _⟩ := createHome_eq_ok res
    have stored : (World.exec create h1.state).2.db = db' := by
      rw [executed]
      rfl
    have replied : (World.exec create h1.state).1 = .ok () := by
      rw [executed]
      rfl
    have homes : (World.exec create h1.state).2.db.homes
        = h1.state.db.homes ++ [newHome homeId scope stamp] := by
      rw [stored, put]
    have registered : Registered (World.exec create h1.state).2.db scope homeId := by
      rw [stored, put]
      exact ⟨⟨_, mem_append_right _ (mem_singleton_self _), rfl⟩,
        ⟨_, mem_append_right _ (mem_singleton_self _), rfl⟩⟩
    have creating : Creating t (h1.exec t create) := by
      rcases homes_exec t create h1.state moved1.inv.isDefault with kept | ⟨_, _, _, _, creates, _⟩
      · rw [homes] at kept
        exact absurd kept (by simp)
      · have own : (h1.exec t create).own t = ⟨t, create, h1.state⟩ :: h1.own t :=
          own_exec_self _ _ _
        exact ⟨_, own ▸ (.head _), _, _, creates⟩
    rw [replied, created]
    refine meets_audit_bind permissive_housing (fun h2 after2 _ => ?_)
    refine Meets.done (fun h3 moved3 => .inr ⟨_, _, _, _, rfl, ?_, ?_⟩)
    · exact (registered.grows after2.le.1).grows moved3.le.1
    · exact ⟨fun _ => creating.later (after2.trans moved3.toAfter), fun _ => rfl⟩

/-- A pass that finds the Home: it attaches the connection, or loses the race for it. -/
theorem meets_attachConnection (asked : call = .ensureDefaultHome scopeIn)
    (valid : assertHomeScope scopeIn = .ok scope) {homeId : Text} {stamp : Time}
    {reason : HomeRole → Option String}
    {g : Except SqlError (Option HomeRole) → Async (Answer Time)}
    (left : Spoilt t h ∨ 1 ≤ passes) (idle : ¬ Creating t h)
    (homed : ∃ home ∈ h.state.db.homes, home.identity = (homeId, scope.accountId, scope.tenantId))
    (attached
      : ∀ role, g (.ok (some role))
        = (audit (some homeId) scope "ensure_home" "allow" (reason role)).bind
            (fun _ => .done (.ensured homeId false true role)))
    (none
      : ∀ h', housing.After h h' → Spoilt t h' → ¬ Creating t h'
        → housing.Meets t call (g (.ok none)) (PlacesUnlessSpoilt t scope) h')
    (lost
      : ∀ error h', housing.After h h' → Winnable t scope passes h' → ¬ Creating t h'
        → housing.Meets t call (g (.error error)) (PlacesUnlessSpoilt t scope) h')
    : housing.Meets t call ((command (.attachConnection homeId scope stamp)).bind g)
        (PlacesUnlessSpoilt t scope) h := by
  refine perform_bind (fun h1 moved1 => ?_)
  have pre : Housing call (.attachConnection homeId scope stamp) := by
    intro scope' registers
    obtain rfl : scope = scope' := registers
    exact ⟨scopeIn, asked, valid⟩
  refine ⟨pre, ?_⟩
  let attach : Command := .attachConnection homeId scope stamp
  have after1 : housing.After h1 (h1.exec t attach) :=
    exec call (refl moved1.inv) pre
  have idle1 : ¬ Creating t h1 := idle_later idle (onlyIncidental_of_own moved1.own)
  have left1 : Spoilt t h1 ∨ 1 ≤ passes :=
    left.imp (fun spoilt => spoilt.later moved1.toAfter) id
  have homed1
      : ∃ home ∈ h1.state.db.homes, home.identity = (homeId, scope.accountId, scope.tenantId) := by
    obtain ⟨home, mem, identity⟩ := homed
    obtain ⟨home', mem', same⟩ := moved1.le.1.homes home mem
    exact ⟨home', mem', same.trans identity⟩
  have idle2 : ¬ Creating t (h1.exec t attach) := by
    refine idle_exec idle1 (fun accountId homeId' creates => ?_)
    obtain ⟨_, _, named, _⟩ := creates.command
    cases named
  change housing.Meets t call (g (World.exec attach h1.state).1) _ (h1.exec t attach)
  have executed : World.exec attach h1.state
      = h1.state.commit (h1.state.db.attachConnection homeId scope stamp) := rfl
  cases res : h1.state.db.attachConnection homeId scope stamp with
  | error error =>
    rw [res] at executed
    have replied : (World.exec attach h1.state).1 = .error error := by
      rw [executed]
      rfl
    rw [replied]
    refine lost error _ (moved1.toAfter.trans after1) (winnable_exec left1 after1 ?_) idle2
    exact fun assumed => stage_of_attachConnection_error assumed res
  | ok result =>
    obtain ⟨role, db'⟩ := result
    rw [res] at executed
    have replied : (World.exec attach h1.state).1 = .ok role := by
      rw [executed]
      rfl
    have stored : (World.exec attach h1.state).2.db = db' := by
      rw [executed]
      rfl
    rw [replied]
    cases role with
    | none =>
      refine none _ (moved1.toAfter.trans after1) (spoilt_exec (fun assumed => ?_)) idle2
      exact attachConnection_ne_none assumed homed1 res
    | some role =>
      obtain ⟨_, put, _⟩ := attachConnection_eq_ok res
      have registered : Registered (World.exec attach h1.state).2.db scope homeId := by
        rw [stored, put]
        exact ⟨⟨_, mem_append_right _ (mem_singleton_self _), rfl⟩, homed1⟩
      rw [attached]
      refine meets_audit_bind permissive_housing (fun h2 after2 only2 => ?_)
      refine Meets.done (fun h3 moved3 => .inr ⟨_, _, _, _, rfl, ?_, ?_⟩)
      · exact (registered.grows after2.le.1).grows moved3.le.1
      · have still := idle_later idle2 (only2.trans (onlyIncidental_of_own moved3.own))
        exact ⟨fun created => absurd created false_ne_true,
          fun creating => absurd creating still⟩

theorem not_clashes (housed : Housed h) (stored : home ∈ h.state.db.homes)
    (account : home.accountId = scope.accountId)
    (free : ¬ principalClash home.homeId scope.principalId h.state.db = true)
    : ¬ Clashes scope h.state.db := by
  rintro ⟨home', stored', account', c, connected, atHome, principal⟩
  cases housed.accounts.eq_of_key stored' stored (account'.trans account.symm)
  refine free (any_eq_true.mpr ⟨c, connected, ?_⟩)
  simp only [atHome, principal, beq_self_eq_true, Bool.and_self]

theorem defaultHome_none (housed : Housed h)
    (none : defaultHome scope.accountId h.state.db = none)
    : ¬ ∃ home ∈ h.state.db.homes, home.accountId = scope.accountId := by
  rintro ⟨home, mem, account⟩
  have missed := find?_eq_none.mp none home mem
  simp [account, housed.isDefault home mem] at missed

theorem defaultHome_some (found : defaultHome scope.accountId db = some home)
    : home ∈ db.homes ∧ home.accountId = scope.accountId := by
  have holds := find?_some found
  simp only [and_eq_true, beq_iff_eq] at holds
  exact ⟨mem_of_find?_eq_some found, holds.1⟩

/-- Every pass places the connection, denies the scope, or leaves a later pass less to do.
Witness: induction on the passes that are left.
-/
theorem meets_ensurePass (asked : call = .ensureDefaultHome scopeIn)
    (valid : assertHomeScope scopeIn = .ok scope) (passes : Nat) (lastError : Option Failure)
    (winnable : Winnable t scope passes h) (idle : ¬ Creating t h)
    : housing.Meets t call (ensurePass scopeIn scope passes lastError)
        (PlacesUnlessSpoilt t scope) h := by
  induction passes generalizing h lastError with
  | zero =>
    refine Meets.fail (fun h' moved => .inl ?_)
    rcases winnable with spoilt | ⟨n, le, stage⟩
    · exact spoilt.later moved.toAfter
    · cases Nat.le_zero.mp le
      exact stage.elim
  | succ passes ih =>
    unfold ensurePass
    refine select_bind (fun h1 moved1 => ?_)
    have idle1 : ¬ Creating t h1 := idle_later idle (onlyIncidental_of_own moved1.own)
    have winnable1 := winnable.later moved1.toAfter
    split
    · exact meets_known valid idle1
    rename_i unknown
    have unknown1 : ¬ Known scope h1.state.db :=
      fun known => unknown (knownConnection_iff.mpr known)
    refine select_bind (fun h2 moved2 => ?_)
    have idle2 : ¬ Creating t h2 := idle_later idle1 (onlyIncidental_of_own moved2.own)
    split
    · rename_i missing
      have homeless
          : ¬ ∃ home ∈ h1.state.db.homes, home.accountId = scope.accountId :=
        fun homed => defaultHome_none moved2.inv missing (account_grows moved2.le.1 homed)
      have left := winnable1.without_home unknown1 homeless
      refine meets_command_bind permissive_housing trivial (fun stamp h3 after3 only3 => ?_)
      have pre : Housing call (.mintId "home" 12) := fun _ registers => registers.elim
      refine perform_bind (fun h4 moved4 => ⟨pre, ?_⟩)
      have after4 : housing.After h3 (h4.exec t (Command.mintId "home" 12)) :=
        exec call moved4.toAfter pre
      have after := moved2.toAfter.trans (after3.trans after4)
      have idle4 : ¬ Creating t (h4.exec t (Command.mintId "home" 12)) :=
        idle_exec (idle_later idle2 (only3.trans (onlyIncidental_of_own moved4.own)))
          (not_creates_of_homes rfl)
      refine meets_createHome asked valid (left.imp (fun spoilt => spoilt.later after) id) idle4
        rfl (fun error h5 _ winnable5 idle5 => ?_)
      exact ih (some (.sql error)) winnable5 idle5
    · rename_i home found
      obtain ⟨stored, account⟩ := defaultHome_some found
      refine meets_command_bind permissive_housing trivial (fun stamp h3 after3 only3 => ?_)
      have idle3 := idle_later idle2 only3
      have denied {h' : History machine} (idle' : ¬ Creating t h')
          : ∀ h'', housing.After h' h'' → OnlyIncidental t h' h''
            → PlacesUnlessSpoilt t scope (.error (.realm "scope_not_authorized")) h'' :=
        fun _ _ only => .inr ⟨rfl, idle_later idle' only⟩
      refine meets_require_bind permissive_housing (fun tenant => ?_) (denied idle3)
      refine meets_require_bind permissive_housing (fun _ => ?_) (denied idle3)
      refine select_bind (fun h4 moved4 => ?_)
      have idle4 : ¬ Creating t h4 := idle_later idle3 (onlyIncidental_of_own moved4.own)
      refine meets_require_bind permissive_housing (fun free => ?_) (denied idle4)
      have after : housing.After h1 h4 := moved2.toAfter.trans (after3.trans moved4.toAfter)
      obtain ⟨home', stored', same⟩ := (after3.trans moved4.toAfter).le.1.homes home stored
      have identity : home'.identity = (home.homeId, scope.accountId, scope.tenantId) := by
        rw [same, HomeRow.identity, account, tenant]
      simp only [HomeRow.identity, Prod.mk.injEq] at identity
      have clear : ¬ Clashes scope h1.state.db := by
        intro clashes
        refine not_clashes moved4.inv stored' identity.2.1 ?_ (clashes.grows after.le.1)
        rw [identity.1]
        exact free
      have left := winnable1.without_clash unknown1 clear
      refine meets_attachConnection asked valid (left.imp (fun spoilt => spoilt.later after) id)
        idle4 ⟨home', stored', Prod.ext identity.1 (Prod.ext identity.2.1 identity.2.2)⟩
        (fun role => rfl) (fun h5 _ spoilt5 idle5 => ?_) (fun error h5 _ winnable5 idle5 => ?_)
      · exact ih lastError (.inl spoilt5) idle5
      · exact ih (some (.sql error)) winnable5 idle5

end CairnStone.PrivateRealm.D1Store
