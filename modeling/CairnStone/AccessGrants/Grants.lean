import CairnStone.Concurrency.Admission
import CairnStone.Data.Lookup
import CairnStone.TaskRuns.Programs

/-! Access grants: creation, first read and revocation, cut at every statement and at every reading of
the clock. Whether a grant has expired is decided on texts; what is promised is about instants.
-/

namespace CairnStone.AccessGrants

open JavaScript Data Concurrency Protocol List Meets Kept History Bool Nat
open TaskRuns (Refusal refuse refuseThrown refuseEntry nonEmptyString actorId isMarkedName isGiven textList)

inductive GrantStatus where
  | granted
  | firstRead
  | revoked
  deriving DecidableEq

structure GrantRow where
  (grantId objectRef principalActorId permission grantorActorId createdAt : Text)
  (expiresAt revokedAt : Option Text)
  status : GrantStatus
  firstReadAt : Option Text
  notify : Bool

/-- The table, and the number of commands executed so far. -/
structure Store where
  rows : List GrantRow
  steps : Nat

def Store.empty : Store :=
  ⟨[], 0⟩

/-- The clock's reading after each number of commands, the text of an instant, and `Date.parse` where it is
a number.
-/
structure Platform where
  clock : Nat → Int
  toISOString : Int → Text
  dateParse : Text → Option Int

inductive Command where
  | dateNow
  | insertGrant (row : GrantRow)
  | setRevoked (id revokedAt : Text)
  | setFirstRead (id firstReadAt : Text)

def Command.Reply : Command → Type
  | .dateNow => Int
  | .insertGrant _ => Bool
  | .setRevoked _ _ => Unit
  | .setFirstRead _ _ => Unit

def findGrant (id : Text) (rows : List GrantRow) : Option GrantRow :=
  rows.find? (fun row => row.grantId == id)

/-- `grant_id = ? AND status != 'revoked'` -/
def isUnrevoked (id : Text) (row : GrantRow) : Bool :=
  row.grantId == id && row.status != .revoked

def GrantRow.revoke (revokedAt : Text) (row : GrantRow) : GrantRow :=
  { row with status := .revoked, revokedAt := some revokedAt }

/-- `grant_id = ? AND status = 'granted'` -/
def isUnread (id : Text) (row : GrantRow) : Bool :=
  row.grantId == id && row.status == .granted

def GrantRow.read (firstReadAt : Text) (row : GrantRow) : GrantRow :=
  { row with status := .firstRead, firstReadAt := some firstReadAt }

def Command.rows (cmd : Command) (rows : List GrantRow) : List GrantRow :=
  match cmd with
  | .dateNow => rows
  | .insertGrant row => if (findGrant row.grantId rows).isNone then rows ++ [row] else rows
  | .setRevoked id revokedAt => updateWhere (isUnrevoked id) (.revoke revokedAt) rows
  | .setFirstRead id firstReadAt => updateWhere (isUnread id) (.read firstReadAt) rows

def Command.reply (clock : Nat → Int) (db : Store) : (cmd : Command) → cmd.Reply
  | .dateNow => clock db.steps
  | .insertGrant row => (findGrant row.grantId db.rows).isNone
  | .setRevoked _ _ => ()
  | .setFirstRead _ _ => ()

@[reducible] def grants (platform : Platform) : Machine where
  State := Store
  Command := Command
  Reply := Command.Reply
  exec cmd db := (cmd.reply platform.clock db, ⟨cmd.rows db.rows, db.steps + 1⟩)
  Event := Empty
  disturb := Empty.elim

abbrev Operation (platform : Platform) (α : Type) := Program (grants platform) Refusal α

structure Answer where
  accessGrant : GrantRow
  already : Bool

/-- `grantId(value)`, with the message that it throws -/
def grantId (value : Value) : Except Text Text :=
  match nonEmptyString value with
  | none => .error (text "Missing required string: grant_id")
  | some s =>
    if isMarkedName "grant:" s then .ok s else .error (text "Invalid grant id for grant_id")

structure CreateArguments where
  (grantId objectRef principalActorId permission grantorActorId expiresAt notify : Value)
  uuid : Text

structure GrantArguments where
  (grantId actorId : Value)

inductive Call where
  | create (args : CreateArguments)
  | revoke (args : GrantArguments)
  | markFirstRead (args : GrantArguments)

def ACCESS_GRANT_PERMISSIONS : List Text :=
  [text "read", text "discuss", text "execute-against"]

/-- The ids of the grantor, of the principal and of the grant -/
def createIds (args : CreateArguments) : Except Text (Text × Text × Text) := do
  let grantor ← actorId args.grantorActorId "grantor_actor_id"
  let principal ← actorId args.principalActorId "principal_actor_id"
  let id ←
    if args.grantId.truthy then grantId args.grantId
    else .ok (text "grant:" ++ args.uuid)
  .ok (grantor, principal, id)

def checkPermission (value : Value) : Except Refusal Text :=
  match ACCESS_GRANT_PERMISSIONS.find? (fun s => value.strictEquals (.string s)) with
  | some permission => .ok permission
  | none =>
    .error
      { error := text "invalid_permission"
        details := [(text "allowed", textList ACCESS_GRANT_PERMISSIONS)] }

def normalizeObjectRef (value : Value) : Except Refusal Text :=
  match nonEmptyString value with
  | none => .error (refuse "object_ref_required")
  | some s => refuseEntry ((TaskRuns.parseObjectRef s).map (·.take TaskRuns.MAX_REF_LEN))

def checkExpiresAt (value : Value) (createdAt : Text) : Except Refusal (Option Text) :=
  if isGiven value then
    match nonEmptyString value with
    | none => .error (refuse "invalid_expires_at")
    | some expiresAt =>
      if expiresAt ≤ createdAt then .error (refuse "expires_at_must_be_future")
      else .ok (some expiresAt)
  else .ok none

/-- `isExpired(grant, nowIso)` -/
def isExpired (grant : GrantRow) (nowIso : Text) : Bool :=
  grant.expiresAt.any (fun expiresAt => expiresAt != [] && expiresAt ≤ nowIso)

section

variable {platform : Platform}

def perform (cmd : Command) : Operation platform cmd.Reply :=
  Program.perform (M := grants platform) cmd

def selectGrant (id : Text) : Operation platform (Option GrantRow) :=
  Program.select (M := grants platform) (fun db => findGrant id (Store.rows db))

def readBack (id : Text) : Operation platform Answer := do
  let row ← selectGrant id
  match row with
  -- No row is ever deleted.
  | none => .fail (refuse "TypeError")
  | some row => return ⟨row, false⟩

def createAccessGrant (args : CreateArguments) : Operation platform Answer := do
  let (grantor, principal, id) ←
    Program.ofExcept (refuseThrown "invalid_access_grant_create" (createIds args))
  let permission ← Program.ofExcept (checkPermission args.permission)
  let objectRef ← Program.ofExcept (normalizeObjectRef args.objectRef)
  let now : Int ← perform .dateNow
  let createdAt := platform.toISOString now
  let expiresAt ← Program.ofExcept (checkExpiresAt args.expiresAt createdAt)
  let inserted : Bool ←
    perform
      (.insertGrant
        { grantId := id, objectRef, principalActorId := principal, permission
          grantorActorId := grantor, createdAt, expiresAt, revokedAt := none, status := .granted
          firstReadAt := none, notify := args.notify.strictEquals (.bool true) })
  if inserted then readBack id
  else
    .fail
      { error := text "access_grant_already_exists", details := [(text "grant_id", .string id)] }

def refuseGrant (error : String) (id : Text) : Refusal where
  error := text error
  details := [(text "grant_id", .string id)]

def grantAndActor (error : String) (args : GrantArguments) : Except Refusal (Text × Text) :=
  refuseThrown error (do
    let id ← grantId args.grantId
    let actor ← actorId args.actorId "actor_id"
    .ok (id, actor))

def revokeAccessGrant (args : GrantArguments) : Operation platform Answer := do
  let (id, actor) ← Program.ofExcept (grantAndActor "invalid_access_grant_revoke" args)
  let row ← selectGrant id
  match row with
  | none => .fail (refuseGrant "access_grant_not_found" id)
  | some grant =>
    if grant.grantorActorId ≠ actor then .fail (refuseGrant "access_grant_revoke_forbidden" id)
    else if grant.status = .revoked then return ⟨grant, true⟩
    else do
      let now : Int ← perform .dateNow
      perform (.setRevoked id (platform.toISOString now))
      readBack id

/-- What follows the reading of the clock in `markAccessGrantFirstRead` -/
def markUnlessExpired (id : Text) (grant : GrantRow) (nowIso : Text) : Operation platform Answer :=
  if isExpired grant nowIso then
    .fail
      { error := text "access_grant_expired"
        details :=
          [(text "grant_id", .string id),
            (text "expires_at", (grant.expiresAt.map Value.string).getD .null)] }
  else if grant.status = .firstRead then return ⟨grant, true⟩
  else do
    perform (.setFirstRead id nowIso)
    readBack id

def markAccessGrantFirstRead (args : GrantArguments) : Operation platform Answer := do
  let (id, actor) ← Program.ofExcept (grantAndActor "invalid_access_grant_mark_first_read" args)
  let row ← selectGrant id
  match row with
  | none => .fail (refuseGrant "access_grant_not_found" id)
  | some grant =>
    if grant.principalActorId ≠ actor then
      .fail (refuseGrant "access_grant_first_read_forbidden" id)
    else if grant.status = .revoked then .fail (refuseGrant "access_grant_revoked" id)
    else do
      let now : Int ← perform .dateNow
      markUnlessExpired id grant (platform.toISOString now)

def body : Call → Operation platform Answer
  | .create args => createAccessGrant args
  | .revoke args => revokeAccessGrant args
  | .markFirstRead args => markAccessGrantFirstRead args

end

/-- The step of a status: a grant is read, and a grant is revoked once. -/
def GrantStatus.next : GrantStatus → List GrantStatus
  | .granted => [.firstRead, .revoked]
  | .firstRead => [.revoked]
  | .revoked => []

/-- From `old`, a grant may have become `new`. -/
structure GrantRow.Moves (old new : GrantRow) : Prop where
  status : new.status = old.status ∨ new.status ∈ old.status.next
  firstReadAt : ∀ instant, old.firstReadAt = some instant → new.firstReadAt = some instant
  revokedAt : ∀ instant, old.revokedAt = some instant → new.revokedAt = some instant
  rest
    : { new with
        status := old.status
        firstReadAt := old.firstReadAt
        revokedAt := old.revokedAt } = old

section

variable (platform : Platform)

def Outlives (row : GrantRow) (now : Int) : Prop :=
  ∀ expiresAt, row.expiresAt = some expiresAt
    → ∃ instant, platform.dateParse expiresAt = some instant ∧ now < instant

def CreatedInTime (row : GrantRow) (db : Store) : Prop :=
  ∃ k < db.steps, row.createdAt = platform.toISOString (platform.clock k)
    ∧ Outlives platform row (platform.clock k)

/-- At some instant of the call, the grant was not revoked and the clock stood before its expiry. -/
def ReadInTime (args : GrantArguments) (start : Store) (h : History (grants platform)) : Prop :=
  SeenSince (M := grants platform) .empty start
    (fun db => ∃ id row, grantId args.grantId = .ok id ∧ findGrant id (Store.rows db) = some row
      ∧ row.status ≠ .revoked ∧ Outlives platform row (platform.clock (Store.steps db))) h

/-- What is promised of the grants in a run. -/
structure Honoured (config : Config (grants platform) Call Refusal Answer) : Prop where
  future : ∀ row ∈ Store.rows config.history.state, CreatedInTime platform row config.history.state
  firstRead
    : ∀ (t : Nat) (thread : Thread (grants platform) Call Refusal Answer) args answer,
      config.threads[t]? = some thread → thread.call = .markFirstRead args
      → thread.answer = some (.ok answer) → ReadInTime platform args thread.start config.history
  moves
    : ∀ early late, early <:+ late → late <:+ config.history.log → ∀ id row,
      findGrant id (Store.rows (stateAfter (M := grants platform) .empty early)) = some row
      → ∃ row', findGrant id (Store.rows (stateAfter (M := grants platform) .empty late)) = some row'
        ∧ row.Moves row'

/-- The first instant whose text has a year of more than four digits -/
def YEAR_10000 : Int := 253402300800000

/-- The text denotes an instant, and comes after the text of another only if that one is earlier. -/
def Timely (expiresAt : Text) : Prop :=
  ∃ instant, platform.dateParse expiresAt = some instant
    ∧ ∀ now < YEAR_10000, platform.toISOString now < expiresAt → now < instant

def Sensible (_ : Nat) (cmd : Command) (h : History (grants platform)) : Prop :=
  (platform.clock (Store.steps h.state) < YEAR_10000
    ∧ ∀ k < Store.steps h.state, platform.clock k ≤ platform.clock (Store.steps h.state))
  ∧ ∀ row, cmd = .insertGrant row
    → ∀ expiresAt, row.expiresAt = some expiresAt → Timely platform expiresAt

def Promise (_ : Nat) (cmd : Command) (h : History (grants platform)) : Prop :=
  ∀ row, cmd = .insertGrant row
    → (row.status = .granted ∧ row.firstReadAt = none ∧ row.revokedAt = none)
      ∧ ∃ k < Store.steps h.state, row.createdAt = platform.toISOString (platform.clock k)
        ∧ ∀ expiresAt, row.expiresAt = some expiresAt → row.createdAt < expiresAt

abbrev Lives (h : History (grants platform)) : Prop :=
  Kept (M := grants platform) .empty (Promise platform) h

end

inductive GrantRow.Step (old : GrantRow) : GrantRow → Prop
  | same : old.Step old
  | revoke (instant : Text) (active : old.status ≠ .revoked) : old.Step (old.revoke instant)
  | read (instant : Text) (unread : old.status = .granted) : old.Step (old.read instant)

/-- What is not reached yet has no time. -/
structure GrantRow.Fits (row : GrantRow) : Prop where
  unread : row.status = .granted → row.firstReadAt = none
  active : row.status ≠ .revoked → row.revokedAt = none
  dated : row.expiresAt ≠ some []

variable {platform : Platform} {h h' : History (grants platform)} {t : Nat} {call : Call}
  {old new row : GrantRow} {rows : List GrantRow} {id : Text} {cmd : Command}

theorem mem_next_trans {first second third : GrantStatus} (moved : second ∈ first.next)
    (moved' : third ∈ second.next)
    : third ∈ first.next := by
  cases first <;> cases second <;> simp_all [GrantStatus.next]

theorem GrantRow.Moves.refl (row : GrantRow) : row.Moves row where
  status := .inl rfl
  firstReadAt _ same := same
  revokedAt _ same := same
  rest := rfl

theorem GrantRow.Moves.trans {middle : GrantRow} (first : old.Moves middle) (second : middle.Moves new)
    : old.Moves new where
  status := by
    rcases first.status with same | moved
    · rw [← same]
      exact second.status
    · rcases second.status with same | moved'
      · exact .inr (same ▸ moved)
      · exact .inr (mem_next_trans moved moved')
  firstReadAt when same := second.firstReadAt when (first.firstReadAt when same)
  revokedAt when same := second.revokedAt when (first.revokedAt when same)
  rest := by
    rw [← first.rest, ← second.rest]

theorem GrantRow.Step.moves (fits : old.Fits) (step : old.Step new) : old.Moves new ∧ new.Fits := by
  cases step with
  | same => exact ⟨.refl old, fits⟩
  | revoke when active =>
    refine ⟨⟨?_, fun _ same => same, ?_, rfl⟩, ⟨?_, ?_, fits.dated⟩⟩
    · change GrantStatus.revoked = old.status ∨ GrantStatus.revoked ∈ old.status.next
      cases old.status <;> decide
    · intro _ same
      rw [fits.active active] at same
      cases same
    · intro same
      cases same
    · intro other
      exact absurd rfl other
  | read when unread =>
    refine ⟨⟨?_, ?_, fun _ same => same, rfl⟩, ⟨?_, ?_, fits.dated⟩⟩
    · change GrantStatus.firstRead = old.status ∨ GrantStatus.firstRead ∈ old.status.next
      rw [unread]
      decide
    · intro _ same
      rw [fits.unread unread] at same
      cases same
    · intro same
      cases same
    · intro _
      refine fits.active ?_
      rw [unread]
      decide

theorem GrantRow.Step.kept (step : old.Step new)
    : new.createdAt = old.createdAt ∧ new.expiresAt = old.expiresAt := by
  cases step with
  | same => exact ⟨rfl, rfl⟩
  | revoke when _ => exact ⟨rfl, rfl⟩
  | read when _ => exact ⟨rfl, rfl⟩

theorem step_revoke (id when : Text) (row : GrantRow)
    : row.Step (if isUnrevoked id row then row.revoke when else row) := by
  split
  · rename_i hit
    rw [isUnrevoked, and_eq_true, bne_iff_ne] at hit
    exact .revoke when hit.2
  · exact .same

theorem step_read (id when : Text) (row : GrantRow)
    : row.Step (if isUnread id row then row.read when else row) := by
  split
  · rename_i hit
    rw [isUnread, and_eq_true, beq_iff_eq, beq_iff_eq] at hit
    exact .read when hit.2
  · exact .same

/-- Where the rows of the next state come from. -/
theorem step_of_mem (mem : new ∈ cmd.rows rows)
    : (∃ old ∈ rows, old.Step new) ∨ cmd = .insertGrant new := by
  cases cmd with
  | dateNow => exact .inl ⟨new, mem, .same⟩
  | insertGrant row =>
    unfold Command.rows at mem
    simp only at mem
    split at mem
    · rcases mem_append.mp mem with old | added
      · exact .inl ⟨new, old, .same⟩
      · rw [mem_singleton.mp added]
        exact .inr rfl
    · exact .inl ⟨new, mem, .same⟩
  | setRevoked id revokedAt =>
    obtain ⟨old, present, rfl⟩ := mem_map.mp mem
    exact .inl ⟨old, present, step_revoke id revokedAt old⟩
  | setFirstRead id firstReadAt =>
    obtain ⟨old, present, rfl⟩ := mem_map.mp mem
    exact .inl ⟨old, present, step_read id firstReadAt old⟩

theorem findGrant_rows (found : findGrant id rows = some old) (cmd : Command)
    : ∃ new, findGrant id (cmd.rows rows) = some new ∧ old.Step new := by
  cases cmd with
  | dateNow => exact ⟨old, found, .same⟩
  | insertGrant row =>
    unfold Command.rows
    simp only
    split
    · exact ⟨old, find_append_of_some found, .same⟩
    · exact ⟨old, found, .same⟩
  | setRevoked other when =>
    have after := @find_updateWhere GrantRow Text _ GrantRow.grantId rows (isUnrevoked other)
      (.revoke when) (fun _ => rfl) id
    rw [show rows.find? (fun row => row.grantId == id) = some old from found] at after
    exact ⟨_, after, step_revoke other when old⟩
  | setFirstRead other when =>
    have after := @find_updateWhere GrantRow Text _ GrantRow.grantId rows (isUnread other)
      (.read when) (fun _ => rfl) id
    rw [show rows.find? (fun row => row.grantId == id) = some old from found] at after
    exact ⟨_, after, step_read other when old⟩

structure InOrder (h : History (grants platform)) : Prop where
  steps : Store.steps h.state = h.log.length
  fits : ∀ row ∈ Store.rows h.state, row.Fits

/-- Every state is in order. Witness: an insertion promises as much of its row. -/
theorem inOrder (lives : Lives platform h) : InOrder h := by
  refine invariant lives ⟨rfl, forall_mem_nil _⟩ ?_
  intro g t cmd _ due before
  refine ⟨congrArg (· + 1) before.steps, fun row mem => ?_⟩
  rcases step_of_mem mem with ⟨old, present, step⟩ | put
  · exact (step.moves (before.fits old present)).2
  · obtain ⟨⟨_, unread, active⟩, _, _, _, behind⟩ := due row put
    refine ⟨fun _ => unread, fun _ => active, fun same => ?_⟩
    exact absurd (behind [] same) (not_lt_nil _)

/-- A grant that is found is found later, moved. Witness: each command is a step of it. -/
theorem moves_of_le (lives : Lives platform h) (lives' : Lives platform h') (le : h.log <:+ h'.log)
    (found : findGrant id (Store.rows h.state) = some old)
    : ∃ new, findGrant id (Store.rows h'.state) = some new ∧ old.Moves new := by
  refine grow
    (J := fun g => ∃ new, findGrant id (Store.rows g.state) = some new ∧ old.Moves new)
    lives lives' le (respects_true h') ⟨old, found, .refl old⟩ ?_
  rintro g t cmd now - - - ⟨middle, here, moved⟩
  obtain ⟨new, found', step⟩ := findGrant_rows here cmd
  have fits := (inOrder now).fits middle (mem_of_find?_eq_some here)
  exact ⟨new, found', moved.trans (step.moves fits).1⟩

/-- What the condition keeps: the clock goes forward up to the last year, and what is stored expires as
its text says, after its creation.
-/
structure OnTime (h : History (grants platform)) : Prop where
  forward
    : ∀ k < Store.steps h.state, platform.clock k < YEAR_10000
      ∧ ∀ j ≤ k, platform.clock j ≤ platform.clock k
  timely
    : ∀ row ∈ Store.rows h.state, ∀ expiresAt, row.expiresAt = some expiresAt
      → Timely platform expiresAt
  future : ∀ row ∈ Store.rows h.state, CreatedInTime platform row h.state

/-- Witness: by its promise, the expiry of an inserted row is behind its creation as a text. -/
theorem onTime (lives : Lives platform h) (sensible : h.Respects (Sensible platform)) : OnTime h := by
  refine run lives sensible ⟨fun k never => absurd never (not_lt_zero k),
    forall_mem_nil _, forall_mem_nil _⟩ ?_
  intro g t cmd _ _ due sensible before
  refine ⟨fun k prior => ?_, fun row mem => ?_, fun row mem => ?_⟩
  · rcases Nat.lt_succ_iff_lt_or_eq.mp prior with old | rfl
    · exact before.forward k old
    · refine ⟨sensible.1.1, fun j le => ?_⟩
      rcases lt_or_eq_of_le le with less | rfl
      · exact sensible.1.2 j less
      · exact Int.le_refl _
  · rcases step_of_mem mem with ⟨old, present, step⟩ | put
    · rw [step.kept.2]
      exact before.timely old present
    · exact sensible.2 row put
  · rcases step_of_mem mem with ⟨old, present, step⟩ | put
    · obtain ⟨k, prior, made, outlives⟩ := before.future old present
      rw [← step.kept.1] at made
      unfold Outlives at outlives
      rw [← step.kept.2] at outlives
      exact ⟨k, lt_succ_of_lt prior, made, outlives⟩
    · obtain ⟨_, k, prior, made, behind⟩ := due row put
      refine ⟨k, lt_succ_of_lt prior, made, fun expiresAt same => ?_⟩
      obtain ⟨when, denotes, later⟩ := sensible.2 row put expiresAt same
      refine ⟨when, denotes, later _ (before.forward k prior).1 ?_⟩
      rw [← made]
      exact behind expiresAt same

/-- The operation keeps its promises from `h` on. -/
abbrev Obliged (t : Nat) (call : Call) {α : Type} (p : Operation platform α)
    (Q : Except Refusal α → History (grants platform) → Prop) (h : History (grants platform))
    : Prop :=
  (promising (M := grants platform) .empty (Promise platform)).Meets t call p Q h

/-- What holds when a call has answered -/
def Outcome (_ : Nat) (call : Call) (start : Store) (answer : Except Refusal Answer)
    (h : History (grants platform))
    : Prop :=
  ∀ args value, call = .markFirstRead args → answer = .ok value
    → h.Respects (Sensible platform) → ReadInTime platform args start h

theorem outcome_error {start : Store} {why : Refusal}
    : Outcome t call start (.error why) h := by
  intro args value _ never
  cases never

/-- A grant that was found unrevoked, and that the clock's reading did not find expired afterwards.
Witness: the clock stood no later when the grant was found.
-/
theorem readInTime_of_reading {h1 h2 : History (grants platform)} {args : GrantArguments}
    (lives : Lives platform h) (lives1 : Lives platform h1) (le : h.log <:+ h1.log)
    (named : grantId args.grantId = .ok id)
    (found : findGrant id (Store.rows h1.state) = some row) (active : row.status ≠ .revoked)
    (lives2 : Lives platform h2) (le1 : h1.log <:+ h2.log)
    (current
      : isExpired row (platform.toISOString (platform.clock (Store.steps h2.state))) = false)
    (lives' : Lives platform h') (le2 : (h2.exec t .dateNow).log <:+ h'.log)
    (sensible : h'.Respects (Sensible platform))
    : ReadInTime platform args h.state h' := by
  have later1 : h1.log <:+ h'.log := le1.trans ((suffix_cons _ _).trans le2)
  refine (SeenSince.now lives lives1 le ⟨id, row, named, found, active, ?_⟩).later later1
  intro expiresAt same
  obtain ⟨when, denotes, later⟩ :=
    (onTime lives1 (sensible.earlier later1)).timely row (mem_of_find?_eq_some found) expiresAt same
  have read : Store.steps h2.state < Store.steps h'.state := by
    have longer := le2.length_le
    rw [exec_log, length_cons] at longer
    rw [(inOrder lives2).steps, (inOrder lives').steps]
    omega
  have started : Store.steps h1.state ≤ Store.steps h2.state := by
    rw [(inOrder lives1).steps, (inOrder lives2).steps]
    exact le1.length_le
  obtain ⟨bounded, forward⟩ := (onTime lives' sensible).forward _ read
  refine ⟨when, denotes, Int.lt_of_le_of_lt (forward _ started) (later _ bounded ?_)⟩
  rw [isExpired, same, Option.any_some, and_eq_false_iff] at current
  rcases current with blank | behind
  · obtain rfl : expiresAt = [] := by simpa using blank
    exact absurd same ((inOrder lives1).fits row (mem_of_find?_eq_some found)).dated
  · exact not_le.mp (of_decide_eq_false behind)

theorem promise_of_ne (t : Nat) {h : History (grants platform)} (other : ∀ row, cmd ≠ .insertGrant row)
    : Promise platform t cmd h :=
  fun row same => absurd same (other row)

theorem owes_readBack {Q : Except Refusal Answer → History (grants platform) → Prop}
    (id : Text) (any : ∀ answer h', h.log <:+ h'.log → Lives platform h' → Q answer h')
    : Obliged t call (readBack id) Q h := by
  refine select_bind (fun h1 moved1 => ?_)
  split
  · exact .fail (fun h2 moved2 => any _ h2 (moved1.le.trans moved2.le) moved2.inv)
  · exact .done (fun h2 moved2 => any _ h2 (moved1.le.trans moved2.le) moved2.inv)

theorem owes_update {Q : Except Refusal Answer → History (grants platform) → Prop}
    (id : Text) (other : ∀ row, cmd ≠ .insertGrant row)
    (any : ∀ answer h', h.log <:+ h'.log → Lives platform h' → Q answer h')
    : Obliged t call ((perform cmd).bind (fun _ => readBack id)) Q h := by
  refine perform_bind (fun h1 moved1 => ⟨promise_of_ne t other, ?_⟩)
  refine owes_readBack id (fun answer h2 later => any answer h2 ?_)
  exact moved1.le.trans ((suffix_cons _ _).trans later)

theorem owes_revoke (args : GrantArguments) (start : Store)
    : Obliged t (.revoke args) (revokeAccessGrant args) (Outcome t (.revoke args) start) h := by
  have any (answer : Except Refusal Answer) (h' : History (grants platform))
      : Outcome t (.revoke args) start answer h' := by
    intro _ _ never
    cases never
  refine ofExcept_bind (fun ids _ => ?_) (fun _ _ h1 _ => any _ h1)
  refine select_bind (fun h1 moved1 => ?_)
  split
  · exact .fail (fun h2 _ => any _ h2)
  · split
    · exact .fail (fun h2 _ => any _ h2)
    · split
      · exact .done (fun h2 _ => any _ h2)
      · refine perform_bind (fun h2 moved2 => ⟨promise_of_ne t (by simp), ?_⟩)
        exact owes_update _ (by simp) (fun answer h3 _ _ => any answer h3)

theorem behind_of_checkExpiresAt {value : Value} {createdAt : Text} {expires : Option Text}
    (fine : checkExpiresAt value createdAt = .ok expires)
    : ∀ expiresAt, expires = some expiresAt → createdAt < expiresAt := by
  rintro expiresAt rfl
  unfold checkExpiresAt at fine
  split at fine
  · split at fine
    · cases fine
    · split at fine
      · cases fine
      · rename_i behind
        cases fine
        exact not_le.mp behind
  · cases fine

theorem owes_create (args : CreateArguments) (start : Store)
    : Obliged t (.create args) (createAccessGrant args) (Outcome t (.create args) start) h := by
  have any (answer : Except Refusal Answer) (h' : History (grants platform))
      : Outcome t (.create args) start answer h' := by
    intro _ _ never
    cases never
  refine ofExcept_bind (fun ids _ => ?_) (fun _ _ h1 _ => any _ h1)
  refine ofExcept_bind (fun permission _ => ?_) (fun _ _ h1 _ => any _ h1)
  refine ofExcept_bind (fun objectRef _ => ?_) (fun _ _ h1 _ => any _ h1)
  refine perform_bind (fun h1 moved1 => ⟨promise_of_ne t (by simp), ?_⟩)
  refine ofExcept_bind (fun expires fine => ?_) (fun _ _ h2 _ => any _ h2)
  refine perform_bind (fun h2 moved2 => ⟨?_, ?_⟩)
  · rintro row same
    cases same
    refine ⟨⟨rfl, rfl, rfl⟩, Store.steps h1.state, ?_, rfl, behind_of_checkExpiresAt fine⟩
    have longer := moved2.le.length_le
    rw [exec_log, length_cons] at longer
    rw [(inOrder moved1.inv).steps, (inOrder moved2.inv).steps]
    omega
  · split
    · exact owes_readBack _ (fun answer h3 _ _ => any answer h3)
    · exact .fail (fun h3 _ => any _ h3)

theorem named_of_grantAndActor {error : String} {args : GrantArguments} {actor : Text}
    (read : grantAndActor error args = .ok (id, actor))
    : grantId args.grantId = .ok id := by
  have given := TaskRuns.ok_of_refuseThrown read
  obtain ⟨id', named, given⟩ := bind_eq_ok.mp given
  obtain ⟨actor', _, same⟩ := bind_eq_ok.mp given
  cases same
  exact named

theorem owes_markUnlessExpired {args : GrantArguments} {start : Store} {nowIso : Text}
    (inTime
      : isExpired row nowIso = false → ∀ answer h', h.log <:+ h'.log → Lives platform h'
        → Outcome t (.markFirstRead args) start answer h')
    : Obliged t (.markFirstRead args) (markUnlessExpired id row nowIso)
        (Outcome t (.markFirstRead args) start) h := by
  unfold markUnlessExpired
  split
  · exact .fail (fun _ _ => outcome_error)
  · rename_i unexpired
    have current := eq_false_of_ne_true unexpired
    split
    · exact .done (fun h1 moved1 => inTime current _ h1 moved1.le moved1.inv)
    · exact owes_update id (by simp) (fun answer h1 => inTime current answer h1)

theorem owes_markFirstRead (args : GrantArguments) (lives : Lives platform h)
    : Obliged t (.markFirstRead args) (markAccessGrantFirstRead args)
        (Outcome t (.markFirstRead args) h.state) h := by
  refine ofExcept_bind (fun (id, actor) read => ?_) (fun _ _ _ _ => outcome_error)
  refine select_bind (fun h1 moved1 => ?_)
  split
  · exact .fail (fun _ _ => outcome_error)
  · rename_i row found
    split
    · exact .fail (fun _ _ => outcome_error)
    · split
      · exact .fail (fun _ _ => outcome_error)
      · rename_i active
        refine perform_bind (fun h2 moved2 => ⟨promise_of_ne t (by simp), ?_⟩)
        refine owes_markUnlessExpired (fun current answer h3 later lives' => ?_)
        intro _ _ same _ sensible
        cases same
        exact readInTime_of_reading lives moved1.inv moved1.le (named_of_grantAndActor read) found
          active moved2.inv moved2.le current lives' later sensible

theorem meets_body (t : Nat) (call : Call) (start : History (grants platform))
    (lives : Lives platform start)
    : Obliged t call (body call) (Outcome t call start.state) start := by
  cases call with
  | create args => exact owes_create args start.state
  | revoke args => exact owes_revoke args start.state
  | markFirstRead args => exact owes_markFirstRead args lives

/-- In every run that keeps to the condition at each command, grants honour expiry and revocation. -/
theorem honoured_of_sensible (platform : Platform) (schedule : List (Action (grants platform) Call))
    (sensible
      : ((Config.init (M := grants platform) .empty).run body schedule).history.Respects
          (Sensible platform))
    : Honoured platform ((Config.init (M := grants platform) .empty).run body schedule) := by
  have sound := (promising (M := grants platform) .empty (Promise platform)).sound
    (fun t call start lives _ => meets_body t call start lives) .nil schedule
  refine ⟨(onTime sound.inv sensible).future, ?_, ?_⟩
  · intro t thread args answer found asked answered
    exact sound.post_of_answer found answered args answer asked rfl sensible
  · intro early late le upTo id row found
    exact moves_of_le (sound.inv.earlier (le.trans upTo)) (sound.inv.earlier upTo) le found

namespace Sample

def last : Text :=
  text "9999-12-31T23:59:59.999Z"

/-- A clock that stands still at the first instant of the year 2026. -/
def still : Platform where
  clock _ := 1767225600000
  toISOString now := if now + 1 < YEAR_10000 then text "2026-01-01T00:00:00.000Z" else last
  dateParse s := if s = last then some (YEAR_10000 - 1) else none

/-- A grant is created, read for the first time and revoked. -/
def schedule (expiresAt : Text) : List (Action (grants still) Call) :=
  [.spawn (.create
      { grantId := .string (text "grant:one")
        objectRef := .string (text "cmsg:one"), principalActorId := .string (text "agent:bob")
        permission := .string (text "read"), grantorActorId := .string (text "user:ann")
        expiresAt := .string expiresAt, notify := .undefined
        uuid := text "0" }),
    .step 0, .step 0, .step 0,
    .spawn (.markFirstRead ⟨.string (text "grant:one"), .string (text "agent:bob")⟩),
    .step 1, .step 1,
    .spawn (.revoke ⟨.string (text "grant:one"), .string (text "user:ann")⟩),
    .step 2, .step 2, .step 1, .step 2, .step 1, .step 2]

def run (expiresAt : Text) : Config (grants still) Call Refusal Answer :=
  (Config.init (M := grants still) .empty).run body (schedule expiresAt)

def isDated (issued : Issued (grants still)) : Bool :=
  match issued.command with
  | .insertGrant row => row.expiresAt.all (· == last)
  | _ => true

theorem timely_last : Timely still last := by
  refine ⟨YEAR_10000 - 1, by simp [still], fun now _ before => ?_⟩
  by_contra reached
  have same : still.toISOString now = last := if_neg (by omega)
  rw [same] at before
  exact lt_irrefl last before

theorem sensible_of_dated {log : List (Issued (grants still))} (dated : log.all isDated = true)
    : RespectsLog (Sensible still) log := by
  induction log with
  | nil => trivial
  | cons issued prior ih =>
    rw [all_cons, and_eq_true] at dated
    have early : (1767225600000 : Int) < YEAR_10000 := by decide
    refine ⟨⟨⟨early, fun _ _ => Int.le_refl _⟩, ?_⟩, ih dated.2⟩
    intro row put expiresAt same
    have only := dated.1
    simp only [isDated, put, same, Option.all_some, beq_iff_eq] at only
    rw [only]
    exact timely_last

end Sample

open Sample

theorem honoured_untilLast : Honoured Sample.still (Sample.run Sample.last) :=
  honoured_of_sensible still (schedule last)
    (sensible_of_dated (by decide +kernel))

/-- A text that denotes no instant is accepted as an expiry. -/
theorem zzz_accepted
    : ¬ ∀ (platform : Platform) (schedule : List (Action (grants platform) Call)),
        Honoured platform ((Config.init (M := grants platform) .empty).run body schedule) := by
  intro honoured
  have stored
      : (Store.rows (run (text "zzz")).history.state).any
          (fun row => row.expiresAt == some (text "zzz")) = true := by
    decide +kernel
  obtain ⟨row, member, same⟩ := any_eq_true.mp stored
  obtain ⟨_, _, _, outlives⟩ :=
    (honoured still (schedule (text "zzz"))).future row member
  obtain ⟨instant, denotes, _⟩ := outlives (text "zzz") (beq_iff_eq.mp same)
  have nothing : still.dateParse (text "zzz") = none := by decide
  rw [nothing] at denotes
  cases denotes

end CairnStone.AccessGrants
