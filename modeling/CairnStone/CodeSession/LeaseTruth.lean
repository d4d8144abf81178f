import CairnStone.CodeSession.LeaseCalls
import CairnStone.Concurrency.Snapshots

/-! What lease calls say of a lease. A lease that has ended stays so; and while an acquisition finds the
lease that it renews in place, and no expiry overwrites a release, each answer tells what the lease was
at an instant during the call.
-/

namespace CairnStone.CodeSession

open JavaScript Data Concurrency Protocol List Option Bool Database Config Meets
open Workspace (TipEntry)
open TaskRuns (Refusal refuseThrown isMarkedName isName isNameUnit isLetter lowerAscii
  startsWithIgnoringCase nonEmptyString)
open Conversation (markedId)

variable {leases : List LeaseRow} {p : LeaseRow → Bool} {f : LeaseRow → LeaseRow} {db : Database}
  {row : LeaseRow} {id : Text}

-- Ids

structure SoundId (id : Text) : Prop where
  accepted : leaseId (.string id) = .ok id
  shown : scrubText id = id

def isHalfDigest (s : Text) : Bool :=
  s.length == 32 && s.all (fun u => isDigit u || (0x61 ≤ u && u ≤ 0x66))

theorem isHalfDigest_take (digest : Digest) : isHalfDigest (digest.text.take 32) = true := by
  unfold isHalfDigest
  rw [and_eq_true, beq_iff_eq, length_take, digest.length]
  refine ⟨rfl, List.all_eq_true.mpr (fun u mem => ?_)⟩
  exact List.all_eq_true.mp digest.hex u (mem_of_mem_take mem)

def leaseUnits : Text :=
  text "lease:" ++ hexDigits

theorem leaseUnits_plain : leaseUnits.all isPlainUnit = true := by
  decide +kernel

theorem soundId_of_halfDigest {s : Text} (half : isHalfDigest s = true)
    : SoundId (text "lease:" ++ s) := by
  simp only [isHalfDigest, and_eq_true, beq_iff_eq, List.all_eq_true] at half
  obtain ⟨length, hex⟩ := half
  have digits : ∀ u ∈ s, u ∈ hexDigits := fun u mem => mem_hexDigits (by simpa using hex u mem)
  have plain : (text "lease:" ++ s).all isPlainUnit = true := by
    refine List.all_eq_true.mpr (fun u mem => List.all_eq_true.mp leaseUnits_plain u ?_)
    exact (mem_append.mp mem).elim (mem_append_left _)
      (fun digit => mem_append_right _ (digits u digit))
  have units (u : CodeUnit) (mem : u ∈ text "lease:" ++ s) : u ≠ 0x77 ∧ u ≠ 0x72 :=
    (isPlainUnit_iff.mp (List.all_eq_true.mp plain u mem)).2.2
  refine ⟨markedId_of_hex plain digits (by omega) (by omega),
    scrubText_of_not_secret (not_isSecretText ?_ ?_)⟩
  · rw [lowerAscii_of_plain plain]
    exact fun mem => (units _ mem).1 rfl
  · rw [lowerAscii_of_plain plain]
    exact fun mem => (units _ mem).2 rfl

-- Calls

inductive LeaseCall where
  | acquire (args : AcquireArguments)
  | renew (args : RenewArguments)
  | release (args : HoldArguments)
  | list (args : ListArguments)

/-- What a call asks of the lease that it gets. A renewal asks for no scope. -/
structure Terms where
  actor : Text
  scope : Option LeaseScope
  expiresAt : Nat
  deriving DecidableEq

/-- The lease is active, and as it has been asked for. -/
structure Grants (terms : Terms) (row : LeaseRow) : Prop where
  active : row.status = .active
  actor : row.actorId = terms.actor
  scope : ∀ scope, terms.scope = some scope → row.scope = scope
  expiresAt : row.expiresAt = terms.expiresAt

def AcquireTarget.terms (target : AcquireTarget) (now : Nat) : Terms where
  actor := target.actor
  scope := some target.scope
  expiresAt := expiryOf now target.ttlSeconds

def HoldTarget.terms (target : HoldTarget) (now ttlSeconds : Nat) : Terms where
  actor := target.actor
  scope := none
  expiresAt := expiryOf now ttlSeconds

namespace LeaseCall

def seeks : LeaseCall → Bool
  | .acquire _ => true
  | .renew _ => true
  | .release _ => false
  | .list _ => false

/-- The terms of a call whose args can be read. -/
def terms : LeaseCall → Option Terms
  | .acquire args =>
    (readAcquire args).toOption.map (fun target => target.terms args.now)
  | .renew args =>
    (readHold "invalid_code_session_lease_renew" args.toHoldArguments).toOption.map
      (fun target => target.terms args.now (clampLeaseTtlSeconds args.ttlSeconds))
  | .release _ => none
  | .list _ => none

/-- The call, with the digests and the clock's texts that it computes. -/
def body (sha256Text : Text → Digest) (toISOString : Nat → Text) : LeaseCall → Operation LeaseAnswer
  | .acquire args => acquireCodeSessionLease sha256Text toISOString args
  | .renew args => renewCodeSessionLease args
  | .release args => releaseCodeSessionLease args
  | .list args => listCodeSessionLeaseRows args

end LeaseCall

/-- The lease of an answer `{ ok: true, action: …, lease }` of an acquisition or a renewal. -/
def LeaseAnswer.granted : LeaseAnswer → Option (Option LeaseRecord)
  | .acquired lease _ => some lease
  | .renewedExisting lease _ => some lease
  | .renewed lease _ => some lease
  | _ => none

-- What statements do to a lease

structure SoundLeases (leases : List LeaseRow) : Prop where
  keyed : Keyed LeaseRow.leaseId leases
  sound : ∀ row ∈ leases, SoundId row.leaseId

def SoundInsert : Command → Prop
  | .insertLease row => SoundId row.leaseId
  | _ => True

def KeepsScopes (now : Nat) : Command → Prop
  | .insertLease _ => False
  | .rescopeLease _ _ _ _ _ _ => False
  | .renewLease _ _ _ renewal => renewal.now = now
  | _ => True

theorem soundInsert_of_keepsScopes {now : Nat} {cmd : Command} (keeps : KeepsScopes now cmd)
    : SoundInsert cmd := by
  cases cmd with
  | insertLease row => exact keeps.elim
  | _ => trivial

def heeds (db : Database) : Command → Bool
  | .rescopeLease id actor sessionId _ _ _ => db.leases.any (isHeld id actor sessionId)
  | .expireLease id sessionId _ =>
    db.leases.all (fun row => !(isNamed id sessionId row && row.status == .released))
  | _ => true

theorem SoundLeases.updateWhere (sound : SoundLeases leases)
    (same : ∀ row, (f row).leaseId = row.leaseId)
    : SoundLeases (Data.updateWhere p f leases) := by
  refine ⟨sound.keyed.updateWhere (fun row _ => same row), fun row mem => ?_⟩
  obtain ⟨old, here, rfl⟩ := mem_updateWhere.mp mem
  split
  · rw [same]
    exact sound.sound old here
  · exact sound.sound old here

/-- Statements keep ids sound. Witness: case analysis on the statement; updates leave ids alone. -/
theorem SoundLeases.exec (sound : SoundLeases db.leases) {cmd : Command}
    (insert : SoundInsert cmd)
    : SoundLeases (exec cmd db).2.leases := by
  cases cmd with
  | insertLease row =>
    simp only [CodeSession.exec, CodeSession.insertLease]
    cases found : findLease db.leases row.leaseId with
    | some old => exact sound
    | none =>
      refine ⟨sound.keyed.append_singleton (find_eq_none.mp found), fun other mem => ?_⟩
      rcases mem_append.mp mem with old | new
      · exact sound.sound other old
      · cases mem_singleton.mp new
        exact insert
  | expireStale | rescopeLease | renewLease | releaseLease | expireLease =>
    exact sound.updateWhere (fun _ => rfl)
  | insertCheckpoint | insertEvent | swapSession => exact sound

structure Follows (heeded : Bool) (old new : LeaseRow) : Prop where
  ended : old.status ≠ .active → new.status ≠ .active
  released : heeded = true → old.status = .released → new.status = .released

theorem Follows.refl {heeded : Bool} (row : LeaseRow) : Follows heeded row row :=
  ⟨id, fun _ => id⟩

/-- An update of active leases alone lets others be. -/
theorem Follows.of_active {heeded : Bool} (active : p row = true → row.status = .active)
    : Follows heeded row (if p row then f row else row) := by
  split
  · rename_i matched
    refine ⟨fun ended => absurd (active matched) ended, fun _ released => ?_⟩
    cases (active matched).symm.trans released
  · exact Follows.refl row

theorem mem_of_findLease (found : findLease leases id = some row)
    : row ∈ leases ∧ row.leaseId = id := by
  have there : leases.find? (fun row => row.leaseId == id) = some row := found
  exact mem_of_find there

theorem findLease_updateWhere (found : findLease leases id = some row)
    (same : ∀ row, (f row).leaseId = row.leaseId)
    : findLease (Data.updateWhere p f leases) id = some (if p row then f row else row) := by
  have there : leases.find? (fun row => row.leaseId == id) = some row := found
  calc findLease (Data.updateWhere p f leases) id
      = (leases.find? (fun row => row.leaseId == id)).map
          (fun row => if p row then f row else row) := find_updateWhere same id
    _ = some (if p row then f row else row) := by rw [there, map_some]

/-- A lease that is there stays there, and follows on what it was.
Witness: case analysis on the statement; all updates but one ask for an active lease.
-/
theorem findLease_exec (found : findLease db.leases id = some row) (cmd : Command)
    : ∃ row', findLease (exec cmd db).2.leases id = some row'
        ∧ Follows (heeds db cmd) row row' := by
  cases cmd with
  | insertLease added =>
    refine ⟨row, ?_, .refl row⟩
    simp only [exec, insertLease]
    cases findLease db.leases added.leaseId with
    | some old => exact found
    | none => exact find_append_of_some found
  | expireStale sessionId now =>
    refine ⟨_, findLease_updateWhere found (fun _ => rfl), .of_active (fun matched => ?_)⟩
    simp only [isStale, and_eq_true, beq_iff_eq] at matched
    exact matched.1.2
  | rescopeLease target actor sessionId scope checkpoint renewal =>
    refine ⟨_, findLease_updateWhere found (fun _ => rfl), .of_active (fun matched => ?_)⟩
    simp only [isHeld, and_eq_true, beq_iff_eq] at matched
    exact matched.2
  | renewLease target actor sessionId renewal =>
    refine ⟨_, findLease_updateWhere found (fun _ => rfl), .of_active (fun matched => ?_)⟩
    simp only [isRenewable, isHeld, and_eq_true, beq_iff_eq] at matched
    exact matched.1.2
  | releaseLease target actor sessionId now =>
    refine ⟨_, findLease_updateWhere found (fun _ => rfl), .of_active (fun matched => ?_)⟩
    simp only [isHeld, and_eq_true, beq_iff_eq] at matched
    exact matched.2
  | expireLease target sessionId now =>
    refine ⟨_, findLease_updateWhere found (fun _ => rfl), ?_⟩
    -- The one update that does not ask whether the lease is active.
    split
    · rename_i matched
      refine ⟨fun _ expired => LeaseStatus.noConfusion expired, fun heeded released => ?_⟩
      have none := List.all_eq_true.mp heeded row (mem_of_find?_eq_some found)
      simp [matched, released] at none
    · exact .refl row
  | insertCheckpoint | insertEvent | swapSession => exact ⟨row, found, .refl row⟩

-- The agreement

instance eventIsEmpty : IsEmpty store.Event :=
  inferInstanceAs (IsEmpty Empty)

section

variable (start : Database)
  {id sessionId : Text} {row : LeaseRow} {now : Nat} {target : AcquireTarget}
  {session : SessionRow}

def leaseAgreement : Protocol store LeaseCall :=
  .pledging (M := store) start (fun _ _ cmd _ => SoundInsert cmd)

variable {start} {h h' : History store}

theorem soundLeases_of_inv (none : start.leases = []) (lives : (leaseAgreement start).inv h)
    : SoundLeases (Database.leases h.state) := by
  refine lives.invariant (J := fun h => SoundLeases (leases h.state)) ?_ ?_
  · refine ⟨?_, fun row mem => ?_⟩
    · rw [none]
      exact .nil
    · rw [none] at mem
      cases mem
  · intro h t cmd _ due sound
    obtain ⟨_, insert⟩ := due
    exact sound.exec insert

theorem findLease_later (lives : (leaseAgreement start).inv h)
    (after : (leaseAgreement start).After h h')
    (found : findLease (Database.leases h.state) id = some row)
    : ∃ row', findLease (Database.leases h'.state) id = some row' := by
  refine Kept.state_grow (R := fun db => ∃ row, findLease (leases db) id = some row)
    lives after.inv after.le ⟨row, found⟩ ?_
  rintro db cmd ⟨old, here⟩
  obtain ⟨row', present', _⟩ := findLease_exec here cmd
  exact ⟨row', present'⟩

/-- A statement of the thread has left the lease as the call has asked for it, or has been heedless. -/
def HasGranted (t : Nat) (terms : Terms) (id : Text) (log : List (Issued store)) : Prop :=
  ∃ issued earlier, issued :: earlier <:+ log ∧ issued.thread = t
    ∧ (heeds issued.before issued.command = true
      → ∃ row, findLease (exec issued.command issued.before).2.leases id = some row
          ∧ Grants terms row)

def HasConcluded (t : Nat) (call : LeaseCall) (_ : Database) (answer : Except Text LeaseAnswer)
    (h : History store)
    : Prop :=
  call.seeks = true → ∀ result lease, answer = .ok result → result.granted = some lease
    → ∃ record terms, lease = some record ∧ call.terms = some terms
        ∧ HasGranted t terms record.leaseId h.log

variable {t : Nat} {call : LeaseCall} {origin : Database} {answer : LeaseAnswer}

theorem concluded_of_ungranted (ungranted : answer.granted = none)
    : (leaseAgreement start).Meets t call (.done answer) (HasConcluded t call origin) h := by
  refine Meets.done (fun _ _ _ result lease same granted => ?_)
  cases same
  cases ungranted.symm.trans granted

theorem concluded_of_granted {record : LeaseRecord} {terms : Terms}
    (granted : answer.granted = some (some record)) (asked : call.terms = some terms)
    (given : HasGranted t terms record.leaseId h.log)
    : (leaseAgreement start).Meets t call (.done answer) (HasConcluded t call origin) h := by
  refine Meets.done (fun h' moved _ result lease same granted' => ?_)
  cases same
  cases (granted.symm.trans granted')
  obtain ⟨issued, prior, noted, rest⟩ := given
  exact ⟨record, terms, rfl, asked, issued, prior, noted.trans moved.le, rest⟩

variable {Q : Except Text LeaseAnswer → History store → Prop}

theorem meets_readBack (none : start.leases = [])
    {g : Option LeaseRecord → Operation LeaseAnswer} (lives : (leaseAgreement start).inv h)
    (found : findLease (Database.leases h.state) id = some row)
    (rest
      : ∀ record h', (leaseAgreement start).After h h' → record.leaseId = id
        → (leaseAgreement start).Meets t call (g (some record)) Q h')
    : (leaseAgreement start).Meets t call ((readBack id now).bind g) Q h := by
  have sound := soundLeases_of_inv none lives
  obtain ⟨mem, named⟩ := mem_of_findLease found
  have read : getLeaseRow id = select (fun db => findLease db.leases id) := by
    unfold getLeaseRow
    rw [← named, (sound.sound row mem).accepted]
  unfold readBack
  rw [read]
  refine select_bind (M := store) (fun h' moved => ?_)
  obtain ⟨row', found'⟩ := findLease_later lives moved.toAfter found
  simp only [found', map_some]
  obtain ⟨mem', named'⟩ := mem_of_findLease found'
  refine rest _ h' moved.toAfter ?_
  have shown := ((soundLeases_of_inv none moved.inv).sound row' mem').shown
  exact shown.trans named'

theorem mem_selectLeases {leases : List LeaseRow} {limit : Nat}
    (mem : row ∈ selectLeases leases sessionId limit)
    : row ∈ leases ∧ row.codeSessionId = sessionId := by
  have sorted := (mem_insertionSort _).mp (mem_of_mem_take mem)
  obtain ⟨within, same⟩ := mem_filter.mp sorted
  exact ⟨within, eq_of_beq same⟩

theorem mem_listedLeases {rows : List LeaseRow} {includeExpired : Bool} {bounded : Nat}
    {lease : LeaseRecord}
    (mem : lease ∈ (listedLeases rows includeExpired now).take bounded)
    : ∃ row ∈ rows, lease = rowToLeaseRecord row now ∧ (includeExpired || lease.live) = true := by
  obtain ⟨seen, shown⟩ := mem_filter.mp (mem_of_mem_take mem)
  obtain ⟨row, within, rfl⟩ := List.mem_map.mp seen
  exact ⟨row, within, rfl, shown⟩

def Present (leases : List LeaseRecord) (db : Database) : Prop :=
  ∀ lease ∈ leases, ∃ row, findLease db.leases lease.leaseId = some row

theorem meets_listLeases (none : start.leases = []) {includeExpired : Bool} {bounded : Nat}
    : (leaseAgreement start).Meets t call (listLeases sessionId includeExpired bounded now)
        (fun answer h' => ∀ leases, answer = .ok leases → Present leases h'.state) h := by
  refine perform_bind (fun h1 _ => ⟨trivial, ?_⟩)
  refine select_bind (M := store) (fun h2 read => ?_)
  refine Meets.done (fun h3 moved leases same lease mem => ?_)
  cases same
  obtain ⟨row, within, rfl, _⟩ := mem_listedLeases mem
  obtain ⟨stored, _⟩ := mem_selectLeases within
  have sound := soundLeases_of_inv none read.inv
  change ∃ row', findLease (leases h3.state) (scrubText row.leaseId) = some row'
  rw [(sound.sound row stored).shown]
  exact findLease_later read.inv moved.toAfter (sound.keyed.find_eq stored)

theorem meets_granting (none : start.leases = []) (cmd : Command) {terms : Terms}
    {answer : Option LeaseRecord → LeaseAnswer} (lives : (leaseAgreement start).inv h)
    (insert : SoundInsert cmd) (asked : call.terms = some terms)
    (granted : ∀ lease, (answer lease).granted = some lease)
    (here : ∃ row, findLease (exec cmd h.state).2.leases id = some row)
    (leaves
      : heeds h.state cmd = true
        → ∃ row, findLease (exec cmd h.state).2.leases id = some row ∧ Grants terms row)
    : (leaseAgreement start).Meets t call
        ((readBack id now).bind (fun lease => .done (answer lease)))
        (HasConcluded t call origin) (h.exec t cmd) := by
  obtain ⟨row, found⟩ := here
  have due : (leaseAgreement start).pre t call cmd h := insert
  have inv := (leaseAgreement start).exec_inv lives due
  refine meets_readBack none inv found (fun record h' after same => ?_)
  refine concluded_of_granted (granted (some record)) asked ?_
  rw [same]
  exact ⟨⟨t, cmd, h.state⟩, h.log, after.le, rfl, leaves⟩

/-- A renewal in place concludes what it should, unless it misses. -/
theorem meets_renewExisting (none : start.leases = []) {checkpoint : Option Text}
    {own : LeaseRecord} (lives : (leaseAgreement start).inv h)
    (asked : call.terms = some (target.terms now))
    (here : ∃ row, findLease (Database.leases h.state) own.leaseId = some row)
    : (leaseAgreement start).Meets t call (renewExisting target session checkpoint own now)
        (HasConcluded t call origin) h := by
  refine perform_bind (fun h' moved => ⟨trivial, ?_⟩)
  obtain ⟨old, found⟩ := here
  obtain ⟨row, found⟩ := findLease_later lives moved.toAfter found
  have sound := soundLeases_of_inv none moved.inv
  let renewal : Renewal :=
    { now, expiresAt := expiryOf now target.ttlSeconds, sessionRevision := session.sessionRevision }
  have updated := findLease_updateWhere (p := isHeld own.leaseId target.actor target.sessionId)
    (f := LeaseRow.rescope target.scope checkpoint renewal) found (fun _ => rfl)
  refine meets_granting none
    (.rescopeLease own.leaseId target.actor target.sessionId target.scope checkpoint renewal)
    moved.inv trivial asked (fun _ => rfl)
    ⟨_, updated⟩ (fun heeded => ⟨_, updated, ?_⟩)
  obtain ⟨hit, mem, held⟩ := List.any_eq_true.mp heeded
  have named := held
  simp only [isHeld, and_eq_true, beq_iff_eq] at named
  obtain ⟨⟨⟨sameId, actor⟩, _⟩, _⟩ := named
  obtain rfl : hit = row :=
    some.inj ((sameId ▸ sound.keyed.find_eq mem).symm.trans found)
  rw [if_pos held]
  exact ⟨rfl, actor, fun scope same => some.inj same, rfl⟩

theorem meets_createLease (none : start.leases = []) (sound : SoundId row.leaseId)
    (asked : call.terms = some (target.terms row.acquiredAt))
    (grants : Grants (target.terms row.acquiredAt) row)
    : (leaseAgreement start).Meets t call (createLease target row)
        (HasConcluded t call origin) h := by
  refine perform_bind (fun h' moved => ⟨sound, ?_⟩)
  cases free : findLease (leases h'.state) row.leaseId with
  | some old =>
    have taken : (exec (.insertLease row) h'.state).1 = false := by
      simp only [exec, insertLease, free]
    simp only [taken]
    exact concluded_of_ungranted rfl
  | none =>
    have put : exec (.insertLease row) h'.state
        = (true,
            { h'.state with
              leases := leases h'.state ++ [row]
              steps := steps h'.state + 1 }) := by
      simp only [exec, insertLease, free]
    have found
        : findLease (exec (.insertLease row) h'.state).2.leases row.leaseId = some row := by
      have none' : (leases h'.state).find? (fun other => other.leaseId == row.leaseId) = .none :=
        free
      rw [put]
      simp only [findLease, find?_append, none', none_or, find?_cons, beq_self_eq_true]
    have reply : (exec (.insertLease row) h'.state).1 = true := by
      rw [put]
    simp only [reply]
    exact meets_granting none (.insertLease row) moved.inv sound asked (fun _ => rfl) ⟨row, found⟩ (fun _ => ⟨row, found, grants⟩)

variable {sha256Text : Text → Digest} {toISOString : Nat → Text}

theorem meets_expireStale_bind {g : Bool → Operation LeaseAnswer}
    (rest
      : ∀ changed h', (leaseAgreement start).After h h'
        → (leaseAgreement start).Meets t call (g changed) Q h')
    : (leaseAgreement start).Meets t call ((expireStaleLeases sessionId now).bind g) Q h := by
  refine perform_bind (fun h' moved => ?_)
  have due : (leaseAgreement start).pre t call (.expireStale sessionId now) h' := trivial
  exact ⟨due, rest _ _ (moved.toAfter.exec call due)⟩

theorem reads_getLeaseRow (id : Text) : (getLeaseRow id).Reads := by
  unfold getLeaseRow
  cases leaseId (.string id) with
  | ok _ => exact fun _ => trivial
  | error _ => trivial

theorem mem_latestEnd {leases : List LeaseRecord} {lease : LeaseRecord}
    (latest : latestEnd leases = some lease)
    : lease ∈ leases :=
  (mem_insertionSort _).mp (mem_of_head? latest)

theorem meets_acquireChecked (none : start.leases = []) {args : AcquireArguments}
    {checkpoint : Option Text} (asked : call.terms = some (target.terms args.now))
    : (leaseAgreement start).Meets t call
        (acquireChecked sha256Text toISOString args target session checkpoint)
        (HasConcluded t call origin) h := by
  refine meets_expireStale_bind (fun _ h1 after1 => ?_)
  refine seq (meets_listLeases none) (fun live h2 after2 here => ?_)
    (fun _ _ _ _ _ _ _ same => by cases same)
  unfold acquireAgainst
  split
  · exact concluded_of_ungranted rfl
  · cases latest : latestEnd (ownOverlap target live) with
    | some own =>
      have seen : own ∈ live := mem_of_mem_filter (mem_latestEnd latest)
      exact meets_renewExisting none after2.inv asked (here live rfl own seen)
    | none =>
      let row := newLease sha256Text toISOString target session checkpoint args
      have sound : SoundId row.leaseId := soundId_of_halfDigest (isHalfDigest_take _)
      have grants : Grants (target.terms args.now) row :=
        ⟨rfl, rfl, fun scope same => some.inj same, rfl⟩
      exact meets_createLease none sound asked grants

theorem meets_acquire (none : start.leases = [])
    (args : AcquireArguments)
    : (leaseAgreement start).Meets t (.acquire args)
        (acquireCodeSessionLease sha256Text toISOString args)
        (HasConcluded t (.acquire args) origin) h := by
  unfold acquireCodeSessionLease
  cases read : readAcquire args with
  | error why => exact concluded_of_ungranted rfl
  | ok target =>
    refine select_bind (M := store) (fun h moved => ?_)
    cases findSession (sessions h.state) target.sessionId with
    | none => exact concluded_of_ungranted rfl
    | some session =>
      simp only
      cases checkAcquire args session with
      | error why => exact concluded_of_ungranted rfl
      | ok checkpoint =>
        refine meets_acquireChecked none ?_
        simp only [LeaseCall.terms, read]
        rfl

theorem meets_renewHeld (none : start.leases = []) {target : HoldTarget} {ttlSeconds : Nat}
    (asked : call.terms = some (target.terms now ttlSeconds))
    : (leaseAgreement start).Meets t call (renewHeld target session ttlSeconds now)
        (HasConcluded t call origin) h := by
  refine perform_bind (fun h' moved => ⟨trivial, ?_⟩)
  let renewal : Renewal :=
    { now, expiresAt := expiryOf now ttlSeconds, sessionRevision := session.sessionRevision }
  change (leaseAgreement start).Meets t call
    (if (exec (.renewLease target.id target.actor target.sessionId renewal) h'.state).1 = true
      then _ else _) _ _
  split
  · rename_i changed
    obtain ⟨row, mem, renewable⟩ := List.any_eq_true.mp changed
    have held := renewable
    simp only [isRenewable, isHeld, and_eq_true, beq_iff_eq] at held
    obtain ⟨⟨⟨⟨named, actor⟩, _⟩, _⟩, _⟩ := held
    have found : findLease (leases h'.state) target.id = some row :=
      named ▸ (soundLeases_of_inv none moved.inv).keyed.find_eq mem
    have updated := findLease_updateWhere
      (p := isRenewable target.id target.actor target.sessionId now)
      (f := LeaseRow.renew renewal) found (fun _ => rfl)
    rw [if_pos renewable] at updated
    exact meets_granting none (.renewLease target.id target.actor target.sessionId renewal) moved.inv
      trivial asked (fun _ => rfl) ⟨_, updated⟩
      (fun _ => ⟨_, updated, rfl, actor, (fun _ same => by cases same), rfl⟩)
  · exact concluded_of_ungranted rfl

theorem meets_renew (none : start.leases = [])
    (args : RenewArguments)
    : (leaseAgreement start).Meets t (.renew args) (renewCodeSessionLease args)
        (HasConcluded t (.renew args) origin) h := by
  unfold renewCodeSessionLease
  cases read : readHold "invalid_code_session_lease_renew" args.toHoldArguments with
  | error why => exact concluded_of_ungranted rfl
  | ok target =>
    refine select_bind (M := store) (fun h moved => ?_)
    cases findSession (sessions h.state) target.sessionId with
    | none => exact concluded_of_ungranted rfl
    | some session =>
      simp only
      cases checkBase args.baseRevision session with
      | error why => exact concluded_of_ungranted rfl
      | ok _ =>
        refine meets_expireStale_bind (fun _ h1 after1 => ?_)
        refine reading_bind (reads_getLeaseRow _) (fun row h2 moved2 => ?_)
          (fun _ _ _ _ _ _ same => by cases same)
        cases requireOwn target row args.now with
        | error why => exact concluded_of_ungranted rfl
        | ok record =>
          simp only
          split
          · refine meets_renewHeld none ?_
            simp only [LeaseCall.terms, read]
            rfl
          · exact concluded_of_ungranted rfl

theorem issues_getLeaseRow (id : Text) (now : Nat) : (getLeaseRow id).Issues (KeepsScopes now) :=
  (reads_getLeaseRow id).imp (fun _ impossible => impossible.elim)

theorem issues_readBack (id : Text) (now : Nat) : (readBack id now).Issues (KeepsScopes now) :=
  (issues_getLeaseRow id now).bind (fun _ => trivial)

theorem issues_renew (args : RenewArguments)
    : (renewCodeSessionLease args).Issues (KeepsScopes args.now) := by
  unfold renewCodeSessionLease
  cases readHold "invalid_code_session_lease_renew" args.toHoldArguments with
  | error why => trivial
  | ok target =>
    intro db
    simp only
    cases findSession (sessions db) target.sessionId with
    | none => trivial
    | some session =>
      simp only [Program.done_bind]
      cases checkBase args.baseRevision session with
      | error why => trivial
      | ok _ =>
        refine ⟨trivial, fun _ => (issues_getLeaseRow _ _).bind (fun row => ?_)⟩
        cases requireOwn target row args.now with
        | error why => trivial
        | ok record =>
          simp only
          split
          · refine ⟨rfl, fun changed => ?_⟩
            cases changed with
            | true => exact (issues_readBack _ _).bind (fun _ => trivial)
            | false => trivial
          · trivial

theorem issues_release (args : HoldArguments)
    : (releaseCodeSessionLease args).Issues (KeepsScopes args.now) := by
  unfold releaseCodeSessionLease
  cases readHold "invalid_code_session_lease_release" args with
  | error why => trivial
  | ok target =>
    intro db
    simp only
    cases findSession (sessions db) target.sessionId with
    | none => trivial
    | some session =>
      refine ⟨trivial, fun _ => (issues_getLeaseRow _ _).bind (fun row => ?_)⟩
      cases requireOwn target row args.now with
      | error why => trivial
      | ok record =>
        simp only
        split
        · trivial
        split
        · refine ⟨trivial, fun changed => ?_⟩
          cases changed with
          | true => exact (issues_readBack _ _).bind (fun _ => trivial)
          | false => trivial
        · exact ⟨trivial, fun _ => trivial⟩

theorem issues_list (args : ListArguments)
    : (listCodeSessionLeaseRows args).Issues (KeepsScopes args.now) := by
  unfold listCodeSessionLeaseRows
  cases refuseThrown "invalid_code_session_id" (codeSessionId args.codeSessionId) with
  | error why => trivial
  | ok sessionId => exact ⟨trivial, fun _ _ => trivial⟩

theorem meets_body (none : start.leases = []) (call : LeaseCall)
    : (leaseAgreement start).Meets t call (call.body sha256Text toISOString) (HasConcluded t call origin) h := by
  cases call with
  | acquire args => exact meets_acquire none args
  | renew args => exact meets_renew none args
  | release args =>
    refine of_issues (issues_release args)
      (fun _ _ keeps => soundInsert_of_keepsScopes keeps) ?_
    exact fun _ _ _ seeks => absurd seeks Bool.false_ne_true
  | list args =>
    refine of_issues (issues_list args)
      (fun _ _ keeps => soundInsert_of_keepsScopes keeps) ?_
    exact fun _ _ _ seeks => absurd seeks Bool.false_ne_true

end

-- Runs

section

variable (sha256Text : Text → Digest) (toISOString : Nat → Text) (start : Database)
  (schedule : List (Action store LeaseCall))

abbrev afterLeases : Config store LeaseCall Text LeaseAnswer :=
  (Config.init (M := store) start).run (LeaseCall.body sha256Text toISOString) schedule

/-- A lease that has ended stays so, and one that has been released stays released. -/
def Lasting (earlier later : Database) : Prop :=
  ∀ id row, findLease earlier.leases id = some row
    → ∃ row', findLease later.leases id = some row' ∧ Follows true row row'

def WasGranted (t : Nat) (call : LeaseCall) (terms : Terms) (id : Text) : Prop :=
  ∃ instant, instant <+: schedule
    ∧ (afterLeases sha256Text toISOString start instant).call t = some call
    ∧ ∃ row, findLease (afterLeases sha256Text toISOString start instant).state.leases id = some row
        ∧ Grants terms row

/-- Leases last, and the answers of acquisitions and renewals are true. The schedule may be cut where a
call answers, so that each is true of an instant during its call.
-/
structure Truthful : Prop where
  lasting
    : ∀ before, before <+: schedule
      → Lasting (afterLeases sha256Text toISOString start before).state
          (afterLeases sha256Text toISOString start schedule).state
  answers
    : ∀ t call result lease,
      (afterLeases sha256Text toISOString start schedule).call t = some call
      → (afterLeases sha256Text toISOString start schedule).answer t = some (.ok result)
      → call.seeks = true → result.granted = some lease
      → ∃ record terms, lease = some record ∧ call.terms = some terms
          ∧ WasGranted sha256Text toISOString start schedule t call terms record.leaseId

def heedful (config : Config store LeaseCall Text LeaseAnswer) (t : Nat) : Bool :=
  (config.pending t).all (heeds config.state)

/-- Every step of the schedule is heedful. -/
abbrev Heedful : Prop :=
  (Config.init (M := store) start).Admitted (LeaseCall.body sha256Text toISOString)
    (fun config t => heedful config t = true) schedule

variable {start}

theorem sound_afterLeases (none : start.leases = [])
    : (leaseAgreement start).Sound HasConcluded
        (afterLeases sha256Text toISOString start schedule) :=
  (leaseAgreement start).sound (fun _ call _ _ _ => meets_body none call) .nil schedule

variable {sha256Text toISOString schedule}

theorem heeds_of_heedful (none : start.leases = [])
    (fits : Heedful sha256Text toISOString start schedule)
    : (afterLeases sha256Text toISOString start schedule).history.Respects
        (fun _ cmd h => heeds h.state cmd = true) := by
  refine (leaseAgreement start).admitted_run
    (J := History.Respects (M := store) (fun _ cmd h => heeds h.state cmd = true))
    (fun _ call _ _ _ => meets_body none call) .nil trivial
    (fun _ _ pending _ heedful holds => ⟨?_, holds⟩) (fun event => isEmptyElim event) fits
  unfold CodeSession.heedful at heedful
  rw [pending] at heedful
  exact heedful

theorem lasting_of_heedful (none : start.leases = [])
    (fits : Heedful sha256Text toISOString start schedule)
    {before : List (Action store LeaseCall)} (le : before <+: schedule)
    : Lasting (afterLeases sha256Text toISOString start before).state
        (afterLeases sha256Text toISOString start schedule).state := by
  intro id row found
  obtain ⟨later, rfl⟩ := le
  have inv := (sound_afterLeases sha256Text toISOString before none).inv
  have inv' := (sound_afterLeases sha256Text toISOString (before ++ later) none).inv
  have grown
      : (afterLeases sha256Text toISOString start before).history.log
        <:+ (afterLeases sha256Text toISOString start (before ++ later)).history.log := by
    unfold afterLeases
    rw [run_append]
    exact log_run _ _ _
  refine Kept.grow
    (J := fun h => ∃ row', findLease (leases h.state) id = some row' ∧ Follows true row row')
    inv inv' grown (heeds_of_heedful none fits) ⟨row, found, .refl row⟩ ?_
  rintro h _ cmd _ _ _ heeded ⟨old, here, follows⟩
  obtain ⟨new, present', follows'⟩ := findLease_exec here cmd
  refine ⟨new, present', fun ended => follows'.ended (follows.ended ended), fun _ released => ?_⟩
  exact follows'.released heeded (follows.released rfl released)

theorem wasGranted_of_hasGranted (none : start.leases = [])
    (fits : Heedful sha256Text toISOString start schedule) {t : Nat} {call : LeaseCall}
    {terms : Terms} {id : Text}
    (asked : (afterLeases sha256Text toISOString start schedule).call t = some call)
    (granted : HasGranted t terms id (afterLeases sha256Text toISOString start schedule).history.log)
    : WasGranted sha256Text toISOString start schedule t call terms id := by
  obtain ⟨issued, prior, noted, rfl, leaves⟩ := granted
  obtain ⟨before, le, pending, history⟩ := exists_step_of_logged noted
  have heeded := (heeds_of_heedful none fits).earlier (h := ⟨issued.before, issued :: prior⟩) noted
  refine ⟨before ++ [.step issued.thread], le, ?_, ?_⟩
  · obtain ⟨call', asked'⟩ := call_of_pending pending
    have kept := call_act (LeaseCall.body sha256Text toISOString) (.step issued.thread) asked'
    obtain ⟨later, rfl⟩ := le
    unfold afterLeases at asked ⊢
    rw [run_append, run_append] at asked
    rw [run_append]
    cases ((call_later kept later).symm.trans asked)
    exact kept
  · have state
        : (afterLeases sha256Text toISOString start (before ++ [.step issued.thread])).state
          = (exec issued.command issued.before).2 := by
      unfold afterLeases
      rw [run_append, run_cons, run_nil, Config.act, Config.state,
        advance_history, pending, history]
      rfl
    rw [state]
    exact leaves heeded.1

end

/-- In a run all of whose steps are heedful, leases last and answers are true. -/
theorem truthful_of_heedful (sha256Text : Text → Digest) (toISOString : Nat → Text) (start : Database)
    (none : start.leases = []) (schedule : List (Action store LeaseCall))
    (admitted : Heedful sha256Text toISOString start schedule)
    : Truthful sha256Text toISOString start schedule := by
  refine ⟨fun before le => lasting_of_heedful none admitted le, ?_⟩
  intro t call result lease asked answered seeks granted
  obtain ⟨thread, at_t, called⟩ := map_eq_some_iff.mp asked
  have ended : thread.answer = some (.ok result) := by
    rw [Config.answer, at_t, bind_some] at answered
    exact answered
  have concluded := (sound_afterLeases sha256Text toISOString schedule none).post_of_answer at_t ended
  rw [called] at concluded
  obtain ⟨record, terms, same, wanted, given⟩ := concluded seeks result lease rfl granted
  exact ⟨record, terms, same, wanted, wasGranted_of_hasGranted none admitted asked given⟩

namespace Sample

/-- A session without leases. -/
def unleased : Database :=
  .initial [session] []

def acquire (actor : String) (now : Nat) : LeaseCall :=
  .acquire
    { codeSessionId := .string (text "cs:one")
      actorId := .string (text actor), taskId := .undefined, pathPrefixes := .undefined
      ttlSeconds := .nan, allowOverlap := false, baseRevision := .undefined
      checkpointId := .undefined, now := now
      nonce := text "nonce" }

def release (actor : String) (now : Nat) : LeaseCall :=
  .release
    { codeSessionId := .string (text "cs:one")
      actorId := .string (text actor)
      leaseId := .string (text "lease:" ++ List.replicate 32 0x61)
      now := now }

def leaseSteps (count thread : Nat) : List (Action store LeaseCall) :=
  List.replicate count (.step thread)

/-- A lease that is acquired and renewed in place. -/
def renewedInPlace : List (Action store LeaseCall) :=
  .spawn (acquire "user:ann" 1000) :: leaseSteps 6 0
    ++ .spawn (acquire "user:ann" 2000) :: leaseSteps 6 1

def releasedInBetween : List (Action store LeaseCall) :=
  .spawn (acquire "user:ann" 1000) :: leaseSteps 6 0
    ++ .spawn (acquire "user:ann" 2000) :: leaseSteps 4 1
    ++ .spawn (release "user:ann" 2000) :: leaseSteps 5 2
    ++ leaseSteps 2 1

end Sample

open Sample

/-- A lease that is acquired and renewed in place. -/
theorem truthful_renewedInPlace
    : Truthful Sample.digest Sample.toISOString Sample.unleased Sample.renewedInPlace :=
  truthful_of_heedful _ _ _ rfl _ (by decide +kernel)

/-- No lease is as the terms ask for. -/
def ungranted (terms : Terms) (db : Database) : Bool :=
  db.leases.all (fun row =>
    decide (row.status ≠ .active ∨ row.actorId ≠ terms.actor ∨ row.expiresAt ≠ terms.expiresAt))

theorem not_grants_of_ungranted {terms : Terms} (none : ungranted terms db = true)
    (found : findLease db.leases id = some row)
    : ¬ Grants terms row := by
  intro grants
  have spared := List.all_eq_true.mp none row (mem_of_findLease found).1
  rcases of_decide_eq_true spared with ended | foreign | apart
  · exact ended grants.active
  · exact foreign grants.actor
  · exact apart grants.expiresAt

/-- The terms of the second acquisition of the samples. -/
def Sample.terms : Terms where
  actor := text "user:ann"
  scope := some { taskId := none, pathPrefixes := [] }
  expiresAt := 602000

/-- A lease is released after an acquisition of its own actor has listed it: the acquisition says that it
has renewed it, but it never was active until the new end.
-/
theorem leasesCanBeRenewedInVain
    : ¬ ∀ (sha256Text : Text → Digest) (toISOString : Nat → Text) (start : Database),
        start.leases = [] → ∀ schedule, Truthful sha256Text toISOString start schedule := by
  intro all
  have truthful := all digest toISOString unleased rfl releasedInBetween
  have asked
      : (afterLeases digest toISOString unleased releasedInBetween).call 1
        = some (Sample.acquire "user:ann" 2000) := by
    rw [call_run]
    rfl
  have never
      : releasedInBetween.inits.all (fun instant =>
          ungranted Sample.terms
            (afterLeases digest toISOString unleased instant).state) = true := by
    decide +kernel
  have answers
      : ((afterLeases digest toISOString unleased releasedInBetween).answer 1).any
          (fun answer => answer.toOption.any (fun result => result.granted.isSome)) = true := by
    decide +kernel
  obtain ⟨answer, answered, granting⟩ := Option.any_eq_true _ _ |>.mp answers
  cases answer with
  | error error => cases granting
  | ok result =>
    obtain ⟨lease, granted⟩ := isSome_iff_exists.mp granting
    obtain ⟨record, terms, -, wanted, instant, le, -, row, found, grants⟩ :=
      truthful.answers 1 _ result lease asked answered rfl granted
    have same : (Sample.acquire "user:ann" 2000).terms = some Sample.terms := by
      decide +kernel
    cases (same.symm.trans wanted)
    have none := List.all_eq_true.mp never instant ((mem_inits _ _).mpr le)
    exact not_grants_of_ungranted none found grants

end CairnStone.CodeSession
