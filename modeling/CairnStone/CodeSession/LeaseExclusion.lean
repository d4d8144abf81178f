import CairnStone.CodeSession.LeaseTruth
import CairnStone.Concurrency.Sequences

/-! Leases of different actors exclude each other, in sequences of calls with a clock that does not run
back. An acquisition looks for conflicts in what a listing shows; so its conflicting leases must be
shown, and as they are.
-/

namespace CairnStone.CodeSession

open JavaScript Data Concurrency List Program Sample Nat LeaseRow LeaseCall
open TaskRuns (Refusal)

-- Exclusion

/-- Live leases of different actors of a session do not overlap. -/
def Exclusive (leases : List LeaseRow) (now : Nat) : Prop :=
  ∀ a ∈ leases, ∀ b ∈ leases, a.codeSessionId = b.codeSessionId → a.actorId ≠ b.actorId
    → a.isLive now = true → b.isLive now = true → leaseScopesOverlap a.scope b.scope = false

theorem isLive_earlier {row : LeaseRow} {now later : Nat} (le : now ≤ later)
    (live : row.isLive later = true)
    : row.isLive now = true := by
  simp only [isLive, Bool.and_eq_true, decide_eq_true_eq] at live ⊢
  exact ⟨live.1, lt_of_le_of_lt le live.2⟩

/-- Time ends leases and starts none. -/
theorem Exclusive.later {leases : List LeaseRow} {now later : Nat} (exclusive : Exclusive leases now)
    (le : now ≤ later)
    : Exclusive leases later := by
  intro a memberA b memberB session actors liveA liveB
  exact exclusive a memberA b memberB session actors (isLive_earlier le liveA) (isLive_earlier le liveB)

theorem pathPrefixOverlap_comm (a b : Text) : pathPrefixOverlap a b = pathPrefixOverlap b a := by
  unfold pathPrefixOverlap
  rw [Bool.and_comm (a != []), Bool.or_comm]

theorem leaseScopesOverlap_comm (left right : LeaseScope)
    : leaseScopesOverlap left right = leaseScopesOverlap right left := by
  have tasks
      : (left.task.isSome && left.task == right.task)
        = (right.task.isSome && right.task == left.task) := by
    rw [Bool.eq_iff_iff]
    simp only [Bool.and_eq_true, beq_iff_eq]
    exact ⟨fun ⟨given, same⟩ => ⟨same ▸ given, same.symm⟩, fun ⟨given, same⟩ => ⟨same ▸ given, same.symm⟩⟩
  have paths
      : left.pathPrefixes.any (fun a => right.pathPrefixes.any (pathPrefixOverlap a))
        = right.pathPrefixes.any (fun a => left.pathPrefixes.any (pathPrefixOverlap a)) := by
    rw [Bool.eq_iff_iff]
    simp only [any_eq_true]
    constructor
    · rintro ⟨a, memberA, b, memberB, overlap⟩
      exact ⟨b, memberB, a, memberA, pathPrefixOverlap_comm a b ▸ overlap⟩
    · rintro ⟨a, memberA, b, memberB, overlap⟩
      exact ⟨b, memberB, a, memberA, pathPrefixOverlap_comm a b ▸ overlap⟩
  unfold leaseScopesOverlap
  rw [tasks, paths, Bool.or_comm left.isWide]

structure HeldAs (now : Nat) (old new : LeaseRow) : Prop where
  session : new.codeSessionId = old.codeSessionId
  actor : new.actorId = old.actorId
  scope : new.scope = old.scope
  live : new.isLive now = true → old.isLive now = true

/-- An update that only ends leases, or prolongs live ones, keeps them exclusive. -/
theorem Exclusive.updateWhere {leases : List LeaseRow} {now : Nat} (exclusive : Exclusive leases now)
    {p : LeaseRow → Bool} {f : LeaseRow → LeaseRow} (held : ∀ row, p row = true → HeldAs now row (f row))
    : Exclusive (Data.updateWhere p f leases) now := by
  have each (row : LeaseRow) : HeldAs now row (if p row then f row else row) := by
    split
    · rename_i hit
      exact held row hit
    · exact ⟨rfl, rfl, rfl, id⟩
  intro a memberA b memberB session actors liveA liveB
  obtain ⟨a, wasA, rfl⟩ := mem_updateWhere.mp memberA
  obtain ⟨b, wasB, rfl⟩ := mem_updateWhere.mp memberB
  rw [(each a).session, (each b).session] at session
  rw [(each a).actor, (each b).actor] at actors
  rw [(each a).scope, (each b).scope]
  exact exclusive a wasA b wasB session actors ((each a).live liveA) ((each b).live liveB)

theorem not_isLive_settle {status : LeaseStatus} (ended : status ≠ .active) (row : LeaseRow)
    (updated now : Nat)
    : (row.settle status updated).isLive now = false := by
  cases status with
  | active => exact absurd rfl ended
  | released => rfl
  | expired => rfl

theorem heldAs_settle {status : LeaseStatus} (ended : status ≠ .active) (row : LeaseRow)
    (updated now : Nat)
    : HeldAs now row (row.settle status updated) := by
  refine ⟨rfl, rfl, rfl, fun live => ?_⟩
  rw [not_isLive_settle ended] at live
  cases live

/-- Statements that keep scopes keep leases exclusive. Witness: case analysis on the statement. -/
theorem Exclusive.exec {db : Database} {now : Nat} (exclusive : Exclusive db.leases now)
    (cmd : Command) (keeps : KeepsScopes now cmd)
    : Exclusive (exec cmd db).2.leases now := by
  cases cmd with
  | insertLease row => exact keeps.elim
  | rescopeLease id actor sessionId scope checkpoint renewal => exact keeps.elim
  | expireStale sessionId at_ =>
    exact exclusive.updateWhere (fun row _ => heldAs_settle (by decide) row at_ now)
  | releaseLease id actor sessionId at_ =>
    exact exclusive.updateWhere (fun row _ => heldAs_settle (by decide) row at_ now)
  | expireLease id sessionId at_ =>
    exact exclusive.updateWhere (fun row _ => heldAs_settle (by decide) row at_ now)
  | renewLease id actor sessionId renewal =>
    refine exclusive.updateWhere (fun row hit => ⟨rfl, rfl, rfl, fun _ => ?_⟩)
    obtain rfl : renewal.now = now := keeps
    simp only [isRenewable, isHeld, Bool.and_eq_true, beq_iff_eq, decide_eq_true_eq] at hit
    simp only [isLive, Bool.and_eq_true, beq_iff_eq, decide_eq_true_eq]
    exact ⟨hit.1.2, hit.2⟩
  | insertCheckpoint row => exact exclusive
  | insertEvent row => exact exclusive
  | swapSession id base change => exact exclusive

-- What a listing shows

theorem laterFirst_iff {a b : LeaseRow}
    : laterFirst a b = true
      ↔ b.expiresAt < a.expiresAt ∨ a.expiresAt = b.expiresAt ∧ b.acquiredAt ≤ a.acquiredAt := by
  simp only [laterFirst, Bool.or_eq_true, Bool.and_eq_true, decide_eq_true_eq, beq_iff_eq]

theorem laterFirst_refl (row : LeaseRow) : laterFirst row row = true :=
  laterFirst_iff.mpr (.inr ⟨rfl, le_refl _⟩)

instance instTotalLaterFirst : Std.Total (fun a b => laterFirst a b = true) where
  total a b := by
    rw [laterFirst_iff, laterFirst_iff]
    omega

instance instTransLaterFirst : IsTrans LeaseRow (fun a b => laterFirst a b = true) where
  trans a b c := by
    rw [laterFirst_iff, laterFirst_iff, laterFirst_iff]
    omega

def fitsListing (leases : List LeaseRow) (now : Nat) (row : LeaseRow) : Bool :=
  leases.countP (fun other => other.codeSessionId == row.codeSessionId && laterFirst other row)
      ≤ MAX_LEASE_LIST * 2
    && leases.countP (fun other =>
          other.codeSessionId == row.codeSessionId && laterFirst other row && other.isLive now)
        ≤ MAX_LEASE_LIST

/-- A live row that fits is listed. Witness: few rows come before it, and few live ones. -/
theorem listed_of_fits {leases : List LeaseRow} {now : Nat} {row : LeaseRow} (mem : row ∈ leases)
    (live : row.isLive now = true) (fits : fitsListing leases now row = true)
    : rowToLeaseRecord row now
      ∈ (listedLeases (selectLeases leases row.codeSessionId (MAX_LEASE_LIST * 2)) false now).take
          MAX_LEASE_LIST := by
  unfold fitsListing at fits
  rw [Bool.and_eq_true, decide_eq_true_eq, decide_eq_true_eq] at fits
  obtain ⟨few, fewLive⟩ := fits
  let own := leases.filter (·.codeSessionId == row.codeSessionId)
  let sorted := own.insertionSort (fun a b => laterFirst a b)
  have perm : sorted.Perm own := perm_insertionSort _ own
  have order : sorted.Pairwise (fun a b => laterFirst a b = true) := pairwise_insertionSort _ own
  have picked : row ∈ sorted.take (MAX_LEASE_LIST * 2) := by
    refine mem_take_of_countP laterFirst_refl order ?_ ?_
    · exact perm.mem_iff.mpr (mem_filter.mpr ⟨mem, beq_self_eq_true _⟩)
    · rw [perm.countP_eq, countP_filter]
      refine le_trans (le_of_eq (countP_congr (fun other _ => ?_))) few
      rw [Bool.and_comm]
  have shown (rows : List LeaseRow)
      : listedLeases rows false now
        = (rows.filter (fun row => row.isLive now)).map (fun row => rowToLeaseRecord row now) := by
    unfold listedLeases
    rw [filter_map]
    rfl
  rw [shown, ← map_take]
  refine mem_map_of_mem (f := fun row => rowToLeaseRecord row now) ?_
  change row ∈ ((sorted.take (MAX_LEASE_LIST * 2)).filter (fun row => row.isLive now)).take MAX_LEASE_LIST
  refine mem_take_of_countP laterFirst_refl ?_ (mem_filter.mpr ⟨picked, live⟩) ?_
  · exact (order.sublist (take_sublist _ _)).sublist filter_sublist
  · calc ((sorted.take (MAX_LEASE_LIST * 2)).filter (fun row => row.isLive now)).countP
            (fun other => laterFirst other row)
        ≤ (sorted.filter (fun row => row.isLive now)).countP (fun other => laterFirst other row) :=
          List.Sublist.countP_le ((take_sublist _ _).filter _)
      _ = leases.countP (fun other =>
            other.codeSessionId == row.codeSessionId && laterFirst other row && other.isLive now) := by
          rw [countP_filter, perm.countP_eq, countP_filter]
          refine countP_congr (fun other _ => ?_)
          rw [Bool.and_comm (other.codeSessionId == row.codeSessionId && laterFirst other row),
            Bool.and_comm (other.codeSessionId == row.codeSessionId), ← Bool.and_assoc,
            Bool.and_comm (other.isLive now)]
      _ ≤ MAX_LEASE_LIST := fewLive

def shownAsIs (row : LeaseRow) : Bool :=
  scrubText row.actorId == row.actorId && row.scope.scrub == row.scope

def opposes (target : AcquireTarget) (now : Nat) (row : LeaseRow) : Bool :=
  row.codeSessionId == target.sessionId && row.isLive now && row.actorId != target.actor
    && leaseScopesOverlap target.scope row.scope

def conflictsInView (leases : List LeaseRow) (target : AcquireTarget) (now : Nat) : Bool :=
  leases.all (fun row =>
    !(row.codeSessionId == target.sessionId && row.isLive now)
      || (shownAsIs row && (!opposes target now row || fitsListing leases now row)))

section

variable {leases : List LeaseRow} {target : AcquireTarget} {now : Nat} {row : LeaseRow}

theorem conflictsInView_iff
    : conflictsInView leases target now = true
      ↔ ∀ row ∈ leases, row.codeSessionId = target.sessionId → row.isLive now = true
          → shownAsIs row = true ∧ (opposes target now row = true → fitsListing leases now row = true) := by
  unfold conflictsInView
  rw [all_eq_true]
  refine forall₂_congr (fun row _ => ?_)
  cases same : row.codeSessionId == target.sessionId with
  | false => simp [beq_eq_false_iff_ne.mp same]
  | true =>
    cases row.isLive now with
    | false => simp
    | true =>
      cases shownAsIs row with
      | false => simp [eq_of_beq same]
      | true => cases opposes target now row <;> simp [eq_of_beq same]

theorem mem_expired_iff {sessionId : Text} (live : row.isLive now = true)
    : row ∈ Data.updateWhere (isStale sessionId now) (settle .expired now) leases
      ↔ row ∈ leases := by
  have notStale {row : LeaseRow} (live : row.isLive now = true) : isStale sessionId now row = false := by
    simp only [isLive, Bool.and_eq_true, decide_eq_true_eq] at live
    simp only [isStale, decide_eq_false (not_le.mpr live.2), Bool.and_false]
  constructor
  · intro mem
    obtain ⟨old, here, rfl⟩ := mem_updateWhere.mp mem
    split at live
    · cases (not_isLive_settle (by decide) old now now).symm.trans live
    · rename_i unmatched
      rwa [if_neg unmatched]
  · intro mem
    refine mem_updateWhere.mpr ⟨row, mem, ?_⟩
    rw [if_neg (ne_true_of_eq_false (notStale live))]

theorem isLive_expired (sessionId : Text) (row : LeaseRow)
    : (if isStale sessionId now row then row.settle .expired now else row).isLive now
      = row.isLive now := by
  split
  · rename_i stale
    rw [not_isLive_settle (by decide)]
    simp only [isStale, Bool.and_eq_true, decide_eq_true_eq] at stale
    simp only [isLive, decide_eq_false (not_lt.mpr stale.2), Bool.and_false]
  · rfl

theorem fitsListing_expired (sessionId : Text) (row : LeaseRow)
    : fitsListing (Data.updateWhere (isStale sessionId now) (settle .expired now) leases) now row
      = fitsListing leases now row := by
  have kept (other : LeaseRow)
      : ((if isStale sessionId now other then other.settle .expired now else other).codeSessionId
            == row.codeSessionId
          && laterFirst (if isStale sessionId now other then other.settle .expired now else other) row)
        = (other.codeSessionId == row.codeSessionId && laterFirst other row) := by
    split <;> rfl
  unfold fitsListing Data.updateWhere
  rw [countP_map, countP_map]
  simp only [Function.comp_def, kept, isLive_expired]

theorem unopposed_expired (sessionId : Text)
    : (∀ row ∈ Data.updateWhere (isStale sessionId now) (settle .expired now) leases,
          opposes target now row = false)
      ↔ ∀ row ∈ leases, opposes target now row = false := by
  have live {row : LeaseRow} (opposing : opposes target now row = true) : row.isLive now = true := by
    simp only [opposes, Bool.and_eq_true] at opposing
    exact opposing.1.1.2
  constructor
  · intro free row mem
    refine eq_false_of_ne_true (fun opposing => ?_)
    cases (free row ((mem_expired_iff (live opposing)).mpr mem)).symm.trans opposing
  · intro free row mem
    refine eq_false_of_ne_true (fun opposing => ?_)
    cases (free row ((mem_expired_iff (live opposing)).mp mem)).symm.trans opposing

theorem findLease_expired (sessionId id : Text)
    : findLease (Data.updateWhere (isStale sessionId now) (settle .expired now) leases) id = none
      ↔ findLease leases id = none := by
  have kept (row : LeaseRow) : (row.settle .expired now).leaseId = row.leaseId := rfl
  unfold findLease
  rw [find_updateWhere kept, Option.map_eq_none_iff]

theorem conflictsInView_expired (sessionId : Text) (inView : conflictsInView leases target now = true)
    : conflictsInView
        (Data.updateWhere (isStale sessionId now) (settle .expired now) leases) target now
      = true := by
  rw [conflictsInView_iff] at inView ⊢
  intro row mem session live
  obtain ⟨shown, fits⟩ := inView row ((mem_expired_iff live).mp mem) session live
  refine ⟨shown, fun opposing => ?_⟩
  rw [fitsListing_expired]
  exact fits opposing

/-- The conflicts that an acquisition finds are the leases in its way.
Witness: what is listed is live, and shown as it is.
-/
theorem foreignOverlap_eq_nil_iff (inView : conflictsInView leases target now = true)
    : foreignOverlap target
          ((listedLeases (selectLeases leases target.sessionId (MAX_LEASE_LIST * 2)) false now).take
            MAX_LEASE_LIST) = []
      ↔ ∀ row ∈ leases, opposes target now row = false := by
  rw [conflictsInView_iff] at inView
  have asIs {row : LeaseRow} (shown : shownAsIs row = true)
      : (rowToLeaseRecord row now).actorId = row.actorId
        ∧ (rowToLeaseRecord row now).scope = row.scope := by
    simp only [shownAsIs, Bool.and_eq_true, beq_iff_eq] at shown
    exact shown
  constructor
  · intro none row mem
    refine eq_false_of_ne_true (fun opposing => ?_)
    have parts := opposing
    simp only [opposes, Bool.and_eq_true, beq_iff_eq] at parts
    obtain ⟨⟨⟨session, live⟩, foreign⟩, overlap⟩ := parts
    obtain ⟨shown, fits⟩ := inView row mem session live
    obtain ⟨actor, scope⟩ := asIs shown
    have listed := listed_of_fits mem live (fits opposing)
    rw [session] at listed
    refine absurd (mem_filter.mpr ⟨listed, ?_⟩) (none ▸ not_mem_nil)
    rw [actor, scope, foreign, overlap]
    rfl
  · intro free
    rw [eq_nil_iff_forall_not_mem]
    intro lease mem
    obtain ⟨listed, conflict⟩ := mem_filter.mp mem
    obtain ⟨row, within, rfl, live⟩ := mem_listedLeases listed
    obtain ⟨stored, session⟩ := mem_selectLeases within
    have isLive : row.isLive now = true := live
    obtain ⟨shown, _⟩ := inView row stored session isLive
    obtain ⟨actor, scope⟩ := asIs shown
    rw [actor, scope, Bool.and_eq_true] at conflict
    have opposing : opposes target now row = true := by
      unfold opposes
      rw [session, isLive, conflict.1, conflict.2]
      simp
    cases (free row stored).symm.trans opposing

end

-- One acquisition

structure ClaimedBy (target : AcquireTarget) (row : LeaseRow) : Prop where
  session : row.codeSessionId = target.sessionId
  actor : row.actorId = target.actor
  scope : row.scope = target.scope

theorem Exclusive.claim {leases leases' : List LeaseRow} {target : AcquireTarget} {now : Nat}
    (exclusive : Exclusive leases now) (free : ∀ row ∈ leases, opposes target now row = false)
    (each : ∀ row ∈ leases', row ∈ leases ∨ ClaimedBy target row)
    : Exclusive leases' now := by
  have apart {a b : LeaseRow} (claimed : ClaimedBy target a) (old : b ∈ leases)
      (session : a.codeSessionId = b.codeSessionId) (actors : a.actorId ≠ b.actorId)
      (live : b.isLive now = true)
      : leaseScopesOverlap a.scope b.scope = false := by
    have unopposed := free b old
    unfold opposes at unopposed
    rw [← session, claimed.session, beq_self_eq_true, live, ← claimed.scope, ← claimed.actor,
      bne_iff_ne.mpr (Ne.symm actors)] at unopposed
    simpa using unopposed
  intro a memberA b memberB session actors liveA liveB
  rcases each a memberA with oldA | claimedA
  · rcases each b memberB with oldB | claimedB
    · exact exclusive a oldA b oldB session actors liveA liveB
    · rw [leaseScopesOverlap_comm]
      exact apart claimedB oldA session.symm (Ne.symm actors) liveA
  · rcases each b memberB with oldB | claimedB
    · exact apart claimedA oldB session actors liveB
    · exact absurd (claimedA.actor.trans claimedB.actor.symm) actors

section

variable {sha256Text : Text → Digest} {toISOString : Nat → Text} {db : Database}
  {target : AcquireTarget} {session : SessionRow} {checkpoint : Option Text} {now : Nat}

abbrev ExclusiveAt (now : Nat) (db : Database) : Prop :=
  Exclusive db.leases now

theorem alone_readBack_bind {I : Database → Prop} {Q : Except Text LeaseAnswer → Database → Prop}
    {id : Text} {g : Option LeaseRecord → Operation LeaseAnswer}
    (rest : ∀ lease, (g lease).Alone I Q db)
    : ((readBack id now).bind g).Alone I Q db := by
  unfold readBack getLeaseRow
  cases leaseId (.string id) with
  | error _ => exact rest none
  | ok _ => exact rest _

theorem alone_renewExisting {own : LeaseRecord} (exclusive : Exclusive db.leases now)
    (free : ∀ row ∈ db.leases, opposes target now row = false)
    : (renewExisting target session checkpoint own now).Alone (ExclusiveAt now)
        (fun answer after => ExclusiveAt now after ∧ ∃ result, answer = .ok result ∧ result.isOk = true)
        db := by
  have claimed : Exclusive
      (Data.updateWhere (isHeld own.leaseId target.actor target.sessionId)
        (rescope target.scope checkpoint
          { now
            expiresAt := expiryOf now target.ttlSeconds
            sessionRevision := session.sessionRevision })
        db.leases) now := by
    refine exclusive.claim free (fun row mem => ?_)
    obtain ⟨old, here, rfl⟩ := mem_updateWhere.mp mem
    split
    · rename_i held
      simp only [isHeld, Bool.and_eq_true, beq_iff_eq] at held
      exact .inr ⟨held.1.2, held.1.1.2, rfl⟩
    · exact .inl here
  exact ⟨claimed, alone_readBack_bind (fun lease => ⟨claimed, _, rfl, rfl⟩)⟩

theorem alone_createLease {row : LeaseRow} (exclusive : Exclusive db.leases now)
    (free : ∀ row ∈ db.leases, opposes target now row = false) (mine : ClaimedBy target row)
    : (createLease target row).Alone (ExclusiveAt now)
        (fun answer after =>
          ExclusiveAt now after
            ∧ (findLease db.leases row.leaseId = none → ∃ result, answer = .ok result ∧ result.isOk = true))
        db := by
  cases found : findLease db.leases row.leaseId with
  | some old =>
    have missed : exec (.insertLease row) db = (false, { db with steps := db.steps + 1 }) := by
      simp only [exec, insertLease, found]
    unfold createLease perform
    simp only [bind_eq, Program.perform, exec_bind, done_bind, Program.Alone,
      missed]
    exact ⟨exclusive, exclusive, fun impossible => by cases impossible⟩
  | none =>
    have added : exec (.insertLease row) db
        = (true, { db with leases := db.leases ++ [row], steps := db.steps + 1 }) := by
      simp only [exec, insertLease, found]
    have claimed : Exclusive (db.leases ++ [row]) now := by
      refine exclusive.claim free (fun other mem => ?_)
      rcases mem_append.mp mem with old | new
      · exact .inl old
      · cases mem_singleton.mp new
        exact .inr mine
    unfold createLease perform
    simp only [bind_eq, Program.perform, exec_bind, done_bind, Program.Alone,
      added, if_true]
    exact ⟨claimed, alone_readBack_bind (fun lease => ⟨claimed, fun _ => ⟨_, rfl, rfl⟩⟩)⟩

def expiredTwice (db : Database) (sessionId : Text) (now : Nat) : Database :=
  (exec (.expireStale sessionId now) (exec (.expireStale sessionId now) db).2).2

theorem alone_acquireChecked {args : AcquireArguments} (strict : args.allowOverlap = false)
    (exclusive : Exclusive db.leases args.now)
    (inView : conflictsInView db.leases target args.now = true)
    : (acquireChecked sha256Text toISOString args target session checkpoint).Alone
        (ExclusiveAt args.now)
        (fun answer after =>
          ExclusiveAt args.now after
            ∧ ((∀ row ∈ db.leases, opposes target args.now row = false)
              → findLease db.leases
                  (newLease sha256Text toISOString target session checkpoint args).leaseId = none
              → ∃ result, answer = .ok result ∧ result.isOk = true))
        db := by
  let row := newLease sha256Text toISOString target session checkpoint args
  let settled := expiredTwice db target.sessionId args.now
  have once : Exclusive (exec (.expireStale target.sessionId args.now) db).2.leases args.now :=
    exclusive.exec (.expireStale target.sessionId args.now) trivial
  have twice : Exclusive settled.leases args.now :=
    once.exec (.expireStale target.sessionId args.now) trivial
  have inView' : conflictsInView settled.leases target args.now = true :=
    conflictsInView_expired _ (conflictsInView_expired _ inView)
  have free : (∀ row ∈ settled.leases, opposes target args.now row = false)
      ↔ ∀ row ∈ db.leases, opposes target args.now row = false :=
    (unopposed_expired _).trans (unopposed_expired _)
  have fresh : findLease settled.leases row.leaseId = none ↔ findLease db.leases row.leaseId = none :=
    (findLease_expired _ _).trans (findLease_expired _ _)
  refine ⟨once, twice, ?_⟩
  let live :=
    (listedLeases (selectLeases settled.leases target.sessionId (MAX_LEASE_LIST * 2)) false
      args.now).take MAX_LEASE_LIST
  change (acquireAgainst sha256Text toISOString live args target session checkpoint).Alone _ _
    settled
  unfold acquireAgainst
  have conflicts : foreignOverlap target live = []
      ↔ ∀ row ∈ settled.leases, opposes target args.now row = false :=
    foreignOverlap_eq_nil_iff inView'
  by_cases none : foreignOverlap target live = []
  · rw [if_neg (fun conflict => conflict.1 none)]
    have unopposed := conflicts.mp none
    cases latestEnd (ownOverlap target live) with
    | some own =>
      exact (alone_renewExisting twice unopposed).consequence (fun _ _ after =>
        ⟨after.1, fun _ _ => after.2⟩)
    | none =>
      exact (alone_createLease twice unopposed ⟨rfl, rfl, rfl⟩).consequence (fun _ _ after =>
        ⟨after.1, fun _ unused => after.2 (fresh.mpr unused)⟩)
  · rw [if_pos ⟨none, by rw [strict]; rfl⟩]
    exact ⟨twice, fun unopposed => absurd (conflicts.mpr (free.mpr unopposed)) none⟩

end

-- Sequences

namespace LeaseCall

/-- The call's reading of the clock. -/
def now : LeaseCall → Nat
  | .acquire args => args.now
  | .renew args => args.now
  | .release args => args.now
  | .list args => args.now

/-- No acquisition that lets scopes overlap. -/
def isStrict : LeaseCall → Bool
  | .acquire args => !args.allowOverlap
  | _ => true

/-- The leases that an acquisition has to see are in its view. -/
def inView (db : Database) : LeaseCall → Bool
  | .acquire args =>
    (readAcquire args).toOption.all (fun target =>
      conflictsInView db.leases target args.now)
  | _ => true

end LeaseCall

section

variable (sha256Text : Text → Digest) (toISOString : Nat → Text)
  {call : LeaseCall}

structure Acceptable (db : Database) (args : AcquireArguments) (target : AcquireTarget)
    (session : SessionRow) (checkpoint : Option Text)
    : Prop where
  read : readAcquire args = .ok target
  found : findSession db.sessions target.sessionId = some session
  checked : checkAcquire args session = .ok checkpoint
  free
    : findLease db.leases
        (newLease sha256Text toISOString target session checkpoint args).leaseId = none

/-- From its start on, the call lets no live leases of different actors overlap; and an acquisition that
no live lease of another actor is in the way of succeeds.
-/
structure Excludes (db : Database) (call : LeaseCall) : Prop where
  exclusive
    : ∀ visit ∈ db :: (call.body sha256Text toISOString).visits db, ∀ instant, call.now ≤ instant
      → Exclusive visit.leases instant
  succeeds
    : ∀ args target session checkpoint, call = .acquire args
      → Acceptable sha256Text toISOString db args target session checkpoint
      → (∀ row ∈ db.leases, opposes target args.now row = false)
      → ∃ result, ((call.body sha256Text toISOString).run db).1 = .ok result ∧ result.isOk = true

variable {sha256Text toISOString} {db : Database}

/-- What a call running alone shows: exclusion, and success where it has been promised. -/
def Served (sha256Text : Text → Digest) (toISOString : Nat → Text) (db : Database) (call : LeaseCall)
    (answer : Except Text LeaseAnswer) (after : Database)
    : Prop :=
  ExclusiveAt call.now after
    ∧ ∀ args target session checkpoint, call = .acquire args
      → Acceptable sha256Text toISOString db args target session checkpoint
      → (∀ row ∈ db.leases, opposes target args.now row = false)
      → ∃ result, answer = .ok result ∧ result.isOk = true

theorem alone_of_keepsScopes (exclusive : Exclusive db.leases call.now)
    (issues : (call.body sha256Text toISOString).Issues (KeepsScopes call.now))
    (other : ∀ args, call ≠ .acquire args)
    : (call.body sha256Text toISOString).Alone (ExclusiveAt call.now)
        (Served sha256Text toISOString db call) db := by
  have alone := Program.Alone.of_issues (I := ExclusiveAt call.now) issues
    (fun cmd state keeps before => Exclusive.exec before cmd keeps) exclusive
  exact alone.consequence (fun _ _ after =>
    ⟨after, fun args _ _ _ same => absurd same (other args)⟩)

theorem alone_acquire {args : AcquireArguments} (strict : args.allowOverlap = false)
    (exclusive : Exclusive db.leases args.now)
    (inView : LeaseCall.inView db (.acquire args) = true)
    : (acquireCodeSessionLease sha256Text toISOString args).Alone (ExclusiveAt args.now)
        (Served sha256Text toISOString db (.acquire args)) db := by
  have denied {why : Refusal}
      (never : ∀ target session checkpoint,
        ¬ Acceptable sha256Text toISOString db args target session checkpoint)
      : Served sha256Text toISOString db (.acquire args) (.ok (.refused why)) db := by
    refine ⟨exclusive, fun _ target session checkpoint same fit _ => ?_⟩
    cases acquire.inj same
    exact absurd fit (never target session checkpoint)
  unfold acquireCodeSessionLease
  cases read : readAcquire args with
  | error why =>
    refine denied (fun target session checkpoint fit => ?_)
    cases read.symm.trans fit.read
  | ok target =>
    let found := findSession db.sessions target.sessionId
    refine Program.Alone.seq (R := fun answer after => answer = .ok found ∧ after = db) ⟨rfl, rfl⟩ ?_
      (fun _ _ impossible => by cases impossible.1)
    rintro current after ⟨same, rfl⟩
    obtain rfl := Except.ok.inj same
    cases known : found with
    | none =>
      refine denied (fun target' session checkpoint fit => ?_)
      cases (read.symm.trans fit.read)
      cases known.symm.trans fit.found
    | some session =>
      simp only
      cases checked : checkAcquire args session with
      | error why =>
        refine denied (fun target' session' checkpoint fit => ?_)
        cases (read.symm.trans fit.read)
        cases (known.symm.trans fit.found)
        cases checked.symm.trans fit.checked
      | ok checkpoint =>
        have inView' : conflictsInView (Database.leases after) target args.now = true := by
          simp only [LeaseCall.inView, read] at inView
          exact inView
        refine (alone_acquireChecked strict exclusive inView').consequence ?_
        rintro answer later ⟨kept, succeeds⟩
        refine ⟨kept, fun arguments' target' session' checkpoint' same fit free => ?_⟩
        cases acquire.inj same
        cases (read.symm.trans fit.read)
        cases (known.symm.trans fit.found)
        cases (checked.symm.trans fit.checked)
        exact succeeds free fit.free

variable (sha256Text toISOString)

/-- A call with its conflicts in view. Witness: case analysis on the call. -/
theorem alone_call (strict : call.isStrict = true) (exclusive : Exclusive db.leases call.now)
    (inView : call.inView db = true)
    : (call.body sha256Text toISOString).Alone (ExclusiveAt call.now)
        (Served sha256Text toISOString db call) db := by
  cases call with
  | acquire args =>
    have strict' : args.allowOverlap = false := by
      simpa [isStrict] using strict
    exact alone_acquire strict' exclusive inView
  | renew args =>
    exact alone_of_keepsScopes exclusive (issues_renew args) (fun _ same => by cases same)
  | release args =>
    exact alone_of_keepsScopes exclusive (issues_release args) (fun _ same => by cases same)
  | list args =>
    exact alone_of_keepsScopes exclusive (issues_list args) (fun _ same => by cases same)

theorem excludes_of_inView (strict : call.isStrict = true)
    (exclusive : Exclusive db.leases call.now) (inView : call.inView db = true)
    : Excludes sha256Text toISOString db call
      ∧ Exclusive ((call.body sha256Text toISOString).run db).2.leases call.now := by
  obtain ⟨visits, after, succeeds⟩ :=
    (alone_call sha256Text toISOString strict exclusive inView).of_run
  refine ⟨⟨fun visit mem when le => ?_, succeeds⟩, after⟩
  rcases mem_cons.mp mem with rfl | visited
  · exact exclusive.later le
  · exact (visits visit visited).later le

end

/-- What is so before the calls that are left: their clock does not run back, none is lax, and the leases
have been exclusive since some reading of it.
-/
structure Orderly (db : Database) (calls : List LeaseCall) : Prop where
  clock : calls.Pairwise (fun a b => a.now ≤ b.now)
  strict : ∀ call ∈ calls, call.isStrict = true
  exclusive : ∃ since, Exclusive db.leases since ∧ ∀ call ∈ calls, since ≤ call.now

/-- In a sequence of calls with a clock that does not run back, each with its conflicts in view, leases
of different actors exclude each other. Witness: induction on the calls that are left.
-/
theorem excludes_of_conflictsInView (sha256Text : Text → Digest) (toISOString : Nat → Text)
    (start : Database) (none : start.leases = []) (calls : List LeaseCall)
    (clock : calls.Pairwise (fun a b => a.now ≤ b.now)) (strict : ∀ call ∈ calls, call.isStrict = true)
    (inView
      : EachCall (LeaseCall.body sha256Text toISOString) (fun db call => call.inView db = true) start calls)
    : EachCall (LeaseCall.body sha256Text toISOString) (Excludes sha256Text toISOString) start calls := by
  have initial : Orderly start calls := by
    refine ⟨clock, strict, 0, fun a member => ?_, fun _ _ => zero_le _⟩
    rw [none] at member
    cases member
  refine inView.induction (J := Orderly) initial ?_
  rintro db call rest seen ⟨clock, strict, since, exclusive, before⟩
  obtain ⟨later, clock'⟩ := pairwise_cons.mp clock
  obtain ⟨shows, after⟩ := excludes_of_inView _ _ (strict call (.head _))
    (exclusive.later (before call (.head _))) seen
  exact ⟨shows, clock', fun call member => strict call (.tail _ member), call.now, after,
    later⟩

namespace Sample

def acquireTask (actor task : String) (now : Nat) : LeaseCall :=
  .acquire
    { codeSessionId := .string (text "cs:one")
      actorId := .string (text actor), taskId := .string (text task), pathPrefixes := .undefined
      ttlSeconds := .nan, allowOverlap := false, baseRevision := .undefined
      checkpointId := .undefined, now := now
      nonce := text "nonce" }

/-- A task of one actor, that another one gets after its release. -/
def handedOver : List LeaseCall :=
  [acquireTask "user:ann" "task" 1000, acquireTask "user:anna" "task" 1000, release "user:ann" 2000,
    acquireTask "user:anna" "task" 2000]

def hiddenTask : List LeaseCall :=
  [acquireTask "user:ann" "workspace_capability" 1000,
    acquireTask "user:anna" "workspace_capability" 1000]

def hiddenTaskHeld : Database :=
  (Program.run (LeaseCall.body digest toISOString (acquireTask "user:ann" "workspace_capability" 1000))
    unleased).2

end Sample

/-- A task of one actor, that another one gets after its release. -/
theorem excludes_handedOver
    : EachCall (LeaseCall.body Sample.digest Sample.toISOString)
        (Excludes Sample.digest Sample.toISOString) Sample.unleased Sample.handedOver :=
  excludes_of_conflictsInView _ _ _ rfl _ (by decide +kernel) (by decide +kernel) (by decide +kernel)

/-- Two live leases of different actors overlap. -/
def collide (now : Nat) (db : Database) : Bool :=
  db.leases.any (fun a => db.leases.any (fun b =>
    a.codeSessionId == b.codeSessionId && a.actorId != b.actorId && a.isLive now && b.isLive now
      && leaseScopesOverlap a.scope b.scope))

theorem not_exclusive_of_collide {now : Nat} {db : Database} (collides : collide now db = true)
    : ¬ Exclusive db.leases now := by
  intro exclusive
  obtain ⟨a, memberA, both⟩ := any_eq_true.mp collides
  obtain ⟨b, memberB, both⟩ := any_eq_true.mp both
  simp only [Bool.and_eq_true, beq_iff_eq, bne_iff_ne] at both
  obtain ⟨⟨⟨⟨session, actors⟩, liveA⟩, liveB⟩, overlap⟩ := both
  cases (exclusive a memberA b memberB session actors liveA liveB).symm.trans overlap

/-- A task whose id looks like a secret is not shown to the search for conflicts, so two actors get it. -/
theorem actorsCanShareTasks
    : ¬ ∀ (sha256Text : Text → Digest) (toISOString : Nat → Text) (start : Database),
        start.leases = [] → ∀ calls : List LeaseCall, calls.Pairwise (fun a b => a.now ≤ b.now)
        → (∀ call ∈ calls, call.isStrict = true)
        → EachCall (LeaseCall.body sha256Text toISOString) (Excludes sha256Text toISOString) start calls := by
  intro all
  have each := all digest toISOString unleased rfl hiddenTask
    (by decide +kernel) (by decide +kernel)
  have second : Excludes digest toISOString hiddenTaskHeld _ := each.2.1
  have collides
      : (Program.visits
          (body digest toISOString
            (acquireTask "user:anna" "workspace_capability" 1000))
          hiddenTaskHeld).any (collide 1000) = true := by
    decide +kernel
  obtain ⟨visit, member, both⟩ := any_eq_true.mp collides
  exact not_exclusive_of_collide both
    (second.exclusive visit (.tail _ member) 1000 (le_refl _))

end CairnStone.CodeSession
