import CairnStone.Concurrency.Replay

/-! Calls that read a cell by one command and write it by a later one. If no call has written the cell in
between, the write finds what the read has found.
-/

namespace CairnStone.Concurrency

open List

variable {M : Machine} {β : Type}

namespace History

def since (reads : M.Command → Bool) (t : Nat) (h : History M) : List (Issued M) :=
  h.log.takeWhile (fun issued => !(issued.thread == t && reads issued.command))

def Unraced (reads writes : M.Command → Bool) (t : Nat) (h : History M) : Prop :=
  ∀ issued ∈ h.since reads t, writes issued.command = false

instance decidableUnraced (reads writes : M.Command → Bool) (t : Nat) (h : History M)
    : Decidable (h.Unraced reads writes t) :=
  inferInstanceAs (Decidable (∀ issued ∈ h.since reads t, writes issued.command = false))

def LastRead (reads : M.Command → Bool) (cell : M.State → β) (t : Nat) (value : β) (h : History M)
    : Prop :=
  ∃ recent issued earlier, h.log = recent ++ issued :: earlier ∧ issued.thread = t
    ∧ reads issued.command = true
    ∧ (∀ later ∈ recent, later.thread = t → reads later.command = false)
    ∧ cell issued.before = value

variable {reads writes : M.Command → Bool} {cell : M.State → β} {t : Nat} {value : β}
  {h h' : History M}

theorem lastRead_exec {cmd : M.Command} (reading : reads cmd = true)
    : (h.exec t cmd).LastRead reads cell t (cell h.state) :=
  ⟨[], ⟨t, cmd, h.state⟩, h.log, rfl, rfl, reading,
    forall_mem_nil _, rfl⟩

/-- Commands of other threads leave the thread with what it has read. -/
theorem LastRead.moved (last : h.LastRead reads cell t value) (le : h.log <:+ h'.log)
    (own : h'.own t = h.own t)
    : h'.LastRead reads cell t value := by
  obtain ⟨between, grown⟩ := le
  obtain ⟨recent, issued, prior, split, thread, reading, unread, found⟩ := last
  refine ⟨between ++ recent, issued, prior, ?_, thread, reading, ?_, found⟩
  · rw [← grown, split, append_assoc]
  · intro later mem same
    rcases mem_append.mp mem with new | old
    · -- The thread itself has issued nothing in between.
      have none : between.filter (fun issued => issued.thread == t) = [] := by
        have filtered : h'.own t = between.filter (fun issued => issued.thread == t) ++ h.own t := by
          unfold History.own
          rw [← grown, filter_append]
        rw [own] at filtered
        exact self_eq_append_left.mp filtered
      have kept : later ∈ between.filter (fun issued => issued.thread == t) :=
        mem_filter.mpr ⟨new, beq_iff_eq.mpr same⟩
      rw [none] at kept
      cases kept
    · exact unread later old same

/-- What a thread has read is still there, if nobody has written since.
Witness: induction on the commands since.
-/
theorem LastRead.current {start : M.State} {promise : Nat → M.Command → History M → Prop}
    (last : h.LastRead reads cell t value) (kept : Kept start promise h)
    (unraced : h.Unraced reads writes t)
    (keeps
      : ∀ cmd state, writes cmd = false → cell (M.exec cmd state).2 = cell state)
    (harmless : ∀ cmd, reads cmd = true → writes cmd = false)
    : cell h.state = value := by
  obtain ⟨recent, issued, prior, split, thread, reading, unread, rfl⟩ := last
  have unwritten : ∀ later ∈ recent, writes later.command = false := by
    intro later mem
    refine unraced later ?_
    unfold since
    rw [split, takeWhile_append_of_pos]
    · exact mem_append_left _ mem
    · intro other here
      cases own : other.thread == t with
      | false => rfl
      | true => rw [unread other here (beq_iff_eq.mp own)]; rfl
  obtain ⟨state, log⟩ := h
  obtain rfl : log = recent ++ issued :: prior := split
  clear unraced
  induction recent generalizing state with
  | nil =>
    obtain ⟨_, _, executed⟩ := kept.before
    have same : (M.exec issued.command issued.before).2 = state := congrArg History.state executed
    rw [← same]
    exact keeps _ _ (harmless _ reading)
  | cons newest recent ih =>
    obtain ⟨before, _, executed⟩ := kept.before
    have same : (M.exec newest.command newest.before).2 = state := congrArg History.state executed
    have unchanged : cell (M.exec newest.command newest.before).2 = cell newest.before :=
      keeps _ _ (unwritten newest (.head _))
    rw [← same, unchanged]
    exact ih (fun later mem => unread later (.tail _ mem))
      (fun later mem => unwritten later (.tail _ mem)) newest.before before

end History

end CairnStone.Concurrency

/-! Cells with a revision. Where every change of a cell raises its revision, a cell that is found with
the revision that it had at an earlier instant has not changed in between.
-/

namespace CairnStone.Concurrency

open List

variable {M : Machine} {ρ : Type}

/-- What a cell may have become: itself, or anything with a higher revision. -/
def Advances (revision : ρ → Nat) (old new : ρ) : Prop :=
  new = old ∨ revision old < revision new

namespace Advances

variable {revision : ρ → Nat} {old middle new : ρ}

theorem refl (cell : ρ) : Advances revision cell cell :=
  .inl rfl

theorem trans (first : Advances revision old middle) (second : Advances revision middle new)
    : Advances revision old new := by
  rcases first with rfl | lower
  · exact second
  · rcases second with rfl | lower'
    · exact .inr lower
    · exact .inr (Nat.lt_trans lower lower')

/-- A revision belongs to one content. -/
theorem eq_of_revision (advances : Advances revision old new) (same : revision new = revision old)
    : new = old := by
  rcases advances with rfl | lower
  · rfl
  · omega

end Advances

def Versioned (revision : ρ → Nat) (cell : M.State → Option ρ) : Prop :=
  ∀ state cmd old, cell state = some old
    → ∃ new, cell (M.exec cmd state).2 = some new ∧ Advances revision old new

variable {start : M.State} {promise : Nat → M.Command → History M → Prop} {h h' : History M}
  {revision : ρ → Nat} {cell : M.State → Option ρ}

/-- A cell that was there at an earlier instant is still there, at the same or a higher revision.
Witness: every command of the log in between keeps it so.
-/
theorem Versioned.later (versioned : Versioned revision cell) (kept : Kept start promise h)
    (kept' : Kept start promise h') (le : h.log <:+ h'.log) {old : ρ} (found : cell h.state = some old)
    : ∃ new, cell h'.state = some new ∧ Advances revision old new := by
  refine Kept.state_grow (R := fun state => ∃ new, cell state = some new ∧ Advances revision old new)
    kept kept' le ⟨old, found, .refl old⟩ ?_
  rintro state cmd ⟨middle, here, advances⟩
  obtain ⟨new, present', advances'⟩ := versioned state cmd middle here
  exact ⟨new, present', advances.trans advances'⟩

theorem Versioned.unchanged (versioned : Versioned revision cell) (kept : Kept start promise h)
    (kept' : Kept start promise h') (le : h.log <:+ h'.log) {old new : ρ}
    (found : cell h.state = some old) (found' : cell h'.state = some new)
    (same : revision new = revision old)
    : new = old := by
  obtain ⟨other, here, advances⟩ := versioned.later kept kept' le found
  obtain rfl : other = new := Option.some.inj (here.symm.trans found')
  exact advances.eq_of_revision same

end CairnStone.Concurrency
