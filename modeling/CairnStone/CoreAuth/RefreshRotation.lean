import CairnStone.CoreAuth.Runs

/-! Single use of refresh tokens. A rotation marks its token rotated by an `UPDATE` whose effect it
does not look at, so two rotations that both read the token before either marks it both succeed.
Where no token is marked twice, a family has at most one active refresh token.
-/

namespace CairnStone.CoreAuth

open JavaScript Data Concurrency List Option Bool Database History Nat

variable {tokenHash f : Text} {db : Database} {env : Env} {clients : List ClientRow}

abbrev AuthConfig := Config authStore Call Failure Answer

def marked : Command → Option Text
  | .markRotated tokenHash => some tokenHash
  | _ => none

/-- No refresh token is marked rotated a second time. -/
def MarksOnce (_ : Nat) (cmd : Command) (h : History authStore) : Prop :=
  ∀ issued ∈ h.log, marked cmd ≠ none → marked issued.command ≠ marked cmd

instance decidableMarksOnce (t : Nat) (cmd : Command) (h : History authStore)
    : Decidable (MarksOnce t cmd h) :=
  inferInstanceAs (Decidable (∀ issued ∈ h.log, _ → _))

instance decidableRespectsMarksOnce (h : History authStore) : Decidable (h.Respects MarksOnce) :=
  @History.decidableRespects authStore MarksOnce decidableMarksOnce h

/-- How many active refresh tokens the family has. -/
def activeTokens (db : Database) (tokenFamilyId : Text) : Nat :=
  db.refreshTokens.countP (fun row =>
    row.tokenFamilyId == tokenFamilyId && row.status == .active)

def Exchanged (config : AuthConfig) (thread : Nat) (refreshToken : Text) : Prop :=
  ∃ expectedResource draw now rotated,
    config.call thread = some (.rotateRefreshToken refreshToken expectedResource draw now)
    ∧ config.answer thread = some (.ok (.rotated rotated))

/-- A family has at most one active refresh token, a refresh token is exchanged at most once, and
whoever presents one that has been exchanged or revoked before has the family revoked.
-/
structure SingleUse (env : Env) (config : AuthConfig) : Prop where
  active : ∀ tokenFamilyId, activeTokens config.state tokenFamilyId ≤ 1
  exchanged
    : ∀ refreshToken thread thread',
        Exchanged config thread refreshToken → Exchanged config thread' refreshToken
        → thread = thread'
  reused
    : ∀ (thread : Nat) entry refreshToken expectedResource draw now,
        config.threads[thread]? = some entry
        → entry.call = .rotateRefreshToken refreshToken expectedResource draw now
        → entry.answer ≠ none
        → ∀ row ∈ entry.start.refreshTokens,
            row.tokenHash = hashSecret env refreshToken → row.status ≠ .active
            → FamilyRevoked row.tokenFamilyId config.state

namespace Sample

/-- Two rotations of the first refresh token, both of which read it before either marks it. -/
def crossedRotations : List (Action authStore Call) :=
  let rotate (n : Fin 256) : Call :=
    .rotateRefreshToken (randomToken "csrt" [0]) none ⟨[n], [n]⟩ 0
  .spawn (bootstrap 0) :: steps 20 0 ++ [.spawn (rotate 1), .spawn (rotate 2)]
    ++ steps 5 1 ++ steps 5 2 ++ steps 4 1 ++ steps 4 2

end Sample

/-- A wider condition that holds of one more element counts more. -/
theorem countP_lt_of_mem {α : Type} {p q : α → Bool} {l : List α}
    (wider : ∀ a ∈ l, p a = true → q a = true) {a : α} (mem : a ∈ l) (holds : q a = true)
    (fails : p a = false)
    : l.countP p < l.countP q := by
  obtain ⟨before, after, rfl⟩ := append_of_mem mem
  have left := countP_mono_left (fun b here => wider b (mem_append_left _ here))
  have right := countP_mono_left (fun b here =>
    wider b (mem_append_right _ (mem_cons_of_mem a here)))
  rw [countP_append, countP_append, countP_cons_of_pos holds,
    countP_cons_of_neg (by simp [fails])]
  omega

/-- Disjoint conditions count no more than a condition that covers both. -/
theorem countP_add_le {α : Type} {p q r : α → Bool} {l : List α}
    (first : ∀ a ∈ l, p a = true → r a = true) (second : ∀ a ∈ l, q a = true → r a = true)
    (disjoint : ∀ a ∈ l, p a = true → q a = false)
    : l.countP p + l.countP q ≤ l.countP r := by
  induction l with
  | nil => exact le_refl _
  | cons a rest ih =>
    have rest := ih (fun b mem => first b (.tail _ mem))
      (fun b mem => second b (.tail _ mem))
      (fun b mem => disjoint b (.tail _ mem))
    have first := first a (.head _)
    have second := second a (.head _)
    have disjoint := disjoint a (.head _)
    have one : (if p a then 1 else 0) + (if q a then 1 else 0) ≤ if r a then 1 else 0 := by
      cases holds : p a with
      | true => simp [first holds, disjoint holds]
      | false =>
        cases holds' : q a with
        | true => simp [second holds']
        | false => simp
    simp only [countP_cons]
    omega

def tokenKeys (db : Database) : List (Text × Text) :=
  db.refreshTokens.map (fun row => (row.tokenHash, row.tokenFamilyId))

def addedKeys (cmd : Command) (db : Database) : List (Text × Text) :=
  match cmd with
  | .insert (.refreshToken row) =>
    if db.taken (.refreshToken row) then [] else [(row.tokenHash, row.tokenFamilyId)]
  | _ => []

/-- Statements only add refresh tokens, or change their status. -/
theorem tokenKeys_exec (cmd : Command) (db : Database)
    : tokenKeys (Database.exec cmd db).2 = tokenKeys db ++ addedKeys cmd db := by
  cases cmd with
  | insert row =>
    rcases db.exec_insert row with ⟨taken, denied⟩ | ⟨free, added⟩
    · rw [denied]
      cases row <;> simp [addedKeys, taken]
    · rw [added]
      cases row <;> simp [addedKeys, free, add, tokenKeys]
  | markRotated tokenHash =>
    refine Eq.trans ?_ (append_nil _).symm
    refine map_updateWhere ?_
    exact fun _ _ => rfl
  | revokeRefreshTokens tokenFamilyId =>
    refine Eq.trans ?_ (append_nil _).symm
    refine map_updateWhere ?_
    exact fun _ _ => rfl
  | _ => exact (append_nil _).symm

def marks (trace : Trace) : List Text :=
  trace.filterMap (fun issued => marked issued.command)

structure Booked (h : History authStore) : Prop where
  added
    : ∀ f, (tokenKeys h.state).countP (fun key => key.2 == f)
      = h.log.countP (addsRefreshToken f)
  permitted
    : ∀ f, h.log.countP (permitsRefreshToken f)
      ≤ (Database.family h.state f).isSome.toNat
        + (tokenKeys h.state).countP (fun key => key.2 == f && (marks h.log).contains key.1)
  spent
    : ∀ row ∈ Database.refreshTokens h.state,
        row.tokenHash ∈ marks h.log → row.status ≠ .active
  known : ∀ tokenHash ∈ marks h.log, ∃ f, (tokenHash, f) ∈ tokenKeys h.state

theorem mem_marks {trace : Trace}
    : tokenHash ∈ marks trace ↔ ∃ issued ∈ trace, marked issued.command = some tokenHash := by
  simp [marks, mem_filterMap]

theorem MarksOnce.fresh {t : Nat} {h : History authStore}
    (once : MarksOnce t (.markRotated tokenHash) h)
    : tokenHash ∉ marks h.log := by
  intro mem
  obtain ⟨issued, noted, same⟩ := mem_marks.mp mem
  exact once issued noted (by simp [marked]) same

theorem marks_markRotated {h : History authStore} {t : Nat}
    : marks (h.exec t (.markRotated tokenHash)).log = tokenHash :: marks h.log := rfl

theorem mem_tokenKeys
    : (tokenHash, f) ∈ tokenKeys db
      ↔ ∃ row ∈ db.refreshTokens, row.tokenHash = tokenHash ∧ row.tokenFamilyId = f := by
  simp [tokenKeys, List.mem_map]

theorem booked_initial (clients : List ClientRow) : Booked ⟨First clients, []⟩ where
  added := fun _ => rfl
  permitted := fun _ => zero_le _
  spent := fun _ _ mem => absurd mem not_mem_nil
  known := forall_mem_nil _

theorem countP_addedKeys (t : Nat) (cmd : Command) (db : Database) (f : Text)
    : (addedKeys cmd db).countP (fun key => key.2 == f)
      = if addsRefreshToken f ⟨t, cmd, db⟩ then 1 else 0 := by
  cases cmd with
  | insert row =>
    cases row with
    | refreshToken row =>
      by_cases taken : db.taken (.refreshToken row) = true
      · simp [addedKeys, addsRefreshToken, taken]
      · simp [addedKeys, addsRefreshToken, taken, countP_cons]
    | _ => rfl
  | _ => rfl

theorem isSome_family
    : (db.family f).isSome = true ↔ FamilyKnown f db := by
  simp [family, find?_isSome, FamilyKnown]

theorem FamilyKnown.exec (known : FamilyKnown f db) (cmd : Command)
    : FamilyKnown f (Database.exec cmd db).2 := by
  obtain ⟨family, mem, same⟩ := known
  obtain ⟨family', mem', goes⟩ := families_exec cmd db family mem
  refine ⟨family', mem', ?_⟩
  rw [goes.columns]
  exact same

theorem toNat_family_exec (cmd : Command) (db : Database) (f : Text)
    : (db.family f).isSome.toNat ≤ ((Database.exec cmd db).2.family f).isSome.toNat := by
  cases found : (db.family f).isSome with
  | false => exact zero_le _
  | true => rw [isSome_family.mpr ((isSome_family.mp found).exec cmd)]

section

variable {h : History authStore} {t : Nat}
  {cmd : Command}

theorem Booked.added_exec (booked : Booked h) (cmd : Command) (f : Text)
    : (tokenKeys (h.exec t cmd).state).countP (fun key => key.2 == f)
      = (h.exec t cmd).log.countP (addsRefreshToken f) := by
  rw [exec_state, exec_log]
  show (tokenKeys (Database.exec cmd h.state).2).countP _ = _
  rw [tokenKeys_exec, countP_append, countP_addedKeys t, booked.added f, countP_cons]

theorem permits_cases {db : Database} {f : Text}
    (permits : permitsRefreshToken f ⟨t, cmd, db⟩ = true)
    : (db.family f = none ∧ FamilyKnown f (Database.exec cmd db).2)
      ∨ ∃ tokenHash, cmd = .markRotated tokenHash ∧ (tokenHash, f) ∈ tokenKeys db := by
  unfold permitsRefreshToken at permits
  split at permits
  · rename_i row cmd'
    obtain rfl : cmd = .insert (.family row) := cmd'
    simp only [and_eq_true, beq_iff_eq, not_eq_true'] at permits
    obtain ⟨rfl, free⟩ := permits
    refine .inl ⟨?_, row, ?_, rfl⟩
    · exact isNone_iff_eq_none.mp (isSome_eq_false_iff.mp free)
    · rw [exec_insert_of_free db free]
      exact mem_append_right _ (mem_singleton.mpr rfl)
  · rename_i tokenHash cmd'
    obtain rfl : cmd = .markRotated tokenHash := cmd'
    obtain ⟨row, mem, same⟩ := List.any_eq_true.mp permits
    simp only [and_eq_true, beq_iff_eq] at same
    exact .inr ⟨tokenHash, rfl, mem_tokenKeys.mpr ⟨row, mem, same⟩⟩
  · cases permits

theorem countP_marked_exec (cmd : Command) (f : Text)
    : (tokenKeys h.state).countP (fun key => key.2 == f && (marks h.log).contains key.1)
      ≤ (tokenKeys (h.exec t cmd).state).countP (fun key =>
          key.2 == f && (marks (h.exec t cmd).log).contains key.1) := by
  rw [exec_state]
  show _ ≤ (tokenKeys (Database.exec cmd h.state).2).countP _
  rw [tokenKeys_exec, countP_append]
  refine le_trans (countP_mono_left (fun key _ holds => ?_)) (le_add_right _ _)
  simp only [and_eq_true, contains_iff_mem] at holds ⊢
  refine ⟨holds.1, ?_⟩
  obtain ⟨issued, noted, same⟩ := mem_marks.mp holds.2
  exact mem_marks.mpr ⟨issued, .tail _ noted, same⟩

theorem Booked.permitted_exec (booked : Booked h) (once : MarksOnce t cmd h) (f : Text)
    : (h.exec t cmd).log.countP (permitsRefreshToken f)
      ≤ (family (h.exec t cmd).state f).isSome.toNat
        + (tokenKeys (h.exec t cmd).state).countP (fun key =>
            key.2 == f && (marks (h.exec t cmd).log).contains key.1) := by
  have before := booked.permitted f
  have family : (family h.state f).isSome.toNat
      ≤ (family (h.exec t cmd).state f).isSome.toNat :=
    toNat_family_exec cmd h.state f
  have counted := countP_marked_exec (h := h) (t := t) cmd f
  have newest
      : (h.exec t cmd).log.countP (permitsRefreshToken f)
        = h.log.countP (permitsRefreshToken f)
          + if permitsRefreshToken f ⟨t, cmd, h.state⟩ then 1 else 0 :=
    countP_cons
  rw [newest]
  split
  · rename_i permits
    rcases permits_cases permits with ⟨lost, known⟩ | ⟨tokenHash, rfl, here⟩
    · have after : (Database.family (h.exec t cmd).state f).isSome = true :=
        isSome_family.mpr known
      rw [lost] at before
      rw [after]
      simp only [isSome_none, toNat_false, toNat_true] at before ⊢
      omega
    · have more
          : (tokenKeys h.state).countP (fun key => key.2 == f && (marks h.log).contains key.1)
            < (tokenKeys (h.exec t (.markRotated tokenHash)).state).countP (fun key =>
                key.2 == f
                && (marks (h.exec t (.markRotated tokenHash)).log).contains key.1) := by
        have same : tokenKeys (h.exec t (.markRotated tokenHash)).state = tokenKeys h.state :=
          (tokenKeys_exec _ _).trans (append_nil _)
        rw [same, marks_markRotated]
        refine countP_lt_of_mem (fun key _ holds => ?_) here ?_ ?_
        · simp only [and_eq_true, contains_iff_mem] at holds ⊢
          exact ⟨holds.1, .tail _ holds.2⟩
        · simp
        · simpa using once.fresh
      omega
  · omega

theorem Booked.spent_exec (booked : Booked h) (cmd : Command)
    : ∀ row ∈ refreshTokens (h.exec t cmd).state,
        row.tokenHash ∈ marks (h.exec t cmd).log → row.status ≠ .active := by
  intro row mem isMarked
  obtain ⟨issued, noted, same⟩ := mem_marks.mp isMarked
  rcases mem_cons.mp noted with rfl | prior
  · cases cmd with
    | markRotated tokenHash =>
      obtain rfl : tokenHash = row.tokenHash := some.inj same
      obtain ⟨old, here, redone⟩ := mem_updateWhere.mp mem
      split at redone
      · rw [redone]
        exact fun same => by cases same
      · rename_i unmatched
        subst redone
        simpa using unmatched
    | _ => cases same
  · rcases (revises_refreshTokens _ h.state).mem .refl mem
      with ⟨old, here, goes⟩ | ⟨rfl, free⟩
    · have hash : row.tokenHash = old.tokenHash := by rw [goes.columns]
      exact goes.ended (booked.spent old here (mem_marks.mpr ⟨issued, prior, hash ▸ same⟩))
    · obtain ⟨f, key⟩ := booked.known row.tokenHash (mem_marks.mpr ⟨issued, prior, same⟩)
      obtain ⟨old, here, hash, _⟩ := mem_tokenKeys.mp key
      rw [taken, isSome_eq_false_iff, isNone_iff_eq_none] at free
      exact absurd hash (find_eq_none.mp free old here)

theorem Booked.known_exec (booked : Booked h)
    (due : ∀ tokenHash, cmd = .markRotated tokenHash
      → ∃ row ∈ refreshTokens h.state, row.tokenHash = tokenHash)
    : ∀ tokenHash ∈ marks (h.exec t cmd).log,
        ∃ f, (tokenHash, f) ∈ tokenKeys (h.exec t cmd).state := by
  have grown {tokenHash f : Text} (mem : (tokenHash, f) ∈ tokenKeys h.state)
      : (tokenHash, f) ∈ tokenKeys (h.exec t cmd).state := by
    show _ ∈ tokenKeys (Database.exec cmd h.state).2
    rw [tokenKeys_exec]
    exact mem_append_left _ mem
  intro tokenHash isMarked
  obtain ⟨issued, noted, same⟩ := mem_marks.mp isMarked
  rcases mem_cons.mp noted with rfl | prior
  · cases cmd with
    | markRotated other =>
      obtain rfl : other = tokenHash := some.inj same
      obtain ⟨row, mem, hash⟩ := due other rfl
      exact ⟨row.tokenFamilyId, grown (mem_tokenKeys.mpr ⟨row, mem, hash, rfl⟩)⟩
    | _ => cases same
  · obtain ⟨f, mem⟩ := booked.known tokenHash (mem_marks.mpr ⟨issued, prior, same⟩)
    exact ⟨f, grown mem⟩

end

/-- In a run in which no token is marked twice, the books are kept.
Witness: one statement keeps them.
-/
theorem Lives.booked {h : History authStore} (lives : Lives env (First clients) h)
    (once : h.Respects MarksOnce)
    : Booked h := by
  refine Kept.run lives once (booked_initial clients) ?_
  intro g t cmd _ _ due once booked
  exact {
    added := booked.added_exec cmd
    permitted := booked.permitted_exec once
    spent := booked.spent_exec cmd
    known := booked.known_exec (fun tokenHash same => by subst same; exact due) }

theorem Lives.activeTokens_le_one {h : History authStore} (lives : Lives env (First clients) h)
    (once : h.Respects MarksOnce) (f : Text)
    : activeTokens h.state f ≤ 1 := by
  have booked := lives.booked once
  let isMarked (row : RefreshTokenRow) : Bool :=
    row.tokenFamilyId == f && (marks h.log).contains row.tokenHash
  have disjoint
      : activeTokens h.state f + (refreshTokens h.state).countP isMarked
        ≤ (refreshTokens h.state).countP (fun row => row.tokenFamilyId == f) := by
    refine countP_add_le (fun row _ holds => ?_) (fun row _ holds => ?_) (fun row mem holds => ?_)
    · exact (and_eq_true_iff.mp holds).1
    · exact (and_eq_true_iff.mp holds).1
    · have active := eq_of_beq (and_eq_true_iff.mp holds).2
      by_contra other
      have holds' := and_eq_true_iff.mp (of_not_eq_false other)
      exact booked.spent row mem (contains_iff_mem.mp holds'.2) active
  have added
      : (refreshTokens h.state).countP (fun row => row.tokenFamilyId == f)
        = h.log.countP (addsRefreshToken f) := by
    rw [← booked.added f, tokenKeys, countP_map]
    rfl
  have permitted
      : h.log.countP (permitsRefreshToken f)
        ≤ (family h.state f).isSome.toNat
          + (refreshTokens h.state).countP isMarked := by
    have permitted := booked.permitted f
    rwa [tokenKeys, countP_map] at permitted
  have balanced : h.log.countP (addsRefreshToken f) ≤ h.log.countP (permitsRefreshToken f) :=
    countP_le_of_threads (fun t => lives.balanced f t)
  have one : (family h.state f).isSome.toNat ≤ 1 := toNat_le _
  omega

/-- Whoever marks a token is the one thread that marks it. Witness: induction on the log. -/
theorem thread_of_marks {trace : Trace} (once : History.RespectsLog MarksOnce trace)
    {issued issued' : Issued authStore} (mem : issued ∈ trace) (mem' : issued' ∈ trace)
    (same : marked issued.command = marked issued'.command)
    (marks : marked issued.command ≠ none)
    : issued.thread = issued'.thread := by
  induction trace with
  | nil => exact absurd mem not_mem_nil
  | cons newest prior ih =>
    obtain ⟨now, before⟩ := once
    rcases mem_cons.mp mem with rfl | old
    · rcases mem_cons.mp mem' with rfl | old'
      · rfl
      · exact absurd same.symm (now issued' old' marks)
    · rcases mem_cons.mp mem' with rfl | old'
      · exact absurd same (now issued old (same ▸ marks))
      · exact ih before old old'

theorem marks_of_exchanged {acts : List (Action authStore Call)} {thread : Nat}
    {refreshToken : Text}
    (exchanged : Exchanged (authRun env clients acts) thread refreshToken)
    : ∃ issued ∈ (authRun env clients acts).history.own thread,
        issued.command = .markRotated (hashSecret env refreshToken) := by
  obtain ⟨expectedResource, draw, now, rotated, asked, said⟩ := exchanged
  obtain ⟨entry, found, asked⟩ := map_eq_some_iff.mp asked
  obtain ⟨entry', found', said⟩ := bind_eq_some_iff.mp said
  obtain rfl : entry = entry' := some.inj (found.symm.trans found')
  have settles := settles_authRun found said
  rw [asked] at settles
  obtain ⟨result, same, rotates⟩ := settles
  cases result with
  | error error => cases same
  | ok value => exact rotates.marked value rfl

/-- Where no token is marked twice, refresh tokens are single-use.
Witness: a family's active tokens are one more than its permissions leave; both of two exchanges
would have marked the token.
-/
theorem refreshTokensAreSingleUse (env : Env) (clients : List ClientRow)
    (schedule : List (Action authStore Call))
    (once : (authRun env clients schedule).history.Respects MarksOnce)
    : SingleUse env (authRun env clients schedule) := by
  have lives := lives_authRun env clients schedule
  refine ⟨fun f => lives.activeTokens_le_one once f, ?_, ?_⟩
  · intro refreshToken thread thread' exchanged exchanged'
    obtain ⟨issued, own, command⟩ := marks_of_exchanged exchanged
    obtain ⟨issued', own', command'⟩ := marks_of_exchanged exchanged'
    obtain ⟨logged, rfl⟩ := mem_own.mp own
    obtain ⟨logged', rfl⟩ := mem_own.mp own'
    refine thread_of_marks once logged logged' (by rw [command, command']) ?_
    rw [command]
    exact fun same => by cases same
  · intro thread entry refreshToken expectedResource draw now found asked answered row member hash status
    obtain ⟨answer, answered⟩ := ne_none_iff_exists'.mp answered
    have settles := settles_authRun found answered
    rw [asked] at settles
    obtain ⟨result, _, rotates⟩ := settles
    exact rotates.reused row member hash status

/-- A rotation, and then a rotation of the token that it used up. -/
theorem refreshTokensAreSingleUse_sample
    : let rotate (n : Fin 256) : Call :=
        .rotateRefreshToken (randomToken "csrt" [0]) none ⟨[n], [n]⟩ 0
      let run := authRun Sample.env []
        (.spawn (Sample.bootstrap 0) :: Sample.steps 20 0 ++ .spawn (rotate 1) :: Sample.steps 20 1
          ++ .spawn (rotate 2) :: Sample.steps 20 2)
      SingleUse Sample.env run ∧ activeTokens run.state (mintId .tokenFamily [0]) = 0
        ∧ (run.answer 1).any (·.toOption.isSome) = true :=
  ⟨refreshTokensAreSingleUse _ _ _ (by decide +kernel), by decide +kernel, by decide +kernel⟩

/-- Two rotations that both read the token before either marks it leave the family with two active
refresh tokens, and both have succeeded.
-/
theorem rotationsCanCross
    : ¬ SingleUse Sample.env (authRun Sample.env [] Sample.crossedRotations)
      ∧ activeTokens (authRun Sample.env [] Sample.crossedRotations).state
          (mintId .tokenFamily [0]) = 2
      ∧ ((authRun Sample.env [] Sample.crossedRotations).answer 1).any (·.toOption.isSome) = true
      ∧ ((authRun Sample.env [] Sample.crossedRotations).answer 2).any (·.toOption.isSome)
        = true := by
  refine ⟨fun single => ?_, by decide +kernel, by decide +kernel, by decide +kernel⟩
  have two : activeTokens (authRun Sample.env [] Sample.crossedRotations).state
      (mintId .tokenFamily [0]) = 2 := by decide +kernel
  have one := single.active (mintId .tokenFamily [0])
  omega

end CairnStone.CoreAuth
