import CairnStone.Workspace.Linearizability

/-! Revision ids over time. An id names the parent that it replaced, so an id can only return if
its parent returns, and in the end only if a path is created a second time with the same content
by the same actor.
-/

namespace CairnStone.Workspace

open JavaScript Data Concurrency List World History Config Option Sample

variable {log : Trace} {issued a b : Issued draftPlane} {rev : RevisionRow}
  {key key' : Text × Text} {revisionId : Text} {cmd : Command}

def Gains (issued : Issued draftPlane) (key : Text × Text) (revisionId : Text) : Prop :=
  issued.before.revisionAt key ≠ some revisionId
  ∧ (after issued).revisionAt key = some revisionId

def Loses (issued : Issued draftPlane) (key : Text × Text) (revisionId : Text) : Prop :=
  issued.before.revisionAt key = some revisionId
  ∧ (after issued).revisionAt key ≠ some revisionId

def Creates (log : Trace) (issued : Issued draftPlane) (rev : RevisionRow) : Prop :=
  rev.parentRevisionId = none
  ∧ (∃ row, issued.command = .insertTip row ∧ issued.before.tipAt row.key = none)
  ∧ ∃ recording ∈ log, recording.thread = issued.thread
      ∧ recording.command = .insertRevision rev

def SameDraft (rev rev' : RevisionRow) : Prop :=
  rev.workspaceId = rev'.workspaceId ∧ rev.tipPath = rev'.tipPath
  ∧ rev.contentHash = rev'.contentHash ∧ rev.actorId = rev'.actorId

/-- No path is created twice with the same content by the same actor. -/
def CreatedOnce (log : Trace) : Prop :=
  log.Pairwise (fun later earlier =>
    ∀ rev rev', Creates log later rev → Creates log earlier rev' → ¬ SameDraft rev rev')

/-- Once a path has lost a revision, it never has it again, and no compare-and-swap on that
revision matches.
-/
def NeverReturns (sha256Text : Text → Text) (workspaces : List (Text × Int))
    (schedule : List (Action draftPlane Call))
    : Prop :=
  ∀ before between later, schedule = before ++ between ++ later
    → ∀ key revisionId,
      World.revisionAt (draftRun sha256Text workspaces before).state key = some revisionId
      → World.revisionAt (draftRun sha256Text workspaces (before ++ between)).state key
        ≠ some revisionId
      → World.revisionAt (draftRun sha256Text workspaces schedule).state key ≠ some revisionId
        ∧ (World.tips (draftRun sha256Text workspaces schedule).state).countP
            (World.matchesTip key revisionId) = 0

def createdBy (log : Trace) (issued : Issued draftPlane) : List RevisionRow :=
  match issued.command with
  | .insertTip row =>
    if issued.before.tipAt row.key = none then
      log.filterMap (fun recording =>
        match recording.command with
        | .insertRevision rev =>
          if recording.thread = issued.thread ∧ rev.parentRevisionId = none then some rev
          else none
        | _ => none)
    else []
  | _ => []

theorem mem_createdBy
    : rev ∈ createdBy log issued ↔ Creates log issued rev := by
  unfold createdBy
  constructor
  · intro mem
    split at mem
    · rename_i row isInsert
      split at mem
      · rename_i free
        obtain ⟨saves, noted, found⟩ := mem_filterMap.mp mem
        split at found
        · rename_i records
          split at found
          · rename_i holds
            cases found
            exact ⟨holds.2, ⟨row, isInsert, free⟩, saves, noted, holds.1, records⟩
          · cases found
        · cases found
      · cases mem
    · cases mem
  · rintro ⟨parent, ⟨row, isInsert, free⟩, saves, noted, thread, records⟩
    rw [isInsert]
    simp only [free, if_true, mem_filterMap]
    exact ⟨saves, noted, by rw [records]; simp [thread, parent]⟩

instance (rev rev' : RevisionRow) : Decidable (SameDraft rev rev') :=
  inferInstanceAs (Decidable (_ ∧ _))

instance (log : Trace) : Decidable (CreatedOnce log) :=
  decidable_of_iff
    (log.Pairwise (fun later earlier =>
      ∀ rev ∈ createdBy log later, ∀ rev' ∈ createdBy log earlier, ¬ SameDraft rev rev'))
    (by simp only [CreatedOnce, mem_createdBy]; exact List.Pairwise.iff (fun _ _ =>
      ⟨fun apart rev rev' one two => apart rev one rev' two,
        fun apart rev one rev' two => apart rev rev' one two⟩))

theorem Creates.mono {longer : Trace} (kept : ∀ issued ∈ log, issued ∈ longer)
    (creates : Creates log issued rev)
    : Creates longer issued rev := by
  obtain ⟨parent, adds, saves, mem, records⟩ := creates
  exact ⟨parent, adds, saves, kept saves mem, records⟩

/-- A run that creates every path once did so from its start. -/
theorem CreatedOnce.tail (once : CreatedOnce (issued :: log))
    : CreatedOnce log := by
  refine (pairwise_cons.mp once).2.imp (fun {later prior} apart rev rev' one two => ?_)
  have longer (old : Issued draftPlane) (mem : old ∈ log) : old ∈ issued :: log :=
    mem_cons_of_mem _ mem
  exact apart rev rev' (one.mono longer) (two.mono longer)

variable {sha256Text : Text → Text} {t : Nat} {h : History draftPlane}

theorem Moves.gains {move : Move} (moves : Moves issued.before (after issued) move)
    (gains : Gains issued key revisionId)
    : key = move.key ∧ move.new = some revisionId ∧ move.old ≠ some revisionId := by
  by_cases same : key = move.key
  · subst same
    exact ⟨rfl, moves.new ▸ gains.2, moves.old ▸ gains.1⟩
  · refine absurd ?_ gains.1
    rw [← gains.2, revisionAt, revisionAt, moves.others key same]

theorem Moves.loses {move : Move} (moves : Moves issued.before (after issued) move)
    (loses : Loses issued key revisionId)
    : key = move.key ∧ move.old = some revisionId ∧ move.new ≠ some revisionId := by
  by_cases same : key = move.key
  · subst same
    exact ⟨rfl, moves.old ▸ loses.1, moves.new ▸ loses.2⟩
  · refine absurd ?_ loses.2
    rw [← loses.1, revisionAt, revisionAt, moves.others key same]

theorem Still.revisionAt (still : Still issued) (key : Text × Text)
    : (after issued).revisionAt key = issued.before.revisionAt key := by
  rw [World.revisionAt, World.revisionAt, World.tipAt, World.tipAt, still]

theorem Still.not_gains (still : Still issued)
    : ¬ Gains issued key revisionId :=
  fun gains => gains.1 ((still.revisionAt key).symm.trans gains.2)

theorem Still.not_loses (still : Still issued)
    : ¬ Loses issued key revisionId :=
  fun loses => loses.2 ((still.revisionAt key).trans loses.1)

/-- How a new tip comes about: its path is created, or it replaces its parent, which the same
statement or the source's deletion has removed.
-/
inductive Placed (own : Trace) (cmd : Command) (move : Move) (rev : RevisionRow) : Prop where
  | created (row : TipRow) (isInsert : cmd = .insertTip row) (key : row.key = move.key)
      (parent : rev.parentRevisionId = none) (free : move.old = none)
  | renamed (base : Text) (source : Text × Text) (parent : rev.parentRevisionId = some base)
      (named : base ≠ []) (free : move.old = none)
      (deleted : TipMoves own [⟨source, some base, none⟩])
  | replaced (base : Text) (parent : rev.parentRevisionId = some base) (named : base ≠ [])
      (old : move.old = some base)

/-- Every promised statement leaves the tips alone, removes one, or places a recorded revision.
Witness: the specification of each statement, with what its thread promised.
-/
theorem tip_step (lawful : Lawful h.state) (promise : Promise sha256Text t h cmd)
    : Still ⟨t, cmd, h.state⟩
      ∨ ∃ move, Moves h.state (World.exec cmd h.state).2 move
        ∧ (move.new = none
          ∨ ∃ rev, move.new = some rev.revisionId ∧ Records (h.own t) rev
            ∧ move.key = (rev.workspaceId, rev.tipPath)
            ∧ Placed (h.own t) cmd move rev) := by
  cases cmd with
  | putBlob key content =>
    refine .inl ?_
    simp only [Still, after, World.exec]
    split <;> rfl
  | touchWorkspace => exact .inl rfl
  | insertTreeOp => exact .inl rfl
  | insertRevision rev =>
    refine .inl ?_
    simp only [Still, after, World.exec]
    rcases insertRevision_cases h.state rev with ⟨_, same⟩ | ⟨_, same | same⟩ <;> rw [same]
  | deleteTipCas key base =>
    rcases deleteTipCas_spec lawful.tips key base with ⟨_, still⟩ | ⟨_, moves⟩
    · exact .inl still
    · exact .inr ⟨_, moves, .inl rfl⟩
  | insertTip row =>
    obtain ⟨rev, records, tells, how⟩ := promise
    rcases insertTip_spec h.state row with ⟨_, fails, _⟩ | ⟨adds, _, _, _, moves⟩
    · refine .inl ?_
      simp only [Still, after, World.exec, fails]
    · refine .inr ⟨⟨row.key, none, some row.revisionId⟩, ?_, .inr ⟨rev, ?_, records, ?_, ?_⟩⟩
      · rw [World.exec, adds]
        exact moves
      · rw [tells.revisionId]
      · exact Prod.ext tells.workspaceId.symm tells.path.symm
      · rcases how with ⟨_, parent⟩ | ⟨_, base, parent, named, deleted⟩
        · exact .created row rfl rfl parent rfl
        · exact .renamed base _ parent named rfl deleted
  | overwriteTip key base revisionId contentHash updatedAt =>
    obtain ⟨_, _, rev, records, rewrites, rfl, _⟩ := promise
    rcases overwriteTip_spec lawful.tips key base rev.revisionId contentHash updatedAt with
      ⟨_, still⟩ | ⟨_, moves⟩
    · exact .inl still
    · refine .inr ⟨_, moves, .inr ⟨rev, rfl, records, ?_, ?_⟩⟩
      · rw [RevisionRow.tipPath_of_write rewrites.op, rewrites.key]
      · exact .replaced base rewrites.parent rewrites.named rfl
  | updateTipCas base row =>
    obtain ⟨_, _, rev, records, rewrites, tells⟩ := promise
    rcases updateTipCas_spec lawful.tips base row with ⟨_, still⟩ | ⟨_, moves⟩
    · exact .inl still
    · refine .inr ⟨_, moves, .inr ⟨rev, ?_, records, ?_, ?_⟩⟩
      · rw [tells.revisionId]
      · rw [RevisionRow.tipPath_of_write rewrites.op, rewrites.key]
      · exact .replaced base rewrites.parent rewrites.named rfl

def Origin (sha256Text : Text → Text) (log : Trace) (issued : Issued draftPlane)
    (key : Text × Text) (revisionId : Text)
    : Prop :=
  ∃ rev, Identified sha256Text rev ∧ rev.revisionId = revisionId
    ∧ key = (rev.workspaceId, rev.tipPath)
    ∧ (Creates log issued rev
      ∨ ∃ base, rev.parentRevisionId = some base ∧ base ≠ []
        ∧ ∃ loss ∈ log, loss.thread = issued.thread ∧ ∃ source, Loses loss source base)

theorem Origin.mono {longer : Trace} (kept : ∀ issued ∈ log, issued ∈ longer)
    (origin : Origin sha256Text log issued key revisionId)
    : Origin sha256Text longer issued key revisionId := by
  obtain ⟨rev, identified, id, isKey, created | ⟨base, parent, named, loss, mem, rest⟩⟩ := origin
  · exact ⟨rev, identified, id, isKey, .inl (created.mono kept)⟩
  · exact ⟨rev, identified, id, isKey, .inr ⟨base, parent, named, loss, kept loss mem, rest⟩⟩

def ApartBy (event : Issued draftPlane → Text × Text → Text → Prop)
    (later earlier : Issued draftPlane)
    : Prop :=
  ∀ key key' revisionId, event later key revisionId → ¬ event earlier key' revisionId

structure Once (sha256Text : Text → Text) (h : History draftPlane) : Prop where
  identified
    : ∀ issued ∈ h.log, ∀ rev, issued.command = .insertRevision rev → Identified sha256Text rev
  origin
    : ∀ issued ∈ h.log, ∀ key revisionId, Gains issued key revisionId
      → Origin sha256Text h.log issued key revisionId
  live
    : ∀ key revisionId, World.revisionAt h.state key = some revisionId
      → ∃ issued ∈ h.log, Gains issued key revisionId
  lost
    : ∀ issued ∈ h.log, ∀ key revisionId, Loses issued key revisionId
      → ∃ gain ∈ h.log, Gains gain key revisionId
  gainedOnce : h.log.Pairwise (ApartBy Gains)
  lostOnce : h.log.Pairwise (ApartBy Loses)
  gone
    : ∀ issued ∈ h.log, ∀ key key' revisionId, Loses issued key revisionId
      → World.revisionAt h.state key' ≠ some revisionId

/-- In a list whose members are pairwise apart, an event happens at one member. -/
theorem eq_of_apartBy {event : Issued draftPlane → Text × Text → Text → Prop}
    (apart : log.Pairwise (ApartBy event)) (inA : a ∈ log) (inB : b ∈ log)
    (atA : event a key revisionId) (atB : event b key' revisionId)
    : a = b := by
  by_contra different
  have symmetric : Std.Symm (ApartBy event) :=
    ⟨fun _ _ apart key key' revisionId one two => apart key' key revisionId two one⟩
  exact apart.forall inA inB different key key' revisionId atA atB

/-- Without collisions, a revision is only ever gained at the key that it is the digest of. -/
theorem Origin.key_eq (strong : CollisionFree sha256Text)
    (one : Origin sha256Text log a key revisionId)
    (two : Origin sha256Text log b key' revisionId)
    : key = key' := by
  obtain ⟨rev, identified, id, rfl, _⟩ := one
  obtain ⟨rev', identified', id', rfl, _⟩ := two
  have same := (identified.symm.trans (id.trans id'.symm)).trans identified'
  obtain ⟨workspace, path, _⟩ := computeRevisionId_inj strong same
  rw [workspace, path]

theorem filter_named {base : Text} (named : base ≠ [])
    : (some base).filter (fun s : Text => s ≠ []) = some base := by
  simp [named]

/-- A newly gained revision has never been gained before.
Witness: it would have been created twice, or its parent lost by the same call or lost twice.
-/
theorem Once.fresh (once : Once sha256Text h) (strong : CollisionFree sha256Text)
    {move : Move} (createdOnce : CreatedOnce ((h.exec t cmd).log))
    (moves : Moves h.state (World.exec cmd h.state).2 move)
    (records : Records (h.own t) rev) (placed : Placed (h.own t) cmd move rev)
    {prior : Issued draftPlane} (mem : prior ∈ h.log)
    : ¬ Gains prior key' rev.revisionId := by
  intro gains
  obtain ⟨saves, owned, insert, _⟩ := records
  obtain ⟨noted, thread⟩ := mem_own.mp owned
  have identified := once.identified saves noted rev insert
  obtain ⟨rev', identified', id, _, how⟩ := once.origin prior mem key' _ gains
  have same := (identified'.symm.trans id).trans identified
  obtain ⟨workspace, path, parents, hash, actor⟩ := computeRevisionId_inj strong same
  cases placed with
  | created row isInsert rowKey parent free =>
    have creates : Creates (h.exec t cmd).log ⟨t, cmd, h.state⟩ rev := by
      refine ⟨parent, ⟨row, isInsert, ?_⟩, saves, .tail _ noted, thread, insert⟩
      have none := moves.old
      rw [free, ← rowKey] at none
      exact map_eq_none_iff.mp none
    rcases how with created | ⟨base, parent', named, _⟩
    · have created : Creates (h.exec t cmd).log prior rev' :=
        created.mono (fun old inLog => .tail _ inLog)
      exact (pairwise_cons.mp createdOnce).1 prior mem rev rev' creates created
        ⟨workspace.symm, path.symm, hash.symm, actor.symm⟩
    · rw [parent', parent, filter_named named] at parents
      cases parents
  | renamed base source parent named free deleted =>
    rcases how with ⟨parent', _⟩ | ⟨base', parent', named', loss, inLog, ofEarlier, lost⟩
    · rw [parent', parent, filter_named named] at parents
      cases parents
    · rw [parent', parent, filter_named named, filter_named named'] at parents
      obtain rfl := some.inj parents
      obtain ⟨source', loses⟩ := lost
      obtain ⟨own, inOwn, ownMoves⟩ := deleted.made _ (.head _)
      obtain ⟨ownLogged, ownThread⟩ := mem_own.mp inOwn
      have ownLoses : Loses own source base' := ⟨ownMoves.old, by rw [ownMoves.new]; nofun⟩
      cases eq_of_apartBy once.lostOnce inLog ownLogged loses ownLoses
      have inOwn' : prior ∈ h.own t := mem_own.mpr ⟨mem, ofEarlier ▸ ownThread⟩
      rcases deleted.each prior inOwn' with still | ⟨only, isOnly, onlyMoves⟩
      · exact still.not_gains gains
      · cases mem_singleton.mp isOnly
        exact nomatch (onlyMoves.gains gains).2.1
  | replaced base parent named old =>
    rcases how with ⟨parent', _⟩ | ⟨base', parent', named', loss, inLog, _, source, loses⟩
    · rw [parent', parent, filter_named named] at parents
      cases parents
    · rw [parent', parent, filter_named named, filter_named named'] at parents
      cases parents
      exact once.gone loss inLog source move.key _ loses (moves.old.trans old)

/-- A statement that leaves the tips alone keeps the history of every revision. -/
theorem Once.still (once : Once sha256Text h) (promise : Promise sha256Text t h cmd)
    (still : Still ⟨t, cmd, h.state⟩)
    : Once sha256Text (h.exec t cmd) := by
  have same (key : Text × Text)
      : revisionAt (h.exec t cmd).state key = revisionAt h.state key :=
    still.revisionAt key
  have kept (issued : Issued draftPlane) (mem : issued ∈ h.log)
      : issued ∈ (h.exec t cmd).log :=
    mem_cons_of_mem _ mem
  constructor
  case identified =>
    intro issued mem rev insert
    rcases mem_cons.mp mem with rfl | prior
    · cases insert
      exact promise.1
    · exact once.identified issued prior rev insert
  case origin =>
    intro issued mem key revisionId gains
    rcases mem_cons.mp mem with rfl | prior
    · exact absurd gains still.not_gains
    · exact (once.origin issued prior key revisionId gains).mono kept
  case live =>
    intro key revisionId at_key
    rw [same] at at_key
    obtain ⟨issued, mem, gains⟩ := once.live key revisionId at_key
    exact ⟨issued, kept issued mem, gains⟩
  case lost =>
    intro issued mem key revisionId loses
    rcases mem_cons.mp mem with rfl | prior
    · exact absurd loses still.not_loses
    · obtain ⟨gain, gained, gains⟩ := once.lost issued prior key revisionId loses
      exact ⟨gain, kept gain gained, gains⟩
  case gainedOnce =>
    exact pairwise_cons.mpr ⟨fun _ _ _ _ _ gains => absurd gains still.not_gains,
      once.gainedOnce⟩
  case lostOnce =>
    exact pairwise_cons.mpr ⟨fun _ _ _ _ _ loses => absurd loses still.not_loses,
      once.lostOnce⟩
  case gone =>
    intro issued mem key key' revisionId loses
    rw [same]
    rcases mem_cons.mp mem with rfl | prior
    · exact absurd loses still.not_loses
    · exact once.gone issued prior key key' revisionId loses

/-- A statement that moves a tip keeps the history of every revision.
Witness: what it gains is fresh, and what it loses was live and had not been lost.
-/
theorem Once.move (once : Once sha256Text h) (strong : CollisionFree sha256Text)
    (promise : Promise sha256Text t h cmd)
    (createdOnce : CreatedOnce (h.exec t cmd).log) {move : Move}
    (moves : Moves h.state (World.exec cmd h.state).2 move)
    (placed
      : move.new = none
        ∨ ∃ rev, move.new = some rev.revisionId ∧ Records (h.own t) rev
          ∧ move.key = (rev.workspaceId, rev.tipPath) ∧ Placed (h.own t) cmd move rev)
    : Once sha256Text (h.exec t cmd) := by
  have kept (issued : Issued draftPlane) (mem : issued ∈ h.log)
      : issued ∈ (h.exec t cmd).log :=
    mem_cons_of_mem _ mem
  have moves : Moves (Issued.before ⟨t, cmd, h.state⟩) (after ⟨t, cmd, h.state⟩) move :=
    moves
  have elsewhere {key : Text × Text} (different : key ≠ move.key)
      : revisionAt (h.exec t cmd).state key = revisionAt h.state key :=
    congrArg (Option.map TipRow.revisionId) (moves.others key different)
  have fresh {revisionId : Text} (new : move.new = some revisionId)
      {prior : Issued draftPlane} (mem : prior ∈ h.log) {key' : Text × Text}
      : ¬ Gains prior key' revisionId := by
    rcases placed with none | ⟨rev, isNew, records, _, placed⟩
    · rw [none] at new
      cases new
    · cases (isNew.symm.trans new)
      exact once.fresh strong createdOnce moves records placed mem
  constructor
  case identified =>
    intro issued mem rev insert
    rcases mem_cons.mp mem with rfl | prior
    · cases insert
      exact promise.1
    · exact once.identified issued prior rev insert
  case origin =>
    intro issued mem key revisionId gains
    rcases mem_cons.mp mem with rfl | prior
    · obtain ⟨rfl, new, notOld⟩ := moves.gains gains
      rcases placed with none | ⟨rev, isNew, records, isKey, placed⟩
      · rw [none] at new
        cases new
      cases (isNew.symm.trans new)
      obtain ⟨saves, owned, insert, _⟩ := records
      obtain ⟨noted, thread⟩ := mem_own.mp owned
      refine ⟨rev, once.identified saves noted rev insert, rfl, isKey, ?_⟩
      cases placed with
      | created row isInsert rowKey parent free =>
        refine .inl ⟨parent, ⟨row, isInsert, ?_⟩, saves, kept _ noted, thread, insert⟩
        have none := moves.old
        rw [free, ← rowKey] at none
        exact map_eq_none_iff.mp none
      | renamed base source parent named free deleted =>
        obtain ⟨own, inOwn, ownMoves⟩ := deleted.made _ (.head _)
        obtain ⟨ownLogged, ownThread⟩ := mem_own.mp inOwn
        exact .inr ⟨base, parent, named, own, kept _ ownLogged, ownThread, source,
          ownMoves.old, by rw [ownMoves.new]; nofun⟩
      | replaced base parent named old =>
        refine .inr ⟨base, parent, named, _, .head _, rfl, move.key, ?_, ?_⟩
        · exact moves.old.trans old
        · rw [moves.new, new, ← old]
          exact notOld.symm
    · exact (once.origin issued prior key revisionId gains).mono kept
  case live =>
    intro key revisionId at_key
    by_cases same : key = move.key
    · subst same
      by_cases wasThere : move.old = some revisionId
      · obtain ⟨issued, mem, gains⟩ := once.live _ _ (moves.old.trans wasThere)
        exact ⟨issued, kept issued mem, gains⟩
      · exact ⟨_, .head _, by rw [moves.old]; exact wasThere, at_key⟩
    · rw [elsewhere same] at at_key
      obtain ⟨issued, mem, gains⟩ := once.live key revisionId at_key
      exact ⟨issued, kept issued mem, gains⟩
  case lost =>
    intro issued mem key revisionId loses
    have prior : ∃ gain ∈ h.log, Gains gain key revisionId := by
      rcases mem_cons.mp mem with rfl | prior
      · exact once.live key revisionId loses.1
      · exact once.lost issued prior key revisionId loses
    obtain ⟨gain, gained, gains⟩ := prior
    exact ⟨gain, kept gain gained, gains⟩
  case gainedOnce =>
    refine pairwise_cons.mpr ⟨fun prior mem key key' revisionId gains => ?_,
      once.gainedOnce⟩
    exact fresh (moves.gains gains).2.1 mem
  case lostOnce =>
    refine pairwise_cons.mpr ⟨fun prior mem key key' revisionId loses lost => ?_,
      once.lostOnce⟩
    exact once.gone prior mem key' key revisionId lost loses.1
  case gone =>
    intro issued mem key key' revisionId loses at_key
    rcases mem_cons.mp mem with rfl | prior
    · obtain ⟨rfl, old, notNew⟩ := moves.loses loses
      have different : key' ≠ move.key := by
        rintro rfl
        exact notNew (moves.new.symm.trans at_key)
      rw [elsewhere different] at at_key
      obtain ⟨one, oneMember, oneGains⟩ := once.live key' revisionId at_key
      obtain ⟨two, twoMember, twoGains⟩ := once.live move.key revisionId loses.1
      exact different (Origin.key_eq strong (once.origin one oneMember _ _ oneGains)
        (once.origin two twoMember _ _ twoGains))
    · have wasGone := once.gone issued prior key key' revisionId loses
      by_cases same : key' = move.key
      · subst same
        obtain ⟨gain, gained, gains⟩ := once.lost issued prior key revisionId loses
        exact fresh (moves.new.symm.trans at_key) gained gains
      · rw [elsewhere same] at at_key
        exact wasGone at_key

theorem Once.exec (once : Once sha256Text h) (strong : CollisionFree sha256Text)
    (lawful : Lawful h.state) (promise : Promise sha256Text t h cmd)
    (createdOnce : CreatedOnce (h.exec t cmd).log)
    : Once sha256Text (h.exec t cmd) := by
  rcases tip_step lawful promise with still | ⟨move, moves, placed⟩
  · exact once.still promise still
  · exact once.move strong promise createdOnce moves placed

theorem respects_of_createdOnce (once : CreatedOnce log)
    : History.RespectsLog (fun t cmd h => CreatedOnce (h.exec t cmd).log) log := by
  induction log with
  | nil => trivial
  | cons issued prior ih => exact ⟨once, ih once.tail⟩

theorem once_draftRun (strong : CollisionFree sha256Text)
    (workspaces : List (Text × Int)) (acts : List (Action draftPlane Call))
    (createdOnce : CreatedOnce (draftRun sha256Text workspaces acts).history.log)
    : Once sha256Text (draftRun sha256Text workspaces acts).history := by
  have unlogged (issued : Issued draftPlane)
      : issued ∉ (⟨initial workspaces, []⟩ : History draftPlane).log :=
    not_mem_nil
  have initial : Once sha256Text ⟨initial workspaces, []⟩ := {
    identified := fun issued mem => absurd mem (unlogged issued)
    origin := fun issued mem => absurd mem (unlogged issued)
    live := fun key revisionId atKey => absurd (show none = some revisionId from atKey) nofun
    lost := fun issued mem => absurd mem (unlogged issued)
    gainedOnce := .nil
    lostOnce := .nil
    gone := fun issued mem => absurd mem (unlogged issued)
  }
  exact Protocol.run_promised (P := draftProtocol Call sha256Text)
    (fun _ _ _ lawful unstarted =>
      (owes_body lawful unstarted).consequence (fun _ _ _ _ => trivial))
    (lawful_initial workspaces) initial
    (fun lawful promise createdOnce once => Once.exec once strong lawful promise createdOnce)
    (fun _ _ once => ⟨once.identified, once.origin, once.live, once.lost, once.gainedOnce,
      once.lostOnce, once.gone⟩)
    acts (respects_of_createdOnce createdOnce)

/-- Statements stay in the log. -/
theorem logged_run (config : Config draftPlane Call Failure Recorded)
    (acts : List (Action draftPlane Call))
    : ∀ issued ∈ config.history.log,
        issued ∈ (config.run (Call.body sha256Text) acts).history.log := by
  refine run_induction
    (fun later => ∀ issued ∈ config.history.log, issued ∈ later.history.log)
    (fun later action kept issued mem => ?_) (fun _ mem => mem) acts
  have here := kept issued mem
  cases action with
  | spawn call => exact here
  | disturb event => exact here
  | step t =>
    simp only [Config.act, advance_history]
    cases later.pending t with
    | none => exact here
    | some cmd => exact .tail _ here

variable (sha256Text) in
/-- A path that has a revision and later does not has lost it in between.
Witness: induction on the schedule; only an executed statement changes a tip.
-/
theorem loss_of_changed (config : Config draftPlane Call Failure Recorded)
    (acts : List (Action draftPlane Call))
    (had : revisionAt config.state key = some revisionId)
    : let later := config.run (Call.body sha256Text) acts
      revisionAt later.state key = some revisionId
      ∨ ∃ issued ∈ later.history.log, Loses issued key revisionId := by
  refine run_induction
    (fun later : Config draftPlane Call Failure Recorded =>
      revisionAt later.history.state key = some revisionId
      ∨ ∃ issued ∈ later.history.log, Loses issued key revisionId)
    (fun later action before => ?_) ?_ acts
  · cases action with
    | spawn call => exact before
    | disturb event => exact before
    | step t =>
      simp only [Config.act, advance_history]
      cases later.pending t with
      | none => exact before
      | some cmd =>
        rcases before with here | ⟨issued, mem, loses⟩
        · by_cases still
              : revisionAt (later.history.exec t cmd).state key = some revisionId
          · exact .inl still
          · exact .inr ⟨_, .head _, here, still⟩
        · exact .inr ⟨issued, .tail _ mem, loses⟩
  · exact .inl had

/-- If no path is created twice with the same content by the same actor, no path regains a
revision that it has lost.
Witness: the loss in between stays in the log, and a lost revision is gone.
-/
theorem neverReturns_of_createdOnce {sha256Text : Text → Text}
    (collisionFree : CollisionFree sha256Text) (workspaces : List (Text × Int))
    (schedule : List (Action draftPlane Call))
    (createdOnce : CreatedOnce (draftRun sha256Text workspaces schedule).history.log)
    : NeverReturns sha256Text workspaces schedule := by
  have once := once_draftRun collisionFree workspaces schedule createdOnce
  have sound := sound_draftRun sha256Text workspaces schedule
  rintro before between later rfl key revisionId had lost
  rw [draftRun, run_append] at lost
  have changed :=
    loss_of_changed sha256Text (draftRun sha256Text workspaces before) between had
  obtain ⟨issued, member, loses⟩ := changed.resolve_left lost
  have logged
      : issued ∈ (draftRun sha256Text workspaces (before ++ between ++ later)).history.log := by
    rw [draftRun, run_append, run_append]
    exact logged_run _ later issued member
  have gone := once.gone issued logged key key revisionId loses
  refine ⟨gone, ?_⟩
  rcases matches_or_not sound.inv.tips key revisionId with ⟨zero, _⟩ | ⟨_, old, found, isBase⟩
  · exact zero
  · exact absurd (by rw [revisionAt, found, map_some, isBase]) gone

namespace Sample

def hashOfNothing : Text :=
  hex 64 0xe3b0c44298fc1c149afbf4c8996fb92427ae41e4649b934ca495991b7852b855

/-- Digests of the texts that the runs below hash. -/
def recreationSha256 : Text → Text :=
  tabled
    [(text "a", hashOfA), (text "b", hashOfB), ([], hashOfNothing),
      (envelope "p" none hashOfA, createdP),
      (envelope "p" none hashOfB,
        hex 64 0xe09db8e0172435c744bd7bdfb81404165226b9717e225c9be414cc07ce9bf7fa),
      (envelope "p" (some createdP) hashOfNothing,
        hex 64 0xb02f6baa9d02e2b289287f3296c252dd0097cdb3d662ba8afdd7d1108a96f4a1)]

/-- `user:a` creates `p` with content `a`. -/
def createP : List (Action draftPlane Call) :=
  .spawn (create "p" "a") :: steps 5 0

/-- `user:a` deletes the created `p`. -/
def deleteP : List (Action draftPlane Call) :=
  .spawn (.deleteDraft
    { workspaceId := .string (text "ws:w"), path := .string (text "p")
      baseRevision := .string createdP, actorId := .string (text "user:a") } 0)
    :: steps 5 1

end Sample

theorem neverReturns_recreatedWithOtherContent
    : NeverReturns Sample.recreationSha256 [(text "ws:w", 0)]
        (Sample.createP ++ Sample.deleteP ++ .spawn (Sample.create "p" "b") :: Sample.steps 5 2) :=
  neverReturns_of_createdOnce (collisionFree_tabled (by decide +kernel) (by decide +kernel)) _ _
    (by decide +kernel)

/-- A path that is deleted and created again with its first content has its first revision again.
-/
theorem recreationRestoresRevision
    : ¬ NeverReturns Sample.recreationSha256 [(text "ws:w", 0)]
        (Sample.createP ++ Sample.deleteP
          ++ .spawn (Sample.create "p" "a") :: Sample.steps 5 2) := by
  intro never
  have facts
      : let tip (schedule : List (Action draftPlane Call)) :=
          revisionAt
            (draftRun recreationSha256 [(text "ws:w", 0)] schedule).state (key "p")
        tip createP = some createdP
        ∧ tip (createP ++ deleteP) = none
        ∧ tip (createP ++ deleteP
            ++ .spawn (create "p" "a") :: steps 5 2)
          = some createdP := by
    decide +kernel
  obtain ⟨had, lost, regained⟩ := facts
  exact (never _ _ _ rfl _ _ had (fun still => nomatch lost.symm.trans still)).1 regained

end CairnStone.Workspace
