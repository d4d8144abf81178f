import CairnStone.TaskRuns.LifeCycle

/-! Fan-out of delegation. A proposal is inserted under its parent first, and the parent's list is read
and written back afterwards; the list is exact where no proposal is inserted while another one under
the same parent is still to be appended.
-/

namespace CairnStone.TaskRuns

open JavaScript Data Concurrency List Option Database History Command Kept

variable {adapters : Adapters} {h : History (store adapters)} {t u : Nat} {call : Call} {id : Text}
  {cmd : Command} {row : Row}
  {parentId : Text}

def childIds (rows : List Row) (parentId : Text) : List Text :=
  (rows.filter (·.parentTaskRunId == some parentId)).map (·.taskRunId)

/-- Where no proposal is in progress, no parent has too many children, and every list is exact. -/
def FanoutKept (config : Config (store adapters) Call Text Answer) : Prop :=
  (∀ t args, config.call t = some (.propose args) → ∃ answer, config.answer t = some answer)
  → ∀ parent ∈ Database.taskRuns config.state,
    ((Database.taskRuns config.state).filter
        (·.parentTaskRunId == some parent.taskRunId)).length ≤ TASK_RUN_MAX_FANOUT
    ∧ parent.childTaskRunIds.Nodup
    ∧ ∀ id, id ∈ parent.childTaskRunIds
      ↔ ∃ child ∈ Database.taskRuns config.state,
        child.parentTaskRunId = some parent.taskRunId ∧ child.taskRunId = id

def hasRoom (rows : List Row) (parentId : Text) : Bool :=
  (find rows parentId).all (fun parent =>
    (childIds rows parentId).all (parent.childTaskRunIds.contains ·)
    && (childIds rows parentId).length < TASK_RUN_MAX_FANOUT)

/-- A new run is inserted under a parent only if there is room. -/
def spaced (config : Config (store adapters) Call Text Answer) (t : Nat) : Bool :=
  match (config.pending t : Option Command) with
  | some (.insertRun row) =>
    (find (Database.taskRuns config.state) row.taskRunId).isSome
    || row.parentTaskRunId.all (hasRoom (Database.taskRuns config.state))
  | _ => true

/-- Every step of the run is spaced. -/
abbrev Spaced (adapters : Adapters) (schedule : List (Action (store adapters) Call)) : Prop :=
  (Config.init (M := store adapters) Database.empty).Admitted (Call.body adapters)
    (fun config t => spaced config t = true) schedule

theorem childIds_append (rows added : List Row) (parentId : Text)
    : childIds (rows ++ added) parentId = childIds rows parentId ++ childIds added parentId := by
  simp [childIds]

theorem mem_childIds {rows : List Row}
    : id ∈ childIds rows parentId
      ↔ ∃ child ∈ rows, child.parentTaskRunId = some parentId ∧ child.taskRunId = id := by
  simp [childIds, and_assoc]

theorem nodup_childIds {rows : List Row} (keyed : Keyed Row.taskRunId rows) (parentId : Text)
    : (childIds rows parentId).Nodup :=
  (filter_sublist.map _).nodup keyed

/-- No step moves a run to another parent. -/
theorem childIds_rewrite (cmd : Command) (rows : List Row) (parentId : Text)
    : childIds (rows.map cmd.rewrite) parentId = childIds rows parentId := by
  induction rows with
  | nil => rfl
  | cons first rest ih =>
    have same := cmd.sameRun first
    unfold childIds at ih ⊢
    rw [map_cons, filter_cons, filter_cons, same.parentTaskRunId]
    split
    · rw [map_cons, map_cons, same.taskRunId, ih]
    · exact ih

theorem childIds_exec (cmd : Command) (db : Database) (parentId : Text)
    : childIds (exec adapters cmd db).2.taskRuns parentId
      = childIds db.taskRuns parentId ++ childIds (cmd.added db) parentId := by
  rw [taskRuns_exec, childIds_append, childIds_rewrite]

/-- Only the write of a list changes one. -/
theorem rewrite_children (other : ∀ id ids now, cmd ≠ .setChildren id ids now) (row : Row)
    : (cmd.rewrite row).childTaskRunIds = row.childTaskRunIds := by
  cases cmd with
  | setChildren id ids now => exact absurd rfl (other id ids now)
  | recordDispatch id update =>
    simp only [rewrite]
    split
    · rfl
    · rfl
  | recordCancel id reason now =>
    simp only [rewrite]
    split
    · rfl
    · rfl
  | _ => rfl

theorem Lives.parents (lives : Lives h)
    : ∀ row ∈ taskRuns h.state, ∀ parentId, row.parentTaskRunId = some parentId
      → ∃ parent ∈ taskRuns h.state, parent.taskRunId = parentId := by
  refine invariant
    (J := fun h => ∀ row ∈ taskRuns h.state, ∀ parentId,
      row.parentTaskRunId = some parentId
      → ∃ parent ∈ taskRuns h.state, parent.taskRunId = parentId)
    lives (forall_mem_nil _) ?_
  rintro g t cmd lives ⟨call, due⟩ parents row mem parentId names
  have later {parent : Row} (present : parent ∈ taskRuns g.state)
      : ∃ other ∈ taskRuns (g.exec t cmd).state,
        other.taskRunId = parent.taskRunId :=
    ⟨_, rewrite_mem cmd present, (cmd.sameRun parent).taskRunId⟩
  rcases mem_taskRuns_exec mem with ⟨old, present, rfl⟩ | ⟨rfl, _⟩
  · rw [(cmd.sameRun old).parentTaskRunId] at names
    obtain ⟨parent, present', rfl⟩ := parents old present parentId names
    exact later present'
  · obtain ⟨⟨_, proposal, depth, _, _, rfl, placed⟩, _⟩ := due
    cases placed with
    | root free => cases free.symm.trans names
    | child parent found named fine =>
      obtain rfl : parent.taskRunId = parentId := some.inj (named.symm.trans names)
      obtain ⟨now, present, same, _⟩ := found.later lives
      exact same ▸ later present

def Outstanding (t : Nat) (row : Row) (h : History (store adapters)) : Prop :=
  (∃ issued ∈ h.own t, Inserts row issued) ∧ ∀ issued ∈ h.own t, ¬ Appends issued

theorem not_appends (other : ∀ id ids now, cmd ≠ .setChildren id ids now)
    : ¬ Appends (⟨t, cmd, h.state⟩ : Issued (store adapters)) := by
  rintro ⟨id, ids, now, writes⟩
  exact other id ids now writes

/-- A step leaves nothing to be appended but what it inserts itself. -/
theorem outstanding_exec (owed : Outstanding u row (h.exec t cmd))
    : Outstanding u row h
      ∨ u = t ∧ Inserts row (⟨t, cmd, h.state⟩ : Issued (store adapters)) := by
  obtain ⟨⟨issued, own, adds⟩, unappended⟩ := owed
  obtain ⟨noted, thread⟩ := mem_own.mp own
  rcases mem_cons.mp noted with rfl | prior
  · exact .inr ⟨thread.symm, adds⟩
  · exact .inl ⟨⟨issued, mem_own.mpr ⟨prior, thread⟩, adds⟩, fun other mem =>
      unappended other (own_subset_exec h t u cmd other mem)⟩

/-- What is still to be appended stays so until its own list is written. -/
theorem Outstanding.exec (owed : Outstanding u row h)
    (other : u = t → ∀ id ids now, cmd ≠ .setChildren id ids now)
    : Outstanding u row (h.exec t cmd) := by
  obtain ⟨⟨issued, own, adds⟩, unappended⟩ := owed
  refine ⟨⟨issued, own_subset_exec h t u cmd issued own, adds⟩, fun entry mem => ?_⟩
  obtain ⟨noted, thread⟩ := mem_own.mp mem
  rcases mem_cons.mp noted with rfl | prior
  · exact not_appends (other thread.symm)
  · exact unappended entry (mem_own.mpr ⟨prior, thread⟩)

/-- A thread that has inserted nothing has written no list. -/
theorem Lives.unappended (lives : Lives h)
    (uninserted : ∀ issued ∈ h.own t, ∀ row, ¬ Inserts row issued)
    : ∀ issued ∈ h.own t, ¬ Appends issued := by
  rintro issued own ⟨id, ids, now, writes⟩
  obtain ⟨noted, thread⟩ := mem_own.mp own
  obtain ⟨prior, le, _, call, due⟩ := at_issued lives noted
  rw [writes] at due
  obtain ⟨⟨row, parent, ⟨put, before, log, le1, le2, thread', adds, _⟩, _⟩, _⟩ := due
  have known : put ∈ h.log :=
    ((le1.trans le2).trans ((suffix_cons _ _).trans le)).subset (.head _)
  exact uninserted put (mem_own.mpr ⟨known, thread'.trans thread⟩) row adds

theorem Lives.inserts_once (lives : Lives h)
    : ∀ {t issued issued' row row'}, issued ∈ h.own t → issued' ∈ h.own t → Inserts row issued
      → Inserts row' issued' → row = row' := by
  refine invariant
    (J := fun h => ∀ {t issued issued' row row'}, issued ∈ h.own t → issued' ∈ h.own t
      → Inserts row issued → Inserts row' issued' → row = row')
    lives (fun mem => absurd mem not_mem_nil) ?_
  rintro g t cmd _ ⟨call, due⟩ once u issued issued' row row' own own' adds inserts'
  -- What the step itself inserts is the first insertion of its thread.
  have first {row : Row} {entry : Issued (store adapters)} (mem : entry ∈ g.own t)
      (adds : Inserts row entry) (row' : Row)
      : ¬ Inserts row' (⟨t, cmd, g.state⟩ : Issued (store adapters)) := by
    rintro ⟨writes, _⟩
    obtain rfl : cmd = .insertRun row' := writes
    exact due.2 entry mem row adds
  obtain ⟨noted, thread⟩ := mem_own.mp own
  obtain ⟨logged', thread'⟩ := mem_own.mp own'
  rcases mem_cons.mp noted with rfl | prior
  · rcases mem_cons.mp logged' with rfl | earlier'
    · have same : Command.insertRun row = .insertRun row' := adds.1.symm.trans inserts'.1
      injection same
    · refine absurd adds (first (mem_own.mpr ⟨earlier', ?_⟩) inserts' row)
      exact thread'.trans thread.symm
  · rcases mem_cons.mp logged' with rfl | earlier'
    · refine absurd inserts' (first (mem_own.mpr ⟨prior, ?_⟩) adds row')
      exact thread.trans thread'.symm
    · exact once (mem_own.mpr ⟨prior, thread⟩) (mem_own.mpr ⟨earlier', thread'⟩)
        adds inserts'

theorem Outstanding.unique {row' : Row} (lives : Lives h) (owed : Outstanding t row h)
    (outstanding' : Outstanding t row' h)
    : row = row' := by
  obtain ⟨⟨issued, own, adds⟩, _⟩ := owed
  obtain ⟨⟨issued', own', inserts'⟩, _⟩ := outstanding'
  exact lives.inserts_once own own' adds inserts'

def Still (h : History (store adapters)) : Prop :=
  ∀ {issued earlier log row parentId}, issued :: earlier <:+ log → log <:+ h.log
    → Inserts row issued → (∀ other ∈ h.own issued.thread, ¬ Appends other)
    → row.parentTaskRunId = some parentId
    → ∀ parent ∈ Database.taskRuns (stateAfter (M := store adapters) Database.empty log),
      parent.taskRunId = parentId
      → At h.state parentId (fun now => now.childTaskRunIds = parent.childTaskRunIds)

theorem Still.exec (still : Still h)
    (kept
      : ∀ {u row parentId}, Outstanding u row h
        → (∀ other ∈ (h.exec t cmd).own u, ¬ Appends other)
        → row.parentTaskRunId = some parentId
        → ∀ parent : Row, parent.taskRunId = parentId
          → (cmd.rewrite parent).childTaskRunIds = parent.childTaskRunIds)
    : Still (h.exec t cmd) := by
  intro issued prior log row parentId le le' adds unappended names parent present named
  rcases suffix_cons_iff.mp le' with rfl | old
  · exact ⟨parent, present, named, rfl⟩
  · have own : issued ∈ h.own issued.thread :=
      mem_own.mpr ⟨(le.trans old).subset (.head _), rfl⟩
    have before : ∀ other ∈ h.own issued.thread, ¬ Appends other :=
      fun other mem => unappended other (own_subset_exec h t _ cmd other mem)
    refine (still le old adds before names parent present named).keep (fun now same equal => ?_)
    exact (kept ⟨⟨issued, own, adds⟩, before⟩ unappended names now same).trans equal

/-- Every list is exact but for at most one run, which is still to be appended by the call that has
inserted it and that reads the list as it is now.
-/
structure Listed (h : History (store adapters)) : Prop where
  alone
    : ∀ {t t' row row' parentId}, Outstanding t row h → Outstanding t' row' h
      → row.parentTaskRunId = some parentId → row'.parentTaskRunId = some parentId
      → t = t' ∧ row = row'
  listed
    : ∀ parent ∈ Database.taskRuns h.state,
        (∀ t row, Outstanding t row h → row.parentTaskRunId ≠ some parent.taskRunId)
        → parent.childTaskRunIds = childIds (Database.taskRuns h.state) parent.taskRunId
  behind
    : ∀ parent ∈ Database.taskRuns h.state, ∀ t row, Outstanding t row h
        → row.parentTaskRunId = some parent.taskRunId
        → parent.childTaskRunIds ++ [row.taskRunId]
          = childIds (Database.taskRuns h.state) parent.taskRunId
  bounded
    : ∀ parentId, (childIds (Database.taskRuns h.state) parentId).length ≤ TASK_RUN_MAX_FANOUT
  still : Still h

/-- A step that neither adds a run nor writes a list. -/
theorem Listed.exec_other (listed : Listed h) (added : cmd.added h.state = [])
    (unwritten : ∀ id ids now, cmd ≠ .setChildren id ids now)
    (uninserted : ∀ row, ¬ Inserts row (⟨t, cmd, h.state⟩ : Issued (store adapters)))
    : Listed (h.exec t cmd) := by
  have before {u : Nat} {row : Row} (owed : Outstanding u row (h.exec t cmd))
      : Outstanding u row h := by
    rcases outstanding_exec owed with old | ⟨_, adds⟩
    · exact old
    · exact absurd adds (uninserted row)
  have later {u : Nat} {row : Row} (owed : Outstanding u row h)
      : Outstanding u row (h.exec t cmd) :=
    owed.exec (fun _ => unwritten)
  have ids (parentId : Text)
      : childIds (taskRuns (h.exec t cmd).state) parentId
        = childIds (taskRuns h.state) parentId := by
    show childIds (exec adapters cmd h.state).2.taskRuns parentId = _
    rw [childIds_exec, added]
    exact append_nil _
  have rows {parent : Row} (present : parent ∈ taskRuns (h.exec t cmd).state)
      : ∃ old ∈ taskRuns h.state, parent.taskRunId = old.taskRunId
        ∧ parent.childTaskRunIds = old.childTaskRunIds := by
    rcases mem_taskRuns_exec present with ⟨old, present', rfl⟩ | ⟨rfl, free⟩
    · exact ⟨old, present', (cmd.sameRun old).taskRunId, rewrite_children unwritten old⟩
    · exact absurd ⟨rfl, free⟩ (uninserted parent)
  refine ⟨?_, ?_, ?_, ?_, ?_⟩
  · intro t t' row row' parentId first second
    exact listed.alone (before first) (before second)
  · intro parent present none
    obtain ⟨old, present', same, children⟩ := rows present
    rw [children, ids, same]
    refine listed.listed old present' (fun t row owed => ?_)
    exact same ▸ none t row (later owed)
  · intro parent present t row owed names
    obtain ⟨old, present', same, children⟩ := rows present
    rw [children, ids, same]
    exact listed.behind old present' t row (before owed) (same ▸ names)
  · intro parentId
    rw [ids]
    exact listed.bounded parentId
  · exact Still.exec listed.still (fun _ _ _ parent _ => rewrite_children unwritten parent)

theorem Listed.exec_setChildren {ids : List Text} {now : Text} (listed : Listed h) (lives : Lives h)
    (due : Promise adapters t call (.setChildren id ids now) h)
    : Listed (h.exec t (.setChildren id ids now)) := by
  obtain ⟨⟨row, parent, ⟨put, prior, log, le, le', rfl, adds, names, present⟩, named, rfl⟩,
    unappended⟩ := due
  obtain rfl : parent.taskRunId = id := named
  have own : put ∈ h.own put.thread :=
    mem_own.mpr ⟨(le.trans le').subset (.head _), rfl⟩
  have owed : Outstanding put.thread row h := ⟨⟨put, own, adds⟩, unappended⟩
  have appends (h' : History (store adapters))
      : Appends (⟨put.thread,
          .setChildren parent.taskRunId (parent.childTaskRunIds ++ [row.taskRunId]) now, h'.state⟩
        : Issued (store adapters)) :=
    ⟨_, _, _, rfl⟩
  obtain ⟨current, present', same, stays⟩ :=
    listed.still le le' adds unappended names parent present rfl
  let cmd : Command :=
    .setChildren parent.taskRunId (parent.childTaskRunIds ++ [row.taskRunId]) now
  -- The thread is the only one that was still to append under this parent.
  have before {u : Nat} {other : Row}
      (outstanding' : Outstanding u other (h.exec put.thread cmd))
      : Outstanding u other h ∧ other.parentTaskRunId ≠ some parent.taskRunId := by
    rcases outstanding_exec outstanding' with old | ⟨_, writes, _⟩
    · refine ⟨old, fun names' => ?_⟩
      obtain ⟨rfl, _⟩ := listed.alone owed old names names'
      refine outstanding'.2 _ (mem_own.mpr ⟨.head _, rfl⟩) (appends h)
    · cases writes
  have later {u : Nat} {other : Row} (outstanding' : Outstanding u other h)
      (elsewhere : other.parentTaskRunId ≠ some parent.taskRunId)
      : Outstanding u other (h.exec put.thread cmd) := by
    refine outstanding'.exec (fun same => ?_)
    subst same
    exact absurd (owed.unique lives outstanding' ▸ names) elsewhere
  have ids (parentId : Text)
      : childIds (taskRuns (h.exec put.thread cmd).state) parentId
        = childIds (taskRuns h.state) parentId := by
    show childIds (exec adapters cmd h.state).2.taskRuns parentId = _
    rw [childIds_exec]
    exact append_nil _
  have here {old : Row} (same : old.taskRunId = parent.taskRunId)
      : (cmd.rewrite old).childTaskRunIds = parent.childTaskRunIds ++ [row.taskRunId] := by
    simp [cmd, rewrite, same]
  have elsewhere {old : Row} (other : old.taskRunId ≠ parent.taskRunId)
      : cmd.rewrite old = old := by
    simp [cmd, rewrite, other]
  refine ⟨?_, ?_, ?_, ?_, ?_⟩
  · intro t t' row row' parentId first second
    exact listed.alone (before first).1 (before second).1
  · intro other mem none
    obtain ⟨old, present'', rfl⟩ | ⟨never, _⟩ := mem_taskRuns_exec mem
    · rw [ids, (cmd.sameRun old).taskRunId]
      by_cases named : old.taskRunId = parent.taskRunId
      · obtain rfl : current = old := lives.keyed.eq_of_key present' present'' (same.trans named.symm)
        rw [here named, ← stays]
        exact listed.behind current present' _ row owed (named ▸ names)
      · rw [elsewhere named]
        refine listed.listed old present'' (fun u row' outstanding' names' => ?_)
        have apart : row'.parentTaskRunId ≠ some parent.taskRunId := by
          rw [names']
          exact fun equal => named (some.inj equal)
        refine none u row' (later outstanding' apart) ?_
        rw [(cmd.sameRun old).taskRunId]
        exact names'
    · cases never
  · intro other mem u row' outstanding' names'
    obtain ⟨old, present'', rfl⟩ | ⟨never, _⟩ := mem_taskRuns_exec mem
    · obtain ⟨outstanding'', apart⟩ := before outstanding'
      rw [(cmd.sameRun old).taskRunId] at names'
      have named : old.taskRunId ≠ parent.taskRunId := by
        intro equal
        exact apart (names'.trans (congrArg some equal))
      rw [ids, elsewhere named]
      exact listed.behind old present'' u row' outstanding'' names'
    · cases never
  · intro parentId
    rw [ids]
    exact listed.bounded parentId
  · refine Still.exec listed.still (fun {u row' parentId} outstanding' unappended' names' old named => ?_)
    have other : old.taskRunId ≠ parent.taskRunId := by
      rintro equal
      have same' : row'.parentTaskRunId = some parent.taskRunId := by
        rw [names', ← named, equal]
      obtain ⟨rfl, _⟩ := listed.alone owed outstanding' names same'
      exact unappended' _ (mem_own.mpr ⟨.head _, rfl⟩) (appends h)
    rw [elsewhere other]

/-- A proposal knows its parent. -/
theorem parent_of_promise (due : Promise adapters t call (.insertRun row) h)
    (names : row.parentTaskRunId = some parentId)
    : ∃ parent, WasThere parent h ∧ parent.taskRunId = parentId := by
  obtain ⟨⟨_, proposal, depth, _, _, rfl, placed⟩, _⟩ := due
  cases placed with
  | root parentless => cases parentless.symm.trans names
  | child parent found named _ => exact ⟨parent, found, some.inj (named.symm.trans names)⟩

theorem Outstanding.parent (owed : Outstanding t row h) (lives : Lives h)
    (names : row.parentTaskRunId = some parentId)
    : ∃ parent ∈ taskRuns h.state, parent.taskRunId = parentId := by
  obtain ⟨⟨issued, own, writes, _⟩, _⟩ := owed
  obtain ⟨prior, le, lives', call, due⟩ :=
    at_issued lives (mem_own.mp own).1
  rw [writes] at due
  obtain ⟨parent, found, rfl⟩ := parent_of_promise due names
  obtain ⟨now, present, same, _⟩ :=
    (found.mono ((suffix_cons _ _).trans le)).later lives
  exact ⟨now, present, same⟩

theorem Listed.none_outstanding {parent : Row} (listed : Listed h) (lives : Lives h)
    (present : parent ∈ taskRuns h.state)
    (room : hasRoom (taskRuns h.state) parent.taskRunId = true)
    : (∀ u other, Outstanding u other h → other.parentTaskRunId ≠ some parent.taskRunId)
      ∧ (childIds (taskRuns h.state) parent.taskRunId).length < TASK_RUN_MAX_FANOUT := by
  have found : find (taskRuns h.state) parent.taskRunId = some parent :=
    lives.keyed.find_eq present
  simp only [hasRoom, found, all_some, Bool.and_eq_true, List.all_eq_true,
    contains_iff_mem, decide_eq_true_eq] at room
  refine ⟨fun u other owed names => ?_, room.2⟩
  have behind := listed.behind parent present u other owed names
  have unique := nodup_childIds lives.keyed parent.taskRunId
  rw [← behind] at unique
  have known := room.1 other.taskRunId (behind ▸ mem_append_right _ (.head _))
  exact (nodup_append.mp unique).2.2 _ known _ (.head _) rfl

theorem Listed.exec_insertRun (listed : Listed h) (lives : Lives h)
    (due : Promise adapters t call (.insertRun row) h)
    (free : ∀ old ∈ taskRuns h.state, old.taskRunId ≠ row.taskRunId)
    (room
      : ∀ parentId, row.parentTaskRunId = some parentId
        → hasRoom (taskRuns h.state) parentId = true)
    : Listed (h.exec t (.insertRun row)) := by
  have uninserted := due.2
  have unappended := lives.unappended uninserted
  have rows : taskRuns (h.exec t (.insertRun row)).state
      = taskRuns h.state ++ [row] := by
    have free' : find (taskRuns h.state) row.taskRunId = none := find_eq_none.mpr free
    show (insertRun (taskRuns h.state) row).2 = _
    simp [insertRun, free']
  have ids (parentId : Text)
      : childIds (taskRuns (h.exec t (.insertRun row)).state) parentId
        = childIds (taskRuns h.state) parentId ++ childIds [row] parentId := by
    rw [rows, childIds_append]
  have none (parentId : Text) (other : row.parentTaskRunId ≠ some parentId)
      : childIds [row] parentId = [] := by
    simp [childIds, other]
  have one (parentId : Text) (names : row.parentTaskRunId = some parentId)
      : childIds [row] parentId = [row.taskRunId] := by
    simp [childIds, names]
  have before {u : Nat} {other : Row}
      (owed : Outstanding u other (h.exec t (.insertRun row)))
      : Outstanding u other h ∨ u = t ∧ other = row := by
    rcases outstanding_exec owed with old | ⟨thread, writes, _⟩
    · exact .inl old
    · have same : Command.insertRun row = .insertRun other := writes
      injection same with same
      exact .inr ⟨thread, same.symm⟩
  have later {u : Nat} {other : Row} (owed : Outstanding u other h)
      : Outstanding u other (h.exec t (.insertRun row)) :=
    owed.exec (fun _ _ _ _ => Command.noConfusion)
  have new : Outstanding t row (h.exec t (.insertRun row)) := by
    refine ⟨⟨⟨t, .insertRun row, h.state⟩, ?_, rfl, free⟩, fun issued mem => ?_⟩
    · exact mem_own.mpr ⟨.head _, rfl⟩
    · obtain ⟨noted, thread⟩ := mem_own.mp mem
      rcases mem_cons.mp noted with rfl | prior
      · exact not_appends (fun _ _ _ => Command.noConfusion)
      · exact unappended issued (mem_own.mpr ⟨prior, thread⟩)
  have parent {parentId : Text} (names : row.parentTaskRunId = some parentId)
      : ∃ parent ∈ taskRuns h.state, parent.taskRunId = parentId := by
    obtain ⟨parent, found, rfl⟩ := parent_of_promise due names
    obtain ⟨now, present, same, _⟩ := found.later lives
    exact ⟨now, present, same⟩
  have alone {parentId : Text} (names : row.parentTaskRunId = some parentId)
      : (∀ u other, Outstanding u other h → other.parentTaskRunId ≠ some parentId)
        ∧ (childIds (taskRuns h.state) parentId).length < TASK_RUN_MAX_FANOUT := by
    obtain ⟨now, present, rfl⟩ := parent names
    exact listed.none_outstanding lives present (room _ names)
  have unnamed {parentId : Text} (named : parentId = row.taskRunId)
      (present : ∃ parent ∈ taskRuns h.state, parent.taskRunId = parentId)
      : False := by
    obtain ⟨old, present, same⟩ := present
    exact free old present (same.trans named)
  refine ⟨?_, ?_, ?_, ?_, ?_⟩
  · intro u u' first second parentId owed outstanding' names names'
    rcases before owed with old | ⟨rfl, rfl⟩
    · rcases before outstanding' with old' | ⟨rfl, rfl⟩
      · exact listed.alone old old' names names'
      · exact absurd names ((alone names').1 u first old)
    · rcases before outstanding' with old' | ⟨rfl, rfl⟩
      · exact absurd names' ((alone names).1 u' second old')
      · exact ⟨rfl, rfl⟩
  · intro other mem unlisted
    rw [rows] at mem
    rw [ids]
    rcases mem_append.mp mem with old | new'
    · rw [none _ (unlisted t row new), append_nil]
      exact listed.listed other old (fun u r owed => unlisted u r (later owed))
    · obtain rfl : other = row := mem_singleton.mp new'
      have childless : childIds (taskRuns h.state) other.taskRunId = [] := by
        refine eq_nil_iff_forall_not_mem.mpr (fun id mem => ?_)
        obtain ⟨child, present, names, _⟩ := mem_childIds.mp mem
        exact unnamed rfl (lives.parents child present _ names)
      rw [childless, none _ (fun names => unnamed rfl (parent names))]
      obtain ⟨⟨_, proposal, depth, _, _, rfl, _⟩, _⟩ := due
      rfl
  · intro other mem u r owed names
    rw [rows] at mem
    rw [ids]
    rcases mem_append.mp mem with old | new'
    · rcases before owed with owed | ⟨rfl, rfl⟩
      · have elsewhere : row.parentTaskRunId ≠ some other.taskRunId :=
          fun names' => (alone names').1 u r owed names
        rw [none _ elsewhere, append_nil]
        exact listed.behind other old u r owed names
      · rw [one _ names, listed.listed other old (alone names).1]
    · obtain rfl : other = row := mem_singleton.mp new'
      rcases before owed with owed | ⟨rfl, rfl⟩
      · exact (unnamed rfl (owed.parent lives names)).elim
      · exact (unnamed rfl (parent names)).elim
  · intro parentId
    rw [ids, length_append]
    by_cases names : row.parentTaskRunId = some parentId
    · rw [one _ names]
      exact (alone names).2
    · rw [none _ names]
      exact listed.bounded parentId
  · exact Still.exec listed.still (fun _ _ _ _ _ => rfl)

/-- Every spaced step keeps the lists exact. Witness: case analysis on the command. -/
theorem Listed.exec (listed : Listed h) (lives : Lives h)
    (due : Promise adapters t call cmd h)
    (room
      : ∀ row parentId, cmd = .insertRun row → row.parentTaskRunId = some parentId
        → (∀ old ∈ taskRuns h.state, old.taskRunId ≠ row.taskRunId)
        → hasRoom (taskRuns h.state) parentId = true)
    : Listed (h.exec t cmd) := by
  cases cmd with
  | insertRun row =>
    cases known : find (taskRuns h.state) row.taskRunId with
    | none =>
      have free := find_eq_none.mp known
      exact listed.exec_insertRun lives due free (fun parentId names =>
        room row parentId rfl names free)
    | some old =>
      refine listed.exec_other (by simp [added, known])
        (fun _ _ _ => Command.noConfusion) ?_
      rintro other ⟨writes, free⟩
      have same : Command.insertRun row = .insertRun other := writes
      injection same with same
      obtain ⟨present, named⟩ := mem_of_find known
      exact free old present (same ▸ named)
  | setChildren id ids now => exact listed.exec_setChildren lives due
  | _ =>
    refine listed.exec_other rfl (fun _ _ _ => Command.noConfusion) ?_
    rintro other ⟨writes, _⟩
    cases writes

/-- Where no run is inserted under a parent whose list lacks one or is full, fan-out is bounded and every
list is exact. Witness: a call that has answered has appended what it had inserted.
-/
theorem fanout_of_spaced (adapters : Adapters) (schedule : List (Action (store adapters) Call))
    (spaced : Spaced adapters schedule)
    : FanoutKept (taskRunsAfter adapters schedule) := by
  have start : Listed (taskRunsAfter adapters []).history := by
    refine ⟨?_, fun _ member => absurd member not_mem_nil,
      fun _ member => absurd member not_mem_nil, fun _ => Nat.zero_le _, ?_⟩
    · rintro t t' row row' parentId ⟨⟨issued, own, _⟩, _⟩
      exact absurd own not_mem_nil
    · intro issued earlier log row parentId le le'
      exact absurd (suffix_nil.mp (le.trans le')) (cons_ne_nil _ _)
  have listed : Listed (taskRunsAfter adapters schedule).history := by
    refine (agreement adapters).admitted_run owes_body nil start ?_
      (fun event => isEmptyElim event) spaced
    intro config t call command sound asked pending promised now listed
    refine listed.exec sound.inv promised (fun row parentId writes names free => ?_)
    subst writes
    have unknown : find (taskRuns config.state) row.taskRunId = none :=
      find_eq_none.mpr free
    simpa [TaskRuns.spaced, pending, unknown, names] using now
  have lives := lives_taskRuns adapters schedule
  intro settled parent present
  have none (t : Nat) (row : Row)
      (outstanding : Outstanding t row (taskRunsAfter adapters schedule).history)
      : row.parentTaskRunId ≠ some parent.taskRunId := by
    obtain ⟨⟨issued, own, inserts⟩, unappended⟩ := outstanding
    intro names
    obtain ⟨logged, rfl⟩ := mem_own.mp own
    obtain ⟨later, earlier, split⟩ := append_of_mem logged
    obtain ⟨call, asked, _, promised⟩ :=
      (agreement adapters).promised_at owes_body nil schedule ⟨later, split.symm⟩
    rw [inserts.1] at promised
    obtain ⟨⟨args, _, _, rfl, _⟩, _⟩ := promised
    obtain ⟨answer, answered⟩ := settled issued.thread args asked
    obtain ⟨entry, found, ended⟩ := bind_eq_some_iff.mp answered
    obtain ⟨other, own', appends⟩ :=
      ((sound_taskRuns adapters schedule).post_of_answer found ended).appended issued own row inserts
        (fun parentless => by cases parentless.symm.trans names)
    exact unappended other own' appends
  have exact' := listed.listed parent present none
  refine ⟨?_, exact' ▸ nodup_childIds lives.keyed _, fun id => ?_⟩
  · have bounded := listed.bounded parent.taskRunId
    rwa [childIds, length_map] at bounded
  · rw [exact', mem_childIds]

namespace Sample

/-- A parent that is dispatched, with two children that are proposed one after the other. -/
def family : List (Action (store replies) Call) :=
  .spawn (propose "tr:1" .null) :: steps 2 0
    ++ .spawn (dispatch "tr:1" "exec:cairnstone-delegate" .undefined) :: steps 5 1
    ++ .spawn (propose "tr:2" (.string (text "tr:1"))) :: steps 5 2
    ++ .spawn (propose "tr:3" (.string (text "tr:1"))) :: steps 5 3

/-- Two children are proposed at once, and both read the list before either writes it. -/
def crowd : List (Action (store replies) Call) :=
  .spawn (propose "tr:1" .null) :: steps 2 0
    ++ .spawn (dispatch "tr:1" "exec:cairnstone-delegate" .undefined) :: steps 5 1
    ++ .spawn (propose "tr:2" (.string (text "tr:1"))) :: steps 3 2
    ++ .spawn (propose "tr:3" (.string (text "tr:1"))) :: steps 5 3 ++ steps 2 2

end Sample

/-- Two children that are proposed one after the other. -/
theorem fanout_sample : FanoutKept (taskRunsAfter Sample.replies Sample.family) :=
  fanout_of_spaced _ _ (by decide +kernel)

/-- Of two children that are proposed at once, one is missing in the list. -/
theorem proposalsLoseAnAppend : ¬ FanoutKept (taskRunsAfter Sample.replies Sample.crowd) := by
  let config := taskRunsAfter Sample.replies Sample.crowd
  have ended : config.threads.all (·.answer.isSome) = true := by
    decide +kernel
  have missing
      : (taskRuns config.state).any (fun parent =>
          (taskRuns config.state).any (fun child =>
            child.parentTaskRunId == some parent.taskRunId
            && !parent.childTaskRunIds.contains child.taskRunId))
        = true := by
    decide +kernel
  intro kept
  have settled (t : Nat) (args : ProposeArguments)
      (asked : config.call t = some (.propose args))
      : ∃ answer, config.answer t = some answer := by
    obtain ⟨entry, found, _⟩ := map_eq_some_iff.mp asked
    have answered := List.all_eq_true.mp ended entry (mem_of_getElem? found)
    obtain ⟨answer, same⟩ := isSome_iff_exists.mp answered
    exact ⟨answer, bind_eq_some_iff.mpr ⟨entry, found, same⟩⟩
  obtain ⟨parent, present, missing⟩ := List.any_eq_true.mp missing
  obtain ⟨child, present', missing⟩ := List.any_eq_true.mp missing
  obtain ⟨names, unlisted⟩ := Bool.and_eq_true_iff.mp missing
  have listed := ((kept settled parent present).2.2 child.taskRunId).mpr
    ⟨child, present', eq_of_beq names, rfl⟩
  rw [contains_iff_mem.mpr listed] at unlisted
  cases unlisted

-- The descendants of a run

def normalizedParentId (row : Row) : Option Text :=
  row.parentTaskRunId.filter (· ≠ [])

/-- The ids seen so far, the answer so far, and the frontier. -/
structure Walk where
  seen : List Text
  out : List Row
  next : List Text

def Walk.visit (walk : Walk) (child : Row) : Walk :=
  if child.taskRunId = [] ∨ child.taskRunId ∈ walk.seen then walk
  else
    { seen := child.taskRunId :: walk.seen, out := walk.out ++ [child],
      next := walk.next ++ [child.taskRunId] }

def childrenOf (runs : List Row) (frontier : List Text) : List Row :=
  frontier.flatMap (fun parentId => runs.filter (normalizedParentId · = some parentId))

-- The source stops at an empty frontier, from which nothing is added.
def Walk.descend (runs : List Row) (walk : Walk) : Nat → Walk
  | 0 => walk
  | depth + 1 => descend runs ((childrenOf runs walk.next).foldl visit { walk with next := [] }) depth

def selectDescendantsFromRuns (runs : List Row) (rootId : Text) (maxDepth : Nat) : List Row :=
  (Walk.descend runs ⟨[rootId], [], [rootId]⟩ maxDepth).out

inductive Descends (runs : List Row) (rootId : Text) : Nat → Text → Prop
  | root : Descends runs rootId 0 rootId
  | child {n : Nat} {parentId : Text} {row : Row} (above : Descends runs rootId n parentId)
    (listed : row ∈ runs) (parent : normalizedParentId row = some parentId)
    (named : row.taskRunId ≠ [])
    : Descends runs rootId (n + 1) row.taskRunId

variable {runs children : List Row} {rootId : Text} {walk : Walk} {n : Nat}

structure Walk.Sound (runs : List Row) (rootId : Text) (walk : Walk) : Prop where
  ids : Perm walk.seen (rootId :: walk.out.map (·.taskRunId))
  unique : walk.seen.Nodup
  listed : walk.out ⊆ runs

theorem Walk.Sound.foldl (sound : walk.Sound runs rootId) (listed : children ⊆ runs)
    : (children.foldl visit walk).Sound runs rootId := by
  induction children generalizing walk with
  | nil => exact sound
  | cons child children ih =>
    refine ih ?_ (fun _ mem => listed (.tail _ mem))
    unfold visit
    split
    · exact sound
    · next skip =>
      refine ⟨?_, nodup_cons.mpr ⟨fun mem => skip (.inr mem), sound.unique⟩, ?_⟩
      · rw [map_append, ← cons_append]
        exact (sound.ids.cons _).trans (perm_append_singleton _ _).symm
      · exact append_subset.mpr ⟨sound.listed, by simpa using listed (.head _)⟩

theorem Walk.mem_seen_foldl {id : Text}
    : id ∈ (children.foldl visit walk).seen
      ↔ id ∈ walk.seen ∨ ∃ row ∈ children, row.taskRunId ≠ [] ∧ row.taskRunId = id := by
  induction children generalizing walk with
  | nil => simp
  | cons child children ih =>
    rw [foldl_cons, ih, visit]
    split <;> grind

theorem Walk.mem_next_foldl {id : Text}
    : id ∈ (children.foldl visit walk).next
      ↔ id ∈ walk.next ∨ (id ∈ (children.foldl visit walk).seen ∧ id ∉ walk.seen) := by
  induction children generalizing walk with
  | nil => simp
  | cons child children ih =>
    rw [foldl_cons, ih, mem_seen_foldl, visit]
    split <;> grind

/-- After `n` levels, what is seen is within that depth, and only the frontier has unseen children. -/
structure Walk.Covers (runs : List Row) (rootId : Text) (n : Nat) (walk : Walk) : Prop where
  seen : ∀ id, id ∈ walk.seen ↔ ∃ k ≤ n, Descends runs rootId k id
  next : walk.next ⊆ walk.seen
  closed
    : ∀ id ∈ walk.seen, id ∉ walk.next → ∀ row ∈ runs, normalizedParentId row = some id
      → row.taskRunId ≠ [] → row.taskRunId ∈ walk.seen

theorem mem_childrenOf {frontier : List Text} {row : Row}
    : row ∈ childrenOf runs frontier
      ↔ ∃ parentId ∈ frontier, row ∈ runs ∧ normalizedParentId row = some parentId := by
  simp [childrenOf]

theorem Walk.Covers.level (covers : walk.Covers runs rootId n)
    : ((childrenOf runs walk.next).foldl visit { walk with next := [] }).Covers runs rootId (n + 1) := by
  have met {id : Text} {row : Row} (seen : id ∈ walk.seen) (mem : row ∈ runs)
      (parent : normalizedParentId row = some id) (named : row.taskRunId ≠ [])
      : row.taskRunId
        ∈ ((childrenOf runs walk.next).foldl visit { walk with next := [] }).seen := by
    rw [mem_seen_foldl]
    by_cases waiting : id ∈ walk.next
    · exact .inr ⟨row, mem_childrenOf.mpr ⟨id, waiting, mem, parent⟩, named, rfl⟩
    · exact .inl (covers.closed id seen waiting row mem parent named)
  refine ⟨fun id => ⟨fun mem => ?_, ?_⟩, fun id mem => ?_, fun id mem old row => ?_⟩
  · rcases mem_seen_foldl.mp mem with seen | ⟨row, child, named, rfl⟩
    · obtain ⟨k, le, path⟩ := (covers.seen id).mp seen
      exact ⟨k, by omega, path⟩
    · obtain ⟨parentId, waiting, listed, parent⟩ := mem_childrenOf.mp child
      obtain ⟨k, le, path⟩ := (covers.seen parentId).mp (covers.next waiting)
      exact ⟨k + 1, by omega, path.child listed parent named⟩
  · intro ⟨k, le, path⟩
    cases path with
    | root => exact mem_seen_foldl.mpr (.inl ((covers.seen _).mpr ⟨0, by omega, .root⟩))
    | child above mem parent named =>
      exact met ((covers.seen _).mpr ⟨_, by omega, above⟩) mem parent named
  · exact (mem_next_foldl.mp mem).elim (fun none => absurd none not_mem_nil) (·.1)
  · refine met (Classical.byContradiction fun unseen => old ?_)
    exact mem_next_foldl.mpr (.inr ⟨mem, unseen⟩)

structure DescendantsOf (runs : List Row) (rootId : Text) (depth : Nat) (out : List Row) : Prop where
  listed : out ⊆ runs
  unique : (rootId :: out.map (·.taskRunId)).Nodup
  exact
    : ∀ id, id ∈ rootId :: out.map (·.taskRunId) ↔ ∃ n ≤ depth, Descends runs rootId n id

/-- Each descendant within the depth is selected once, whatever cycles the parents form.
Witness: induction on the levels of the walk.
-/
theorem selectsDescendants (runs : List Row) (rootId : Text) (maxDepth : Nat)
    : DescendantsOf runs rootId maxDepth (selectDescendantsFromRuns runs rootId maxDepth) := by
  have levels {n : Nat} (depth : Nat) {walk : Walk} (sound : walk.Sound runs rootId)
      (covers : walk.Covers runs rootId n)
      : (walk.descend runs depth).Sound runs rootId
        ∧ (walk.descend runs depth).Covers runs rootId (n + depth) := by
    induction depth generalizing walk n with
    | zero => exact ⟨sound, covers⟩
    | succ depth ih =>
      rw [show n + (depth + 1) = n + 1 + depth by omega]
      refine ih (Walk.Sound.foldl ⟨sound.ids, sound.unique, sound.listed⟩ ?_) covers.level
      intro row mem
      obtain ⟨_, _, listed, _⟩ := mem_childrenOf.mp mem
      exact listed
  have start : (⟨[rootId], [], [rootId]⟩ : Walk).Covers runs rootId 0 := by
    refine ⟨fun id => ⟨fun mem => ?_, ?_⟩, fun _ => id, fun id mem old => absurd mem old⟩
    · cases mem_singleton.mp mem
      exact ⟨0, le_rfl, .root⟩
    · intro ⟨k, le, path⟩
      obtain rfl : k = 0 := by omega
      cases path
      exact .head _
  obtain ⟨sound, covers⟩ := levels maxDepth ⟨.refl _, nodup_singleton _, nil_subset _⟩ start
  refine ⟨sound.listed, sound.ids.nodup_iff.mp sound.unique, fun id => ?_⟩
  rw [Nat.zero_add] at covers
  exact sound.ids.mem_iff.symm.trans (covers.seen id)

end CairnStone.TaskRuns
