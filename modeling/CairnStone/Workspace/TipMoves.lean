import CairnStone.Concurrency.Protocol
import CairnStone.Workspace.Drafts

/-! What the statements of the draft plane do to the tips: one key gains, changes or loses its
tip, or every tip stays. Rows refer to known workspaces and known revisions.
-/

namespace CairnStone.Workspace

open JavaScript Data Concurrency List Option World

def World.Knows (world : World) (revisionId : Text) : Prop :=
  ∃ row ∈ world.revisions, row.revisionId = revisionId

def World.HasWorkspace (world : World) (workspaceId : Text) : Prop :=
  ∃ row ∈ world.workspaces, row.1 = workspaceId

structure World.Lawful (world : World) : Prop where
  tips : Keyed TipRow.key world.tips
  workspaces : ∀ tip ∈ world.tips, world.HasWorkspace tip.workspaceId
  revisions : ∀ tip ∈ world.tips, world.Knows tip.revisionId

theorem lawful_initial (workspaces : List (Text × Int)) : (initial workspaces).Lawful :=
  ⟨.nil, forall_mem_nil _,
    forall_mem_nil _⟩

theorem World.tipAt_eq_some {world : World} (keyed : Keyed TipRow.key world.tips)
    {key : Text × Text} {row : TipRow}
    : world.tipAt key = some row ↔ row ∈ world.tips ∧ row.key = key := by
  constructor
  · intro found
    exact ⟨mem_of_find?_eq_some found, by simpa using find?_some found⟩
  · rintro ⟨mem, rfl⟩
    have some : (world.tipAt row.key).isSome := by
      rw [tipAt, find?_isSome]
      exact ⟨row, mem, by simp⟩
    obtain ⟨other, found⟩ := isSome_iff_exists.mp some
    have sameKey : other.key = row.key := by simpa using find?_some found
    rw [found, keyed.eq_of_key (mem_of_find?_eq_some found) mem sameKey]

theorem World.tipAt_eq_none {world : World} {key : Text × Text}
    : world.tipAt key = none ↔ ∀ row ∈ world.tips, row.key ≠ key := by
  simp [tipAt, find?_eq_none]

def World.revisionAt (world : World) (key : Text × Text) : Option Text :=
  (world.tipAt key).map (·.revisionId)

structure Move where
  key : Text × Text
  (old new : Option Text)

/-- The state after an executed statement. -/
def after (issued : Issued draftPlane) : World :=
  (World.exec issued.command issued.before).2

def Still (issued : Issued draftPlane) : Prop :=
  (after issued).tips = issued.before.tips

structure Moves (before after : World) (move : Move) : Prop where
  old : before.revisionAt move.key = move.old
  new : after.revisionAt move.key = move.new
  others : ∀ key ≠ move.key, after.tipAt key = before.tipAt key

namespace World

variable {world : World}
  {key : Text × Text} {base : Text} {f : TipRow → TipRow}

/-- An insert fails on a taken key or a dangling reference, and else adds its row. -/
theorem insertTip_spec (world : World) (row : TipRow)
    : (∃ error, world.insertTip row = (.error error, world)
        ∧ (world.tipAt row.key ≠ none ∨ ¬ world.HasWorkspace row.workspaceId
          ∨ ¬ world.Knows row.revisionId))
      ∨ (world.insertTip row = (.ok (), { world with tips := world.tips ++ [row] })
        ∧ world.tipAt row.key = none ∧ world.HasWorkspace row.workspaceId
        ∧ world.Knows row.revisionId
        ∧ Moves world { world with tips := world.tips ++ [row] }
            ⟨row.key, none, some row.revisionId⟩) := by
  unfold insertTip
  cases found : world.tipAt row.key with
  | some old => exact .inl ⟨.unique, by simp, .inl (by simp)⟩
  | none =>
    by_cases refers
        : (world.workspaces.any (·.1 == row.workspaceId)
          && world.revisions.any (·.revisionId == row.revisionId)) = true
    · have both := refers
      simp only [Bool.and_eq_true, List.any_eq_true, beq_iff_eq] at both
      obtain ⟨workspace, revision⟩ := both
      refine .inr ⟨by simp only [isSome_none, Bool.false_eq_true, if_false, refers,
        if_true], rfl, workspace, revision, by simp [revisionAt, found], ?_, ?_⟩
      · have none := found
        rw [tipAt] at none
        simp [revisionAt, tipAt, find?_append, none]
      · intro key apart
        simp [tipAt, find?_append, apart.symm]
    · refine .inl ⟨.foreignKey, by simp [refers], .inr ?_⟩
      simp only [Bool.and_eq_true, List.any_eq_true, beq_iff_eq, not_and_or] at refers
      exact refers

theorem matchesTip_iff {row : TipRow}
    : matchesTip key base row = true ↔ row.key = key ∧ row.revisionId = base := by
  simp [matchesTip]

/-- A compare-and-swap on a key finds its revision, or it changes nothing. -/
theorem matches_or_not (keyed : Keyed TipRow.key world.tips) (key : Text × Text) (base : Text)
    : (world.tips.countP (matchesTip key base) = 0
        ∧ (∀ row ∈ world.tips, matchesTip key base row = false) ∧ world.revisionAt key ≠ some base)
      ∨ world.tips.countP (matchesTip key base) ≠ 0
        ∧ ∃ old, world.tipAt key = some old ∧ old.revisionId = base := by
  by_cases zero : world.tips.countP (matchesTip key base) = 0
  · have none := countP_eq_zero.mp zero
    refine .inl ⟨zero, fun row mem => by simpa using none row mem, fun found => ?_⟩
    obtain ⟨row, at_key, rfl⟩ := map_eq_some_iff.mp found
    obtain ⟨mem, rfl⟩ := (tipAt_eq_some keyed).mp at_key
    exact none row mem (by simp [matchesTip])
  · refine .inr ⟨zero, ?_⟩
    rw [countP_eq_zero] at zero
    push Not at zero
    obtain ⟨row, mem, hit⟩ := zero
    simp only [matchesTip, Bool.and_eq_true, beq_iff_eq] at hit
    exact ⟨row, (tipAt_eq_some keyed).mpr ⟨mem, hit.1⟩, hit.2⟩

theorem tipAt_updateWhere
    (sameKey : ∀ row, matchesTip key base row = true → (f row).key = row.key) (k : Text × Text)
    : { world with tips := updateWhere (matchesTip key base) f world.tips }.tipAt k
      = (world.tipAt k).map (fun row => if matchesTip key base row then f row else row) := by
  have same : (fun row => TipRow.key row == k)
        ∘ (fun row => if matchesTip key base row then f row else row)
      = fun row => row.key == k := by
    funext row
    simp only [Function.comp_apply]
    split
    · rename_i hit
      rw [sameKey row hit]
    · rfl
  rw [tipAt, updateWhere, find?_map, same, tipAt]

theorem moves_updateWhere {old : TipRow} {revisionId : Text}
    (found : world.tipAt key = some old) (isBase : old.revisionId = base)
    (sameKey : ∀ row, matchesTip key base row = true → (f row).key = row.key)
    (sets : (f old).revisionId = revisionId)
    : Moves world { world with tips := updateWhere (matchesTip key base) f world.tips }
        ⟨key, some base, some revisionId⟩ := by
  have atKey : old.key = key := by simpa using find?_some found
  refine ⟨by simp [revisionAt, found, isBase], ?_, fun k apart => ?_⟩
  · simp [revisionAt, tipAt_updateWhere sameKey, found, matchesTip, atKey, isBase, sets]
  · rw [tipAt_updateWhere sameKey]
    cases other : world.tipAt k with
    | none => rfl
    | some row =>
      have rowKey : row.key = k := by simpa using find?_some other
      simp [matchesTip, rowKey, apart]

theorem moves_deleteTipCas (keyed : Keyed TipRow.key world.tips) {old : TipRow}
    (found : world.tipAt key = some old) (isBase : old.revisionId = base)
    : Moves world (world.deleteTipCas key base).2 ⟨key, some base, none⟩ := by
  refine ⟨by simp [revisionAt, found, isBase], ?_, fun k apart => ?_⟩
  · obtain ⟨mem, atKey⟩ := (tipAt_eq_some keyed).mp found
    simp only [revisionAt, map_eq_none_iff]
    refine tipAt_eq_none.mpr (fun row kept rowKey => ?_)
    obtain ⟨here, unmatched⟩ := mem_filter.mp kept
    cases keyed.eq_of_key here mem (rowKey.trans atKey.symm)
    simp [matchesTip, atKey, isBase] at unmatched
  · simp only [deleteTipCas, tipAt, find?_filter]
    refine congrArg (fun p => world.tips.find? p) (funext (fun row => ?_))
    by_cases at_k : row.key = k
    · subst at_k
      simp only [matchesTip, beq_self_eq_true, and_true, decide_eq_true_eq, Bool.not_eq_true']
      simp [apart]
    · simp [at_k]

theorem overwriteTip_spec (keyed : Keyed TipRow.key world.tips) (key : Text × Text)
    (base revisionId contentHash : Text) (updatedAt : Int)
    : let swapped := world.overwriteTip key base revisionId contentHash updatedAt
      swapped.1 = 0 ∧ swapped.2.tips = world.tips
      ∨ swapped.1 ≠ 0 ∧ Moves world swapped.2 ⟨key, some base, some revisionId⟩ := by
  rcases matches_or_not keyed key base with ⟨zero, none, _⟩ | ⟨some, old, found, isBase⟩
  · exact .inl ⟨zero, updateWhere_eq_self none⟩
  · exact .inr ⟨some, moves_updateWhere found isBase (fun _ _ => rfl) rfl⟩

theorem updateTipCas_spec (keyed : Keyed TipRow.key world.tips) (base : Text) (row : TipRow)
    : let swapped := world.updateTipCas base row
      swapped.1 = 0 ∧ swapped.2.tips = world.tips
      ∨ swapped.1 ≠ 0 ∧ Moves world swapped.2 ⟨row.key, some base, some row.revisionId⟩ := by
  rcases matches_or_not keyed row.key base with ⟨zero, none, _⟩ | ⟨some, old, found, isBase⟩
  · exact .inl ⟨zero, updateWhere_eq_self none⟩
  · exact .inr ⟨some, moves_updateWhere found isBase (fun _ _ => rfl) rfl⟩

theorem deleteTipCas_spec (keyed : Keyed TipRow.key world.tips) (key : Text × Text)
    (base : Text)
    : let swapped := world.deleteTipCas key base
      swapped.1 = 0 ∧ swapped.2.tips = world.tips
      ∨ swapped.1 ≠ 0 ∧ Moves world swapped.2 ⟨key, some base, none⟩ := by
  rcases matches_or_not keyed key base with ⟨zero, none, _⟩ | ⟨some, old, found, isBase⟩
  · refine .inl ⟨zero, filter_eq_self.mpr (fun row mem => ?_)⟩
    simp [none row mem]
  · exact .inr ⟨some, moves_deleteTipCas keyed found isBase⟩

theorem keyed_deleteTipCas (keyed : Keyed TipRow.key world.tips) (key : Text × Text)
    (base : Text)
    : Keyed TipRow.key (world.deleteTipCas key base).2.tips :=
  (filter_sublist.map _).nodup keyed

/-- References that resolve keep resolving. -/
structure Grows (world world' : World) : Prop where
  workspaces : ∀ id, world.HasWorkspace id → world'.HasWorkspace id
  revisions : ∀ id, world.Knows id → world'.Knows id

theorem Grows.refl (world : World) : Grows world world :=
  ⟨fun _ has => has, fun _ known => known⟩

theorem Grows.trans {a b c : World} (first : Grows a b) (second : Grows b c) : Grows a c :=
  ⟨fun id has => second.workspaces id (first.workspaces id has),
    fun id known => second.revisions id (first.revisions id known)⟩

/-- Neither workspaces nor revisions are ever removed. -/
theorem grows_exec (cmd : Command) (world : World)
    : Grows world (World.exec cmd world).2 := by
  have same {world' : World} (workspaces : world'.workspaces = world.workspaces)
      (revisions : world'.revisions = world.revisions)
      : Grows world world' := by
    refine ⟨fun id has => ?_, fun id known => ?_⟩
    · rwa [HasWorkspace, workspaces]
    · rwa [Knows, revisions]
  cases cmd with
  | putBlob key content =>
    simp only [exec]
    split <;> exact same rfl rfl
  | insertRevision row =>
    simp only [exec, insertRevision]
    split
    · exact .refl world
    · split
      · refine ⟨fun id has => has, fun id known => ?_⟩
        obtain ⟨old, mem, isId⟩ := known
        exact ⟨old, mem_append_left _ mem, isId⟩
      · exact .refl world
  | insertTip row =>
    rcases insertTip_spec world row with ⟨error, fails, _⟩ | ⟨adds, _⟩
    · simp only [exec, fails]
      exact .refl world
    · simp only [exec, adds]
      exact same rfl rfl
  | overwriteTip => exact same rfl rfl
  | updateTipCas => exact same rfl rfl
  | deleteTipCas => exact same rfl rfl
  | insertTreeOp => exact same rfl rfl
  | touchWorkspace workspaceId updatedAt =>
    refine ⟨fun id has => ?_, fun id known => known⟩
    obtain ⟨row, mem, isId⟩ := has
    refine ⟨_, mem_updateWhere.mpr ⟨row, mem, rfl⟩, ?_⟩
    split <;> exact isId

/-- A known revision id is ignored; another row is refused or added. -/
theorem insertRevision_cases (world : World) (row : RevisionRow)
    : (world.Knows row.revisionId ∧ world.insertRevision row = (.ok (), world))
      ∨ ¬ world.Knows row.revisionId
        ∧ (world.insertRevision row = (.error .foreignKey, world)
          ∨ world.insertRevision row
            = (.ok (), { world with revisions := world.revisions ++ [row] })) := by
  unfold insertRevision
  split
  · rename_i known
    simp only [List.any_eq_true, beq_iff_eq] at known
    exact .inl ⟨known, rfl⟩
  · rename_i unknown
    simp only [List.any_eq_true, beq_iff_eq] at unknown
    refine .inr ⟨unknown, ?_⟩
    split
    · exact .inr rfl
    · exact .inl rfl

/-- A recorded revision is known, and a refused one leaves everything as it was. -/
theorem insertRevision_spec (world : World) (row : RevisionRow)
    : ((world.insertRevision row).1 = .error .foreignKey ∧ (world.insertRevision row).2 = world)
      ∨ (world.insertRevision row).1 = .ok ()
        ∧ (world.insertRevision row).2.Knows row.revisionId := by
  rcases insertRevision_cases world row with ⟨known, same⟩ | ⟨_, denied | added⟩
  · exact .inr ⟨by rw [same], by rw [same]; exact known⟩
  · exact .inl ⟨by rw [denied], by rw [denied]⟩
  · refine .inr ⟨by rw [added], ?_⟩
    rw [added]
    exact ⟨row, mem_append_right _ (.head _), rfl⟩

/-- Rows that still resolve after their table was rewritten in place. -/
theorem Lawful.updateWhere (lawful : world.Lawful)
    (sameKey : ∀ row, matchesTip key base row = true → (f row).key = row.key)
    (known : ∀ row, world.Knows (f row).revisionId)
    : Lawful { world with tips := updateWhere (matchesTip key base) f world.tips } := by
  refine ⟨lawful.tips.updateWhere sameKey, fun tip mem => ?_, fun tip mem => ?_⟩
  · obtain ⟨old, here, rfl⟩ := mem_updateWhere.mp mem
    split
    · rename_i hit
      have same : (f old).workspaceId = old.workspaceId := (Prod.mk.inj (sameKey old hit)).1
      rw [same]
      exact lawful.workspaces old here
    · exact lawful.workspaces old here
  · obtain ⟨old, here, rfl⟩ := mem_updateWhere.mp mem
    split
    · exact known old
    · exact lawful.revisions old here

/-- Statements keep keys and references, if updates name known revisions. -/
theorem Lawful.exec {cmd : Command} (lawful : world.Lawful)
    (known
      : match cmd with
        | .overwriteTip _ _ revisionId _ _ => world.Knows revisionId
        | .updateTipCas _ row => world.Knows row.revisionId
        | _ => True)
    : (World.exec cmd world).2.Lawful := by
  have grows := grows_exec cmd world
  have same (tips : (World.exec cmd world).2.tips = world.tips)
      : (World.exec cmd world).2.Lawful := by
    refine ⟨by rw [tips]; exact lawful.tips, fun tip mem => ?_, fun tip mem => ?_⟩
    · rw [tips] at mem
      exact grows.workspaces _ (lawful.workspaces tip mem)
    · rw [tips] at mem
      exact grows.revisions _ (lawful.revisions tip mem)
  cases cmd with
  | putBlob key content =>
    refine same ?_
    simp only [World.exec]
    split <;> rfl
  | insertRevision row =>
    refine same ?_
    simp only [World.exec, insertRevision]
    split
    · rfl
    · split <;> rfl
  | touchWorkspace => exact same rfl
  | insertTreeOp => exact same rfl
  | insertTip row =>
    rcases insertTip_spec world row with ⟨error, fails, _⟩ | ⟨adds, free, has, knows, _⟩
    · exact same (by simp only [World.exec, fails])
    · simp only [World.exec, adds]
      refine ⟨lawful.tips.append_singleton (fun old mem => tipAt_eq_none.mp free old mem),
        fun tip mem => ?_, fun tip mem => ?_⟩
      · rcases mem_append.mp mem with old | new
        · exact lawful.workspaces tip old
        · cases mem_singleton.mp new
          exact has
      · rcases mem_append.mp mem with old | new
        · exact lawful.revisions tip old
        · cases mem_singleton.mp new
          exact knows
  | overwriteTip => exact lawful.updateWhere (fun _ _ => rfl) (fun _ => known)
  | updateTipCas => exact lawful.updateWhere (fun _ _ => rfl) (fun _ => known)
  | deleteTipCas key base =>
    refine ⟨keyed_deleteTipCas lawful.tips key base, fun tip mem => ?_,
      fun tip mem => ?_⟩
    · exact lawful.workspaces tip (mem_of_mem_filter mem)
    · exact lawful.revisions tip (mem_of_mem_filter mem)

end World

end CairnStone.Workspace
