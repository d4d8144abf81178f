import CairnStone.Workspace.Linearizability
import CairnStone.Workspace.Snapshots

/-! Whether a frozen snapshot was ever the state. A listing reads all tips at one instant; a list of
paths is read one path at a time, and two equal readings meet in the middle only if no tip comes back
between them.
-/

namespace CairnStone.Workspace

open JavaScript Data Concurrency List World Config Option Prod Program Sample Answers FreezeArgs

variable (sha256Text : Text → Text) (localeLe : Text → Text → Bool)
  {states : List SnapshotWorld} {wsId : Text} {paths : List Value} {tips : List TipRow}

abbrev snapshotRun (start : SnapshotWorld) (schedule : List (Action snapshotPlane SnapshotCall))
    : Config snapshotPlane SnapshotCall SnapshotFailure (Recorded ⊕ FrozenSnapshot) :=
  (Config.init start).run (SnapshotCall.body sha256Text localeLe) schedule

def World.entryAt (world : World) (key : Text × Text) : Option TipEntry :=
  (world.tipAt key).map TipRow.entry

def World.listedTip (world : World) (wsId : Text) (rawPath : Value) : Option TipRow :=
  match canonicalizeWorkspacePath rawPath with
  | .error _ => none
  | .ok path => world.tipAt (wsId, path)

def FreezeArgs.selectedIn (args : FreezeArgs) (world : World) : Option (List TipRow) :=
  match Workspace.workspaceId args.workspaceId with
  | .error _ => none
  | .ok wsId =>
    match args.listedPaths with
    | some paths => paths.mapM (world.listedTip wsId)
    | none =>
      match listingPrefix args.pathPrefix with
      | .error _ => none
      | .ok given => some (tipsUnder world wsId given)

def FreezeArgs.vectorIn (args : FreezeArgs) (world : World) : Option (List TipEntry) :=
  (args.selectedIn world).map (fun tips => buildTipVector localeLe (tips.map TipRow.entry))

/-- Every frozen tip vector was that of the selected tips at one instant, between the start of the
call and its answer.
-/
def SnapshotsAreReal (start : SnapshotWorld) (schedule : List (Action snapshotPlane SnapshotCall))
    : Prop :=
  ∀ t args now frozen,
    (snapshotRun sha256Text localeLe start schedule).call t = some (.freeze args now)
    → (snapshotRun sha256Text localeLe start schedule).answer t = some (.ok (.inr frozen))
    → ∃ instant, instant <+: schedule
      ∧ (snapshotRun sha256Text localeLe start instant).Running t (.freeze args now)
      ∧ args.vectorIn localeLe (snapshotRun sha256Text localeLe start instant).state.drafts
        = some frozen.tipVector

def FreezeArgs.keys (args : FreezeArgs) : List (Text × Text) :=
  match Workspace.workspaceId args.workspaceId with
  | .error _ => []
  | .ok wsId =>
    (args.listedPaths.getD []).filterMap (fun rawPath =>
      match canonicalizeWorkspacePath rawPath with
      | .error _ => none
      | .ok path => some (wsId, path))

def watchedBy
    (entry : Thread snapshotPlane SnapshotCall SnapshotFailure (Recorded ⊕ FrozenSnapshot))
    : List (Text × Text) :=
  match entry.call, entry.answer with
  | .freeze args _, none => args.keys
  | _, _ => []

variable {sha256Text localeLe}

abbrev SnapshotConfig :=
  Config snapshotPlane SnapshotCall SnapshotFailure (Recorded ⊕ FrozenSnapshot)

/-- The thread's next statement gives the key an entry that it had before and has lost. -/
def Restores (config : SnapshotConfig) (t : Nat) (key : Text × Text) : Prop :=
  match config.pending t with
  | none => False
  | some cmd =>
    let entry (world : SnapshotWorld) : Option TipEntry := world.drafts.entryAt key
    let restored := entry (SnapshotWorld.exec cmd config.state).2
    restored ≠ none ∧ entry config.state ≠ restored
    ∧ ∃ issued ∈ config.history.log, entry issued.before = restored

def ReadsExactly (config : SnapshotConfig) (t : Nat) : Prop :=
  match config.call t with
  | some (.freeze args _) =>
    match args.listedPaths, Workspace.workspaceId args.workspaceId, listingPrefix args.pathPrefix with
    | none, .ok wsId, .ok (some given) => ListsExactly config.state.drafts wsId given
    | _, _, _ => True
  | _ => True

/-- The step restores no tip that a running snapshot is reading, and lists no tip that its prefix does
not mean.
-/
def SeenThrough (config : SnapshotConfig) (t : Nat) : Prop :=
  (∀ entry ∈ config.threads, ∀ key ∈ watchedBy entry, ¬ Restores config t key)
  ∧ ReadsExactly config t

instance decidableRestores (config : SnapshotConfig) (t : Nat) (key : Text × Text)
    : Decidable (Restores config t key) := by
  unfold Restores
  split <;> infer_instance

instance decidableReadsExactly (config : SnapshotConfig) (t : Nat)
    : Decidable (ReadsExactly config t) := by
  unfold ReadsExactly
  split
  · split <;> infer_instance
  · infer_instance

instance decidableSeenThrough (config : SnapshotConfig) (t : Nat)
    : Decidable (SeenThrough config t) :=
  inferInstanceAs (Decidable (_ ∧ _))

theorem answers_refuse {α : Type} {result : Except Refused α} {value : α}
    (answers : (ofDraft (refuse result)).Answers states (.ok value))
    : states = [] ∧ result = .ok value := by
  cases result with
  | error denied => cases answers
  | ok found =>
    obtain ⟨rfl, rfl⟩ := of_done answers
    exact ⟨rfl, rfl⟩

theorem answers_getWorkspaceTip {key : Text × Text} {tip : Option TipRow}
    (answers : (ofDraft (getWorkspaceTip key)).Answers states (.ok tip))
    : ∃ state, states = [state] ∧ state.drafts.tipAt key = tip := by
  obtain ⟨state, rfl, rfl⟩ := of_select answers
  exact ⟨state, rfl, rfl⟩

inductive ReadTips (wsId : Text) : List Value → List SnapshotWorld → List TipRow → Prop
  | nil : ReadTips wsId [] [] []
  | cons {rawPath : Value} {paths : List Value} {state : SnapshotWorld}
    {states : List SnapshotWorld} {path : Text} {tip : TipRow} {tips : List TipRow}
    (valid : canonicalizeWorkspacePath rawPath = .ok path)
    (found : state.drafts.tipAt (wsId, path) = some tip) (rest : ReadTips wsId paths states tips)
    : ReadTips wsId (rawPath :: paths) (state :: states) (tip :: tips)

/-- A reading of listed paths finds each tip in a state of its own.
Witness: induction on the paths.
-/
theorem readTips_of_answers (answers : (selectPaths wsId paths).Answers states (.ok tips))
    : ReadTips wsId paths states tips := by
  induction paths generalizing states tips with
  | nil =>
    obtain ⟨rfl, rfl⟩ := of_done answers
    exact .nil
  | cons rawPath paths ih =>
    obtain ⟨path, none, second, rfl, validated, reads⟩ := of_bind_ok answers
    obtain ⟨rfl, valid⟩ := answers_refuse validated
    obtain ⟨found?, one, third, rfl, read, rest⟩ := of_bind_ok reads
    obtain ⟨state, rfl, found⟩ := answers_getWorkspaceTip read
    cases found? with
    | none => cases rest
    | some tip =>
      obtain ⟨later, states, last, rfl, picked, done⟩ := of_bind_ok rest
      obtain ⟨rfl, rfl⟩ := of_done done
      rw [append_nil]
      exact .cons valid found (ih picked)

theorem World.key_of_tipAt {world : World} {key : Text × Text} {tip : TipRow}
    (found : world.tipAt key = some tip)
    : tip.key = key := by
  have hit := find?_some found
  exact eq_of_beq hit

/-- Every entry of a reading is found in one of its states. Witness: induction on the reading. -/
theorem ReadTips.exists_state (reading : ReadTips wsId paths states tips) {entry : TipEntry}
    (mem : entry ∈ tips.map TipRow.entry)
    : ∃ state ∈ states, state.drafts.entryAt (wsId, entry.path) = some entry := by
  induction reading with
  | nil => cases mem
  | @cons _ _ state _ path tip _ _ found _ ih =>
    rcases mem_cons.mp mem with rfl | later
    · have named : tip.path = path := (mk.inj (key_of_tipAt found)).2
      refine ⟨state, .head _, ?_⟩
      rw [entryAt, show tip.entry.path = path from named, found]
      rfl
    · obtain ⟨state, present, holds⟩ := ih later
      exact ⟨state, .tail _ present, holds⟩

/-- If a state has every entry of a reading, then it has the same tips all at once.
Witness: induction on the reading.
-/
theorem ReadTips.at_once (reading : ReadTips wsId paths states tips) {world : World}
    (each : ∀ entry ∈ tips.map TipRow.entry, world.entryAt (wsId, entry.path) = some entry)
    : ∃ now, paths.mapM (world.listedTip wsId) = some now
      ∧ now.map TipRow.entry = tips.map TipRow.entry := by
  induction reading with
  | nil => exact ⟨[], rfl, rfl⟩
  | @cons rawPath _ _ _ path tip _ valid found _ ih =>
    obtain ⟨now, picked, same⟩ := ih (fun entry mem => each entry (.tail _ mem))
    have named : tip.path = path := (mk.inj (key_of_tipAt found)).2
    have here := each tip.entry (.head _)
    rw [entryAt, show tip.entry.path = path from named] at here
    obtain ⟨current, present, equal⟩ := map_eq_some_iff.mp here
    refine ⟨current :: now, ?_, by rw [map_cons, map_cons, equal, same]⟩
    have listed : world.listedTip wsId rawPath = some current := by
      rw [listedTip, valid]
      exact present
    rw [mapM_cons, listed, picked]
    rfl

/-- The keys of a reading are those that its call lists. Witness: induction on the reading. -/
theorem ReadTips.mem_keys (reading : ReadTips wsId paths states tips) {entry : TipEntry}
    (mem : entry ∈ tips.map TipRow.entry)
    : ∃ rawPath ∈ paths, canonicalizeWorkspacePath rawPath = .ok entry.path := by
  induction reading with
  | nil => cases mem
  | @cons rawPath _ _ _ path tip _ valid found _ ih =>
    rcases mem_cons.mp mem with rfl | later
    · have named : tip.path = path := (mk.inj (key_of_tipAt found)).2
      exact ⟨rawPath, .head _, valid.trans (congrArg _ named.symm)⟩
    · obtain ⟨rawPath, present, valid⟩ := ih later
      exact ⟨rawPath, .tail _ present, valid⟩

theorem perm_of_tipVectorsEqual {left right : List TipEntry}
    (equal : tipVectorsEqual localeLe left right = true)
    : left.Perm right := by
  have sorted : buildTipVector localeLe left = buildTipVector localeLe right := eq_of_beq equal
  have leftSorted := perm_insertionSort (fun a b : TipEntry => localeLe a.path b.path) left
  have rightSorted := perm_insertionSort (fun a b : TipEntry => localeLe a.path b.path) right
  exact leftSorted.symm.trans ((List.Perm.of_eq sorted).trans rightSorted)

variable {args : FreezeArgs}

/-- A successful recheck reads the same tips again. -/
theorem answers_recheck {tipVector : List TipEntry} {race : SnapshotFailure}
    (answers : (recheck localeLe wsId args tipVector race).Answers states (.ok ()))
    : ∃ tips, (selectTipsForSnapshot wsId args).Answers states (.ok tips)
        ∧ tipVector.Perm (tips.map TipRow.entry) := by
  obtain ⟨tips, first, second, rfl, picked, rest⟩ := of_bind_ok answers
  split at rest
  · rename_i equal
    obtain ⟨rfl, _⟩ := of_done rest
    rw [append_nil]
    exact ⟨tips, picked, perm_of_tipVectorsEqual equal⟩
  · cases rest

theorem answers_insertSnapshotRow {row : SnapshotRow}
    (answers : (insertSnapshotRow row).Answers states (.ok ()))
    : ∃ state, states = [state] := by
  obtain ⟨put, first, second, rfl, performed, rest⟩ := of_bind_ok answers
  cases performed with
  | @exec _ _ state _ _ performed =>
    cases performed
    split at rest
    · obtain ⟨rfl, _⟩ := of_done rest
      exact ⟨state, rfl⟩
    · cases rest

theorem workspaceId_of_workspaceAndCreator {workspace creator : Value} {creatorId : Text}
    (valid : workspaceAndCreator workspace creator = .ok (wsId, creatorId))
    : workspaceId workspace = .ok wsId := by
  unfold workspaceAndCreator at valid
  split at valid
  · cases valid
  · cases valid
  · rename_i found _
    obtain ⟨rfl, rfl⟩ := mk.inj (Except.ok.inj valid)
    exact found

/-- What a frozen snapshot found: one reading before its insertion, with its vector, and one after it
with the same tips.
-/
structure Froze (args : FreezeArgs) (tipVector : List TipEntry) (wsId : Text)
    (early : List SnapshotWorld) (inserting : SnapshotWorld) (late : List SnapshotWorld)
    (tips again : List TipRow)
    : Prop where
  workspace : workspaceId args.workspaceId = .ok wsId
  first : (selectTipsForSnapshot wsId args).Answers early (.ok tips)
  last : (selectTipsForSnapshot wsId args).Answers late (.ok again)
  vector : tipVector = buildTipVector localeLe (tips.map TipRow.entry)
  same : (tips.map TipRow.entry).Perm (again.map TipRow.entry)

theorem froze_of_answers {now : Int} {frozen : FrozenSnapshot}
    (answers : (freezeWorkspaceSnapshot sha256Text localeLe args now).Answers states (.ok frozen))
    : ∃ wsId early between inserting late tips again,
        states = early ++ (between ++ inserting :: late)
        ∧ @Froze localeLe args frozen.tipVector wsId early inserting late tips again := by
  obtain ⟨ids, none, rest, rfl, validated, answers1⟩ := of_bind_ok answers
  obtain ⟨rfl, valid⟩ := answers_refuse validated
  obtain ⟨wsId, creator⟩ := ids
  obtain ⟨tips, early, rest, rfl, first, answers2⟩ := of_bind_ok answers1
  obtain ⟨_, none, rest, rfl, required, answers3⟩ := of_bind_ok answers2
  obtain ⟨rfl⟩ : none = [] := by
    unfold requireTips at required
    split at required
    · cases required
    · exact (of_done required).1
  obtain ⟨_, between, rest, rfl, _, answers4⟩ := of_bind_ok answers3
  obtain ⟨_, at_insert, rest, rfl, put, answers5⟩ := of_bind_ok answers4
  obtain ⟨inserting, rfl⟩ := answers_insertSnapshotRow put
  obtain ⟨_, late, rest, rfl, rechecked, done⟩ := of_bind_ok answers5
  obtain ⟨rfl, rfl⟩ := of_done done
  obtain ⟨again, last, same⟩ := answers_recheck rechecked
  refine ⟨wsId, early, between, inserting, late, tips, again, by simp, ?_⟩
  have sorted :=
    perm_insertionSort (fun a b : TipEntry => localeLe a.path b.path) (tips.map TipRow.entry)
  exact ⟨workspaceId_of_workspaceAndCreator valid, first, last, rfl, sorted.symm.trans same⟩

section Runs

variable {start : SnapshotWorld} {schedule : List (Action snapshotPlane SnapshotCall)}
  {args : FreezeArgs} {wsId : Text} {t : Nat} {now : Int}

theorem mem_keys {path : Text} {paths : List Value} {rawPath : Value}
    (workspace : workspaceId args.workspaceId = .ok wsId)
    (listed : args.listedPaths = some paths) (mem : rawPath ∈ paths)
    (valid : canonicalizeWorkspacePath rawPath = .ok path)
    : (wsId, path) ∈ args.keys := by
  unfold FreezeArgs.keys
  rw [workspace, listed]
  exact mem_filterMap.mpr ⟨rawPath, mem, by rw [valid]⟩

theorem mem_watchedBy {config : SnapshotConfig} (running : config.Running t (.freeze args now))
    : ∃ entry ∈ config.threads, watchedBy entry = args.keys := by
  obtain ⟨entry, found, asked⟩ := map_eq_some_iff.mp running.1
  refine ⟨entry, mem_of_getElem? found, ?_⟩
  have unanswered : entry.answer = none := by
    have ended := running.2
    rwa [Config.answer, found] at ended
  rw [watchedBy, asked, unanswered]

/-- A watched tip that is there before and after an instant is there at it.
Witness: no step in between restores it.
-/
theorem entry_between
    (seen
      : (Config.init start).Admitted (SnapshotCall.body sha256Text localeLe) SeenThrough schedule)
    {early middle late : List (Action snapshotPlane SnapshotCall)} (le : early <+: middle)
    (le' : middle <+: late) (inside : late <+: schedule)
    (asked : (snapshotRun sha256Text localeLe start early).call t = some (.freeze args now))
    (unanswered : (snapshotRun sha256Text localeLe start late).answer t = none)
    {key : Text × Text} (watched : key ∈ args.keys) {entry : TipEntry}
    (before : (snapshotRun sha256Text localeLe start early).state.drafts.entryAt key = some entry)
    (after : (snapshotRun sha256Text localeLe start late).state.drafts.entryAt key = some entry)
    : (snapshotRun sha256Text localeLe start middle).state.drafts.entryAt key = some entry := by
  obtain ⟨first, rfl⟩ := le
  obtain ⟨second, rfl⟩ := le'
  simp only [snapshotRun, run_append] at after unanswered ⊢
  refine kept_between (f := fun world : SnapshotWorld => world.drafts.entryAt key)
    (fun _ _ => rfl) before first second after (fun steps u le regains => ?_)
  have running := running_within (call_later asked first) unanswered
    ((prefix_append steps _).trans le)
  obtain ⟨thread, mem, watches⟩ := mem_watchedBy running
  have step : (early ++ first ++ steps) ++ [.step u] <+: schedule := by
    rw [append_assoc]
    exact ((prefix_append_right_inj _).mpr le).trans inside
  have allowed := seen.at_step step
  simp only [run_append] at allowed
  refine allowed.1 thread mem key (watches ▸ watched) ?_
  obtain ⟨cmd, pending, lost, restored, issued, noted, had⟩ := regains
  rw [Restores, pending]
  have same := restored
  refine ⟨?_, ?_, issued, noted, had.trans same.symm⟩
  · exact fun gone => some_ne_none entry (same.symm.trans gone)
  · exact fun kept => lost (kept.trans same)

theorem selectedIn_of_listing {states : List SnapshotWorld} {tips : List TipRow}
    (workspace : workspaceId args.workspaceId = .ok wsId) (listing : args.listedPaths = none)
    (answers : (selectTipsForSnapshot wsId args).Answers states (.ok tips))
    : ∃ state given, states = [state] ∧ listingPrefix args.pathPrefix = .ok given
        ∧ ((∀ pathPrefix ∈ given, ListsExactly state.drafts wsId pathPrefix)
          → args.selectedIn state.drafts = some tips) := by
  rw [selectTipsForSnapshot, listing] at answers
  obtain ⟨given, none, rest, rfl, validated, listed⟩ := of_bind_ok answers
  obtain ⟨rfl, valid⟩ := answers_refuse validated
  obtain ⟨state, rfl, rfl⟩ := of_select listed
  refine ⟨state, given, rfl, valid, fun exactly => ?_⟩
  rw [selectedIn, workspace, listing, valid]
  exact congrArg some (selectTips_eq_tipsUnder exactly).symm

theorem selectedIn_of_paths {paths : List Value} {world : World}
    (workspace : workspaceId args.workspaceId = .ok wsId)
    (listing : args.listedPaths = some paths)
    : args.selectedIn world = paths.mapM (world.listedTip wsId) := by
  rw [selectedIn, workspace, listing]

theorem exact_of_admitted {config : SnapshotConfig} {given : Option Text}
    (allowed : SeenThrough config t) (asked : config.call t = some (.freeze args now))
    (listing : args.listedPaths = none) (workspace : workspaceId args.workspaceId = .ok wsId)
    (valid : listingPrefix args.pathPrefix = .ok given)
    : ∀ pathPrefix ∈ given, ListsExactly config.state.drafts wsId pathPrefix := by
  rintro pathPrefix ⟨⟩
  have reads := allowed.2
  simpa only [ReadsExactly, asked, listing, workspace, valid] using reads

/-- In a run in which no tip comes back while a running snapshot reads its path, and in which no listing
selects a tip that its prefix does not mean, every frozen snapshot was the state at one instant.
Witness: a listing is read at one instant; the tips of a list of paths are all there when the
snapshot is inserted, since each was there before and after.
-/
theorem snapshotsAreReal_of_seenThrough (sha256Text : Text → Text) (localeLe : Text → Text → Bool)
    (start : SnapshotWorld) (schedule : List (Action snapshotPlane SnapshotCall))
    (seen
      : (Config.init start).Admitted (SnapshotCall.body sha256Text localeLe) SeenThrough schedule)
    : SnapshotsAreReal sha256Text localeLe start schedule := by
  intro t args now frozen asked answered
  obtain ⟨instants, ordered, each, answers⟩ := instants_of_answer asked answered
  obtain ⟨_, states, rest, whole, freezing, done⟩ := of_bind_ok answers
  obtain ⟨rfl, same⟩ := of_done done
  cases Sum.inr.inj same
  rw [append_nil] at whole
  obtain ⟨wsId, early, between, inserting, late, tips, again, rfl, froze⟩ := froze_of_answers freezing
  obtain ⟨first, rest, rfl, earlyStates, tail⟩ := map_eq_append_iff.mp whole
  obtain ⟨second, rest, rfl, _, tail⟩ := map_eq_append_iff.mp tail
  obtain ⟨middle, third, rfl, at_insert, lateStates⟩ := map_eq_cons_iff.mp tail
  cases listing : args.listedPaths with
  | none =>
    obtain ⟨state, given, one, valid, selected⟩ :=
      selectedIn_of_listing froze.workspace listing froze.first
    subst one
    obtain ⟨instant, none, rfl, here, _⟩ := map_eq_cons_iff.mp earlyStates
    obtain ⟨step, running⟩ := each instant (mem_append_left _ (.head _))
    have exactly :=
      exact_of_admitted (seen.at_step step) running.1 listing froze.workspace valid
    refine ⟨instant, (prefix_append _ _).trans step, running, ?_⟩
    rw [vectorIn, show (snapshotRun _ _ _ _).state = state from here,
      selected (here ▸ exactly), froze.vector]
    rfl
  | some paths =>
    obtain ⟨step, running⟩ :=
      each middle (mem_append_right _ (mem_append_right _ (.head _)))
    have selects : selectTipsForSnapshot wsId args = selectPaths wsId paths := by
      rw [selectTipsForSnapshot, listing]
    have reading := readTips_of_answers (selects ▸ froze.first)
    have rereading := readTips_of_answers (selects ▸ froze.last)
    have held (entry : TipEntry) (member : entry ∈ tips.map TipRow.entry)
        : (snapshotRun sha256Text localeLe start middle).state.drafts.entryAt (wsId, entry.path)
          = some entry := by
      obtain ⟨rawPath, listed, valid⟩ := reading.mem_keys member
      have watched := mem_keys froze.workspace listing listed valid
      obtain ⟨before, present, had⟩ := reading.exists_state member
      obtain ⟨after, present', has⟩ := rereading.exists_state (froze.same.mem_iff.mp member)
      rw [← earlyStates] at present
      rw [← lateStates] at present'
      obtain ⟨a, inFirst, rfl⟩ := mem_map.mp present
      obtain ⟨c, inThird, rfl⟩ := mem_map.mp present'
      have parts := pairwise_append.mp ordered
      have tail := (pairwise_append.mp parts.2.1).2.1
      have le := parts.2.2 a inFirst middle (mem_append_right _ (.head _))
      have le' := (pairwise_cons.mp tail).1 c inThird
      obtain ⟨_, runs⟩ := each a (mem_append_left _ inFirst)
      obtain ⟨stepLate, runsLate⟩ :=
        each c (mem_append_right _ (mem_append_right _ (.tail _ inThird)))
      exact entry_between seen le le' ((prefix_append _ _).trans stepLate) runs.1 runsLate.2
        watched had has
    obtain ⟨current, selected, equal⟩ := reading.at_once held
    refine ⟨middle, (prefix_append _ _).trans step, running, ?_⟩
    rw [vectorIn, selectedIn_of_paths froze.workspace listing, selected, froze.vector,
      ← equal]
    rfl

end Runs

namespace Sample

def createdQ : Text :=
  hex 64 0xad52ca74e8d6c3eeb56546edc871e375cfba642e23a23b58f0a3fe8a2d7b7815

def createdUpperA : Text :=
  hex 64 0x8faabd817c22b27404e1670690bb5a789976a0f2b47fb9fb5a840385d4120164

def hashOfEmpty : Text :=
  hex 64 0xe3b0c44298fc1c149afbf4c8996fb92427ae41e4649b934ca495991b7852b855

def entryP : TipEntry :=
  ⟨text "p", createdP, hashOfA⟩

def entryQ : TipEntry :=
  ⟨text "q", createdQ, hashOfB⟩

def entryUpperA : TipEntry :=
  ⟨text "A/x", createdUpperA, hashOfA⟩

def vectorOf (entries : List TipEntry) : Text :=
  stableJson (tipVectorDigestPayload (text "ws:w") entries)

def identityOf (digest : Text) : Text :=
  stableJson (snapshotIdentity (text "ws:w") digest)

def digestPQ : Text :=
  hex 64 0x31c9b7b07d1f06f51532ca8121404958a2bda791eb7f4b93e20e175814518529

def digestP : Text :=
  hex 64 0xff67039935736e982958ea86571f5cb28ba80b4fe3943163986f54dbde362629

def digestUpperA : Text :=
  hex 64 0xe7d2d71118346a412ab2aa84f408c2129dbde71febaa5f8b6412cd39d0d8fc74

/-- Digests of the texts that the runs below hash. -/
def snapshotSha256 : Text → Text :=
  tabled
    [(text "a", hashOfA), (text "b", hashOfB), ([], hashOfEmpty),
      (envelope "p" none hashOfA, createdP), (envelope "q" none hashOfB, createdQ),
      (envelope "A/x" none hashOfA, createdUpperA),
      (envelope "p" (some createdP) hashOfEmpty,
        hex 64 0xb02f6baa9d02e2b289287f3296c252dd0097cdb3d662ba8afdd7d1108a96f4a1),
      (envelope "q" (some createdQ) hashOfEmpty,
        hex 64 0xe2081b5dac97a70659b6814807f3db75105f429f9ab44ef7a27a2e7a99bdfcc9),
      (vectorOf [entryP, entryQ], digestPQ), (vectorOf [entryP], digestP),
      (vectorOf [entryUpperA], digestUpperA),
      (identityOf digestPQ,
        hex 64 0x067f3369629d4c3f5b72ada92a7288859870cc2fd9e3b074f1f4c6c9bd1051cb),
      (identityOf digestP,
        hex 64 0x5ee8abae8a012ee1957be7f8d23fa5dd799c2feaa42bfd9385a86a5f0cf0e3b8),
      (identityOf digestUpperA,
        hex 64 0x544dd733e0fbf322497b707c7101b10adfac6688467052be47d49ba6f66cc6c1)]

def snapshotStart : SnapshotWorld where
  drafts := World.initial [(text "ws:w", 0)]
  snapshots := []

abbrev SnapshotSchedule :=
  List (Action snapshotPlane SnapshotCall)

/-- A whole draft operation, as the thread `t`. -/
def whole (call : Call) (t : Nat) : SnapshotSchedule :=
  .spawn (.draft call) :: List.replicate 5 (.step t)

def delete (path : String) (base : Text) : Call :=
  .deleteDraft
    { workspaceId := .string (text "ws:w"), path := .string (text path)
      baseRevision := .string base, actorId := .string (text "user:a") } 0

/-- `p` goes and `q` comes, as the threads `t` and `t + 1`. -/
def toQ (t : Nat) : SnapshotSchedule :=
  whole (delete "p" createdP) t ++ whole (create "q" "b") (t + 1)

/-- `q` goes and `p` comes back. -/
def toP (t : Nat) : SnapshotSchedule :=
  whole (delete "q" createdQ) t ++ whole (create "p" "a") (t + 1)

/-- The args of `user:a` who selects paths. -/
def somePaths (paths : List String) : FreezeArgs where
  workspaceId := .string (text "ws:w")
  createdBy := .string (text "user:a")
  paths := .array (paths.map (fun path => some (.string (text path))))
  pathPrefix := .null

/-- The args of `user:a` who selects a prefix. -/
def somePrefix (pathPrefix : String) : FreezeArgs where
  workspaceId := .string (text "ws:w")
  createdBy := .string (text "user:a")
  paths := .null
  pathPrefix := .string (text pathPrefix)

/-- A snapshot of `p` and `q` that always reads the one that is there. -/
def alternating : SnapshotSchedule :=
  whole (create "p" "a") 0 ++ [.spawn (.freeze (somePaths ["p", "q"]) 0), .step 1]
    ++ toQ 2 ++ [.step 1] ++ toP 4 ++ [.step 1]
    ++ toQ 6 ++ [.step 1, .step 1] ++ toP 8 ++ [.step 1]
    ++ toQ 10 ++ [.step 1]

/-- A snapshot of everything under `a`, where there is only `A/x`. -/
def otherCase : SnapshotSchedule :=
  whole (create "A/x" "a") 0 ++ .spawn (.freeze (somePrefix "a") 0) :: List.replicate 4 (.step 1)

end Sample

def frozenVector (run : SnapshotConfig) (t : Nat) : Option (List TipEntry) :=
  match run.answer t with
  | some (.ok (.inr frozen)) => some frozen.tipVector
  | _ => none

theorem not_real_of_vector {sha256Text : Text → Text} {localeLe : Text → Text → Bool}
    {start : SnapshotWorld} {schedule : List (Action snapshotPlane SnapshotCall)} {t : Nat}
    {now : Int} {vector : List TipEntry}
    (asked
      : (snapshotRun sha256Text localeLe start schedule).call t = some (.freeze args now))
    (found : frozenVector (snapshotRun sha256Text localeLe start schedule) t = some vector)
    (never
      : (Config.init start).Throughout (SnapshotCall.body sha256Text localeLe)
          (fun config => args.vectorIn localeLe config.state.drafts ≠ some vector) schedule)
    : ¬ SnapshotsAreReal sha256Text localeLe start schedule := by
  intro real
  unfold frozenVector at found
  split at found
  · rename_i frozen said
    obtain ⟨when, le, _, was⟩ := real t args now frozen asked said
    exact never.at_instant le (was.trans found)
  · cases found

theorem snapshotsAreReal_beside
    : SnapshotsAreReal Sample.snapshotSha256 binaryLe Sample.snapshotStart
        (Sample.whole (Sample.create "p" "a") 0
          ++ [.spawn (.freeze (Sample.somePaths ["p"]) 0), .step 1, .step 1]
          ++ Sample.whole (Sample.create "q" "b") 2 ++ [.step 1, .step 1]) :=
  snapshotsAreReal_of_seenThrough _ _ _ _ (by decide +kernel)

/-- A snapshot of two paths can be frozen though they never were there together, each having come back
with its first revision for every reading; and a snapshot of the prefix `a` can hold `A/x`.
-/
theorem frozenWithoutInstant
    : ¬ SnapshotsAreReal Sample.snapshotSha256 binaryLe Sample.snapshotStart Sample.alternating
      ∧ ¬ SnapshotsAreReal Sample.snapshotSha256 binaryLe Sample.snapshotStart Sample.otherCase := by
  constructor
  · have vector
        : frozenVector
            (snapshotRun snapshotSha256 binaryLe snapshotStart alternating) 1
          = some [entryP, entryQ] := by
      decide +kernel
    exact not_real_of_vector (call_run ..) vector (by decide +kernel)
  · have vector
        : frozenVector
            (snapshotRun snapshotSha256 binaryLe snapshotStart otherCase) 1
          = some [entryUpperA] := by
      decide +kernel
    exact not_real_of_vector (call_run ..) vector (by decide +kernel)

end CairnStone.Workspace
