import CairnStone.CodeSession.Resume
import CairnStone.JavaScript.RecordLists

/-! A session whose creator supplied no checkpoint is told the truth about what has changed, as long as no more paths
have changed than are listed.
-/

namespace CairnStone.CodeSession

open JavaScript Data Concurrency List Option Prod Sample
open TaskRuns (Refusal nonEmptyString)
open Workspace (TipEntry buildTipVector computeTipVectorDigest tipVectorDigestPayload)

variable {tips : List TipEntry}

structure Apart (tips : List TipEntry) : Prop where
  keyed : Keyed TipEntry.path tips
  revisions : ∀ tip ∈ tips, (0 : CodeUnit) ∉ tip.revisionId

structure Listing (tips : List TipEntry) : Prop extends Apart tips where
  sorted : tips.Pairwise (fun a b => binaryLe a.path b.path)

theorem Listing.eq_of_mem_iff {tips' : List TipEntry} (listing : Listing tips)
    (listing' : Listing tips') (same : ∀ tip, tip ∈ tips ↔ tip ∈ tips')
    : tips = tips' := by
  have perm : tips.Perm tips' :=
    (perm_ext_iff_of_nodup listing.keyed.of_map listing'.keyed.of_map).mpr same
  refine perm.eq_of_pairwise (fun a b mem mem' first second => ?_) listing.sorted
    listing'.sorted
  have path : a.path = b.path := eq_of_binaryLe first second
  exact listing.keyed.eq_of_key mem ((same b).mpr mem') path

theorem firstOccurrences_of_keyed {α κ : Type} [DecidableEq κ] {key : α → κ} {seen : List κ}
    {items : List α} (keyed : Keyed key items) (unseen : ∀ item ∈ items, key item ∉ seen)
    : firstOccurrences key seen items = items := by
  induction items generalizing seen with
  | nil => rfl
  | cons item rest ih =>
    obtain ⟨fresh, restKeyed⟩ := nodup_cons.mp keyed
    rw [firstOccurrences, if_neg (unseen item mem_cons_self), ih restKeyed]
    intro later mem seen'
    rcases mem_cons.mp seen' with same | old
    · exact fresh (same ▸ List.mem_map_of_mem mem)
    · exact unseen later (.tail _ mem) old

theorem mapByPath_of_keyed (keyed : Keyed TipEntry.path tips)
    : mapByPath tips = tips := by
  rw [mapByPath, firstOccurrences_of_keyed keyed (fun _ _ => not_mem_nil)]
  refine (filterMap_congr (fun tip mem => ?_)).trans filterMap_some
  have keyed' : Keyed TipEntry.path tips.reverse := by
    rw [Keyed, map_reverse]
    exact nodup_reverse.mpr keyed
  exact keyed'.find_eq (mem_reverse.mpr mem)

/-- Revisions hold no NUL, so the parts of a key can be told apart. -/
theorem tipEntryKey_eq_iff {a b : TipEntry} (path : a.path = b.path) (plain : 0 ∉ a.revisionId)
    (plain' : 0 ∉ b.revisionId)
    : tipEntryKey a = tipEntryKey b
      ↔ (a.revisionId, a.contentHash) = (b.revisionId, b.contentHash) := by
  unfold tipEntryKey
  rw [path, append_right_inj, cons_inj_right, mk.injEq]
  constructor
  · exact append_mark_inj plain plain'
  · rintro ⟨revision, content⟩
    rw [revision, content]

variable {previous current : List TipEntry}

theorem tip_of_changeOf {tip : TipEntry} {change : PathChange}
    (changed : changeOf previous tip = some change)
    : change.tip = tip := by
  unfold changeOf at changed
  split at changed
  · cases changed
    rfl
  · split at changed
    · cases changed
    · cases changed
      rfl

/-- A current tip has changed if the earlier vector has something else at its path. -/
theorem isSome_changeOf_iff (listing : Apart previous) {tip : TipEntry}
    (plain : 0 ∉ tip.revisionId)
    : (changeOf previous tip).isSome = true
      ↔ versionAt previous tip.path ≠ some (tip.revisionId, tip.contentHash) := by
  unfold changeOf versionAt
  cases found : previous.find? (·.path == tip.path) with
  | none => simp
  | some prior =>
    obtain ⟨mem, path⟩ := mem_of_find found
    have keys := tipEntryKey_eq_iff path (listing.revisions prior mem) plain
    simp only [map_some, ne_eq, Option.some.injEq, ← keys]
    split
    case isTrue same => simp [same]
    case isFalse other => simp [other]

theorem mem_tipChanges (listing : Apart previous) (listing' : Apart current) (path : Text)
    : path ∈ (tipChanges previous current).map (·.tip.path)
      ↔ versionAt previous path ≠ versionAt current path := by
  unfold tipChanges
  rw [mapByPath_of_keyed listing.keyed, mapByPath_of_keyed listing'.keyed, map_append,
    mem_append, List.map_map]
  cases here : current.find? (·.path == path) with
  | none =>
    have absent : ∀ tip ∈ current, tip.path ≠ path := by simpa using here
    have version : versionAt current path = none := by rw [versionAt, here, map_none]
    rw [version]
    constructor
    · intro listed
      rcases listed with listed | listed
      · obtain ⟨change, changed, rfl⟩ := List.mem_map.mp listed
        obtain ⟨tip, mem, changed⟩ := mem_filterMap.mp changed
        rw [tip_of_changeOf changed] at absent
        exact absurd rfl (absent tip mem)
      · obtain ⟨tip, kept, rfl⟩ := List.mem_map.mp listed
        have mem := (mem_filter.mp kept).1
        have found : previous.find? (·.path == tip.path) = some tip := listing.keyed.find_eq mem
        rw [versionAt]
        change Option.map _ (previous.find? (·.path == tip.path)) ≠ none
        rw [found]
        exact some_ne_none _
    · intro differs
      cases found : previous.find? (·.path == path) with
      | none =>
        rw [versionAt, found] at differs
        exact absurd rfl differs
      | some tip =>
        obtain ⟨mem, rfl⟩ := mem_of_find found
        refine .inr (List.mem_map.mpr ⟨tip, mem_filter.mpr ⟨mem, ?_⟩, rfl⟩)
        rw [Bool.not_eq_true', List.any_eq_false]
        intro other listed
        exact fun same => absent other listed (beq_iff_eq.mp same)
  | some tip =>
    obtain ⟨mem, rfl⟩ := mem_of_find here
    have version : versionAt current tip.path = some (tip.revisionId, tip.contentHash) := by
      rw [versionAt, here, map_some]
    have edits := isSome_changeOf_iff listing (listing'.revisions tip mem)
    rw [version, ← edits]
    constructor
    · intro listed
      rcases listed with listed | listed
      · obtain ⟨change, changed, same⟩ := List.mem_map.mp listed
        obtain ⟨other, otherMember, changed⟩ := mem_filterMap.mp changed
        rw [tip_of_changeOf changed] at same
        cases listing'.keyed.eq_of_key otherMember mem same
        rw [changed]
        rfl
      · obtain ⟨other, kept, same⟩ := List.mem_map.mp listed
        have gone := (mem_filter.mp kept).2
        rw [Bool.not_eq_true', List.any_eq_false] at gone
        exact absurd (beq_iff_eq.mpr same.symm) (gone tip mem)
    · intro changed
      obtain ⟨change, changed⟩ := isSome_iff_exists.mp changed
      refine .inl (List.mem_map.mpr ⟨change, mem_filterMap.mpr ⟨tip, mem, changed⟩, ?_⟩)
      rw [tip_of_changeOf changed]

theorem nodup_tipChanges (listing : Apart previous) (listing' : Apart current)
    : ((tipChanges previous current).map (·.tip.path)).Nodup := by
  unfold tipChanges
  rw [mapByPath_of_keyed listing.keyed, mapByPath_of_keyed listing'.keyed, map_append,
    map_filterMap, List.map_map]
  have shown (tip : TipEntry) (path : Text)
      (changed : (changeOf previous tip).map (·.tip.path) = some path)
      : path = tip.path := by
    obtain ⟨change, found, rfl⟩ := map_eq_some_iff.mp changed
    rw [tip_of_changeOf found]
  have sublist := filterMap_sublist_map shown current
  refine nodup_append.mpr
    ⟨sublist.nodup listing'.keyed, (filter_sublist.map _).nodup listing.keyed, ?_⟩
  intro path first other second same
  obtain ⟨tip, mem, rfl⟩ := List.mem_map.mp (sublist.subset first)
  obtain ⟨gone, kept, rfl⟩ := List.mem_map.mp second
  have absent := (mem_filter.mp kept).2
  rw [Bool.not_eq_true', List.any_eq_false] at absent
  exact absent tip mem (beq_iff_eq.mpr same)

variable {sha256Text : Text → Digest} {localeLe : Text → Text → Bool}

theorem eq_of_versionAt (listing : Listing previous) (listing' : Listing current)
    (same : ∀ path, versionAt previous path = versionAt current path)
    : previous = current := by
  have within {tips tips' : List TipEntry} (listing : Listing tips)
      (same : ∀ path, versionAt tips path = versionAt tips' path) (tip : TipEntry)
      (mem : tip ∈ tips)
      : tip ∈ tips' := by
    have version := same tip.path
    have found : tips.find? (·.path == tip.path) = some tip := listing.keyed.find_eq mem
    rw [versionAt, found, map_some] at version
    obtain ⟨other, there, equal⟩ := map_eq_some_iff.mp version.symm
    obtain ⟨mem', path⟩ := mem_of_find there
    obtain ⟨revision, content⟩ := mk.inj equal
    have whole : other = tip := by
      cases other
      cases tip
      simp_all
    exact whole ▸ mem'
  exact listing.eq_of_mem_iff listing'
    (fun tip => ⟨within listing same tip, within listing' (fun path => (same path).symm) tip⟩)

theorem versionAt_buildTipVector (listing : Listing current) (path : Text)
    : versionAt (buildTipVector localeLe current) path = versionAt current path := by
  have perm : current.Perm (buildTipVector localeLe current) :=
    (Workspace.buildTipVector_perm current).symm
  exact congrArg _ (listing.keyed.find_perm perm path).symm

def vectorText (workspaceId : Text) (tips : List TipEntry) : Text :=
  stableJson (tipVectorDigestPayload workspaceId tips)

def tipMembers (entry : TipEntry) : List (Text × Option Text) :=
  [(text "content_hash", some entry.contentHash), (text "path", some entry.path),
    (text "revision_id", some entry.revisionId)]

theorem stableJson_toValue (entry : TipEntry)
    : stableJson entry.toValue = stableRecord (tipMembers entry) := by
  have after : ¬(text "path" : Text) ≤ text "content_hash" := by decide
  have last : ¬(text "revision_id" : Text) ≤ text "content_hash" := by decide
  have before : (text "path" : Text) ≤ text "revision_id" := by decide
  simp [TipEntry.toValue, stableJson, stableMembers, List.insertionSort, after, last, before,
    joinWithComma, tipMembers, stableRecord, flatMembers, quoteOrNull]

theorem tipMembers_inj {a b : TipEntry} (same : tipMembers a = tipMembers b) : a = b := by
  cases a
  cases b
  simp [tipMembers] at same
  rw [TipEntry.mk.injEq]
  exact ⟨same.2.1, same.2.2, same.1⟩

theorem stableSlots_toValue (tips : List TipEntry)
    : stableSlots (tips.map (fun entry => some entry.toValue))
      = (tips.map tipMembers).map stableRecord := by
  induction tips with
  | nil => rfl
  | cons entry rest ih =>
    rw [map_cons, map_cons, map_cons, ← ih, ← stableJson_toValue]
    rfl

theorem vectorText_eq (workspaceId : Text) (tips : List TipEntry)
    : vectorText workspaceId tips
      = 0x7B :: (quote (text "schema") ++ 0x3A :: (quote Workspace.WORKSPACE_TIP_VECTOR_SCHEMA
          ++ 0x2C :: (quote (text "tips") ++ 0x3A :: 0x5B
            :: (joinWithComma ((tips.map tipMembers).map stableRecord)
              ++ 0x5D :: 0x2C :: (quote (text "workspace_id") ++ 0x3A
                :: (quote workspaceId ++ [0x7D])))))) := by
  have first : (text "schema" : Text) ≤ text "tips" := by decide
  have second : ¬(text "workspace_id" : Text) ≤ text "tips" := by decide
  simp [vectorText, tipVectorDigestPayload, stableJson, stableMembers, List.insertionSort, first,
    second, joinWithComma, stableSlots_toValue]

theorem wellFormed_vectorText (workspaceId : Text) (tips : List TipEntry)
    : WellFormed (vectorText workspaceId tips) := by
  unfold WellFormed
  rw [vectorText_eq]
  simp (disch := decide) only [toWellFormed_cons, toWellFormed_quote_append,
    toWellFormed_joinedRecords]
  rfl

theorem vectorText_inj {workspaceId : Text} {tips' : List TipEntry}
    (same : vectorText workspaceId tips = vectorText workspaceId tips')
    : tips = tips' := by
  rw [vectorText_eq, vectorText_eq] at same
  have keyed (tips : List TipEntry)
      : ∀ members ∈ tips.map tipMembers,
          members.map (·.1) = [text "content_hash", text "path", text "revision_id"] := by
    intro members listed
    obtain ⟨entry, -, rfl⟩ := List.mem_map.mp listed
    rfl
  have schema := append_cancel_left (cons.inj same).2
  have marked := append_cancel_left (cons.inj schema).2
  have named := append_cancel_left (cons.inj marked).2
  have inner := (cons.inj (cons.inj named).2).2
  exact map_injective_iff.mpr (fun _ _ same => tipMembers_inj same)
    (joinedRecords_inj (keyed _) (keyed _) inner).1

theorem Listing.buildTipVector (listing : Listing current) : Apart (buildTipVector localeLe current) := by
  have perm : (Workspace.buildTipVector localeLe current).Perm current :=
    Workspace.buildTipVector_perm current
  refine ⟨(perm.map _).nodup_iff.mpr listing.keyed, fun tip mem => ?_⟩
  exact listing.revisions tip (perm.mem_iff.mp mem)

theorem take_lists_iff {α : Type} {key : α → Text} {whole : List α} {listed : List Text}
    {P : Text → Prop} {n : Nat} (nodup : (whole.map key).Nodup)
    (lists : ∀ path, path ∈ whole.map key ↔ P path) (nodup' : listed.Nodup)
    (lists' : ∀ path, path ∈ listed ↔ P path)
    : (∀ path, path ∈ (whole.take n).map key ↔ P path) ↔ listed.length ≤ n := by
  have perm : (whole.map key).Perm listed :=
    (perm_ext_iff_of_nodup nodup nodup').mpr (fun path => (lists path).trans (lists' path).symm)
  have size : listed.length = whole.length := by rw [← perm.length_eq, length_map]
  rw [size]
  constructor
  · intro all
    have subset : whole.map key ⊆ (whole.take n).map key :=
      fun path mem => (all path).mpr ((lists path).mp mem)
    have bound := (subperm_of_subset nodup subset).length_le
    rw [length_map, length_map, length_take] at bound
    omega
  · intro small
    rw [take_of_length_le small]
    exact lists

theorem mem_differingPaths (path : Text)
    : path ∈ differingPaths previous current
      ↔ versionAt previous path ≠ versionAt current path := by
  unfold differingPaths
  rw [mem_filter, mem_dedup, bne_iff_ne, and_iff_right_iff_imp]
  intro differs
  by_contra absent
  have unlisted (tips : List TipEntry) (within : tips ⊆ previous ++ current)
      : versionAt tips path = none := by
    rw [versionAt, map_eq_none_iff, find?_eq_none]
    intro tip mem same
    exact absent (List.mem_map.mpr ⟨tip, within mem, beq_iff_eq.mp same⟩)
  rw [unlisted previous (subset_append_left _ _),
    unlisted current (subset_append_right _ _)] at differs
  exact differs rfl

theorem diffTipVectors_iff {listed : List TipEntry} (before : Apart previous) (after : Apart current)
    (same : ∀ path, versionAt current path = versionAt listed path)
    : (∀ path,
        path ∈ (diffTipVectors localeLe previous current).map (·.tip.path)
          ↔ versionAt previous path ≠ versionAt listed path)
      ↔ (differingPaths previous listed).length ≤ MAX_CHANGED_PATHS := by
  let order (a b : PathChange) : Prop := localeLe a.tip.path b.tip.path = true
  have sorted : ((tipChanges previous current).insertionSort order).Perm (tipChanges previous current) :=
    perm_insertionSort order _
  have paths := sorted.map (·.tip.path)
  have nodup : (differingPaths previous listed).Nodup := (nodup_dedup _).filter _
  refine take_lists_iff (paths.nodup_iff.mpr (nodup_tipChanges before after)) (fun path => ?_) nodup
    mem_differingPaths
  rw [paths.mem_iff, mem_tipChanges before after, same]

/-- Where no change is listed, nothing has changed. -/
theorem diffTipVectors_eq_nil (before : Apart previous) (after : Apart current)
    (empty : diffTipVectors localeLe previous current = []) (path : Text)
    : versionAt previous path = versionAt current path := by
  let order (a b : PathChange) : Prop := localeLe a.tip.path b.tip.path = true
  have sorted : ((tipChanges previous current).insertionSort order).Perm (tipChanges previous current) :=
    perm_insertionSort order _
  have none : tipChanges previous current = [] := by
    rcases take_eq_nil_iff.mp empty with never | nothing
    · cases never
    · exact (nothing ▸ sorted).nil_eq.symm
  by_contra differs
  have listed := (mem_tipChanges before after path).mpr differs
  rw [none] at listed
  exact not_mem_nil listed

section Runs

variable (sha256Text localeLe)
  {checkpoints : List CheckpointRow} {session fresh : SessionRow} {now : Text}

structure Taken (row : CheckpointRow) : Prop where
  vector : ∃ tips, Listing tips ∧ row.tipVector = buildTipVector localeLe tips
  digest : row.tipVectorDigest = vectorDigest sha256Text row.workspaceId row.tipVector
  id : ∃ digest : Digest, row.checkpointId = text "cp:" ++ digest.text

def Points (checkpoints : List CheckpointRow) (session : SessionRow) : Prop :=
  (session.latestCheckpointId = none ∧ session.checkpointTipVectorDigest = none)
  ∨ ∃ row ∈ checkpoints,
      session.latestCheckpointId = some row.checkpointId ∧ row.codeSessionId = session.codeSessionId
      ∧ row.workspaceId = session.workspaceId
      ∧ session.checkpointTipVectorDigest = some row.tipVectorDigest

structure Consistent (db : Database) : Prop where
  sorted : db.tips.Pairwise (fun a b => binaryLe a.2.path b.2.path)
  keyed : Keyed (fun tip => (tip.1, tip.2.path)) db.tips
  revisions : ∀ tip ∈ db.tips, (0 : CodeUnit) ∉ tip.2.revisionId
  sessions : Keyed SessionRow.codeSessionId db.sessions
  checkpoints : Keyed CheckpointRow.checkpointId db.checkpoints
  taken : ∀ row ∈ db.checkpoints, Taken sha256Text localeLe row
  points : ∀ session ∈ db.sessions, Points db.checkpoints session
  pointed
    : ∀ row ∈ db.checkpoints, ∃ session ∈ db.sessions,
        session.codeSessionId = row.codeSessionId ∧ session.latestCheckpointId ≠ none

/-- A session is created without copies of a checkpoint. -/
def Step.suppliesNothing : Step → Bool
  | .create _ latestCheckpointId checkpointTipVectorDigest =>
    (nonEmptyString latestCheckpointId).isNone && (nonEmptyString checkpointTipVectorDigest).isNone
  | _ => true

variable {sha256Text localeLe}

theorem Consistent.listing {db : Database} (consistent : Consistent sha256Text localeLe db)
    (workspaceId : Text)
    : Listing (tipsOf db workspaceId) := by
  have own : ∀ tip ∈ db.tips.filter (·.1 == workspaceId), tip ∈ db.tips ∧ tip.1 = workspaceId :=
    fun tip mem => ⟨(mem_filter.mp mem).1, beq_iff_eq.mp (mem_filter.mp mem).2⟩
  refine ⟨⟨?_, fun entry mem => ?_⟩, ?_⟩
  · have keyed := (filter_sublist (p := (·.1 == workspaceId)).map _).nodup consistent.keyed
    unfold Keyed tipsOf
    rw [List.map_map]
    refine List.Nodup.of_map (fun path => (workspaceId, path)) ?_
    rw [List.map_map]
    refine (map_congr_left (fun tip mem => ?_)) ▸ keyed
    exact congrArg (·, tip.2.path) (own tip mem).2
  · obtain ⟨tip, listed, rfl⟩ := List.mem_map.mp mem
    exact consistent.revisions tip (own tip listed).1
  · exact pairwise_map.mpr (consistent.sorted.sublist filter_sublist)

variable {db after : Database}

theorem consistent_initial : Consistent sha256Text localeLe (.initial [] []) where
  sorted := .nil
  keyed := nodup_nil
  revisions := forall_mem_nil _
  sessions := nodup_nil
  checkpoints := nodup_nil
  taken := forall_mem_nil _
  points := forall_mem_nil _
  pointed := forall_mem_nil _

theorem Consistent.of_sessions (consistent : Consistent sha256Text localeLe db)
    (tips : after.tips = db.tips) (checkpoints : after.checkpoints = db.checkpoints)
    (keyed : Keyed SessionRow.codeSessionId after.sessions)
    (points : ∀ session ∈ after.sessions, Points db.checkpoints session)
    (pointed
      : ∀ session ∈ db.sessions, session.latestCheckpointId ≠ none
        → ∃ later ∈ after.sessions,
            later.codeSessionId = session.codeSessionId ∧ later.latestCheckpointId ≠ none)
    : Consistent sha256Text localeLe after where
  sorted := tips ▸ consistent.sorted
  keyed := tips ▸ consistent.keyed
  revisions := tips ▸ consistent.revisions
  sessions := keyed
  checkpoints := checkpoints ▸ consistent.checkpoints
  taken := checkpoints ▸ consistent.taken
  points := checkpoints ▸ points
  pointed := by
    intro row mem
    rw [checkpoints] at mem
    obtain ⟨session, present, named, set⟩ := consistent.pointed row mem
    obtain ⟨later, there, same, set⟩ := pointed session present set
    exact ⟨later, there, same.trans named, set⟩

theorem mem_addNew {α κ : Type} [BEq κ] {key : α → κ} {rows : List α} {row a : α}
    (mem : a ∈ rows)
    : a ∈ addNew key rows row := by
  unfold addNew
  split
  · exact mem
  · exact mem_append_left _ mem

theorem Consistent.create (consistent : Consistent sha256Text localeLe db) {row : SessionRow}
    (unpointed : row.latestCheckpointId = none ∧ row.checkpointTipVectorDigest = none)
    : Consistent sha256Text localeLe
        { db with sessions := addNew SessionRow.codeSessionId db.sessions row } := by
  refine consistent.of_sessions rfl rfl (consistent.sessions.addNew row) ?_ ?_
  · intro session mem
    rcases mem_of_mem_addNew mem with old | new
    · exact consistent.points session old
    · subst new
      exact .inl unpointed
  · exact fun session mem set => ⟨session, mem_addNew mem, rfl, set⟩

structure SamePointer (old new : SessionRow) : Prop where
  id : new.codeSessionId = old.codeSessionId
  workspace : new.workspaceId = old.workspaceId
  latest : new.latestCheckpointId = old.latestCheckpointId
  digest : new.checkpointTipVectorDigest = old.checkpointTipVectorDigest

theorem Points.of_same {old new : SessionRow} (points : Points checkpoints old)
    (same : SamePointer old new)
    : Points checkpoints new := by
  unfold Points
  rw [same.latest, same.digest, same.id, same.workspace]
  exact points

theorem Points.grow (row : CheckpointRow) (points : Points checkpoints session)
    : Points (checkpoints ++ [row]) session := by
  refine points.imp_right (fun pointed => ?_)
  obtain ⟨old, mem, pointed⟩ := pointed
  exact ⟨old, mem_append_left _ mem, pointed⟩

theorem Consistent.updateWhere (consistent : Consistent sha256Text localeLe db)
    {p : SessionRow → Bool} {f : SessionRow → SessionRow} (same : ∀ row, SamePointer row (f row))
    : Consistent sha256Text localeLe { db with sessions := updateWhere p f db.sessions } := by
  have either (row : SessionRow) : SamePointer row (if p row then f row else row) := by
    split
    · exact same row
    · exact ⟨rfl, rfl, rfl, rfl⟩
  refine consistent.of_sessions rfl rfl (consistent.sessions.updateWhere (fun row _ => (same row).id))
    ?_ ?_
  · intro session mem
    obtain ⟨old, present, rfl⟩ := mem_updateWhere.mp mem
    exact (consistent.points old present).of_same (either old)
  · intro session mem set
    exact ⟨_, mem_updateWhere.mpr ⟨session, mem, rfl⟩, (either session).id,
      (either session).latest ▸ set⟩

theorem Consistent.observeTips (consistent : Consistent sha256Text localeLe db)
    (session : SessionRow) (tips : List TipEntry × Text) (now : Text)
    : Consistent sha256Text localeLe (CodeSession.observeTips db session tips now) := by
  unfold CodeSession.observeTips
  split
  · exact consistent
  · exact consistent.updateWhere (fun row => ⟨rfl, rfl, rfl, rfl⟩)

theorem observeTips_reads {tips : List TipEntry × Text} {id : Text}
    (found : findSession db.sessions id = some session)
    (reads : findSession (observeTips db session tips now).sessions id = some fresh)
    : SamePointer session fresh
      ∧ (observeTips db session tips now).checkpoints = db.checkpoints := by
  unfold observeTips at reads ⊢
  split at reads
  · rw [if_pos ‹_›]
    cases (found.symm.trans reads)
    exact ⟨⟨rfl, rfl, rfl, rfl⟩, rfl⟩
  · rw [if_neg ‹_›]
    refine ⟨?_, rfl⟩
    let hit := matchesRevision session.codeSessionId session.sessionRevision
    let f (row : SessionRow) : SessionRow :=
      { row with
        tipVector := tipVectorValue tips.1
        tipVectorDigest := some tips.2
        updatedAt := now }
    have kept (row : SessionRow) : (f row).codeSessionId = row.codeSessionId := rfl
    have image
        : findSession (updateWhere hit f db.sessions) id
          = (findSession db.sessions id).map (fun row => if hit row then f row else row) :=
      find_updateWhere kept id
    have same := image.symm.trans reads
    rw [found, map_some] at same
    cases same
    split
    · exact ⟨rfl, rfl, rfl, rfl⟩
    · exact ⟨rfl, rfl, rfl, rfl⟩

theorem Consistent.compile (consistent : Consistent sha256Text localeLe db) (codeSessionId : Value)
    (now : Text)
    : Consistent sha256Text localeLe
        (compileCodeSessionContext localeLe sha256Text db codeSessionId now).2 := by
  have observed := consistent.observeTips
  unfold compileCodeSessionContext
  split
  · exact consistent
  · split
    · exact consistent
    · split
      · dsimp only
        split
        · exact observed _ _ _
        · split
          · exact observed _ _ _
          · exact observed _ _ _
      · exact consistent

/-- A checkpoint that was taken is the one that its session points to. Witness: the swap changes the session that was
read, and no other one.
-/
theorem Consistent.takes (consistent : Consistent sha256Text localeLe db) {row : CheckpointRow}
    (takes : Takes localeLe sha256Text db after session row)
    : Consistent sha256Text localeLe after := by
  obtain ⟨present, named⟩ := mem_of_find takes.found
  let hit := matchesRevision row.codeSessionId session.sessionRevision
  let f (old : SessionRow) : SessionRow :=
    { (checkpointChange localeLe row session).apply old with
      sessionRevision := session.sessionRevision + 1 }
  have rows : after.sessions = Data.updateWhere hit f db.sessions := takes.sessions
  have only (old : SessionRow) (mem : old ∈ db.sessions) (matches' : hit old = true)
      : old = session := by
    have here := (Bool.and_eq_true_iff.mp matches').1
    exact consistent.sessions.eq_of_key mem present ((beq_iff_eq.mp here).trans named.symm)
  have own : hit session = true := by
    simp only [hit, matchesRevision, named, beq_self_eq_true, Bool.and_self]
  have set (old : SessionRow) (there : old.latestCheckpointId ≠ none ∨ hit old = true)
      : (if hit old then f old else old).codeSessionId = old.codeSessionId
        ∧ (if hit old then f old else old).latestCheckpointId ≠ none := by
    split
    · exact ⟨rfl, some_ne_none _⟩
    case isFalse other => exact ⟨rfl, there.resolve_right other⟩
  refine ⟨takes.tips ▸ consistent.sorted, takes.tips ▸ consistent.keyed,
    takes.tips ▸ consistent.revisions, ?_, ?_, ?_, ?_, ?_⟩
  · exact rows ▸ consistent.sessions.updateWhere (fun old _ => rfl)
  · rw [takes.checkpoints]
    refine consistent.checkpoints.append_singleton (fun old mem same => ?_)
    exact find?_eq_none.mp takes.fresh old mem (beq_iff_eq.mpr same)
  · intro taken mem
    rw [takes.checkpoints] at mem
    rcases mem_append.mp mem with old | new
    · exact consistent.taken taken old
    · cases mem_singleton.mp new
      exact ⟨⟨_, consistent.listing _, takes.vector⟩, takes.digest, takes.id⟩
  · intro later mem
    rw [rows] at mem
    rw [takes.checkpoints]
    obtain ⟨old, was, rfl⟩ := mem_updateWhere.mp mem
    split
    case isTrue matches' =>
      cases only old was matches'
      exact .inr ⟨row, mem_append_right _ (.head _), rfl, named.symm,
        takes.workspace, rfl⟩
    · exact (consistent.points old was).grow row
  · intro taken mem
    rw [takes.checkpoints] at mem
    rw [rows]
    rcases mem_append.mp mem with old | new
    · obtain ⟨was, there, same, pointed⟩ := consistent.pointed taken old
      obtain ⟨kept, pointed⟩ := set was (.inl pointed)
      exact ⟨_, mem_updateWhere.mpr ⟨was, there, rfl⟩, kept.trans same, pointed⟩
    · cases mem_singleton.mp new
      obtain ⟨kept, pointed⟩ := set session (.inr own)
      exact ⟨_, mem_updateWhere.mpr ⟨session, present, rfl⟩, kept.trans named, pointed⟩

theorem Consistent.removeTip (consistent : Consistent sha256Text localeLe db)
    (workspaceId path : Text)
    : Consistent sha256Text localeLe
        { db with tips := withoutTip db.tips workspaceId path } where
  sorted := consistent.sorted.sublist filter_sublist
  keyed := (filter_sublist.map _).nodup consistent.keyed
  revisions := fun tip mem => consistent.revisions tip (mem_filter.mp mem).1
  sessions := consistent.sessions
  checkpoints := consistent.checkpoints
  taken := consistent.taken
  points := consistent.points
  pointed := consistent.pointed

theorem Consistent.writeTip (consistent : Consistent sha256Text localeLe db)
    (workspaceId path : Text) (revision : Digest) (contentHash : Text)
    : Consistent sha256Text localeLe
        { db with
          tips :=
            (withoutTip db.tips workspaceId path
                ++ [(workspaceId, TipEntry.mk path revision.text contentHash)]).insertionSort
              (fun a b => binaryLe a.2.path b.2.path) } := by
  have without := consistent.removeTip workspaceId path
  let order (a b : Text × TipEntry) : Prop := binaryLe a.2.path b.2.path = true
  have total : Std.Total order := by
    refine ⟨fun a b => ?_⟩
    simp only [order, binaryLe, decide_eq_true_eq]
    exact le_total _ _
  have transitive : IsTrans (Text × TipEntry) order := by
    refine ⟨fun a b c first second => ?_⟩
    simp only [order, binaryLe, decide_eq_true_eq] at first second ⊢
    exact le_trans first second
  have fresh : Keyed (fun tip : Text × TipEntry => (tip.1, tip.2.path))
      (withoutTip db.tips workspaceId path
        ++ [(workspaceId, TipEntry.mk path revision.text contentHash)]) := by
    refine without.keyed.append_singleton (fun old mem same => ?_)
    have other := (mem_filter.mp mem).2
    obtain ⟨workspace, sits⟩ := mk.inj same
    simp [workspace, sits] at other
  have plain : (0 : CodeUnit) ∉ revision.text := by
    intro mem
    have digit := List.all_eq_true.mp revision.hex 0 mem
    exact absurd digit (by decide)
  refine ⟨pairwise_insertionSort order _, ?_, ?_, without.sessions, without.checkpoints,
    without.taken, without.points, without.pointed⟩
  · exact ((perm_insertionSort order _).map _).nodup_iff.mpr fresh
  · intro tip mem
    rcases mem_append.mp ((mem_insertionSort order).mp mem) with old | new
    · exact without.revisions tip old
    · cases mem_singleton.mp new
      exact plain

theorem Consistent.next (consistent : Consistent sha256Text localeLe db) {step : Step}
    (supplies : step.suppliesNothing = true) (toISOString : Nat → Text)
    : Consistent sha256Text localeLe (step.next localeLe sha256Text toISOString db) := by
  cases step with
  | create row latestCheckpointId checkpointTipVectorDigest =>
    simp only [Step.suppliesNothing, Bool.and_eq_true, isNone_iff_eq_none] at supplies
    exact consistent.create supplies
  | checkpoint args =>
    rcases run_createCodeCheckpoint toISOString args db with keeps | ⟨session, row, takes⟩
    · refine consistent.of_sessions keeps.tips keeps.checkpoints
        (keeps.sessions ▸ consistent.sessions) ?_ ?_
      · exact keeps.sessions ▸ consistent.points
      · exact fun session mem set => ⟨session, keeps.sessions ▸ mem, rfl, set⟩
    · exact consistent.takes takes
  | compile codeSessionId now => exact consistent.compile codeSessionId now
  | writeTip workspaceId path revision contentHash => exact consistent.writeTip _ _ _ _
  | removeTip workspaceId path => exact consistent.removeTip _ _

/-- In every run whose creators supply nothing, the copies of every checkpoint agree. Witness: induction on the steps. -/
theorem consistent_afterSteps {steps : List Step}
    (supplies : ∀ step ∈ steps, step.suppliesNothing = true) (toISOString : Nat → Text)
    : Consistent sha256Text localeLe (afterSteps localeLe sha256Text toISOString steps) := by
  unfold afterSteps
  induction steps using List.reverseRecOn with
  | nil => exact consistent_initial
  | append_singleton earlier step ih =>
    rw [foldl_append]
    have before := ih (fun old mem => supplies old (mem_append_left _ mem))
    exact before.next (supplies step (mem_append_right _ (.head _))) toISOString

theorem checkpointUnits_plain : (text "cp:" ++ hexDigits).all isPlainUnit = true := by
  decide +kernel

theorem checkpointId_of_digest (digest : Digest)
    : checkpointId (.string (text "cp:" ++ digest.text)) = .ok (text "cp:" ++ digest.text) := by
  have digits (u : CodeUnit) (mem : u ∈ digest.text) : u ∈ hexDigits :=
    mem_hexDigits (List.all_eq_true.mp digest.hex u mem)
  have plain : (text "cp:" ++ digest.text).all isPlainUnit = true := by
    refine List.all_eq_true.mpr (fun u mem => List.all_eq_true.mp checkpointUnits_plain u ?_)
    exact (mem_append.mp mem).elim (mem_append_left _)
      (fun digit => mem_append_right _ (digits u digit))
  have length := digest.length
  exact markedId_of_hex plain digits (by omega) (by omega)

theorem Consistent.getCodeCheckpoint (consistent : Consistent sha256Text localeLe db)
    {row : CheckpointRow} (mem : row ∈ db.checkpoints)
    : CodeSession.getCodeCheckpoint db row.checkpointId = some row := by
  obtain ⟨digest, id⟩ := (consistent.taken row mem).id
  unfold CodeSession.getCodeCheckpoint
  rw [id, checkpointId_of_digest]
  dsimp only
  rw [← id]
  exact consistent.checkpoints.find_eq mem

theorem vectorDigest_ne_nil (workspaceId : Text) (tips : List TipEntry)
    : vectorDigest sha256Text workspaceId tips ≠ [] := by
  intro empty
  have length := (sha256Text (vectorText workspaceId tips)).length
  change (vectorDigest sha256Text workspaceId tips).length = 64 at length
  rw [empty] at length
  cases length

theorem compile_eq_some {codeSessionId : Value} {edits : ChangeSet}
    (consistent : Consistent sha256Text localeLe db)
    (said
      : (compileCodeSessionContext localeLe sha256Text db codeSessionId now).1
        = some (fresh, edits))
    : Points db.checkpoints fresh
      ∧ (∀ row ∈ db.checkpoints, row.codeSessionId = fresh.codeSessionId
          → fresh.latestCheckpointId ≠ none)
      ∧ edits
        = pathsChangedSinceCheckpoint localeLe (buildTipVector localeLe (tipsOf db fresh.workspaceId))
            (vectorDigest sha256Text fresh.workspaceId
              (buildTipVector localeLe (tipsOf db fresh.workspaceId)))
            fresh.checkpointTipVectorDigest
            ((fresh.latestCheckpointId.bind (CodeSession.getCodeCheckpoint db)).map (·.tipVector)) := by
  unfold compileCodeSessionContext at said
  split at said
  · cases said
  case h_2 id _ =>
    cases found : findSession db.sessions id with
    | none =>
      rw [found] at said
      cases said
    | some session =>
      rw [found] at said
      dsimp only at said
      rw [run_refreshWorkspaceTipState] at said
      dsimp only at said
      split at said
      · cases said
      case h_2 _ latest reads =>
        split at said
        · cases said
        · obtain ⟨rfl, rfl⟩ := mk.inj (some.inj said)
          obtain ⟨same, checkpoints⟩ := observeTips_reads found reads
          have kept := consistent.observeTips session
            (buildTipVector localeLe (tipsOf db session.workspaceId),
              vectorDigest sha256Text session.workspaceId
                (buildTipVector localeLe (tipsOf db session.workspaceId))) now
          obtain ⟨present, -⟩ := mem_of_find reads
          refine ⟨checkpoints ▸ kept.points latest present, fun row mem own => ?_, ?_⟩
          · obtain ⟨owner, there, named, set⟩ := kept.pointed row (checkpoints ▸ mem)
            cases kept.sessions.eq_of_key there present (named.trans own)
            exact set
          · have lookups
                : CodeSession.getCodeCheckpoint
                    (CodeSession.observeTips db session
                      (buildTipVector localeLe (tipsOf db session.workspaceId),
                        vectorDigest sha256Text session.workspaceId
                          (buildTipVector localeLe (tipsOf db session.workspaceId))) now)
                  = CodeSession.getCodeCheckpoint db := by
              funext id
              unfold CodeSession.getCodeCheckpoint
              rw [checkpoints]
            rw [same.workspace, lookups]

/-- Where the digest of a checkpoint's vector is that of the current one, one text was digested. -/
def TellsVectorsApart (sha256Text : Text → Digest) (localeLe : Text → Text → Bool) (db : Database)
    : Prop :=
  ∀ row ∈ db.checkpoints,
    vectorDigest sha256Text row.workspaceId row.tipVector
        = vectorDigest sha256Text row.workspaceId
            (buildTipVector localeLe (tipsOf db row.workspaceId))
      → toWellFormed (vectorText row.workspaceId row.tipVector)
        = toWellFormed
            (vectorText row.workspaceId (buildTipVector localeLe (tipsOf db row.workspaceId)))

section Changes

variable {digest stored : Text}

theorem changes_unpointed (nonempty : digest ≠ [])
    : (pathsChangedSinceCheckpoint localeLe current digest none none).pathsChanged
      = (current.take MAX_CHANGED_PATHS).map (·.path) := by
  have same : (none == some digest) = false := rfl
  unfold pathsChangedSinceCheckpoint
  rw [if_neg (fun both => nonempty both.1)]
  simp only [same, Bool.false_eq_true, if_false, allPresent, ← map_take, List.map_map]
  rfl

theorem changes_same (localeLe : Text → Text → Bool) (current : List TipEntry)
    (previousTips : Option (List TipEntry)) (nonempty : digest ≠ [])
    : (pathsChangedSinceCheckpoint localeLe current digest (some digest) previousTips).pathsChanged
        = []
      ∧ (pathsChangedSinceCheckpoint localeLe current digest (some digest) previousTips).digestMatch
        = some true := by
  unfold pathsChangedSinceCheckpoint
  rw [if_neg (fun both => nonempty both.1)]
  simp only [beq_self_eq_true, if_true, map_nil, map_some, and_self]

theorem changes_other (localeLe : Text → Text → Bool) (previous current : List TipEntry)
    (other : stored ≠ digest)
    : (pathsChangedSinceCheckpoint localeLe current digest (some stored) (some previous)).pathsChanged
        = (diffTipVectors localeLe previous current).map (·.tip.path)
      ∧ (pathsChangedSinceCheckpoint localeLe current digest (some stored)
          (some previous)).digestMatch
        = some false := by
  have differ : (some stored == some digest) = false :=
    beq_eq_false_iff_ne.mpr (fun same => other (some.inj same))
  unfold pathsChangedSinceCheckpoint
  rw [if_neg (fun both => some_ne_none _ both.2)]
  simp only [differ, Bool.false_eq_true, if_false, map_some, and_self]

end Changes

/-- The answer tells the truth exactly if no more paths have changed than are listed. Witness: with a checkpoint, its
digest is the current one exactly if its vector is; without one, all tips are listed.
-/
theorem tellsTheTruth_iff (consistent : Consistent sha256Text localeLe db)
    (apart : TellsVectorsApart sha256Text localeLe db) {codeSessionId : Value}
    {edits : ChangeSet}
    (said
      : (compileCodeSessionContext localeLe sha256Text db codeSessionId now).1
        = some (fresh, edits))
    : TellsTheTruth db fresh edits ↔ (changedSince db fresh).length ≤ MAX_CHANGED_PATHS := by
  obtain ⟨points, pointed, rfl⟩ := compile_eq_some consistent said
  have listing := consistent.listing fresh.workspaceId
  have tips : Apart (buildTipVector localeLe (tipsOf db fresh.workspaceId)) := listing.buildTipVector
  have nonempty
      : vectorDigest sha256Text fresh.workspaceId
          (buildTipVector localeLe (tipsOf db fresh.workspaceId)) ≠ [] :=
    vectorDigest_ne_nil _ _
  rcases points with ⟨latest, stored⟩ | ⟨row, mem, latest, own, workspace, stored⟩
  · have perm : (buildTipVector localeLe (tipsOf db fresh.workspaceId)).Perm _ :=
      Workspace.buildTipVector_perm _
    have all : changedSince db fresh = (tipsOf db fresh.workspaceId).map (·.path) := by
      unfold changedSince
      rw [latest, find?_eq_none.mpr (fun row _ => by simp)]
    have lists := take_lists_iff (n := MAX_CHANGED_PATHS) tips.keyed
      (fun path => (perm.map _).mem_iff) listing.keyed (fun path => Iff.rfl)
    rw [all, ← lists, latest, stored, bind_none, map_none]
    constructor
    · intro truth path
      have listed := truth.all (fun row mem own => pointed row mem own latest) path
      rwa [changes_unpointed nonempty] at listed
    · intro all
      refine ⟨fun row _ points => ?_, fun _ path => ?_⟩
      · rw [latest] at points
        cases points
      · rw [changes_unpointed nonempty]
        exact all path
  · have since : changedSince db fresh
        = differingPaths row.tipVector (tipsOf db fresh.workspaceId) := by
      unfold changedSince
      split
      case h_1 found there =>
        have named := find?_some there
        rw [Bool.and_eq_true, latest, beq_iff_eq, Option.some.injEq] at named
        rw [consistent.checkpoints.eq_of_key (mem_of_find?_eq_some there) mem named.1.symm]
      case h_2 absent =>
        refine absurd ?_ (find?_eq_none.mp absent row mem)
        rw [latest, own, beq_self_eq_true, beq_self_eq_true, Bool.and_self]
    rw [latest, stored, bind_some, consistent.getCodeCheckpoint mem, map_some, since]
    have only (other : CheckpointRow) (there : other ∈ db.checkpoints)
        (named : fresh.latestCheckpointId = some other.checkpointId)
        : other = row := by
      rw [latest, Option.some.injEq] at named
      exact consistent.checkpoints.eq_of_key there mem named.symm
    have owned : ¬∀ other ∈ db.checkpoints, other.codeSessionId ≠ fresh.codeSessionId :=
      fun unowned => unowned row mem own
    have now (path : Text)
        : versionAt (buildTipVector localeLe (tipsOf db fresh.workspaceId)) path
          = versionAt (tipsOf db fresh.workspaceId) path :=
      versionAt_buildTipVector listing path
    obtain ⟨taken, tookListing, vector⟩ := (consistent.taken row mem).vector
    have ownDigest := (consistent.taken row mem).digest
    rw [workspace] at ownDigest
    by_cases same
        : row.tipVectorDigest
          = vectorDigest sha256Text fresh.workspaceId
              (buildTipVector localeLe (tipsOf db fresh.workspaceId))
    · have vectors : row.tipVector = buildTipVector localeLe (tipsOf db fresh.workspaceId) := by
        have texts := apart row mem
        rw [workspace, ← ownDigest] at texts
        have equal := texts same
        rw [wellFormed_vectorText, wellFormed_vectorText] at equal
        exact vectorText_inj equal
      rw [same]
      obtain ⟨paths, isMatch⟩ := changes_same localeLe
        (buildTipVector localeLe (tipsOf db fresh.workspaceId)) (some row.tipVector) nonempty
      refine iff_of_true ⟨fun other there named _ => ?_, fun unowned => absurd unowned owned⟩ ?_
      · cases only other there named
        rw [paths, isMatch, vectors]
        exact ⟨fun path => iff_of_false not_mem_nil (not_not.mpr (now path)),
          iff_of_true rfl rfl⟩
      · have none : differingPaths row.tipVector (tipsOf db fresh.workspaceId) = [] := by
          refine eq_nil_iff_forall_not_mem.mpr (fun path differs => ?_)
          rw [mem_differingPaths, vectors] at differs
          exact differs (now path)
        rw [none]
        exact Nat.zero_le _
    · obtain ⟨paths, isMatch⟩ := changes_other localeLe row.tipVector
        (buildTipVector localeLe (tipsOf db fresh.workspaceId)) same
      have before : Apart row.tipVector := vector ▸ tookListing.buildTipVector
      have lists
          : (∀ path,
              path ∈ (diffTipVectors localeLe row.tipVector
                  (buildTipVector localeLe (tipsOf db fresh.workspaceId))).map (·.tip.path)
                ↔ versionAt row.tipVector path ≠ versionAt (tipsOf db fresh.workspaceId) path)
            ↔ (differingPaths row.tipVector (tipsOf db fresh.workspaceId)).length
                ≤ MAX_CHANGED_PATHS :=
        diffTipVectors_iff before tips now
      have differ
          : (diffTipVectors localeLe row.tipVector
              (buildTipVector localeLe (tipsOf db fresh.workspaceId))).map (·.tip.path) ≠ [] := by
        intro empty
        have stays := diffTipVectors_eq_nil before tips (map_eq_nil_iff.mp empty)
        have equal : taken = tipsOf db fresh.workspaceId := by
          refine eq_of_versionAt tookListing listing (fun path => ?_)
          have built : versionAt row.tipVector path = versionAt taken path := by
            rw [vector]
            exact versionAt_buildTipVector tookListing path
          rw [← built, stays path, now path]
        rw [ownDigest, vector, equal] at same
        exact same rfl
      rw [← lists]
      constructor
      · intro truth
        have listed := (truth.since row mem latest own).1
        rw [paths] at listed
        exact listed
      · intro all
        refine ⟨fun other there named _ => ?_, fun unowned => absurd unowned owned⟩
        cases only other there named
        rw [paths, isMatch]
        exact ⟨all, iff_of_false differ (by decide)⟩

end Runs

/-- In every run whose creators supply no copy of a checkpoint, the answer tells the truth exactly if no more paths have
changed than are listed.
-/
theorem afterSteps_tellsTheTruth_iff (sha256Text : Text → Digest) (localeLe : Text → Text → Bool)
    (toISOString : Nat → Text) (steps : List Step)
    (supplies : ∀ step ∈ steps, step.suppliesNothing = true)
    (apart
      : TellsVectorsApart sha256Text localeLe (afterSteps localeLe sha256Text toISOString steps))
    (codeSessionId : Value) (now : Text) (fresh : SessionRow) (changes : ChangeSet)
    (answered
      : (compileCodeSessionContext localeLe sha256Text
            (afterSteps localeLe sha256Text toISOString steps) codeSessionId now).1
        = some (fresh, changes))
    : TellsTheTruth (afterSteps localeLe sha256Text toISOString steps) fresh changes
      ↔ (changedSince (afterSteps localeLe sha256Text toISOString steps) fresh).length
          ≤ MAX_CHANGED_PATHS :=
  tellsTheTruth_iff (consistent_afterSteps supplies toISOString) apart answered

namespace Sample

def binaryTextLe (a b : Text) : Bool :=
  a ≤ b

def pause : CheckpointArguments where
  codeSessionId := .string (text "cs:one")
  actorId := .string (text "user:ann")
  boundary := .string (text "pause")
  baseRevision := TaskRuns.countValue 1
  expectedTipVectorDigest := .undefined
  changedPaths := .undefined
  currentTask := .undefined
  completedWork := .undefined
  nextAction := .undefined
  blockers := .undefined
  testBuildExecutionReceipts := .undefined
  artifactRefs := .undefined
  activeTaskLeases := .undefined
  knownConcurrentActors := .undefined
  safeToContinue := .undefined
  knownCaveats := .undefined
  workspaceSnapshotId := .undefined
  note := .undefined
  observedCommits := .undefined
  listedAt := 1000
  now := text "now"

def draft (path content : String) : Step :=
  .writeTip (text "ws:one") (text path) evenDigest (text content)

/-- A draft, a checkpoint, and a second draft. -/
def resumed : List Step :=
  [.create session .undefined .undefined, draft "a" "one", .checkpoint pause, draft "b" "two"]

/-- A draft in a session whose creator supplied the digest of the tips with it, and no checkpoint. -/
def supplied : List Step :=
  [.create session .undefined (.string oddDigest.text), draft "a" "one"]

def answer (steps : List Step) : Option (SessionRow × ChangeSet) :=
  (compileCodeSessionContext binaryTextLe digest
    (afterSteps binaryTextLe digest toISOString steps) (.string (text "cs:one")) (text "now")).1

end Sample

/-- After a checkpoint and a second draft, the second path is listed. -/
theorem tellsTheTruth_resumed
    : ∃ fresh changes, Sample.answer Sample.resumed = some (fresh, changes)
        ∧ (TellsTheTruth
              (afterSteps Sample.binaryTextLe Sample.digest Sample.toISOString Sample.resumed) fresh
              changes
          ↔ (changedSince
              (afterSteps Sample.binaryTextLe Sample.digest Sample.toISOString Sample.resumed)
              fresh).length ≤ MAX_CHANGED_PATHS) := by
  have answered : (answer resumed).isSome = true := by decide +kernel
  obtain ⟨⟨fresh, changes⟩, found⟩ := isSome_iff_exists.mp answered
  have apart
      : TellsVectorsApart digest binaryTextLe
          (afterSteps binaryTextLe digest toISOString resumed) := by
    unfold TellsVectorsApart
    decide +kernel
  exact ⟨fresh, changes, found,
    afterSteps_tellsTheTruth_iff _ _ _ _ (by decide +kernel) apart _ _ fresh changes found⟩

/-- The digest that a creator supplies is believed: no path is listed, though there is one and no checkpoint. -/
theorem supplied_digest_hides_paths
    : ∃ fresh changes, Sample.answer Sample.supplied = some (fresh, changes)
        ∧ changes.pathsChanged = []
        ∧ ¬TellsTheTruth
            (afterSteps Sample.binaryTextLe Sample.digest Sample.toISOString Sample.supplied) fresh
            changes := by
  have answered : (answer supplied).isSome = true := by decide +kernel
  obtain ⟨⟨fresh, changes⟩, found⟩ := isSome_iff_exists.mp answered
  have silent : (answer supplied).all (fun a => a.2.pathsChanged == []) = true := by
    decide +kernel
  have own
      : (answer supplied).all (fun a => a.1.workspaceId == text "ws:one") = true := by
    decide +kernel
  rw [found] at silent own
  have none := beq_iff_eq.mp silent
  have workspace := beq_iff_eq.mp own
  refine ⟨fresh, changes, found, none, fun truth => ?_⟩
  have listed := (truth.all (fun row member => ?_) (text "a")).mpr ?_
  · rw [none] at listed
    exact not_mem_nil listed
  · exact absurd member not_mem_nil
  · rw [workspace]
    decide +kernel

end CairnStone.CodeSession
