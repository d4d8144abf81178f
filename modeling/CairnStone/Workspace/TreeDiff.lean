import CairnStone.Data.KeyedDiff
import CairnStone.JavaScript.Conversions
import CairnStone.Workspace.PrefixListing
import CairnStone.Workspace.Snapshots

/-! The diff of a workspace against a tip vector that the caller supplies. The prefix selects the current
tips; the supplied vector is taken as it is.
-/

namespace CairnStone.Workspace

open JavaScript Data List TipRow Bool

/-- An entry of a supplied vector, with its members as strings. Reading one of `null` throws. -/
def suppliedEntry (tip : Value) : Option TipEntry :=
  match tip with
  | .undefined => none
  | .null => none
  | tip =>
    some {
      path := (tip.get (text "path")).toText
      revisionId := (tip.get (text "revision_id")).toText
      contentHash := (tip.get (text "content_hash")).toText
    }

/-- `Array.isArray(against_tip_vector) ? against_tip_vector : []`, entry by entry. -/
def suppliedTips (against : Value) : Option (List TipEntry) :=
  match against with
  | .array slots => slots.mapM (fun slot => suppliedEntry (slot.getD .undefined))
  | _ => some []

structure TreeDiff where
  workspaceId : Text
  pathPrefix : Option Text
  (tipVectorDigest againstTipVectorDigest : Text)
  added : List TipEntry
  modified : List (TipEntry × TipEntry)
  (deleted unchanged : List TipEntry)

inductive TreeDiffFailure where
  | refused (reason : Refused)
  | typeError

section Diff

variable (sha256Text : Text → Text) (localeLe : Text → Text → Bool)

/-- `prior.revision_id === tip.revision_id && prior.content_hash === tip.content_hash` -/
def sameTip (prior tip : TipEntry) : Bool :=
  prior.revisionId == tip.revisionId && prior.contentHash == tip.contentHash

def treeDiff (world : World) (workspace against pathPrefix : Value)
    : Except TreeDiffFailure TreeDiff :=
  match workspaceId workspace with
  | .error detail => .error (.refused (.request "invalid_workspace_tree_diff" detail))
  | .ok wsId =>
    match listingPrefix pathPrefix with
    | .error reason => .error (.refused reason)
    | .ok canonicalPrefix =>
      match listExtendedWorkspaceTips world wsId (Value.ofOption canonicalPrefix) with
      | .error reason => .error (.refused reason)
      | .ok tips =>
        match suppliedTips against with
        | none => .error .typeError
        | some supplied =>
          let current := buildTipVector localeLe (tips.map TipRow.entry)
          let against := buildTipVector localeLe supplied
          let diff := keyedDiff TipEntry.path sameTip current against
          .ok {
            workspaceId := wsId
            pathPrefix := canonicalPrefix
            tipVectorDigest := computeTipVectorDigest sha256Text wsId current
            againstTipVectorDigest := computeTipVectorDigest sha256Text wsId against
            added := diff.added
            modified := diff.modified
            deleted := diff.deleted
            unchanged := diff.unchanged
          }

end Diff

def inside (pathPrefix : Option Text) (path : Text) : Bool :=
  pathPrefix.all (under · path)

/-- The current tips under the prefix, as entries of a vector. -/
def currentEntries (world : World) (wsId : Text) (pathPrefix : Option Text) : List TipEntry :=
  (tipsUnder world wsId pathPrefix).map TipRow.entry

def TreeDiff.lists (diff : TreeDiff) : KeyedDiff TipEntry where
  added := diff.added
  modified := diff.modified
  deleted := diff.deleted
  unchanged := diff.unchanged

/-- The diff tells the supplied vector from the current tips: each of these is in one list, what is deleted lies
under the prefix and has no current tip, and with the changes applied the supplied vector becomes the current
one.
-/
structure Partitions (current : List TipEntry) (pathPrefix : Option Text) (against : List TipEntry)
    (diff : TreeDiff)
    : Prop where
  once : (diff.added ++ diff.modified.map (·.2) ++ diff.unchanged).Perm current
  deleted
    : diff.deleted.Perm
        (against.filter (fun entry =>
          inside pathPrefix entry.path && !current.any (fun tip => tip.path == entry.path)))
  reconstructs
    : ∀ path, diff.lists.patched TipEntry.path (against.filter (fun entry => inside pathPrefix entry.path))
          path
        = current.find? (fun tip => tip.path == path)

theorem eq_of_canonicalize {value : Value} {path : Text}
    (canonical : canonicalizeWorkspacePath value = .ok path)
    : value = .string path := by
  cases value with
  | string input =>
    simp only [canonicalizeWorkspacePath] at canonical
    split_ifs at canonical
    split at canonical
    · cases canonical
    · rw [Except.ok.inj canonical]
  | _ => cases canonical

theorem listingPrefix_ofOption {pathPrefix : Value} {given : Option Text}
    (taken : listingPrefix pathPrefix = .ok given)
    : listingPrefix (Value.ofOption given) = .ok given
      ∧ ∀ dir ∈ given, canonicalizeWorkspacePath (.string dir) = .ok dir := by
  cases given with
  | none => exact ⟨rfl, fun dir absent => absurd absent (by simp)⟩
  | some dir =>
    have canonical : canonicalizeWorkspacePath pathPrefix = .ok dir := by
      unfold listingPrefix at taken
      split at taken
      · cases taken
      · cases taken
      · cases taken
      · cases result : canonicalizeWorkspacePath pathPrefix with
        | error reason =>
          rw [result] at taken
          cases taken
        | ok path =>
          rw [result] at taken
          exact congrArg Except.ok (Option.some.inj (Except.ok.inj taken))
    cases eq_of_canonicalize canonical
    refine ⟨taken, fun other chosen => ?_⟩
    cases chosen
    exact canonical

section Exactness

variable {sha256Text : Text → Text} {localeLe : Text → Text → Bool} {world : World}
  {wsId : Text} {given : Option Text}

theorem buildTipVector_perm (tips : List TipEntry) : (buildTipVector localeLe tips).Perm tips :=
  perm_insertionSort _ _

def listedTips (world : World) (wsId : Text) (given : Option Text) : List TipRow :=
  selectTips world wsId (fun path => given.all (listedUnder · path))

theorem keyed_selectTips {selects : Text → Bool} (keyed : Keyed key world.tips)
    : Keyed TipEntry.path ((selectTips world wsId selects).map entry) := by
  unfold Keyed
  rw [map_map]
  have sorted : (selectTips world wsId selects).Perm
      (world.tips.filter (fun tip => tip.workspaceId == wsId && selects tip.path)) :=
    perm_insertionSort _ _
  refine (sorted.map _).nodup_iff.mpr ?_
  refine List.Nodup.map_on ?_ (List.Nodup.filter _ (List.Nodup.of_map _ keyed))
  intro a memberA b memberB same
  simp only [mem_filter, and_eq_true, beq_iff_eq] at memberA memberB
  have sameKey : a.key = b.key := by
    simp only [key, memberA.2.1, memberB.2.1]
    exact congrArg _ same
  exact keyed.eq_of_key memberA.1 memberB.1 sameKey

theorem eq_of_sameTip {a b : TipEntry} (path : a.path = b.path) (same : sameTip a b = true)
    : a = b := by
  simp only [sameTip, and_eq_true, beq_iff_eq] at same
  cases a
  cases b
  simp only [TipEntry.mk.injEq]
  exact ⟨path, same⟩

theorem under_of_once {current against : List TipEntry} {diff : TreeDiff}
    (lists : diff.lists = keyedDiff TipEntry.path sameTip current against)
    (seen : current.Perm ((listedTips world wsId given).map entry))
    (once : (diff.added ++ diff.modified.map (·.2) ++ diff.unchanged).Perm
      (currentEntries world wsId given))
    {tip : TipRow} (mem : tip ∈ listedTips world wsId given)
    : inside given tip.path = true := by
  have whole : current.Perm (currentEntries world wsId given) := by
    have each := keyedDiff_perm TipEntry.path sameTip current against
    rw [← lists] at each
    exact each.symm.trans once
  have entry : tip.entry ∈ currentEntries world wsId given :=
    whole.mem_iff.mp (seen.mem_iff.mpr (mem_map_of_mem mem))
  obtain ⟨other, below, same⟩ := mem_map.mp entry
  have path : other.path = tip.path := congrArg TipEntry.path same
  rw [← path]
  exact (mem_selectTips.mp below).2.2

/-- The lists of a diff partition the current tips under the prefix and what was supplied, if and only if the
statement lists no other tip and nothing else was supplied. Witness: what lies outside the prefix ends up in the
list of what is deleted.
-/
theorem partitions_iff (keyed : Keyed key world.tips) {current against : List TipEntry}
    {diff : TreeDiff} (lists : diff.lists = keyedDiff TipEntry.path sameTip current against)
    (seen : current.Perm ((listedTips world wsId given).map entry))
    : Partitions (currentEntries world wsId given) given against diff
      ↔ ∀ dir ∈ given, ListsExactly world wsId dir ∧ ∀ entry ∈ against, under dir entry.path = true := by
  have deleted : diff.deleted
      = against.filter (fun entry => !current.any (fun tip => tip.path == entry.path)) :=
    congrArg KeyedDiff.deleted lists
  constructor
  · intro partitions dir chosen
    obtain rfl : given = some dir := chosen
    have exactly : ∀ tip ∈ listedTips world wsId (some dir), under dir tip.path = true :=
      fun tip mem => under_of_once lists seen partitions.once mem
    refine ⟨fun tip mem here shown => exactly tip (mem_selectTips.mpr ⟨mem, here, shown⟩), ?_⟩
    intro entry mem
    by_contra outside
    have gone : ¬current.any (fun tip => tip.path == entry.path) = true := by
      intro known
      obtain ⟨tip, present, same⟩ := any_eq_true.mp known
      obtain ⟨row, shown, rfl⟩ := mem_map.mp (seen.mem_iff.mp present)
      have below := exactly row shown
      rw [show row.path = entry.path from beq_iff_eq.mp same] at below
      exact outside below
    have listedGone : entry ∈ diff.deleted := by
      rw [deleted]
      exact mem_filter.mpr ⟨mem, by simpa using gone⟩
    have kept := (mem_filter.mp (partitions.deleted.mem_iff.mp listedGone)).2
    rw [and_eq_true] at kept
    exact outside kept.1
  · intro exactly
    have rows : listedTips world wsId given = tipsUnder world wsId given :=
      selectTips_eq_tipsUnder (fun dir chosen => (exactly dir chosen).1)
    have whole : current.Perm (currentEntries world wsId given) := by
      rw [currentEntries, ← rows]
      exact seen
    have insides : ∀ entry ∈ against, inside given entry.path = true := by
      intro entry mem
      cases given with
      | none => rfl
      | some dir => exact (exactly dir rfl).2 entry mem
    have keyedEntries : Keyed TipEntry.path (currentEntries world wsId given) := keyed_selectTips keyed
    have keyedCurrent : Keyed TipEntry.path current := (whole.map _).nodup_iff.mpr keyedEntries
    have kept : ∀ entry ∈ current, inside given entry.path = true := by
      intro entry mem
      obtain ⟨tip, below, rfl⟩ := mem_map.mp (whole.mem_iff.mp mem)
      exact (mem_selectTips.mp below).2.2
    refine ⟨?_, ?_, fun path => ?_⟩
    · have each := keyedDiff_perm TipEntry.path sameTip current against
      rw [← lists] at each
      exact each.trans whole
    · rw [deleted]
      refine List.Perm.of_eq (filter_congr (fun entry mem => ?_))
      have same : current.any (fun tip => tip.path == entry.path)
          = (currentEntries world wsId given).any (fun tip => tip.path == entry.path) := by
        rw [Bool.eq_iff_iff, any_eq_true, any_eq_true]
        simp only [whole.mem_iff]
      rw [insides entry mem, same, Bool.true_and]
    · rw [lists, patched_keyedDiff (fun a b => eq_of_sameTip) keyedCurrent kept]
      exact keyedCurrent.find_perm whole path

theorem treeDiff_eq (sha256Text : Text → Text) (localeLe : Text → Text → Bool) (world : World)
    {workspace pathPrefix against : Value} {supplied : List TipEntry}
    (addressed : workspaceId workspace = .ok wsId) (prefixed : listingPrefix pathPrefix = .ok given)
    (entries : suppliedTips against = some supplied)
    : ∃ diff current, treeDiff sha256Text localeLe world workspace against pathPrefix = .ok diff
      ∧ diff.lists = keyedDiff TipEntry.path sameTip current (buildTipVector localeLe supplied)
      ∧ current.Perm ((listedTips world wsId given).map entry) := by
  have listing : listExtendedWorkspaceTips world wsId (Value.ofOption given)
      = .ok (listedTips world wsId given) := by
    unfold listExtendedWorkspaceTips
    rw [(listingPrefix_ofOption prefixed).1]
    rfl
  simp only [treeDiff, addressed, prefixed, listing, entries]
  exact ⟨_, _, rfl, rfl, buildTipVector_perm _⟩

/-- For every workspace, every accepted prefix and every supplied list, the diff is given and partitions the
current tips under the prefix and the supplied ones, if and only if every entry of the list can be read and,
under a prefix, no tip lies in a folder that only resembles it and no entry of the list lies elsewhere.
-/
theorem treeDiff_partitions_iff (sha256Text : Text → Text) (localeLe : Text → Text → Bool)
    {world : World} (keyed : Keyed TipRow.key world.tips) {workspace pathPrefix : Value} {wsId : Text}
    {given : Option Text} (addressed : workspaceId workspace = .ok wsId)
    (prefixed : listingPrefix pathPrefix = .ok given) (against : Value)
    : (∃ supplied diff, suppliedTips against = some supplied
        ∧ treeDiff sha256Text localeLe world workspace against pathPrefix = .ok diff
        ∧ Partitions (currentEntries world wsId given) given (buildTipVector localeLe supplied) diff)
      ↔ ∃ supplied, suppliedTips against = some supplied
        ∧ ∀ dir ∈ given,
            NoLookalikes world wsId dir ∧ ∀ entry ∈ supplied, under dir entry.path = true := by
  constructor
  · rintro ⟨supplied, diff, entries, answered, partitions⟩
    obtain ⟨diff', current, answered', lists, listed⟩ :=
      treeDiff_eq sha256Text localeLe world addressed prefixed entries
    rw [answered'] at answered
    cases answered
    refine ⟨supplied, entries, fun dir chosen => ?_⟩
    obtain ⟨exactly, insides⟩ := (partitions_iff keyed lists listed).mp partitions dir chosen
    refine ⟨listsExactly_iff.mp exactly, fun entry member => ?_⟩
    exact insides entry ((buildTipVector_perm supplied).mem_iff.mpr member)
  · rintro ⟨supplied, entries, exactly⟩
    obtain ⟨diff, current, answered, lists, listed⟩ :=
      treeDiff_eq sha256Text localeLe world addressed prefixed entries
    refine ⟨supplied, diff, entries, answered, (partitions_iff keyed lists listed).mpr ?_⟩
    intro dir chosen
    refine ⟨listsExactly_iff.mpr (exactly dir chosen).1, fun entry member => ?_⟩
    exact (exactly dir chosen).2 entry ((buildTipVector_perm supplied).mem_iff.mp member)

end Exactness

namespace Sample

/-- What a caller supplies for a tip. -/
def supplied (path revision : String) : Option Value :=
  some
    (.literal
      [(text "path", .string (text path)), (text "revision_id", .string (text revision)),
        (text "content_hash", .string (text "h1"))])

/-- Two tips under the prefix, of which one was there before, and a prior version twice. -/
def suppliedUnderDocs : Value :=
  .array [supplied "docs/b.md" "r0", supplied "docs/b.md" "r1", supplied "docs/gone.md" "r1"]

/-- The paths that a diff of the sample workspace under `docs` takes for deleted. -/
def deletedUnderDocs (against : Value) : Option (List Text) :=
  (treeDiff id binaryLe (tipsAt ["docs/a.md", "docs/b.md", "src/c.js"]) (.string (text "ws:notes")) against
    (.string (text "docs"))).toOption.map (fun diff => diff.deleted.map TipEntry.path)

end Sample

theorem treeDiff_partitions_underDocs
    : ∃ supplied diff, suppliedTips Sample.suppliedUnderDocs = some supplied
      ∧ treeDiff id binaryLe (Sample.tipsAt ["docs/a.md", "docs/b.md", "src/c.js"])
          (.string (text "ws:notes")) Sample.suppliedUnderDocs (.string (text "docs"))
        = .ok diff
      ∧ Partitions
          (currentEntries (Sample.tipsAt ["docs/a.md", "docs/b.md", "src/c.js"]) (text "ws:notes")
            (some (text "docs")))
          (some (text "docs")) (buildTipVector binaryLe supplied) diff := by
  have keyed : Keyed key (Sample.tipsAt ["docs/a.md", "docs/b.md", "src/c.js"]).tips := by
    unfold Keyed
    decide +kernel
  have addressed : workspaceId (.string (text "ws:notes")) = .ok (text "ws:notes") := by
    decide +kernel
  have prefixed : listingPrefix (.string (text "docs")) = .ok (some (text "docs")) := by
    decide +kernel
  refine (treeDiff_partitions_iff id binaryLe keyed addressed prefixed Sample.suppliedUnderDocs).mpr ?_
  refine ⟨_, rfl, fun dir chosen => ?_⟩
  cases chosen
  decide +kernel

/-- A file outside the prefix that was supplied is called deleted, although it is there. -/
theorem treeDiff_deletes_outside
    : ¬∃ supplied diff, suppliedTips (.array [Sample.supplied "src/c.js" "r1"]) = some supplied
      ∧ treeDiff id binaryLe (Sample.tipsAt ["docs/a.md", "docs/b.md", "src/c.js"])
          (.string (text "ws:notes")) (.array [Sample.supplied "src/c.js" "r1"]) (.string (text "docs"))
        = .ok diff
      ∧ Partitions
          (currentEntries (Sample.tipsAt ["docs/a.md", "docs/b.md", "src/c.js"]) (text "ws:notes")
            (some (text "docs")))
          (some (text "docs")) (buildTipVector binaryLe supplied) diff := by
  rintro ⟨supplied, diff, _, answered, partitions⟩
  have computed : Sample.deletedUnderDocs (.array [Sample.supplied "src/c.js" "r1"])
      = some [text "src/c.js"] := by
    decide +kernel
  unfold Sample.deletedUnderDocs at computed
  rw [answered] at computed
  have paths : diff.deleted.map TipEntry.path = [text "src/c.js"] := Option.some.inj computed
  have member : text "src/c.js" ∈ diff.deleted.map TipEntry.path := by
    rw [paths]
    exact mem_singleton_self _
  obtain ⟨entry, listed, path⟩ := mem_map.mp member
  have kept := (mem_filter.mp (partitions.deleted.mem_iff.mp listed)).2
  rw [path, and_eq_true] at kept
  exact absurd kept.1 (by decide +kernel)

end CairnStone.Workspace
