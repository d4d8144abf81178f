import CairnStone.ContextRetention.Decisions

/-! Rehydration routes: how the content behind a reference is found again, by the first reference that the
precedence of the fields selects.
-/

namespace CairnStone.ContextRetention

open JavaScript TaskRuns List Bool

variable {s : Text}

def firstNonEmptyString (values : List Value) : Option Text :=
  values.findSome? nonEmptyString

/-- `source.candidate`, if it is an object -/
def nestedCandidateOf (source : Value) : Value :=
  match source.get (text "candidate") with
  | .object proto properties => .object proto properties
  | .array slots => .array slots
  | _ => .null

/-- `typeof value === "string" && value.startsWith(mark) ? value : null`, for one of the marks -/
def markedBy (marks : List String) (value : Value) : Value :=
  match value with
  | .string s => if marks.any (fun mark => (text mark).isPrefixOf s) then value else .null
  | _ => .null

def REF_FIELDS : List Text :=
  [text "rehydration_ref", text "repo_ref", text "object_ref", text "content_ref",
    text "stone_ref", text "receipt_ref", text "checkpoint_ref", text "receipt_id",
    text "checkpoint_id", text "ref"]

def refsOf (source : Value) : List Value :=
  REF_FIELDS.map source.get

def stoneRefsOf (source : Value) : List Value :=
  [source.get (text "stone_ref"), markedBy ["stone:"] (source.get (text "object_ref")),
    markedBy ["stone:"] (source.get (text "content_ref"))]

def repoRefsOf (source : Value) : List Value :=
  [source.get (text "repo_ref"), markedBy ["repo:"] (source.get (text "rehydration_ref")),
    markedBy ["repo:"] (source.get (text "object_ref")),
    markedBy ["repo:"] (source.get (text "content_ref"))]

def receiptOrCheckpointRefsOf (source : Value) : List Value :=
  [source.get (text "receipt_ref"), source.get (text "checkpoint_ref"),
    source.get (text "receipt_id"), source.get (text "checkpoint_id"),
    markedBy ["receipt:", "checkpoint:"] (source.get (text "rehydration_ref"))]

def firstFrom (refs : Value → List Value) (source : Value) : Option Text :=
  firstNonEmptyString (refs source ++ refs (nestedCandidateOf source))

def firstNonEmptyRefFromCandidate : Value → Option Text := firstFrom refsOf

def firstStoneRefFromCandidate : Value → Option Text := firstFrom stoneRefsOf

def firstRepoRefFromCandidate : Value → Option Text := firstFrom repoRefsOf

def firstReceiptOrCheckpointRefFromCandidate : Value → Option Text :=
  firstFrom receiptOrCheckpointRefsOf

def isHexOfLength (s : Text) (length : Nat) : Bool :=
  isHex length s

def splitAtFirst (mark : CodeUnit) : Text → Option (Text × Text)
  | [] => none
  | u :: rest =>
    if u = mark then some ([], rest)
    else (splitAtFirst mark rest).map (fun parts => (u :: parts.1, parts.2))

def SLASH : CodeUnit := 0x2F

def AT : CodeUnit := 0x40

def separates (mark : CodeUnit) (p q : Text → Bool) (s : Text) : Bool :=
  match splitAtFirst mark s with
  | none => false
  | some (before, after) => p before && q after

/-- `<snapshot>/<path>` with a commit for the snapshot -/
def isSnapshotAndPath : Text → Bool :=
  separates SLASH (fun snapshot => snapshot != [] && isHexOfLength snapshot 40) (· != [])

/-- `<repo>@<snapshot>/<path>` -/
def isRepoAtSnapshot : Text → Bool :=
  separates AT (· != []) isSnapshotAndPath

def isExactRepoSnapshotRef (ref : Text) : Bool :=
  (text "repo:").isPrefixOf ref
  && separates SLASH (· != []) isRepoAtSnapshot (ref.drop (text "repo:").length)

def IsPinned (ref : Text) : Prop :=
  ∃ owner repo commit path,
    ref = text "repo:" ++ owner ++ text "/" ++ repo ++ text "@" ++ commit ++ text "/" ++ path
    ∧ owner ≠ [] ∧ SLASH ∉ owner ∧ repo ≠ [] ∧ AT ∉ repo
    ∧ isHex 40 commit = true ∧ path ≠ []

/-- A split is at the first mark. Witness: induction on the text. -/
theorem splitAtFirst_eq_some_iff {mark : CodeUnit} {before after : Text}
    : splitAtFirst mark s = some (before, after)
      ↔ s = before ++ mark :: after ∧ mark ∉ before := by
  induction s generalizing before with
  | nil => simp [splitAtFirst]
  | cons u rest ih =>
    unfold splitAtFirst
    by_cases same : u = mark
    · subst same
      rw [if_pos rfl]
      constructor
      · rintro split
        obtain ⟨rfl, rfl⟩ := Prod.mk.inj (Option.some.inj split)
        exact ⟨rfl, not_mem_nil⟩
      · rintro ⟨whole, absent⟩
        cases before with
        | nil => simpa using whole
        | cons first later =>
          obtain ⟨rfl, _⟩ := cons.inj whole
          exact absurd (.head _) absent
    · rw [if_neg same, Option.map_eq_some_iff]
      constructor
      · rintro ⟨⟨first, later⟩, split, parts⟩
        obtain ⟨rfl, rfl⟩ := Prod.mk.inj parts
        obtain ⟨rfl, absent⟩ := ih.mp split
        exact ⟨rfl, fun mem => absent ((mem_cons.mp mem).resolve_left (Ne.symm same))⟩
      · rintro ⟨whole, absent⟩
        cases before with
        | nil => exact absurd (cons.inj whole).1 same
        | cons first later =>
          obtain ⟨rfl, rest'⟩ := cons.inj whole
          refine ⟨(later, after), ih.mpr ⟨rest', ?_⟩, rfl⟩
          exact fun mem => absent (.tail _ mem)

theorem separates_iff {mark : CodeUnit} {p q : Text → Bool}
    : separates mark p q s = true
      ↔ ∃ before after,
        s = before ++ mark :: after ∧ mark ∉ before ∧ p before = true ∧ q after = true := by
  unfold separates
  constructor
  · intro accepted
    cases split : splitAtFirst mark s with
    | none =>
      rw [split] at accepted
      cases accepted
    | some parts =>
      obtain ⟨before, after⟩ := parts
      rw [split] at accepted
      obtain ⟨whole, first⟩ := splitAtFirst_eq_some_iff.mp split
      exact ⟨before, after, whole, first, and_eq_true_iff.mp accepted⟩
  · rintro ⟨before, after, whole, first, accepted⟩
    rw [splitAtFirst_eq_some_iff.mpr ⟨whole, first⟩]
    exact and_eq_true_iff.mpr accepted

theorem slash_not_mem_of_isHex {length : Nat} (hex : isHex length s = true) : SLASH ∉ s := by
  intro mem
  have digit := all_eq_true.mp (and_eq_true_iff.mp hex).1 SLASH mem
  exact absurd digit (by decide)

theorem isExactRepoSnapshotRef_iff {ref : Text}
    : isExactRepoSnapshotRef ref = true ↔ IsPinned ref := by
  unfold isExactRepoSnapshotRef isRepoAtSnapshot isSnapshotAndPath isHexOfLength
  simp only [and_eq_true, separates_iff, bne_iff_ne]
  constructor
  · rintro ⟨marked, owner, _, whole, ownerFirst, named, repo, _, rfl, repoFirst, named', commit, path,
      rfl, _, ⟨_, hex⟩, last⟩
    refine ⟨owner, repo, commit, path, ?_, named, ownerFirst, named', repoFirst, hex, last⟩
    obtain ⟨rest, rfl⟩ := isPrefixOf_iff_prefix.mp marked
    rw [drop_left] at whole
    rw [whole]
    simp only [append_assoc]
    rfl
  · rintro ⟨owner, repo, commit, path, rfl, named, ownerFirst, named', repoFirst, hex, last⟩
    simp only [append_assoc]
    refine ⟨ isPrefixOf_iff_prefix.mpr (prefix_append _ _), owner, _, ?_, ownerFirst, named,
      repo, _, rfl, repoFirst, named', commit, path, rfl, slash_not_mem_of_isHex hex, ⟨?_, hex⟩, last⟩
    · rw [drop_left]
      rfl
    · rintro rfl
      cases hex

inductive RouteKind where
  | stoneExpand
  | receiptOrCheckpoint
  | repoAtSha
  deriving DecidableEq

inductive Route where
  | found (kind : RouteKind) (ref : Text)
  | mutableHeadRefRefused (ref : Text)
  | rehydrationUnavailable (ref : Option Text)
  deriving DecidableEq

namespace Route

def ok : Route → Bool
  | .found _ _ => true
  | _ => false

def exact : Route → Bool
  | .found _ _ => true
  | _ => false

def ref : Route → Option Text
  | .found _ ref => some ref
  | .mutableHeadRefRefused ref => some ref
  | .rehydrationUnavailable ref => ref

end Route

def startsWith (mark : String) (s : Text) : Bool :=
  (text mark).isPrefixOf s

def normalizeRef (refOrCandidate : Value) : Option Text :=
  match refOrCandidate with
  | .string s => some (trim s)
  | .object proto properties => firstNonEmptyRefFromCandidate (.object proto properties)
  | .array slots => firstNonEmptyRefFromCandidate (.array slots)
  | _ => none

def namesStone (ref : Text) : Bool :=
  startsWith "stone:" ref || isHexOfLength ref 64

def namesReceipt (ref : Text) : Bool :=
  startsWith "receipt:" ref || startsWith "checkpoint:" ref

/-- A repository is read at a commit only. -/
def repoRoute (ref : Text) : Route :=
  if isExactRepoSnapshotRef ref then .found .repoAtSha ref else .mutableHeadRefRefused ref

/-- The route of the reference that was looked up first, where neither a receipt nor a repository is
referred to elsewhere.
-/
def lastRoute : Option Text → Route
  | none => .rehydrationUnavailable none
  | some ref =>
    if startsWith "repo:" ref then repoRoute ref else .rehydrationUnavailable (some ref)

def routeBy (stoneRef ref receiptOrCheckpointRef repoRef : Option Text) : Route :=
  match stoneRef with
  | some stoneRef => .found .stoneExpand stoneRef
  | none =>
    if ref.any namesStone then .found .stoneExpand (ref.getD [])
    else if ref.any namesReceipt then .found .receiptOrCheckpoint (ref.getD [])
    else
      match receiptOrCheckpointRef with
      | some receiptRef => .found .receiptOrCheckpoint receiptRef
      | none =>
        match repoRef with
        | some repoRef => repoRoute repoRef
        | none => lastRoute ref

def rehydrateRoute (refOrCandidate : Value) : Route :=
  routeBy (firstStoneRefFromCandidate refOrCandidate) (normalizeRef refOrCandidate)
    (firstReceiptOrCheckpointRefFromCandidate refOrCandidate)
    (firstRepoRefFromCandidate refOrCandidate)

end CairnStone.ContextRetention
