import CairnStone.Workspace.Listing

/-! When a listing under a prefix is exact. The pattern `prefix/%` also matches what lies in a folder that
only resembles the prefix: another spelling in case, or other characters in the place of `%` and `_`.
-/

namespace CairnStone.Workspace

open JavaScript Data List Bool Value

variable {path pathPrefix wsId : Text} {world : World}

def listExtendedWorkspaceTips (world : World) (wsId : Text) (pathPrefix : Value)
    : Except Refused (List TipRow) :=
  (listingPrefix pathPrefix).map (fun given =>
    selectTips world wsId (fun path => given.all (listedUnder · path)))

def folders (path : Text) : List Text :=
  path.inits.filter (fun folder => (folder ++ text "/").isPrefixOf path)

theorem mem_folders {folder : Text}
    : folder ∈ folders path ↔ ∃ rest, path = folder ++ 0x2F :: rest := by
  unfold folders
  rw [mem_filter, mem_inits, isPrefixOf_iff_prefix]
  constructor
  · rintro ⟨_, rest, rfl⟩
    exact ⟨rest, append_assoc _ _ _⟩
  · rintro ⟨rest, rfl⟩
    exact ⟨prefix_append _ _, rest, append_assoc _ _ _⟩

theorem foldAscii_eq_slash {c : Nat} : foldAscii 0x2F = foldAscii c ↔ c = 0x2F := by
  unfold foldAscii
  constructor
  · intro same
    split at same
    · omega
    · split at same
      · omega
      · exact same.symm
  · rintro rfl
    rfl

/-- A slash and `%` after a pattern match a slash and anything after what the pattern matches. Witness:
induction on the pattern.
-/
theorem matchesLike_slash {front s : List Nat}
    : matchesLike (front ++ [0x2F, 0x25]) s = true
      ↔ ∃ folder rest, s = folder ++ 0x2F :: rest ∧ matchesLike front folder = true := by
  induction front generalizing s with
  | nil =>
    cases s with
    | nil =>
      refine ⟨fun hit => absurd hit Bool.false_ne_true, ?_⟩
      rintro ⟨folder, rest, same, _⟩
      exact absurd same.symm (by simp)
    | cons x rest =>
      have anything : matchesLike [0x25] rest = true := matchesLike_self [] rest
      simp only [nil_append, matchesLike, and_eq_true, or_eq_true, beq_iff_eq]
      constructor
      · rintro ⟨never | same, _⟩
        · cases never
        · cases foldAscii_eq_slash.mp same
          exact ⟨[], rest, rfl, rfl⟩
      · rintro ⟨folder, rest', same, empty⟩
        obtain rfl : folder = [] := List.isEmpty_iff.mp empty
        obtain ⟨rfl, rfl⟩ := cons.inj same
        exact ⟨.inr rfl, anything⟩
  | cons c front ih =>
    by_cases anything : c = 0x25
    · subst anything
      simp only [cons_append, matchesLike, any_eq_true, mem_tails]
      constructor
      · rintro ⟨tail, ⟨skipped, rfl⟩, hit⟩
        obtain ⟨folder, rest, rfl, front'⟩ := ih.mp hit
        refine ⟨skipped ++ folder, rest, (append_assoc _ _ _).symm, folder, ?_, front'⟩
        exact suffix_append _ _
      · rintro ⟨_, rest, rfl, folder, ⟨skipped, rfl⟩, hit⟩
        refine ⟨folder ++ 0x2F :: rest, ⟨skipped, (append_assoc _ _ _).symm⟩, ?_⟩
        exact ih.mpr ⟨folder, rest, rfl, hit⟩
    · cases s with
      | nil =>
        refine ⟨fun hit => ?_, ?_⟩
        · simp [matchesLike] at hit
        · rintro ⟨folder, rest, same, _⟩
          exact absurd same.symm (by simp)
      | cons x rest =>
        simp only [cons_append, matchesLike, and_eq_true, ih]
        constructor
        · rintro ⟨first, folder, rest', rfl, hit⟩
          refine ⟨x :: folder, rest', rfl, ?_⟩
          simp [matchesLike, first, hit]
        · rintro ⟨folder, rest', same, hit⟩
          cases folder with
          | nil => simp [matchesLike] at hit
          | cons y folder =>
            obtain ⟨rfl, rfl⟩ := cons.inj same
            simp only [matchesLike, and_eq_true] at hit
            exact ⟨hit.1, folder, rest', rfl, hit.2⟩

/-- A slash among the code points of a text is one of its units. Witness: the recursion of `codePoints`. -/
theorem exists_of_codePoints_slash {s : Text} {folder rest : List Nat}
    (split : codePoints s = folder ++ 0x2F :: rest)
    : ∃ folder' rest', s = folder' ++ 0x2F :: rest' ∧ codePoints folder' = folder := by
  induction s using codePoints.induct generalizing folder with
  | case1 => simp [codePoints] at split
  | case2 u =>
    cases folder with
    | nil =>
      have slash : u.val = 0x2F := (cons.inj split).1
      exact ⟨[], [], by rw [show u = 0x2F from Fin.ext slash]; rfl, rfl⟩
    | cons c folder => simp [codePoints] at split
  | case3 first second rest' pair ih =>
    rw [codePoints, if_pos pair] at split
    cases folder with
    | nil =>
      have slash := (cons.inj split).1
      omega
    | cons c folder =>
      obtain ⟨rfl, tail⟩ := cons.inj split
      obtain ⟨folder', rest'', rfl, same⟩ := ih tail
      refine ⟨first :: second :: folder', rest'', rfl, ?_⟩
      rw [codePoints, if_pos pair, same]
  | case4 first second rest' single ih =>
    rw [codePoints, if_neg single] at split
    cases folder with
    | nil =>
      have slash : first.val = 0x2F := (cons.inj split).1
      exact ⟨[], second :: rest', by rw [show first = 0x2F from Fin.ext slash]; rfl, rfl⟩
    | cons c folder =>
      obtain ⟨rfl, tail⟩ := cons.inj split
      obtain ⟨folder', rest'', same, points⟩ := ih tail
      refine ⟨first :: folder', rest'', by rw [same]; rfl, ?_⟩
      cases folder' with
      | nil =>
        subst points
        rfl
      | cons u folder' =>
        obtain ⟨rfl, _⟩ := cons.inj same
        rw [codePoints, if_neg single, points]

theorem listedUnder_iff
    : listedUnder pathPrefix path = true
      ↔ path = pathPrefix ∨ ∃ folder ∈ folders path, like pathPrefix folder = true := by
  have slash : isLowSurrogate 0x2F = false ∧ isHighSurrogate 0x2F = false := by decide
  have pattern : codePoints (pathPrefix ++ text "/%") = codePoints pathPrefix ++ [0x2F, 0x25] :=
    codePoints_append slash
  simp only [listedUnder, like, or_eq_true, beq_iff_eq, pattern, matchesLike_slash]
  refine or_congr Iff.rfl ⟨?_, ?_⟩
  · rintro ⟨folder, rest, split, hit⟩
    obtain ⟨folder', rest', rfl, rfl⟩ := exists_of_codePoints_slash split
    exact ⟨folder', mem_folders.mpr ⟨rest', rfl⟩, hit⟩
  · rintro ⟨folder, mem, hit⟩
    obtain ⟨rest, rfl⟩ := mem_folders.mp mem
    exact ⟨codePoints folder, codePoints rest, codePoints_append slash, hit⟩

/-- A tip of the workspace in a folder that resembles the prefix lies under the prefix itself. -/
def NoLookalikes (world : World) (wsId pathPrefix : Text) : Prop :=
  ∀ tip ∈ world.tips,
    tip.workspaceId = wsId
    → ∀ folder ∈ folders tip.path, like pathPrefix folder = true → under pathPrefix tip.path = true

instance decidableNoLookalikes (world : World) (wsId pathPrefix : Text)
    : Decidable (NoLookalikes world wsId pathPrefix) :=
  inferInstanceAs (Decidable (∀ tip ∈ world.tips, _ → ∀ folder ∈ folders tip.path, _ → _))

theorem listsExactly_iff
    : ListsExactly world wsId pathPrefix ↔ NoLookalikes world wsId pathPrefix := by
  constructor
  · intro exactly tip mem here folder lies resembles
    exact exactly tip mem here (listedUnder_iff.mpr (.inr ⟨folder, lies, resembles⟩))
  · intro none tip mem here seen
    rcases listedUnder_iff.mp seen with same | ⟨folder, lies, resembles⟩
    · unfold under
      rw [same, beq_self_eq_true, Bool.true_or]
    · exact none tip mem here folder lies resembles

/-- A listing gives the tips of the workspace that the prefix means, in ascending order of their paths. -/
structure ListsUnder (world : World) (wsId : Text) (pathPrefix : Value) (tips : List TipRow) : Prop where
  ascending : tips.Pairwise (fun a b => binaryLe a.path b.path = true)
  exactly
    : tips.Perm
        (world.tips.filter (fun tip =>
          decide (tip.workspaceId = wsId ∧ pathWithinPrefix tip.path pathPrefix = .ok ())))

theorem pathWithinPrefix_iff
    (canonical : canonicalizeWorkspacePath (.string pathPrefix) = .ok pathPrefix)
    : pathWithinPrefix path (.string pathPrefix) = .ok () ↔ under pathPrefix path = true := by
  have some' : pathPrefix ≠ [] := by
    rintro rfl
    cases canonical
  unfold pathWithinPrefix
  split
  · cases ‹string pathPrefix = _›
  · cases ‹string pathPrefix = _›
  · rename_i empty
    exact absurd (string.inj empty) some'
  · rw [canonical]
    cases below : under pathPrefix path with
    | true => simp [below]
    | false => simp [below]

theorem binaryLe_total (a b : TipRow) : binaryLe a.path b.path = true ∨ binaryLe b.path a.path = true := by
  simp only [binaryLe, decide_eq_true_eq]
  exact le_total _ _

theorem binaryLe_trans {a b c : TipRow} (first : binaryLe a.path b.path = true)
    (second : binaryLe b.path c.path = true)
    : binaryLe a.path c.path = true := by
  simp only [binaryLe, decide_eq_true_eq] at first second ⊢
  exact le_trans first second

theorem mem_selectTips {selects : Text → Bool} {tip : TipRow}
    : tip ∈ selectTips world wsId selects
      ↔ tip ∈ world.tips ∧ tip.workspaceId = wsId ∧ selects tip.path = true := by
  unfold selectTips
  rw [mem_insertionSort, mem_filter, and_eq_true, beq_iff_eq]

theorem listsUnder_tipsUnder
    (canonical : canonicalizeWorkspacePath (.string pathPrefix) = .ok pathPrefix)
    : ListsUnder world wsId (.string pathPrefix) (tipsUnder world wsId (some pathPrefix)) where
  ascending := by
    have total : Std.Total (fun a b : TipRow => binaryLe a.path b.path = true) := ⟨binaryLe_total⟩
    have trans : IsTrans TipRow (fun a b => binaryLe a.path b.path = true) :=
      ⟨fun _ _ _ => binaryLe_trans⟩
    exact pairwise_insertionSort _ _
  exactly := by
    refine (perm_insertionSort _ _).trans (List.Perm.of_eq (filter_congr ?_))
    intro tip _
    rw [Bool.eq_iff_iff, decide_eq_true_iff, and_eq_true, beq_iff_eq,
      pathWithinPrefix_iff canonical]
    rfl

/-- Under every canonical prefix both listings give exactly the tips that lie under it, in ascending order of
their paths, if and only if no tip of the workspace lies in a folder that only resembles the prefix. Witness:
what the pattern matches beyond the prefix lies in such a folder.
-/
theorem listing_exact_iff (world : World) (wsId : Text) {pathPrefix : Text}
    (canonical : canonicalizeWorkspacePath (.string pathPrefix) = .ok pathPrefix)
    : ((∃ tips, listWorkspaceTips world wsId (.string pathPrefix) = .ok tips
          ∧ ListsUnder world wsId (.string pathPrefix) tips)
        ∧ ∃ tips, listExtendedWorkspaceTips world wsId (.string pathPrefix) = .ok tips
          ∧ ListsUnder world wsId (.string pathPrefix) tips)
      ↔ NoLookalikes world wsId pathPrefix := by
  have given : listingPrefix (.string pathPrefix) = .ok (some pathPrefix) := by
    unfold listingPrefix
    split
    · cases ‹string pathPrefix = _›
    · cases ‹string pathPrefix = _›
    · rename_i empty
      rw [string.inj empty] at canonical
      cases canonical
    · rw [canonical]
      rfl
  have listed : listWorkspaceTips world wsId (.string pathPrefix)
      = .ok (selectTips world wsId (listedUnder pathPrefix)) := by
    unfold listWorkspaceTips
    rw [given]
    rfl
  have same : listExtendedWorkspaceTips world wsId (.string pathPrefix)
      = listWorkspaceTips world wsId (.string pathPrefix) := rfl
  rw [same, and_self_iff, ← listsExactly_iff, listed]
  constructor
  · rintro ⟨tips, answered, lists⟩ tip member here matched
    cases answered
    have shown := lists.exactly.mem_iff.mp (mem_selectTips.mpr ⟨member, here, matched⟩)
    have within := (of_decide_eq_true (mem_filter.mp shown).2).2
    exact (pathWithinPrefix_iff canonical).mp within
  · intro exactly
    have chosen : ∀ given ∈ some pathPrefix, ListsExactly world wsId given := by
      intro given chosen
      cases chosen
      exact exactly
    have whole : selectTips world wsId (listedUnder pathPrefix)
        = tipsUnder world wsId (some pathPrefix) :=
      selectTips_eq_tipsUnder chosen
    refine ⟨_, rfl, ?_⟩
    rw [whole]
    exact listsUnder_tipsUnder canonical

namespace Sample

def tipAt (path : String) : TipRow where
  workspaceId := text "ws:notes"
  path := text path
  revisionId := text "r1"
  contentHash := text "h1"
  updatedAt := 0
  contentEncoding := .utf8Text
  contentRef := none
  gitBlobSha := none

def tipsAt (paths : List String) : World :=
  { World.initial [] with tips := paths.map tipAt }

end Sample

open Sample

theorem listing_exact_sample
    : ∃ tips, listWorkspaceTips (Sample.tipsAt ["docs/b.md", "docs/a.md", "src/c.js"]) (text "ws:notes")
          (.string (text "docs"))
        = .ok tips
      ∧ ListsUnder (Sample.tipsAt ["docs/b.md", "docs/a.md", "src/c.js"]) (text "ws:notes")
          (.string (text "docs")) tips :=
  ((listing_exact_iff (tipsAt ["docs/b.md", "docs/a.md", "src/c.js"]) (text "ws:notes")
    (by decide +kernel)).mpr (by decide +kernel)).1

/-- A listing under `a_b` also gives a tip of the folder `axb`. -/
theorem listing_lookalike
    : ¬∃ tips, listWorkspaceTips (Sample.tipsAt ["a_b/one.md", "axb/two.md"]) (text "ws:notes")
          (.string (text "a_b"))
        = .ok tips
      ∧ ListsUnder (Sample.tipsAt ["a_b/one.md", "axb/two.md"]) (text "ws:notes")
          (.string (text "a_b")) tips := by
  have listed : listWorkspaceTips (tipsAt ["a_b/one.md", "axb/two.md"]) (text "ws:notes")
      (.string (text "a_b")) = .ok [tipAt "a_b/one.md", tipAt "axb/two.md"] := by
    decide +kernel
  have within : (tipsAt ["a_b/one.md", "axb/two.md"]).tips.filter (fun tip =>
      decide (tip.workspaceId = text "ws:notes"
        ∧ pathWithinPrefix tip.path (.string (text "a_b")) = .ok ())) = [tipAt "a_b/one.md"] := by
    decide +kernel
  rintro ⟨tips, answered, lists⟩
  have exactly := lists.exactly
  rw [within] at exactly
  rw [listed] at answered
  cases answered
  exact absurd exactly.length_eq (by decide)

end CairnStone.Workspace
