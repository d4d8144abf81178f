import CairnStone.Data.SqlText
import CairnStone.Workspace.Drafts

/-! The listing of a workspace's tips, under a prefix or without one. The statement selects with
`LIKE`; what a prefix means is decided by `pathWithinPrefix`, case by case.
-/

namespace CairnStone.Workspace

open JavaScript Data List

/-- `path === prefix || path.startsWith(prefix + "/")` -/
def under (pathPrefix path : Text) : Bool :=
  path == pathPrefix || (pathPrefix ++ text "/").isPrefixOf path

/-- `path = ? OR path LIKE ?`, with `prefix/%` for the pattern. -/
def listedUnder (pathPrefix path : Text) : Bool :=
  path == pathPrefix || like (pathPrefix ++ text "/%") path

def pathWithinPrefix (path : Text) (pathPrefix : Value) : Except Refused Unit :=
  match pathPrefix with
  | .undefined => .ok ()
  | .null => .ok ()
  | .string [] => .ok ()
  | given =>
    match canonicalizeWorkspacePath given with
    | .error refused => .error refused
    | .ok pathPrefix =>
      if under pathPrefix path then .ok ()
      else .error (.path "workspace_path_outside_capability_prefix" path)

/-- The prefix of a listing, if one is given. -/
def listingPrefix (pathPrefix : Value) : Except Refused (Option Text) :=
  match pathPrefix with
  | .undefined => .ok none
  | .null => .ok none
  | .string [] => .ok none
  | given => (canonicalizeWorkspacePath given).map some

/-- `SELECT … FROM workspace_tips WHERE workspace_id = ? … ORDER BY path ASC` -/
def selectTips (world : World) (wsId : Text) (selects : Text → Bool) : List TipRow :=
  (world.tips.filter (fun tip => tip.workspaceId == wsId && selects tip.path)).insertionSort
    (fun a b => binaryLe a.path b.path)

def listWorkspaceTips (world : World) (wsId : Text) (pathPrefix : Value)
    : Except Refused (List TipRow) :=
  (listingPrefix pathPrefix).map (fun given =>
    selectTips world wsId (fun path => given.all (listedUnder · path)))

def tipsUnder (world : World) (wsId : Text) (pathPrefix : Option Text) : List TipRow :=
  selectTips world wsId (fun path => pathPrefix.all (under · path))

theorem listedUnder_of_under {pathPrefix path : Text} (below : under pathPrefix path = true)
    : listedUnder pathPrefix path = true := by
  simp only [under, listedUnder, Bool.or_eq_true] at below ⊢
  refine below.imp_right (fun starts => ?_)
  obtain ⟨rest, rfl⟩ := isPrefixOf_iff_prefix.mp starts
  have slash : isLowSurrogate 0x2F = false ∧ isHighSurrogate 0x2F = false := by decide
  have pattern : codePoints (pathPrefix ++ text "/%") = (codePoints pathPrefix ++ [0x2F]) ++ [0x25] := by
    rw [append_assoc]
    exact codePoints_append slash
  have subject
      : codePoints (pathPrefix ++ text "/" ++ rest)
        = (codePoints pathPrefix ++ [0x2F]) ++ codePoints rest := by
    rw [append_assoc, append_assoc]
    exact codePoints_append slash
  rw [like, pattern, subject]
  exact matchesLike_self _ _

theorem selectTips_congr {world : World} {wsId : Text} {selects selects' : Text → Bool}
    (same : ∀ tip ∈ world.tips, tip.workspaceId = wsId → selects tip.path = selects' tip.path)
    : selectTips world wsId selects = selectTips world wsId selects' := by
  unfold selectTips
  congr 1
  refine filter_congr (fun tip mem => ?_)
  by_cases here : tip.workspaceId = wsId
  · rw [same tip mem here]
  · have elsewhere : (tip.workspaceId == wsId) = false := beq_eq_false_iff_ne.mpr here
    rw [elsewhere, Bool.false_and, Bool.false_and]

def ListsExactly (world : World) (wsId pathPrefix : Text) : Prop :=
  ∀ tip ∈ world.tips,
    tip.workspaceId = wsId → listedUnder pathPrefix tip.path = true → under pathPrefix tip.path = true

instance decidableListsExactly (world : World) (wsId pathPrefix : Text)
    : Decidable (ListsExactly world wsId pathPrefix) :=
  inferInstanceAs (Decidable (∀ tip ∈ world.tips, _ → _ → _))

theorem selectTips_eq_tipsUnder {world : World} {wsId : Text} {pathPrefix : Option Text}
    (exactly : ∀ given ∈ pathPrefix, ListsExactly world wsId given)
    : selectTips world wsId (fun path => pathPrefix.all (listedUnder · path))
      = tipsUnder world wsId pathPrefix := by
  refine selectTips_congr (fun tip mem here => ?_)
  cases pathPrefix with
  | none => rfl
  | some given =>
    have back := exactly given rfl tip mem here
    exact Bool.eq_iff_iff.mpr ⟨back, listedUnder_of_under⟩

end CairnStone.Workspace
