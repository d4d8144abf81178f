import CairnStone.Vault.Obligations
import CairnStone.Vault.Orientation

/-! What an orientation has read when it answers, for any promise: which statements its call issued, and
what they found.
-/

namespace CairnStone.Vault

open JavaScript Data Concurrency History

variable {env : Env} {promise : Nat → Command → History (vault env) → Prop} {Call : Type} {t : Nat}
  {call : Call} {h : History (vault env)} {chain : Text}

/-- The two statements that read the heads of a chain, the later one first, with what they found. -/
def headReads (env : Env) (t : Nat) (chain : Text) (heads paths : Tables)
    : List (Issued (vault env)) :=
  [⟨t, .readPathHeads chain, paths⟩, ⟨t, .readChainHead chain, heads⟩]

structure Captures (chain : Text) (heads paths : Tables) (headRow : ChainHeadRow) (full : Resumed)
    : Prop where
  found : heads.chainHead chain = some headRow
  named : full.chain = chain
  head : full.canonicalHead.hash = headRow.headHash
  pathHeads : full.pathHeads = paths.orientedHeads chain

inductive Reads (env : Env) (t : Nat) (chain : Text) (paths : List Text) (since : Option Text)
    (earlier : List (Issued (vault env)))
    : Detail → Resumed → List (Issued (vault env)) → Prop where
  | full {heads pathHeads : Tables} {headRow : ChainHeadRow} {full : Resumed}
      (captures : Captures chain heads pathHeads headRow full)
      : Reads env t chain paths since earlier .full full
          (headReads env t chain heads pathHeads ++ earlier)
  | compact {heads pathHeads : Tables} {headRow : ChainHeadRow} {full : Resumed}
      (captures : Captures chain heads pathHeads headRow full)
      : Reads env t chain paths since earlier .compact (full.compact env paths since headRow.updatedAt)
          (headReads env t chain heads pathHeads ++ earlier)
  | startHere {heads pathHeads heads' pathHeads' : Tables} {headRow headRow' : ChainHeadRow}
      {full answer : Resumed} (captures : Captures chain heads pathHeads headRow full)
      (again : heads'.chainHead chain = some headRow') (same : headRow'.headHash = headRow.headHash)
      (named : answer.chain = chain) (head : answer.canonicalHead = full.canonicalHead)
      (authority
        : answer.authority
          = some (computeAcceptedAuthorityManifest env chain headRow.headHash full.pathHeads))
      : Reads env t chain paths since earlier .startHere answer
          (headReads env t chain heads' pathHeads' ++ (headReads env t chain heads pathHeads ++ earlier))

theorem keeps_startHere {full : Resumed} {heads pathHeads : Tables} {headRow : ChainHeadRow}
    {paths : List Text} {since : Option Text} {prior : List (Issued (vault env))}
    (free : ∀ cmd h, Harmless cmd → promise t cmd h)
    (captures : Captures chain heads pathHeads headRow full)
    (own : h.own t = headReads env t chain heads pathHeads ++ prior)
    : Keeps promise t call (startHere full)
        (fun answer h' =>
          ∀ resumed, answer = .ok resumed
            → Reads env t chain paths since prior .startHere resumed (h'.own t)) h := by
  cases captures.named
  unfold startHere
  refine keeps_readChainHead_bind (fun h1 later1 => ⟨free _ _ trivial, ?_⟩)
  cases again : h1.state.chainHead full.chain with
  | none =>
    refine keeps_done (fun _ _ resumed denied => ?_)
    cases denied
  | some verifyHeadRow =>
    by_cases moved : verifyHeadRow.headHash ≠ full.canonicalHead.hash
    · simp only [moved, if_true, ne_eq, not_false_eq_true]
      refine keeps_done (fun _ _ resumed denied => ?_)
      cases denied
    · simp only [moved, if_false]
      refine keeps_perform_bind (fun h2 later2 => ⟨free _ _ trivial, ?_⟩)
      split
      · refine keeps_done (fun _ _ resumed denied => ?_)
        cases denied
      · refine keeps_done (fun h3 later3 resumed said => ?_)
        cases said
        rw [later3.own, own_exec_self, later2.own, own_exec_self, later1.own, own]
        have same : verifyHeadRow.headHash = headRow.headHash :=
          (not_not.mp moved).trans captures.head
        exact .startHere captures again same rfl rfl (by rw [captures.head])

/-- An orientation that answers has read the heads in this order, and nothing else that counts. -/
theorem keeps_resumeChain {detail : Detail} {paths : List Text} {since : Option Text}
    (free : ∀ cmd h, Harmless cmd → promise t cmd h)
    : Keeps promise t call (resumeChain chain detail paths since)
        (fun answer h' =>
          ∀ resumed, answer = .ok resumed
            → Reads env t chain paths since (h.own t) detail resumed (h'.own t)) h := by
  unfold resumeChain
  refine keeps_readChainHead_bind (fun h1 later1 => ⟨free _ _ trivial, ?_⟩)
  cases found : h1.state.chainHead chain with
  | none =>
    refine keeps_select_bind (fun h2 _ => ?_)
    refine keeps_done (fun _ _ resumed denied => ?_)
    cases denied
  | some headRow =>
    refine keeps_select_bind (fun h2 later2 => ?_)
    cases stored : h2.state.stoneAt headRow.headHash with
    | none =>
      refine keeps_done (fun _ _ resumed denied => ?_)
      cases denied
    | some stone =>
      by_cases other : stone.chainHash ≠ some chain
      · simp only [other, if_true, ne_eq, not_false_eq_true]
        refine keeps_done (fun _ _ resumed denied => ?_)
        cases denied
      · simp only [other, if_false]
        refine keeps_perform_bind (fun h3 later3 => ⟨free _ _ trivial, ?_⟩)
        refine keeps_select_bind (fun h4 later4 => ?_)
        refine keeps_select_bind (fun h5 later5 => ?_)
        have hash : stone.hash = headRow.headHash := by
          have same := List.find?_some stored
          exact eq_of_beq same
        have captures (outbound inbound : List EdgeRow)
            : Captures chain h1.state h3.state headRow
                (Resumed.full chain stone (h3.state.orientedHeads chain) outbound inbound) :=
          ⟨found, rfl, hash, rfl⟩
        have own : h5.own t = headReads env t chain h1.state h3.state ++ h.own t := by
          rw [later5.own, later4.own, own_exec_self, later3.own, later2.own,
            own_exec_self, later1.own]
          rfl
        cases detail with
        | full =>
          refine keeps_done (fun h6 later6 resumed said => ?_)
          cases said
          rw [later6.own, own]
          exact .full (captures _ _)
        | compact =>
          refine keeps_done (fun h6 later6 resumed said => ?_)
          cases said
          rw [later6.own, own]
          exact .compact (captures _ _)
        | startHere => exact keeps_startHere free (captures _ _) own

end CairnStone.Vault
