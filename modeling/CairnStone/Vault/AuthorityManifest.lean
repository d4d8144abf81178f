import CairnStone.JavaScript.RecordLists
import CairnStone.Vault.Orientation

/-! What a manifest and a fingerprint commit to: without collisions of the digest, path heads with one
digest are the same pointers, and snapshots with one fingerprint have one chain head.
-/

namespace CairnStone.Vault

open JavaScript List

variable {env : Env} {pathHeads pathHeads' : List OrientedHead}

def Pointer.members (pointer : Pointer) : List (Text × Option Text) :=
  [(text "path", some pointer.path), (text "stone_hash", some pointer.stoneHash)]

theorem stableJson_pointer (pointer : Pointer)
    : stableJson pointer.value = stableRecord pointer.members := by
  have ordered : (text "path" : Text) ≤ text "stone_hash" := by decide
  simp [Pointer.value, Value.literal, stableJson, stableMembers, List.insertionSort,
    ordered, joinWithComma, Pointer.members, stableRecord, flatMembers,
    quoteOrNull]

theorem Pointer.members_inj {a b : Pointer} (same : a.members = b.members) : a = b := by
  simp only [Pointer.members, List.cons.injEq, Prod.mk.injEq, Option.some.injEq, and_true, true_and]
    at same
  obtain ⟨path, hash⟩ := same
  obtain ⟨_, _⟩ := a
  obtain ⟨_, _⟩ := b
  obtain rfl : _ = _ := path
  obtain rfl : _ = _ := hash
  rfl

variable (env) in
def pointersText (pathHeads : List OrientedHead) : Text :=
  stableJson
    (.array ((canonicalPathHeadPointers env pathHeads).map (fun pointer => some pointer.value)))

theorem stableSlots_pointers (pointers : List Pointer)
    : stableSlots (pointers.map (fun pointer => some pointer.value))
      = pointers.map (fun pointer => stableRecord pointer.members) := by
  induction pointers with
  | nil => rfl
  | cons pointer rest ih =>
    rw [map_cons, map_cons, ← ih, ← stableJson_pointer]
    rfl

theorem pointersText_eq (pathHeads : List OrientedHead)
    : pointersText env pathHeads
      = 0x5B :: (joinWithComma ((canonicalPathHeadPointers env pathHeads).map
          (stableRecord ∘ Pointer.members)) ++ [0x5D]) := by
  rw [pointersText, stableJson, stableSlots_pointers]
  rfl

theorem pointers_of_text (same : pointersText env pathHeads = pointersText env pathHeads')
    : canonicalPathHeadPointers env pathHeads = canonicalPathHeadPointers env pathHeads' := by
  rw [pointersText_eq, pointersText_eq, ← map_map, ← map_map] at same
  have keyed (pointers : List Pointer)
      : ∀ members ∈ pointers.map Pointer.members,
          members.map (·.1) = [text "path", text "stone_hash"] := by
    intro members listed
    obtain ⟨pointer, -, rfl⟩ := mem_map.mp listed
    rfl
  have members := (joinedRecords_inj (keyed _) (keyed _) (cons.inj same).2).1
  exact map_injective_iff.mpr (fun _ _ same => Pointer.members_inj same) members

theorem wellFormed_pointersText (pathHeads : List OrientedHead)
    : WellFormed (pointersText env pathHeads) := by
  rw [pointersText_eq, ← map_map, WellFormed, toWellFormed_cons (by decide),
    toWellFormed_joinedRecords]
  rfl

theorem pointers_perm_of_digest (strong : CollisionFree env.sha256) {chain head chain' head' : Text}
    (same
      : (computeAcceptedAuthorityManifest env chain head pathHeads).pathHeadsDigest
        = (computeAcceptedAuthorityManifest env chain' head' pathHeads').pathHeadsDigest)
    : (pathHeads.map (·.pointer)).Perm (pathHeads'.map (·.pointer)) := by
  have digests : env.sha256 (pointersText env pathHeads) = env.sha256 (pointersText env pathHeads') :=
    append_cancel_left same
  have texts := strong _ _ digests
  rw [wellFormed_pointersText, wellFormed_pointersText] at texts
  have sorted := pointers_of_text texts
  have perm (heads : List OrientedHead)
      : (canonicalPathHeadPointers env heads).Perm (heads.map (·.pointer)) :=
    perm_insertionSort _ _
  exact (perm pathHeads).symm.trans (sorted ▸ perm pathHeads')

theorem head_of_fingerprint {resume resume' : Resumed}
    (same : fingerprintOf resume = fingerprintOf resume')
    : resume.canonicalHead.hash = resume'.canonicalHead.hash := by
  have ordered : (text "chain_head" : Text) ≤ text "path_heads" := by decide
  simp only [fingerprintOf, Value.literal, stableJson, stableMembers, List.insertionSort,
    List.foldr, List.orderedInsert, ordered, if_true, map_cons, map_nil, joinWithComma,
    append_assoc, cons_append, List.cons.injEq, true_and] at same
  have values := append_cancel_left same
  exact (quote_append_inj (cons.inj values).2).1

end CairnStone.Vault
