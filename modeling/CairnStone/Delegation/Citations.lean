import CairnStone.Delegation.SubagentResult

/-! When the citations of a compact result are right. A marker is looked up among the first stones of the evidence
only, so a stone that comes later is neither cited nor in the way of a shorter marker.
-/

namespace CairnStone.Delegation

open JavaScript Data TaskRuns List Citation

variable {marker : Text} {stones : List Text}

/-- The stones of the evidence, each once. -/
def evidenceStones (toUpperCase : Text → Text) (evidence : Value) : List Text :=
  firstOccurrences id [] ((offered toUpperCase evidence).map Citation.stoneHash)

def soleStone (stones : List Text) (marker : Text) : Option Text :=
  match stones.filter (fun stone => marker.isPrefixOf stone) with
  | [stone] => some stone
  | _ => none

def citedStones (stones : List Text) (answer : Text) : List Text :=
  firstOccurrences id [] ((markers answer).filterMap (soleStone stones))

/-- The citations of a result are the stones that the answer cites, and no marker is taken for a stone while
another stone of the evidence begins with it too.
-/
structure CitesExactly (toUpperCase : Text → Text) (evidence : Value) (answer : Text)
    (result : SubagentResult)
    : Prop where
  cited
    : result.citations.map Citation.stoneHash
      = citedStones (evidenceStones toUpperCase evidence) answer
  attributed
    : ∀ marker ∈ markers answer, ∀ citation,
        citationFromAnswerMention marker result.evidenceRefs = some citation
        → (evidenceStones toUpperCase evidence).filter (fun stone => marker.isPrefixOf stone)
          = [citation.stoneHash]

def fits (marker : Text) (stones : List Text) : Nat :=
  stones.countP (fun stone => marker.isPrefixOf stone)

/-- A marker that a stone beyond the first ones begins with is also the beginning of two of the first ones, or of
none of these and of several beyond them.
-/
def SettledByFirst (stones : List Text) (marker : Text) : Prop :=
  fits marker (stones.drop MAX_CITATIONS) = 0
  ∨ 2 ≤ fits marker (stones.take MAX_CITATIONS)
  ∨ fits marker (stones.take MAX_CITATIONS) = 0 ∧ 2 ≤ fits marker (stones.drop MAX_CITATIONS)

instance decidableSettledByFirst (stones : List Text) (marker : Text)
    : Decidable (SettledByFirst stones marker) :=
  inferInstanceAs (Decidable (_ ∨ _ ∨ _))

theorem nodup_evidenceStones (toUpperCase : Text → Text) (evidence : Value)
    : (evidenceStones toUpperCase evidence).Nodup := by
  have distinct := nodup_firstOccurrences id []
    ((offered toUpperCase evidence).map stoneHash)
  rwa [map_id] at distinct

theorem stones_of_evidenceRefs (toUpperCase : Text → Text) (evidence : Value)
    : (buildCitationsFromDelegationEvidence toUpperCase evidence).map stoneHash
      = (evidenceStones toUpperCase evidence).take MAX_CITATIONS := by
  have pos : 0 < MAX_CITATIONS := by decide
  rw [buildCitationsFromDelegationEvidence, collect_eq_take pos, map_take,
    map_firstOccurrences]
  rfl

theorem mention_of_filter {refs : List Citation} {citation : Citation}
    (found : citationFromAnswerMention marker refs = some citation)
    : ∃ item, refs.filter (fun item => marker.isPrefixOf item.stoneHash) = [item]
      ∧ citation.stoneHash = item.stoneHash := by
  unfold citationFromAnswerMention at found
  split at found
  · rename_i item only
    cases found
    exact ⟨item, only, rfl⟩
  · cases found

theorem map_mention (marker : Text) (refs : List Citation)
    : (citationFromAnswerMention marker refs).map stoneHash
      = soleStone (refs.map stoneHash) marker := by
  have stones : (refs.map stoneHash).filter (fun stone => marker.isPrefixOf stone)
      = (refs.filter (fun item => marker.isPrefixOf item.stoneHash)).map stoneHash := by
    rw [filter_map]
    rfl
  unfold citationFromAnswerMention soleStone
  rw [stones]
  cases refs.filter (fun item => marker.isPrefixOf item.stoneHash) with
  | nil => rfl
  | cons item rest =>
    cases rest with
    | nil => rfl
    | cons _ _ => rfl

/-- The limit on citations never cuts any off. Witness: the citations are distinct stones of the kept
evidence, of which there are no more.
-/
theorem stones_of_citations {refs : List Citation} (few : refs.length ≤ MAX_CITATIONS)
    (answer : Text)
    : (buildValidatedCitationsFromAnswer refs answer).map stoneHash
      = citedStones (refs.map stoneHash) answer := by
  have pos : 0 < MAX_CITATIONS := by decide
  let found := (markers answer).filterMap (citationFromAnswerMention · refs)
  have stones : found.map stoneHash
      = (markers answer).filterMap (soleStone (refs.map stoneHash)) := by
    rw [map_filterMap]
    simp only [map_mention]
  have whole : (firstOccurrences stoneHash [] found).map stoneHash
      = citedStones (refs.map stoneHash) answer := by
    rw [map_firstOccurrences, stones]
    rfl
  have short : (firstOccurrences stoneHash [] found).length ≤ MAX_CITATIONS := by
    have distinct := nodup_firstOccurrences stoneHash [] found
    have known : (firstOccurrences stoneHash [] found).map stoneHash
        ⊆ refs.map stoneHash := by
      intro stone mem
      have occurs := (mem_map_firstOccurrences.mp mem).1
      obtain ⟨citation, cited, rfl⟩ := mem_map.mp occurs
      obtain ⟨marker, _, mention⟩ := mem_filterMap.mp cited
      obtain ⟨item, only, same⟩ := mention_of_filter mention
      have seen : item ∈ refs := by
        have kept : item ∈ refs.filter (fun item => marker.isPrefixOf item.stoneHash) := by
          rw [only]
          exact mem_singleton_self item
        exact (mem_filter.mp kept).1
      rw [same]
      exact mem_map_of_mem seen
    have bound := (subperm_of_subset distinct known).length_le
    rw [length_map, length_map] at bound
    exact bound.trans few
  rw [buildValidatedCitationsFromAnswer, collect_eq_take pos, take_of_length_le short]
  exact whole

theorem soleStone_eq_some_iff {stone : Text}
    : soleStone stones marker = some stone
      ↔ stones.filter (fun other => marker.isPrefixOf other) = [stone] := by
  unfold soleStone
  split
  · rename_i only same
    rw [same, Option.some.injEq, List.cons.injEq]
    exact ⟨fun equal => ⟨equal, rfl⟩, fun equal => equal.1⟩
  · rename_i several
    constructor
    · intro never
      cases never
    · intro only
      exact absurd only (several stone)

theorem fits_eq_length (marker : Text) (stones : List Text)
    : fits marker stones = (stones.filter (fun stone => marker.isPrefixOf stone)).length :=
  countP_eq_length_filter

/-- What fits among the stones fits among the first ones or among the others. -/
theorem filter_split (stones : List Text) (marker : Text)
    : stones.filter (fun stone => marker.isPrefixOf stone)
      = (stones.take MAX_CITATIONS).filter (fun stone => marker.isPrefixOf stone)
        ++ (stones.drop MAX_CITATIONS).filter (fun stone => marker.isPrefixOf stone) := by
  rw [← filter_append, take_append_drop]

theorem soleStone_take (settled : SettledByFirst stones marker)
    : soleStone (stones.take MAX_CITATIONS) marker = soleStone stones marker := by
  have split := filter_split stones marker
  unfold SettledByFirst at settled
  rw [fits_eq_length, fits_eq_length] at settled
  unfold soleStone
  rw [split]
  generalize (stones.take MAX_CITATIONS).filter (fun stone => marker.isPrefixOf stone) = within
    at settled
  generalize (stones.drop MAX_CITATIONS).filter (fun stone => marker.isPrefixOf stone) = past
    at settled
  rcases settled with none | two | ⟨none, several⟩
  · rw [eq_nil_of_length_eq_zero none, append_nil]
  · cases within with
    | nil => simp at two
    | cons first rest =>
      cases rest with
      | nil => simp at two
      | cons second others => rfl
  · rw [eq_nil_of_length_eq_zero none, nil_append]
    cases past with
    | nil => simp at several
    | cons first rest =>
      cases rest with
      | nil => simp at several
      | cons second others => rfl

theorem settled_of_soleStone (nodup : stones.Nodup)
    (found : ∀ stone, soleStone stones marker = some stone → stone ∈ stones.take MAX_CITATIONS)
    (exact' : ∀ stone, soleStone (stones.take MAX_CITATIONS) marker = some stone →
      stones.filter (fun other => marker.isPrefixOf other) = [stone])
    : SettledByFirst stones marker := by
  have split := filter_split stones marker
  unfold SettledByFirst
  rw [fits_eq_length, fits_eq_length]
  cases within : (stones.take MAX_CITATIONS).filter (fun stone => marker.isPrefixOf stone) with
  | nil =>
    rw [within, nil_append] at split
    cases past : (stones.drop MAX_CITATIONS).filter (fun stone => marker.isPrefixOf stone) with
    | nil => exact .inl rfl
    | cons first rest =>
      cases rest with
      | nil =>
        rw [past] at split
        have seen := found first (soleStone_eq_some_iff.mpr split)
        have beyond : first ∈ stones.drop MAX_CITATIONS := by
          have kept : first ∈ (stones.drop MAX_CITATIONS).filter
              (fun stone => marker.isPrefixOf stone) := by
            rw [past]
            exact mem_singleton_self first
          exact (mem_filter.mp kept).1
        rw [← take_append_drop MAX_CITATIONS stones] at nodup
        exact absurd rfl ((nodup_append.mp nodup).2.2 first seen first beyond)
      | cons second others =>
        refine .inr (.inr ⟨rfl, ?_⟩)
        simp only [length_cons]
        omega
  | cons first rest =>
    cases rest with
    | nil =>
      have only := exact' first (soleStone_eq_some_iff.mpr within)
      rw [split, within, singleton_append, List.cons.injEq] at only
      rw [only.2]
      exact .inl rfl
    | cons second others =>
      refine .inr (.inl ?_)
      simp only [length_cons]
      omega

theorem result_of_answer (toUpperCase : Text → Text) {delegation : Value} {answer : Text}
    (succeeded : (delegation.get (text "ok")).isTrue = true)
    (said : (delegation.get (text "output")).get (text "text") = .string answer)
    (short : utf8ByteLength answer ≤ SUBAGENT_RESULT_MAX_ANSWER_BYTES)
    : buildSubagentResultFromDelegation toUpperCase delegation
      = {
        error := none
        answer
        answerBytes := utf8ByteLength answer
        citations :=
          buildValidatedCitationsFromAnswer
            (buildCitationsFromDelegationEvidence toUpperCase (delegation.get (text "evidence")))
            answer
        evidenceRefs :=
          buildCitationsFromDelegationEvidence toUpperCase (delegation.get (text "evidence"))
      } := by
  have isObject : delegation.isObject = true ∧ delegation.truthy = true := by
    cases delegation with
    | object proto properties => exact ⟨rfl, rfl⟩
    | _ => exact absurd succeeded Bool.false_ne_true
  unfold buildSubagentResultFromDelegation
  simp only [isObject.1, isObject.2, succeeded, said, Value.string?_string, Option.getD_some,
    Bool.not_true, Bool.true_or, Bool.or_false, Bool.false_eq_true, if_false,
    if_neg (Nat.not_lt.mpr short)]

/-- For every delegation that succeeded, every evidence and every answer within the cap, the citations of the
compact result are exactly the stones that the answer cites and no marker is taken for a stone that it does not
tell from the others, if and only if every marker is settled by the first stones of the evidence.
-/
theorem citesExactly_iff (toUpperCase : Text → Text) {delegation : Value} {answer : Text}
    (succeeded : (delegation.get (text "ok")).isTrue = true)
    (answered : (delegation.get (text "output")).get (text "text") = .string answer)
    (short : utf8ByteLength answer ≤ SUBAGENT_RESULT_MAX_ANSWER_BYTES)
    : CitesExactly toUpperCase (delegation.get (text "evidence")) answer
        (buildSubagentResultFromDelegation toUpperCase delegation)
      ↔ ∀ marker ∈ markers answer,
          SettledByFirst (evidenceStones toUpperCase (delegation.get (text "evidence"))) marker := by
  have result := result_of_answer toUpperCase succeeded answered short
  have kept := stones_of_evidenceRefs toUpperCase (delegation.get (text "evidence"))
  have nodup := nodup_evidenceStones toUpperCase (delegation.get (text "evidence"))
  generalize delegation.get (text "evidence") = evidence at *
  generalize stones_eq : evidenceStones toUpperCase evidence = stones at *
  generalize buildCitationsFromDelegationEvidence toUpperCase evidence = refs at *
  have few : refs.length ≤ MAX_CITATIONS := by
    have lengths := congrArg List.length kept
    rw [length_map, length_take] at lengths
    omega
  have cited := stones_of_citations few answer
  rw [kept] at cited
  rw [result]
  constructor
  · intro exactly marker member
    have cites := exactly.cited
    have attributed := exactly.attributed
    simp only [stones_eq] at cites attributed
    refine settled_of_soleStone nodup (fun stone sole => ?_) (fun stone sole => ?_)
    · have listed : stone ∈ citedStones stones answer := by
        have found : stone ∈ (markers answer).filterMap (soleStone stones) :=
          mem_filterMap.mpr ⟨marker, member, sole⟩
        have first
            : stone ∈ (citedStones stones answer).map id
              ↔ stone ∈ ((markers answer).filterMap (soleStone stones)).map id ∧ stone ∉ [] :=
          mem_map_firstOccurrences
        rw [map_id, map_id] at first
        exact first.mpr ⟨found, not_mem_nil⟩
      rw [← cites, cited] at listed
      have occurs := firstOccurrences_subset id [] _ listed
      obtain ⟨other, _, only⟩ := mem_filterMap.mp occurs
      have among : stone ∈ (stones.take MAX_CITATIONS).filter
          (fun held => other.isPrefixOf held) := by
        rw [soleStone_eq_some_iff.mp only]
        exact mem_singleton_self stone
      exact (mem_filter.mp among).1
    · rw [← kept, ← map_mention, Option.map_eq_some_iff] at sole
      obtain ⟨citation, mention, rfl⟩ := sole
      exact attributed marker member citation mention
  · intro settled
    refine ⟨?_, fun marker member citation mention => ?_⟩
    · simp only [stones_eq, cited, citedStones]
      congr 1
      exact filterMap_congr (fun marker member => soleStone_take (settled marker member))
    · have sole : soleStone (stones.take MAX_CITATIONS) marker = some citation.stoneHash := by
        rw [← kept, ← map_mention, mention]
        rfl
      rw [soleStone_take (settled marker member)] at sole
      rw [stones_eq]
      exact soleStone_eq_some_iff.mp sole

namespace Sample

/-- A stone hash with a number at its end or at its beginning. -/
def numbered (n : Nat) : Text :=
  List.replicate 62 0x30 ++ [hexDigit (n / 16), hexDigit (n % 16)]

/-- The answer of a delegation that cites a stone. -/
def answerCiting (cited : Nat) : Text :=
  text "See [stone:" ++ numbered cited ++ text " ref:r1]."

/-- A delegation whose evidence are the first stones of the memory, and which cites one of them. -/
def delegationCiting (stones cited : Nat) : Value :=
  .literal
    [(text "ok", .bool true),
      (text "output",
        .literal [(text "text", .string (answerCiting cited))]),
      (text "evidence",
        .literal
          [(text "memory_refs",
            .array
              ((List.range stones).map (fun n =>
                some (.literal [(text "stone_hash", .string (numbered n))]))))])]

end Sample

open Sample

theorem citesExactly_thirdOfMany
    : CitesExactly id ((Sample.delegationCiting 25 3).get (text "evidence")) (Sample.answerCiting 3)
        (buildSubagentResultFromDelegation id (Sample.delegationCiting 25 3)) :=
  (citesExactly_iff id (by decide +kernel) rfl (by decide +kernel)).mpr (by decide +kernel)

/-- The twenty-first stone of the evidence cannot be cited. -/
theorem citation_dropped
    : ¬CitesExactly id ((Sample.delegationCiting 21 20).get (text "evidence")) (Sample.answerCiting 20)
        (buildSubagentResultFromDelegation id (Sample.delegationCiting 21 20)) := by
  intro exactly
  have none : (buildSubagentResultFromDelegation id (delegationCiting 21 20)).citations.map
      stoneHash = [] := by
    decide +kernel
  have cited : citedStones
      (evidenceStones id ((delegationCiting 21 20).get (text "evidence")))
      (answerCiting 20) = [numbered 20] := by
    decide +kernel
  have same := exactly.cited
  rw [none, cited] at same
  cases same

end CairnStone.Delegation
