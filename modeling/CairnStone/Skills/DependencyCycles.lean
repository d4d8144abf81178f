import CairnStone.Data.DepthFirst
import CairnStone.JavaScript.Members
import CairnStone.JavaScript.TextMethods

/-! The dependency cycles that the skill linter reports. -/

namespace CairnStone.Skills

open JavaScript Data List

def optionalString (value : Value) : Option Text :=
  (value.string?.map trim).filter (· ≠ [])

def normalizeStringArray : Value → List Text
  | .array slots => slots.filterMap (·.bind optionalString)
  | _ => []

def isIdSeparator (u : CodeUnit) : Bool := u == 0x2E || u == 0x2D

/-- `SKILL_ID_RE`: runs of lower-case letters and digits, between single separators. -/
def isSkillId (id : Text) : Bool :=
  id.all (fun u => isLower u || isDigit u || isIdSeparator u)
  && (id.splitOnP isIdSeparator).all (· ≠ [])

def skillId (skill : Value) : Option Text :=
  optionalString (skill.get (text "id"))

abbrev Graph := List (Text × List Text)

def Graph.ids (graph : Graph) : List Text :=
  graph.map Prod.fst

/-- `Map.prototype.set` -/
def Graph.set (graph : Graph) (id : Text) (dependencies : List Text) : Graph :=
  if id ∈ graph.ids then
    graph.map (fun entry => if entry.1 = id then (id, dependencies) else entry)
  else graph ++ [(id, dependencies)]

def dependencyGraph (skills : List Value) : Graph :=
  skills.foldl
    (fun graph skill =>
      match skillId skill with
      | none => graph
      | some id => graph.set id (normalizeStringArray (skill.get (text "dependencies"))))
    []

/-- `graph.get(id) || []`, without what is no key. -/
def Graph.next (graph : Graph) (id : Text) : List Text :=
  ((graph.lookup id).getD []).filter (· ∈ graph.ids)

/-- `cycle.join("->")` -/
def joinArrow : List Text → Text
  | [] => []
  | [id] => id
  | id :: rest => id ++ 0x2D :: 0x3E :: joinArrow rest

def findDependencyCycles (skills : List Value) : Option (List (List Text)) :=
  let graph := dependencyGraph skills
  (searchCycles graph.next joinArrow graph.ids).map Search.cycles

/-- What `lintSkillCatalog` adds to its issues for the cycles. -/
def cycleIssues (cycles : List (List Text)) : List Value :=
  cycles.map (fun cycle =>
    .literal
      [(text "severity", .string (text "error")), (text "code", .string (text "dependency_cycle")),
        (text "cycle", .array (cycle.map (fun id => some (.string id))))])

theorem ids_set (graph : Graph) (id : Text) (dependencies : List Text)
    : (graph.set id dependencies).ids = if id ∈ graph.ids then graph.ids else graph.ids ++ [id] := by
  unfold Graph.set
  split
  · refine (map_map).trans (map_congr_left (fun entry _ => ?_))
    rw [Function.comp_apply]
    split
    next same => exact same.symm
    · rfl
  · exact map_append

/-- The graph has each id of the skills once. -/
theorem ids_dependencyGraph {skills : List Value}
    (valid : ∀ id ∈ skills.filterMap skillId, isSkillId id = true)
    : (dependencyGraph skills).ids.Nodup
      ∧ ∀ id ∈ (dependencyGraph skills).ids, isSkillId id = true := by
  unfold dependencyGraph
  refine List.foldlRecOn skills _ (motive := fun graph : Graph =>
    graph.ids.Nodup ∧ ∀ id ∈ graph.ids, isSkillId id = true)
    ⟨.nil, forall_mem_nil _⟩ (fun graph fine skill mem => ?_)
  split
  · exact fine
  next id named =>
  rw [ids_set]
  split
  · exact fine
  next fresh =>
  refine ⟨fine.1.append (nodup_singleton _) (fun other old new => ?_), fun other mem => ?_⟩
  · exact fresh (mem_singleton.mp new ▸ old)
  · rcases mem_append.mp mem with old | new
    · exact fine.2 other old
    · rw [mem_singleton.mp new]
      exact valid id (mem_filterMap.mpr ⟨skill, by assumption, named⟩)

theorem arrow_not_mem {id : Text} (valid : isSkillId id = true) : (0x3E : CodeUnit) ∉ id := by
  intro mem
  have plain := all_eq_true.mp (Bool.and_eq_true_iff.mp valid).1 _ mem
  exact absurd plain (by decide)

theorem joinArrow_cons (id first : Text) (rest : List Text)
    : joinArrow (id :: first :: rest) = (id ++ [0x2D]) ++ 0x3E :: joinArrow (first :: rest) :=
  (append_assoc id [0x2D] _).symm

/-- The ids tell joined paths apart. Witness: induction on the path; no id contains the arrow's head.
-/
theorem tellsApart_joinArrow {ids : List Text} (valid : ∀ id ∈ ids, isSkillId id = true)
    : TellsApart joinArrow ids := by
  intro a
  induction a with
  | nil => exact fun _ _ _ filled => absurd rfl filled
  | cons x a ih =>
    intro b a_sub b_sub _ b_filled same
    cases b with
    | nil => exact absurd rfl b_filled
    | cons y b =>
    have plain {id : Text} (mem : id ∈ ids) : (0x3E : CodeUnit) ∉ id ++ [0x2D] := by
      simpa using arrow_not_mem (valid id mem)
    have x_plain := plain (a_sub (.head _))
    have y_plain := plain (b_sub (.head _))
    cases a with
    | nil =>
      cases b with
      | nil => exact congrArg (fun id => [id]) same
      | cons z b =>
        rw [joinArrow_cons] at same
        change x = _ at same
        exact absurd (mem_append_left _ (same ▸ by simp)) x_plain
    | cons w a =>
      cases b with
      | nil =>
        rw [joinArrow_cons] at same
        change _ = y at same
        exact absurd (mem_append_left _ (same ▸ by simp)) y_plain
      | cons z b =>
        rw [joinArrow_cons, joinArrow_cons] at same
        have size := congrArg (List.idxOf 0x3E) same
        rw [idxOf_append_of_notMem x_plain, idxOf_append_of_notMem y_plain,
          idxOf_cons_self, idxOf_cons_self] at size
        obtain ⟨first, rest⟩ := append_inj same size
        cases append_inj_left' first rfl
        rw [ih (z :: b) (subset_of_cons_subset a_sub) (subset_of_cons_subset b_sub)
          (cons_ne_nil _ _) (cons_ne_nil _ _) (cons.inj rest).2]

/-- What the search reports: simple closed paths, none twice, one in every strong component with a cycle, and
none exactly where the skills can be ordered by their dependencies.
-/
def LintsCycles (skills : List Value) : Prop :=
  let graph := dependencyGraph skills
  ∃ cycles, findDependencyCycles skills = some cycles
    ∧ (∀ cycle ∈ cycles, ClosedPath graph.next cycle ∧ cycle ⊆ graph.ids) ∧ cycles.Nodup
    ∧ (∀ u ∈ graph.ids, Relation.TransGen (Edge graph.next) u u
      → ∃ cycle ∈ cycles, ∀ v ∈ cycle, Relation.ReflTransGen (Edge graph.next) u v
          ∧ Relation.ReflTransGen (Edge graph.next) v u)
    ∧ (cycleIssues cycles = []
      ↔ ∃ order, order.Perm graph.ids
          ∧ ∀ front u back, order = front ++ u :: back → ∀ v ∈ graph.next u, v ∈ front)

/-- Two skills that depend on each other. -/
def twoSkills : List Value :=
  [.literal [(text "id", .string (text "a")), (text "dependencies", .array [some (.string (text "b"))])],
    .literal [(text "id", .string (text "b")), (text "dependencies", .array [some (.string (text "a"))])]]

example : findDependencyCycles twoSkills = some [[text "a", text "b", text "a"]] := by decide +kernel

end CairnStone.Skills
