import Mathlib.Data.List.Chain
import Mathlib.Data.List.Perm.Basic
import Mathlib.Data.List.Nodup
import Mathlib.Logic.Relation

/-! Depth-first search that reports cycles: a closed path is recorded at every edge back into the stack,
unless its key was recorded before.
-/

namespace CairnStone.Data

open List Nat Relation

variable {α κ : Type} (next : α → List α) (key : List α → κ)

/-- What was visited, the newest first, and the closed paths recorded so far. -/
structure Search (α : Type) where
  (visited : List α)
  cycles : List (List α)

def Edge (u v : α) : Prop :=
  v ∈ next u

/-- A simple path that returns to its start. -/
structure ClosedPath (cycle : List α) : Prop where
  path : cycle.IsChain (Edge next)
  simple : ∃ start rest, cycle = start :: (rest ++ [start]) ∧ (start :: rest).Nodup

/-- Every edge from a visited vertex leads to one visited before, or lies on a recorded path. -/
def Settled (cycles : List (List α)) : List α → Prop
  | [] => True
  | u :: before =>
    (∀ v ∈ next u, v ∈ before ∨ ∃ cycle ∈ cycles, u ∈ cycle ∧ v ∈ cycle) ∧ Settled cycles before

/-- No two paths through the vertices have one key. -/
def TellsApart (ids : List α) : Prop :=
  ∀ a b : List α, a ⊆ ids → b ⊆ ids → a ≠ [] → b ≠ [] → key a = key b → a = b

variable {next key} {ids stack visited : List α} {search : Search α} {cycles : List (List α)}
  {u v : α}

theorem Settled.mono {cycles' : List (List α)} (settled : Settled next cycles visited)
    (more : cycles ⊆ cycles')
    : Settled next cycles' visited := by
  induction visited with
  | nil => trivial
  | cons u before ih =>
    refine ⟨fun v edge => ?_, ih settled.2⟩
    rcases settled.1 v edge with prior | ⟨cycle, saved, on⟩
    · exact .inl prior
    · exact .inr ⟨cycle, more saved, on⟩

theorem Settled.of_append {after before : List α} (settled : Settled next cycles (after ++ u :: before))
    : ∀ v ∈ next u, v ∈ before ∨ ∃ cycle ∈ cycles, u ∈ cycle ∧ v ∈ cycle := by
  induction after with
  | nil => exact settled.1
  | cons w after ih => exact ih settled.2

/-- Vertices each of which has an edge to another of them, off every recorded path, stay unvisited.
-/
theorem Settled.not_mem {S : α → Prop} (settled : Settled next cycles visited)
    (goes : ∀ w, S w → ∃ v, S v ∧ Edge next w v ∧ ∀ cycle ∈ cycles, w ∈ cycle → v ∉ cycle)
    : ∀ w, S w → w ∉ visited := by
  induction visited with
  | nil => exact fun _ _ => not_mem_nil
  | cons u before ih =>
    intro w here mem
    rcases mem_cons.mp mem with rfl | prior
    · obtain ⟨v, there, edge, off⟩ := goes w here
      rcases settled.1 v edge with prior | ⟨cycle, saved, on, on'⟩
      · exact ih settled.2 v there prior
      · exact off cycle saved on on'
    · exact ih settled.2 w here prior

theorem ClosedPath.reachable {cycle : List α} (closed : ClosedPath next cycle) (u_mem : u ∈ cycle)
    (v_mem : v ∈ cycle)
    : ReflTransGen (Edge next) u v := by
  obtain ⟨start, rest, rfl, _⟩ := closed.simple
  have ordered : (start :: (rest ++ [start])).Pairwise (ReflTransGen (Edge next)) :=
    isChain_iff_pairwise.mp (closed.path.imp (fun _ _ => .single))
  have out {w : α} (mem : w ∈ start :: (rest ++ [start]))
      : ReflTransGen (Edge next) start w := by
    rcases mem_cons.mp mem with rfl | later
    · exact .refl
    · exact (pairwise_cons.mp ordered).1 w later
  have back {w : α} (mem : w ∈ start :: (rest ++ [start]))
      : ReflTransGen (Edge next) w start := by
    rw [← cons_append] at ordered mem
    rcases mem_append.mp mem with prior | last
    · exact (pairwise_append.mp ordered).2.2 w prior start (mem_singleton_self _)
    · rw [mem_singleton.mp last]
  exact (back u_mem).trans (out v_mem)

structure Sound (next : α → List α) (key : List α → κ) (ids : List α) (search : Search α) : Prop where
  known : search.visited ⊆ ids
  nodup : search.visited.Nodup
  closed : ∀ cycle ∈ search.cycles, ClosedPath next cycle ∧ cycle ⊆ ids
  once : (search.cycles.map key).Nodup
  settled : Settled next search.cycles search.visited

structure Extends (search search' : Search α) : Prop where
  visited : search.visited ⊆ search'.visited
  cycles : search.cycles ⊆ search'.cycles

theorem Extends.refl (search : Search α) : Extends search search :=
  ⟨List.Subset.refl _, List.Subset.refl _⟩

theorem Extends.trans {a b c : Search α} (first : Extends a b) (second : Extends b c)
    : Extends a c :=
  ⟨List.Subset.trans first.visited second.visited, List.Subset.trans first.cycles second.cycles⟩

/-- The edge from `u` to `v` leads to a visited vertex, or lies on a recorded path. -/
def Search.Covers (search : Search α) (u v : α) : Prop :=
  v ∈ search.visited ∨ ∃ cycle ∈ search.cycles, u ∈ cycle ∧ v ∈ cycle

theorem Search.Covers.later {search' : Search α} (more : Extends search search')
    (covers : search.Covers u v)
    : search'.Covers u v :=
  covers.imp (fun seen => more.visited seen) (Exists.imp (fun _ on => ⟨more.cycles on.1, on.2⟩))

/-- The path from a root to the vertex that is explored. -/
structure Trail (next : α → List α) (ids stack : List α) (search : Search α) : Prop where
  nodup : stack.Nodup
  path : stack.IsChain (Edge next)
  known : stack ⊆ ids
  unvisited : ∀ w ∈ stack, w ∉ search.visited

theorem Trail.push (trail : Trail next ids (stack ++ [u]) search) (edge : Edge next u v)
    (known : v ∈ ids) (fresh : v ∉ stack ++ [u]) (unseen : v ∉ search.visited)
    : Trail next ids (stack ++ [u] ++ [v]) search := by
  refine ⟨?_, ?_, ?_, fun w mem => ?_⟩
  · exact trail.nodup.append (nodup_singleton _)
      (fun w old new => fresh (mem_singleton.mp new ▸ old))
  · rw [append_assoc, singleton_append]
    exact isChain_append_cons_cons.mpr ⟨trail.path, edge, .singleton _⟩
  · exact append_subset.mpr ⟨trail.known, cons_subset.mpr ⟨known, nil_subset _⟩⟩
  · rcases mem_append.mp mem with old | new
    · exact trail.unvisited w old
    · rwa [mem_singleton.mp new]

/-- A loop over vertices keeps what each round keeps, and covers each of them. -/
theorem foldlM_covers {step : Search α → α → Option (Search α)} {I : Search α → Prop}
    {Q : α → Search α → Prop} {todo : List α}
    (later : ∀ {v a b}, Extends a b → Q v a → Q v b)
    (steps : ∀ v ∈ todo, ∀ a, I a → ∃ b, step a v = some b ∧ I b ∧ Extends a b ∧ Q v b)
    {a : Search α} (holds : I a)
    : ∃ b, todo.foldlM step a = some b ∧ I b ∧ Extends a b ∧ ∀ v ∈ todo, Q v b := by
  induction todo generalizing a with
  | nil => exact ⟨a, rfl, holds, .refl a, forall_mem_nil _⟩
  | cons v rest ih =>
    obtain ⟨b, stepped, holds1, more1, covered⟩ := steps v (.head _) a holds
    obtain ⟨c, folded, holds2, more2, all⟩ :=
      ih (fun w mem => steps w (.tail _ mem)) holds1
    refine ⟨c, ?_, holds2, more1.trans more2, fun w mem => ?_⟩
    · rw [foldlM_cons, stepped]
      exact folded
    · rcases mem_cons.mp mem with rfl | mem
      · exact later more2 covered
      · exact all w mem

/-- A vertex on a cycle has a recorded path among the vertices that it reaches and that reach it.
-/
theorem Sound.complete (sound : Sound next key ids search) (visited : u ∈ search.visited)
    (around : TransGen (Edge next) u u)
    : ∃ cycle ∈ search.cycles, ∀ v ∈ cycle,
        ReflTransGen (Edge next) u v ∧ ReflTransGen (Edge next) v u := by
  by_contra none
  push Not at none
  refine sound.settled.not_mem
    (S := fun v => ReflTransGen (Edge next) u v ∧ ReflTransGen (Edge next) v u)
    (fun w reach => ?_) u ⟨.refl, .refl⟩ visited
  obtain ⟨out, back⟩ := reach
  obtain ⟨v, edge, rest⟩ := TransGen.head'_iff.mp
    (TransGen.trans_right back (around.trans_left out))
  refine ⟨v, ⟨out.tail edge, rest.trans back⟩, edge, fun cycle saved on on' => ?_⟩
  obtain ⟨x, mem, apart⟩ := none cycle saved
  have closed := (sound.closed cycle saved).1
  exact apart (out.trans (closed.reachable on mem)) ((closed.reachable mem on).trans back)

variable [DecidableEq α] [DecidableEq κ]

variable (key) in
def Search.record (search : Search α) (cycle : List α) : Search α :=
  if key cycle ∈ search.cycles.map key then search
  else { search with cycles := search.cycles ++ [cycle] }

variable (next key) in
/-- The search below `id`. It gives up when the stack outgrows the fuel. -/
def visit : Nat → List α → α → Search α → Option (Search α)
  | 0, _, _, _ => none
  | fuel + 1, stack, id, search =>
    if id ∈ search.visited then some search
    else do
      let stack := stack ++ [id]
      let search ← (next id).foldlM
        (fun search dependency =>
          if dependency ∈ stack then
            some (search.record key (stack.drop (stack.idxOf dependency) ++ [dependency]))
          else if dependency ∈ search.visited then some search
          else visit fuel stack dependency search)
        search
      return { search with visited := id :: search.visited }

omit [DecidableEq α] in
theorem Sound.record (tells : TellsApart key ids) (sound : Sound next key ids search) {cycle : List α}
    (closed : ClosedPath next cycle) (known : cycle ⊆ ids)
    : Sound next key ids (search.record key cycle) ∧ Extends search (search.record key cycle)
      ∧ (search.record key cycle).visited = search.visited
      ∧ cycle ∈ (search.record key cycle).cycles := by
  unfold Search.record
  split
  next seen =>
    obtain ⟨prior, saved, same⟩ := mem_map.mp seen
    have filled {cycle : List α} (closed : ClosedPath next cycle) : cycle ≠ [] := by
      obtain ⟨start, rest, rfl, _⟩ := closed.simple
      exact cons_ne_nil _ _
    cases tells prior cycle (sound.closed _ saved).2 known
      (filled (sound.closed _ saved).1) (filled closed) same
    exact ⟨sound, .refl _, rfl, saved⟩
  next fresh =>
    have more : search.cycles ⊆ search.cycles ++ [cycle] := subset_append_left _ _
    refine ⟨⟨sound.known, sound.nodup, fun other mem => ?_, ?_, sound.settled.mono more⟩,
      ⟨List.Subset.refl _, more⟩, rfl, mem_append_right _ (mem_singleton_self _)⟩
    · rcases mem_append.mp mem with old | new
      · exact sound.closed other old
      · rw [mem_singleton.mp new]
        exact ⟨closed, known⟩
    · rw [map_append]
      exact sound.once.append (nodup_singleton _)
        (fun a old new => fresh (mem_singleton.mp new ▸ old))

/-- An edge back into the stack closes a simple path. -/
theorem closedPath_of_back (nodup : (stack ++ [u]).Nodup) (path : (stack ++ [u]).IsChain (Edge next))
    (edge : Edge next u v) (back : v ∈ stack ++ [u])
    : ∃ cycle, cycle = (stack ++ [u]).drop ((stack ++ [u]).idxOf v) ++ [v]
        ∧ ClosedPath next cycle ∧ cycle ⊆ stack ++ [u] ∧ u ∈ cycle ∧ v ∈ cycle := by
  have bound := idxOf_lt_length_of_mem back
  generalize position : (stack ++ [u]).idxOf v = i at bound
  have begins : (stack ++ [u]).drop i = v :: (stack ++ [u]).drop (i + 1) := by
    rw [drop_eq_getElem_cons bound]
    simp only [← position, getElem_idxOf]
  have ends : ∃ front, (stack ++ [u]).drop i = front ++ [u] := by
    rw [length_append, length_singleton] at bound
    exact ⟨stack.drop i, drop_append_of_le_length (by omega)⟩
  obtain ⟨front, ends⟩ := ends
  refine ⟨_, rfl, ⟨?_, v, _, congrArg (· ++ [v]) begins, begins ▸ nodup.sublist (drop_sublist _ _)⟩,
    ?_, ?_, mem_append_right _ (mem_singleton_self _)⟩
  · have chain := path.drop i
    rw [ends] at chain ⊢
    rw [append_assoc, singleton_append]
    exact isChain_append_cons_cons.mpr ⟨chain, edge, .singleton _⟩
  · refine append_subset.mpr ⟨drop_subset _ _, ?_⟩
    exact cons_subset.mpr ⟨back, nil_subset _⟩
  · rw [ends]
    simp

/-- Exploring a fresh vertex ends, and settles it. Witness: induction on the fuel; the stack has no repetition,
so it does not outgrow the vertices.
-/
theorem visit_spec (tells : TellsApart key ids) (into : ∀ u, next u ⊆ ids) {fuel : Nat} {id : α}
    (sound : Sound next key ids search) (trail : Trail next ids (stack ++ [id]) search)
    (enough : ids.length ≤ fuel + stack.length)
    : ∃ search', visit next key fuel stack id search = some search' ∧ Sound next key ids search'
        ∧ Extends search search' ∧ id ∈ search'.visited ∧ ∀ w ∈ stack, w ∉ search'.visited := by
  induction fuel generalizing stack id search with
  | zero =>
    have short := (subperm_of_subset trail.nodup trail.known).length_le
    rw [length_append, length_singleton] at short
    omega
  | succ fuel ih =>
    have last : id ∈ stack ++ [id] := mem_append_right _ (mem_singleton_self _)
    have steps
        : ∀ v ∈ next id, ∀ a, Sound next key ids a ∧ Trail next ids (stack ++ [id]) a
          → ∃ b, (if v ∈ stack ++ [id] then
              some (a.record key ((stack ++ [id]).drop ((stack ++ [id]).idxOf v) ++ [v]))
            else if v ∈ a.visited then some a
            else visit next key fuel (stack ++ [id]) v a) = some b
            ∧ (Sound next key ids b ∧ Trail next ids (stack ++ [id]) b) ∧ Extends a b
            ∧ b.Covers id v := by
      rintro v edge a ⟨sound, trail⟩
      split
      next back =>
        obtain ⟨cycle, rfl, closed, sub, on, on'⟩ :=
          closedPath_of_back trail.nodup trail.path edge back
        obtain ⟨sound', more, same, saved⟩ := sound.record tells closed
          (List.Subset.trans sub trail.known)
        exact ⟨_, rfl, ⟨sound', { trail with unvisited := same ▸ trail.unvisited }⟩, more,
          .inr ⟨_, saved, on, on'⟩⟩
      next fresh =>
      split
      · next seen => exact ⟨a, rfl, ⟨sound, trail⟩, .refl a, .inl seen⟩
      next unseen =>
        obtain ⟨b, visited, sound', more, seen, apart⟩ := ih sound
          (trail.push edge (into id edge) fresh unseen)
          (by rw [length_append, length_singleton]; omega)
        exact ⟨b, visited, ⟨sound', { trail with unvisited := apart }⟩, more, .inl seen⟩
    obtain ⟨explored, folded, ⟨sound1, trail1⟩, more, covered⟩ :=
      foldlM_covers (Q := fun v b => b.Covers id v) Search.Covers.later steps ⟨sound, trail⟩
    refine ⟨{ explored with visited := id :: explored.visited }, ?_, ?_, ?_, ?_, ?_⟩
    · rw [visit, if_neg (trail.unvisited id last)]
      simp only [folded, bind, Option.bind, pure]
    · exact ⟨cons_subset.mpr ⟨trail.known last, sound1.known⟩,
        nodup_cons.mpr ⟨trail1.unvisited id last, sound1.nodup⟩, sound1.closed, sound1.once,
        covered, sound1.settled⟩
    · exact ⟨fun w seen => .tail _ (more.visited seen), more.cycles⟩
    · exact .head _
    · intro w mem seen
      rcases mem_cons.mp seen with rfl | seen
      · exact (nodup_append.mp trail.nodup).2.2 w mem w (mem_singleton_self _) rfl
      · exact trail1.unvisited w (mem_append_left _ mem) seen

variable (next key) in
/-- The search from every vertex in turn. -/
def searchCycles (ids : List α) : Option (Search α) :=
  ids.foldlM
    (fun search id => if id ∈ search.visited then some search else visit next key ids.length [] id search)
    ⟨[], []⟩

theorem searchCycles_spec (tells : TellsApart key ids) (into : ∀ u, next u ⊆ ids)
    : ∃ search, searchCycles next key ids = some search ∧ Sound next key ids search
        ∧ ∀ id ∈ ids, id ∈ search.visited := by
  have start : Sound next key ids ⟨[], []⟩ :=
    ⟨nil_subset _, .nil, forall_mem_nil _, .nil, trivial⟩
  have steps
      : ∀ id ∈ ids, ∀ a, Sound next key ids a
        → ∃ b, (if id ∈ a.visited then some a else visit next key ids.length [] id a) = some b
          ∧ Sound next key ids b ∧ Extends a b ∧ id ∈ b.visited := by
    intro id mem a sound
    split
    · next seen => exact ⟨a, rfl, sound, .refl a, seen⟩
    next unseen =>
      have trail : Trail next ids ([] ++ [id]) a :=
        ⟨nodup_singleton _, .singleton _, cons_subset.mpr ⟨mem, nil_subset _⟩,
          fun w alone => mem_singleton.mp alone ▸ unseen⟩
      obtain ⟨b, visited, sound', more, seen, _⟩ := visit_spec tells into sound trail (le_refl _)
      exact ⟨b, visited, sound', more, seen⟩
  obtain ⟨search, found, sound, _, all⟩ :=
    foldlM_covers (Q := fun v b => v ∈ b.visited) (fun more seen => more.visited seen) steps start
  exact ⟨search, found, sound, all⟩

omit [DecidableEq κ] in
/-- No path is recorded exactly where the vertices can be ordered, each behind those its edges lead to.
-/
theorem Sound.cycles_eq_nil_iff (sound : Sound next key ids search) (nodup : ids.Nodup)
    (all : ∀ id ∈ ids, id ∈ search.visited)
    : search.cycles = []
      ↔ ∃ order, order.Perm ids
          ∧ ∀ front u back, order = front ++ u :: back → ∀ v ∈ next u, v ∈ front := by
  constructor
  · intro none
    have settled := sound.settled
    rw [none] at settled
    refine ⟨search.visited.reverse, (reverse_perm _).trans ?_, fun front u back split v edge => ?_⟩
    · exact (perm_ext_iff_of_nodup sound.nodup nodup).mpr
        (fun id => ⟨fun seen => sound.known seen, all id⟩)
    · rw [← reverse_reverse search.visited, split, reverse_append, reverse_cons,
        append_assoc] at settled
      rcases settled.of_append v edge with prior | ⟨_, saved, _⟩
      · exact mem_reverse.mp prior
      · exact absurd saved not_mem_nil
  · rintro ⟨order, perm, before⟩
    refine eq_nil_iff_forall_not_mem.mpr (fun cycle saved => ?_)
    obtain ⟨closed, known⟩ := sound.closed cycle saved
    have descends : (cycle.map order.idxOf).IsChain (· > ·) := by
      refine (isChain_map _).mpr (closed.path.imp_of_mem_imp (fun x y mem _ edge => ?_))
      obtain ⟨front, back, split⟩ := append_of_mem (perm.mem_iff.mpr (known mem))
      have apart : x ∉ front := by
        have nodup' := perm.nodup_iff.mpr nodup
        rw [split] at nodup'
        exact fun mem => (nodup_append.mp nodup').2.2 x mem x (.head _) rfl
      have found := before front x back split y edge
      rw [split, idxOf_append_of_mem found, idxOf_append_of_notMem apart]
      exact lt_of_lt_of_le (idxOf_lt_length_of_mem found) (le_add_right _ _)
    obtain ⟨start, rest, rfl, _⟩ := closed.simple
    rw [map_cons, map_append] at descends
    exact absurd ((pairwise_cons.mp (isChain_iff_pairwise.mp descends)).1 _
      (mem_append_right _ (mem_singleton_self _))) (lt_irrefl _)

end CairnStone.Data
