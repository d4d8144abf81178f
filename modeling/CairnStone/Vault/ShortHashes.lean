import CairnStone.Vault.CommitAtomicity

/-! The hash that a short one stands for. A short hash loses its wildcards before it is searched for, and
the search ignores the case of letters, so a stone can be found whose hash does not begin with it.
-/

namespace CairnStone.Vault

open JavaScript Data Concurrency List Tables Program

variable {env : Env} {α : Type} {tables : Tables} {input h : Text}

/-- The hashes of the stones are 64 hexadecimal digits in lower case, each of one stone. -/
structure Hashed (tables : Tables) : Prop where
  length : ∀ row ∈ tables.stones, row.hash.length = 64
  hex : ∀ row ∈ tables.stones, ∀ u ∈ row.hash, u ∈ text "0123456789abcdef"
  unique : (tables.stones.map (·.hash)).Nodup

/-- A wildcard, or a letter that a search takes for another one. -/
def isRewritten (u : CodeUnit) : Bool :=
  u == 0x25 || u == 0x5F || isUpper u

def Begins (input hash : Text) : Prop :=
  (codePoints (input.filter (fun u => u ≠ 0x25 && u ≠ 0x5F))).map foldAscii
    <+: (codePoints hash).map foldAscii

/-- The hashes of exactly one stone begin in this way. -/
def BeginsOne (tables : Tables) (input : Text) : Prop :=
  ∃ row ∈ tables.stones, Begins input row.hash
    ∧ ∀ other ∈ tables.stones, Begins input other.hash → other.hash = row.hash

def Denotes (tables : Tables) (input h : Text) : Prop :=
  (∃ row ∈ tables.stones, row.hash = h)
  ∧ (input = h ∨ input <+: h ∧ ∀ row ∈ tables.stones, input <+: row.hash → row.hash = h)

variable (env tables input) in
/-- The text stands for the hash it begins, and what is written about a stone is about one that it begins. -/
structure ResolvesExactly : Prop where
  resolves
    : ∀ h, ((resolveStoneHash (.string input) : Operation env _).run tables).1 = .ok (.ok h)
      ↔ Denotes tables input h
  pathHeads
    : ∀ body : Value, body.get (text "hash") = .string input
      → ∀ head ∈ ((setPathHeadFromBody body : Operation env _).run tables).2.pathHeads,
        head ∈ tables.pathHeads ∨ input <+: head.headHash
  edges
    : ∀ (stoneHash : Text) (edge : Value), edge.get (text "to") = .string input
      → ∀ row ∈ ((commitEdge stoneHash edge : Operation env _).run tables).2.edges,
        row ∈ tables.edges ∨ input <+: row.toHash

-- Searching for a beginning

/-- A pattern without wildcards that ends in `%` matches what begins with it, in either case.
Witness: induction on the pattern, whose head matches the head of the text.
-/
theorem matchesLike_iff {front : List Nat} (plain : ∀ c ∈ front, c ≠ 0x25 ∧ c ≠ 0x5F) (s : List Nat)
    : matchesLike (front ++ [0x25]) s = true ↔ front.map foldAscii <+: s.map foldAscii := by
  induction front generalizing s with
  | nil =>
    refine iff_of_true (any_eq_true.mpr ⟨[], ?_, rfl⟩) nil_prefix
    exact (mem_tails _ _).mpr nil_suffix
  | cons c front ih =>
    obtain ⟨noPercent, noUnderscore⟩ := plain c (.head _)
    cases s with
    | nil => simp [matchesLike]
    | cons x rest =>
      have tail := ih (fun d mem => plain d (.tail _ mem)) rest
      simp [matchesLike, noUnderscore, tail, cons_prefix_cons]

/-- A code point below the surrogates is a unit. Witness: the recursion of `codePoints`. -/
theorem mem_of_codePoints {s : Text} {c : Nat} (mem : c ∈ codePoints s) (low : c < 0x10000)
    : ∃ u ∈ s, u.val = c := by
  induction s using codePoints.induct with
  | case1 => cases mem
  | case2 u => exact ⟨u, mem_singleton_self u, (mem_singleton.mp mem).symm⟩
  | case3 first second rest pair ih =>
    rw [codePoints, if_pos pair] at mem
    rcases mem_cons.mp mem with same | later
    · omega
    · obtain ⟨u, within, same⟩ := ih later
      exact ⟨u, .tail _ (.tail _ within), same⟩
  | case4 first second rest single ih =>
    rw [codePoints, if_neg single] at mem
    rcases mem_cons.mp mem with rfl | later
    · exact ⟨first, .head _, rfl⟩
    · obtain ⟨u, within, same⟩ := ih later
      exact ⟨u, .tail _ within, same⟩

theorem like_iff_begins (input hash : Text)
    : like (input.filter (fun u => u ≠ 0x25 && u ≠ 0x5F) ++ text "%") hash = true
      ↔ Begins input hash := by
  have percent : codePoints (input.filter (fun u => u ≠ 0x25 && u ≠ 0x5F) ++ text "%") = _ :=
    @codePoints_append _ 0x25 [] (by decide)
  rw [like, percent]
  refine matchesLike_iff (fun c mem => ?_) _
  constructor
  · rintro rfl
    obtain ⟨u, within, same⟩ := mem_of_codePoints mem (by decide)
    obtain rfl : u = 0x25 := Fin.ext same
    simp at within
  · rintro rfl
    obtain ⟨u, within, same⟩ := mem_of_codePoints mem (by decide)
    obtain rfl : u = 0x5F := Fin.ext same
    simp at within

theorem codePoints_plain {s : Text} (plain : ∀ u ∈ s, isHighSurrogate u = false)
    : codePoints s = s.map (·.val) := by
  induction s using codePoints.induct with
  | case1 => rfl
  | case2 u => rfl
  | case3 first second rest pair ih =>
    rw [plain first mem_cons_self] at pair
    cases pair
  | case4 first second rest single ih =>
    rw [codePoints, if_neg single, ih (fun u mem => plain u (mem_cons_of_mem _ mem))]
    rfl

/-- A digit of a hash is not rewritten, is visible and is a code point of its own. -/
theorem hex_facts {u : CodeUnit} (digit : u ∈ text "0123456789abcdef")
    : isRewritten u = false ∧ isHighSurrogate u = false ∧ isWhiteSpace u = false
      ∧ foldAscii u.val = u.val := by
  have all : (text "0123456789abcdef").all (fun u => !isRewritten u && !isHighSurrogate u
      && !isWhiteSpace u && foldAscii u.val == u.val) = true := by
    decide +kernel
  simpa [and_assoc] using all_eq_true.mp all u digit

theorem begins_iff (plain : ∀ u ∈ input, isRewritten u = false)
    (hex : ∀ u ∈ h, u ∈ text "0123456789abcdef")
    : Begins input h ↔ input <+: h := by
  have stays : input.filter (fun u => u ≠ 0x25 && u ≠ 0x5F) = input := by
    refine filter_eq_self.mpr (fun u mem => ?_)
    have kept := plain u mem
    simp only [isRewritten, Bool.or_eq_false_iff, beq_eq_false_iff_ne] at kept
    simp [kept]
  have lower : (codePoints input).map foldAscii = codePoints input := by
    refine (map_congr_left (fun c mem => if_neg (fun capital => ?_))).trans (map_id' _)
    obtain ⟨u, within, rfl⟩ := mem_of_codePoints mem (by omega)
    have kept := plain u within
    have upper : isUpper u = true := Bool.and_eq_true_iff.mpr
      ⟨decide_eq_true (Fin.le_def.mpr capital.1), decide_eq_true (Fin.le_def.mpr capital.2)⟩
    rw [isRewritten, upper, Bool.or_true] at kept
    cases kept
  have points : codePoints h = h.map (·.val) :=
    codePoints_plain (fun u mem => (hex_facts (hex u mem)).2.1)
  have folded : (codePoints h).map foldAscii = codePoints h := by
    rw [points, map_map]
    exact map_congr_left (fun u mem => (hex_facts (hex u mem)).2.2.2)
  rw [Begins, stays, lower, folded]
  constructor
  · rintro ⟨rest, split⟩
    have whole := congrArg (List.flatMap Data.codeUnits) split
    rw [flatMap_append, flatMap_codePoints, flatMap_codePoints] at whole
    exact ⟨_, whole⟩
  · intro start
    rw [points, codePoints_plain (fun u mem => (hex_facts (hex u (start.subset mem))).2.1)]
    exact start.map _

theorem visible_of_rewritten {u : CodeUnit} (redone : isRewritten u = true)
    : isWhiteSpace u = false := by
  simp only [isRewritten, isUpper, Bool.or_eq_true, beq_iff_eq, Bool.and_eq_true, decide_eq_true_eq,
    Fin.le_def, Fin.ext_iff] at redone
  simp only [isWhiteSpace, Bool.or_eq_false_iff, beq_eq_false_iff_ne, ne_eq, Bool.and_eq_false_iff,
    decide_eq_false_iff_not, Fin.le_def, Fin.ext_iff]
  omega

/-- What is rewritten begins no hash. -/
theorem not_prefix (hex : ∀ u ∈ h, u ∈ text "0123456789abcdef") (redone : input.any isRewritten = true)
    : ¬input <+: h := by
  intro start
  obtain ⟨u, mem, changed⟩ := any_eq_true.mp redone
  rw [(hex_facts (hex u (start.subset mem))).1] at changed
  cases changed

-- Resolving a hash

/-- The short hash is that of the only stone whose hash it begins.
Witness: stones with one hash are one, so that at most one of them is found.
-/
theorem namedStone_eq_some_iff (short : input.length ≠ 64) (long : 8 ≤ input.length)
    (unique : (tables.stones.map (·.hash)).Nodup)
    : namedStone tables input = some h
      ↔ ∃ row ∈ tables.stones, row.hash = h ∧ Begins input h
        ∧ ∀ other ∈ tables.stones, Begins input other.hash → other.hash = h := by
  have found {row : StoneRow} : row ∈ tables.stones.filter (fun row =>
        like (input.filter (fun u => u ≠ 0x25 && u ≠ 0x5F) ++ text "%") row.hash)
      ↔ row ∈ tables.stones ∧ Begins input row.hash :=
    mem_filter.trans (and_congr_right' (like_iff_begins input row.hash))
  have distinct : ((tables.stones.filter (fun row =>
      like (input.filter (fun u => u ≠ 0x25 && u ≠ 0x5F) ++ text "%") row.hash)).map (·.hash)).Nodup :=
    unique.sublist (filter_sublist.map _)
  rw [namedStone, if_neg short, if_neg (not_lt.mpr long)]
  generalize tables.stones.filter _ = rows at found distinct ⊢
  rcases rows with - | ⟨first, - | ⟨second, rest⟩⟩
  · refine iff_of_false (fun named => by cases named) ?_
    rintro ⟨row, stored, rfl, begins, -⟩
    cases found.mpr ⟨stored, begins⟩
  · have only {row : StoneRow} : row ∈ tables.stones ∧ Begins input row.hash ↔ row = first := by
      rw [← found, mem_singleton]
    obtain ⟨stored, begins⟩ := only.mpr rfl
    constructor
    · intro named
      obtain rfl : first.hash = h := Option.some.inj named
      exact ⟨first, stored, rfl, begins, fun other here also =>
        congrArg StoneRow.hash (only.mp ⟨here, also⟩)⟩
    · rintro ⟨row, here, rfl, also, -⟩
      rw [only.mp ⟨here, also⟩]
      rfl
  · refine iff_of_false (fun named => by cases named) ?_
    rintro ⟨row, -, -, -, all⟩
    obtain ⟨stored, begins⟩ := found.mp (.head _)
    obtain ⟨stored', begins'⟩ := found.mp (.tail _ (.head _))
    have same := (all first stored begins).trans (all second stored' begins').symm
    simp [same] at distinct

theorem exists_resolved (env : Env) (tables : Tables) (given : trim input ≠ [])
    : ∃ answer : Except Text Text, answer.toOption = namedStone tables input
      ∧ (resolveStoneHash (.string input) : Operation env _).run tables = (.ok answer, tables) := by
  unfold resolveStoneHash namedStone
  simp only [requiredString, if_neg given, bind_eq, done_bind]
  split
  · refine ⟨_, ?_, rfl⟩
    dsimp only
    cases tables.stoneAt input <;> rfl
  · split
    · exact ⟨_, rfl, rfl⟩
    · refine ⟨_, ?_, rfl⟩
      dsimp only
      generalize (tables.stones.filter _).take 3 = rows
      rcases rows with - | ⟨row, - | ⟨next, rest⟩⟩ <;> rfl

theorem run_blank (env : Env) (tables : Tables) (blank : trim input = [])
    : (resolveStoneHash (.string input) : Operation env _).run tables
      = (.error (text "Missing required string: hash"), tables) := by
  unfold resolveStoneHash
  simp only [requiredString, if_pos blank, bind_eq, fail_bind]
  rfl

theorem Denotes.start (denotes : Denotes tables input h) : input <+: h := by
  obtain ⟨-, rfl | ⟨start, -⟩⟩ := denotes
  · exact prefix_refl _
  · exact start

theorem Denotes.hex (hashed : Hashed tables) (denotes : Denotes tables input h)
    : ∀ u ∈ h, u ∈ text "0123456789abcdef" := by
  obtain ⟨⟨row, stored, rfl⟩, -⟩ := denotes
  exact hashed.hex row stored

/-- A text that stands for a hash is not blank: its first unit is a digit. -/
theorem Denotes.given (hashed : Hashed tables) (long : 8 ≤ input.length)
    (denotes : Denotes tables input h)
    : trim input ≠ [] := by
  intro blank
  obtain ⟨u, mem⟩ := exists_mem_of_length_pos (show 0 < input.length by omega)
  have digit := denotes.hex hashed u (denotes.start.subset mem)
  have kept := mem_trim (hex_facts digit).2.2.1 mem
  rw [blank] at kept
  cases kept

/-- The stone that a text names is the one it stands for.
Witness: a text of 64 units is looked up as it is. What a shorter one begins is decided without its
rewriting, unless it is rewritten, and then it stands for nothing.
-/
theorem named_iff_denotes (hashed : Hashed tables) (long : 8 ≤ input.length)
    (exactly : input.length = 64 ∨ ¬input.any isRewritten ∨ ¬BeginsOne tables input)
    : namedStone tables input = some h ↔ Denotes tables input h := by
  by_cases full : input.length = 64
  · rw [namedStone, if_pos full, Option.map_eq_some_iff]
    constructor
    · rintro ⟨row, found, rfl⟩
      have same := find?_some found
      exact ⟨⟨row, mem_of_find?_eq_some found, rfl⟩, .inl (beq_iff_eq.mp same).symm⟩
    · intro denotes
      obtain ⟨⟨row, stored, rfl⟩, -⟩ := id denotes
      have whole : input = row.hash :=
        denotes.start.eq_of_length (full.trans (hashed.length row stored).symm)
      have known : (tables.stoneAt input).isSome :=
        find?_isSome.mpr ⟨row, stored, beq_iff_eq.mpr whole.symm⟩
      obtain ⟨found, there⟩ := Option.isSome_iff_exists.mp known
      have same := find?_some (show tables.stones.find? (·.hash == input) = some found from there)
      exact ⟨found, there, (beq_iff_eq.mp same).trans whole⟩
  · rw [namedStone_eq_some_iff full long hashed.unique]
    have shorter {row : StoneRow} (stored : row ∈ tables.stones) : input ≠ row.hash := by
      rintro rfl
      exact full (hashed.length row stored)
    by_cases redone : input.any isRewritten = true
    · refine iff_of_false ?_ (fun denotes => not_prefix (denotes.hex hashed) redone denotes.start)
      rintro ⟨row, stored, rfl, begins, only⟩
      rcases exactly with whole | plain | none
      · exact full whole
      · exact plain redone
      · exact none ⟨row, stored, begins, only⟩
    · have plain : ∀ u ∈ input, isRewritten u = false := by simpa using redone
      constructor
      · rintro ⟨row, stored, rfl, begins, only⟩
        refine ⟨⟨row, stored, rfl⟩, .inr ⟨(begins_iff plain (hashed.hex row stored)).mp begins, ?_⟩⟩
        exact fun other here start =>
          only other here ((begins_iff plain (hashed.hex other here)).mpr start)
      · rintro ⟨⟨row, stored, rfl⟩, same | ⟨start, only⟩⟩
        · exact absurd same (shorter stored)
        · refine ⟨row, stored, rfl, (begins_iff plain (hashed.hex row stored)).mpr start, ?_⟩
          exact fun other here begins =>
            only other here ((begins_iff plain (hashed.hex other here)).mp begins)

theorem resolves_iff (env : Env) (hashed : Hashed tables) (long : 8 ≤ input.length)
    (exactly : input.length = 64 ∨ ¬input.any isRewritten ∨ ¬BeginsOne tables input)
    : ((resolveStoneHash (.string input) : Operation env _).run tables).1 = .ok (.ok h)
      ↔ Denotes tables input h := by
  rw [← named_iff_denotes hashed long exactly]
  by_cases blank : trim input = []
  · rw [run_blank env tables blank]
    refine iff_of_false (fun same => by cases same) (fun named => ?_)
    exact ((named_iff_denotes hashed long exactly).mp named).given hashed long blank
  · obtain ⟨answer, named, run⟩ := exists_resolved env tables blank
    rw [run, ← named]
    cases answer with
    | error error => exact iff_of_false (fun same => by cases same) (fun same => by cases same)
    | ok hash => exact ⟨fun same => by cases same; rfl, fun same => by cases same; rfl⟩

-- What is written about the stone of a hash

def About (h : Text) : Command → Prop
  | .write (.upsertPathHead row) => row.headHash = h
  | .write (.insertEdge row) => row.toHash = h
  | .write (.batch _) => False
  | _ => True

def WrittenAbout (tables : Tables) (input : Text) (after : Tables) : Prop :=
  (∀ head ∈ after.pathHeads, head ∈ tables.pathHeads ∨ input <+: head.headHash)
  ∧ ∀ row ∈ after.edges, row ∈ tables.edges ∨ input <+: row.toHash

theorem writtenAbout_exec {cmd : Command} {after : Tables} (about : About h cmd)
    (start : input <+: h) (put : WrittenAbout tables input after)
    : WrittenAbout tables input (Tables.exec env cmd after).2 := by
  rcases exec_cases env after cmd with ⟨stmt, rows, rfl, -, done, run⟩ | run
  · rw [run]
    refine ⟨fun head mem => ?_, fun row mem => ?_⟩
    · rcases pathHeads_write done with ⟨row, rfl, upserts⟩ | ⟨rows, rfl, -⟩ | ⟨-, same⟩
      · change head ∈ rows.pathHeads at mem
        rw [upserts] at mem
        rcases mem_upserted mem with rfl | ⟨old, -⟩
        · obtain rfl : head.headHash = h := about
          exact .inr start
        · exact put.1 head old
      · exact about.elim
      · exact put.1 head (same ▸ mem)
    · change row ∈ rows.edges at mem
      rw [(appends_write done).edges] at mem
      rcases mem_append.mp mem with old | new
      · exact put.2 row old
      · cases stmt with
        | insertEdge added =>
          cases mem_singleton.mp new
          obtain rfl : row.toHash = h := about
          exact .inr start
        | batch rows => exact about.elim
        | _ => cases new
  · rw [run]
    exact put

theorem writtenAbout_run {p : Operation env α} (about : p.Issues (About h)) (start : input <+: h)
    : WrittenAbout tables input (p.run tables).2 := by
  have alone : p.Alone (WrittenAbout tables input) (fun _ => WrittenAbout tables input) tables :=
    Program.Alone.of_issues about (fun cmd state about put =>
      writtenAbout_exec about start put) ⟨fun _ => .inl, fun _ => .inl⟩
  exact alone.of_run.2

theorem writtenAbout_resolved {g : Except Text Text → Operation env α} (hashed : Hashed tables)
    (long : 8 ≤ input.length)
    (exactly : input.length = 64 ∨ ¬input.any isRewritten ∨ ¬BeginsOne tables input)
    (denied : ∀ error, ∃ value, g (.error error) = .done value)
    (about : ∀ hash, (g (.ok hash)).Issues (About hash))
    : WrittenAbout tables input (((resolveStoneHash (.string input)).bind g).run tables).2 := by
  have same : WrittenAbout tables input tables := ⟨fun _ => .inl, fun _ => .inl⟩
  rw [run_bind]
  by_cases blank : trim input = []
  · rw [run_blank env tables blank]
    exact same
  · obtain ⟨answer, named, run⟩ := exists_resolved env tables blank
    rw [run]
    cases answer with
    | error error =>
      obtain ⟨value, done⟩ := denied error
      dsimp only
      rw [done]
      exact same
    | ok hash =>
      have denotes := (named_iff_denotes hashed long exactly).mp named.symm
      exact writtenAbout_run (about hash) denotes.start

theorem about_require {stmt : Write} (about : About h (.write stmt))
    : (require stmt : Operation env Unit).Issues (About h) := by
  have first : (perform (.write stmt) : Operation env Bool).Issues (About h) :=
    ⟨about, fun _ => trivial⟩
  refine first.bind (fun succeeded => ?_)
  cases succeeded <;> trivial

theorem about_requiredString_bind {s : Text} {name : String} {g : Text → Operation env α}
    (next : (g s).Issues (About h))
    : ((requiredString (.string s) name).bind g).Issues (About h) := by
  unfold requiredString
  dsimp only
  split
  · trivial
  · exact next

theorem about_bound (value : Value) : (bound value : Operation env _).Issues (About h) := by
  unfold bound
  split <;> trivial

theorem about_linkStones (fromHash edgeType : Text) (note : Value)
    : (linkStones (.string fromHash) (.string h) (.string edgeType) note : Operation env _).Issues
        (About h) := by
  refine about_requiredString_bind (about_requiredString_bind (about_requiredString_bind ?_))
  split
  · trivial
  · refine fun tables => ?_
    simp only [done_bind]
    split
    · trivial
    · refine fun tables' => ?_
      simp only [done_bind]
      split
      · trivial
      · refine ⟨trivial, fun createdAt => (about_bound _).bind (fun note => ?_)⟩
        exact (about_require (by exact rfl)).bind (fun _ => trivial)

theorem writtenAbout_requiredString_bind {value : Value} {name : String} {g : Text → Operation env α}
    (next : ∀ s, WrittenAbout tables input ((g s).run tables).2)
    : WrittenAbout tables input (((requiredString value name).bind g).run tables).2 := by
  have same : WrittenAbout tables input tables := ⟨fun _ => .inl, fun _ => .inl⟩
  unfold requiredString
  split
  · split
    · exact same
    · exact next _
  · exact same

theorem writtenAbout_setPathHead {body : Value} (hashed : Hashed tables) (long : 8 ≤ input.length)
    (exactly : input.length = 64 ∨ ¬input.any isRewritten ∨ ¬BeginsOne tables input)
    (given : body.get (text "hash") = .string input)
    : WrittenAbout tables input ((setPathHeadFromBody body : Operation env _).run tables).2 := by
  unfold setPathHeadFromBody
  rw [given]
  refine writtenAbout_requiredString_bind (fun chain => writtenAbout_requiredString_bind (fun path => ?_))
  refine writtenAbout_resolved hashed long exactly (fun error => ⟨_, rfl⟩) (fun hash tables' => ?_)
  simp only [done_bind]
  split
  · trivial
  · split
    · trivial
    · split
      · trivial
      · have clocked : (clock : Operation env Text).Issues (About hash) := ⟨trivial, fun _ => trivial⟩
        have column : (boundText (.string path) : Operation env Text).Issues (About hash) :=
          (about_bound _).bind (fun stored => by cases stored <;> trivial)
        refine clocked.bind (fun updatedAt => Program.Issues.bind ?_ (fun _ => trivial))
        exact column.bind (fun path => about_require (by exact rfl))

theorem writtenAbout_commitEdge {stoneHash : Text} {edge : Value} (hashed : Hashed tables)
    (long : 8 ≤ input.length)
    (exactly : input.length = 64 ∨ ¬input.any isRewritten ∨ ¬BeginsOne tables input)
    (given : edge.get (text "to") = .string input)
    : WrittenAbout tables input ((commitEdge stoneHash edge : Operation env _).run tables).2 := by
  unfold commitEdge
  rw [given]
  dsimp only [Value.string?]
  split
  · refine writtenAbout_resolved hashed long exactly (fun error => ⟨_, rfl⟩) (fun hash => ?_)
    dsimp only
    split
    · trivial
    · refine (about_linkStones _ _ _).bind (fun linked => ?_)
      cases linked <;> trivial
  · exact ⟨fun _ => .inl, fun _ => .inl⟩

theorem not_resolvesExactly (env : Env) (hashed : Hashed tables) (short : input.length ≠ 64)
    (long : 8 ≤ input.length) (redone : input.any isRewritten = true)
    (begins : BeginsOne tables input)
    : ¬ResolvesExactly env tables input := by
  intro got
  obtain ⟨row, stored, begins, only⟩ := begins
  have given : trim input ≠ [] := by
    intro blank
    obtain ⟨u, mem, changed⟩ := any_eq_true.mp redone
    have kept := mem_trim (visible_of_rewritten changed) mem
    rw [blank] at kept
    cases kept
  have named : namedStone tables input = some row.hash :=
    (namedStone_eq_some_iff short long hashed.unique).mpr ⟨row, stored, rfl, begins, only⟩
  obtain ⟨answer, answers, run⟩ := exists_resolved env tables given
  rw [named] at answers
  cases answer with
  | error error => cases answers
  | ok hash =>
    obtain rfl : hash = row.hash := Option.some.inj answers
    have denotes := (got.resolves row.hash).mp (congrArg Prod.fst run)
    exact not_prefix (hashed.hex row stored) redone denotes.start

/-- A text stands for the hash that it begins exactly if it is whole, has no wildcard and no capital
letter, or begins no hash of a single stone without its wildcards and in lower case.
-/
theorem resolvesExactly_iff (env : Env) (tables : Tables) (input : Text) (hashed : Hashed tables)
    (long : 8 ≤ input.length)
    : ResolvesExactly env tables input
      ↔ input.length = 64 ∨ ¬input.any isRewritten ∨ ¬BeginsOne tables input := by
  constructor
  · intro resolved
    by_contra outside
    simp only [not_or, not_not] at outside
    exact not_resolvesExactly env hashed outside.1 long outside.2.1 outside.2.2 resolved
  · intro exactly
    refine ⟨fun h => resolves_iff env hashed long exactly, fun body given => ?_,
      fun stoneHash edge given => ?_⟩
    · exact (writtenAbout_setPathHead hashed long exactly given).1
    · exact (writtenAbout_commitEdge hashed long exactly given).2

/-- A vault of one stone. -/
def ofOneStone : Tables :=
  { Tables.empty with
    stones :=
      [{ hash := List.replicate 64 0x30
         title := []
         author := text "a"
         createdAt := []
         repo := none
         commitSha := none
         parentHash := none
         chainHash := some (text "c")
         rawKey := []
         stoneJson := .null
         path := some (text "p") }] }

theorem hashed_ofOneStone : Hashed ofOneStone := by
  refine ⟨by decide +kernel, fun row stored u mem => ?_, by decide +kernel⟩
  cases mem_singleton.mp stored
  obtain ⟨-, rfl⟩ := mem_replicate.mp mem
  decide +kernel

/-- A text without wildcards and capital letters stands for what it begins. -/
theorem resolvesExactly_iff_zeros
    : ResolvesExactly quietEnv ofOneStone (text "00000000")
      ↔ (text "00000000").length = 64 ∨ ¬(text "00000000").any isRewritten
        ∨ ¬BeginsOne ofOneStone (text "00000000") :=
  resolvesExactly_iff quietEnv ofOneStone (text "00000000") hashed_ofOneStone (by decide +kernel)

/-- Eight wildcards stand for the only stone. -/
theorem wildcards_resolve
    : Hashed ofOneStone ∧ 8 ≤ (text "%%%%%%%%").length
      ∧ ¬ResolvesExactly quietEnv ofOneStone (text "%%%%%%%%") := by
  have long : 8 ≤ (text "%%%%%%%%").length := by decide +kernel
  refine ⟨hashed_ofOneStone, long, ?_⟩
  refine not_resolvesExactly quietEnv hashed_ofOneStone (by decide +kernel) long (by decide +kernel) ?_
  have nothing : (text "%%%%%%%%").filter (fun u => u ≠ 0x25 && u ≠ 0x5F) = [] := by decide +kernel
  refine ⟨_, mem_singleton_self _, ?_, fun other stored _ => ?_⟩
  · rw [Begins, nothing]
    exact nil_prefix
  · exact congrArg StoneRow.hash (mem_singleton.mp stored)

end CairnStone.Vault
