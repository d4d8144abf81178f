import CairnStone.Data.SqlText
import CairnStone.JavaScript.Conversions
import CairnStone.TaskRuns.Routes

/-! The size of a bootstrap package. Memory items and optional skills are dropped from the end while the
package is too large; it is measured before its limits are filled in.
-/

namespace CairnStone.Bootstrap

open JavaScript Data List Nat
open TaskRuns (countValue)

variable {α : Type}

def clampNumber (value : Number) (fallback least most : Int) : Int :=
  match value with
  | .finite x => max least (min most ⌊x.value⌋)
  | _ => fallback

structure Memory where
  opening : List (Text × Value)
  items : List Value
  truncated : Bool

structure Skills where
  (opening bundleOpening : List (Text × Value))
  skills : List Value
  truncated : Bool

structure PackageBody where
  opening : List (Text × Value)
  (instructions coordination : Value)
  skills : Skills
  memory : Memory
  closing : List (Text × Value)

def array (values : List Value) : Value :=
  .array (values.map some)

def Memory.toValue (memory : Memory) : Value :=
  .literal
    (memory.opening
      ++ [(text "items", array memory.items), (text "truncated", .bool memory.truncated)])

def Skills.bundle (skills : Skills) : Value :=
  .literal (skills.bundleOpening ++ [(text "skills", array skills.skills)])

def Skills.toValue (skills : Skills) : Value :=
  .literal
    (skills.opening ++ [(text "accepted_bundle", skills.bundle)]
      ++ if skills.truncated then [(text "truncated", .bool true)] else [])

def PackageBody.members (body : PackageBody) : List (Text × Value) :=
  body.opening
  ++ [(text "instructions", body.instructions), (text "coordination", body.coordination),
    (text "skills", body.skills.toValue), (text "memory", body.memory.toValue)]
  ++ body.closing

/-- `utf8Bytes(JSON.stringify(packageBody))`, with the given limits. -/
def PackageBody.measure (body : PackageBody) (limits : Value) : Nat :=
  utf8ByteLength (stringify (.literal (body.members ++ [(text "limits", limits)])))

def markFloor (chainSeen pathSeen : Bool) : List Value → List (Value × Bool)
  | [] => []
  | item :: rest =>
    let isChain :=
      !chainSeen && (item.get (text "authority_class")).strictEquals (.string (text "CHAIN_HEAD"))
    let isPath :=
      !pathSeen && (item.get (text "authority_class")).strictEquals (.string (text "PATH_HEAD"))
    (item, isChain || isPath) :: markFloor (chainSeen || isChain) (pathSeen || isPath) rest

def removeLast (mayGo : α → Bool) : List α → Option (List α)
  | [] => none
  | x :: rest =>
    match removeLast mayGo rest with
    | some fewer => some (x :: fewer)
    | none => if mayGo x then some rest else none

/-- `while (packageBytes > effectiveMax)`, with as many rounds as there are elements: the last element that
may go is dropped.
-/
def trim (tooLarge : List α → Bool) (mayGo : α → Bool) : Nat → List α → List α
  | 0, xs => xs
  | rounds + 1, xs =>
    if tooLarge xs then
      match removeLast mayGo xs with
      | none => xs
      | some fewer => trim tooLarge mayGo rounds fewer
    else xs

def PackageBody.withItems (body : PackageBody) (kept : List (Value × Bool)) : PackageBody :=
  { body with
    memory :=
      { body.memory with
        items := kept.map (·.1)
        truncated := body.memory.truncated || decide (kept.length < body.memory.items.length) } }

def PackageBody.withSkills (body : PackageBody) (kept : List Value) : PackageBody :=
  { body with
    skills :=
      { body.skills with
        skills := kept
        truncated := decide (kept.length < body.skills.skills.length) } }

def isOptional (skill : Value) : Bool :=
  !(skill.get (text "skill_id")).strictEquals (.string (text "core.orient"))

def keptItems (body : PackageBody) (effectiveMax : Int) : List (Value × Bool) :=
  trim (fun kept => effectiveMax < (body.withItems kept).measure .null) (fun item => !item.2)
    body.memory.items.length (markFloor false false body.memory.items)

def keptSkills (body : PackageBody) (effectiveMax : Int) : List Value :=
  trim (fun kept => effectiveMax < (body.withSkills kept).measure .null) isOptional
    body.skills.skills.length body.skills.skills

/-- What `packageBody` is after the trimming of `enforceSizeDiscipline`. -/
def trimmed (body : PackageBody) (effectiveMax : Int) : PackageBody :=
  let fewer := body.withItems (keptItems body effectiveMax)
  fewer.withSkills (keptSkills fewer effectiveMax)

/-- The measured limits, which `agentBootstrapFromBody` then puts into the package. -/
structure SizedLimits where
  effectiveMaxPackageBytes : Int
  (packageBytes skillsBytes memoryBytes instructionsBytes : Nat)
  truncated : Bool

def SizedLimits.toValue (limits : SizedLimits) : Value :=
  .literal
    [(text "effective_max_package_bytes", countValue limits.effectiveMaxPackageBytes.toNat),
      (text "package_bytes", countValue limits.packageBytes),
      (text "skills_bytes", countValue limits.skillsBytes),
      (text "memory_bytes", countValue limits.memoryBytes),
      (text "instructions_bytes", countValue limits.instructionsBytes),
      (text "truncated", .bool limits.truncated)]

/-- `enforceSizeDiscipline(packageBody, limits, instructionsValue)`: the trimmed package, its limits, and
whether it is still too large.
-/
def enforceSizeDiscipline (body : PackageBody) (maxPackageBytes : Number)
    : PackageBody × SizedLimits × Bool :=
  let effectiveMax := clampNumber maxPackageBytes 64000 1000 180000
  let sized := trimmed body effectiveMax
  let content := ((body.instructions.get (text "content")).string?).getD []
  (sized,
    { effectiveMaxPackageBytes := effectiveMax
      packageBytes := sized.measure .null
      skillsBytes := utf8ByteLength (stringify sized.skills.bundle)
      memoryBytes := utf8ByteLength (stringify (array sized.memory.items))
      instructionsBytes := utf8ByteLength content
      truncated :=
        decide (sized.memory.items.length < body.memory.items.length
          ∨ sized.skills.skills.length < body.skills.skills.length) },
    decide (effectiveMax < sized.measure .null))

structure KeptOf (mayGo : α → Bool) (xs kept : List α) : Prop where
  ordered : kept.Sublist xs
  floor : kept.filter (fun x => !mayGo x) = xs.filter (fun x => !mayGo x)
  fromEnd : kept.filter mayGo <+: xs.filter mayGo

/-- What the trimming leaves of a package: its floor, its order, and the elements in front. -/
structure Trims (body sized : PackageBody) (effectiveMax : Int) : Prop where
  items
    : ∃ kept, sized.memory.items = kept.map (·.1)
      ∧ KeptOf (fun item => !item.2) (markFloor false false body.memory.items) kept
  skills : KeptOf isOptional body.skills.skills sized.skills.skills
  ends : effectiveMax < sized.measure .null → sized.skills.skills.filter isOptional = []
  instructions : sized.instructions = body.instructions

structure Disciplined (body sized : PackageBody) (limits : SizedLimits) : Prop
    extends Trims body sized limits.effectiveMaxPackageBytes where
  measured : sized.measure limits.toValue = limits.packageBytes
  bounded : sized.measure limits.toValue ≤ limits.effectiveMaxPackageBytes

-- What the loops keep

variable {mayGo : α → Bool} {xs kept : List α}

theorem KeptOf.refl (xs : List α) : KeptOf mayGo xs xs :=
  ⟨List.Sublist.refl _, rfl, prefix_refl _⟩

theorem KeptOf.trans {fewer : List α} (first : KeptOf mayGo xs kept) (second : KeptOf mayGo kept fewer)
    : KeptOf mayGo xs fewer :=
  ⟨second.ordered.trans first.ordered, second.floor.trans first.floor,
    second.fromEnd.trans first.fromEnd⟩

/-- Only the last element that may go is removed. Witness: induction on the list. -/
theorem keptOf_removeLast (mayGo : α → Bool) (xs : List α)
    : removeLast mayGo xs = none ∧ xs.filter mayGo = []
      ∨ ∃ fewer, removeLast mayGo xs = some fewer ∧ fewer.length < xs.length
          ∧ KeptOf mayGo xs fewer := by
  induction xs with
  | nil => exact .inl ⟨rfl, rfl⟩
  | cons x rest ih =>
    rcases ih with ⟨removed, none⟩ | ⟨fewer, removed, shorter, kept⟩
    · cases goes : mayGo x with
      | false => exact .inl ⟨by simp [removeLast, removed, goes], by simp [goes, none]⟩
      | true =>
        refine .inr ⟨rest, by simp [removeLast, removed, goes], lt_succ_self _, ?_⟩
        exact ⟨sublist_cons_self x rest, by simp [goes], by simp [none]⟩
    · refine .inr ⟨x :: fewer, by simp [removeLast, removed], succ_lt_succ shorter,
        kept.ordered.cons_cons x, ?_, ?_⟩
      · simp only [filter_cons, kept.floor]
      · simp only [filter_cons]
        split
        · exact (prefix_cons_inj x).mpr kept.fromEnd
        · exact kept.fromEnd

/-- The rounds are enough: the loop ends where the list fits or nothing in it may go.
Witness: induction on the rounds, each of which drops an element.
-/
theorem trim_ends (tooLarge : List α → Bool) (mayGo : α → Bool) {rounds : Nat} {xs : List α}
    (enough : xs.length ≤ rounds)
    : KeptOf mayGo xs (trim tooLarge mayGo rounds xs)
      ∧ (tooLarge (trim tooLarge mayGo rounds xs) = true
        → (trim tooLarge mayGo rounds xs).filter mayGo = []) := by
  induction rounds generalizing xs with
  | zero =>
    cases length_eq_zero_iff.mp (le_zero.mp enough)
    exact ⟨.refl [], fun _ => rfl⟩
  | succ rounds ih =>
    rw [trim]
    split
    · rcases keptOf_removeLast mayGo xs with ⟨removed, none⟩ | ⟨fewer, removed, shorter, kept⟩
      · rw [removed]
        exact ⟨.refl xs, fun _ => none⟩
      · rw [removed]
        have left : fewer.length ≤ rounds := by omega
        obtain ⟨rest, ends⟩ := ih left
        exact ⟨kept.trans rest, ends⟩
    · rename_i fits
      exact ⟨.refl xs, fun large => absurd large fits⟩

theorem length_markFloor (chainSeen pathSeen : Bool) (items : List Value)
    : (markFloor chainSeen pathSeen items).length = items.length := by
  induction items generalizing chainSeen pathSeen with
  | nil => rfl
  | cons item rest ih => exact congrArg succ (ih _ _)

theorem trims_trimmed (body : PackageBody) (effectiveMax : Int)
    : Trims body (trimmed body effectiveMax) effectiveMax where
  items := ⟨keptItems body effectiveMax, rfl, (trim_ends _ _ (length_markFloor _ _ _).le).1⟩
  skills := (trim_ends _ _ (le_refl _)).1
  ends large := (trim_ends _ _ (le_refl _)).2 (decide_eq_true large)
  instructions := rfl

-- The size of what is added afterwards

/-- A text before an ASCII unit is measured on its own. Witness: the recursion of the measure. -/
theorem utf8ByteLength_append {u : CodeUnit} (ascii : u < 0x80)
    (plain : isHighSurrogate u = false ∧ isLowSurrogate u = false) (front back : Text)
    : utf8ByteLength (front ++ u :: back) = utf8ByteLength front + (1 + utf8ByteLength back) := by
  have alone : utf8ByteLength (u :: back) = 1 + utf8ByteLength back := by
    cases back with
    | nil => simp [utf8ByteLength, ascii]
    | cons v rest => simp [utf8ByteLength, plain, ascii]
  rw [← alone]
  induction front using codePoints.induct with
  | case1 => simp [utf8ByteLength]
  | case2 v => simp [utf8ByteLength, plain]
  | case3 first second rest pair ih => simp [utf8ByteLength, pair, ih, add_assoc]
  | case4 first second rest single ih =>
    simp only [cons_append] at ih
    simp [utf8ByteLength, single, ih, add_assoc]

theorem length_le_utf8ByteLength (s : Text) : s.length ≤ utf8ByteLength s := by
  induction s using codePoints.induct with
  | case1 => exact le_refl _
  | case2 u =>
    rw [utf8ByteLength, length_singleton]
    split_ifs <;> omega
  | case3 first second rest pair ih =>
    rw [utf8ByteLength, if_pos pair, length_cons, length_cons]
    omega
  | case4 first second rest single ih =>
    rw [utf8ByteLength, if_neg single, length_cons]
    split_ifs <;> omega

theorem stringifyMembers_append (front back : List (Text × Value))
    : stringifyMembers (front ++ back) = stringifyMembers front ++ stringifyMembers back := by
  induction front with
  | nil => rfl
  | cons mem rest ih =>
    obtain ⟨key, value⟩ := mem
    cases value <;> simp [stringifyMembers, ih]

theorem exists_join (texts : List Text)
    : ∃ front, ∀ last, joinWithComma (texts ++ [last]) = front ++ last := by
  cases texts with
  | nil => exact ⟨[], fun last => append_nil last⟩
  | cons first rest =>
    refine ⟨first ++ rest.flatMap (0x2C :: ·) ++ [0x2C], fun last => ?_⟩
    simp [joinWithComma, flatMap_append]

/-- A package is as large as its limits and what stands around them. -/
theorem exists_measure (body : PackageBody)
    : ∃ around, body.measure .null = around + utf8ByteLength (stringify .null)
      ∧ ∀ members, body.measure (.literal members)
          = around + utf8ByteLength (stringify (.literal members)) := by
  obtain ⟨front, joins⟩ := exists_join (stringifyMembers body.members)
  let opening := 0x7B :: (front ++ quote (text "limits"))
  have split (limits : Value)
      (put
        : stringifyMembers [(text "limits", limits)]
          = [quote (text "limits") ++ 0x3A :: stringify limits])
      : body.measure limits
        = utf8ByteLength opening + 2 + utf8ByteLength (stringify limits) := by
    have whole
        : stringify (.literal (body.members ++ [(text "limits", limits)]))
          = opening ++ 0x3A :: (stringify limits ++ 0x7D :: []) := by
      rw [Value.literal, stringify, stringifyMembers_append, put, joins]
      simp [opening]
    rw [PackageBody.measure, whole, utf8ByteLength_append (by decide) (by decide),
      utf8ByteLength_append (by decide) (by decide), utf8ByteLength]
    omega
  exact ⟨utf8ByteLength opening + 2, split .null rfl, fun members => split (.literal members) rfl⟩

theorem length_stringify (key : Text) (n : Number) (rest : List (Text × Value))
    : (quote key).length < (stringify (.literal ((key, .number n) :: rest))).length := by
  have first : stringifyMembers ((key, .number n) :: rest)
      = (quote key ++ 0x3A :: stringify (.number n)) :: stringifyMembers rest := rfl
  rw [Value.literal, stringify, first, joinWithComma]
  simp only [length_cons, length_append]
  omega

/-- The limits are larger than the `null` in whose place they are put. -/
theorem measure_lt (body : PackageBody) (limits : SizedLimits)
    : body.measure .null < body.measure limits.toValue := by
  obtain ⟨around, before, after⟩ := exists_measure body
  have null : utf8ByteLength (stringify .null) = 4 := by decide +kernel
  have key : (quote (text "effective_max_package_bytes")).length = 29 := by decide +kernel
  have long : 4 < (stringify limits.toValue).length := by
    refine lt_trans ?_ (length_stringify (text "effective_max_package_bytes") _ _)
    omega
  have whole := length_le_utf8ByteLength (stringify limits.toValue)
  rw [before, null, SizedLimits.toValue, after, ← SizedLimits.toValue]
  omega

theorem not_disciplined (body : PackageBody) (maxPackageBytes : Number)
    : ¬Disciplined body (enforceSizeDiscipline body maxPackageBytes).1
        (enforceSizeDiscipline body maxPackageBytes).2.1 := by
  intro disciplined
  have larger := measure_lt (enforceSizeDiscipline body maxPackageBytes).1
    (enforceSizeDiscipline body maxPackageBytes).2.1
  exact absurd disciplined.measured (ne_of_gt larger)

/-- The trimming keeps what it must keep, and the package is never as large as its limits say.
Witness: it was measured with `null` in place of its limits.
-/
theorem trims_and_outgrows (body : PackageBody) (maxPackageBytes : Number)
    : Trims body (enforceSizeDiscipline body maxPackageBytes).1
          (clampNumber maxPackageBytes 64000 1000 180000)
      ∧ ¬Disciplined body (enforceSizeDiscipline body maxPackageBytes).1
          (enforceSizeDiscipline body maxPackageBytes).2.1 :=
  ⟨trims_trimmed _ _, not_disciplined _ _⟩

def plainPackage : PackageBody where
  opening := [(text "schema", .string (text "cairnstone-agent-context-v1"))]
  instructions := .literal [(text "content", .string (text "Read the guide."))]
  coordination := .null
  skills := { opening := [], bundleOpening := [], skills := [], truncated := false }
  memory := { opening := [], items := [], truncated := false }
  closing := []

/-- It fits and is returned, with limits that say less than its size. -/
theorem plainPackage_outgrows
    : (enforceSizeDiscipline plainPackage .nan).2.2 = false
      ∧ ¬Disciplined plainPackage (enforceSizeDiscipline plainPackage .nan).1
          (enforceSizeDiscipline plainPackage .nan).2.1 :=
  ⟨by decide +kernel, not_disciplined _ _⟩

end CairnStone.Bootstrap
