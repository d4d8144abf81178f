import CairnStone.JavaScript.NumberText

/-! The string methods that configuration values go through: `trim`, `split` and `parseInt`. -/

namespace CairnStone.JavaScript

open List

variable {s : Text} {u : CodeUnit}

def isWhiteSpace (u : CodeUnit) : Bool :=
  (0x09 ≤ u && u ≤ 0x0D) || u == 0x20 || u == 0xA0 || u == 0x1680
  || (0x2000 ≤ u && u ≤ 0x200A) || u == 0x2028 || u == 0x2029 || u == 0x202F || u == 0x205F
  || u == 0x3000 || u == 0xFEFF

/-- `String.prototype.trimStart` -/
def trimStart (s : Text) : Text :=
  s.dropWhile isWhiteSpace

/-- `String.prototype.trim` -/
def trim (s : Text) : Text :=
  (trimStart (trimStart s).reverse).reverse

theorem trimStart_of_head (head : ∀ u rest, s = u :: rest → isWhiteSpace u = false)
    : trimStart s = s := by
  cases s with
  | nil => rfl
  | cons u rest => simp [trimStart, head u rest rfl]

theorem head_trimStart {rest : Text} (split : trimStart s = u :: rest)
    : isWhiteSpace u = false := by
  induction s with
  | nil => cases split
  | cons v s ih =>
    rw [trimStart, dropWhile_cons] at split
    split at split
    · exact ih split
    · rename_i visible
      obtain rfl : v = u := (cons.inj split).1
      simpa using visible

/-- Trimming the end of a text leaves its start. -/
theorem exists_append_of_trimStart_reverse (s : Text)
    : ∃ blank, s = (trimStart s.reverse).reverse ++ blank := by
  refine ⟨(s.reverse.takeWhile isWhiteSpace).reverse, ?_⟩
  rw [← reverse_append, trimStart, takeWhile_append_dropWhile, reverse_reverse]

theorem mem_trimStart (visible : isWhiteSpace u = false) (mem : u ∈ s)
    : u ∈ trimStart s := by
  induction s with
  | nil => cases mem
  | cons first rest ih =>
    rw [trimStart, dropWhile_cons]
    split
    · rename_i blank
      rcases mem_cons.mp mem with rfl | later
      · rw [visible] at blank
        cases blank
      · exact ih later
    · exact mem

/-- Trimming takes nothing but white space away. -/
theorem mem_trim (visible : isWhiteSpace u = false) (mem : u ∈ s)
    : u ∈ trim s := by
  unfold trim
  have reversed := mem_reverse.mpr (mem_trimStart visible mem)
  exact mem_reverse.mpr (mem_trimStart visible reversed)

/-- Trimming twice is trimming once. Witness: neither end of a trimmed text is white space. -/
theorem trim_trim (s : Text) : trim (trim s) = trim s := by
  have start : trimStart (trim s) = trim s := by
    refine trimStart_of_head (fun u rest split => ?_)
    obtain ⟨blank, whole⟩ := exists_append_of_trimStart_reverse (trimStart s)
    change trimStart s = trim s ++ blank at whole
    rw [split] at whole
    exact head_trimStart whole
  have finish : trimStart (trim s).reverse = (trim s).reverse := by
    refine trimStart_of_head (fun u rest split => ?_)
    rw [trim, reverse_reverse] at split
    exact head_trimStart split
  rw [trim, start, finish, reverse_reverse]

/-- Nothing is trimmed from a text without white space. -/
theorem trim_of_visible (visible : ∀ u ∈ s, isWhiteSpace u = false) : trim s = s := by
  have start (t : Text) (same : ∀ u ∈ t, isWhiteSpace u = false) : trimStart t = t := by
    refine trimStart_of_head (fun u rest split => same u ?_)
    rw [split]
    exact .head _
  have reversed : trimStart s.reverse = s.reverse :=
    start s.reverse (fun u mem => visible u (mem_reverse.mp mem))
  unfold trim
  rw [start s visible, reversed, reverse_reverse]

/-- `String.prototype.split` at one code unit. -/
def splitAtUnit (mark : CodeUnit) : Text → List Text
  | [] => [[]]
  | u :: rest =>
    if u = mark then
      [] :: splitAtUnit mark rest
    else
      match splitAtUnit mark rest with
      | [] => [[u]]
      | first :: later => (u :: first) :: later

/-- `Number.parseInt(s, 10)`: the number that leading digits denote, if there are any. -/
def parseInt (s : Text) : Option Int :=
  let body := trimStart s
  let (negative, unsigned) :=
    match body with
    | u :: rest => if u = 0x2D then (true, rest) else if u = 0x2B then (false, rest) else (false, body)
    | [] => (false, [])
  let digits := unsigned.takeWhile isDigit
  if digits = [] then none
  else some (if negative then -(readNat digits) else readNat digits)

/-- A text is cut at its first mark in one way only. -/
theorem append_mark_inj {mark : CodeUnit} {a b c d : Text} (plain : mark ∉ a) (plain' : mark ∉ c)
    (same : a ++ mark :: b = c ++ mark :: d)
    : a = c ∧ b = d := by
  rcases append_eq_append_iff.mp same with ⟨extra, rfl, rest⟩ | ⟨extra, rfl, rest⟩
  · rcases cons_eq_append_iff.mp rest with ⟨rfl, rest⟩ | ⟨_, rfl, -⟩
    · exact ⟨(append_nil a).symm, (cons.inj rest).2⟩
    · exact absurd (mem_append_right _ (.head _)) plain'
  · rcases cons_eq_append_iff.mp rest with ⟨rfl, rest⟩ | ⟨_, rfl, -⟩
    · exact ⟨append_nil c, (cons.inj rest).2.symm⟩
    · exact absurd (mem_append_right _ (.head _)) plain

end CairnStone.JavaScript
