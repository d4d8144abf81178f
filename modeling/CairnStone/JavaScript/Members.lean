import CairnStone.JavaScript.Objects

/-! Own members through the ways in which objects are built and stored: `{ ...object, key: value }`,
and a round trip through JSON.
-/

namespace CairnStone.JavaScript

open List Value

namespace Value

variable {properties : List (Text × Value)} {key other : Text} {value : Value}

/-- The member that an object literal is asked for. -/
def member (properties : List (Text × Value)) (key : Text) : Value :=
  ((properties.find? (·.1 == key)).map (·.2)).getD .undefined

@[simp] theorem get_literal (properties : List (Text × Value)) (key : Text)
    : (literal properties).get key = member properties key := rfl

theorem get_object (proto : Proto) (properties : List (Text × Value)) (key : Text)
    : (object proto properties).get key = member properties key := rfl

@[simp] theorem member_nil (key : Text) : member [] key = .undefined := rfl

@[simp] theorem member_cons_self (key : Text) (value : Value) (properties : List (Text × Value))
    : member ((key, value) :: properties) key = value := by
  simp [member]

theorem member_cons_of_ne (apart : other ≠ key)
    : member ((other, value) :: properties) key = member properties key := by
  simp [member, apart]

/-- Setting a member leaves the others. Witness: induction on the properties. -/
theorem member_setProperty_of_ne (apart : other ≠ key)
    : member (setProperty properties other value) key = member properties key := by
  unfold setProperty
  split
  · rename_i known
    clear known
    induction properties with
    | nil => rfl
    | cons first rest ih =>
      obtain ⟨name, held⟩ := first
      rw [map_cons]
      by_cases same : name = other
      · subst same
        simp only [beq_self_eq_true, if_true]
        rw [member_cons_of_ne apart, member_cons_of_ne apart]
        exact ih
      · rw [if_neg (by simpa using same)]
        by_cases asked : name = key
        · subst asked
          rw [member_cons_self, member_cons_self]
        · rw [member_cons_of_ne asked, member_cons_of_ne asked]
          exact ih
  · simp [member, find?_append, apart]

theorem names_setProperty (properties : List (Text × Value)) (key : Text) (value : Value)
    : (setProperty properties key value).map (·.1)
      = if properties.any (·.1 == key) then properties.map (·.1) else properties.map (·.1) ++ [key] := by
  unfold setProperty
  split
  · rw [map_map]
    refine map_congr_left (fun property _ => ?_)
    simp only [Function.comp_apply]
    split
    · rename_i same
      exact (eq_of_beq same).symm
    · rfl
  · simp

/-- No name is there twice after one was set. -/
theorem nodup_setProperty (nodup : (properties.map (·.1)).Nodup)
    : ((setProperty properties key value).map (·.1)).Nodup := by
  rw [names_setProperty]
  split
  · exact nodup
  · rename_i fresh
    refine nodup_append.mpr ⟨nodup, nodup_singleton key, ?_⟩
    rintro name here _ new rfl
    cases mem_singleton.mp new
    obtain ⟨property, member, same⟩ := mem_map.mp here
    exact fresh (any_eq_true.mpr ⟨property, member, beq_iff_eq.mpr same⟩)

end Value

theorem jsonMembers_cons (name : Text) (value : Value) (rest : List (Text × Value))
    : jsonMembers ((name, value) :: rest) = (name, jsonCopy value) :: jsonMembers rest
      ∨ jsonCopy value = .undefined ∧ jsonMembers ((name, value) :: rest) = jsonMembers rest := by
  cases value with
  | undefined => exact .inr ⟨rfl, rfl⟩
  | other => exact .inr ⟨rfl, rfl⟩
  | _ => exact .inl rfl

/-- No member of another name is stored under a name. -/
theorem member_jsonMembers_of_not_mem {properties : List (Text × Value)} {key : Text}
    (absent : key ∉ properties.map (·.1))
    : member (jsonMembers properties) key = .undefined := by
  induction properties with
  | nil => rfl
  | cons first rest ih =>
    obtain ⟨name, value⟩ := first
    rw [map_cons, mem_cons, not_or] at absent
    rcases jsonMembers_cons name value rest with stored | ⟨_, left⟩
    · rw [stored, member_cons_of_ne (Ne.symm absent.1)]
      exact ih absent.2
    · rw [left]
      exact ih absent.2

/-- The member of a stored object is what is stored of the member. Witness: induction on the
properties; one that is left out leaves nothing of its name.
-/
theorem member_jsonMembers {properties : List (Text × Value)} (key : Text)
    (nodup : (properties.map (·.1)).Nodup)
    : member (jsonMembers properties) key = jsonCopy (member properties key) := by
  induction properties with
  | nil => rfl
  | cons first rest ih =>
    obtain ⟨name, value⟩ := first
    rw [map_cons, nodup_cons] at nodup
    by_cases same : name = key
    · subst same
      rw [member_cons_self]
      rcases jsonMembers_cons name value rest with stored | ⟨undefined, left⟩
      · rw [stored, member_cons_self]
      · rw [left, undefined]
        exact member_jsonMembers_of_not_mem nodup.1
    · rw [member_cons_of_ne same]
      rcases jsonMembers_cons name value rest with stored | ⟨_, left⟩
      · rw [stored, member_cons_of_ne same]
        exact ih nodup.2
      · rw [left]
        exact ih nodup.2

theorem get_jsonCopy_literal {properties : List (Text × Value)} (key : Text)
    (nodup : (properties.map (·.1)).Nodup)
    : (jsonCopy (.literal properties)).get key = jsonCopy (member properties key) :=
  member_jsonMembers key nodup

theorem eq_of_strictEquals_jsonCopy {stored given : Value} (truthy : (jsonCopy stored).truthy)
    (same : (jsonCopy stored).strictEquals given)
    : stored = given := by
  cases stored with
  | bool b =>
    cases given with
    | bool b' => exact congrArg bool (eq_of_beq same)
    | _ => cases same
  | string s =>
    cases given with
    | string s' => exact congrArg string (eq_of_beq same)
    | _ => cases same
  | number n =>
    cases n with
    | finite x =>
      cases given with
      | number n' =>
        cases n' with
        | finite y =>
          have nonzero : x.mantissa ≠ 0 := by simpa [jsonCopy, Value.truthy] using truthy
          simp only [jsonCopy, Value.strictEquals, Number.strictEquals, Bool.or_eq_true,
            decide_eq_true_eq, Bool.and_eq_true, beq_iff_eq, nonzero, false_and,
            or_false] at same
          rw [← same]
          have sign : (x.negative && x.mantissa != 0) = x.negative := by simp [nonzero]
          simp only [sign]
        | _ => cases same
      | _ => cases same
    | _ => cases truthy
  | array slots => cases given <;> cases same
  | object proto properties => cases given <;> cases same
  | _ => cases truthy

end CairnStone.JavaScript
