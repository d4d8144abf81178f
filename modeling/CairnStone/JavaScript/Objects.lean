import CairnStone.JavaScript.StableJson
import CairnStone.JavaScript.Value
import Mathlib.Data.List.Sort

/-! Objects as callers build and read them: truthiness, strict equality, own members and
spreading, and the `stableJson` text of any value.
-/

namespace CairnStone.JavaScript

/-- `number === other`, which tells neither zero from the other and no NaN from itself. -/
def Number.strictEquals : Number → Number → Bool
  | .finite x, .finite y => x = y || (x.mantissa == 0 && y.mantissa == 0)
  | .infinity negative, .infinity negative' => negative == negative'
  | _, _ => false

namespace Value

def truthy : Value → Bool
  | .undefined => false
  | .null => false
  | .bool b => b
  | .number .nan => false
  | .number (.infinity _) => true
  | .number (.finite x) => x.mantissa != 0
  | .string s => s != []
  | _ => true

/-- `value || fallback` -/
def or (value fallback : Value) : Value :=
  if value.truthy then value else fallback

/-- `value ?? fallback` -/
def orNullish (value fallback : Value) : Value :=
  match value with
  | .undefined => fallback
  | .null => fallback
  | present => present

/-- `value === other` for primitives. Two objects that were built apart are never equal. -/
def strictEquals : Value → Value → Bool
  | .undefined, .undefined => true
  | .null, .null => true
  | .bool b, .bool b' => b == b'
  | .number n, .number n' => n.strictEquals n'
  | .string s, .string s' => s == s'
  | _, _ => false

/-- `value !== null && typeof value === "object" && !Array.isArray(value)` -/
def isObject (value : Value) : Bool :=
  value.entries?.isSome

/-- An object literal. -/
def literal (members : List (Text × Value)) : Value :=
  .object .objectPrototype members

/-- A text, or `null` where there is none. -/
def ofOption (s : Option Text) : Value :=
  (s.map .string).getD .null

/-- `${value}` for a primitive. Any object counts as a plain one. -/
def interpolate : Value → Text
  | .undefined => text "undefined"
  | .null => text "null"
  | .bool b => if b then text "true" else text "false"
  | .number n => n.toText
  | .string s => s
  | _ => text "[object Object]"

/-- The own enumerable properties that `{ ...value }` copies. -/
def spread : Value → List (Text × Value)
  | .object _ properties => properties
  | .array slots =>
    slots.zipIdx.filterMap (fun slot => slot.1.map (fun value => (digitText slot.2, value)))
  | .string s => s.zipIdx.map (fun unit => (digitText unit.2, .string [unit.1]))
  | _ => []

/-- `{ ...properties, key: value }`: a known key keeps its place. -/
def setProperty (properties : List (Text × Value)) (key : Text) (value : Value)
    : List (Text × Value) :=
  if properties.any (·.1 == key) then
    properties.map (fun property => if property.1 == key then (key, value) else property)
  else
    properties ++ [(key, value)]

end Value

theorem Number.strictEquals_trans {x y z : Number} (first : x.strictEquals y = true)
    (second : y.strictEquals z = true)
    : x.strictEquals z = true := by
  cases x with
  | finite x =>
    cases y with
    | finite y =>
      cases z with
      | finite z =>
        simp only [Number.strictEquals, Bool.or_eq_true, decide_eq_true_eq,
          Bool.and_eq_true, beq_iff_eq] at first second ⊢
        rcases first with rfl | ⟨zero, _⟩
        · exact second
        · rcases second with rfl | ⟨_, zero'⟩
          · exact .inr ⟨zero, by assumption⟩
          · exact .inr ⟨zero, zero'⟩
      | _ => cases second
    | _ => cases first
  | infinity negative =>
    cases y with
    | infinity negative' =>
      cases z with
      | infinity negative'' =>
        simp only [Number.strictEquals, beq_iff_eq] at first second ⊢
        exact first.trans second
      | _ => cases second
    | _ => cases first
  | nan => cases first

/-- Strict equality is transitive, although no array or object equals itself here. -/
theorem Value.strictEquals_trans {x y z : Value} (first : x.strictEquals y = true)
    (second : y.strictEquals z = true)
    : x.strictEquals z = true := by
  cases x with
  | undefined =>
    cases y with
    | undefined => exact second
    | _ => cases first
  | null =>
    cases y with
    | null => exact second
    | _ => cases first
  | bool b =>
    cases y with
    | bool b' =>
      obtain rfl : b = b' := eq_of_beq first
      exact second
    | _ => cases first
  | number n =>
    cases y with
    | number n' =>
      cases z with
      | number n'' => exact Number.strictEquals_trans first second
      | _ => cases second
    | _ => cases first
  | string s =>
    cases y with
    | string s' =>
      obtain rfl : s = s' := eq_of_beq first
      exact second
    | _ => cases first
  | _ => cases y <;> cases first

theorem Value.strictEquals_string_iff {value : Value} {s : Text}
    : value.strictEquals (.string s) = true ↔ value = .string s := by
  cases value with
  | string other => simp [strictEquals]
  | _ => simp [strictEquals]

mutual

/-- `JSON.parse(JSON.stringify(value))`: what is left of a value that is stored as JSON, `undefined`
where it has no JSON text.
-/
def jsonCopy : Value → Value
  | .number (.finite x) => .number (.finite { x with negative := x.negative && x.mantissa != 0 })
  | .number _ => .null
  | .array slots => .array (jsonSlots slots)
  | .object _ properties => .object .objectPrototype (jsonMembers properties)
  | .other => .undefined
  | primitive => primitive

/-- The elements of an array: one without a JSON text becomes `null`. -/
def jsonSlots : List (Option Value) → List (Option Value)
  | [] => []
  | none :: rest => some .null :: jsonSlots rest
  | some .undefined :: rest => some .null :: jsonSlots rest
  | some .other :: rest => some .null :: jsonSlots rest
  | some value :: rest => some (jsonCopy value) :: jsonSlots rest

def jsonMembers : List (Text × Value) → List (Text × Value)
  | [] => []
  | (_, .undefined) :: rest => jsonMembers rest
  | (_, .other) :: rest => jsonMembers rest
  | (key, value) :: rest => (key, jsonCopy value) :: jsonMembers rest

end

/-- `texts.join(",")` -/
def joinWithComma : List Text → Text
  | [] => []
  | first :: rest => first ++ rest.flatMap (0x2C :: ·)

mutual

/-- `stableJson(value)`. What has no JSON text is written as `undefined`. -/
def stableJson : Value → Text
  | .undefined => text "undefined"
  | .null => text "null"
  | .bool b => if b then text "true" else text "false"
  | .number (.finite x) => (Number.finite x).toText
  | .number _ => text "null"
  | .string s => quote s
  | .array slots => 0x5B :: (joinWithComma (stableSlots slots) ++ [0x5D])
  | .object _ properties =>
    0x7B
      :: (joinWithComma
            (((stableMembers properties).insertionSort (fun a b => a.1 ≤ b.1)).map
              (fun member => quote member.1 ++ 0x3A :: member.2))
          ++ [0x7D])
  | .other => text "undefined"

/-- The elements as `join` reads them: a missing one is the empty text. -/
def stableSlots : List (Option Value) → List Text
  | [] => []
  | none :: rest => [] :: stableSlots rest
  | some .undefined :: rest => [] :: stableSlots rest
  | some .other :: rest => [] :: stableSlots rest
  | some value :: rest => stableJson value :: stableSlots rest

def stableMembers : List (Text × Value) → List (Text × Text)
  | [] => []
  | (key, value) :: rest => (key, stableJson value) :: stableMembers rest

end

end CairnStone.JavaScript
