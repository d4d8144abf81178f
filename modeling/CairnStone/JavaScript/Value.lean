import CairnStone.JavaScript.Text
import CairnStone.JavaScript.Number

/-! JavaScript values as a callee sees them: primitives, arrays with their empty slots, and
objects with their own enumerable data properties in insertion order.
-/

namespace CairnStone.JavaScript

/-- The prototype of an object, as far as a check for plain objects can tell. -/
inductive Proto where
  | objectPrototype
  | null
  | other
  deriving DecidableEq

/-- A JavaScript value. `none` in an array is an empty slot of a sparse array; `other`
stands for functions, symbols and big integers.
-/
inductive Value : Type where
  | undefined
  | null
  | bool (b : Bool)
  | number (n : Number)
  | string (s : Text)
  | array (slots : List (Option Value))
  | object (proto : Proto) (properties : List (Text × Value))
  | other

namespace Value

/-- `typeof value === "string"` -/
def string? : Value → Option Text
  | .string s => some s
  | _ => none

/-- `value.key`, where `key` is not inherited from a prototype. -/
def get (value : Value) (key : Text) : Value :=
  match value with
  | .object _ properties => ((properties.find? (·.1 == key)).map (·.2)).getD .undefined
  | _ => .undefined

/-- `key in value` for an object and a key that no prototype carries. -/
def has (value : Value) (key : Text) : Bool :=
  match value with
  | .object _ properties => properties.any (·.1 == key)
  | _ => false

/-- A default applied by destructuring: only `undefined` is replaced. -/
def orDefault (value default : Value) : Value :=
  match value with
  | .undefined => default
  | present => present

/-- `value === 1` -/
def isOne : Value → Bool
  | .number n => n.toInt? == some 1
  | _ => false

/-- `value === true` -/
def isTrue : Value → Bool
  | .bool b => b
  | _ => false

/-- `typeof value === "object" && value !== null && !Array.isArray(value)`, as its entries.
-/
def entries? : Value → Option (List (Text × Value))
  | .object _ properties => some properties
  | _ => none

@[simp] theorem string?_string (s : Text) : (string s).string? = some s := rfl

end Value

end CairnStone.JavaScript
