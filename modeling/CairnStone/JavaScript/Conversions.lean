import CairnStone.JavaScript.Objects

/-! `String(value)` of arrays and of what they hold. -/

namespace CairnStone.JavaScript

mutual

/-- `String(value)`. An object counts as a plain one without a `toString` of its own. -/
def Value.toText : Value → Text
  | .undefined => text "undefined"
  | .null => text "null"
  | .bool b => if b then text "true" else text "false"
  | .number n => n.toText
  | .string s => s
  | .array slots => joinWithComma (slotTexts slots)
  | .object _ _ => text "[object Object]"
  | .other => text "[object Object]"

/-- The elements as `join` reads them: what is missing is the empty text. -/
def slotTexts : List (Option Value) → List Text
  | [] => []
  | none :: rest => [] :: slotTexts rest
  | some .undefined :: rest => [] :: slotTexts rest
  | some .null :: rest => [] :: slotTexts rest
  | some value :: rest => value.toText :: slotTexts rest

end

end CairnStone.JavaScript

/-! `JSON.stringify` of any value, with members in their own order. -/

namespace CairnStone.JavaScript

mutual

/-- `JSON.stringify(value)`; empty for a value without a JSON text. -/
def stringify : Value → Text
  | .undefined => []
  | .null => text "null"
  | .bool b => if b then text "true" else text "false"
  | .number (.finite x) => (Number.finite x).toText
  | .number _ => text "null"
  | .string s => quote s
  | .array slots => 0x5B :: (joinWithComma (stringifySlots slots) ++ [0x5D])
  | .object _ properties => 0x7B :: (joinWithComma (stringifyMembers properties) ++ [0x7D])
  | .other => []

/-- The elements of an array: one without a JSON text is written as `null`. -/
def stringifySlots : List (Option Value) → List Text
  | [] => []
  | none :: rest => text "null" :: stringifySlots rest
  | some .undefined :: rest => text "null" :: stringifySlots rest
  | some .other :: rest => text "null" :: stringifySlots rest
  | some value :: rest => stringify value :: stringifySlots rest

def stringifyMembers : List (Text × Value) → List Text
  | [] => []
  | (_, .undefined) :: rest => stringifyMembers rest
  | (_, .other) :: rest => stringifyMembers rest
  | (key, value) :: rest => (quote key ++ 0x3A :: stringify value) :: stringifyMembers rest

end

end CairnStone.JavaScript
