import Guest.Value.Basic

/-!
# JSON values

What a result is serialized to.  JSON values are like values, but their numbers are finite.  The
program shows a result by the value that its JSON value stands for.
-/

namespace Guest

/-- A JSON value. -/
inductive JsonValue where
  | null
  | boolean (value : Bool)
  | number (value : Number) (finite : value.isFinite = true)
  | string (value : String)
  | array (items : List JsonValue)
  | object (fields : List (String × JsonValue))

namespace JsonValue

mutual

/-- The value that a JSON value stands for. -/
def toValue : JsonValue → Value
  | null => .null
  | boolean b => .boolean b
  | number x _ => .number x
  | string s => .string s
  | array items => .array (itemValues items)
  | object fields => .object (fieldValues fields)

/-- The values of the items of an array. -/
def itemValues : List JsonValue → List Value
  | [] => []
  | item :: rest => toValue item :: itemValues rest

/-- The values of the fields of an object. -/
def fieldValues : List (String × JsonValue) → List (String × Value)
  | [] => []
  | (key, value) :: rest => (key, toValue value) :: fieldValues rest

end

end JsonValue

namespace Value

mutual

/-- The JSON value of a value; a number that is not finite has none of its own and becomes null. -/
def toJson : Value → JsonValue
  | null => .null
  | boolean b => .boolean b
  | number x => if h : x.isFinite = true then .number x h else .null
  | string s => .string s
  | array items => .array (itemsToJson items)
  | object fields => .object (fieldsToJson fields)

/-- The JSON values of items. -/
def itemsToJson : List Value → List JsonValue
  | [] => []
  | item :: rest => toJson item :: itemsToJson rest

/-- The JSON values of fields. -/
def fieldsToJson : List (String × Value) → List (String × JsonValue)
  | [] => []
  | (key, value) :: rest => (key, toJson value) :: fieldsToJson rest

end

end Value

end Guest
