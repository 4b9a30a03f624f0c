/-
Module: DecisionEval.Cel.Conversion
Purpose: JSON values as CEL values and back.
Main exports: Value.ofJson, Value.toJson
-/
import DecisionEval.Cel.Value
import DecisionEval.Json.Basic
import DecisionEval.Text.Base64

namespace DecisionEval.Cel.Value

/-- The CEL value of a JSON number. Integers stay integers: signed ones where they fit. -/
def ofNumber : Json.Number → Value
  | .signed value => .int value
  | .unsigned value _ => .uint value
  | .float value _ => .float value

mutual

/-- The CEL value of a JSON value. The fields of an object become entries with string keys, in the same
    order. -/
def ofJson : Json → Value
  | .null => .null
  | .bool value => .bool value
  | .number value => ofNumber value
  | .string value => .string value
  | .array items => .list (ofJsonItems items) none
  | .object fields => .map (ofJsonFields fields) none

/-- The CEL values of list items. -/
def ofJsonItems : List Json → List Value
  | [] => []
  | item :: rest => ofJson item :: ofJsonItems rest

/-- The map entries of fields. -/
def ofJsonFields : List (String × Json) → List (Key × Value)
  | [] => []
  | (name, value) :: rest => (.string name, ofJson value) :: ofJsonFields rest

end

mutual

/-- The JSON value of a CEL value. Floats that are not finite become `null`, bytes become base-64 text,
    points in time their own text, spans and functions the text that shows them in full. Of several keys of a
    map that are written as one name the last one counts, in the order of the keys. Since the order of a map is
    unspecified, this is a choice made here. -/
def toJson : Value → Json
  | .null => .null
  | .bool value => .bool value
  | .int value => .ofInt64 value
  | .uint value => .ofUInt64 value
  | .float value => .ofFloat value
  | .string value => .string value
  | .bytes value => .string (Text.base64 value)
  | .list items _ => .array (toJsonItems items)
  | .map entries _ => .object (Entries.ofList (toJsonFields entries))
  | .timestamp value => .string value.text
  | .duration value => .string (debugText (.duration value))
  | .function name target => .string (debugText (.function name target))

/-- The JSON values of list items. -/
def toJsonItems : List Value → List Json
  | [] => []
  | item :: rest => toJson item :: toJsonItems rest

/-- The fields of map entries; a key becomes the name that it is written as. -/
def toJsonFields : List (Key × Value) → List (String × Json)
  | [] => []
  | (key, value) :: rest => (key.name, toJson value) :: toJsonFields rest

end

end DecisionEval.Cel.Value
