/-
Module: DecisionEval.Json.Decode
Purpose: Why a JSON value is not read as a value of another type.
Main exports: Json.DecodeError, Json.DecodeError.message
-/
import DecisionEval.Json.Writer
import DecisionEval.Text.Quoted

namespace DecisionEval.Json

/-- Why a JSON value is not read as another type: it is of another kind than the one expected, or an
    array has more items than are read from it. -/
inductive DecodeError where
  | invalidType (found : Json) (expected : String)
  | tooManyItems (count : Nat)
deriving Repr, DecidableEq

/-- What a value of an unexpected kind is called. -/
def kindText : Json → String
  | .null => "null"
  | .bool value => "boolean `" ++ (if value then "true" else "false") ++ "`"
  | .number (.float value _) => "floating point `" ++ floatNotation.write value ++ "`"
  | .number value => "integer `" ++ value.write ++ "`"
  | .string value => "string " ++ Text.quoted value
  | .array _ => "sequence"
  | .object _ => "map"

/-- The message of a decode error. -/
def DecodeError.message : DecodeError → String
  | .invalidType found expected => "invalid type: " ++ found.kindText ++ ", expected " ++ expected
  | .tooManyItems count =>
    "invalid length " ++ toString count ++ ", expected fewer elements in array"

end DecisionEval.Json
