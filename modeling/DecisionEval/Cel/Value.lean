/-
Module: DecisionEval.Cel.Value
Purpose: The values of CEL programs, their kinds, and the text that shows a value in full.
Main exports: Key, Place, Value, Value.kindName, Value.debugText
-/
import DecisionEval.Cel.Timestamp
import DecisionEval.Decimal.Notation
import DecisionEval.Dictionary
import DecisionEval.Text.Utf8

namespace DecisionEval.Cel

/-- A key of a map. Keys of different kinds are different keys, also where their numbers agree. -/
inductive Key where
  | int (value : Int64)
  | uint (value : UInt64)
  | bool (value : Bool)
  | string (value : String)
deriving Repr, DecidableEq

namespace Key

/-- Whether one key stands before another in a map: integers, unsigned integers, booleans and strings in
    this order, each kind in its own order. -/
def before : Key → Key → Bool
  | .int a, .int b => a < b
  | .int _, _ => true
  | .uint _, .int _ => false
  | .uint a, .uint b => a < b
  | .uint _, _ => true
  | .bool a, .bool b => !a && b
  | .bool _, .string _ => true
  | .bool _, _ => false
  | .string a, .string b => a < b
  | .string _, _ => false

instance : LT Key := ⟨fun a b => a.before b = true⟩

instance : DecidableLT Key := fun a b => inferInstanceAs (Decidable (a.before b = true))

/-- The name of a field with this key. -/
def name : Key → String
  | .int value => toString value.toInt
  | .uint value => toString value.toNat
  | .bool value => if value then "true" else "false"
  | .string value => value

/-- The text that shows a key in full. -/
def debugText : Key → String
  | .int value => "Int(" ++ toString value.toInt ++ ")"
  | .uint value => "Uint(" ++ toString value.toNat ++ ")"
  | .bool value => "Bool(" ++ (if value then "true" else "false") ++ ")"
  | .string value => "String(" ++ Text.quoted value ++ ")"

end Key

/-- A place in the evaluation of a program: the numbers of the steps that lead down to it, the last one
    first. No two evaluations of parts of a program have the same place. -/
abbrev Place := List Nat

/-- A value of a CEL program. A function value names a function together with the value it was selected from.

    Entries of a map stand in the order of their keys, each key once. CEL leaves the order in which a map is
    gone through unspecified, and it can show: in lists and texts made from a map, and in which of its entries
    fails first. The order of the keys is a choice made here.

    NaN differs from itself, and so does a list or a map that holds it from another one with the same parts;
    yet it equals its own copies. For this, a list or a map that differs from itself part by part has the
    place where it was put together, which its copies keep. All others have none. -/
inductive Value where
  | int (value : Int64)
  | uint (value : UInt64)
  | float (value : Float)
  | string (value : String)
  | bytes (value : List UInt8)
  | bool (value : Bool)
  | null
  | list (items : List Value) (place : Option Place)
  | map (entries : List (Key × Value)) (place : Option Place)
  | duration (value : Duration)
  | timestamp (value : Timestamp)
  | function (name : String) (target : Option Value)
deriving Repr, Inhabited

namespace Value

/-- The name of the kind of a value. -/
def kindName : Value → String
  | .int _ => "int"
  | .uint _ => "uint"
  | .float _ => "float"
  | .string _ => "string"
  | .bytes _ => "bytes"
  | .bool _ => "bool"
  | .null => "null"
  | .list _ _ => "list"
  | .map _ _ => "map"
  | .duration _ => "duration"
  | .timestamp _ => "timestamp"
  | .function _ _ => "function"

/-- Floats in texts that show a value in full: positional from 0.0001 up to 10^16. -/
def floatNotation : Notation where
  tie := .up
  positional leading := -4 ≤ leading && leading < 16
  wholePoint := true
  exponentPlus := false

/-- Floats that are converted to strings are always positional, whole ones without a point. -/
def plainFloatNotation : Notation where
  tie := .up
  positional _ := true
  wholePoint := false
  exponentPlus := false

/-- Parts with a comma and a space between them. -/
def joinComma (parts : List String) : String := String.intercalate ", " parts

/-- The text of a list of bytes. -/
def bytesText (bytes : List UInt8) : String :=
  "[" ++ joinComma (bytes.map (fun b => toString b.toNat)) ++ "]"

mutual

/-- The text that shows a value in full, with its kind. The entries of a map come in the order of their keys,
    which is a choice. -/
def debugText : Value → String
  | .int value => "Int(" ++ toString value.toInt ++ ")"
  | .uint value => "UInt(" ++ toString value.toNat ++ ")"
  | .float value => "Float(" ++ floatNotation.write value ++ ")"
  | .string value => "String(" ++ Text.quoted value ++ ")"
  | .bytes value => "Bytes(" ++ bytesText value ++ ")"
  | .bool value => "Bool(" ++ (if value then "true" else "false") ++ ")"
  | .null => "Null"
  | .list items _ => "List([" ++ joinComma (debugItems items) ++ "])"
  | .map entries _ => "Map(Map \x7b map: \x7b" ++ joinComma (debugEntries entries) ++ "\x7d \x7d)"
  | .duration value => "Duration(" ++ value.debugText ++ ")"
  | .timestamp value => "Timestamp(" ++ value.text ++ ")"
  | .function name target => "Function(" ++ Text.quoted name ++ ", " ++ debugTarget target ++ ")"

/-- The texts of list items. -/
def debugItems : List Value → List String
  | [] => []
  | item :: rest => debugText item :: debugItems rest

/-- The texts of map entries. -/
def debugEntries : List (Key × Value) → List String
  | [] => []
  | (key, value) :: rest => (key.debugText ++ ": " ++ debugText value) :: debugEntries rest

/-- The text of the value that a function was selected from. -/
def debugTarget : Option Value → String
  | none => "None"
  | some value => "Some(" ++ debugText value ++ ")"

end

end Value

end DecisionEval.Cel
