/-
Module: DecisionEval.Json.Writer
Purpose: The compact text of a JSON value.
Main exports: Json.floatNotation, Json.write
-/
import DecisionEval.Json.Basic
import DecisionEval.Decimal.Notation

namespace DecisionEval.Json

/-- Floats are written positionally from 0.00001 up to 10^16, with a digit behind the point, and else
    with a signed power of ten. -/
def floatNotation : Notation where
  tie := .even
  positional leading := -5 ≤ leading && leading < 16
  wholePoint := true
  exponentPlus := true

/-- The text of a number. -/
def Number.write : Number → String
  | .signed value => toString value.toInt
  | .unsigned value _ => toString value.toNat
  | .float value _ => floatNotation.write value

/-- Two hexadecimal digits in lower case. -/
def hexByte (n : Nat) : List Char := [Nat.digitChar (n / 16 % 16), Nat.digitChar (n % 16)]

/-- One character of a string: quotes, backslashes and control characters are escaped, all others stand
    as themselves. -/
def stringChar (c : Char) : List Char :=
  match c with
  | '"' => ['\\', '"']
  | '\\' => ['\\', '\\']
  | '\x08' => ['\\', 'b']
  | '\x0c' => ['\\', 'f']
  | '\n' => ['\\', 'n']
  | '\r' => ['\\', 'r']
  | '\t' => ['\\', 't']
  | c => if c.toNat < 0x20 then ['\\', 'u', '0', '0'] ++ hexByte c.toNat else [c]

/-- The text of a string. -/
def stringChars (s : String) : List Char := ['"'] ++ s.toList.flatMap stringChar ++ ['"']

mutual

/-- The text of a value, without white space. -/
def chars : Json → List Char
  | .null => "null".toList
  | .bool true => "true".toList
  | .bool false => "false".toList
  | .number value => value.write.toList
  | .string value => stringChars value
  | .array items => ['['] ++ itemChars items ++ [']']
  | .object fields => ['{'] ++ fieldChars fields ++ ['}']

/-- Items with commas between them. -/
def itemChars : List Json → List Char
  | [] => []
  | [item] => chars item
  | item :: rest => chars item ++ [','] ++ itemChars rest

/-- Fields with commas between them. -/
def fieldChars : List (String × Json) → List Char
  | [] => []
  | [(name, value)] => stringChars name ++ [':'] ++ chars value
  | (name, value) :: rest => stringChars name ++ [':'] ++ chars value ++ [','] ++ fieldChars rest

end

/-- The compact text of a value. -/
def write (value : Json) : String := String.ofList value.chars

end DecisionEval.Json
