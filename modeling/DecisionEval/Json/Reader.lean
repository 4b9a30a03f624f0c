/-
Module: DecisionEval.Json.Reader
Purpose: Reading JSON text.
Main exports: Json.read?
-/
import DecisionEval.Json.Basic
import DecisionEval.Binary64

namespace DecisionEval.Json.Reader

/-!
### Numbers

The digits of a number are gathered into a 64-bit significand for as long as they fit; a float is then
the significand, rounded, times or over a power of ten, rounded again. So a numeral of many digits need
not give the float nearest to it.
-/

/-- The largest significand. -/
def significandLimit : Nat := 0xFFFFFFFFFFFFFFFF

/-- The value of a decimal digit. -/
def digitValue (c : Char) : Nat := c.toNat - '0'.toNat

/-- Gathers digits of the whole part; from the first that does not fit on, digits only count. The result
    is the significand and the number of digits that were counted. -/
def gatherWhole (significand : Nat) : List Char → Nat × Nat
  | [] => (significand, 0)
  | c :: rest =>
    let next := significand * 10 + digitValue c
    if next ≤ significandLimit then gatherWhole next rest else (significand, rest.length + 1)

/-- Gathers digits of the fraction and drops them from the first that does not fit on. The result is the
    significand and the number of digits in it that come from the fraction. -/
def gatherFraction (significand : Nat) : List Char → Nat × Nat
  | [] => (significand, 0)
  | c :: rest =>
    let next := significand * 10 + digitValue c
    if next ≤ significandLimit then
      let (final, taken) := gatherFraction next rest
      (final, taken + 1)
    else (significand, 0)

/-- The float nearest to a power of ten, for exponents up to 308. -/
def powerOfTen (exponent : Nat) : Float := nearest false (tenTo exponent) 1

/-- The largest exponent of a power of ten that is a finite float. -/
def greatestPower : Nat := 308

/-- Divides by `10 ^ 308` at most `rounds` times, until the exponent that is left is small, then by the
    power that is left. -/
def scaleDown (value : Float) (exponent : Nat) : (rounds : Nat) → Float
  | 0 => value / powerOfTen (min exponent greatestPower)
  | rounds + 1 =>
    if exponent ≤ greatestPower then value / powerOfTen exponent
    else if value == 0.0 then value
    else scaleDown (value / powerOfTen greatestPower) (exponent - greatestPower) rounds

/-- The float of a significand and a power of ten; absent where it is too large. Two divisions by
    `10 ^ 308` leave nothing of any significand, so three rounds are enough. -/
def scale? (significand : Nat) (exponent : Int) : Option Float :=
  let value := nearest false significand 1
  if exponent < 0 then some (scaleDown value exponent.natAbs 3)
  else if exponent ≤ greatestPower then
    let scaled := value * powerOfTen exponent.toNat
    if scaled.isInf then none else some scaled
  else if value == 0.0 then some value
  else none

/-- The largest exponent that may be written. -/
def exponentLimit : Nat := 0x7FFFFFFF

/-- A float of the given sign from a significand and a power of ten. -/
def signedFloat? (negative : Bool) (significand : Nat) (exponent : Int) : Option Number := do
  let magnitude ← scale? significand exponent
  Number.ofFloat? (if negative then -magnitude else magnitude)

/-- The number of a significand that was written without a point and without an exponent. Minus zero and
    the integers below the signed range are floats. -/
def wholeNumber? (negative : Bool) (significand : Nat) : Option Number :=
  if negative then
    if significand = 0 ∨ 0x8000000000000000 < significand then
      Number.ofFloat? (-(nearest false significand 1))
    else some (.signed (Int64.ofInt (-(significand : Int))))
  else some (Number.ofUInt64 (UInt64.ofNat significand))

/-- Reads the exponent after its letter and gives the number. An exponent past the limit leaves zero if
    it is negative or if the significand is zero, and no number otherwise. -/
def readExponent? (negative : Bool) (significand : Nat) (exponent : Int) (cs : List Char) :
    Option (Number × List Char) :=
  let (down, cs) :=
    match cs with
    | '-' :: rest => (true, rest)
    | '+' :: rest => (false, rest)
    | _ => (false, cs)
  match cs.span Char.isDigit with
  | ([], _) => none
  | (digits, rest) =>
    let written := digits.foldl (fun value c => value * 10 + digitValue c) 0
    if exponentLimit < written then
      if significand ≠ 0 ∧ !down then none
      else (signedFloat? negative 0 0).map (·, rest)
    else
      let power : Int := if down then exponent - written else exponent + written
      (signedFloat? negative significand power).map (·, rest)

/-- Reads a number after its sign: digits without a leading zero, an optional fraction and an optional
    exponent. -/
def readNumber? (negative : Bool) (cs : List Char) : Option (Number × List Char) :=
  match cs.span Char.isDigit with
  | ([], _) => none
  | ('0' :: _ :: _, _) => none
  | (digits, rest) =>
    let (significand, counted) := gatherWhole 0 digits
    match rest with
    | '.' :: rest =>
      match rest.span Char.isDigit with
      | ([], _) => none
      | (fraction, rest) =>
        let (significand, taken) := gatherFraction significand fraction
        let exponent : Int := (counted : Int) - taken
        match rest with
        | 'e' :: rest => readExponent? negative significand exponent rest
        | 'E' :: rest => readExponent? negative significand exponent rest
        | _ => (signedFloat? negative significand exponent).map (·, rest)
    | 'e' :: rest => readExponent? negative significand counted rest
    | 'E' :: rest => readExponent? negative significand counted rest
    | _ =>
      if counted = 0 then (wholeNumber? negative significand).map (·, rest)
      else (signedFloat? negative significand counted).map (·, rest)

/-!
### Strings
-/

/-- The value of a hexadecimal digit. -/
def hexValue? (c : Char) : Option Nat :=
  if '0' ≤ c ∧ c ≤ '9' then some (c.toNat - '0'.toNat)
  else if 'a' ≤ c ∧ c ≤ 'f' then some (c.toNat - 'a'.toNat + 10)
  else if 'A' ≤ c ∧ c ≤ 'F' then some (c.toNat - 'A'.toNat + 10)
  else none

/-- Reads four hexadecimal digits. -/
def readUnit? : List Char → Option (Nat × List Char)
  | a :: b :: c :: d :: rest => do
    let a ← hexValue? a
    let b ← hexValue? b
    let c ← hexValue? c
    let d ← hexValue? d
    some (((a * 16 + b) * 16 + c) * 16 + d, rest)
  | _ => none

/-- Reads the character of an escape after its backslash. A character outside the basic plane is written
    as two surrogates; one surrogate alone is no character. -/
def readEscape? : List Char → Option (Char × List Char)
  | '"' :: rest => some ('"', rest)
  | '\\' :: rest => some ('\\', rest)
  | '/' :: rest => some ('/', rest)
  | 'b' :: rest => some ('\x08', rest)
  | 'f' :: rest => some ('\x0c', rest)
  | 'n' :: rest => some ('\n', rest)
  | 'r' :: rest => some ('\r', rest)
  | 't' :: rest => some ('\t', rest)
  | 'u' :: rest => do
    let (first, rest) ← readUnit? rest
    if first < 0xD800 ∨ 0xDFFF < first then some (Char.ofNat first, rest)
    else if 0xDC00 ≤ first then none
    else match rest with
      | '\\' :: 'u' :: rest => do
        let (second, rest) ← readUnit? rest
        if 0xDC00 ≤ second ∧ second ≤ 0xDFFF then
          some (Char.ofNat (0x10000 + (first - 0xD800) * 0x400 + (second - 0xDC00)), rest)
        else none
      | _ => none
  | _ => none

/-- Reads a string after its opening quote. No control character stands unescaped. -/
def readString? : (fuel : Nat) → List Char → Option (List Char × List Char)
  | 0, _ => none
  | _, [] => none
  | _ + 1, '"' :: rest => some ([], rest)
  | fuel + 1, '\\' :: rest => do
    let (c, rest) ← readEscape? rest
    let (cs, rest) ← readString? fuel rest
    some (c :: cs, rest)
  | fuel + 1, c :: rest =>
    if c.toNat < 0x20 then none
    else do
      let (cs, rest) ← readString? fuel rest
      some (c :: cs, rest)

/-!
### Values
-/

/-- The white space of JSON. -/
def isSpace (c : Char) : Bool := c == ' ' || c == '\t' || c == '\n' || c == '\r'

/-- Drops white space. -/
def skipSpace (cs : List Char) : List Char := cs.dropWhile isSpace

/-- The greatest number of arrays and objects that may be open at once. -/
def nestingLimit : Nat := 127

/-- Reads a word that stands for a value. -/
def readWord? (word : String) (value : Json) (cs : List Char) : Option (Json × List Char) :=
  if word.toList.isPrefixOf cs then some (value, cs.drop word.length) else none

mutual

/-- Reads a value. `depth` is the number of arrays and objects that may still be opened; every call takes
    one unit of `fuel`, and at most three calls are made per character. -/
def readValue? : (fuel depth : Nat) → List Char → Option (Json × List Char)
  | 0, _, _ => none
  | fuel + 1, depth, cs =>
    match skipSpace cs with
    | '[' :: rest =>
      match depth with
      | 0 => none
      | depth + 1 =>
        match skipSpace rest with
        | ']' :: rest => some (.array [], rest)
        | rest => do
          let (items, rest) ← readItems? fuel depth rest
          some (.array items, rest)
    | '{' :: rest =>
      match depth with
      | 0 => none
      | depth + 1 =>
        match skipSpace rest with
        | '}' :: rest => some (.object [], rest)
        | rest => do
          let (fields, rest) ← readFields? fuel depth rest
          some (.object (Entries.ofList fields), rest)
    | '"' :: rest => do
      let (value, rest) ← readString? (rest.length + 1) rest
      some (.string (String.ofList value), rest)
    | '-' :: rest => (readNumber? true rest).map (fun (n, rest) => (.number n, rest))
    | 'n' :: rest => readWord? "null" .null ('n' :: rest)
    | 't' :: rest => readWord? "true" (.bool true) ('t' :: rest)
    | 'f' :: rest => readWord? "false" (.bool false) ('f' :: rest)
    | rest => (readNumber? false rest).map (fun (n, rest) => (.number n, rest))

/-- Reads the items of an array, at least one, and its closing bracket. -/
def readItems? : (fuel depth : Nat) → List Char → Option (List Json × List Char)
  | 0, _, _ => none
  | fuel + 1, depth, cs => do
    let (item, rest) ← readValue? fuel depth cs
    match skipSpace rest with
    | ']' :: rest => some ([item], rest)
    | ',' :: rest => do
      let (items, rest) ← readItems? fuel depth rest
      some (item :: items, rest)
    | _ => none

/-- Reads the fields of an object, at least one, and its closing brace. -/
def readFields? : (fuel depth : Nat) → List Char → Option (List (String × Json) × List Char)
  | 0, _, _ => none
  | fuel + 1, depth, cs =>
    match skipSpace cs with
    | '"' :: rest => do
      let (name, rest) ← readString? (rest.length + 1) rest
      match skipSpace rest with
      | ':' :: rest => do
        let (value, rest) ← readValue? fuel depth rest
        let field := (String.ofList name, value)
        match skipSpace rest with
        | '}' :: rest => some ([field], rest)
        | ',' :: rest => do
          let (fields, rest) ← readFields? fuel depth rest
          some (field :: fields, rest)
        | _ => none
      | _ => none
    | _ => none

end

end Reader

/-- Reads a text that holds one JSON value and white space around it. Of several fields with one name the
    last is kept. -/
def read? (text : String) : Option Json :=
  let cs := text.toList
  match Reader.readValue? (3 * cs.length + 3) Reader.nestingLimit cs with
  | some (value, rest) => if (Reader.skipSpace rest).isEmpty then some value else none
  | none => none

end DecisionEval.Json
