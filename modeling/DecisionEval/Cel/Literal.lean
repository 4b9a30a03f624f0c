/-
Module: DecisionEval.Cel.Literal
Purpose: The values of literals, read from the text between their delimiters.
Main exports: Literal, readInteger?, unescapeString?, unescapeRaw, unescapeBytes?
-/
import DecisionEval.Decimal.Numeral
import DecisionEval.Text.Utf8

namespace DecisionEval.Cel

/-- A literal of a program. -/
inductive Literal where
  | int (value : Int64)
  | uint (value : UInt64)
  | float (value : Float)
  | string (value : String)
  | bytes (value : List UInt8)
  | bool (value : Bool)
  | null
deriving Repr, DecidableEq, Inhabited

/-- The signed 64-bit integer with a given value. -/
def int64OfInt? (value : Int) : Option Int64 :=
  if -0x8000000000000000 ≤ value ∧ value < 0x8000000000000000 then some (Int64.ofInt value) else none

/-- The unsigned 64-bit integer with a given value. -/
def uint64OfInt? (value : Int) : Option UInt64 :=
  if 0 ≤ value ∧ value < 0x10000000000000000 then some (UInt64.ofNat value.toNat) else none

/-- The value of a decimal integer literal; one that does not fit 64 bits has none. -/
def readInteger? (cs : List Char) : Option Int64 :=
  match cs with
  | '-' :: digits => int64OfInt? (-(Numeral.digitsValue 0 digits : Int))
  | digits => int64OfInt? (Numeral.digitsValue 0 digits)

/-!
### Escapes
-/

/-- The value of a digit in bases up to sixteen. -/
def digitValue? (base : Nat) (c : Char) : Option Nat :=
  let value? :=
    if '0' ≤ c ∧ c ≤ '9' then some (c.toNat - '0'.toNat)
    else if 'a' ≤ c ∧ c ≤ 'f' then some (c.toNat - 'a'.toNat + 10)
    else if 'A' ≤ c ∧ c ≤ 'F' then some (c.toNat - 'A'.toNat + 10)
    else none
  value?.bind (fun value => if value < base then some value else none)

/-- The value of at least one digit. -/
def digitsValue? (base : Nat) : List Char → Option Nat
  | [] => none
  | cs => cs.foldlM (fun value c => (digitValue? base c).map (value * base + ·)) 0

/-- The value of digits after an optional plus sign. -/
def signedDigitsValue? (base : Nat) : List Char → Option Nat
  | '+' :: digits => digitsValue? base digits
  | digits => digitsValue? base digits

/-- The next `count` characters of a text that has as many. -/
def takeExactly? (count : Nat) (cs : List Char) : Option (List Char × List Char) :=
  if count ≤ cs.length then some (cs.take count, cs.drop count) else none

/-- The character of a code point; surrogates and numbers past U+10FFFF have none. -/
def charOfCode? (code : Nat) : Option Char :=
  if h : code.isValidChar then some (Char.ofNatAux code h) else none

/-- The character of an escape by one letter. -/
def simpleEscape? : Char → Option Char
  | 'a' => some '\x07'
  | 'b' => some '\x08'
  | 'v' => some '\x0b'
  | 'f' => some '\x0c'
  | 'n' => some '\n'
  | 'r' => some '\r'
  | 't' => some '\t'
  | '\\' => some '\\'
  | '?' => some '?'
  | '\'' => some '\''
  | '"' => some '"'
  | '\x60' => some '\x60'
  | _ => none

/-- The number of hexadecimal digits after the letter of an escape by code. -/
def hexEscapeLength? : Char → Option Nat
  | 'x' => some 2
  | 'u' => some 4
  | 'U' => some 8
  | _ => none

/-- The code of an escape in octal digits, of which the first is at most three. -/
def octalEscape? (first : Char) (cs : List Char) : Option (Nat × List Char) := do
  let (others, rest) ← takeExactly? 2 cs
  if '0' ≤ first ∧ first ≤ '3' then
    let code ← digitsValue? 8 (first :: others)
    some (code, rest)
  else none

/-- The characters of an escape in a string between the given quotes, and what follows it. A backslash
    before the other quote stays. -/
def stringEscape? (quote : Char) (c : Char) (rest : List Char) : Option (List Char × List Char) :=
  match simpleEscape? c with
  | some escaped =>
    if (c = '\'' ∨ c = '"') ∧ c ≠ quote then some (['\\', escaped], rest) else some ([escaped], rest)
  | none =>
    match hexEscapeLength? c with
    | some count => do
      let (digits, rest) ← takeExactly? count rest
      let code ← signedDigitsValue? 16 digits
      let escaped ← charOfCode? code
      some ([escaped], rest)
    | none => do
      let (code, rest) ← octalEscape? c rest
      let escaped ← charOfCode? code
      some ([escaped], rest)

/-- The text of a string literal, from what stands between its quotes. -/
def unescapeFrom? (quote : Char) : (fuel : Nat) → List Char → Option (List Char)
  | 0, _ => none
  | _, [] => some []
  | fuel + 1, '\\' :: c :: rest => do
    let (cs, rest) ← stringEscape? quote c rest
    let others ← unescapeFrom? quote fuel rest
    some (cs ++ others)
  | fuel + 1, c :: rest => do
    let others ← unescapeFrom? quote fuel rest
    some (c :: others)

/-- The text of a string literal; an escape of another form has none. -/
def unescapeString? (quote : Char) (body : List Char) : Option String :=
  (unescapeFrom? quote (body.length + 1) body).map String.ofList

/-- The text of a raw string literal: backslashes stay, except for one before the enclosing quote. A
    backslash and the character after it are taken together. -/
def unescapeRaw (quote : Char) : List Char → List Char
  | '\\' :: c :: rest => (if c = quote then [c] else ['\\', c]) ++ unescapeRaw quote rest
  | c :: rest => c :: unescapeRaw quote rest
  | [] => []

/-- The byte of a code, where it fits. -/
def byteOfCode? (code : Nat) : Option UInt8 :=
  if code < 256 then some (UInt8.ofNat code) else none

/-- The byte of an escape in a bytes literal, and what follows it. -/
def byteEscape? (c : Char) (rest : List Char) : Option (UInt8 × List Char) := do
  let (code, rest) ←
    if c = 'x' then do
      let (digits, rest) ← takeExactly? 2 rest
      let code ← signedDigitsValue? 16 digits
      some (code, rest)
    else octalEscape? c rest
  let byte ← byteOfCode? code
  some (byte, rest)

/-- The bytes of a bytes literal, from what stands between its quotes: characters are written in UTF-8,
    and escapes are single bytes. -/
def unescapeBytesFrom? : (fuel : Nat) → List Char → Option (List UInt8)
  | 0, _ => none
  | _, [] => some []
  | _, ['\\'] => none
  | fuel + 1, '\\' :: c :: rest => do
    let (byte, rest) ← byteEscape? c rest
    let others ← unescapeBytesFrom? fuel rest
    some (byte :: others)
  | fuel + 1, c :: rest => do
    let others ← unescapeBytesFrom? fuel rest
    some (String.utf8EncodeChar c ++ others)

/-- The bytes of a bytes literal; an escape of another form has none. -/
def unescapeBytes? (body : List Char) : Option (List UInt8) :=
  unescapeBytesFrom? (body.length + 1) body

end DecisionEval.Cel
