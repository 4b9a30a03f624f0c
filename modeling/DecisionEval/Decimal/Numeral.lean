/-
Module: DecisionEval.Decimal.Numeral
Purpose: Decimal numerals with a fraction and an exponent, and the floats that they denote.
Main exports: Numeral, Numeral.toFloat, readFloat?
-/
import DecisionEval.Binary64
import DecisionEval.Text.Ascii

namespace DecisionEval

/-- The number `digits * 10 ^ exponent` with a sign. -/
structure Numeral where
  negative : Bool
  digits : Nat
  exponent : Int
deriving Repr, DecidableEq

namespace Numeral

/-- The value of decimal digits, continuing a number whose digits came before. -/
def digitsValue (before : Nat) (digits : List Char) : Nat :=
  digits.foldl (fun value c => value * 10 + (c.toNat - '0'.toNat)) before

/-- The nearest float, a tie going to the even one. Numbers far beyond the largest float and far below
    the smallest one are settled without computing their power of ten. -/
def toFloat (n : Numeral) : Float :=
  let size : Int := ((Nat.toDigits 10 n.digits).length : Int) + n.exponent
  if n.digits = 0 ∨ size < -400 then floatOfBits n.negative 0
  else if size > 400 then floatOfBits n.negative infinityBits
  else nearest n.negative (n.digits * tenTo n.exponent.toNat) (tenTo (-n.exponent).toNat)

/-- Reads an optional sign. -/
def readSign : List Char → Bool × List Char
  | '-' :: rest => (true, rest)
  | '+' :: rest => (false, rest)
  | cs => (false, cs)

/-- Splits off the digits at the front. -/
def readDigits (cs : List Char) : List Char × List Char := cs.span Char.isDigit

/-- Reads an exponent if one stands here: the letter `e`, an optional sign and at least one digit; else
    the exponent is zero. It is absent if the letter stands here and no digits follow it. -/
def readExponent? : List Char → Option (Int × List Char)
  | c :: rest =>
    if c = 'e' ∨ c = 'E' then
      let (negative, rest) := readSign rest
      match readDigits rest with
      | ([], _) => none
      | (digits, rest) =>
        let value : Int := digitsValue 0 digits
        some (if negative then -value else value, rest)
    else some (0, c :: rest)
  | [] => some (0, [])

/-- Reads digits with an optional point among, before or behind them: the digits of the whole part and
    those of the fraction, which are not both empty. -/
def readMantissa? (cs : List Char) : Option ((List Char × List Char) × List Char) :=
  let (whole, rest) := readDigits cs
  let (fraction, rest) :=
    match rest with
    | '.' :: more => readDigits more
    | _ => ([], rest)
  if whole.isEmpty && fraction.isEmpty then none else some ((whole, fraction), rest)

/-- The numeral of a whole part, a fraction and a written exponent. -/
def ofParts (negative : Bool) (whole fraction : List Char) (exponent : Int) : Numeral :=
  ⟨negative, digitsValue (digitsValue 0 whole) fraction, exponent - fraction.length⟩

/-- Reads a numeral from the front of a text. The sign has been read before. -/
def readUnsigned? (negative : Bool) (cs : List Char) : Option (Numeral × List Char) := do
  let ((whole, fraction), rest) ← readMantissa? cs
  let (exponent, rest) ← readExponent? rest
  some (ofParts negative whole fraction exponent, rest)

end Numeral

/-- Reads a whole text as a float: a numeral, or one of the words `inf`, `infinity` and `nan` in any
    case, after an optional sign. -/
def readFloat? (text : List Char) : Option Float :=
  let (negative, rest) := Numeral.readSign text
  let word := Text.asciiLower rest
  if word = ['i', 'n', 'f'] ∨ word = ['i', 'n', 'f', 'i', 'n', 'i', 't', 'y'] then
    some (floatOfBits negative infinityBits)
  else if word = ['n', 'a', 'n'] then some (0.0 / 0.0)
  else
    match Numeral.readUnsigned? negative rest with
    | some (numeral, []) => some numeral.toFloat
    | _ => none

end DecisionEval
