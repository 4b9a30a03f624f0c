/-
Module: DecisionEval.Decimal.Notation
Purpose: Floats as decimal text, with the choices of a format gathered in one record.
Main exports: Notation, Notation.write
-/
import DecisionEval.Decimal.Shortest

namespace DecisionEval

/-- The choices of a format that writes floats. -/
structure Notation where
  /-- Which of two equally near decimals is written. -/
  tie : Tie
  /-- The powers of ten of the leading digit that are written without an exponent. -/
  positional : Int → Bool
  /-- Whether a whole number keeps a point and a zero. -/
  wholePoint : Bool
  /-- Whether an exponent that is not negative has a plus sign. -/
  exponentPlus : Bool

namespace Notation

/-- Digits with a point before the power `-1`, filled with zeros up to the point on either side. -/
def positionalText (wholePoint : Bool) (d : Decimal) : List Char :=
  let digits := Nat.toDigits 10 d.digits
  if 0 ≤ d.exponent then
    digits ++ List.replicate d.exponent.toNat '0' ++ (if wholePoint then ['.', '0'] else [])
  else
    let places := (-d.exponent).toNat
    if digits.length ≤ places then
      ['0', '.'] ++ List.replicate (places - digits.length) '0' ++ digits
    else
      digits.take (digits.length - places) ++ ['.'] ++ digits.drop (digits.length - places)

/-- One digit before the point, the others behind it, and the power of ten. -/
def exponentText (exponentPlus : Bool) (d : Decimal) (leading : Int) : List Char :=
  let sign := if leading < 0 then ['-'] else if exponentPlus then ['+'] else []
  let exponent := ['e'] ++ sign ++ Nat.toDigits 10 leading.natAbs
  match Nat.toDigits 10 d.digits with
  | [] => exponent
  | [digit] => digit :: exponent
  | digit :: rest => digit :: '.' :: rest ++ exponent

/-- The text of a float: the fewest digits that read back. -/
def write (format : Notation) (x : Float) : String :=
  if x.isNaN then "NaN"
  else
    let negative := x.toBits ≥ 0x8000000000000000
    let body :=
      if x.isInf then ['i', 'n', 'f']
      else
        let d := Decimal.shortest format.tie x
        let leading := d.exponent + (Decimal.digitCount d.digits : Int) - 1
        if d.digits = 0 || format.positional leading then positionalText format.wholePoint d
        else exponentText format.exponentPlus d leading
    String.ofList (if negative then '-' :: body else body)

end Notation

end DecisionEval
