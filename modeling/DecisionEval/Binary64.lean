/-
Module: DecisionEval.Binary64
Purpose: The exact value of a 64-bit float as an integer times a power of two, and the operations that are
  easiest to state on that value: rounding a quotient, remainder, and the integer part.
Main exports: Binary64, Binary64.ofFloat, nearest, Binary64.truncate, remainder
-/
import DecisionEval.Power

namespace DecisionEval

/-- The magnitude `significand * 2 ^ exponent` of a finite float, with its sign. -/
structure Binary64 where
  negative : Bool
  significand : Nat
  exponent : Int
deriving Repr, DecidableEq

namespace Binary64

/-- The place of the bit of a significand that is not written down: those below it are. -/
def hiddenBit : Nat := 0x10000000000000

/-- The place of the sign in the bits of a float. -/
def signBit : Nat := 0x8000000000000000

/-- The exponent of the smallest subnormal number. -/
def leastExponent : Int := -1074

/-- The value of a finite float. The exponents of infinities and of NaN lie above those of all finite
    floats; callers set those apart first. -/
def ofFloat (x : Float) : Binary64 :=
  let bits : Nat := x.toBits.toNat
  let fraction : Nat := bits % hiddenBit
  let biased : Nat := bits / hiddenBit % 2048
  ⟨bits / signBit == 1,
    if biased = 0 then fraction else fraction + hiddenBit,
    if biased = 0 then leastExponent else (biased : Int) - 1075⟩

/-- Whether the gap to the next smaller magnitude is half as wide as the gap to the next larger one: this
    is so at powers of two, the smallest ones excepted. -/
def closerBelow (b : Binary64) : Bool :=
  b.significand == hiddenBit && decide (b.exponent > leastExponent)

/-- The integer part, towards zero. -/
def truncate (b : Binary64) : Int :=
  let magnitude : Nat :=
    if 0 ≤ b.exponent then b.significand * twoTo b.exponent.toNat
    else b.significand / twoTo (-b.exponent).toNat
  if b.negative then -(magnitude : Int) else magnitude

end Binary64

/-- The bits of positive infinity, above those of all finite magnitudes. -/
def infinityBits : Nat := 0x7FF0000000000000

/-- The float with the given sign and the magnitude whose bits are `bits`, where bits past those of
    infinity stand for infinity. -/
def floatOfBits (negative : Bool) (bits : Nat) : Float :=
  let magnitude := min bits infinityBits
  Float.ofBits (UInt64.ofNat (if negative then Binary64.signBit + magnitude else magnitude))

/-- The float nearest to `numerator / denominator`, a tie going to the even significand. The exponent is
    chosen so that the quotient has 53 bits, or as many as the subnormal numbers leave; the bits of a
    float then count its significands upwards across all exponents, also where rounding carries. -/
def nearest (negative : Bool) (numerator denominator : Nat) : Float :=
  if numerator = 0 then floatOfBits negative 0
  else
    let quotientAt (exponent : Int) : Nat × Nat :=
      let n := numerator * twoTo (-exponent).toNat
      let d := denominator * twoTo exponent.toNat
      (n / d, if n % d * 2 < d then 0 else if n % d * 2 = d then 1 else 2)
    let guess : Int := (numerator.log2 : Int) - denominator.log2 - 52
    let guess := if guess > Binary64.leastExponent ∧ (quotientAt guess).1 < Binary64.hiddenBit then guess - 1 else guess
    let exponent := max guess Binary64.leastExponent
    let (quotient, rest) := quotientAt exponent
    let significand :=
      if rest = 2 ∨ (rest = 1 ∧ quotient % 2 = 1) then quotient + 1 else quotient
    floatOfBits negative (significand + (exponent - Binary64.leastExponent).toNat * Binary64.hiddenBit)

/-- The remainder of a division whose quotient is truncated: it is exact and has the sign of the
    dividend. -/
def remainder (x y : Float) : Float :=
  if x.isNaN || y.isNaN || x.isInf || y == 0.0 then 0.0 / 0.0
  else if y.isInf then x
  else
    let a := Binary64.ofFloat x
    let b := Binary64.ofFloat y
    let exponent := min a.exponent b.exponent
    let rest := (a.significand * twoTo (a.exponent - exponent).toNat)
      % (b.significand * twoTo (b.exponent - exponent).toNat)
    nearest a.negative (rest * twoTo exponent.toNat) (twoTo (-exponent).toNat)

end DecisionEval
