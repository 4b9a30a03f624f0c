/-
Module: DecisionEval.Decimal.Shortest
Purpose: The fewest decimal digits that read back as a given float.
Main exports: Decimal, Tie, Decimal.shortest
-/
import DecisionEval.Binary64

namespace DecisionEval

/-- The number `digits * 10 ^ exponent`. -/
structure Decimal where
  digits : Nat
  exponent : Int
deriving Repr, DecidableEq

/-- Which of two decimals is taken that are equally near to a float. -/
inductive Tie where
  | even
  | up
deriving Repr, DecidableEq

namespace Decimal

/-- The number of decimal digits of a natural number; zero has one. -/
def digitCount (n : Nat) : Nat := (Nat.toDigits 10 n).length

/-- Moves trailing zeros of the digits, at most `fuel` of them, into the exponent. -/
def stripZeros : Nat → Decimal → Decimal
  | 0, d => d
  | fuel + 1, d =>
    if d.digits % 10 = 0 ∧ d.digits ≠ 0 then stripZeros fuel ⟨d.digits / 10, d.exponent + 1⟩ else d

/-- The interval of the reals that round to a float, as multiples of a quarter of its unit: the value
    lies at `4 * significand`, half a unit leads to the neighbour above and half the gap below to the
    neighbour below. The ends belong to it if the significand is even. -/
structure Rounding where
  low : Nat
  value : Nat
  high : Nat
  ends : Bool
deriving Repr, DecidableEq

/-- The reals that round to a float. -/
def Rounding.ofBinary (b : Binary64) : Rounding :=
  let value := 4 * b.significand
  ⟨if b.closerBelow then value - 1 else value - 2, value, value + 2, b.significand % 2 == 0⟩

/-- Looks for a multiple of `10 ^ power` among the reals that round to the float: of the two multiples
    next to its value the one that qualifies, and of two that do, the nearer or the one that the tie rule
    takes. -/
def onGrid? (tie : Tie) (b : Binary64) (power : Int) : Option Decimal :=
  let interval := Rounding.ofBinary b
  let scale := twoTo (b.exponent - 2).toNat * tenTo (-power).toNat
  let unit := twoTo (2 - b.exponent).toNat * tenTo power.toNat
  let inside (multiple : Nat) : Bool :=
    let point := multiple * unit
    if interval.ends then interval.low * scale ≤ point && point ≤ interval.high * scale
    else interval.low * scale < point && point < interval.high * scale
  let below := interval.value * scale / unit
  let rest := interval.value * scale % unit
  let belowNearer :=
    rest * 2 < unit || (rest * 2 == unit && tie == .even && below % 2 == 0)
  if inside below && (belowNearer || !inside (below + 1)) then some ⟨below, power⟩
  else if inside (below + 1) then some ⟨below + 1, power⟩
  else none

/-- The power of ten of the leading digit of a positive float. -/
def leadingPower (b : Binary64) : Int :=
  let n := b.significand * twoTo b.exponent.toNat
  let d := twoTo (-b.exponent).toNat
  let guess : Int := (digitCount n : Int) - digitCount d
  if d * tenTo guess.toNat ≤ n * tenTo (-guess).toNat then guess else guess - 1

/-- The magnitude of a finite float with the fewest digits that read back as it, and of those the
    nearest. Seventeen digits always suffice. -/
def shortest (tie : Tie) (x : Float) : Decimal :=
  let b := Binary64.ofFloat x
  if b.significand = 0 then ⟨0, 0⟩
  else
    let leading := leadingPower b
    match (List.range 17).findSome? (fun (n : Nat) => onGrid? tie b (leading - n)) with
    | some d => stripZeros 17 d
    | none => ⟨0, 0⟩

end Decimal

end DecisionEval
