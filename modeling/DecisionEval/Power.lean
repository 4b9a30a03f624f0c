/-
Module: DecisionEval.Power
Purpose: The powers of the two bases that numbers are written in.
Main exports: twoTo, tenTo
-/

namespace DecisionEval

/-- Two to the power of `exponent`. -/
def twoTo (exponent : Nat) : Nat := Nat.pow 2 exponent

/-- Ten to the power of `exponent`. -/
def tenTo (exponent : Nat) : Nat := Nat.pow 10 exponent

end DecisionEval
