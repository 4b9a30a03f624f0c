/-
Module: DecisionEval.Text.CodeRange
Purpose: Character classes as lists of closed ranges of code points.
Main exports: inRanges
-/

namespace DecisionEval.Text

/-- Whether a character lies in one of the closed ranges of code points. -/
def inRanges (ranges : List (Nat × Nat)) (c : Char) : Bool :=
  ranges.any (fun range => range.1 ≤ c.toNat && c.toNat ≤ range.2)

end DecisionEval.Text
