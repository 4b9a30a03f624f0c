/-
Module: DecisionEval.Cel.EvalError
Purpose: The ways in which the evaluation of a CEL program fails.
Main exports: EvalError, EvalError.debugText, EvalResult
-/
import DecisionEval.Cel.Expr
import DecisionEval.Outcome

namespace DecisionEval.Cel

/-- Why an evaluation failed. -/
inductive EvalError where
  | undeclaredReference (name : String)
  | noSuchKey (key : String)
  | invalidArgumentCount (expected actual : Nat)
  | missingArgumentOrTarget
  | unexpectedType (got want : String)
  | unsupportedKeyType (key : Value)
  | unsupportedMapIndex (key : Value)
  | unsupportedListIndex (key : Value)
  | unsupportedIndex (target key : Value)
  | unsupportedUnaryOperator (operator : String) (operand : Value)
  | unsupportedBinaryOperator (operator : String) (left right : Value)
  | unsupportedFields (entries : List (String × Expr))
  | valuesNotComparable (left right : Value)
  | functionError (function message : String)
deriving Repr

/-- The text that shows an error in full. -/
def EvalError.debugText : EvalError → String
  | .undeclaredReference name => "UndeclaredReference(" ++ Text.quoted name ++ ")"
  | .noSuchKey key => "NoSuchKey(" ++ Text.quoted key ++ ")"
  | .invalidArgumentCount expected actual =>
    "InvalidArgumentCount \x7b expected: " ++ toString expected ++ ", actual: " ++ toString actual ++ " \x7d"
  | .missingArgumentOrTarget => "MissingArgumentOrTarget"
  | .unexpectedType got want =>
    "UnexpectedType \x7b got: " ++ Text.quoted got ++ ", want: " ++ Text.quoted want ++ " \x7d"
  | .unsupportedKeyType key => "UnsupportedKeyType(" ++ key.debugText ++ ")"
  | .unsupportedMapIndex key => "UnsupportedMapIndex(" ++ key.debugText ++ ")"
  | .unsupportedListIndex key => "UnsupportedListIndex(" ++ key.debugText ++ ")"
  | .unsupportedIndex target key =>
    "UnsupportedIndex(" ++ target.debugText ++ ", " ++ key.debugText ++ ")"
  | .unsupportedUnaryOperator operator operand =>
    "UnsupportedUnaryOperator(" ++ Text.quoted operator ++ ", " ++ operand.debugText ++ ")"
  | .unsupportedBinaryOperator operator left right =>
    "UnsupportedBinaryOperator(" ++ Text.quoted operator ++ ", " ++ left.debugText ++ ", "
      ++ right.debugText ++ ")"
  | .unsupportedFields entries =>
    "UnsupportedFieldsConstruction(" ++ Expr.fieldsText (Expr.debugFields entries) ++ ")"
  | .valuesNotComparable left right =>
    "ValuesNotComparable(" ++ left.debugText ++ ", " ++ right.debugText ++ ")"
  | .functionError function message =>
    "FunctionError \x7b function: " ++ Text.quoted function ++ ", message: " ++ Text.quoted message ++ " \x7d"

/-- What an evaluation gives. -/
abbrev EvalResult (α : Type) := Outcome EvalError α

end DecisionEval.Cel
