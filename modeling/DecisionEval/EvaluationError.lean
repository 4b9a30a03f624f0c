/-
Module: DecisionEval.EvaluationError
Purpose: The failures of collaborators and of whole evaluations.
Main exports: BackendError, EvaluationError, EvaluationError.message
-/
import DecisionEval.Cel.Program

namespace DecisionEval

/-- A failure of a collaborator: one of the built-in CEL, or a message of another. -/
inductive BackendError where
  | cel (cause : Cel.CelError)
  | other (text : String)
deriving Repr

/-- The message of a collaborator's failure. -/
def BackendError.message : BackendError → String
  | .cel cause => cause.message
  | .other text => text

/-- Why an expression has no result: the language is blank, no backend serves it, an interpolated text or
    a script failed, or the formula engine did, whose failure is passed on as it is. -/
inductive EvaluationError where
  | missingLanguage
  | noBackend (language : String)
  | failure (expression language : String) (source : BackendError)
  | formula (source : BackendError)
deriving Repr

namespace EvaluationError

/-- The message of an error. -/
def message : EvaluationError → String
  | .missingLanguage => "Expression language identifier must not be empty"
  | .noBackend language =>
    "Unable to find script engine for expression language '" ++ language ++ "'"
  | .failure expression language _ =>
    "Unable to evaluate expression for language '" ++ language ++ "': '" ++ expression ++ "'"
  | .formula source => source.message

/-- The text of the expression that failed. -/
def expression? : EvaluationError → Option String
  | .failure expression _ _ => some expression
  | _ => none

/-- The language, or the name of the backend, that failed. -/
def language? : EvaluationError → Option String
  | .failure _ language _ => some language
  | .noBackend language => some language
  | _ => none

/-- The failure underneath. -/
def source? : EvaluationError → Option BackendError
  | .failure _ _ source => some source
  | .formula source => some source
  | _ => none

end EvaluationError

end DecisionEval
