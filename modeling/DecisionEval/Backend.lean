/-
Module: DecisionEval.Backend
Purpose: The collaborators that evaluate expressions, as collections of functions.
Main exports: FormulaEngine, ParsedText, TextProvider, CompiledScript, ScriptBackend
-/
import DecisionEval.Bindings
import DecisionEval.EvaluationError

namespace DecisionEval

/-- An engine of the formula language. It has no compiled form. -/
structure FormulaEngine where
  evaluate : String → Context → Outcome BackendError Json

/-- The parsed form of interpolated text. -/
structure ParsedText where
  value : Context → Outcome BackendError Json

/-- A parser of interpolated text. -/
structure TextProvider where
  parse : String → Outcome BackendError ParsedText

/-- The compiled form of a script. -/
structure CompiledScript where
  run : Bindings → Outcome BackendError Json

/-- An engine of a script language: the name that errors show, the bindings that it creates for every
    evaluation, direct evaluation, and compilation if it offers that. -/
structure ScriptBackend where
  languageName : String
  createBindings : Dictionary Json
  eval : String → Bindings → Outcome BackendError Json
  compile? : Option (String → Outcome BackendError CompiledScript)

end DecisionEval
