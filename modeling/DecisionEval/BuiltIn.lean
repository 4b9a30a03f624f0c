/-
Module: DecisionEval.BuiltIn
Purpose: The collaborators that run CEL, for any runtime of it: a formula engine, a parser of templates and a
  script backend; and the built-in ones.
Main exports: Runtime.formulaEngine, Runtime.textProvider, Runtime.scriptBackend, BuiltIn.formulaEngine,
  BuiltIn.textProvider, BuiltIn.scriptBackend
-/
import DecisionEval.Backend
import DecisionEval.Template

namespace DecisionEval

namespace Cel.Runtime

variable {π : Type}

/-- Labels the errors of CEL as failures of a collaborator. -/
def report {α : Type} (outcome : Outcome CelError α) : Outcome BackendError α :=
  outcome.mapError BackendError.cel

/-- Compiles and runs a text with the given variables. -/
def runText (cel : Runtime π) (text : String) (inputs : List (String × Json)) : Outcome BackendError Json :=
  report ((cel.compile text).bind (cel.execute · inputs))

/-- The formula engine that evaluates formulas as CEL programs. It compiles anew on every call. -/
def formulaEngine (cel : Runtime π) : FormulaEngine where
  evaluate text context := cel.runText text context.toList

/-- A parsed template as the form of interpolated text that is kept. -/
def parsedText (cel : Runtime π) (template : Template π) : ParsedText where
  value context := report (template.evaluateWith (cel.execute · context.toList))

/-- The parser of interpolated text as templates with CEL programs. -/
def textProvider (cel : Runtime π) : TextProvider where
  parse text :=
    report ((Template.parseWith cel.compile text).bind (fun template => .ok (cel.parsedText template)))

/-- A program as the compiled form of a script. -/
def compiledScript (cel : Runtime π) (program : π) : CompiledScript where
  run bindings := report (cel.execute program bindings.toList)

/-- Compiles a script. -/
def compileScript (cel : Runtime π) (text : String) : Outcome BackendError CompiledScript :=
  report ((cel.compile text).bind (fun program => .ok (cel.compiledScript program)))

/-- The name of the script backend in errors. -/
def languageName : String := "CEL"

/-- The script backend that runs scripts as CEL programs. It has no bindings of its own. -/
def scriptBackend (cel : Runtime π) : ScriptBackend where
  languageName := languageName
  createBindings := ∅
  eval text bindings := cel.runText text bindings.toList
  compile? := some cel.compileScript

end Cel.Runtime

namespace BuiltIn

open Cel (Program)

/-- The built-in formula engine. -/
def formulaEngine : FormulaEngine := Program.runtime.formulaEngine

/-- The built-in parser of interpolated text. -/
def textProvider : TextProvider := Program.runtime.textProvider

/-- The compilation of the built-in script backend. -/
def compileScript (text : String) : Outcome BackendError CompiledScript := Program.runtime.compileScript text

/-- The built-in script backend. -/
def scriptBackend : ScriptBackend := Program.runtime.scriptBackend

end BuiltIn

end DecisionEval
