/-
Module: DecisionEval.Language
Purpose: Language identifiers and the path of evaluation that they select.
Main exports: LanguageClass, LanguageClass.of, isFormula, isInterpolated, isScript
-/
import DecisionEval.EvaluationError
import DecisionEval.Text.Ascii
import DecisionEval.Text.Blank

namespace DecisionEval

/-- The path of evaluation that a language selects: the formula engine, interpolated text, or a script
    backend, which is found by the identifier. -/
inductive LanguageClass where
  | formula
  | interpolated
  | script (language : String)
deriving Repr, DecidableEq, Inhabited

namespace LanguageClass

/-- The identifiers of the formula language that are matched exactly. -/
def formulaNamespaces : List String :=
  ["http://www.omg.org/spec/FEEL/20140401", "http://www.omg.org/spec/DMN/20180521/FEEL/",
    "https://www.omg.org/spec/DMN/20191111/FEEL/"]

/-- The short name of the formula language; ASCII letters match in either case. -/
def formulaAlias : String := "feel"

/-- The identifier of interpolated text, matched exactly. -/
def interpolatedName : String := "juel"

/-- The identifier, unless it is blank. -/
def ensure (language : String) : Except EvaluationError String :=
  if Text.isBlank language then .error .missingLanguage else .ok language

/-- Whether an identifier names the formula language. -/
def isFormula (language : String) : Except EvaluationError Bool := do
  let language ← ensure language
  return formulaNamespaces.contains language || Text.equalIgnoringAsciiCase language formulaAlias

/-- Whether an identifier names interpolated text. -/
def isInterpolated (language : String) : Except EvaluationError Bool := do
  let language ← ensure language
  return language == interpolatedName

/-- The class of an identifier: formula identifiers first, then interpolated text, and every other one a
    script language. -/
def of (language : String) : Except EvaluationError LanguageClass := do
  if (← isFormula language) then return .formula
  else if (← isInterpolated language) then return .interpolated
  else return .script language

/-- Whether an identifier is that of a script language. -/
def isScript (language : String) : Except EvaluationError Bool := do
  match (← of language) with
  | .script _ => return true
  | _ => return false

/-- Whether expressions of this class keep a compiled artifact. -/
def keepsArtifact : LanguageClass → Bool
  | .formula => false
  | _ => true

end LanguageClass

end DecisionEval
