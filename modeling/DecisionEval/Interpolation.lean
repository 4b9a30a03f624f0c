/-
Module: DecisionEval.Interpolation
Purpose: The form in which the text of an expression is handed to its language.
Main exports: isDelimited, delimit, Expression.textFor
-/
import DecisionEval.Expression
import DecisionEval.Language

namespace DecisionEval

/-- Whether characters start with an opening of interpolated text. -/
def startsWithOpening : List Char → Bool
  | '$' :: '{' :: _ => true
  | '#' :: '{' :: _ => true
  | _ => false

/-- Whether a text starts with an opening, white space aside. -/
def isDelimited (text : String) : Bool := startsWithOpening (Text.dropBlank text.toList)

/-- A text between delimiters. -/
def delimit (text : String) : String := "$\x7b" ++ text ++ "\x7d"

/-- The text of an expression in the form that a language expects: interpolated text is delimited, other
    text stays as it is. There is none if the expression has no text. -/
def Expression.textFor (e : Expression) (language : String) : Option String :=
  e.text?.map (fun text =>
    match LanguageClass.isInterpolated language with
    | .ok true => if isDelimited text then text else delimit text
    | _ => text)

end DecisionEval
