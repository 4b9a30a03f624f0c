/-
Module: DecisionEval.Template.Grammar
Purpose: Templates as a grammar: which texts are bodies of expressions, and how a text is put together from
  literals and bodies.
Main exports: Template.Body, Template.NoOpening, Template.Decomposition
-/
import DecisionEval.Template

namespace DecisionEval.Template

/-!
The scanner of `DecisionEval.Template` looks for openings and closing braces from left to right. The
grammar here says which texts it accepts without saying how they are found: a body pairs its braces up,
and a quoted string in it may hold anything, a backslash hiding the character after it.
-/

/-- Whether a character starts and ends strings. -/
def IsQuote (c : Char) : Prop := c = '"' ∨ c = '\''

/-- Whether a character is a brace. -/
def IsBrace (c : Char) : Prop := c = '{' ∨ c = '}'

/-- What follows the opening quote of a string: its characters and its closing quote. -/
inductive QuotedRest (quote : Char) : List Char → Prop where
  | close : QuotedRest quote [quote]
  | plain {c : Char} {rest : List Char} :
      c ≠ quote → c ≠ '\\' → QuotedRest quote rest → QuotedRest quote (c :: rest)
  | escape {c : Char} {rest : List Char} :
      QuotedRest quote rest → QuotedRest quote ('\\' :: c :: rest)

/-- The text of an expression between its delimiters: single characters, strings, and bodies in braces. -/
inductive Body : List Char → Prop where
  | nil : Body []
  | plain {c : Char} {rest : List Char} :
      ¬IsBrace c → ¬IsQuote c → Body rest → Body (c :: rest)
  | string {quote : Char} {quoted rest : List Char} :
      IsQuote quote → QuotedRest quote quoted → Body rest → Body (quote :: (quoted ++ rest))
  | braces {inner rest : List Char} :
      Body inner → Body rest → Body ('{' :: (inner ++ '}' :: rest))

/-- No mark stands right before an opening brace. -/
def NoOpening (cs : List Char) : Prop :=
  ∀ (before after : List Char) (mark : Char), cs = before ++ mark :: '{' :: after → isMark mark = false

/-- A delimited expression, with the literal text in front of it. -/
structure Part where
  literal : List Char
  mark : Char
  body : List Char
deriving Repr, DecidableEq

/-- The characters of a part. -/
def Part.chars (part : Part) : List Char :=
  part.literal ++ part.mark :: '{' :: (part.body ++ ['}'])

/-- A text as parts and a last literal: literals without openings, and bodies of the grammar. -/
structure Decomposition (cs : List Char) where
  parts : List Part
  last : List Char
  chars_eq : cs = parts.flatMap Part.chars ++ last
  literals : ∀ part ∈ parts, NoOpening part.literal
  last_literal : NoOpening last
  marks : ∀ part ∈ parts, isMark part.mark = true
  bodies : ∀ part ∈ parts, Body part.body

end DecisionEval.Template
