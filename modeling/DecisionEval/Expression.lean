/-
Module: DecisionEval.Expression
Purpose: The expressions of a decision model, with the slots for their compiled forms.
Main exports: Expression, Expression.text?, Expression.debugText
-/
import DecisionEval.Backend
import DecisionEval.Slot
import DecisionEval.Text.Blank

namespace DecisionEval

/-- An expression: its identity in the model, its language if it has one of its own, its text as written,
    and the slots for its parsed and its compiled form. The text never changes. -/
structure Expression where
  id : Option String := none
  name : Option String := none
  language : Option String := none
  written : Option String := none
  parsedSlot : Slot ParsedText := Slot.empty
  scriptSlot : Slot CompiledScript := Slot.empty

namespace Expression

instance : Inhabited Expression := ⟨{}⟩

/-- The expression of a text. -/
def ofText (text : String) : Expression := { written := some text }

/-- The text, unless it is absent or blank. -/
def text? (e : Expression) : Option String := e.written.filter (fun text => !Text.isBlank text)

/-- The same expression with empty slots. -/
def fresh (e : Expression) : Expression :=
  { e with parsedSlot := Slot.empty, scriptSlot := Slot.empty }

/-- The text that shows an expression in full. -/
def debugText (e : Expression) : String :=
  "Expression \x7b id: " ++ Slot.optionText e.id ++ ", language: " ++ Slot.optionText e.language
    ++ ", text: " ++ Slot.optionText e.written ++ ", el_slot: " ++ e.parsedSlot.debugText
    ++ ", script_slot: " ++ e.scriptSlot.debugText ++ " \x7d"

end Expression

end DecisionEval
