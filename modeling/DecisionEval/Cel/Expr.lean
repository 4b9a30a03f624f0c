/-
Module: DecisionEval.Cel.Expr
Purpose: The syntax trees of CEL programs and the text that shows a tree in full.
Main exports: Expr, Expr.debugText
-/
import DecisionEval.Cel.Literal
import DecisionEval.Cel.Value

namespace DecisionEval.Cel

/-- The arithmetic operators. -/
inductive ArithmeticOp where
  | add
  | subtract
  | divide
  | multiply
  | modulus
deriving Repr, DecidableEq, Inhabited

/-- The operators that compare. -/
inductive RelationOp where
  | less
  | lessOrEqual
  | greater
  | greaterOrEqual
  | equal
  | notEqual
  | inside
deriving Repr, DecidableEq, Inhabited

/-- The operators on one operand. -/
inductive UnaryOp where
  | not
  | notNot
  | minus
  | minusMinus
deriving Repr, DecidableEq, Inhabited

/-- A program. `call` is a call of a function by its name, on the value of `target` where it is written
    as a method; `fields` is a target with named fields in braces. -/
inductive Expr where
  | arithmetic (op : ArithmeticOp) (left right : Expr)
  | relation (op : RelationOp) (left right : Expr)
  | conditional (condition yes no : Expr)
  | or (left right : Expr)
  | and (left right : Expr)
  | unary (op : UnaryOp) (operand : Expr)
  | select (target : Expr) (name : String)
  | index (target key : Expr)
  | fields (target : Expr) (entries : List (String × Expr))
  | call (name : String) (target : Option Expr) (arguments : List Expr)
  | list (items : List Expr)
  | map (entries : List (Expr × Expr))
  | literal (value : Literal)
  | ident (name : String)
deriving Repr, Inhabited

/-- The name of an arithmetic operator in texts that show a tree. -/
def ArithmeticOp.debugText : ArithmeticOp → String
  | .add => "Add"
  | .subtract => "Subtract"
  | .divide => "Divide"
  | .multiply => "Multiply"
  | .modulus => "Modulus"

/-- The name of a relation in texts that show a tree. -/
def RelationOp.debugText : RelationOp → String
  | .less => "LessThan"
  | .lessOrEqual => "LessThanEq"
  | .greater => "GreaterThan"
  | .greaterOrEqual => "GreaterThanEq"
  | .equal => "Equals"
  | .notEqual => "NotEquals"
  | .inside => "In"

/-- The name of an operator on one operand in texts that show a tree. -/
def UnaryOp.debugText : UnaryOp → String
  | .not => "Not"
  | .notNot => "DoubleNot"
  | .minus => "Minus"
  | .minusMinus => "DoubleMinus"

/-- The text that shows a literal in full. -/
def Literal.debugText : Literal → String
  | .int value => "Int(" ++ toString value.toInt ++ ")"
  | .uint value => "UInt(" ++ toString value.toNat ++ ")"
  | .float value => "Float(" ++ Value.floatNotation.write value ++ ")"
  | .string value => "String(" ++ Text.quoted value ++ ")"
  | .bytes value => "Bytes(" ++ Value.bytesText value ++ ")"
  | .bool value => "Bool(" ++ (if value then "true" else "false") ++ ")"
  | .null => "Null"

namespace Expr

/-- The text of a list of named fields, given the texts of the fields. -/
def fieldsText (entries : List String) : String := "Fields([" ++ Value.joinComma entries ++ "])"

mutual

/-- The text that shows a tree in full. -/
def debugText : Expr → String
  | .arithmetic op left right =>
    "Arithmetic(" ++ debugText left ++ ", " ++ op.debugText ++ ", " ++ debugText right ++ ")"
  | .relation op left right =>
    "Relation(" ++ debugText left ++ ", " ++ op.debugText ++ ", " ++ debugText right ++ ")"
  | .conditional condition yes no =>
    "Ternary(" ++ debugText condition ++ ", " ++ debugText yes ++ ", " ++ debugText no ++ ")"
  | .or left right => "Or(" ++ debugText left ++ ", " ++ debugText right ++ ")"
  | .and left right => "And(" ++ debugText left ++ ", " ++ debugText right ++ ")"
  | .unary op operand => "Unary(" ++ op.debugText ++ ", " ++ debugText operand ++ ")"
  | .select target name =>
    "Member(" ++ debugText target ++ ", Attribute(" ++ Text.quoted name ++ "))"
  | .index target key => "Member(" ++ debugText target ++ ", Index(" ++ debugText key ++ "))"
  | .fields target entries =>
    "Member(" ++ debugText target ++ ", " ++ fieldsText (debugFields entries) ++ ")"
  | .call name target arguments =>
    "FunctionCall(Ident(" ++ Text.quoted name ++ "), " ++ debugTarget target ++ ", ["
      ++ Value.joinComma (debugItems arguments) ++ "])"
  | .list items => "List([" ++ Value.joinComma (debugItems items) ++ "])"
  | .map entries => "Map([" ++ Value.joinComma (debugEntries entries) ++ "])"
  | .literal value => "Atom(" ++ value.debugText ++ ")"
  | .ident name => "Ident(" ++ Text.quoted name ++ ")"

/-- The texts of a list of trees. -/
def debugItems : List Expr → List String
  | [] => []
  | item :: rest => debugText item :: debugItems rest

/-- The texts of map entries. -/
def debugEntries : List (Expr × Expr) → List String
  | [] => []
  | (key, value) :: rest => ("(" ++ debugText key ++ ", " ++ debugText value ++ ")") :: debugEntries rest

/-- The texts of named fields. -/
def debugFields : List (String × Expr) → List String
  | [] => []
  | (name, value) :: rest =>
    ("(" ++ Text.quoted name ++ ", " ++ debugText value ++ ")") :: debugFields rest

/-- The text of the target of a call. -/
def debugTarget : Option Expr → String
  | none => "None"
  | some target => "Some(" ++ debugText target ++ ")"

end

end Expr

end DecisionEval.Cel
