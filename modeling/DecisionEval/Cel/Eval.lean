/-
Module: DecisionEval.Cel.Eval
Purpose: The evaluation of CEL programs.
Main exports: Expr.eval
-/
import DecisionEval.Cel.Function

namespace DecisionEval.Cel

/-- The value of a literal. -/
def Literal.toValue : Literal → Value
  | .int value => .int value
  | .uint value => .uint value
  | .float value => .float value
  | .string value => .string value
  | .bytes value => .bytes value
  | .bool value => .bool value
  | .null => .null

/-- What a name selects from a value: an entry of a map, or else the function of that name together with
    the value. -/
def Value.select (target : Value) (name : String) : EvalResult Value :=
  let entry? :=
    match target with
    | .map entries _ => Entries.find? (Key.string name) entries
    | _ => none
  match entry? with
  | some value => .ok value
  | none =>
    if Function.isDefined name then .ok (.function name (some target)) else .error (.noSuchKey name)

namespace Expr

mutual

/-- The value of a program in a scope. Operands are evaluated from left to right, both of `&&` in any case,
    the right one of `||` and the branches of a choice only where they are needed. The result of `||` is
    one of its operands, that of `&&` a boolean. An unknown function is noticed before its target and its
    arguments are evaluated. Every operand has a place of its own below that of the whole. -/
def eval : Expr → Scope → EvalResult Value
  | .arithmetic op left right, scope => do
    let a ← eval left (scope.step 0)
    let b ← eval right (scope.step 1)
    op.apply scope.place a b
  | .relation op left right, scope => do
    let a ← eval left (scope.step 0)
    let b ← eval right (scope.step 1)
    op.apply a b
  | .conditional condition yes no, scope => do
    let test ← eval condition (scope.step 0)
    if test.truthy then eval yes (scope.step 1) else eval no (scope.step 2)
  | .or left right, scope => do
    let a ← eval left (scope.step 0)
    if a.truthy then .ok a else eval right (scope.step 1)
  | .and left right, scope => do
    let a ← eval left (scope.step 0)
    let b ← eval right (scope.step 1)
    .ok (.bool (a.truthy && b.truthy))
  | .unary op operand, scope => do
    let a ← eval operand (scope.step 0)
    op.apply a
  | .select target name, scope => do
    let a ← eval target (scope.step 0)
    a.select name
  | .index target key, scope => do
    let a ← eval target (scope.step 0)
    let k ← eval key (scope.step 1)
    a.itemAt k
  | .fields target entries, scope => do
    let _ ← eval target (scope.step 0)
    .error (.unsupportedFields entries)
  | .call name target arguments, scope =>
    match Function.find? name with
    | none => .error (.undeclaredReference name)
    | some function => do
      let target ← evalTarget target (scope.step 0)
      function ⟨name, target, argumentsOf arguments, scope⟩
  | .list items, scope => do
    let values ← evalItems items scope
    .ok (.listAt scope.place values)
  | .map entries, scope => do
    let values ← evalEntries entries scope
    .ok (.mapAt scope.place (Entries.ofList values))
  | .literal value, _ => .ok value.toValue
  | .ident name, scope =>
    match scope.find? name with
    | some value => .ok value
    | none => .error (.undeclaredReference name)

/-- The value of the target of a call, where it has one. -/
def evalTarget : Option Expr → Scope → EvalResult (Option Value)
  | none, _ => .ok none
  | some target, scope => do
    let value ← eval target scope
    .ok (some value)

/-- The arguments of a call, each with its evaluation. -/
def argumentsOf : List Expr → List Argument
  | [] => []
  | argument :: rest => ⟨argument, fun scope => eval argument scope⟩ :: argumentsOf rest

/-- The values of a list, from left to right. -/
def evalItems : List Expr → Scope → EvalResult (List Value)
  | [], _ => .ok []
  | item :: rest, scope => do
    let value ← eval item (scope.step 0)
    let values ← evalItems rest (scope.step 1)
    .ok (value :: values)

/-- The entries of a map, from left to right; each key is checked before its value is evaluated. -/
def evalEntries : List (Expr × Expr) → Scope → EvalResult (List (Key × Value))
  | [], _ => .ok []
  | (key, value) :: rest, scope => do
    let k ← eval key (scope.step 0)
    match k.toKey? with
    | none => .error (.unsupportedKeyType k)
    | some found => do
      let v ← eval value (scope.step 1)
      let others ← evalEntries rest (scope.step 2)
      .ok ((found, v) :: others)

end

end Expr

end DecisionEval.Cel
