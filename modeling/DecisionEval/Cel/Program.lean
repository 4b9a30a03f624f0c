/-
Module: DecisionEval.Cel.Program
Purpose: Runtimes of CEL, their errors, and the runtime of this library: compiled programs and their execution on
  JSON variables.
Main exports: CelError, Runtime, Runtime.compile, Runtime.execute, Program, Program.runtime
-/
import DecisionEval.Cel.Conversion
import DecisionEval.Cel.Eval
import DecisionEval.Cel.Parser
import DecisionEval.Text.Quoted

namespace DecisionEval.Cel

/-- What is wrong with an expression inside a template: its brace is never closed, or nothing stands
    between the braces. -/
inductive TemplateFault where
  | unterminated
  | empty
deriving Repr, DecidableEq, Inhabited

/-- The message of a template fault. -/
def TemplateFault.message : TemplateFault → String
  | .unterminated => "unterminated expression"
  | .empty => "empty expression"

/-- Why a CEL text has no value: it does not compile, about which the compiler has something to say, its
    execution fails, or it is a template at fault. -/
inductive CelError where
  | compilation (diagnosis : String)
  | evaluation (cause : EvalError)
  | invalidTemplate (offset : Nat) (fault : TemplateFault)
deriving Repr

/-- The message of an error. -/
def CelError.message : CelError → String
  | .compilation diagnosis => "CEL compilation failed: " ++ diagnosis
  | .evaluation cause => "CEL evaluation failed: " ++ cause.debugText
  | .invalidTemplate offset fault =>
    "Invalid template at offset " ++ toString offset ++ ": " ++ fault.message

/-- A runtime of CEL, with programs of its own kind. It translates texts into programs, or says what is wrong
    with a text, and it runs programs with JSON variables. -/
structure Runtime (π : Type) where
  translate : String → Outcome String π
  run : π → List (String × Json) → Outcome EvalError Json

namespace Runtime

variable {π : Type}

/-- Compiles a text. -/
def compile (cel : Runtime π) (source : String) : Outcome CelError π :=
  (cel.translate source).mapError CelError.compilation

/-- Executes a program with the given variables. -/
def execute (cel : Runtime π) (program : π) (inputs : List (String × Json)) : Outcome CelError Json :=
  (cel.run program inputs).mapError CelError.evaluation

end Runtime

/-- A compiled program. -/
structure Program where
  body : Expr
deriving Repr, Inhabited

namespace Program

/-- Translates a text. The words of the parser for a text that is no program are not modelled. They depend on
    that text alone, which stands in their place. -/
def translate (source : String) : Outcome String Program :=
  ((Expr.parse source).mapError (fun _ => Text.quoted source)).bind (fun body => .ok ⟨body⟩)

/-- The scope of JSON variables; of several with one name the last is seen. -/
def scopeOf (inputs : List (String × Json)) : Scope :=
  ⟨[], Entries.ofList (inputs.map (fun (name, value) => (name, Value.ofJson value))), []⟩

/-- Runs a program with the given inputs in scope. -/
def run (program : Program) (inputs : List (String × Json)) : Outcome EvalError Json :=
  (program.body.eval (scopeOf inputs)).bind (fun value => .ok value.toJson)

/-- The runtime of this library. -/
def runtime : Runtime Program where
  translate := translate
  run := run

/-- Compiles a text with the runtime of this library. -/
def compile (source : String) : Outcome CelError Program := runtime.compile source

/-- Executes a program with the runtime of this library. -/
def execute (program : Program) (inputs : List (String × Json)) : Outcome CelError Json :=
  runtime.execute program inputs

end Program

end DecisionEval.Cel
