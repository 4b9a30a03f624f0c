/-
Module: DecisionEval.CommandLine
Purpose: The command line: one expression, its language and its variables.
Main exports: CommandLine.VariableError, CommandLine.readVariable, CommandLine.runWith, CommandLine.run,
  CommandLine.report
-/
import DecisionEval.Engine
import DecisionEval.Json.Reader

namespace DecisionEval.CommandLine

/-- Why an argument is no variable: it has no equals sign, or nothing in front of it. -/
inductive VariableError where
  | noValue (argument : String)
  | emptyName (argument : String)
deriving Repr, DecidableEq

/-- The message of a variable error. -/
def VariableError.message : VariableError → String
  | .noValue argument => "variable '" ++ argument ++ "' must look like name=value"
  | .emptyName argument => "variable '" ++ argument ++ "' has an empty name"

/-- Why the command line gives no value. -/
inductive RunError where
  | usage
  | badVariable (cause : VariableError)
  | evaluation (language text : String) (cause : EvaluationError)
deriving Repr

/-- Splits a text at its first equals sign. -/
def splitAtEquals? (text : String) : Option (String × String) :=
  match text.toList.span (· != '=') with
  | (name, '=' :: value) => some (String.ofList name, String.ofList value)
  | _ => none

/-- The value that is written in an argument: JSON, or the text itself where it is no JSON. -/
def readValue (text : String) : Json := (Json.read? text).getD (.string text)

/-- Reads a variable: a name, trimmed, an equals sign, and a value. -/
def readVariable (argument : String) : Except VariableError (String × Json) :=
  match splitAtEquals? argument with
  | none => .error (.noValue argument)
  | some (name, value) =>
    if Text.isBlank name then .error (.emptyName argument)
    else .ok (Text.trim name, readValue value)

/-- Evaluates what the arguments say: a language, a text, and variables, which are all read before anything
    is evaluated. What evaluates is given, and so are the effects that it has. -/
def runWith {m : Type → Type} [Monad m]
    (evaluate : String → Expression → Context → m (Outcome EvaluationError (Option Json)))
    (arguments : List String) : m (Outcome RunError (Option Json)) :=
  match arguments with
  | language :: text :: assignments =>
    match assignments.mapM readVariable with
    | .error cause => return .error (.badVariable cause)
    | .ok pairs => do
      let outcome ← evaluate language (Expression.ofText text) (Context.ofList pairs)
      return outcome.mapError (.evaluation language text)
  | _ => return .error .usage

/-- Evaluates what the arguments say, with the settings of the environment and the built-in collaborators. -/
def run (arguments : List String) (environment : String → Option String)
    (serve : String → ResourceLookup) : Outcome RunError (Option Json) :=
  let evaluator := (Engine.ofSettings serve (Settings.ofEnvironment environment)).evaluator
  Id.run (runWith (fun language e context =>
    pure (evaluator.evaluateIn Registry.withDefaults language e context).outcome) arguments)

/-!
### Reports
-/

/-- What goes wrong, from the outermost message to the innermost cause. A failure of the formula engine is
    also its own cause. -/
def RunError.messages : RunError → List String
  | .usage => ["usage: dmn-eval <language> <expression> [name=value ...]"]
  | .badVariable cause => [cause.message]
  | .evaluation language text cause =>
    ("evaluating '" ++ text ++ "' as " ++ language) :: cause.message
      :: (cause.source?.map BackendError.message).toList

/-- The lines of a text. -/
def lines (text : String) : List String :=
  let step (c : Char) (found : List Char × List (List Char)) : List Char × List (List Char) :=
    if c = '\n' then ([], found.1 :: found.2) else (c :: found.1, found.2)
  let (first, rest) := text.toList.foldr step ([], [])
  (first :: rest).map String.ofList

/-- Puts one text in front of the first line and another in front of those after it. -/
def indent (first others : String) (text : String) : List String :=
  match lines text with
  | [] => []
  | line :: rest => (first ++ line) :: rest.map (others ++ ·)

/-- A cause with its number. -/
def numbered (index : Nat) (text : String) : List String :=
  let number := toString index
  indent (String.ofList (List.replicate (5 - number.length) ' ') ++ number ++ ": ") "       " text

/-- The lines that report an error: its message, and its causes, which are numbered if there are
    several. -/
def report (messages : List String) : List String :=
  match messages with
  | [] => []
  | outermost :: causes =>
    indent "Error: " "" outermost ++
      (match causes with
      | [] => []
      | [cause] => ["", "Caused by:"] ++ indent "    " "    " cause
      | causes => ["", "Caused by:"] ++ (causes.mapIdx numbered).flatten)

/-- What the program leaves behind: its exit code, its output, and the lines of its error report. -/
structure Exit where
  code : Nat
  output : String
  errors : List String
deriving Repr, DecidableEq

/-- The end of a run: the value as JSON text (`null` where there is none), an error report, or the exit
    code of an abrupt stop. -/
def exit : Outcome RunError (Option Json) → Exit
  | .ok value => ⟨0, (value.getD .null).write ++ "\n", []⟩
  | .error cause => ⟨1, "", report cause.messages⟩
  | .fault => ⟨101, "", []⟩

end DecisionEval.CommandLine
