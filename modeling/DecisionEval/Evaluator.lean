/-
Module: DecisionEval.Evaluator
Purpose: The evaluation of expressions: the choice of the path, the use of the slots, and the labelling of
  failures.
Main exports: CollaboratorCall, Recorded, Evaluation, Evaluator, Evaluator.ask, Evaluator.evaluateIn,
  Evaluator.evaluate
-/
import DecisionEval.Interpolation
import DecisionEval.Prelude
import DecisionEval.Registry

namespace DecisionEval

/-- A call of a collaborator, with what is handed over. -/
inductive CollaboratorCall where
  | formula (text : String) (context : Context)
  | parse (text : String)
  | parsedValue (parsed : ParsedText) (context : Context)
  | createBindings (backend : ScriptBackend)
  | compile (backend : ScriptBackend) (text : String)
  | runCompiled (script : CompiledScript) (bindings : Bindings)
  | evalScript (backend : ScriptBackend) (text : String) (bindings : Bindings)

/-- What a call comes back with. -/
abbrev CollaboratorCall.Answer : CollaboratorCall → Type
  | .formula _ _ => Outcome BackendError Json
  | .parse _ => Outcome BackendError ParsedText
  | .parsedValue _ _ => Outcome BackendError Json
  | .createBindings _ => Dictionary Json
  | .compile _ _ => Outcome BackendError CompiledScript
  | .runCompiled _ _ => Outcome BackendError Json
  | .evalScript _ _ _ => Outcome BackendError Json

/-- A result with the calls that were made for it, in order. -/
structure Recorded (α : Type) where
  result : α
  calls : List CollaboratorCall

namespace Recorded

variable {α β : Type}

instance : Monad Recorded where
  pure result := ⟨result, []⟩
  bind first next := ⟨(next first.result).result, first.calls ++ (next first.result).calls⟩

@[simp] theorem pure_result (result : α) : (pure result : Recorded α).result = result := rfl

@[simp] theorem pure_calls (result : α) : (pure result : Recorded α).calls = [] := rfl

@[simp] theorem bind_result (first : Recorded α) (next : α → Recorded β) :
    (first >>= next).result = (next first.result).result := rfl

@[simp] theorem bind_calls (first : Recorded α) (next : α → Recorded β) :
    (first >>= next).calls = first.calls ++ (next first.result).calls := rfl

end Recorded

/-- What an evaluation gives: its outcome (nothing, where the expression has no text), the expression with
    its slots afterwards, and the calls that were made, in order. -/
structure Evaluation where
  outcome : Outcome EvaluationError (Option Json)
  expression : Expression
  calls : List CollaboratorCall

/-- The evaluation that a recorded outcome, with the expression afterwards, makes up. -/
def Recorded.evaluation (recorded : Recorded (Outcome EvaluationError (Option Json) × Expression)) :
    Evaluation where
  outcome := recorded.result.1
  expression := recorded.result.2
  calls := recorded.calls

/-- What an engine evaluates with, apart from its script backends. -/
structure Evaluator where
  formulaEngine : FormulaEngine
  textProvider : TextProvider
  prelude : Prelude
  compileScripts : Bool
  defaultLanguage : String

namespace Evaluator

/-- What the collaborator that is called gives. A backend without compilation is not asked to compile; it
    would stop abruptly. -/
def answer (ev : Evaluator) : (call : CollaboratorCall) → call.Answer
  | .formula text context => ev.formulaEngine.evaluate text context
  | .parse text => ev.textProvider.parse text
  | .parsedValue parsed context => parsed.value context
  | .createBindings backend => backend.createBindings
  | .compile backend text =>
    match backend.compile? with
    | some compile => compile text
    | none => .fault
  | .runCompiled script bindings => script.run bindings
  | .evalScript backend text bindings => backend.eval text bindings

/-- Makes a call. Nothing else puts a call on record. -/
def ask (ev : Evaluator) (call : CollaboratorCall) : Recorded call.Answer := ⟨ev.answer call, [call]⟩

/-- The result of an evaluation that gives a value. -/
def present (outcome : Outcome EvaluationError Json) : Outcome EvaluationError (Option Json) :=
  outcome.bind (fun value => .ok (some value))

/-- Evaluates a formula. The engine's failure is passed on as it is. -/
def evaluateFormula (ev : Evaluator) (text : String) (e : Expression) (context : Context) : Evaluation :=
  Recorded.evaluation do
    let outcome ← ev.ask (.formula text context)
    return (present (outcome.mapError .formula), e)

/-- Evaluates interpolated text, in the form that was parsed for the expression before or is now. A failure
    is labelled with the text as written and the language. -/
def evaluateInterpolated (ev : Evaluator) (language text : String) (e : Expression) (context : Context) :
    Evaluation :=
  Recorded.evaluation do
    let use ← e.parsedSlot.getOrInstallM language (fun _ => ev.ask (.parse text))
    let outcome ← use.outcome.bindM (fun parsed => ev.ask (.parsedValue parsed context))
    let fail := EvaluationError.failure (e.text?.getD text) language
    return (present (outcome.mapError fail), { e with parsedSlot := use.slot })

/-- Evaluates a script with a backend, compiled where the backend offers it and the evaluator is set to. A
    failure is labelled with the text as written, without the prelude, and the name of the backend. -/
def evaluateWith (ev : Evaluator) (backend : ScriptBackend) (language text : String) (e : Expression)
    (context : Context) : Evaluation :=
  Recorded.evaluation do
    let native ← ev.ask (.createBindings backend)
    let bindings := (Bindings.wrap native context).withContext
    let fail := EvaluationError.failure (e.text?.getD text) backend.languageName
    let script := ev.prelude.augment text
    match (if ev.compileScripts then backend.compile? else none) with
    | some _ => do
      let use ← e.scriptSlot.getOrInstallM language (fun _ => ev.ask (.compile backend script))
      let outcome ← use.outcome.bindM (fun compiled => ev.ask (.runCompiled compiled bindings))
      return (present (outcome.mapError fail), { e with scriptSlot := use.slot })
    | none => do
      let outcome ← ev.ask (.evalScript backend script bindings)
      return (present (outcome.mapError fail), e)

/-- Evaluates a script with the backend of its language. -/
def evaluateScript (ev : Evaluator) (registry : Registry) (language text : String) (e : Expression)
    (context : Context) : Evaluation :=
  match registry.resolve language with
  | none => ⟨.error (.noBackend language), e, []⟩
  | some backend => ev.evaluateWith backend language text e context

/-- Evaluates an expression in a language. Without text there is no result, whatever the language. -/
def evaluateIn (ev : Evaluator) (registry : Registry) (language : String) (e : Expression)
    (context : Context) : Evaluation :=
  match e.textFor language with
  | none => ⟨.ok none, e, []⟩
  | some text =>
    match LanguageClass.of language with
    | .error cause => ⟨.error cause, e, []⟩
    | .ok .formula => ev.evaluateFormula text e context
    | .ok .interpolated => ev.evaluateInterpolated language text e context
    | .ok (.script language) => ev.evaluateScript registry language text e context

/-- The language that an expression is evaluated in: its own, or the default where it has none or a blank
    one. -/
def languageOf (ev : Evaluator) (e : Expression) : String :=
  (e.language.filter (fun language => !Text.isBlank language)).getD ev.defaultLanguage

/-- Evaluates an expression in its language. -/
def evaluate (ev : Evaluator) (registry : Registry) (e : Expression) (context : Context) : Evaluation :=
  ev.evaluateIn registry (ev.languageOf e) e context

end Evaluator

end DecisionEval
