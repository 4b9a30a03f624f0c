/-
Module: DecisionEval.Session
Purpose: A run of evaluations over the expressions of a model, with changes of the registry between them.
Main exports: Session, Session.evaluate, Session.evaluateAll, Session.register, Session.unregister
-/
import DecisionEval.Evaluator

namespace DecisionEval

/-!
All that one evaluation leaves for later ones is in the slots of its expression and, where backends come
and go, in the registry. A session holds both. Evaluations that race each other are run one after the
other: a slot is installed at most once, so that no order of their steps shows in the results.
-/

/-- An evaluator with its registry, and the expressions of a model by their names. -/
structure Session where
  evaluator : Evaluator
  registry : Registry
  expressions : Dictionary Expression

namespace Session

/-- The expression of a name; a name that the model does not know has one without text. -/
def expression (s : Session) (name : String) : Expression := (s.expressions.get? name).getD {}

/-- Keeps an expression under a name that the model knows. -/
def keep (s : Session) (name : String) (e : Expression) : Session :=
  if s.expressions.contains name then { s with expressions := s.expressions.insert name e } else s

/-- The language in which an expression is evaluated: the one that is asked for, or its own. -/
def languageFor (s : Session) (name : String) (language : Option String) : String :=
  language.getD (s.evaluator.languageOf (s.expression name))

/-- Evaluates an expression and keeps its slots. -/
def evaluate (s : Session) (name : String) (language : Option String) (context : Context) :
    Evaluation × Session :=
  let evaluation :=
    s.evaluator.evaluateIn s.registry (s.languageFor name language) (s.expression name) context
  (evaluation, s.keep name evaluation.expression)

/-- Evaluates an expression once for every context. -/
def evaluateAll (s : Session) (name : String) (language : Option String) :
    List Context → List Evaluation × Session
  | [] => ([], s)
  | context :: rest =>
    let (evaluation, s) := s.evaluate name language context
    let (others, s) := s.evaluateAll name language rest
    (evaluation :: others, s)

/-- Registers a backend, and gives the one that it replaces. -/
def register (s : Session) (language : String) (backend : ScriptBackend) : Option ScriptBackend × Session :=
  let (previous, registry) := s.registry.register language backend
  (previous, { s with registry := registry })

/-- Removes the backend of a language and gives it. -/
def unregister (s : Session) (language : String) : Option ScriptBackend × Session :=
  let (removed, registry) := s.registry.unregister language
  (removed, { s with registry := registry })

end Session

end DecisionEval
