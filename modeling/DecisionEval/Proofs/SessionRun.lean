/-
Module: DecisionEval.Proofs.SessionRun
Purpose: Runs of a session, with what every one of their events keeps.
Main exports: Session.Call, Session.Event, Session.after, Session.afterAll, Session.evaluations,
  Session.Fresh, Session.evolves_afterAll, exists_filling_transition
-/
import Mathlib.Data.List.Induction
import DecisionEval.Proofs.ExpressionHistory
import DecisionEval.Session

namespace DecisionEval

/-- A run of transitions that leaves something where there was nothing has a first transition that put it
there, if what is there stays. -/
theorem exists_filling_transition {σ ε α : Type} (transition : σ → ε → σ) (content : σ → Option α)
    (stays : ∀ state event found, content state = some found →
      content (transition state event) = some found)
    {start : σ} (vacant : content start = none) {found : α} (events : List ε)
    (filled : content (events.foldl transition start) = some found) :
    ∃ earlier event later, events = earlier ++ event :: later ∧
      content (earlier.foldl transition start) = none ∧
      content (transition (earlier.foldl transition start) event) = some found := by
  induction events using List.reverseRecOn with
  | nil =>
      rw [List.foldl_nil, vacant] at filled
      cases filled
  | append_singleton events event inductionHypothesis =>
      cases contentEq : content (events.foldl transition start) with
      | none => exact ⟨events, event, [], rfl, contentEq, by simpa using filled⟩
      | some kept =>
          have same := stays _ event kept contentEq
          rw [List.foldl_append, List.foldl_cons, List.foldl_nil, same] at filled
          cases filled
          obtain ⟨earlier, first, later, rfl, before, after⟩ := inductionHypothesis contentEq
          exact ⟨earlier, first, later ++ [event], by simp, before, after⟩

namespace Session

/-- An evaluation that is asked for: the expression, the language if it is not to be the expression's own,
and the variables. -/
structure Call where
  name : String
  language : Option String := none
  context : Context

/-- What can happen to a session. -/
inductive Event where
  | evaluate (call : Call)
  | register (language : String) (backend : ScriptBackend)
  | unregister (language : String)

/-- The evaluation that answers a call. -/
def answer (s : Session) (call : Call) : Evaluation :=
  (s.evaluate call.name call.language call.context).1

/-- The session after an event. -/
def after (s : Session) : Event → Session
  | .evaluate call => (s.evaluate call.name call.language call.context).2
  | .register language backend => (s.register language backend).2
  | .unregister language => (s.unregister language).2

/-- The session after a run of events. -/
def afterAll (s : Session) (events : List Event) : Session := events.foldl after s

/-- The evaluations of a run, in order. -/
def evaluations : Session → List Event → List Evaluation
  | _, [] => []
  | s, .evaluate call :: rest => s.answer call :: (s.after (.evaluate call)).evaluations rest
  | s, event :: rest => (s.after event).evaluations rest

/-- No expression keeps an artifact. -/
def Fresh (s : Session) : Prop := ∀ name, (s.expression name).fresh = s.expression name

variable {s : Session} {name other : String} {call : Call} {event : Event}

theorem fresh_empty {evaluator : Evaluator} {registry : Registry} : Fresh ⟨evaluator, registry, ∅⟩ :=
  fun _ => rfl

theorem fresh_insert {evaluator : Evaluator} {registry : Registry} {expressions : Dictionary Expression}
    {e : Expression} (others : Fresh ⟨evaluator, registry, expressions⟩) (fresh : e.fresh = e) :
    Fresh ⟨evaluator, registry, expressions.insert name e⟩ := by
  intro other
  by_cases same : other = name
  · subst same
    simpa [expression] using fresh
  · simpa [expression, Dictionary.get?_insert_of_ne _ _ same] using others other

/-!
### One event
-/

theorem answer_eq (s : Session) (call : Call) :
    s.answer call = s.evaluator.evaluateIn s.registry (s.languageFor call.name call.language)
      (s.expression call.name) call.context := rfl

theorem expression_of_unknown (unknown : s.expressions.contains name = false) :
    s.expression name = {} := by
  simp only [Dictionary.contains, Option.isSome_eq_false_iff, Option.isNone_iff_eq_none] at unknown
  simp [expression, unknown]

theorem expression_keep_of_ne (distinct : other ≠ name) (e : Expression) :
    (s.keep name e).expression other = s.expression other := by
  unfold keep
  split
  · simp [expression, Dictionary.get?_insert_of_ne s.expressions e distinct]
  · rfl

theorem expression_keep_self {e : Expression} (unknown : s.expressions.contains name = false → e = {}) :
    (s.keep name e).expression name = e := by
  unfold keep
  split
  · simp [expression]
  case isFalse absent =>
    have absent : s.expressions.contains name = false := by simpa using absent
    rw [expression_of_unknown absent, unknown absent]

theorem evaluator_keep {e : Expression} : (s.keep name e).evaluator = s.evaluator := by
  unfold keep
  split <;> rfl

theorem registry_keep {e : Expression} : (s.keep name e).registry = s.registry := by
  unfold keep
  split <;> rfl

/-- The expression that a call names is afterwards as its evaluation has left it. -/
theorem expression_after_evaluate_self (s : Session) (call : Call) :
    (s.after (.evaluate call)).expression call.name = (s.answer call).expression := by
  apply expression_keep_self
  intro unknown
  rw [expression_of_unknown unknown, Evaluator.evaluateIn_of_no_text rfl]

theorem expression_after_evaluate_of_ne (distinct : other ≠ call.name) :
    (s.after (.evaluate call)).expression other = s.expression other :=
  expression_keep_of_ne distinct _

/-- An event leaves an expression as it is, or is a call that evaluates it. -/
theorem expression_after_cases (s : Session) (event : Event) (name : String) :
    (s.after event).expression name = s.expression name ∨
      ∃ call, event = .evaluate call ∧ call.name = name ∧
        (s.after event).expression name = (s.answer call).expression := by
  cases event with
  | evaluate call =>
      by_cases named : name = call.name
      · subst named
        exact Or.inr ⟨call, rfl, rfl, expression_after_evaluate_self s call⟩
      · exact Or.inl (expression_after_evaluate_of_ne named)
  | register language backend => exact Or.inl rfl
  | unregister language => exact Or.inl rfl

@[simp] theorem evaluator_after : (s.after event).evaluator = s.evaluator := by
  cases event with
  | evaluate call => exact evaluator_keep
  | register language backend => rfl
  | unregister language => rfl

@[simp] theorem registry_after_evaluate : (s.after (.evaluate call)).registry = s.registry :=
  registry_keep

/-- What an event makes of a registry depends on nothing else in the session. -/
theorem registry_after_congr {t : Session} (same : s.registry = t.registry) (event : Event) :
    (s.after event).registry = (t.after event).registry := by
  cases event with
  | evaluate call => rw [registry_after_evaluate, registry_after_evaluate, same]
  | register language backend =>
      change (s.registry.register language backend).2 = (t.registry.register language backend).2
      rw [same]
  | unregister language =>
      change (s.registry.unregister language).2 = (t.registry.unregister language).2
      rw [same]

/-- All that an event can do to an expression is to evaluate it. -/
theorem evolves_after (s : Session) (event : Event) (name : String) :
    Expression.Evolves s.evaluator.textProvider (s.expression name) ((s.after event).expression name) := by
  rcases s.expression_after_cases event name with kept | ⟨call, -, rfl, evaluated⟩
  · rw [kept]
  · rw [evaluated, answer_eq]
    exact .evaluateIn rfl ..

theorem languageFor_after (s : Session) (event : Event) (name : String) (language : Option String) :
    (s.after event).languageFor name language = s.languageFor name language := by
  simp [languageFor, Evaluator.languageOf, (s.evolves_after event name).language_eq]

/-!
### Whole runs
-/

theorem afterAll_append (s : Session) (earlier later : List Event) :
    s.afterAll (earlier ++ later) = (s.afterAll earlier).afterAll later :=
  List.foldl_append

@[simp] theorem evaluator_afterAll (s : Session) (events : List Event) :
    (s.afterAll events).evaluator = s.evaluator := by
  induction events generalizing s with
  | nil => rfl
  | cons event rest inductionHypothesis => exact (inductionHypothesis _).trans evaluator_after

theorem evolves_afterAll (s : Session) (events : List Event) (name : String) :
    Expression.Evolves s.evaluator.textProvider (s.expression name)
      ((s.afterAll events).expression name) := by
  induction events generalizing s with
  | nil => exact .refl
  | cons event rest inductionHypothesis =>
      have evolves := inductionHypothesis (s.after event)
      rw [evaluator_after] at evolves
      exact (s.evolves_after event name).trans evolves

theorem languageFor_afterAll (s : Session) (events : List Event) (name : String)
    (language : Option String) : (s.afterAll events).languageFor name language = s.languageFor name language := by
  simp [languageFor, Evaluator.languageOf, (s.evolves_afterAll events name).language_eq]

/-- A session with one expression, a script for the built-in backend. -/
def celSession : Session where
  evaluator :=
    { formulaEngine := BuiltIn.formulaEngine
      textProvider := BuiltIn.textProvider
      prelude := ⟨"", "1 + "⟩
      compileScripts := true
      defaultLanguage := "feel" }
  registry := Registry.withDefaults
  expressions := (∅ : Dictionary Expression).insert "sum" { language := some "cel", written := some "a" }

theorem celSession_fresh : celSession.Fresh := fresh_insert fresh_empty rfl

end Session

end DecisionEval
