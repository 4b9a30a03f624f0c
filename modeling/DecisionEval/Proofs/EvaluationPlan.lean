/-
Module: DecisionEval.Proofs.EvaluationPlan
Purpose: The plan of an evaluation against the evaluation itself: carried out at once, a plan ends as the
  evaluation does and leaves the same in the slots, whatever they hold.
Main exports: Plan.outcomeWith, Plan.expressionAfter, Plan.alone, Evaluator.plan_delimited,
  Evaluator.plan_served, Evaluator.atOnce_plan, Evaluator.alone_plan
-/
import DecisionEval.Proofs.EvaluationSteps
import DecisionEval.Race

namespace DecisionEval

namespace Plan

/-- The outcome of a plan that is carried out at once, with the slots of an expression. -/
def outcomeWith (e : Expression) (context : Context) : Plan → Outcome EvaluationError (Option Json)
  | .direct _ outcome => outcome context
  | .parsed request finish => finish context (e.parsedSlot.useFor request).outcome
  | .script request finish => finish context (e.scriptSlot.useFor request).outcome

/-- An expression after a plan has been carried out at once. -/
def expressionAfter (e : Expression) : Plan → Expression
  | .direct _ _ => e
  | .parsed request _ => { e with parsedSlot := (e.parsedSlot.useFor request).slot }
  | .script request _ => { e with scriptSlot := (e.scriptSlot.useFor request).slot }

/-- The outcome of a plan where nothing is kept. -/
def alone (context : Context) : Plan → Outcome EvaluationError (Option Json)
  | .direct _ outcome => outcome context
  | .parsed request finish => finish context request.compilation
  | .script request finish => finish context request.compilation

theorem outcomeWith_fresh (plan : Plan) (e : Expression) (context : Context) :
    plan.outcomeWith e.fresh context = plan.alone context := by
  cases plan with
  | direct binds outcome => rfl
  | parsed request finish =>
      rw [outcomeWith, Expression.fresh_parsedSlot, Slot.useFor,
        Slot.getOrInstall_outcome_of_missing Slot.get?_empty, alone]
  | script request finish =>
      rw [outcomeWith, Expression.fresh_scriptSlot, Slot.useFor,
        Slot.getOrInstall_outcome_of_missing Slot.get?_empty, alone]

end Plan

namespace Evaluator

variable {ev : Evaluator} {registry : Registry} {backend : ScriptBackend} {language text : String}
  {e : Expression} {context : Context}

theorem planWith_compiled {compile : String → Outcome BackendError CompiledScript}
    (offered : ev.compiler? backend = some compile) :
    ev.planWith backend language text e =
      .script ⟨language, compile (ev.prelude.augment text)⟩ fun context answer =>
        present ((answer.bind (·.run (backend.bindingsFor context))).mapError
          (.failure (e.text?.getD text) backend.languageName)) := by
  rw [compiler?] at offered
  simp only [planWith, offered, ScriptBackend.bindingsFor]

theorem planWith_direct (refused : ev.compiler? backend = none) :
    ev.planWith backend language text e =
      .direct true fun context =>
        present ((backend.eval (ev.prelude.augment text) (backend.bindingsFor context)).mapError
          (.failure (e.text?.getD text) backend.languageName)) := by
  rw [compiler?] at refused
  simp only [planWith, refused, ScriptBackend.bindingsFor]

theorem plan_delimited (present : e.text? = some text) :
    ∃ finish, ev.plan registry LanguageClass.interpolatedName e =
      .parsed ⟨LanguageClass.interpolatedName, ev.textProvider.parse (delimitedText text)⟩ finish := by
  simp only [plan, Expression.textFor_interpolatedName present, LanguageClass.of_interpolatedName]
  exact ⟨_, rfl⟩

theorem plan_served (present : e.text? = some text)
    (classEq : LanguageClass.of language = .ok (.script language))
    (known : registry.resolve language = some backend) :
    ev.plan registry language e = ev.planWith backend language text e := by
  have differs := LanguageClass.ne_interpolatedName_of_class classEq (by simp)
  simp only [plan, Expression.textFor_of_ne differs, present, classEq, known]

theorem atOnce_planWith :
    (ev.planWith backend language text e).outcomeWith e context =
        (ev.evaluateWith backend language text e context).outcome ∧
      (ev.planWith backend language text e).expressionAfter e =
        (ev.evaluateWith backend language text e context).expression := by
  cases offered : ev.compiler? backend with
  | none =>
      rw [planWith_direct offered, evaluateWith_direct offered]
      exact ⟨rfl, rfl⟩
  | some compile =>
      rw [planWith_compiled offered, evaluateWith_outcome_compiled offered,
        evaluateWith_expression_compiled offered]
      exact ⟨rfl, rfl⟩

/-- An evaluation does what its plan does at once: it ends alike, and leaves the same in the slots. -/
theorem atOnce_plan (ev : Evaluator) (registry : Registry) (language : String) (e : Expression)
    (context : Context) :
    (ev.plan registry language e).outcomeWith e context =
        (ev.evaluateIn registry language e context).outcome ∧
      (ev.plan registry language e).expressionAfter e =
        (ev.evaluateIn registry language e context).expression := by
  unfold plan evaluateIn
  cases e.textFor language with
  | none => exact ⟨rfl, rfl⟩
  | some text =>
      cases LanguageClass.of language with
      | error cause => exact ⟨rfl, rfl⟩
      | ok selected =>
          cases selected with
          | formula => exact ⟨rfl, rfl⟩
          | interpolated =>
              exact ⟨evaluateInterpolated_outcome.symm, evaluateInterpolated_expression.symm⟩
          | script other =>
              simp only [evaluateScript]
              cases registry.resolve other with
              | none => exact ⟨rfl, rfl⟩
              | some backend => exact atOnce_planWith

/-- On a fresh expression an evaluation ends as its plan does alone. -/
theorem alone_plan (ev : Evaluator) (registry : Registry) (language : String) (e : Expression)
    (context : Context) :
    (ev.plan registry language e).alone context =
      (ev.evaluateIn registry language e.fresh context).outcome := by
  rw [← Plan.outcomeWith_fresh _ e]
  exact (atOnce_plan ev registry language e.fresh context).1

end Evaluator

end DecisionEval
