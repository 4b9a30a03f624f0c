/-
Module: DecisionEval.Proofs.ExpressionHistory
Purpose: What evaluations, whoever asks for them, can make of one expression over time.
Main exports: Expression.Evaluated, Expression.Evolves, Expression.Evolves.fresh_eq,
  Expression.Evolves.scriptSlot_stays, Expression.Evolves.parsedCurrent
-/
import Mathlib.Logic.Relation
import DecisionEval.Proofs.SlotAgreement

namespace DecisionEval.Expression

/-- An evaluation takes an expression from one state to the next. Only the parser of its evaluator is fixed;
the evaluator can differ in all else, and so can the registry, the language and the context. -/
inductive Evaluated (provider : TextProvider) : Expression → Expression → Prop where
  | step (ev : Evaluator) (registry : Registry) (language : String) (e : Expression)
      (context : Context) : ev.textProvider = provider →
      Evaluated provider e (ev.evaluateIn registry language e context).expression

/-- Any number of evaluations take an expression from one state to another. -/
abbrev Evolves (provider : TextProvider) : Expression → Expression → Prop :=
  Relation.ReflTransGen (Evaluated provider)

namespace Evolves

variable {provider : TextProvider} {e later : Expression}

theorem evaluateIn {ev : Evaluator} (sameProvider : ev.textProvider = provider) (registry : Registry)
    (language : String) (e : Expression) (context : Context) :
    Evolves provider e (ev.evaluateIn registry language e context).expression :=
  .single (.step ev registry language e context sameProvider)

/-- Slots apart, an expression never changes. -/
theorem fresh_eq (evolves : Evolves provider e later) : later.fresh = e.fresh := by
  induction evolves with
  | refl => rfl
  | tail _ evaluated inductionHypothesis =>
      obtain ⟨ev, registry, language, e, context, -⟩ := evaluated
      rw [Evaluator.evaluateIn_expression_fresh, inductionHypothesis]

theorem text?_eq (evolves : Evolves provider e later) : later.text? = e.text? := by
  rw [← fresh_text?, evolves.fresh_eq, fresh_text?]

theorem textFor_eq (evolves : Evolves provider e later) (language : String) :
    later.textFor language = e.textFor language := by
  rw [← fresh_textFor, evolves.fresh_eq, fresh_textFor]

theorem language_eq (evolves : Evolves provider e later) : later.language = e.language := by
  have own : later.fresh.language = e.fresh.language := by rw [evolves.fresh_eq]
  exact own

theorem parsedSlot_stays (evolves : Evolves provider e later) {installed : Installed ParsedText}
    (found : e.parsedSlot.installed = some installed) : later.parsedSlot.installed = some installed := by
  induction evolves with
  | refl => exact found
  | tail _ evaluated inductionHypothesis =>
      obtain ⟨ev, registry, language, e, context, -⟩ := evaluated
      exact Evaluator.evaluateIn_parsedSlot_stays inductionHypothesis

theorem scriptSlot_stays (evolves : Evolves provider e later) {installed : Installed CompiledScript}
    (found : e.scriptSlot.installed = some installed) : later.scriptSlot.installed = some installed := by
  induction evolves with
  | refl => exact found
  | tail _ evaluated inductionHypothesis =>
      obtain ⟨ev, registry, language, e, context, -⟩ := evaluated
      exact Evaluator.evaluateIn_scriptSlot_stays inductionHypothesis

/-- A parsed form stays that of the text, whichever of the evaluators has parsed it. -/
theorem parsedCurrent (evolves : Evolves provider e later) {ev : Evaluator}
    (sameProvider : ev.textProvider = provider) (current : ev.ParsedCurrent e) : ev.ParsedCurrent later := by
  induction evolves with
  | refl => exact current
  | tail _ evaluated inductionHypothesis =>
      obtain ⟨other, registry, language, e, context, otherProvider⟩ := evaluated
      exact inductionHypothesis.evaluateIn (otherProvider.trans sameProvider.symm)

end Evolves

end DecisionEval.Expression
