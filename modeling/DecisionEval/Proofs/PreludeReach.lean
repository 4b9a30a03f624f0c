/-
Module: DecisionEval.Proofs.PreludeReach
Purpose: How far the prelude reaches: no further than scripts, and not into what their failures show.
Main exports: Expression.AlikeButScript, Evaluator.evaluateIn_alike, Session.AlikeButPrelude,
  Session.AlikeButPrelude.afterAll, Session.BeyondPrelude, Session.beyondPrelude_afterAll
-/
import DecisionEval.Proofs.EvaluationErrors
import DecisionEval.Proofs.SessionRun

namespace DecisionEval

/-!
### Expressions that differ in a script alone

All that the prelude goes into is the script that is compiled or evaluated, and all that is kept of it is in
the slot for scripts. So two runs with different preludes are compared without that slot.
-/

namespace Expression

/-- An expression without the script that it keeps. -/
def withoutScript (e : Expression) : Expression := { e with scriptSlot := Slot.empty }

/-- Two expressions are the same, apart from the script that each of them keeps. -/
def AlikeButScript (e f : Expression) : Prop := e.withoutScript = f.withoutScript

namespace AlikeButScript

variable {e f : Expression}

theorem text?_eq (alike : AlikeButScript e f) : e.text? = f.text? := by
  have same : e.withoutScript.text? = f.withoutScript.text? := congrArg text? alike
  exact same

theorem language_eq (alike : AlikeButScript e f) : e.language = f.language := by
  have same : e.withoutScript.language = f.withoutScript.language := congrArg language alike
  exact same

theorem parsedSlot_eq (alike : AlikeButScript e f) : e.parsedSlot = f.parsedSlot := by
  have same : e.withoutScript.parsedSlot = f.withoutScript.parsedSlot := congrArg parsedSlot alike
  exact same

/-- The parsed forms of both can be replaced by the same slot. -/
theorem withParsedSlot (alike : AlikeButScript e f) (slot : Slot ParsedText) :
    AlikeButScript { e with parsedSlot := slot } { f with parsedSlot := slot } := by
  have same : { e.withoutScript with parsedSlot := slot } = { f.withoutScript with parsedSlot := slot } :=
    congrArg (fun e : Expression => { e with parsedSlot := slot }) alike
  exact same

end AlikeButScript

end Expression

/-- Two evaluations end alike, make the same calls, and leave the same apart from a script. -/
structure Evaluation.AlikeButScript (first second : Evaluation) : Prop where
  outcome : first.outcome = second.outcome
  calls : first.calls = second.calls
  expression : first.expression.AlikeButScript second.expression

/-!
### One evaluation
-/

namespace Evaluator

variable {ev : Evaluator} {p : Prelude} {registry : Registry} {language text : String} {e f : Expression}
  {context : Context}

/-- The same evaluator with other fragments in front of scripts. -/
def withPrelude (ev : Evaluator) (p : Prelude) : Evaluator := { ev with prelude := p }

theorem evaluateInterpolated_alike (alike : e.AlikeButScript f) :
    (ev.evaluateInterpolated language text e context).AlikeButScript
      ((ev.withPrelude p).evaluateInterpolated language text f context) := by
  constructor
  · rw [evaluateInterpolated_outcome, evaluateInterpolated_outcome, alike.text?_eq, alike.parsedSlot_eq]
    rfl
  · rw [evaluateInterpolated_calls, evaluateInterpolated_calls, alike.parsedSlot_eq]
    rfl
  · rw [evaluateInterpolated_expression, evaluateInterpolated_expression, alike.parsedSlot_eq]
    exact alike.withParsedSlot _

/-- Outside of script languages an evaluation takes no notice of the prelude, nor of a script that is kept. -/
theorem evaluateIn_alike (alike : e.AlikeButScript f)
    (unscripted : LanguageClass.of language ≠ .ok (.script language)) :
    (ev.evaluateIn registry language e context).AlikeButScript
      ((ev.withPrelude p).evaluateIn registry language f context) := by
  have takes := ev.takes_evaluateIn registry language e context
  generalize ev.evaluateIn registry language e context = evaluation at takes
  cases takes with
  | textless absent =>
      rw [evaluateIn_of_no_text (alike.text?_eq.symm.trans absent)]
      exact ⟨rfl, rfl, alike⟩
  | nameless present blank =>
      rw [evaluateIn_nameless (alike.text?_eq.symm.trans present) blank]
      exact ⟨rfl, rfl, alike⟩
  | formula present classEq =>
      rw [evaluateIn_formula (alike.text?_eq.symm.trans present) classEq]
      exact ⟨rfl, rfl, alike⟩
  | interpolated present named =>
      subst named
      rw [evaluateIn_delimited (alike.text?_eq.symm.trans present)]
      exact evaluateInterpolated_alike alike
  | unserved present classEq unknown => exact absurd classEq unscripted
  | served present classEq known => exact absurd classEq unscripted

/-- An evaluation of a script leaves all but the slot for scripts as it is. -/
theorem evaluateIn_script_withoutScript (classEq : LanguageClass.of language = .ok (.script language)) :
    (ev.evaluateIn registry language e context).expression.withoutScript = e.withoutScript := by
  rcases ev.evaluateIn_expression_cases registry language e context with
    kept | ⟨-, named, -⟩ | ⟨-, -, text, backend, compile, artifact, -, -, -, -, filled⟩
  · rw [kept]
  · rw [named, LanguageClass.of_interpolatedName] at classEq
    cases classEq
  · rw [filled]
    rfl

/-- What the failure of a script shows: the text of the expression, and the name of the backend that serves
the language. -/
theorem shown_of_script_failure {label : String} {source : BackendError}
    (classEq : LanguageClass.of language = .ok (.script language))
    (failed : (ev.evaluateIn registry language e context).outcome = .error (.failure text label source)) :
    e.text? = some text ∧ ∃ backend, registry.resolve language = some backend ∧
      label = backend.languageName := by
  have notInterpolated : language ≠ LanguageClass.interpolatedName :=
    LanguageClass.ne_interpolatedName_of_class classEq (by simp)
  cases evaluateIn_outcome_eq_error_iff.mp failed with
  | failure present fails =>
      refine ⟨present, ?_⟩
      cases fails with
      | parse named => exact absurd named notInterpolated
      | parsedValue named => exact absurd named notInterpolated
      | compile _ known => exact ⟨_, known, rfl⟩
      | runCompiled _ known => exact ⟨_, known, rfl⟩
      | evalScript _ known => exact ⟨_, known, rfl⟩

end Evaluator

/-!
### Runs with different preludes
-/

namespace Session

variable {s t : Session} {call : Call}

/-- The same session with other fragments in front of scripts. -/
def withPrelude (s : Session) (p : Prelude) : Session :=
  { s with evaluator := s.evaluator.withPrelude p }

/-- Two sessions are the same, apart from the prelude and from the scripts that their expressions keep. -/
structure AlikeButPrelude (s t : Session) : Prop where
  evaluator : t.evaluator = s.evaluator.withPrelude t.evaluator.prelude
  registry : s.registry = t.registry
  expression : ∀ name, (s.expression name).AlikeButScript (t.expression name)

theorem alikeButPrelude_withPrelude (s : Session) (p q : Prelude) :
    AlikeButPrelude (s.withPrelude p) (s.withPrelude q) :=
  ⟨rfl, rfl, fun _ => rfl⟩

namespace AlikeButPrelude

theorem languageFor_eq (alike : AlikeButPrelude s t) (name : String) (language : Option String) :
    s.languageFor name language = t.languageFor name language := by
  have sameDefault : t.evaluator.defaultLanguage = s.evaluator.defaultLanguage := by
    rw [alike.evaluator]
    rfl
  simp only [languageFor, Evaluator.languageOf, (alike.expression name).language_eq, sameDefault]

theorem answer_alike (alike : AlikeButPrelude s t) {language : String}
    (languageEq : s.languageFor call.name call.language = language)
    (unscripted : LanguageClass.of language ≠ .ok (.script language)) :
    (s.answer call).AlikeButScript (t.answer call) := by
  rw [answer_eq, answer_eq, ← alike.languageFor_eq, languageEq, alike.evaluator, ← alike.registry]
  exact Evaluator.evaluateIn_alike (alike.expression call.name) unscripted

/-- A call leaves the expression that it names the same in both sessions: a script fills no slot but the one for
scripts, and everything else is evaluated the same way. -/
theorem answer_expression (alike : AlikeButPrelude s t) (call : Call) :
    (s.answer call).expression.AlikeButScript (t.answer call).expression := by
  by_cases scripted : LanguageClass.of (s.languageFor call.name call.language) =
      .ok (.script (s.languageFor call.name call.language))
  · have scriptedToo := scripted
    rw [alike.languageFor_eq] at scriptedToo
    calc (s.answer call).expression.withoutScript
        = (s.expression call.name).withoutScript := Evaluator.evaluateIn_script_withoutScript scripted
      _ = (t.expression call.name).withoutScript := alike.expression call.name
      _ = (t.answer call).expression.withoutScript :=
          (Evaluator.evaluateIn_script_withoutScript scriptedToo).symm
  · exact (alike.answer_alike rfl scripted).expression

/-- Whatever happens to both sessions, they stay alike. -/
theorem after (alike : AlikeButPrelude s t) (event : Event) :
    AlikeButPrelude (s.after event) (t.after event) := by
  constructor
  case evaluator =>
    rw [evaluator_after, evaluator_after]
    exact alike.evaluator
  case registry => exact registry_after_congr alike.registry event
  case expression =>
    intro name
    cases event with
    | evaluate call =>
        by_cases named : name = call.name
        · subst named
          rw [expression_after_evaluate_self, expression_after_evaluate_self]
          exact alike.answer_expression call
        · rw [expression_after_evaluate_of_ne named, expression_after_evaluate_of_ne named]
          exact alike.expression name
    | register language backend => exact alike.expression name
    | unregister language => exact alike.expression name

theorem afterAll (alike : AlikeButPrelude s t) (events : List Event) :
    AlikeButPrelude (s.afterAll events) (t.afterAll events) := by
  induction events generalizing s t with
  | nil => exact alike
  | cons event rest inductionHypothesis => exact inductionHypothesis (alike.after event)

end AlikeButPrelude

/-- What two sessions have in common when the same call is made of both.

* `language`, `registry`: it is evaluated in the same language, with the same backends.
* `parsed`: all expressions keep the same parsed forms.
* `unscripted`: if that is no script language (so in particular for formulas and interpolated text) the two
  evaluations end alike, make the same calls of collaborators, and leave the same parsed form.
* `failure`: if it is one, and both evaluations end in a failure, they show the same text, which is that of the
  expression as written, and the same name, which is that of the backend. -/
structure BeyondPrelude (s t : Session) (call : Call) : Prop where
  language : s.languageFor call.name call.language = t.languageFor call.name call.language
  registry : s.registry = t.registry
  parsed : ∀ name, (s.expression name).parsedSlot = (t.expression name).parsedSlot
  unscripted : ∀ language, s.languageFor call.name call.language = language →
    LanguageClass.of language ≠ .ok (.script language) →
    (s.answer call).outcome = (t.answer call).outcome ∧ (s.answer call).calls = (t.answer call).calls ∧
      (s.answer call).expression.parsedSlot = (t.answer call).expression.parsedSlot
  failure : ∀ language, s.languageFor call.name call.language = language →
    LanguageClass.of language = .ok (.script language) →
    ∀ text label source otherText otherLabel otherSource,
      (s.answer call).outcome = .error (.failure text label source) →
      (t.answer call).outcome = .error (.failure otherText otherLabel otherSource) →
      text = otherText ∧ label = otherLabel ∧ (s.expression call.name).written = some text ∧
        ∃ backend, s.registry.resolve language = some backend ∧ label = backend.languageName

/-- Whatever happened to two sessions that differ in the prelude alone, if it was the same, the next call has
all but scripts in common. -/
theorem beyondPrelude_afterAll (s : Session) (p q : Prelude) (events : List Event) (call : Call) :
    BeyondPrelude ((s.withPrelude p).afterAll events) ((s.withPrelude q).afterAll events) call := by
  have alike := (alikeButPrelude_withPrelude s p q).afterAll events
  constructor
  case language => exact alike.languageFor_eq call.name call.language
  case registry => exact alike.registry
  case parsed => exact fun name => (alike.expression name).parsedSlot_eq
  case unscripted =>
    intro language languageEq unscripted
    have answers := alike.answer_alike languageEq unscripted
    exact ⟨answers.outcome, answers.calls, answers.expression.parsedSlot_eq⟩
  case failure =>
    intro language languageEq classEq text label source otherText otherLabel otherSource failed otherFailed
    rw [answer_eq, languageEq] at failed
    rw [answer_eq, ← alike.languageFor_eq, languageEq, ← alike.registry] at otherFailed
    obtain ⟨present, backend, known, shown⟩ := Evaluator.shown_of_script_failure classEq failed
    obtain ⟨otherPresent, otherBackend, otherKnown, otherShown⟩ :=
      Evaluator.shown_of_script_failure classEq otherFailed
    have sameText : some text = some otherText := by
      rw [← present, ← otherPresent, (alike.expression call.name).text?_eq]
    have sameBackend : some backend = some otherBackend := known.symm.trans otherKnown
    cases sameText
    cases sameBackend
    exact ⟨rfl, shown.trans otherShown.symm, (Expression.text?_eq_some_iff.mp present).1, backend, known,
      shown⟩

end Session

end DecisionEval
