/-
Module: DecisionEval.Proofs.BareText
Purpose: Interpolated text without delimiters means what the formula engine makes of it, whatever runs CEL.
Main exports: Cel.Runtime.parse_delimit_value, Cel.Runtime.formulaEngine_error, Cel.Runtime.MeansFormula,
  Cel.Runtime.meansFormula_of_bare
-/
import DecisionEval.Proofs.DelimitedText
import DecisionEval.Proofs.ExpressionHistory

namespace DecisionEval

namespace Cel.Runtime

variable {π : Type} {cel : Runtime π} {text : String} {context : Context}

/-!
### Parsing and then evaluating

Delimiters around a body make a template of one expression, and such a template is evaluated to the value of
its expression. So the two ways to a value are the same compilation and the same execution.
-/

/-- Parsing a body between delimiters and then taking its value ends as the formula engine does. -/
theorem parse_delimit_value (grammatical : Template.Body text.toList)
    (nonblank : Text.isBlank text = false) (context : Context) :
    (cel.textProvider.parse (delimit text)).bind (·.value context) =
      cel.formulaEngine.evaluate (Text.trim text) context := by
  simp only [textProvider, formulaEngine, runText, Template.parseWith_delimit grammatical nonblank]
  cases cel.compile (Text.trim text) <;> rfl

/-- The formula engine fails with an error of the compilation or of the execution, none of a template. -/
theorem formulaEngine_error {source : BackendError}
    (failed : cel.formulaEngine.evaluate text context = .error source) :
    ∃ cause, source = .cel cause ∧
      ∀ (offset : Nat) (fault : TemplateFault), cause ≠ .invalidTemplate offset fault := by
  simp only [formulaEngine, runText, report, Outcome.mapError_eq_error_iff] at failed
  obtain ⟨cause, failed, rfl⟩ := failed
  refine ⟨cause, rfl, ?_⟩
  rcases Outcome.bind_eq_error_iff.mp failed with uncompiled | ⟨program, -, stopped⟩
  · obtain ⟨diagnosis, -, rfl⟩ := Outcome.mapError_eq_error_iff.mp uncompiled
    simp
  · obtain ⟨reason, -, rfl⟩ := Outcome.mapError_eq_error_iff.mp stopped
    simp

/-!
### Evaluations of the text
-/

/-- What an evaluation of interpolated text answers where the text means a formula.

* `value`: it answers the typed value that the formula engine gives for the trimmed text, and no other.
* `present`: it always has a result.
* `error`: it fails exactly if the formula engine does. The failure shows the text as written, and
  underneath is the very error of the formula engine.
* `fault`: it stops abruptly exactly if the formula engine does.
* `template`: it never finds fault with a template. -/
structure MeansFormula (cel : Runtime π) (text : String) (context : Context)
    (outcome : Outcome EvaluationError (Option Json)) : Prop where
  value : ∀ value, outcome = .ok (some value) ↔
    cel.formulaEngine.evaluate (Text.trim text) context = .ok value
  present : outcome ≠ .ok none
  error : ∀ cause, outcome = .error cause ↔
    ∃ source, cel.formulaEngine.evaluate (Text.trim text) context = .error (.cel source) ∧
      cause = .failure text LanguageClass.interpolatedName (.cel source)
  fault : outcome = .fault ↔ cel.formulaEngine.evaluate (Text.trim text) context = .fault
  template : ∀ shown language offset fault,
    outcome ≠ .error (.failure shown language (.cel (.invalidTemplate offset fault)))

theorem meansFormula_of_eq {outcome : Outcome EvaluationError (Option Json)}
    (answered : outcome = Evaluator.present ((cel.formulaEngine.evaluate (Text.trim text) context).mapError
      (.failure text LanguageClass.interpolatedName))) :
    cel.MeansFormula text context outcome := by
  rw [answered]
  cases endsWith : cel.formulaEngine.evaluate (Text.trim text) context with
  | ok value =>
      constructor <;> simp [Evaluator.present, Outcome.mapError, Outcome.bind, endsWith]
  | fault =>
      constructor <;> simp [Evaluator.present, Outcome.mapError, Outcome.bind, endsWith]
  | error source =>
      obtain ⟨cause, rfl, noTemplate⟩ := formulaEngine_error endsWith
      constructor
      case template => simp [Evaluator.present, Outcome.mapError, Outcome.bind, noTemplate]
      all_goals simp [Evaluator.present, Outcome.mapError, Outcome.bind, endsWith, eq_comm]

section Evaluations

variable {ev : Evaluator} {first e : Expression}

/-- An evaluation of a text without delimiters that is a body ends as the formula engine does with the trimmed text,
and a failure shows the text as written. -/
theorem outcome_of_bare (parser : ev.textProvider = cel.textProvider)
    (vacant : first.parsedSlot = Slot.empty) (evolves : Expression.Evolves cel.textProvider first e)
    (present : e.text? = some text) (bare : isDelimited text = false)
    (grammatical : Template.Body text.toList) (registry : Registry) (context : Context) :
    (ev.evaluateIn registry LanguageClass.interpolatedName e context).outcome =
      Evaluator.present ((cel.formulaEngine.evaluate (Text.trim text) context).mapError
        (.failure text LanguageClass.interpolatedName)) := by
  have nonblank : Text.isBlank text = false := (Expression.text?_eq_some_iff.mp present).2
  have resolved : e.textFor LanguageClass.interpolatedName = some (delimit text) := by
    rw [Expression.textFor_interpolatedName present, delimitedText, bare]
    rfl
  have current : ev.ParsedCurrent e := by
    apply evolves.parsedCurrent parser
    intro installed found
    simp [vacant] at found
  rw [Evaluator.evaluateIn_interpolated resolved,
    Evaluator.evaluateInterpolated_outcome_eq_fresh current resolved, Evaluator.evaluateInterpolated_outcome,
    Expression.fresh_parsedSlot, Slot.getOrInstall_outcome_of_missing Slot.get?_empty,
    Expression.fresh_text?, present, parser, parse_delimit_value grammatical nonblank]
  rfl

/-- With the parser of any runtime, a text without delimiters that is a body means the formula of its trimmed text,
in whatever state evaluations with the same parser have left the expression. -/
theorem meansFormula_of_bare (parser : ev.textProvider = cel.textProvider)
    (vacant : first.parsedSlot = Slot.empty) (evolves : Expression.Evolves cel.textProvider first e)
    (present : e.text? = some text) (bare : isDelimited text = false)
    (grammatical : Template.Body text.toList) (registry : Registry) (context : Context) :
    cel.MeansFormula text context
      (ev.evaluateIn registry LanguageClass.interpolatedName e context).outcome :=
  meansFormula_of_eq (outcome_of_bare parser vacant evolves present bare grammatical registry context)

end Evaluations

end Cel.Runtime

namespace BuiltIn

open Cel (Program)

/-- An evaluator with the built-in collaborators. -/
def evaluator : Evaluator where
  formulaEngine := formulaEngine
  textProvider := textProvider
  prelude := ⟨"", ""⟩
  compileScripts := true
  defaultLanguage := "feel"

/-- An expression after an evaluation of its text has parsed it. -/
def onceEvaluated (text : String) : Expression :=
  (evaluator.evaluateIn Registry.empty LanguageClass.interpolatedName (.ofText text) Context.empty).expression

theorem evaluator_textProvider : evaluator.textProvider = Program.runtime.textProvider := rfl

theorem evolves_onceEvaluated (text : String) :
    Expression.Evolves Program.runtime.textProvider (.ofText text) (onceEvaluated text) :=
  .evaluateIn evaluator_textProvider Registry.empty LanguageClass.interpolatedName _ Context.empty

/-- A map that holds an opening in a string, after an evaluation has parsed it; and a text that does not compile. -/
theorem meansFormula_of_bare_quotedOpening :
    let text := " \x7b'k': '$\x7b'\x7d['k']"
    let torn := "x + "
    let outcome (text : String) : Outcome EvaluationError (Option Json) :=
      (evaluator.evaluateIn Registry.empty LanguageClass.interpolatedName (onceEvaluated text)
        Context.empty).outcome
    (onceEvaluated text).parsedSlot.isPopulated = true ∧
      Program.runtime.MeansFormula text Context.empty (outcome text) ∧
      outcome text = .ok (some (.string "$\x7b")) ∧
      Program.runtime.MeansFormula torn Context.empty (outcome torn) ∧
      outcome torn = .error (.failure torn "juel" (.cel (.compilation (Text.quoted "x +")))) := by
  intro text torn outcome
  have means (text : String) (written : (Expression.ofText text).text? = some text)
      (bare : isDelimited text = false) (grammatical : Template.Body text.toList) :
      Program.runtime.MeansFormula text Context.empty (outcome text) :=
    Cel.Runtime.meansFormula_of_bare evaluator_textProvider rfl (evolves_onceEvaluated text)
      ((evolves_onceEvaluated text).text?_eq.trans written) bare grammatical Registry.empty Context.empty
  have whole := means text (by decide) (by decide) (by decide)
  have fails := means torn (by decide) (by decide) (by decide)
  have populated : (onceEvaluated text).parsedSlot.isPopulated = true := by decide +kernel
  have found : (formulaEngine.evaluate (Text.trim text) Context.empty).value? = some (.string "$\x7b") := by
    decide +kernel
  have trimmed : Text.trim torn = "x +" := by decide
  have refused : Program.runtime.formulaEngine.evaluate (Text.trim torn) Context.empty =
      .error (.cel (.compilation (Text.quoted "x +"))) := by
    rw [trimmed]
    rfl
  exact ⟨populated, whole, (whole.value _).mpr (Outcome.value?_eq_some_iff.mp found), fails,
    (fails.error _).mpr ⟨_, refused, rfl⟩⟩

end BuiltIn

end DecisionEval
