/-
Module: DecisionEval.Proofs.NormalText
Purpose: The form in which interpolated text is handed to the parser. It is a form of its own, and an evaluation
  of it answers what an evaluation of the text answers.
Main exports: delimitedText_delimitedText, Expression.Holds, Cel.Runtime.meaning, Cel.Runtime.answer,
  Cel.Runtime.outcome_eq_answer, Cel.Runtime.AlikeButText, Cel.Runtime.normalForm_of_holds
-/
import DecisionEval.Proofs.BareText

namespace DecisionEval

/-!
### Delimited text

The mark of an opening is no white space. So nothing is dropped from the front of a text between delimiters, and a
text that starts with an opening is not blank.
-/

section Delimited

variable {text : String}

theorem isDelimited_delimit (text : String) : isDelimited (delimit text) = true := by
  have kept : Text.dropBlank (delimit text).toList = (delimit text).toList := by
    rw [Template.toList_delimit]
    rfl
  rw [isDelimited, kept, Template.toList_delimit]
  rfl

theorem isBlank_of_isDelimited (delimited : isDelimited text = true) : Text.isBlank text = false := by
  cases blankEq : Text.isBlank text with
  | false => rfl
  | true =>
      rw [isDelimited, Text.dropBlank_eq_nil_iff.mpr (Text.isBlank_eq_true_iff.mp blankEq)] at delimited
      cases delimited

theorem delimitedText_of_isDelimited (delimited : isDelimited text = true) : delimitedText text = text :=
  if_pos delimited

theorem delimitedText_of_bare (bare : isDelimited text = false) : delimitedText text = delimit text :=
  if_neg (by simp [bare])

theorem isDelimited_delimitedText (text : String) : isDelimited (delimitedText text) = true := by
  cases delimitedEq : isDelimited text with
  | true => rw [delimitedText_of_isDelimited delimitedEq, delimitedEq]
  | false => rw [delimitedText_of_bare delimitedEq, isDelimited_delimit]

/-- The form of a text for the parser is its own form. -/
theorem delimitedText_delimitedText (text : String) :
    delimitedText (delimitedText text) = delimitedText text :=
  delimitedText_of_isDelimited (isDelimited_delimitedText text)

end Delimited

namespace Expression

variable {provider : TextProvider} {text : String} {e : Expression}

/-- An expression of a text, fresh or as evaluations with the given parser leave it. -/
def Holds (provider : TextProvider) (text : String) (e : Expression) : Prop :=
  ∃ first : Expression, first.written = some text ∧ first.parsedSlot = Slot.empty ∧ Evolves provider first e

theorem holds_ofText (provider : TextProvider) (text : String) : (ofText text).Holds provider text :=
  ⟨ofText text, rfl, rfl, .refl⟩

theorem Holds.text?_eq (holds : e.Holds provider text) :
    e.text? = if Text.isBlank text then none else some text := by
  obtain ⟨first, written, -, evolves⟩ := holds
  rw [evolves.text?_eq, text?, written]
  cases blankEq : Text.isBlank text <;> simp [Option.filter, blankEq]

theorem Holds.textFor_eq (holds : e.Holds provider text) :
    e.textFor LanguageClass.interpolatedName =
      if Text.isBlank text then none else some (delimitedText text) := by
  cases blankEq : Text.isBlank text with
  | true =>
      rw [if_pos rfl, textFor_eq_none_iff, holds.text?_eq, if_pos blankEq]
  | false =>
      have present : e.text? = some text := by simp [holds.text?_eq, blankEq]
      simp [textFor_interpolatedName present]

end Expression

namespace Cel.Runtime

/-!
### What interpolated text means

Whatever evaluations have left in the slot of an expression, the answer is that of parsing the text and taking the
value of the template.
-/

variable {π : Type} {cel : Runtime π}

/-- What a text means as a template with the variables of a context. -/
def meaning (cel : Runtime π) (text : String) (context : Context) : Outcome CelError Json :=
  (Template.parseWith cel.compile text).bind (·.evaluateWith (cel.execute · context.toList))

/-- The answer of an evaluation of interpolated text. A failure shows the text as written. -/
def answer (shown : String) (ending : Outcome CelError Json) : Outcome EvaluationError (Option Json) :=
  Evaluator.present ((report ending).mapError (.failure shown LanguageClass.interpolatedName))

theorem parse_bind_value (text : String) (context : Context) :
    (cel.textProvider.parse text).bind (·.value context) = report (cel.meaning text context) := by
  simp only [textProvider, meaning]
  cases Template.parseWith cel.compile text <;> rfl

variable {ev : Evaluator} {e : Expression} {text shown other : String}

theorem outcome_eq_answer (parser : ev.textProvider = cel.textProvider) (holds : e.Holds cel.textProvider text)
    (nonblank : Text.isBlank text = false) (registry : Registry) (context : Context) :
    (ev.evaluateIn registry LanguageClass.interpolatedName e context).outcome =
      answer text (cel.meaning (delimitedText text) context) := by
  have present : e.text? = some text := by simp [holds.text?_eq, nonblank]
  have resolved := Expression.textFor_interpolatedName present
  have current : ev.ParsedCurrent e := by
    obtain ⟨first, -, vacant, evolves⟩ := holds
    apply evolves.parsedCurrent parser
    intro installed found
    simp [vacant] at found
  rw [Evaluator.evaluateIn_interpolated resolved,
    Evaluator.evaluateInterpolated_outcome_eq_fresh current resolved, Evaluator.evaluateInterpolated_outcome,
    Expression.fresh_parsedSlot, Slot.getOrInstall_outcome_of_missing Slot.get?_empty,
    Expression.fresh_text?, present, parser, parse_bind_value]
  rfl

/-!
### Answers that differ in the text they show
-/

/-- Two answers to evaluations of interpolated text: the same value, failures with the same cause of which each
shows its own text, or two abrupt stops. -/
inductive AlikeButText (shown other : String) :
    Outcome EvaluationError (Option Json) → Outcome EvaluationError (Option Json) → Prop where
  | value (value : Json) : AlikeButText shown other (.ok (some value)) (.ok (some value))
  | failure (source : CelError) : AlikeButText shown other
      (.error (.failure shown LanguageClass.interpolatedName (.cel source)))
      (.error (.failure other LanguageClass.interpolatedName (.cel source)))
  | fault : AlikeButText shown other .fault .fault

theorem alikeButText_answer (shown other : String) (ending : Outcome CelError Json) :
    AlikeButText shown other (answer shown ending) (answer other ending) := by
  cases ending with
  | ok value => exact .value value
  | error source => exact .failure source
  | fault => exact .fault

/-- What a text is normalised to, with the parser of a runtime.

* `delimited`: it starts with an opening, white space aside.
* `again`: normalised once more it stays as it is.
* `alike`: an evaluation of an expression with the one text answers as that of an expression with the other does,
  and only the text that a failure shows tells them apart. -/
structure NormalForm (cel : Runtime π) (text normal : String) : Prop where
  delimited : isDelimited normal = true
  again : ∀ e : Expression, e.Holds cel.textProvider normal →
    e.textFor LanguageClass.interpolatedName = some normal
  alike : ∀ (ev : Evaluator) (registry : Registry) (e other : Expression) (context : Context),
    ev.textProvider = cel.textProvider → e.Holds cel.textProvider text → other.Holds cel.textProvider normal →
    AlikeButText text normal
      (ev.evaluateIn registry LanguageClass.interpolatedName e context).outcome
      (ev.evaluateIn registry LanguageClass.interpolatedName other context).outcome

/-- Interpolated text is normalised unless it is blank, and what it is normalised to is a normal form that means
what the text means, whatever runs CEL. -/
theorem normalForm_of_holds (holds : e.Holds cel.textProvider text) :
    (e.textFor LanguageClass.interpolatedName = none ↔ Text.isBlank text = true) ∧
      ∀ normal, e.textFor LanguageClass.interpolatedName = some normal → cel.NormalForm text normal := by
  rw [holds.textFor_eq]
  cases blankEq : Text.isBlank text with
  | true => simp
  | false =>
      refine ⟨by simp, ?_⟩
      rintro normal resolved
      obtain rfl : delimitedText text = normal := by simpa using resolved
      have delimited := isDelimited_delimitedText text
      have nonblank := isBlank_of_isDelimited delimited
      refine ⟨delimited, fun e holds => ?_, fun ev registry e other context parser ofText ofNormal => ?_⟩
      · simp [holds.textFor_eq, nonblank, delimitedText_delimitedText]
      · rw [outcome_eq_answer parser ofText blankEq, outcome_eq_answer parser ofNormal nonblank,
          delimitedText_delimitedText]
        exact alikeButText_answer ..

end Cel.Runtime

namespace BuiltIn

open Cel (Program)

/-- A text that closes the opening put in front of it and leaves an opening of its own to the brace put behind it;
and a text that does not compile. -/
theorem normalForm_halfDelimited :
    let text := "\u2003a\x7d owes $\x7bb"
    let normal := "$\x7b\u2003a\x7d owes $\x7bb\x7d"
    let torn := "a + "
    let context := Context.ofList [("a", .string "Bob"), ("b", .bool true)]
    let evaluated (text : String) : Outcome EvaluationError (Option Json) :=
      (evaluator.evaluateIn Registry.empty LanguageClass.interpolatedName (.ofText text) context).outcome
    (Expression.ofText text).textFor LanguageClass.interpolatedName = some normal ∧
      Program.runtime.NormalForm text normal ∧
      evaluated text = .ok (some (.string "Bob owes true")) ∧ evaluated normal = evaluated text ∧
      Program.runtime.NormalForm torn (delimit torn) ∧
      evaluated torn = .error (.failure torn "juel" (.cel (.compilation (Text.quoted "a +")))) ∧
      evaluated (delimit torn) =
        .error (.failure (delimit torn) "juel" (.cel (.compilation (Text.quoted "a +")))) := by
  intro text normal torn context evaluated
  have holds := Expression.holds_ofText Program.runtime.textProvider
  have resolved : (Expression.ofText text).textFor LanguageClass.interpolatedName = some normal := by decide
  have tornResolved : (Expression.ofText torn).textFor LanguageClass.interpolatedName = some (delimit torn) := by
    decide
  have normalForm : Program.runtime.NormalForm text normal :=
    (Cel.Runtime.normalForm_of_holds (holds text)).2 normal resolved
  have tornForm : Program.runtime.NormalForm torn (delimit torn) :=
    (Cel.Runtime.normalForm_of_holds (holds torn)).2 _ tornResolved
  have value : evaluated text = .ok (some (.string "Bob owes true")) :=
    Outcome.value?_eq_some_iff.mp (by decide +kernel)
  have failure : evaluated torn = .error (.failure torn "juel" (.cel (.compilation (Text.quoted "a +")))) := by
    have written : (Expression.ofText torn).text? = some torn := by decide
    have trimmed : Text.trim torn = "a +" := by decide
    have refused : Program.runtime.formulaEngine.evaluate "a +" context =
        .error (.cel (.compilation (Text.quoted "a +"))) := rfl
    have ended := Cel.Runtime.outcome_of_bare evaluator_textProvider rfl .refl written (by decide) (by decide)
      Registry.empty context
    rw [trimmed, refused] at ended
    exact ended
  have alike := normalForm.alike evaluator Registry.empty _ _ context evaluator_textProvider (holds text)
    (holds normal)
  have tornAlike := tornForm.alike evaluator Registry.empty _ _ context evaluator_textProvider (holds torn)
    (holds (delimit torn))
  change Cel.Runtime.AlikeButText text normal (evaluated text) (evaluated normal) at alike
  change Cel.Runtime.AlikeButText torn (delimit torn) (evaluated torn) (evaluated (delimit torn)) at tornAlike
  refine ⟨resolved, normalForm, value, ?_, tornForm, failure, ?_⟩
  · rw [value] at alike ⊢
    generalize evaluated normal = outcome at alike ⊢
    cases alike
    rfl
  · rw [failure] at tornAlike
    generalize evaluated (delimit torn) = outcome at tornAlike ⊢
    cases tornAlike
    rfl

end BuiltIn

end DecisionEval
