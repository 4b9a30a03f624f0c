/-
Module: DecisionEval.Proofs.SlotAgreement
Purpose: When the slots of an expression cannot be told from empty ones by what an evaluation answers.
Main exports: Evaluator.ParsedCurrent, Evaluator.ScriptCurrent, Evaluator.ScriptAgrees,
  Evaluator.evaluateIn_outcome_eq_fresh
-/
import DecisionEval.Proofs.EvaluationSteps

namespace DecisionEval.Evaluator

variable {ev : Evaluator} {registry : Registry} {language : String} {e : Expression} {context : Context}

/-!
A slot shows in an answer only if what it hands out for a language differs from what would be made for that
language now. The parsed form never differs, for one parser serves one language and the text is fixed. A
script is made by whatever backend serves its language, so it agrees as long as that backend does.
-/

/-- The parsed form that is kept, if any, is that of the text in the one interpolated language. -/
def ParsedCurrent (ev : Evaluator) (e : Expression) : Prop :=
  ∀ installed, e.parsedSlot.installed = some installed →
    installed.language = LanguageClass.interpolatedName ∧
      ∃ text, e.textFor LanguageClass.interpolatedName = some text ∧
        ev.textProvider.parse text = .ok installed.artifact

/-- The script that is kept for a language, if any, is what the backend of the language makes of the text
with this evaluator's prelude. -/
def ScriptAgrees (ev : Evaluator) (registry : Registry) (language : String) (e : Expression) : Prop :=
  ∀ text backend compile artifact, e.text? = some text → registry.resolve language = some backend →
    ev.compiler? backend = some compile → e.scriptSlot.get? language = some artifact →
    compile (ev.prelude.augment text) = .ok artifact

/-- The script that is kept, if any, agrees with the backend of whichever language it is kept for. -/
def ScriptCurrent (ev : Evaluator) (registry : Registry) (e : Expression) : Prop :=
  ∀ installed, e.scriptSlot.installed = some installed →
    ∃ text backend compile, e.text? = some text ∧ registry.resolve installed.language = some backend ∧
      ev.compiler? backend = some compile ∧ compile (ev.prelude.augment text) = .ok installed.artifact

theorem ParsedCurrent.fresh : ParsedCurrent ev e.fresh := by
  intro installed found
  simp at found

theorem ScriptCurrent.fresh : ScriptCurrent ev registry e.fresh := by
  intro installed found
  simp at found

theorem ScriptCurrent.agrees (current : ScriptCurrent ev registry e) (language : String) :
    ScriptAgrees ev registry language e := by
  intro text backend compile artifact present known offered found
  obtain ⟨sourceText, source, sourceCompile, sourcePresent, sourceKnown, sourceOffered, made⟩ :=
    current _ (Slot.get?_eq_some_iff.mp found)
  rw [present] at sourcePresent
  rw [known] at sourceKnown
  cases sourcePresent
  cases sourceKnown
  rw [offered] at sourceOffered
  cases sourceOffered
  exact made

/-!
### Every evaluation keeps the agreement
-/

theorem ParsedCurrent.evaluateIn {other : Evaluator} (current : ParsedCurrent ev e)
    (provider : other.textProvider = ev.textProvider) :
    ParsedCurrent ev (other.evaluateIn registry language e context).expression := by
  rcases other.evaluateIn_expression_cases registry language e context with
    kept | ⟨-, -, text, parsed, resolved, made, filled⟩ | ⟨-, -, _, _, _, _, -, -, -, -, filled⟩
  · rw [kept]
    exact current
  · rw [filled]
    intro installed found
    cases found
    exact ⟨rfl, text, resolved, by rw [← provider, made]⟩
  · rw [filled]
    exact current

theorem ScriptCurrent.evaluateIn (current : ScriptCurrent ev registry e) :
    ScriptCurrent ev registry (ev.evaluateIn registry language e context).expression := by
  rcases ev.evaluateIn_expression_cases registry language e context with
    kept | ⟨-, -, text, parsed, -, -, filled⟩ |
      ⟨-, -, text, backend, compile, artifact, present, known, offered, made, filled⟩
  · rw [kept]
    exact current
  · rw [filled]
    exact current
  · rw [filled]
    intro installed found
    cases found
    exact ⟨text, backend, compile, present, known, offered, made⟩

/-!
### Slots that agree do not show
-/

theorem evaluateInterpolated_outcome_eq_fresh (current : ParsedCurrent ev e) {text : String}
    (resolved : e.textFor LanguageClass.interpolatedName = some text) :
    (ev.evaluateInterpolated LanguageClass.interpolatedName text e context).outcome =
      (ev.evaluateInterpolated LanguageClass.interpolatedName text e.fresh context).outcome := by
  have agrees : ∀ artifact, e.parsedSlot.get? LanguageClass.interpolatedName = some artifact →
      ev.textProvider.parse text = .ok artifact := by
    intro artifact found
    obtain ⟨-, source, sourceEq, made⟩ := current _ (Slot.get?_eq_some_iff.mp found)
    rw [resolved] at sourceEq
    cases sourceEq
    exact made
  rw [evaluateInterpolated_outcome, evaluateInterpolated_outcome,
    Slot.getOrInstall_outcome_of_agrees agrees, Expression.fresh_parsedSlot,
    Slot.getOrInstall_outcome_of_missing Slot.get?_empty, Expression.fresh_text?]

theorem evaluateScript_outcome_eq_fresh (agrees : ScriptAgrees ev registry language e) {text : String}
    (present : e.text? = some text) :
    (ev.evaluateScript registry language text e context).outcome =
      (ev.evaluateScript registry language text e.fresh context).outcome := by
  cases known : registry.resolve language with
  | none => rw [evaluateScript_of_unknown known, evaluateScript_of_unknown known]
  | some backend =>
      rw [evaluateScript_of_known known, evaluateScript_of_known known]
      cases offered : ev.compiler? backend with
      | none =>
          rw [evaluateWith_direct offered, evaluateWith_direct offered, Expression.fresh_text?]
      | some compile =>
          have made := fun artifact => agrees text backend compile artifact present known offered
          rw [evaluateWith_outcome_compiled offered, evaluateWith_outcome_compiled offered,
            Slot.getOrInstall_outcome_of_agrees made, Expression.fresh_scriptSlot,
            Slot.getOrInstall_outcome_of_missing Slot.get?_empty, Expression.fresh_text?]

/-- If the slots agree with what would be made now, an evaluation answers as with empty slots. -/
theorem evaluateIn_outcome_eq_fresh (current : ParsedCurrent ev e)
    (agrees : LanguageClass.of language = .ok (.script language) → ScriptAgrees ev registry language e) :
    (ev.evaluateIn registry language e context).outcome =
      (ev.evaluateIn registry language e.fresh context).outcome := by
  rcases ev.path_cases registry language e context with
    ⟨outcome, calls, path⟩ | ⟨rfl, text, resolved⟩ | ⟨classEq, text, present⟩
  · rw [path e rfl, path e.fresh Expression.fresh_text?]
  · rw [evaluateIn_interpolated resolved,
      evaluateIn_interpolated (Expression.fresh_textFor.trans resolved)]
    exact evaluateInterpolated_outcome_eq_fresh current resolved
  · rw [evaluateIn_script present classEq,
      evaluateIn_script (Expression.fresh_text?.trans present) classEq]
    exact evaluateScript_outcome_eq_fresh (agrees classEq) present

end DecisionEval.Evaluator
