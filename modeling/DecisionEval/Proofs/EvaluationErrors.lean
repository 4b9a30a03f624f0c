/-
Module: DecisionEval.Proofs.EvaluationErrors
Purpose: Which result an evaluation has, and where every one of its errors comes from.
Main exports: CollaboratorCall.Faults, Evaluator.StepFails, Evaluator.Raises,
  Evaluator.evaluateIn_outcome_eq_error_iff, Evaluator.evaluateIn_outcome_eq_fault_iff,
  Evaluator.ResultTable, Evaluator.resultTable
-/
import Mathlib.Logic.Basic
import DecisionEval.Proofs.EvaluationSteps

namespace DecisionEval

/-- The collaborator that is called stops abruptly. -/
def CollaboratorCall.Faults (ev : Evaluator) : CollaboratorCall → Prop
  | .formula text context => ev.formulaEngine.evaluate text context = .fault
  | .parse text => ev.textProvider.parse text = .fault
  | .parsedValue parsed context => parsed.value context = .fault
  | .createBindings _ => False
  | .compile backend text => ∃ compile, backend.compile? = some compile ∧ compile text = .fault
  | .runCompiled script bindings => script.run bindings = .fault
  | .evalScript backend text bindings => backend.eval text bindings = .fault

namespace Evaluator

/-- A step on the path of interpolated text or of scripts fails, with the name that the error shows and the
failure of the step. Something is parsed or compiled only where the slot has nothing for the language; an
artifact comes from the slot or is made now. -/
inductive StepFails (ev : Evaluator) (registry : Registry) (language : String) (e : Expression)
    (context : Context) (text : String) : String → BackendError → Prop where
  | parse {source : BackendError} : language = LanguageClass.interpolatedName →
      e.parsedSlot.get? language = none →
      ev.textProvider.parse (delimitedText text) = .error source →
      StepFails ev registry language e context text LanguageClass.interpolatedName source
  | parsedValue {parsed : ParsedText} {source : BackendError} :
      language = LanguageClass.interpolatedName →
      e.parsedSlot.obtained language (ev.textProvider.parse (delimitedText text)) = some parsed →
      parsed.value context = .error source →
      StepFails ev registry language e context text LanguageClass.interpolatedName source
  | compile {backend : ScriptBackend} {compile : String → Outcome BackendError CompiledScript}
      {source : BackendError} : LanguageClass.of language = .ok (.script language) →
      registry.resolve language = some backend → ev.compiler? backend = some compile →
      e.scriptSlot.get? language = none → compile (ev.prelude.augment text) = .error source →
      StepFails ev registry language e context text backend.languageName source
  | runCompiled {backend : ScriptBackend} {compile : String → Outcome BackendError CompiledScript}
      {script : CompiledScript} {source : BackendError} :
      LanguageClass.of language = .ok (.script language) →
      registry.resolve language = some backend → ev.compiler? backend = some compile →
      e.scriptSlot.obtained language (compile (ev.prelude.augment text)) = some script →
      script.run (backend.bindingsFor context) = .error source →
      StepFails ev registry language e context text backend.languageName source
  | evalScript {backend : ScriptBackend} {source : BackendError} :
      LanguageClass.of language = .ok (.script language) →
      registry.resolve language = some backend → ev.compiler? backend = none →
      backend.eval (ev.prelude.augment text) (backend.bindingsFor context) = .error source →
      StepFails ev registry language e context text backend.languageName source

/-- The origin of an error: the identifier, the registry, the engine of formulas, or a step that fails. -/
inductive Raises (ev : Evaluator) (registry : Registry) (language : String) (e : Expression)
    (context : Context) : EvaluationError → Prop where
  | missingLanguage {text : String} : e.text? = some text → Text.isBlank language = true →
      Raises ev registry language e context .missingLanguage
  | noBackend {text : String} : e.text? = some text →
      LanguageClass.of language = .ok (.script language) → registry.resolve language = none →
      Raises ev registry language e context (.noBackend language)
  | formula {text : String} {source : BackendError} : e.text? = some text →
      LanguageClass.of language = .ok .formula → ev.formulaEngine.evaluate text context = .error source →
      Raises ev registry language e context (.formula source)
  | failure {text label : String} {source : BackendError} : e.text? = some text →
      StepFails ev registry language e context text label source →
      Raises ev registry language e context (.failure text label source)

variable {ev : Evaluator} {registry : Registry} {language text label : String} {e : Expression}
  {context : Context} {backend : ScriptBackend} {cause : EvaluationError} {source : BackendError}

/-!
### Errors
-/

theorem raises_of_evaluateWith (present : e.text? = some text)
    (classEq : LanguageClass.of language = .ok (.script language))
    (known : registry.resolve language = some backend)
    (failed : (ev.evaluateWith backend language text e context).outcome = .error cause) :
    Raises ev registry language e context cause := by
  cases offered : ev.compiler? backend with
  | none =>
      rw [evaluateWith_direct offered, present_mapError_eq_error_iff] at failed
      obtain ⟨source, evalFailed, rfl⟩ := failed
      rw [present]
      exact .failure present (.evalScript classEq known offered evalFailed)
  | some compile =>
      rw [evaluateWith_outcome_eq_error_iff_compiled offered] at failed
      obtain ⟨source, rfl, ⟨missing, compileFailed⟩ | ⟨script, obtained, runFailed⟩⟩ := failed
      · rw [present]
        exact .failure present (.compile classEq known offered missing compileFailed)
      · rw [present]
        exact .failure present (.runCompiled classEq known offered obtained runFailed)

theorem raises_of_outcome_eq_error
    (failed : (ev.evaluateIn registry language e context).outcome = .error cause) :
    Raises ev registry language e context cause := by
  have takes := ev.takes_evaluateIn registry language e context
  generalize ev.evaluateIn registry language e context = evaluation at takes failed
  cases takes with
  | textless absent => cases failed
  | nameless present blank =>
      cases failed
      exact .missingLanguage present blank
  | formula present classEq =>
      obtain ⟨source, engineFailed, rfl⟩ := present_mapError_eq_error_iff.mp failed
      exact .formula present classEq engineFailed
  | interpolated present named =>
      subst named
      obtain ⟨source, rfl, ⟨missing, parserFailed⟩ | ⟨parsed, obtained, valueFailed⟩⟩ :=
        evaluateInterpolated_outcome_eq_error_iff.mp failed
      · rw [present]
        exact .failure present (.parse rfl missing parserFailed)
      · rw [present]
        exact .failure present (.parsedValue rfl obtained valueFailed)
  | unserved present classEq unknown =>
      cases failed
      exact .noBackend present classEq unknown
  | served present classEq known => exact raises_of_evaluateWith present classEq known failed

theorem outcome_eq_error_of_stepFails (present : e.text? = some text)
    (fails : StepFails ev registry language e context text label source) :
    (ev.evaluateIn registry language e context).outcome = .error (.failure text label source) := by
  have written : e.text?.getD text = text := by rw [present, Option.getD_some]
  cases fails with
  | parse named missing failed =>
      subst named
      rw [evaluateIn_delimited present, evaluateInterpolated_outcome_eq_error_iff, present]
      exact ⟨source, rfl, Or.inl ⟨missing, failed⟩⟩
  | parsedValue named obtained failed =>
      subst named
      rw [evaluateIn_delimited present, evaluateInterpolated_outcome_eq_error_iff, present]
      exact ⟨source, rfl, Or.inr ⟨_, obtained, failed⟩⟩
  | compile classEq known offered missing failed =>
      rw [evaluateIn_served present classEq known, evaluateWith_outcome_eq_error_iff_compiled offered,
        written]
      exact ⟨source, rfl, Or.inl ⟨missing, failed⟩⟩
  | runCompiled classEq known offered obtained failed =>
      rw [evaluateIn_served present classEq known, evaluateWith_outcome_eq_error_iff_compiled offered,
        written]
      exact ⟨source, rfl, Or.inr ⟨_, obtained, failed⟩⟩
  | evalScript classEq known refused failed =>
      rw [evaluateIn_served present classEq known, evaluateWith_direct refused, written]
      exact present_mapError_eq_error_iff.mpr ⟨source, failed, rfl⟩

/-- An evaluation ends in an error exactly if the error has its origin in it. -/
theorem evaluateIn_outcome_eq_error_iff :
    (ev.evaluateIn registry language e context).outcome = .error cause ↔
      Raises ev registry language e context cause := by
  constructor
  · exact raises_of_outcome_eq_error
  · intro raises
    cases raises with
    | missingLanguage present blank =>
        rw [evaluateIn_nameless present blank]
    | noBackend present classEq unknown =>
        rw [evaluateIn_unserved present classEq unknown]
    | formula present classEq failed =>
        rw [evaluateIn_formula present classEq]
        exact present_mapError_eq_error_iff.mpr ⟨_, failed, rfl⟩
    | failure present fails => exact outcome_eq_error_of_stepFails present fails

/-!
### Abrupt stops
-/

/-- The calls of a path that keeps artifacts are one that makes an artifact, if the slot has none for the
language, and one that uses what is obtained. -/
theorem exists_faults_iff {α : Type} {made : CollaboratorCall} {missing : Bool} {obtained : Option α}
    {used : α → CollaboratorCall} :
    (∃ call ∈ (if missing then [made] else []) ++ obtained.toList.map used, call.Faults ev) ↔
      missing = true ∧ made.Faults ev ∨
        ∃ artifact, obtained = some artifact ∧ (used artifact).Faults ev := by
  cases missing <;> simp [or_and_right, exists_or]

theorem evaluateInterpolated_outcome_eq_fault_iff_calls :
    (ev.evaluateInterpolated language text e context).outcome = .fault ↔
      ∃ call ∈ (ev.evaluateInterpolated language text e context).calls, call.Faults ev := by
  rw [evaluateInterpolated_outcome_eq_fault_iff, evaluateInterpolated_calls, exists_faults_iff,
    Option.isNone_iff_eq_none]
  rfl

theorem evaluateWith_outcome_eq_fault_iff_calls :
    (ev.evaluateWith backend language text e context).outcome = .fault ↔
      ∃ call ∈ (ev.evaluateWith backend language text e context).calls, call.Faults ev := by
  cases offered : ev.compiler? backend with
  | none => simp [evaluateWith_direct offered, present_mapError_eq_fault_iff, CollaboratorCall.Faults]
  | some compile =>
      have offers := (compiler?_eq_some_iff.mp offered).2
      have compileFaults : (CollaboratorCall.compile backend (ev.prelude.augment text)).Faults ev ↔
          compile (ev.prelude.augment text) = .fault := by
        simp [CollaboratorCall.Faults, offers]
      rw [evaluateWith_outcome_eq_fault_iff_compiled offered, evaluateWith_calls_compiled offered,
        List.cons_append]
      simp only [List.mem_cons, exists_eq_or_imp]
      rw [exists_faults_iff, compileFaults, Option.isNone_iff_eq_none]
      exact (or_iff_right not_false).symm

/-- An evaluation stops abruptly exactly if a collaborator that it calls does. -/
theorem evaluateIn_outcome_eq_fault_iff :
    (ev.evaluateIn registry language e context).outcome = .fault ↔
      ∃ call ∈ (ev.evaluateIn registry language e context).calls, call.Faults ev := by
  have takes := ev.takes_evaluateIn registry language e context
  generalize ev.evaluateIn registry language e context = evaluation at takes
  cases takes with
  | textless => simp
  | nameless => simp
  | formula =>
      simp [evaluateFormula_eq, present_mapError_eq_fault_iff, CollaboratorCall.Faults]
  | interpolated => exact evaluateInterpolated_outcome_eq_fault_iff_calls
  | unserved => simp
  | served => exact evaluateWith_outcome_eq_fault_iff_calls

/-!
### All results
-/

/-- When an evaluation has which result.

* `absent`: there is no result exactly if the text is absent or blank, whatever the language.
* `missingLanguage`, `noBackend`, `formula`, `failure`: which error an evaluation ends in. A failure shows the
  text as written, the name of interpolated text or of the backend that serves the language now, and the
  failure of the step as it is.
* `fault`: a result is returned unless a collaborator that is called stops abruptly. -/
structure ResultTable (ev : Evaluator) (registry : Registry) (language : String) (e : Expression)
    (context : Context) (evaluation : Evaluation) : Prop where
  absent : evaluation.outcome = .ok none ↔
    ∀ text, e.written = some text → Text.isBlank text = true
  missingLanguage : evaluation.outcome = .error .missingLanguage ↔
    (∃ text, e.text? = some text) ∧ Text.isBlank language = true
  noBackend : ∀ named, evaluation.outcome = .error (.noBackend named) ↔
    named = language ∧ (∃ text, e.text? = some text) ∧
      LanguageClass.of language = .ok (.script language) ∧ registry.resolve language = none
  formula : ∀ source, evaluation.outcome = .error (.formula source) ↔
    ∃ text, e.text? = some text ∧ LanguageClass.of language = .ok .formula ∧
      ev.formulaEngine.evaluate text context = .error source
  failure : ∀ text label source, evaluation.outcome = .error (.failure text label source) ↔
    e.written = some text ∧ Text.isBlank text = false ∧
      StepFails ev registry language e context text label source
  fault : evaluation.outcome = .fault ↔ ∃ call ∈ evaluation.calls, call.Faults ev

theorem evaluateIn_outcome_eq_none_iff :
    (ev.evaluateIn registry language e context).outcome = .ok none ↔ e.text? = none := by
  constructor
  · intro without
    have takes := ev.takes_evaluateIn registry language e context
    generalize ev.evaluateIn registry language e context = evaluation at takes without
    cases takes with
    | textless absent => exact absent
    | nameless => cases without
    | formula => exact absurd without present_ne_ok_none
    | interpolated =>
        rw [evaluateInterpolated_outcome] at without
        exact absurd without present_ne_ok_none
    | unserved => cases without
    | @served text backend =>
        cases offered : ev.compiler? backend with
        | none =>
            rw [evaluateWith_direct offered] at without
            exact absurd without present_ne_ok_none
        | some compile =>
            rw [evaluateWith_outcome_compiled offered] at without
            exact absurd without present_ne_ok_none
  · intro absent
    rw [evaluateIn_of_no_text absent]

/-- Every evaluation, in whatever state the slots are, has its result by the table. -/
theorem resultTable (ev : Evaluator) (registry : Registry) (language : String) (e : Expression)
    (context : Context) :
    ResultTable ev registry language e context (ev.evaluateIn registry language e context) := by
  constructor
  case absent => rw [evaluateIn_outcome_eq_none_iff, Expression.text?_eq_none_iff]
  case missingLanguage =>
    rw [evaluateIn_outcome_eq_error_iff]
    constructor
    · intro raises
      cases raises with
      | missingLanguage present blank => exact ⟨⟨_, present⟩, blank⟩
    · rintro ⟨⟨text, present⟩, blank⟩
      exact .missingLanguage present blank
  case noBackend =>
    intro named
    rw [evaluateIn_outcome_eq_error_iff]
    constructor
    · intro raises
      cases raises with
      | noBackend present classEq unknown => exact ⟨rfl, ⟨_, present⟩, classEq, unknown⟩
    · rintro ⟨rfl, ⟨text, present⟩, classEq, unknown⟩
      exact .noBackend present classEq unknown
  case formula =>
    intro source
    rw [evaluateIn_outcome_eq_error_iff]
    constructor
    · intro raises
      cases raises with
      | formula present classEq failed => exact ⟨_, present, classEq, failed⟩
    · rintro ⟨text, present, classEq, failed⟩
      exact .formula present classEq failed
  case failure =>
    intro text label source
    rw [evaluateIn_outcome_eq_error_iff, ← and_assoc, ← Expression.text?_eq_some_iff]
    constructor
    · intro raises
      cases raises with
      | failure present fails => exact ⟨present, fails⟩
    · rintro ⟨present, fails⟩
      exact .failure present fails
  case fault => exact evaluateIn_outcome_eq_fault_iff

end Evaluator

end DecisionEval
