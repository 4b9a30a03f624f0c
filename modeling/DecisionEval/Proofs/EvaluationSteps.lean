/-
Module: DecisionEval.Proofs.EvaluationSteps
Purpose: What one evaluation answers and what it leaves in the slots of its expression, path by path.
Main exports: Evaluator.compiler?, ScriptBackend.bindingsFor, Evaluator.Takes, Evaluator.path_cases,
  Evaluator.evaluateIn_expression_cases, Evaluator.evaluateIn_expression_fresh,
  Evaluator.evaluateIn_scriptSlot_filled
-/
import DecisionEval.Evaluator
import DecisionEval.Proofs.LanguagePaths
import DecisionEval.Proofs.SlotUse

namespace DecisionEval

/-- The names that a script of a backend sees when it is evaluated against a context. -/
def ScriptBackend.bindingsFor (backend : ScriptBackend) (context : Context) : Bindings :=
  (Bindings.wrap backend.createBindings context).withContext

namespace Expression

variable {e : Expression} {language : String}

@[simp] theorem fresh_text? : e.fresh.text? = e.text? := rfl

@[simp] theorem fresh_textFor : e.fresh.textFor language = e.textFor language := rfl

@[simp] theorem fresh_parsedSlot : e.fresh.parsedSlot = Slot.empty := rfl

@[simp] theorem fresh_scriptSlot : e.fresh.scriptSlot = Slot.empty := rfl

end Expression

/-!
### Calls on record

What a computation that makes calls comes to, and which calls it makes, can be told apart. A slot is used as it is
without a record, and its compilation is on record exactly if it takes place.
-/

section Record

variable {ε α β : Type}

theorem Slot.getOrInstallM_result (slot : Slot α) (language : String)
    (compile : Unit → Recorded (Outcome ε α)) :
    (slot.getOrInstallM language compile).result =
      slot.getOrInstall language fun _ => (compile ()).result := by
  cases foundEq : slot.get? language with
  | none => rw [getOrInstallM_of_missing foundEq, getOrInstall_of_missing foundEq]; rfl
  | some artifact => rw [getOrInstallM_of_found foundEq, getOrInstall_of_found foundEq]; rfl

theorem Slot.getOrInstallM_calls (slot : Slot α) (language : String)
    (compile : Unit → Recorded (Outcome ε α)) :
    (slot.getOrInstallM language compile).calls =
      if (slot.get? language).isNone then (compile ()).calls else [] := by
  cases foundEq : slot.get? language with
  | none => simp [getOrInstallM_of_missing foundEq]
  | some artifact => simp [getOrInstallM_of_found foundEq]

theorem Outcome.bindM_result (first : Outcome ε α) (next : α → Recorded (Outcome ε β)) :
    (first.bindM next).result = first.bind fun value => (next value).result := by
  cases first <;> rfl

theorem Outcome.bindM_calls (first : Outcome ε α) (next : α → Recorded (Outcome ε β)) :
    (first.bindM next).calls = first.value?.toList.flatMap fun value => (next value).calls := by
  cases first <;> simp [bindM, value?]

end Record

namespace Evaluator

variable {ev : Evaluator} {registry : Registry} {backend : ScriptBackend} {language text : String}
  {e : Expression} {context : Context}

/-- The compilation of a backend, where the backend offers it and the evaluator is set to use it. -/
def compiler? (ev : Evaluator) (backend : ScriptBackend) :
    Option (String → Outcome BackendError CompiledScript) :=
  if ev.compileScripts then backend.compile? else none

theorem compiler?_eq_some_iff {compile : String → Outcome BackendError CompiledScript} :
    ev.compiler? backend = some compile ↔ ev.compileScripts = true ∧ backend.compile? = some compile := by
  simp [compiler?]

theorem compiler?_eq_none_iff :
    ev.compiler? backend = none ↔ ev.compileScripts = false ∨ backend.compile? = none := by
  cases compiles : ev.compileScripts <;> simp [compiler?, compiles]

/-!
### The paths
-/

theorem evaluateIn_of_no_text (absent : e.text? = none) :
    ev.evaluateIn registry language e context = ⟨.ok none, e, []⟩ := by
  rw [evaluateIn, Expression.textFor_eq_none_iff.mpr absent]

theorem evaluateIn_of_class_error {cause : EvaluationError} (present : e.text? = some text)
    (classEq : LanguageClass.of language = .error cause) :
    ev.evaluateIn registry language e context = ⟨.error cause, e, []⟩ := by
  obtain ⟨resolved, resolvedEq⟩ := Expression.exists_textFor_of_text language present
  simp only [evaluateIn, resolvedEq, classEq]

theorem evaluateIn_formula (present : e.text? = some text)
    (classEq : LanguageClass.of language = .ok .formula) :
    ev.evaluateIn registry language e context = ev.evaluateFormula text e context := by
  have differs := LanguageClass.ne_interpolatedName_of_class classEq (by simp)
  simp only [evaluateIn, Expression.textFor_of_ne differs, present, classEq]

/-- A formula takes one call, and nothing is kept. -/
theorem evaluateFormula_eq (ev : Evaluator) (text : String) (e : Expression) (context : Context) :
    ev.evaluateFormula text e context =
      ⟨present ((ev.formulaEngine.evaluate text context).mapError .formula), e, [.formula text context]⟩ :=
  rfl

theorem evaluateIn_script (present : e.text? = some text)
    (classEq : LanguageClass.of language = .ok (.script language)) :
    ev.evaluateIn registry language e context =
      ev.evaluateScript registry language text e context := by
  have differs := LanguageClass.ne_interpolatedName_of_class classEq (by simp)
  simp only [evaluateIn, Expression.textFor_of_ne differs, present, classEq]

theorem evaluateIn_interpolated (resolved : e.textFor LanguageClass.interpolatedName = some text) :
    ev.evaluateIn registry LanguageClass.interpolatedName e context =
      ev.evaluateInterpolated LanguageClass.interpolatedName text e context := by
  simp only [evaluateIn, resolved, LanguageClass.of_interpolatedName]

theorem evaluateScript_of_unknown (unknown : registry.resolve language = none) :
    ev.evaluateScript registry language text e context = ⟨.error (.noBackend language), e, []⟩ := by
  simp only [evaluateScript, unknown]

theorem evaluateScript_of_known (known : registry.resolve language = some backend) :
    ev.evaluateScript registry language text e context =
      ev.evaluateWith backend language text e context := by
  simp only [evaluateScript, known]

theorem evaluateIn_nameless (present : e.text? = some text) (blank : Text.isBlank language = true) :
    ev.evaluateIn registry language e context = ⟨.error .missingLanguage, e, []⟩ :=
  evaluateIn_of_class_error present (LanguageClass.of_eq_error_iff.mpr ⟨rfl, blank⟩)

theorem evaluateIn_delimited (present : e.text? = some text) :
    ev.evaluateIn registry LanguageClass.interpolatedName e context =
      ev.evaluateInterpolated LanguageClass.interpolatedName (delimitedText text) e context :=
  evaluateIn_interpolated (Expression.textFor_interpolatedName present)

theorem evaluateIn_unserved (present : e.text? = some text)
    (classEq : LanguageClass.of language = .ok (.script language))
    (unknown : registry.resolve language = none) :
    ev.evaluateIn registry language e context = ⟨.error (.noBackend language), e, []⟩ := by
  rw [evaluateIn_script present classEq, evaluateScript_of_unknown unknown]

theorem evaluateIn_served (present : e.text? = some text)
    (classEq : LanguageClass.of language = .ok (.script language))
    (known : registry.resolve language = some backend) :
    ev.evaluateIn registry language e context = ev.evaluateWith backend language text e context := by
  rw [evaluateIn_script present classEq, evaluateScript_of_known known]

/-- The ways that an evaluation can go, told apart by the text, the language and the registry in this
order. -/
inductive Takes (ev : Evaluator) (registry : Registry) (language : String) (e : Expression)
    (context : Context) : Evaluation → Prop where
  | textless : e.text? = none → Takes ev registry language e context ⟨.ok none, e, []⟩
  | nameless {text : String} : e.text? = some text → Text.isBlank language = true →
      Takes ev registry language e context ⟨.error .missingLanguage, e, []⟩
  | formula {text : String} : e.text? = some text → LanguageClass.of language = .ok .formula →
      Takes ev registry language e context (ev.evaluateFormula text e context)
  | interpolated {text : String} : e.text? = some text → language = LanguageClass.interpolatedName →
      Takes ev registry language e context
        (ev.evaluateInterpolated language (delimitedText text) e context)
  | unserved {text : String} : e.text? = some text →
      LanguageClass.of language = .ok (.script language) → registry.resolve language = none →
      Takes ev registry language e context ⟨.error (.noBackend language), e, []⟩
  | served {text : String} {backend : ScriptBackend} : e.text? = some text →
      LanguageClass.of language = .ok (.script language) → registry.resolve language = some backend →
      Takes ev registry language e context (ev.evaluateWith backend language text e context)

theorem takes_evaluateIn (ev : Evaluator) (registry : Registry) (language : String) (e : Expression)
    (context : Context) :
    Takes ev registry language e context (ev.evaluateIn registry language e context) := by
  cases present : e.text? with
  | none =>
      rw [evaluateIn_of_no_text present]
      exact .textless present
  | some text =>
      cases classEq : LanguageClass.of language with
      | error cause =>
          obtain ⟨rfl, blank⟩ := LanguageClass.of_eq_error_iff.mp classEq
          rw [evaluateIn_nameless present blank]
          exact .nameless present blank
      | ok selected =>
          cases selected with
          | formula =>
              rw [evaluateIn_formula present classEq]
              exact .formula present classEq
          | interpolated =>
              obtain rfl := LanguageClass.of_eq_interpolated_iff.mp classEq
              rw [evaluateIn_delimited present]
              exact .interpolated present rfl
          | script other =>
              obtain rfl := LanguageClass.eq_of_of_eq_script classEq
              cases resolved : registry.resolve other with
              | none =>
                  rw [evaluateIn_unserved present classEq resolved]
                  exact .unserved present classEq resolved
              | some backend =>
                  rw [evaluateIn_served present classEq resolved]
                  exact .served present classEq resolved

/-- An evaluation asks no slot, and goes the same way for every expression of the same text, or it takes one
of the two paths that keep artifacts. -/
theorem path_cases (ev : Evaluator) (registry : Registry) (language : String) (e : Expression)
    (context : Context) :
    (∃ outcome calls, ∀ other : Expression, other.text? = e.text? →
        ev.evaluateIn registry language other context = ⟨outcome, other, calls⟩) ∨
      (language = LanguageClass.interpolatedName ∧
        ∃ text, e.textFor LanguageClass.interpolatedName = some text) ∨
      (LanguageClass.of language = .ok (.script language) ∧ ∃ text, e.text? = some text) := by
  have takes := ev.takes_evaluateIn registry language e context
  generalize ev.evaluateIn registry language e context = evaluation at takes
  cases takes with
  | textless absent =>
      exact Or.inl ⟨_, _, fun other same => evaluateIn_of_no_text (same.trans absent)⟩
  | nameless present blank =>
      exact Or.inl ⟨_, _, fun other same => evaluateIn_nameless (same.trans present) blank⟩
  | formula present classEq =>
      exact Or.inl ⟨_, _, fun other same =>
        (evaluateIn_formula (same.trans present) classEq).trans (ev.evaluateFormula_eq ..)⟩
  | interpolated present named =>
      exact Or.inr (Or.inl ⟨named, _, Expression.textFor_interpolatedName present⟩)
  | unserved present classEq _ => exact Or.inr (Or.inr ⟨classEq, _, present⟩)
  | served present classEq _ => exact Or.inr (Or.inr ⟨classEq, _, present⟩)

/-!
### What each path answers

The answer of a path that keeps an artifact depends on the slot only by what the use of the slot gives.
-/

@[simp] theorem ask_result (call : CollaboratorCall) : (ev.ask call).result = ev.answer call := rfl

@[simp] theorem ask_calls (call : CollaboratorCall) : (ev.ask call).calls = [call] := rfl

theorem evaluateInterpolated_outcome :
    (ev.evaluateInterpolated language text e context).outcome =
      present (((e.parsedSlot.getOrInstall language fun _ => ev.textProvider.parse text).outcome.bind
        (·.value context)).mapError (.failure (e.text?.getD text) language)) := by
  simp only [evaluateInterpolated, Recorded.evaluation, Recorded.bind_result, Recorded.pure_result,
    Slot.getOrInstallM_result, Outcome.bindM_result, ask_result, answer]

theorem evaluateInterpolated_expression :
    (ev.evaluateInterpolated language text e context).expression =
      { e with parsedSlot :=
          (e.parsedSlot.getOrInstall language fun _ => ev.textProvider.parse text).slot } := by
  simp only [evaluateInterpolated, Recorded.evaluation, Recorded.bind_result, Recorded.pure_result,
    Slot.getOrInstallM_result, ask_result, answer]

theorem present_ne_ok_none {outcome : Outcome EvaluationError Json} : present outcome ≠ .ok none := by
  cases outcome <;> simp [present, Outcome.bind]

theorem present_mapError_eq_error_iff {outcome : Outcome BackendError Json}
    {label : BackendError → EvaluationError} {cause : EvaluationError} :
    present (outcome.mapError label) = .error cause ↔
      ∃ source, outcome = .error source ∧ cause = label source := by
  cases outcome <;> simp [present, Outcome.mapError, Outcome.bind, eq_comm]

theorem present_mapError_eq_fault_iff {outcome : Outcome BackendError Json}
    {label : BackendError → EvaluationError} :
    present (outcome.mapError label) = .fault ↔ outcome = .fault := by
  cases outcome <;> simp [present, Outcome.mapError, Outcome.bind]

/-- Interpolated text fails with its parser, where nothing is kept, or with the parsed form. -/
theorem evaluateInterpolated_outcome_eq_error_iff {cause : EvaluationError} :
    (ev.evaluateInterpolated language text e context).outcome = .error cause ↔
      ∃ source, cause = .failure (e.text?.getD text) language source ∧
        (e.parsedSlot.get? language = none ∧ ev.textProvider.parse text = .error source ∨
          ∃ parsed, e.parsedSlot.obtained language (ev.textProvider.parse text) = some parsed ∧
            parsed.value context = .error source) := by
  simp only [evaluateInterpolated_outcome, present_mapError_eq_error_iff, Outcome.bind_eq_error_iff,
    Slot.getOrInstall_outcome_eq_error_iff, Slot.getOrInstall_outcome_eq_ok_iff, and_comm]

theorem evaluateInterpolated_outcome_eq_fault_iff :
    (ev.evaluateInterpolated language text e context).outcome = .fault ↔
      e.parsedSlot.get? language = none ∧ ev.textProvider.parse text = .fault ∨
        ∃ parsed, e.parsedSlot.obtained language (ev.textProvider.parse text) = some parsed ∧
          parsed.value context = .fault := by
  simp only [evaluateInterpolated_outcome, present_mapError_eq_fault_iff, Outcome.bind_eq_fault_iff,
    Slot.getOrInstall_outcome_eq_fault_iff, Slot.getOrInstall_outcome_eq_ok_iff]

/-- A parsed form that is kept for the language is used without parsing. -/
theorem evaluateInterpolated_of_found {parsed : ParsedText}
    (found : e.parsedSlot.get? language = some parsed) :
    ev.evaluateInterpolated language text e context =
      ⟨present ((parsed.value context).mapError (.failure (e.text?.getD text) language)), e,
        [.parsedValue parsed context]⟩ := by
  simp only [evaluateInterpolated, Slot.getOrInstallM_of_found found]
  rfl

/-- A backend that is used with its compilation compiles when it is asked to. -/
theorem answer_compile {compile : String → Outcome BackendError CompiledScript}
    (offered : ev.compiler? backend = some compile) :
    ev.answer (.compile backend text) = compile text := by
  simp only [answer, (compiler?_eq_some_iff.mp offered).2]

theorem evaluateWith_of_offered {compile : String → Outcome BackendError CompiledScript}
    (offered : ev.compiler? backend = some compile) :
    ev.evaluateWith backend language text e context = Recorded.evaluation do
      let _ ← ev.ask (.createBindings backend)
      let use ← e.scriptSlot.getOrInstallM language fun _ =>
        ev.ask (.compile backend (ev.prelude.augment text))
      let outcome ← use.outcome.bindM fun compiled =>
        ev.ask (.runCompiled compiled (backend.bindingsFor context))
      return (present (outcome.mapError (.failure (e.text?.getD text) backend.languageName)),
        { e with scriptSlot := use.slot }) := by
  rw [compiler?] at offered
  simp only [evaluateWith, offered]
  rfl

theorem evaluateWith_outcome_compiled {compile : String → Outcome BackendError CompiledScript}
    (offered : ev.compiler? backend = some compile) :
    (ev.evaluateWith backend language text e context).outcome =
      present (((e.scriptSlot.getOrInstall language fun _ =>
        compile (ev.prelude.augment text)).outcome.bind
          (·.run (backend.bindingsFor context))).mapError
            (.failure (e.text?.getD text) backend.languageName)) := by
  simp only [evaluateWith_of_offered offered, Recorded.evaluation, Recorded.bind_result, Recorded.pure_result,
    Slot.getOrInstallM_result, Outcome.bindM_result, ask_result, answer_compile offered]
  rfl

/-- A script that is compiled fails with the compilation, where nothing is kept, or when it is run. -/
theorem evaluateWith_outcome_eq_error_iff_compiled
    {compile : String → Outcome BackendError CompiledScript} {cause : EvaluationError}
    (offered : ev.compiler? backend = some compile) :
    (ev.evaluateWith backend language text e context).outcome = .error cause ↔
      ∃ source, cause = .failure (e.text?.getD text) backend.languageName source ∧
        (e.scriptSlot.get? language = none ∧ compile (ev.prelude.augment text) = .error source ∨
          ∃ script, e.scriptSlot.obtained language (compile (ev.prelude.augment text)) = some script ∧
            script.run (backend.bindingsFor context) = .error source) := by
  simp only [evaluateWith_outcome_compiled offered, present_mapError_eq_error_iff,
    Outcome.bind_eq_error_iff, Slot.getOrInstall_outcome_eq_error_iff,
    Slot.getOrInstall_outcome_eq_ok_iff, and_comm]

theorem evaluateWith_outcome_eq_fault_iff_compiled
    {compile : String → Outcome BackendError CompiledScript}
    (offered : ev.compiler? backend = some compile) :
    (ev.evaluateWith backend language text e context).outcome = .fault ↔
      e.scriptSlot.get? language = none ∧ compile (ev.prelude.augment text) = .fault ∨
        ∃ script, e.scriptSlot.obtained language (compile (ev.prelude.augment text)) = some script ∧
          script.run (backend.bindingsFor context) = .fault := by
  simp only [evaluateWith_outcome_compiled offered, present_mapError_eq_fault_iff,
    Outcome.bind_eq_fault_iff, Slot.getOrInstall_outcome_eq_fault_iff,
    Slot.getOrInstall_outcome_eq_ok_iff]

theorem evaluateWith_expression_compiled {compile : String → Outcome BackendError CompiledScript}
    (offered : ev.compiler? backend = some compile) :
    (ev.evaluateWith backend language text e context).expression =
      { e with scriptSlot :=
          (e.scriptSlot.getOrInstall language fun _ => compile (ev.prelude.augment text)).slot } := by
  simp only [evaluateWith_of_offered offered, Recorded.evaluation, Recorded.bind_result, Recorded.pure_result,
    Slot.getOrInstallM_result, ask_result, answer_compile offered]

theorem evaluateWith_direct (refused : ev.compiler? backend = none) :
    ev.evaluateWith backend language text e context =
      ⟨present ((backend.eval (ev.prelude.augment text) (backend.bindingsFor context)).mapError
          (.failure (e.text?.getD text) backend.languageName)), e,
        [.createBindings backend,
          .evalScript backend (ev.prelude.augment text) (backend.bindingsFor context)]⟩ := by
  rw [compiler?] at refused
  simp only [evaluateWith, refused]
  rfl

/-!
### What each path calls
-/

/-- Text is parsed if nothing is kept for the language, and what is obtained is evaluated. -/
theorem evaluateInterpolated_calls :
    (ev.evaluateInterpolated language text e context).calls =
      (if (e.parsedSlot.get? language).isNone then [.parse text] else []) ++
        (e.parsedSlot.obtained language (ev.textProvider.parse text)).toList.map
          (.parsedValue · context) := by
  simp only [evaluateInterpolated, Recorded.evaluation, Recorded.bind_calls, Recorded.pure_calls,
    Slot.getOrInstallM_calls, Slot.getOrInstallM_result, Outcome.bindM_calls, ask_result, ask_calls, answer,
    Slot.getOrInstall_outcome_value?, List.append_nil, List.map_eq_flatMap]

theorem evaluateWith_calls_compiled {compile : String → Outcome BackendError CompiledScript}
    (offered : ev.compiler? backend = some compile) :
    (ev.evaluateWith backend language text e context).calls =
      .createBindings backend ::
        (if (e.scriptSlot.get? language).isNone then [.compile backend (ev.prelude.augment text)] else []) ++
        (e.scriptSlot.obtained language (compile (ev.prelude.augment text))).toList.map
          (.runCompiled · (backend.bindingsFor context)) := by
  simp only [evaluateWith_of_offered offered, Recorded.evaluation, Recorded.bind_calls, Recorded.pure_calls,
    Slot.getOrInstallM_calls, Slot.getOrInstallM_result, Outcome.bindM_calls, ask_result, ask_calls,
    answer_compile offered, Slot.getOrInstall_outcome_value?, List.append_nil, List.map_eq_flatMap,
    List.cons_append, List.nil_append]

/-!
### What an evaluation leaves behind
-/

theorem evaluateInterpolated_expression_cases (ev : Evaluator) (language text : String) (e : Expression)
    (context : Context) :
    (ev.evaluateInterpolated language text e context).expression = e ∨
      e.parsedSlot = Slot.empty ∧ ∃ parsed, ev.textProvider.parse text = .ok parsed ∧
        (ev.evaluateInterpolated language text e context).expression =
          { e with parsedSlot := ⟨some ⟨language, parsed⟩⟩ } := by
  rw [evaluateInterpolated_expression]
  rcases e.parsedSlot.getOrInstall_slot_cases language (fun _ => ev.textProvider.parse text) with
    kept | ⟨vacant, parsed, made, filled⟩
  · exact Or.inl (by rw [kept])
  · exact Or.inr ⟨vacant, parsed, made, by rw [filled]⟩

theorem evaluateScript_expression_cases (ev : Evaluator) (registry : Registry) (language text : String)
    (e : Expression) (context : Context) :
    (ev.evaluateScript registry language text e context).expression = e ∨
      e.scriptSlot = Slot.empty ∧ ∃ backend compile artifact, registry.resolve language = some backend ∧
        ev.compiler? backend = some compile ∧ compile (ev.prelude.augment text) = .ok artifact ∧
        (ev.evaluateScript registry language text e context).expression =
          { e with scriptSlot := ⟨some ⟨language, artifact⟩⟩ } := by
  cases resolved : registry.resolve language with
  | none => exact Or.inl (by rw [evaluateScript_of_unknown resolved])
  | some backend =>
      rw [evaluateScript_of_known resolved]
      cases offered : ev.compiler? backend with
      | none => exact Or.inl (by rw [evaluateWith_direct offered])
      | some compile =>
          rw [evaluateWith_expression_compiled offered]
          rcases e.scriptSlot.getOrInstall_slot_cases language
              (fun _ => compile (ev.prelude.augment text)) with kept | ⟨vacant, artifact, made, filled⟩
          · exact Or.inl (by rw [kept])
          · exact Or.inr ⟨vacant, backend, compile, artifact, rfl, offered, made, by rw [filled]⟩

/-- All that an evaluation can change: it fills the slot for parsed text, as interpolated text that parses,
or the slot for scripts, as a script whose backend compiles it. Each is filled only while it is empty. -/
theorem evaluateIn_expression_cases (ev : Evaluator) (registry : Registry) (language : String)
    (e : Expression) (context : Context) :
    (ev.evaluateIn registry language e context).expression = e ∨
      (e.parsedSlot = Slot.empty ∧ language = LanguageClass.interpolatedName ∧
        ∃ text parsed, e.textFor LanguageClass.interpolatedName = some text ∧
          ev.textProvider.parse text = .ok parsed ∧
          (ev.evaluateIn registry language e context).expression =
            { e with parsedSlot := ⟨some ⟨LanguageClass.interpolatedName, parsed⟩⟩ }) ∨
      (e.scriptSlot = Slot.empty ∧ LanguageClass.of language = .ok (.script language) ∧
        ∃ text backend compile artifact, e.text? = some text ∧ registry.resolve language = some backend ∧
          ev.compiler? backend = some compile ∧ compile (ev.prelude.augment text) = .ok artifact ∧
          (ev.evaluateIn registry language e context).expression =
            { e with scriptSlot := ⟨some ⟨language, artifact⟩⟩ }) := by
  rcases ev.path_cases registry language e context with
    ⟨outcome, calls, path⟩ | ⟨rfl, text, resolved⟩ | ⟨classEq, text, present⟩
  · exact Or.inl (by rw [path e rfl])
  · rw [evaluateIn_interpolated resolved]
    rcases ev.evaluateInterpolated_expression_cases LanguageClass.interpolatedName text e context with
      kept | ⟨vacant, parsed, made, filled⟩
    · exact Or.inl kept
    · exact Or.inr (Or.inl ⟨vacant, rfl, text, parsed, resolved, made, filled⟩)
  · rw [evaluateIn_script present classEq]
    rcases ev.evaluateScript_expression_cases registry language text e context with
      kept | ⟨vacant, backend, compile, artifact, known, offered, made, filled⟩
    · exact Or.inl kept
    · exact Or.inr (Or.inr ⟨vacant, classEq, text, backend, compile, artifact, present, known, offered,
        made, filled⟩)

/-- Slots apart, an evaluation leaves an expression as it is. -/
@[simp] theorem evaluateIn_expression_fresh :
    (ev.evaluateIn registry language e context).expression.fresh = e.fresh := by
  rcases ev.evaluateIn_expression_cases registry language e context with
    kept | ⟨-, -, text, parsed, -, -, filled⟩ | ⟨-, -, text, backend, compile, artifact, -, -, -, -, filled⟩
  · rw [kept]
  · rw [filled]; rfl
  · rw [filled]; rfl

theorem evaluateIn_parsedSlot_stays {installed : Installed ParsedText}
    (found : e.parsedSlot.installed = some installed) :
    (ev.evaluateIn registry language e context).expression.parsedSlot.installed = some installed := by
  rcases ev.evaluateIn_expression_cases registry language e context with
    kept | ⟨vacant, -⟩ | ⟨-, -, text, backend, compile, artifact, -, -, -, -, filled⟩
  · rw [kept, found]
  · simp [vacant] at found
  · rw [filled]; exact found

theorem evaluateIn_scriptSlot_stays {installed : Installed CompiledScript}
    (found : e.scriptSlot.installed = some installed) :
    (ev.evaluateIn registry language e context).expression.scriptSlot.installed = some installed := by
  rcases ev.evaluateIn_expression_cases registry language e context with
    kept | ⟨-, -, text, parsed, -, -, filled⟩ | ⟨vacant, -⟩
  · rw [kept, found]
  · rw [filled]; exact found
  · simp [vacant] at found

/-- The evaluation that fills the slot for scripts is one in the language of the script, whose backend has
compiled the text with the evaluator's prelude. -/
theorem evaluateIn_scriptSlot_filled {installed : Installed CompiledScript}
    (vacant : e.scriptSlot.installed = none)
    (filled :
      (ev.evaluateIn registry language e context).expression.scriptSlot.installed = some installed) :
    language = installed.language ∧
      LanguageClass.of installed.language = .ok (.script installed.language) ∧
      ∃ text backend compile, e.text? = some text ∧ registry.resolve installed.language = some backend ∧
        ev.compiler? backend = some compile ∧
        compile (ev.prelude.augment text) = .ok installed.artifact := by
  rcases ev.evaluateIn_expression_cases registry language e context with
    kept | ⟨-, -, text, parsed, -, -, parsedFilled⟩ |
      ⟨-, classEq, text, backend, compile, artifact, present, known, offered, made, scriptFilled⟩
  · rw [kept, vacant] at filled
    cases filled
  · rw [parsedFilled] at filled
    rw [vacant] at filled
    cases filled
  · rw [scriptFilled] at filled
    cases filled
    exact ⟨rfl, classEq, text, backend, compile, present, known, offered, made⟩

end Evaluator

end DecisionEval
