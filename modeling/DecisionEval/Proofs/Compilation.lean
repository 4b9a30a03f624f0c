/-
Module: DecisionEval.Proofs.Compilation
Purpose: Whether scripts are compiled shows in no answer, as long as a backend means the same either way.
Main exports: Registry.CompilesFaithfully, Session.withCompilation, Session.outcomes_eq_fresh,
  Session.outcomes_unchanged_by_compilation
-/
import DecisionEval.Proofs.SessionRun

namespace DecisionEval

/-- Whichever backends serve languages, compiling a text and running the result gives what evaluating the
text gives, be it a value, an error or a fault. -/
def Registry.CompilesFaithfully (registry : Registry) : Prop :=
  ∀ language backend compile, registry.resolve language = some backend →
    backend.compile? = some compile →
    ∀ text bindings, backend.eval text bindings = (compile text).bind (·.run bindings)

theorem Registry.eq_of_resolve_withDefaults {language : String} {backend : ScriptBackend}
    (known : Registry.withDefaults.resolve language = some backend) : backend = BuiltIn.scriptBackend := by
  by_cases same : key language = key builtInLanguage
  · rw [resolve, same] at known
    exact (Option.some.inj ((Dictionary.get?_insert_self _ _ _).symm.trans known)).symm
  · rw [resolve, withDefaults, register, Dictionary.get?_insert_of_ne _ _ same] at known
    cases known

/-- A script that a runtime of CEL compiles ends as its text does. -/
theorem Cel.Runtime.eval_scriptBackend {π : Type} (cel : Cel.Runtime π) (text : String) (bindings : Bindings) :
    cel.scriptBackend.eval text bindings = (cel.compileScript text).bind (·.run bindings) := by
  change cel.runText text bindings.toList = _
  rw [runText, compileScript]
  cases cel.compile text <;> rfl

/-- The built-in backend compiles and evaluates through the same programs. -/
theorem Registry.withDefaults_compilesFaithfully : Registry.withDefaults.CompilesFaithfully := by
  intro language backend compile known offered text bindings
  obtain rfl := eq_of_resolve_withDefaults known
  cases offered
  exact Cel.Program.runtime.eval_scriptBackend text bindings

namespace Evaluator

variable {ev : Evaluator} {registry : Registry} {language : String} {e : Expression} {context : Context}

/-- The same evaluator, with scripts compiled or not. -/
def withCompilation (ev : Evaluator) (compiles : Bool) : Evaluator := { ev with compileScripts := compiles }

theorem compiler?_true (backend : ScriptBackend) :
    (ev.withCompilation true).compiler? backend = backend.compile? := rfl

theorem compiler?_false (backend : ScriptBackend) :
    (ev.withCompilation false).compiler? backend = none := rfl

/-- On empty slots, a faithful backend answers a script the same way compiled and directly. -/
theorem evaluateScript_fresh_outcome_withCompilation (faithful : registry.CompilesFaithfully)
    (text : String) :
    ((ev.withCompilation true).evaluateScript registry language text e.fresh context).outcome =
      ((ev.withCompilation false).evaluateScript registry language text e.fresh context).outcome := by
  cases known : registry.resolve language with
  | none => rw [evaluateScript_of_unknown known, evaluateScript_of_unknown known]
  | some backend =>
      rw [evaluateScript_of_known known, evaluateScript_of_known known,
        evaluateWith_direct (compiler?_false backend)]
      cases offered : backend.compile? with
      | none => rw [evaluateWith_direct ((compiler?_true backend).trans offered)]; rfl
      | some compile =>
          have meaning := faithful language backend compile known offered
          rw [evaluateWith_outcome_compiled ((compiler?_true backend).trans offered),
            Expression.fresh_scriptSlot, Slot.getOrInstall_outcome_of_missing Slot.get?_empty,
            ← meaning]
          rfl

theorem evaluateIn_fresh_outcome_withCompilation (faithful : registry.CompilesFaithfully) :
    ((ev.withCompilation true).evaluateIn registry language e.fresh context).outcome =
      ((ev.withCompilation false).evaluateIn registry language e.fresh context).outcome := by
  cases present : e.fresh.text? with
  | none => rw [evaluateIn_of_no_text present, evaluateIn_of_no_text present]
  | some text =>
      cases classEq : LanguageClass.of language with
      | error cause =>
          rw [evaluateIn_of_class_error present classEq, evaluateIn_of_class_error present classEq]
      | ok selected =>
          cases selected with
          | formula => rw [evaluateIn_formula present classEq, evaluateIn_formula present classEq]; rfl
          | interpolated =>
              obtain rfl := LanguageClass.of_eq_interpolated_iff.mp classEq
              obtain ⟨resolved, resolvedEq⟩ :=
                Expression.exists_textFor_of_text LanguageClass.interpolatedName present
              rw [evaluateIn_interpolated resolvedEq, evaluateIn_interpolated resolvedEq]
              rfl
          | script other =>
              obtain rfl := LanguageClass.eq_of_of_eq_script classEq
              rw [evaluateIn_script present classEq, evaluateIn_script present classEq]
              exact evaluateScript_fresh_outcome_withCompilation faithful text

/-- Without compilation no script slot is filled. -/
theorem evaluateIn_scriptSlot_direct (direct : ev.compileScripts = false) :
    (ev.evaluateIn registry language e context).expression.scriptSlot = e.scriptSlot := by
  rcases ev.evaluateIn_expression_cases registry language e context with
    kept | ⟨-, -, text, parsed, -, -, filled⟩ | ⟨-, -, text, backend, compile, artifact, -, -, offered, -⟩
  · rw [kept]
  · rw [filled]
  · simp [compiler?, direct] at offered

end Evaluator

namespace Session

variable {s : Session} {call : Call}

/-!
### A run of evaluations answers as if every expression were fresh

While the registry does not change, whatever is in the slots is what would be made again. So a run of
evaluations has a description without any state: every call is answered on its own.
-/

/-- The slots of all expressions agree with the evaluator and the registry. -/
def Current (s : Session) : Prop :=
  ∀ name, s.evaluator.ParsedCurrent (s.expression name) ∧
    s.evaluator.ScriptCurrent s.registry (s.expression name)

/-- The evaluation that answers a call if its expression has empty slots. -/
def freshAnswer (s : Session) (call : Call) : Evaluation :=
  s.evaluator.evaluateIn s.registry (s.languageFor call.name call.language)
    (s.expression call.name).fresh call.context

theorem Fresh.current (fresh : s.Fresh) : s.Current := by
  intro name
  rw [← fresh name]
  exact ⟨.fresh, .fresh⟩

theorem Current.after_evaluate (current : s.Current) (call : Call) : (s.after (.evaluate call)).Current := by
  intro name
  rw [evaluator_after, registry_after_evaluate]
  rcases s.expression_after_cases (.evaluate call) name with kept | ⟨other, -, rfl, evaluated⟩
  · rw [kept]
    exact current name
  · rw [evaluated, answer_eq]
    exact ⟨(current other.name).1.evaluateIn rfl, (current other.name).2.evaluateIn⟩

theorem Current.answer_outcome (current : s.Current) (call : Call) :
    (s.answer call).outcome = (s.freshAnswer call).outcome :=
  Evaluator.evaluateIn_outcome_eq_fresh (current call.name).1 fun _ => (current call.name).2.agrees _

theorem freshAnswer_after_evaluate (s : Session) (call other : Call) :
    (s.after (.evaluate call)).freshAnswer other = s.freshAnswer other := by
  simp only [freshAnswer, evaluator_after, registry_after_evaluate, languageFor_after,
    (s.evolves_after (.evaluate call) other.name).fresh_eq]

theorem outcomes_eq_fresh (current : s.Current) (calls : List Call) :
    (s.evaluations (calls.map .evaluate)).map (·.outcome) =
      calls.map fun call => (s.freshAnswer call).outcome := by
  induction calls generalizing s with
  | nil => rfl
  | cons call rest inductionHypothesis =>
      simp only [List.map_cons, evaluations, current.answer_outcome call,
        inductionHypothesis (current.after_evaluate call), freshAnswer_after_evaluate]

/-!
### Compiling does not show
-/

/-- The same session, with scripts compiled or not. -/
def withCompilation (s : Session) (compiles : Bool) : Session :=
  { s with evaluator := s.evaluator.withCompilation compiles }

theorem scriptSlot_afterAll_direct (direct : s.evaluator.compileScripts = false) (events : List Event)
    (name : String) :
    ((s.afterAll events).expression name).scriptSlot = (s.expression name).scriptSlot := by
  induction events generalizing s with
  | nil => rfl
  | cons event rest inductionHypothesis =>
      have still : (s.after event).evaluator.compileScripts = false := by rw [evaluator_after, direct]
      refine (inductionHypothesis still).trans ?_
      rcases s.expression_after_cases event name with kept | ⟨call, -, rfl, evaluated⟩
      · rw [kept]
      · rw [evaluated, answer_eq]
        exact Evaluator.evaluateIn_scriptSlot_direct direct

/-- A run of evaluations of fresh expressions has the same outcomes whether scripts are compiled or not, if
every backend of the registry compiles faithfully. If they are not compiled, no script is ever kept. -/
theorem outcomes_unchanged_by_compilation (s : Session) (fresh : s.Fresh)
    (faithful : s.registry.CompilesFaithfully) (calls : List Call) :
    ((s.withCompilation true).evaluations (calls.map .evaluate)).map (·.outcome) =
        ((s.withCompilation false).evaluations (calls.map .evaluate)).map (·.outcome) ∧
      ∀ earlier, earlier <+: calls → ∀ name,
        (((s.withCompilation false).afterAll (earlier.map .evaluate)).expression name).scriptSlot =
          Slot.empty := by
  have compiledFresh : (s.withCompilation true).Fresh := fresh
  have directFresh : (s.withCompilation false).Fresh := fresh
  constructor
  · rw [outcomes_eq_fresh compiledFresh.current, outcomes_eq_fresh directFresh.current]
    apply List.map_congr_left
    intro call _
    exact Evaluator.evaluateIn_fresh_outcome_withCompilation faithful
  · intro earlier _ name
    rw [scriptSlot_afterAll_direct rfl, ← directFresh name, Expression.fresh_scriptSlot]

/-- Calls of the script in its own language, in another spelling of it, as interpolated text, and in no
language. -/
def celCalls : List Call :=
  [⟨"sum", none, Context.empty⟩, ⟨"sum", some "CEL", Context.single "a" (.bool true)⟩,
    ⟨"sum", some "juel", Context.empty⟩, ⟨"sum", some "", Context.empty⟩, ⟨"sum", none, Context.empty⟩]

theorem outcomes_unchanged_by_compilation_cel :
    celSession.Fresh ∧ celSession.registry.CompilesFaithfully ∧
      ((celSession.withCompilation true).evaluations (celCalls.map .evaluate)).map (·.outcome) =
        ((celSession.withCompilation false).evaluations (celCalls.map .evaluate)).map (·.outcome) :=
  ⟨celSession_fresh, Registry.withDefaults_compilesFaithfully,
    (outcomes_unchanged_by_compilation celSession celSession_fresh
      Registry.withDefaults_compilesFaithfully celCalls).1⟩

end Session

end DecisionEval
