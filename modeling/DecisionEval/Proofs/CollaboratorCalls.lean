/-
Module: DecisionEval.Proofs.CollaboratorCalls
Purpose: Which collaborators an evaluation calls, in which order and with what, in every state of the slots
  that evaluations lead to.
Main exports: Expression.Reached, Expression.Reached.isPopulated_eq, Evaluator.CallTable,
  Evaluator.callTable_of_reached
-/
import DecisionEval.Proofs.SessionRun

namespace DecisionEval

namespace Expression

/-- The states that evaluations bring an expression to. The slots are empty at first. Every evaluation can be
by another evaluator, with another registry, in another language and against another context. In between the
expression can be described anew; only its text is fixed. -/
inductive Reached : Expression → Prop where
  | fresh (e : Expression) : Reached e.fresh
  | evaluated (ev : Evaluator) (registry : Registry) (language : String) (context : Context)
      {e : Expression} : Reached e → Reached (ev.evaluateIn registry language e context).expression
  | described (id name language : Option String) {e : Expression} :
      Reached e → Reached { e with id, name, language }

/-- The slot for parsed text has no artifact but one for interpolated text. -/
def ParsedNamed (e : Expression) : Prop :=
  ∀ installed, e.parsedSlot.installed = some installed →
    installed.language = LanguageClass.interpolatedName

variable {e : Expression}

theorem ParsedNamed.evaluateIn (named : e.ParsedNamed) (ev : Evaluator) (registry : Registry)
    (language : String) (context : Context) :
    (ev.evaluateIn registry language e context).expression.ParsedNamed := by
  rcases ev.evaluateIn_expression_cases registry language e context with
    kept | ⟨-, -, text, parsed, -, -, filled⟩ | ⟨-, -, text, backend, compile, artifact, -, -, -, -, filled⟩
  · rw [kept]
    exact named
  · intro installed found
    rw [filled] at found
    cases found
    rfl
  · intro installed found
    rw [filled] at found
    exact named installed found

theorem Reached.parsedNamed (reached : e.Reached) : e.ParsedNamed := by
  induction reached with
  | fresh e =>
      intro installed found
      cases found
  | evaluated ev registry language context _ inductionHypothesis =>
      exact inductionHypothesis.evaluateIn ev registry language context
  | described id name language _ inductionHypothesis => exact inductionHypothesis

theorem Evolves.reached {provider : TextProvider} {later : Expression} (evolves : Evolves provider e later)
    (reached : e.Reached) : later.Reached := by
  induction evolves with
  | refl => exact reached
  | tail _ evaluated inductionHypothesis =>
      obtain ⟨ev, registry, language, e, context, -⟩ := evaluated
      exact .evaluated ev registry language context inductionHypothesis

/-- What is kept in the slot for parsed text can always be used for interpolated text. -/
theorem Reached.isPopulated_eq (reached : e.Reached) :
    e.parsedSlot.isPopulated = (e.parsedSlot.get? LanguageClass.interpolatedName).isSome := by
  cases installedEq : e.parsedSlot.installed with
  | none => simp [Slot.isPopulated, Slot.get?, installedEq]
  | some installed =>
      have named := reached.parsedNamed installed installedEq
      simp [Slot.isPopulated, Slot.get?, installedEq, named]

end Expression

/-- A run of a session takes its expressions through such states. -/
theorem Session.reached_afterAll {s : Session} (fresh : s.Fresh) (events : List Session.Event)
    (name : String) : ((s.afterAll events).expression name).Reached := by
  apply (s.evolves_afterAll events name).reached
  rw [← fresh name]
  exact .fresh _

namespace Evaluator

/-- What an evaluation calls, and what it leaves of the expression.

* `covered`: there are no other languages than those of the fields below.
* `textless`, `nameless`, `unserved`: without text, in a blank language, or in a script language that no
  backend serves, nothing is called.
* `formula`: the engine is called once, with the text as written.
* `interpolated`: the text is parsed, between delimiters unless it starts with an opening, exactly if the slot
  for parsed text is empty. If a parsed form is obtained, from the slot or now, it is evaluated once. The slot
  for scripts stays as it is.
* `compiled`: with a backend that compiles, where scripts are to be compiled, the bindings are created, the
  fragments and the text are compiled exactly if nothing is kept for the very language, and a script, if one
  is obtained, is run once. The slot for parsed text stays as it is.
* `direct`: with any other backend the bindings are created and the fragments and the text evaluated.

Only a slot that was empty is filled, and only by the path that it belongs to. -/
structure CallTable (ev : Evaluator) (registry : Registry) (language : String) (e : Expression)
    (context : Context) (evaluation : Evaluation) : Prop where
  covered : Text.isBlank language = true ∨ LanguageClass.of language = .ok .formula ∨
    language = LanguageClass.interpolatedName ∨ LanguageClass.of language = .ok (.script language)
  textless : (∀ text, e.written = some text → Text.isBlank text = true) →
    evaluation.calls = [] ∧ evaluation.expression = e
  nameless : Text.isBlank language = true → evaluation.calls = [] ∧ evaluation.expression = e
  unserved : LanguageClass.of language = .ok (.script language) → registry.resolve language = none →
    evaluation.calls = [] ∧ evaluation.expression = e
  formula : ∀ text, e.text? = some text → LanguageClass.of language = .ok .formula →
    evaluation.calls = [.formula text context] ∧ evaluation.expression = e
  interpolated : ∀ text handed obtained, e.text? = some text →
    language = LanguageClass.interpolatedName → handed = delimitedText text →
    obtained = e.parsedSlot.obtained language (ev.textProvider.parse handed) →
    evaluation.calls =
        (if e.parsedSlot.isPopulated then [] else [.parse handed]) ++
          obtained.toList.map (.parsedValue · context) ∧
      evaluation.expression = { e with parsedSlot := e.parsedSlot.filledWith language obtained }
  compiled : ∀ text script backend compile obtained, e.text? = some text →
    LanguageClass.of language = .ok (.script language) → registry.resolve language = some backend →
    ev.compileScripts = true → backend.compile? = some compile →
    script = ev.prelude.global ++ ev.prelude.application ++ text →
    obtained = e.scriptSlot.obtained language (compile script) →
    evaluation.calls =
        .createBindings backend ::
          (if (e.scriptSlot.get? language).isSome then [] else [.compile backend script]) ++
          obtained.toList.map (.runCompiled · (backend.bindingsFor context)) ∧
      evaluation.expression = { e with scriptSlot := e.scriptSlot.filledWith language obtained }
  direct : ∀ text script backend, e.text? = some text →
    LanguageClass.of language = .ok (.script language) → registry.resolve language = some backend →
    ev.compileScripts = false ∨ backend.compile? = none →
    script = ev.prelude.global ++ ev.prelude.application ++ text →
    evaluation.calls =
        [.createBindings backend, .evalScript backend script (backend.bindingsFor context)] ∧
      evaluation.expression = e

variable {ev : Evaluator} {registry : Registry} {language : String} {e : Expression} {context : Context}

theorem untouched_of_text
    (stops : ∀ text, e.text? = some text →
      ∃ outcome, ev.evaluateIn registry language e context = ⟨outcome, e, []⟩) :
    (ev.evaluateIn registry language e context).calls = [] ∧
      (ev.evaluateIn registry language e context).expression = e := by
  cases present : e.text? with
  | none =>
      rw [evaluateIn_of_no_text present]
      exact ⟨rfl, rfl⟩
  | some text =>
      obtain ⟨outcome, stopped⟩ := stops text present
      rw [stopped]
      exact ⟨rfl, rfl⟩

/-- The script of the session, once it was evaluated as interpolated text. -/
def parsedSum : Expression :=
  (Session.celSession.afterAll [.evaluate ⟨"sum", some "juel", Context.empty⟩]).expression "sum"

theorem parsedSum_reached : parsedSum.Reached := Session.reached_afterAll Session.celSession_fresh _ _

end Evaluator

end DecisionEval
