/-
Module: DecisionEval.Proofs.SharedExpression
Purpose: One expression that several handlers evaluate while backends come and go: when an answer is that of
  a fresh expression, and what it is otherwise.
Main exports: Handlers, Sharing, Sharing.Reuse, Sharing.Reuse.Origin, Sharing.stale_answers,
  Sharing.AnsweredAfter, Sharing.answeredAfter_of_fresh
-/
import Mathlib.Logic.Function.Basic
import DecisionEval.Proofs.SessionRun

namespace DecisionEval

/-- Handlers that may evaluate the same expression. Each has an evaluator and a registry of script backends.
Handlers may share a registry, and they share the parser of interpolated text. -/
structure Handlers (η ρ : Type) where
  evaluator : η → Evaluator
  registry : η → ρ
  sameProvider : ∀ first second, (evaluator first).textProvider = (evaluator second).textProvider

/-- The registries as they are, and the expression that is shared. -/
structure Sharing (ρ : Type) where
  registries : ρ → Registry
  expression : Expression

namespace Sharing

variable {η ρ : Type}

/-- What can happen: a handler evaluates the expression, in a language or in the expression's own, or a
registry changes. -/
inductive Event (η ρ : Type) where
  | evaluate (handler : η) (language : Option String) (context : Context)
  | register (registry : ρ) (language : String) (backend : ScriptBackend)
  | unregister (registry : ρ) (language : String)

/-- The language of an evaluation. -/
def languageFor (handlers : Handlers η ρ) (state : Sharing ρ) (handler : η) (language : Option String) :
    String :=
  language.getD ((handlers.evaluator handler).languageOf state.expression)

/-- The evaluation of the expression by a handler. -/
def answer (handlers : Handlers η ρ) (state : Sharing ρ) (handler : η) (language : Option String)
    (context : Context) : Evaluation :=
  (handlers.evaluator handler).evaluateIn (state.registries (handlers.registry handler))
    (state.languageFor handlers handler language) state.expression context

/-- The state with empty slots. -/
def fresh (state : Sharing ρ) : Sharing ρ := { state with expression := state.expression.fresh }

variable {handlers : Handlers η ρ} {state : Sharing ρ} {handler : η} {language : Option String}

/-!
### Reuse
-/

/-- What an evaluation finds when it runs a script that is kept instead of compiling: the text of the
expression, the backend that serves the language now with its compilation, and the artifact in the slot. -/
structure Reuse (handlers : Handlers η ρ) (state : Sharing ρ) (handler : η) (language : Option String) where
  text : String
  backend : ScriptBackend
  compile : String → Outcome BackendError CompiledScript
  artifact : CompiledScript
  classEq : LanguageClass.of (state.languageFor handlers handler language) =
    .ok (.script (state.languageFor handlers handler language))
  textEq : state.expression.text? = some text
  known : (state.registries (handlers.registry handler)).resolve
    (state.languageFor handlers handler language) = some backend
  offered : (handlers.evaluator handler).compiler? backend = some compile
  found : state.expression.scriptSlot.get? (state.languageFor handlers handler language) = some artifact

/-- What compiling would give the evaluation instead. -/
def Reuse.compiledNow (reuse : Reuse handlers state handler language) : Outcome BackendError CompiledScript :=
  reuse.compile ((handlers.evaluator handler).prelude.augment reuse.text)

/-- The answer to a script whose backend compiles: what compiling or the slot gives is run on the names that
the backend makes of the context. Failures carry the text of the expression and the name of the backend. -/
def Reuse.outcomeOf (reuse : Reuse handlers state handler language) (context : Context)
    (script : Outcome BackendError CompiledScript) : Outcome EvaluationError (Option Json) :=
  Evaluator.present ((script.bind (·.run (reuse.backend.bindingsFor context))).mapError
    (.failure reuse.text reuse.backend.languageName))

/-- A reuse runs the artifact from the slot. -/
theorem Reuse.outcome (reuse : Reuse handlers state handler language) (context : Context) :
    (state.answer handlers handler language context).outcome =
      reuse.outcomeOf context (.ok reuse.artifact) := by
  rw [answer, Evaluator.evaluateIn_script reuse.textEq reuse.classEq,
    Evaluator.evaluateScript_of_known reuse.known, Evaluator.evaluateWith_outcome_compiled reuse.offered,
    Slot.getOrInstall_of_found reuse.found, reuse.textEq]
  rfl

/-- With empty slots the same evaluation compiles. -/
theorem Reuse.fresh_outcome (reuse : Reuse handlers state handler language) (context : Context) :
    (state.fresh.answer handlers handler language context).outcome =
      reuse.outcomeOf context reuse.compiledNow := by
  change ((handlers.evaluator handler).evaluateIn (state.registries (handlers.registry handler))
    (state.languageFor handlers handler language) state.expression.fresh context).outcome = _
  rw [Evaluator.evaluateIn_script (Expression.fresh_text?.trans reuse.textEq) reuse.classEq,
    Evaluator.evaluateScript_of_known reuse.known, Evaluator.evaluateWith_outcome_compiled reuse.offered,
    Expression.fresh_scriptSlot, Slot.getOrInstall_outcome_of_missing Slot.get?_empty,
    Expression.fresh_text?, reuse.textEq]
  rfl

/-!
### Runs
-/

variable [DecidableEq ρ]

/-- The state after an event. -/
def after (handlers : Handlers η ρ) (state : Sharing ρ) : Event η ρ → Sharing ρ
  | .evaluate handler language context =>
      { state with expression := (state.answer handlers handler language context).expression }
  | .register registry language backend =>
      let changed := ((state.registries registry).register language backend).2
      { state with registries := Function.update state.registries registry changed }
  | .unregister registry language =>
      let changed := ((state.registries registry).unregister language).2
      { state with registries := Function.update state.registries registry changed }

/-- The state after a run of events. -/
def afterAll (handlers : Handlers η ρ) (state : Sharing ρ) (events : List (Event η ρ)) : Sharing ρ :=
  events.foldl (after handlers) state

/-!
### An artifact can outlive what it was made from

The slot for scripts is keyed by the spelling of the language alone, and what is in it stays. The backend of
the language and the prelude in front of the script are not part of the key.
-/

/-- A backend that answers with its name and the text that it was given, compiled or not. -/
def namingBackend (name : String) : ScriptBackend where
  languageName := name
  createBindings := ∅
  eval text _ := .ok (.string (name ++ text))
  compile? := some fun text => .ok ⟨fun _ => .ok (.string (name ++ text))⟩

/-- Two handlers over one registry, with different preludes. -/
def twoHandlers : Handlers Bool Unit where
  evaluator first :=
    { formulaEngine := BuiltIn.formulaEngine
      textProvider := BuiltIn.textProvider
      prelude := ⟨if first then "first " else "second ", ""⟩
      compileScripts := true
      defaultLanguage := "feel" }
  registry _ := ()
  sameProvider _ _ := rfl

/-- A fresh expression, and a registry with one backend. -/
def namedStart : Sharing Unit where
  registries _ := (Registry.empty.register "js" (namingBackend "old ")).2
  expression := Expression.ofText "x"

/-- The first handler evaluates the expression. -/
def firstUse : List (Event Bool Unit) := [.evaluate true (some "js") Context.empty]

/-- The first handler evaluates the expression, and then its backend is replaced. -/
def replacement : List (Event Bool Unit) := firstUse ++ [.register () "js" (namingBackend "new ")]

/-- After a backend has been replaced, the next evaluation in its language still runs what the backend
before it compiled; and a handler runs a script with the prelude of the handler that compiled it. -/
theorem stale_answers :
    (¬ ((namedStart.afterAll twoHandlers replacement).answer
          twoHandlers true (some "js") Context.empty).outcome =
        ((namedStart.afterAll twoHandlers replacement).fresh.answer
          twoHandlers true (some "js") Context.empty).outcome) ∧
      ¬ ((namedStart.afterAll twoHandlers firstUse).answer
          twoHandlers false (some "js") Context.empty).outcome =
        ((namedStart.afterAll twoHandlers firstUse).fresh.answer
          twoHandlers false (some "js") Context.empty).outcome := by
  constructor
  · intro same
    have old : Outcome.ok (some (Json.string "old first x")) = .ok (some (.string "new first x")) := same
    simp at old
  · intro same
    have first : Outcome.ok (some (Json.string "old first x")) = .ok (some (.string "old second x")) :=
      same
    simp at first

/-!
### What a run keeps

An evaluation by any handler fills a slot that is empty or leaves the expression as it is, and the registries
are no part of it.
-/

/-- All that an event can do to the expression is to evaluate it, and the handlers share a parser. -/
theorem evolves_after (handlers : Handlers η ρ) (state : Sharing ρ) (event : Event η ρ) (handler : η) :
    Expression.Evolves (handlers.evaluator handler).textProvider state.expression
      (state.after handlers event).expression := by
  cases event with
  | evaluate other language context => exact .evaluateIn (handlers.sameProvider other handler) ..
  | register registry language backend => exact .refl
  | unregister registry language => exact .refl

theorem evolves_afterAll (handlers : Handlers η ρ) (state : Sharing ρ) (events : List (Event η ρ))
    (handler : η) :
    Expression.Evolves (handlers.evaluator handler).textProvider state.expression
      (state.afterAll handlers events).expression := by
  induction events generalizing state with
  | nil => exact .refl
  | cons event rest inductionHypothesis =>
      exact (state.evolves_after handlers event handler).trans (inductionHypothesis _)

/-- Where the artifact comes from: an earlier evaluation, which may be that of another handler, has filled the
slot with what the backend of the language in that handler's registry made, at that time, of the text with
that handler's prelude. -/
def Reuse.Origin (reuse : Reuse handlers state handler language) (start : Sharing ρ)
    (events : List (Event η ρ)) : Prop :=
  ∃ earlier source spelling context later backend compile,
    events = earlier ++ .evaluate source spelling context :: later ∧
    (start.afterAll handlers earlier).expression.scriptSlot = Slot.empty ∧
    (start.afterAll handlers earlier).languageFor handlers source spelling =
      state.languageFor handlers handler language ∧
    ((start.afterAll handlers earlier).registries (handlers.registry source)).resolve
      (state.languageFor handlers handler language) = some backend ∧
    (handlers.evaluator source).compiler? backend = some compile ∧
    compile ((handlers.evaluator source).prelude.augment reuse.text) = .ok reuse.artifact

/-- A script that is kept after a run from empty slots was compiled by one of the evaluations of the run. -/
theorem Reuse.origin_of_fresh {start : Sharing ρ} (fresh : start.expression.fresh = start.expression)
    {events : List (Event η ρ)} (reuse : Reuse handlers (start.afterAll handlers events) handler language) :
    reuse.Origin start events := by
  have found := Slot.get?_eq_some_iff.mp reuse.found
  have vacant : start.expression.scriptSlot.installed = none := by rw [← fresh]; rfl
  obtain ⟨earlier, event, later, split, before, filled⟩ :=
    exists_filling_transition (after handlers) (fun state => state.expression.scriptSlot.installed)
      (fun state event _ => (state.evolves_after handlers event handler).scriptSlot_stays) vacant events
      found
  cases event with
  | evaluate source spelling context =>
      obtain ⟨spelled, -, text, backend, compile, present, known, offered, made⟩ :=
        Evaluator.evaluateIn_scriptSlot_filled before filled
      have sameText : some text = some reuse.text := by
        rw [← present, ← reuse.textEq, (start.evolves_afterAll handlers events handler).text?_eq]
        exact (start.evolves_afterAll handlers earlier handler).text?_eq
      cases sameText
      exact ⟨earlier, source, spelling, context, later, backend, compile, split,
        Slot.eq_empty_of_installed before, spelled, known, offered, made⟩
  | register registry language backend => cases before.symm.trans filled
  | unregister registry language => cases before.symm.trans filled

/-- What an evaluation answers after a run of events. Unless it reuses a script, or if compiling would now
give the same script, it answers as if the expression were fresh. A reuse runs what is kept, and what is
kept has its origin in the run. -/
structure AnsweredAfter (handlers : Handlers η ρ) (start : Sharing ρ) (events : List (Event η ρ))
    (handler : η) (language : Option String) (context : Context) : Prop where
  fresh :
    (∀ reuse : Reuse handlers (start.afterAll handlers events) handler language,
      reuse.compiledNow = .ok reuse.artifact) →
    ((start.afterAll handlers events).answer handlers handler language context).outcome =
      ((start.afterAll handlers events).fresh.answer handlers handler language context).outcome
  reused : ∀ reuse : Reuse handlers (start.afterAll handlers events) handler language,
    ((start.afterAll handlers events).answer handlers handler language context).outcome =
        reuse.outcomeOf context (.ok reuse.artifact) ∧
      ((start.afterAll handlers events).fresh.answer handlers handler language context).outcome =
        reuse.outcomeOf context reuse.compiledNow
  origin : ∀ reuse : Reuse handlers (start.afterAll handlers events) handler language,
    reuse.Origin start events

/-- However handlers evaluate an expression and registries change, an answer is that of a fresh expression,
except where a script that is kept for the language is run instead of compiled. -/
theorem answeredAfter_of_fresh (handlers : Handlers η ρ) (start : Sharing ρ)
    (fresh : start.expression.fresh = start.expression) (events : List (Event η ρ)) (handler : η)
    (language : Option String) (context : Context) :
    AnsweredAfter handlers start events handler language context := by
  constructor
  case fresh =>
    intro upToDate
    have current : (handlers.evaluator handler).ParsedCurrent
        (start.afterAll handlers events).expression := by
      apply (start.evolves_afterAll handlers events handler).parsedCurrent rfl
      rw [← fresh]
      exact .fresh
    apply Evaluator.evaluateIn_outcome_eq_fresh current
    intro classEq text backend compile artifact textEq known offered found
    exact upToDate ⟨text, backend, compile, artifact, classEq, textEq, known, offered, found⟩
  case reused => exact fun reuse => ⟨reuse.outcome context, reuse.fresh_outcome context⟩
  case origin => exact fun reuse => reuse.origin_of_fresh fresh

/-- The second handler evaluates after the backend has been replaced. It reuses what the first handler had
compiled, so this is not the answer of a fresh expression. -/
theorem answeredAfter_replacement :
    namedStart.expression.fresh = namedStart.expression ∧
      Nonempty (Reuse twoHandlers (namedStart.afterAll twoHandlers replacement) false (some "js")) ∧
      AnsweredAfter twoHandlers namedStart replacement false (some "js") Context.empty := by
  refine ⟨rfl, ?_, answeredAfter_of_fresh twoHandlers namedStart rfl replacement false (some "js")
    Context.empty⟩
  exact ⟨{
    text := "x"
    backend := namingBackend "new "
    compile := fun text => .ok ⟨fun _ => .ok (.string ("new " ++ text))⟩
    artifact := ⟨fun _ => .ok (.string "old first x")⟩
    classEq := rfl
    textEq := rfl
    known := rfl
    offered := rfl
    found := rfl }⟩

end Sharing

end DecisionEval
