/-
Module: DecisionEval.Race
Purpose: Several evaluations of one expression at once, step by step: what each of them does before and after
  it uses a slot, in whatever order their steps come.
Main exports: Plan, Evaluator.plan, Race, Race.Step, Race.After
-/
import DecisionEval.Evaluator
import DecisionEval.Slot.Interleaving

namespace DecisionEval

/-!
### Plans

Before an evaluation uses a slot, nothing but its evaluator, its language and the text decides what it does;
the variables come in when there is something to evaluate. So the evaluations of an expression in one
language have one plan.
-/

/-- What the evaluations of an expression in one language do. They come by an outcome without a slot, and
    create the bindings of a script first or not; or they ask the slot for parsed text or the one for scripts
    for an artifact, and go on with the answer. A plan that asks for a script creates its bindings first. -/
inductive Plan where
  | direct (binds : Bool) (outcome : Context → Outcome EvaluationError (Option Json))
  | parsed (request : Slot.Request BackendError ParsedText)
      (finish : Context → Outcome BackendError ParsedText → Outcome EvaluationError (Option Json))
  | script (request : Slot.Request BackendError CompiledScript)
      (finish : Context → Outcome BackendError CompiledScript → Outcome EvaluationError (Option Json))

/-- Whether an evaluation starts with the creation of bindings. -/
def Plan.binds : Plan → Bool
  | .direct binds _ => binds
  | .parsed _ _ => false
  | .script _ _ => true

namespace Evaluator

/-- The plan for a script and a backend. -/
def planWith (ev : Evaluator) (backend : ScriptBackend) (language text : String) (e : Expression) : Plan :=
  let bindings (context : Context) := (Bindings.wrap backend.createBindings context).withContext
  let fail := EvaluationError.failure (e.text?.getD text) backend.languageName
  let script := ev.prelude.augment text
  match (if ev.compileScripts then backend.compile? else none) with
  | some compile =>
    .script ⟨language, compile script⟩ fun context answer =>
      present ((answer.bind (·.run (bindings context))).mapError fail)
  | none => .direct true fun context => present ((backend.eval script (bindings context)).mapError fail)

/-- The plan for an expression in a language. -/
def plan (ev : Evaluator) (registry : Registry) (language : String) (e : Expression) : Plan :=
  match e.textFor language with
  | none => .direct false fun _ => .ok none
  | some text =>
    match LanguageClass.of language with
    | .error cause => .direct false fun _ => .error cause
    | .ok .formula =>
      .direct false fun context => present ((ev.formulaEngine.evaluate text context).mapError .formula)
    | .ok .interpolated =>
      .parsed ⟨language, ev.textProvider.parse text⟩ fun context answer =>
        present ((answer.bind (·.value context)).mapError (.failure (e.text?.getD text) language))
    | .ok (.script language) =>
      match registry.resolve language with
      | none => .direct false fun _ => .error (.noBackend language)
      | some backend => ev.planWith backend language text e

end Evaluator

/-!
### Races

A thread makes one evaluation. Its first step leads it to a slot, or to its outcome where no slot is used.
Its next steps are those of a thread at that slot; the last one evaluates the artifact that it was answered
with, when it has let go of the slot.
-/

/-- How far an evaluation has come. -/
inductive Progress where
  | start
  | asking
  | finished (outcome : Outcome EvaluationError (Option Json))

/-- How far an evaluation comes with its first step. -/
def Plan.first (context : Context) : Plan → Progress
  | .direct _ outcome => .finished (outcome context)
  | .parsed _ _ => .asking
  | .script _ _ => .asking

/-- What the evaluations share, how far each of them has come, and which of them have created bindings, the
    last one first. The two slots are those of the expression. -/
structure Race (ι : Type) where
  parsed : Slot.Shared ι BackendError ParsedText
  script : Slot.Shared ι BackendError CompiledScript
  progress : ι → Progress
  bound : List ι

namespace Race

variable {ι : Type}

/-- Nothing has happened yet, and both slots are empty. -/
def initial : Race ι := ⟨Slot.Shared.initial, Slot.Shared.initial, fun _ => .start, []⟩

/-- Every evaluation has its outcome. -/
def Finished (race : Race ι) : Prop := ∀ thread, ∃ outcome, race.progress thread = .finished outcome

/-- At a slot nobody but the threads that are asking moves. -/
def OnlyAsking {ε α : Type} (progress : ι → Progress) (before after : Slot.Shared ι ε α) : Prop :=
  ∀ thread, after.stage thread ≠ before.stage thread → progress thread = .asking

section Steps

variable [DecidableEq ι]

/-- One evaluation has come further. -/
def advance (race : Race ι) (thread : ι) (progress : Progress) : Race ι :=
  { race with progress := fun other => if other = thread then progress else race.progress other }

/-- The first step of an evaluation. -/
def enter (race : Race ι) (plan : Plan) (thread : ι) (context : Context) : Race ι :=
  { race with bound := if plan.binds then thread :: race.bound else race.bound }.advance thread
    (plan.first context)

/-- One step of one evaluation. -/
inductive Step (plan : Plan) (contexts : ι → Context) : Race ι → Race ι → Prop where
  | enter {race : Race ι} {thread : ι} :
      race.progress thread = .start →
      Step plan contexts race (race.enter plan thread (contexts thread))
  | useParsed {race : Race ι} {request : Slot.Request BackendError ParsedText}
      {finish : Context → Outcome BackendError ParsedText → Outcome EvaluationError (Option Json)}
      {after : Slot.Shared ι BackendError ParsedText} :
      plan = .parsed request finish → Slot.Step (fun _ => request) race.parsed after →
      OnlyAsking race.progress race.parsed after →
      Step plan contexts race { race with parsed := after }
  | useScript {race : Race ι} {request : Slot.Request BackendError CompiledScript}
      {finish : Context → Outcome BackendError CompiledScript → Outcome EvaluationError (Option Json)}
      {after : Slot.Shared ι BackendError CompiledScript} :
      plan = .script request finish → Slot.Step (fun _ => request) race.script after →
      OnlyAsking race.progress race.script after →
      Step plan contexts race { race with script := after }
  | finishParsed {race : Race ι} {thread : ι} {request : Slot.Request BackendError ParsedText}
      {finish : Context → Outcome BackendError ParsedText → Outcome EvaluationError (Option Json)}
      {answer : Outcome BackendError ParsedText} :
      plan = .parsed request finish → race.progress thread = .asking →
      race.parsed.stage thread = .done answer →
      Step plan contexts race (race.advance thread (.finished (finish (contexts thread) answer)))
  | finishScript {race : Race ι} {thread : ι} {request : Slot.Request BackendError CompiledScript}
      {finish : Context → Outcome BackendError CompiledScript → Outcome EvaluationError (Option Json)}
      {answer : Outcome BackendError CompiledScript} :
      plan = .script request finish → race.progress thread = .asking →
      race.script.stage thread = .done answer →
      Step plan contexts race (race.advance thread (.finished (finish (contexts thread) answer)))

/-- The states after a number of steps, in any order of the evaluations. -/
inductive After (plan : Plan) (contexts : ι → Context) : Nat → Race ι → Prop where
  | initial : After plan contexts 0 initial
  | step {count : Nat} {before after : Race ι} :
      After plan contexts count before → Step plan contexts before after →
      After plan contexts (count + 1) after

end Steps

end Race

end DecisionEval
