/-
Module: DecisionEval.Proofs.Uninterrupted
Purpose: The steps of a thread that no other thread interrupts, which come to what the use of a slot, or a
  whole evaluation, does at once.
Main exports: Slot.StepOf, Slot.Settles, Slot.settles_of_start, Race.Quiet, Race.exists_uninterrupted
-/
import DecisionEval.Proofs.EvaluationPlan
import DecisionEval.Proofs.InstallOnce

namespace DecisionEval

namespace Slot

variable {ι ε α : Type} [DecidableEq ι] {request : ι → Request ε α} {shared next : Shared ι ε α}
  {thread : ι} {slot : Slot α} {compiled : List ι} {artifact : α} {outcome : Outcome ε α}

/-!
### One thread at a slot

The stages of a thread are gone through backwards: what it comes to from a stage is what it comes to from
the stage that its next step leads to.
-/

/-- A step of one given thread. -/
def StepOf (request : ι → Request ε α) (thread : ι) (before after : Shared ι ε α) : Prop :=
  Step request before after ∧ ∀ other, other ≠ thread → after.stage other = before.stage other

/-- A thread alone comes to an answer, and leaves the lock free, the slot as given, and the given record of
the compilations. -/
def Settles (request : ι → Request ε α) (thread : ι) (shared : Shared ι ε α) (outcome : Outcome ε α)
    (slot : Slot α) (compiled : List ι) : Prop :=
  ∃ after, Relation.ReflTransGen (StepOf request thread) shared after ∧
    after.stage thread = .done outcome ∧ after.slot = slot ∧ after.compiled = compiled ∧
    after.holder = none

theorem Settles.head {moved : Shared ι ε α} {stage : Stage ε α}
    (step : Step request shared (moved.advance thread stage)) (stages : moved.stage = shared.stage)
    (settles : Settles request thread (moved.advance thread stage) outcome slot compiled) :
    Settles request thread shared outcome slot compiled := by
  obtain ⟨after, run, reached⟩ := settles
  refine ⟨after, .head ⟨step, ?_⟩ run, reached⟩
  intro other distinct
  rw [Shared.advance_stage_of_ne distinct, stages]

theorem settles_of_done (stageEq : shared.stage thread = .done outcome) (free : shared.holder = none) :
    Settles request thread shared outcome shared.slot shared.compiled :=
  ⟨shared, .refl, stageEq, rfl, rfl, free⟩

theorem settles_of_releasing (stageEq : shared.stage thread = .releasing outcome) :
    Settles request thread shared outcome shared.slot shared.compiled :=
  .head (.release stageEq) rfl (settles_of_done Shared.advance_stage_self rfl)

theorem settles_of_installing (stageEq : shared.stage thread = .installing artifact)
    (empty : shared.slot.installed = none) :
    Settles request thread shared (.ok artifact) ⟨some ⟨(request thread).language, artifact⟩⟩
      shared.compiled := by
  have slotEq : (shared.offer thread ⟨(request thread).language, artifact⟩).slot =
      ⟨some ⟨(request thread).language, artifact⟩⟩ := by
    simp [Shared.offer, afterOffer_of_empty empty]
  apply Settles.head (.install stageEq) rfl
  rw [afterOffer_of_empty empty, ← slotEq]
  exact settles_of_releasing Shared.advance_stage_self

theorem useFor_of_empty {asked : Request ε α} (empty : slot.installed = none) :
    slot.useFor asked = match asked.compilation with
      | .ok artifact => ⟨.ok artifact, ⟨some ⟨asked.language, artifact⟩⟩, true⟩
      | .error cause => ⟨.error cause, slot, true⟩
      | .fault => ⟨.fault, slot, true⟩ := by
  obtain rfl := eq_empty_of_installed empty
  rw [useFor, getOrInstall_of_missing get?_empty]
  cases asked.compilation <;> rfl

theorem settles_of_compiling (stageEq : shared.stage thread = .compiling)
    (empty : shared.slot.installed = none) :
    Settles request thread shared (shared.slot.useFor (request thread)).outcome
      (shared.slot.useFor (request thread)).slot (thread :: shared.compiled) := by
  apply Settles.head (.compile stageEq) rfl
  rw [useFor_of_empty empty]
  cases (request thread).compilation with
  | ok artifact => exact settles_of_installing Shared.advance_stage_self empty
  | error cause => exact settles_of_releasing Shared.advance_stage_self
  | fault => exact settles_of_releasing Shared.advance_stage_self

theorem settles_of_holding (stageEq : shared.stage thread = .holding)
    (empty : shared.slot.installed = none) :
    Settles request thread shared (shared.slot.useFor (request thread)).outcome
      (shared.slot.useFor (request thread)).slot (thread :: shared.compiled) := by
  apply Settles.head (.findEmptyAgain stageEq empty) rfl
  exact settles_of_compiling Shared.advance_stage_self empty

theorem settles_of_waiting (stageEq : shared.stage thread = .waiting) (free : shared.holder = none)
    (empty : shared.slot.installed = none) :
    Settles request thread shared (shared.slot.useFor (request thread)).outcome
      (shared.slot.useFor (request thread)).slot (thread :: shared.compiled) := by
  apply Settles.head (.lock stageEq free) rfl
  exact settles_of_holding Shared.advance_stage_self empty

theorem settles_of_bypassing (stageEq : shared.stage thread = .bypassing false)
    (free : shared.holder = none) :
    Settles request thread shared (request thread).compilation shared.slot (thread :: shared.compiled) :=
  .head (.bypass stageEq) rfl (settles_of_done Shared.advance_stage_self free)

/-- A thread that asks a slot alone does what the use of the slot does at once. -/
theorem settles_of_start (stageEq : shared.stage thread = .start) (free : shared.holder = none) :
    Settles request thread shared (shared.slot.useFor (request thread)).outcome
      (shared.slot.useFor (request thread)).slot
      (if (shared.slot.useFor (request thread)).compiled then thread :: shared.compiled
        else shared.compiled) := by
  cases foundEq : shared.slot.installed with
  | none =>
      have compiles : (shared.slot.useFor (request thread)).compiled = true := by
        rw [useFor_of_empty foundEq]
        cases (request thread).compilation <;> rfl
      rw [compiles, if_pos rfl]
      apply Settles.head (.findEmpty stageEq foundEq) rfl
      exact settles_of_waiting Shared.advance_stage_self free foundEq
  | some installed =>
      apply Settles.head (.findInstalled stageEq foundEq) rfl
      by_cases agree : installed.language = (request thread).language
      · have use : shared.slot.useFor (request thread) = ⟨.ok installed.artifact, shared.slot, false⟩ := by
          rw [useFor, getOrInstall_of_installed foundEq, if_pos agree]
        rw [Stage.afterFinding, if_pos agree, use]
        exact settles_of_done Shared.advance_stage_self free
      · have use : shared.slot.useFor (request thread) =
            ⟨(request thread).compilation, shared.slot, true⟩ := by
          rw [useFor, getOrInstall_of_installed foundEq, if_neg agree]
        rw [Stage.afterFinding, if_neg agree, use]
        exact settles_of_bypassing Shared.advance_stage_self free

end Slot

namespace Race

/-!
### One evaluation
-/

variable {ι α : Type} [DecidableEq ι] {ev : Evaluator} {registry : Registry} {language : String}
  {e : Expression} {contexts : ι → Context} {race : Race ι} {thread : ι}

/-- Nobody uses the slots of the expression, and an evaluation is about to start. -/
structure Quiet (e : Expression) (race : Race ι) (thread : ι) : Prop where
  started : race.progress thread = .start
  parsedStage : race.parsed.stage thread = .start
  scriptStage : race.script.stage thread = .start
  parsedFree : race.parsed.holder = none
  scriptFree : race.script.holder = none
  parsedSlot : race.parsed.slot = e.parsedSlot
  scriptSlot : race.script.slot = e.scriptSlot

omit [DecidableEq ι] in
/-- A race of evaluations of a fresh expression starts so. -/
theorem quiet_initial (e : Expression) (thread : ι) : Quiet e.fresh initial thread :=
  ⟨rfl, rfl, rfl, rfl, rfl, rfl, rfl⟩

omit [DecidableEq ι] in
theorem onlyAsking_of_alone {ε : Type} {before after : Slot.Shared ι ε α}
    (asking : race.progress thread = .asking)
    (alone : ∀ other, other ≠ thread → after.stage other = before.stage other) :
    OnlyAsking race.progress before after := by
  intro other moves
  by_cases same : other = thread
  · rw [same, asking]
  · exact absurd (alone other same) moves

/-- The steps of a thread at the slot for parsed text are steps of its evaluation. -/
theorem useParsed_of_steps {request : Slot.Request BackendError ParsedText}
    {finish : Context → Outcome BackendError ParsedText → Outcome EvaluationError (Option Json)}
    {after : Slot.Shared ι BackendError ParsedText} (asking : race.progress thread = .asking)
    (run : Relation.ReflTransGen (Slot.StepOf (fun _ => request) thread) race.parsed after) :
    Relation.ReflTransGen (Step (.parsed request finish) contexts) race { race with parsed := after } := by
  induction run with
  | refl => exact .refl
  | tail _ step inductionHypothesis =>
      exact .tail inductionHypothesis (.useParsed rfl step.1 (onlyAsking_of_alone asking step.2))

/-- The steps of a thread at the slot for scripts are steps of its evaluation. -/
theorem useScript_of_steps {request : Slot.Request BackendError CompiledScript}
    {finish : Context → Outcome BackendError CompiledScript → Outcome EvaluationError (Option Json)}
    {after : Slot.Shared ι BackendError CompiledScript} (asking : race.progress thread = .asking)
    (run : Relation.ReflTransGen (Slot.StepOf (fun _ => request) thread) race.script after) :
    Relation.ReflTransGen (Step (.script request finish) contexts) race { race with script := after } := by
  induction run with
  | refl => exact .refl
  | tail _ step inductionHypothesis =>
      exact .tail inductionHypothesis (.useScript rfl step.1 (onlyAsking_of_alone asking step.2))

/-- What an evaluation has come to that has gone through its plan alone. -/
structure CarriedOut (plan : Plan) (e : Expression) (context : Context) (after : Race ι) (thread : ι) :
    Prop where
  outcome : after.progress thread = .finished (plan.outcomeWith e context)
  parsedSlot : after.parsed.slot = (plan.expressionAfter e).parsedSlot
  scriptSlot : after.script.slot = (plan.expressionAfter e).scriptSlot

theorem exists_carriedOut (plan : Plan) (quiet : Quiet e race thread) :
    ∃ after, Relation.ReflTransGen (Step plan contexts) race after ∧
      CarriedOut plan e (contexts thread) after thread := by
  have entered : Step plan contexts race (race.enter plan thread (contexts thread)) := .enter quiet.started
  cases plan with
  | direct binds outcome =>
      refine ⟨_, .single entered, ?_, quiet.parsedSlot, quiet.scriptSlot⟩
      simp [enter, advance, Plan.first, Plan.outcomeWith]
  | parsed request finish =>
      have settles : Slot.Settles (fun _ => request) thread race.parsed _ _ _ :=
        Slot.settles_of_start quiet.parsedStage quiet.parsedFree
      obtain ⟨after, run, answerEq, slotEq, -, -⟩ := settles
      rw [quiet.parsedSlot] at answerEq slotEq
      have asking : (race.enter (.parsed request finish) thread (contexts thread)).progress thread =
          .asking := by simp [enter, advance, Plan.first]
      have used : Relation.ReflTransGen (Step (.parsed request finish) contexts) _ _ :=
        useParsed_of_steps asking run
      refine ⟨_, .tail (.head entered used) (.finishParsed rfl asking answerEq), ?_, slotEq, quiet.scriptSlot⟩
      simp [advance, Plan.outcomeWith]
  | script request finish =>
      have settles : Slot.Settles (fun _ => request) thread race.script _ _ _ :=
        Slot.settles_of_start quiet.scriptStage quiet.scriptFree
      obtain ⟨after, run, answerEq, slotEq, -, -⟩ := settles
      rw [quiet.scriptSlot] at answerEq slotEq
      have asking : (race.enter (.script request finish) thread (contexts thread)).progress thread =
          .asking := by simp [enter, advance, Plan.first]
      have used : Relation.ReflTransGen (Step (.script request finish) contexts) _ _ :=
        useScript_of_steps asking run
      refine ⟨_, .tail (.head entered used) (.finishScript rfl asking answerEq), ?_, quiet.parsedSlot, slotEq⟩
      simp [advance, Plan.outcomeWith]

/-- An evaluation that nobody interrupts does step by step what it does at once. -/
theorem exists_uninterrupted (quiet : Quiet e race thread) :
    ∃ after, Relation.ReflTransGen (Step (ev.plan registry language e) contexts) race after ∧
      after.progress thread =
        .finished (ev.evaluateIn registry language e (contexts thread)).outcome ∧
      after.parsed.slot = (ev.evaluateIn registry language e (contexts thread)).expression.parsedSlot ∧
      after.script.slot = (ev.evaluateIn registry language e (contexts thread)).expression.scriptSlot := by
  obtain ⟨outcomeEq, expressionEq⟩ := ev.atOnce_plan registry language e (contexts thread)
  obtain ⟨after, run, outcome, parsedSlot, scriptSlot⟩ :=
    exists_carriedOut (ev.plan registry language e) quiet
  rw [outcomeEq] at outcome
  rw [expressionEq] at parsedSlot scriptSlot
  exact ⟨after, run, outcome, parsedSlot, scriptSlot⟩

end Race

end DecisionEval
