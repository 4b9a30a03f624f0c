/-
Module: DecisionEval.Proofs.Racing
Purpose: Evaluations of one expression that race for its slots end as each of them does alone, in whatever
  order their steps come, and what they have called when all of them are finished does not depend on it.
Main exports: Race.Through, Race.Invariant, Race.invariant_of_after, Race.rank, Race.OrderFree,
  Race.orderFree_of_after
-/
import Mathlib.Algebra.Order.BigOperators.Group.Finset
import DecisionEval.Proofs.EvaluationPlan
import DecisionEval.Proofs.SlotTally

namespace DecisionEval.Race

variable {ι α : Type}

/-!
### A race through one slot

The evaluations of a plan meet at one slot at most. What is known of them is the same for both slots.
-/

/-- What is known of an evaluation that has come so far, where the plan leads through the slot. -/
def KnownAt (finish : Context → Outcome BackendError α → Outcome EvaluationError (Option Json))
    (contexts : ι → Context) (shared : Slot.Shared ι BackendError α) (thread : ι) : Progress → Prop
  | .start => shared.stage thread = .start
  | .asking => True
  | .finished outcome => ∃ answer, shared.stage thread = .done answer ∧
      outcome = finish (contexts thread) answer

variable [DecidableEq ι]

/-- The slot is used as its threads would use it anyway, and every evaluation has come as far as its thread
at the slot allows. -/
structure Through (request : Slot.Request BackendError α)
    (finish : Context → Outcome BackendError α → Outcome EvaluationError (Option Json))
    (contexts : ι → Context) (shared : Slot.Shared ι BackendError α) (progress : ι → Progress) :
    Prop where
  reachable : Slot.Reachable (fun _ => request) shared
  known : ∀ thread, KnownAt finish contexts shared thread (progress thread)

section Through

variable {request : Slot.Request BackendError α}
  {finish : Context → Outcome BackendError α → Outcome EvaluationError (Option Json)}
  {contexts : ι → Context} {shared after : Slot.Shared ι BackendError α} {progress : ι → Progress}
  {thread : ι}

omit [DecidableEq ι] in
theorem KnownAt.congr {reached : Progress} (known : KnownAt finish contexts shared thread reached)
    (stageEq : after.stage thread = shared.stage thread) :
    KnownAt finish contexts after thread reached := by
  cases reached with
  | start => exact stageEq.trans known
  | asking => trivial
  | finished outcome =>
      obtain ⟨answer, answerEq, outcomeEq⟩ := known
      exact ⟨answer, stageEq.trans answerEq, outcomeEq⟩

theorem through_initial :
    Through request finish contexts Slot.Shared.initial (fun _ => Progress.start) where
  reachable := .initial
  known _ := rfl

/-- An evaluation goes on to what is known of it. -/
theorem Through.advance (through : Through request finish contexts shared progress) {next : Progress}
    (own : KnownAt finish contexts shared thread next) :
    Through request finish contexts shared
      (fun other => if other = thread then next else progress other) where
  reachable := through.reachable
  known other := by
    by_cases moves : other = thread
    · rw [if_pos moves, moves]
      exact own
    · rw [if_neg moves]
      exact through.known other

/-- A step at the slot moves a thread that is asking, so nothing else that is known depends on it. -/
theorem Through.use (through : Through request finish contexts shared progress)
    (step : Slot.Step (fun _ => request) shared after) (only : OnlyAsking progress shared after) :
    Through request finish contexts after progress where
  reachable := .step through.reachable step
  known other := by
    have known := through.known other
    by_cases moves : after.stage other = shared.stage other
    · exact known.congr moves
    · rw [only other moves]
      trivial

/-- An evaluation is answered with the outcome of the compilation, whoever has compiled. -/
theorem Through.outcome_eq (through : Through request finish contexts shared progress)
    {outcome : Outcome EvaluationError (Option Json)} (reached : progress thread = .finished outcome) :
    outcome = finish (contexts thread) request.compilation := by
  have known := through.known thread
  rw [reached] at known
  obtain ⟨answer, stageEq, rfl⟩ := known
  rw [(Slot.invariant_of_reachable through.reachable).answer_eq stageEq]

/-- An evaluation that is asking has its answer, or some evaluation can take a step at the slot. -/
theorem Through.answered_or_exists_use (through : Through request finish contexts shared progress)
    (reached : progress thread = .asking) :
    (∃ answer, shared.stage thread = .done answer) ∨
      ∃ after, Slot.Step (fun _ => request) shared after ∧ OnlyAsking progress shared after := by
  by_cases answered : ∃ answer, shared.stage thread = .done answer
  · exact Or.inl answered
  · right
    obtain ⟨mover, after, mine, step, alone⟩ :=
      (Slot.invariant_of_reachable through.reachable).exists_own_step (not_exists.mp answered)
    refine ⟨after, step, fun other moves => ?_⟩
    have moverEq : other = mover := by
      by_contra distinct
      exact moves (alone other distinct)
    rw [moverEq]
    rcases mine with rfl | held
    · exact reached
    · -- A thread that holds the lock has started, and has no answer yet.
      have known := through.known mover
      cases moverReached : progress mover with
      | asking => rfl
      | start =>
          rw [moverReached] at known
          simp [show shared.stage mover = .start from known, Slot.Stage.holdsLock] at held
      | finished outcome =>
          rw [moverReached] at known
          obtain ⟨answer, stageEq, -⟩ := known
          simp [stageEq, Slot.Stage.holdsLock] at held

theorem Through.tally [Fintype ι] [Nonempty ι]
    (through : Through request finish contexts shared progress)
    (finished : ∀ thread, ∃ outcome, progress thread = .finished outcome) :
    Slot.Tally shared request.language request.compilation (Fintype.card ι) := by
  refine Slot.tally_of_done through.reachable fun thread => ?_
  obtain ⟨outcome, reached⟩ := finished thread
  have known := through.known thread
  rw [reached] at known
  obtain ⟨answer, stageEq, -⟩ := known
  exact ⟨answer, stageEq⟩

end Through

/-!
### A race
-/

/-- What is known of the two slots and of the evaluations that a plan leads to them. A slot that the plan
does not lead to is as it was. -/
def SlotsKnown (contexts : ι → Context) (race : Race ι) : Plan → Prop
  | .direct _ outcome => race.parsed = Slot.Shared.initial ∧ race.script = Slot.Shared.initial ∧
      ∀ thread, race.progress thread = .start ∨
        race.progress thread = .finished (outcome (contexts thread))
  | .parsed request finish =>
    Through request finish contexts race.parsed race.progress ∧ race.script = Slot.Shared.initial
  | .script request finish =>
    Through request finish contexts race.script race.progress ∧ race.parsed = Slot.Shared.initial

/-- What holds in every state of a race: the two slots are used as planned, and bindings have been created
once by each evaluation that has started, if the plan says so. -/
structure Invariant (plan : Plan) (contexts : ι → Context) (race : Race ι) : Prop where
  slots : SlotsKnown contexts race plan
  boundOnce : race.bound.Nodup
  bound_iff : ∀ thread, thread ∈ race.bound ↔ plan.binds = true ∧ race.progress thread ≠ .start

section Steps

variable {plan : Plan} {contexts : ι → Context} {race next : Race ι} {thread : ι}

theorem invariant_initial (plan : Plan) (contexts : ι → Context) : Invariant plan contexts initial where
  slots := by
    cases plan with
    | direct binds outcome => exact ⟨rfl, rfl, fun _ => Or.inl rfl⟩
    | parsed request finish => exact ⟨through_initial, rfl⟩
    | script request finish => exact ⟨through_initial, rfl⟩
  boundOnce := List.nodup_nil
  bound_iff thread := by simp [initial]

omit [DecidableEq ι] in
theorem first_ne_start (plan : Plan) (context : Context) : plan.first context ≠ .start := by
  cases plan <;> simp [Plan.first]

@[simp] theorem advance_progress_self {progress : Progress} :
    (race.advance thread progress).progress thread = progress := by
  simp [advance]

@[simp] theorem advance_progress_of_ne {progress : Progress} {other : ι} (distinct : other ≠ thread) :
    (race.advance thread progress).progress other = race.progress other := by
  simp [advance, distinct]

@[simp] theorem advance_bound {progress : Progress} :
    (race.advance thread progress).bound = race.bound := rfl

@[simp] theorem enter_bound {context : Context} :
    (race.enter plan thread context).bound =
      if plan.binds then thread :: race.bound else race.bound := rfl

@[simp] theorem enter_progress_self {context : Context} :
    (race.enter plan thread context).progress thread = plan.first context :=
  advance_progress_self

@[simp] theorem enter_progress_of_ne {context : Context} {other : ι} (distinct : other ≠ thread) :
    (race.enter plan thread context).progress other = race.progress other :=
  advance_progress_of_ne distinct

theorem slotsKnown_enter (slots : SlotsKnown contexts race plan) :
    SlotsKnown contexts (race.enter plan thread (contexts thread)) plan := by
  cases plan with
  | direct binds outcome =>
      obtain ⟨parsedEq, scriptEq, known⟩ := slots
      refine ⟨parsedEq, scriptEq, fun other => ?_⟩
      by_cases moves : other = thread
      · exact Or.inr (by rw [moves, enter_progress_self, Plan.first])
      · rw [enter_progress_of_ne moves]
        exact known other
  | parsed request finish => exact ⟨slots.1.advance trivial, slots.2⟩
  | script request finish => exact ⟨slots.1.advance trivial, slots.2⟩

/-- The first step of an evaluation, which is the one that creates bindings. -/
theorem Invariant.enter (invariant : Invariant plan contexts race)
    (reached : race.progress thread = .start) :
    Invariant plan contexts (race.enter plan thread (contexts thread)) where
  slots := slotsKnown_enter invariant.slots
  boundOnce := by
    have unbound : thread ∉ race.bound := fun member =>
      ((invariant.bound_iff thread).mp member).2 reached
    cases binds : plan.binds with
    | false => simpa [binds] using invariant.boundOnce
    | true => simpa [binds] using ⟨unbound, invariant.boundOnce⟩
  bound_iff other := by
    have bound := invariant.bound_iff other
    by_cases moves : other = thread
    · subst moves
      cases binds : plan.binds <;> simp_all [first_ne_start]
    · cases binds : plan.binds <;> simp_all

/-- A step that finishes an evaluation, which has created its bindings before. -/
theorem Invariant.finish (invariant : Invariant plan contexts race)
    (reached : race.progress thread = .asking) {outcome : Outcome EvaluationError (Option Json)}
    (slots : SlotsKnown contexts (race.advance thread (.finished outcome)) plan) :
    Invariant plan contexts (race.advance thread (.finished outcome)) where
  slots := slots
  boundOnce := invariant.boundOnce
  bound_iff other := by
    have bound := invariant.bound_iff other
    by_cases moves : other = thread
    · subst moves
      rw [advance_progress_self]
      simpa [reached] using bound
    · rwa [advance_progress_of_ne moves]

theorem Invariant.step (invariant : Invariant plan contexts race) (step : Step plan contexts race next) :
    Invariant plan contexts next := by
  cases step with
  | enter reached => exact invariant.enter reached
  | useParsed planEq step only =>
      subst planEq
      obtain ⟨through, untouched⟩ := invariant.slots
      exact ⟨⟨through.use step only, untouched⟩, invariant.boundOnce, invariant.bound_iff⟩
  | useScript planEq step only =>
      subst planEq
      obtain ⟨through, untouched⟩ := invariant.slots
      exact ⟨⟨through.use step only, untouched⟩, invariant.boundOnce, invariant.bound_iff⟩
  | finishParsed planEq reached stageEq =>
      subst planEq
      obtain ⟨through, untouched⟩ := invariant.slots
      exact invariant.finish reached ⟨through.advance ⟨_, stageEq, rfl⟩, untouched⟩
  | finishScript planEq reached stageEq =>
      subst planEq
      obtain ⟨through, untouched⟩ := invariant.slots
      exact invariant.finish reached ⟨through.advance ⟨_, stageEq, rfl⟩, untouched⟩

theorem invariant_of_after {steps : Nat} (run : After plan contexts steps race) :
    Invariant plan contexts race := by
  induction run with
  | initial => exact invariant_initial plan contexts
  | step _ step inductionHypothesis => exact inductionHypothesis.step step

/-- No deadlock: while an evaluation is unfinished, some evaluation can take a step. -/
theorem Invariant.exists_step (invariant : Invariant plan contexts race)
    (unfinished : ∀ outcome, race.progress thread ≠ .finished outcome) :
    ∃ next, Step plan contexts race next := by
  have slots := invariant.slots
  cases reached : race.progress thread with
  | start => exact ⟨_, .enter reached⟩
  | finished outcome => exact absurd reached (unfinished outcome)
  | asking =>
      cases plan with
      | direct binds outcome =>
          obtain ⟨-, -, known⟩ := slots
          simpa [reached] using known thread
      | parsed request finish =>
          rcases slots.1.answered_or_exists_use reached with ⟨answer, stageEq⟩ | ⟨after, step, only⟩
          · exact ⟨_, .finishParsed rfl reached stageEq⟩
          · exact ⟨_, .useParsed rfl step only⟩
      | script request finish =>
          rcases slots.1.answered_or_exists_use reached with ⟨answer, stageEq⟩ | ⟨after, step, only⟩
          · exact ⟨_, .finishScript rfl reached stageEq⟩
          · exact ⟨_, .useScript rfl step only⟩

/-- Every evaluation that is finished has ended as its plan does alone. -/
theorem Invariant.outcome_eq (invariant : Invariant plan contexts race)
    {outcome : Outcome EvaluationError (Option Json)} (reached : race.progress thread = .finished outcome) :
    outcome = plan.alone (contexts thread) := by
  have slots := invariant.slots
  cases plan with
  | direct binds settled =>
      obtain ⟨-, -, known⟩ := slots
      simpa [reached, Plan.alone] using known thread
  | parsed request finish => exact slots.1.outcome_eq reached
  | script request finish => exact slots.1.outcome_eq reached

theorem Invariant.length_bound [Fintype ι] (invariant : Invariant plan contexts race)
    (finished : race.Finished) (binds : plan.binds = true) : race.bound.length = Fintype.card ι := by
  refine Slot.length_eq_card invariant.boundOnce fun thread => ?_
  obtain ⟨outcome, reached⟩ := finished thread
  exact (invariant.bound_iff thread).mpr ⟨binds, by simp [reached]⟩

/-!
### How long a race takes

Every step takes one evaluation nearer to its outcome. So a race comes to its end in whatever order the
steps come.
-/

omit [DecidableEq ι] in
/-- The most steps that an evaluation has still to take. -/
def rank (plan : Plan) (race : Race ι) (thread : ι) : Nat :=
  match race.progress thread with
  | .start => 8
  | .asking =>
    match plan with
    | .direct _ _ => 0
    | .parsed _ _ => 1 + (race.parsed.stage thread).rank
    | .script _ _ => 1 + (race.script.stage thread).rank
  | .finished _ => 0

theorem rank_advance_of_ne {progress : Progress} {other : ι} (distinct : other ≠ thread) :
    rank plan (race.advance thread progress) other = rank plan race other := by
  unfold rank
  rw [advance_progress_of_ne distinct]
  rfl

theorem rank_enter_of_ne {context : Context} {other : ι} (distinct : other ≠ thread) :
    rank plan (race.enter plan thread context) other = rank plan race other :=
  rank_advance_of_ne distinct

theorem rank_enter_lt (context : Context) : rank plan (race.enter plan thread context) thread < 8 := by
  unfold rank
  rw [enter_progress_self]
  cases plan with
  | direct binds outcome => simp [Plan.first]
  | parsed request finish =>
      have below := ((race.enter (.parsed request finish) thread context).parsed.stage thread).rank_le
      simp only [Plan.first]
      omega
  | script request finish =>
      have below := ((race.enter (.script request finish) thread context).script.stage thread).rank_le
      simp only [Plan.first]
      omega

/-- A step takes one evaluation nearer to its outcome and leaves the others where they are. -/
theorem Step.exists_mover (step : Step plan contexts race next) :
    ∃ mover, rank plan next mover < rank plan race mover ∧
      ∀ other, other ≠ mover → rank plan next other = rank plan race other := by
  cases step with
  | @enter thread reached =>
      refine ⟨thread, ?_, fun other distinct => rank_enter_of_ne distinct⟩
      have rankEq : rank plan race thread = 8 := by simp only [rank, reached]
      rw [rankEq]
      exact rank_enter_lt (contexts thread)
  | useParsed planEq step only =>
      subst planEq
      obtain ⟨mover, lower, alone⟩ := step.exists_mover
      refine ⟨mover, ?_, fun other distinct => by simp only [rank, alone other distinct]⟩
      have reached : race.progress mover = .asking :=
        only mover fun same => by simp [same] at lower
      simpa only [rank, reached, Nat.add_lt_add_iff_left] using lower
  | useScript planEq step only =>
      subst planEq
      obtain ⟨mover, lower, alone⟩ := step.exists_mover
      refine ⟨mover, ?_, fun other distinct => by simp only [rank, alone other distinct]⟩
      have reached : race.progress mover = .asking :=
        only mover fun same => by simp [same] at lower
      simpa only [rank, reached, Nat.add_lt_add_iff_left] using lower
  | @finishParsed thread request finish answer planEq reached stageEq =>
      refine ⟨thread, ?_, fun other distinct => rank_advance_of_ne distinct⟩
      simp [rank, planEq, reached]
  | @finishScript thread request finish answer planEq reached stageEq =>
      refine ⟨thread, ?_, fun other distinct => rank_advance_of_ne distinct⟩
      simp [rank, planEq, reached]

/-- The steps of a race and those that it has still to take are eight for each evaluation at most. -/
theorem After.steps_le [Fintype ι] {steps : Nat} (run : After plan contexts steps race) :
    steps + ∑ thread, rank plan race thread ≤ 8 * Fintype.card ι := by
  induction run with
  | initial => simp [rank, Race.initial, Nat.mul_comm]
  | @step count before after _ step inductionHypothesis =>
      obtain ⟨mover, lower, alone⟩ := step.exists_mover
      have fewer : ∑ thread, rank plan after thread < ∑ thread, rank plan before thread := by
        refine Finset.sum_lt_sum (fun other _ => ?_) ⟨mover, Finset.mem_univ mover, lower⟩
        by_cases moves : other = mover
        · exact moves ▸ Nat.le_of_lt lower
        · exact Nat.le_of_eq (alone other moves)
      omega

end Steps

/-!
### Races do not depend on the order of their steps
-/

/-- What holds after a number of steps of a race of evaluations, in whatever order they have come.

* `bounded`, `goesOn`: every race comes to an end, and then every evaluation has its outcome.
* `outcome_eq`: an evaluation that is finished has ended as it would have alone, on a fresh expression.
* `interpolated`: evaluations of interpolated text have parsed it once if it parses, and each of them if it
  does not; the slot for parsed text is filled exactly if it parses, and the slot for scripts is empty.
* `script`: evaluations of a script that is compiled have created bindings each, and have compiled it once if
  it compiles, and each of them if it does not; the slot for scripts is filled exactly if it compiles, and
  the slot for parsed text is empty. -/
structure OrderFree {count : Nat} (ev : Evaluator) (registry : Registry) (language : String) (e : Expression)
    (contexts : Fin count → Context) (steps : Nat) (race : Race (Fin count)) : Prop where
  bounded : steps ≤ 8 * count
  goesOn : (∀ next, ¬Step (ev.plan registry language e) contexts race next) → race.Finished
  outcome_eq : ∀ thread outcome, race.progress thread = .finished outcome →
    outcome = (ev.evaluateIn registry language e.fresh (contexts thread)).outcome
  interpolated : ∀ text, e.text? = some text → language = LanguageClass.interpolatedName → race.Finished →
    Slot.Tally race.parsed language (ev.textProvider.parse (delimitedText text)) count ∧
      race.script.slot = Slot.empty
  script : ∀ text backend compile, e.text? = some text → LanguageClass.of language = .ok (.script language) →
    registry.resolve language = some backend → ev.compileScripts = true →
    backend.compile? = some compile → race.Finished →
    race.bound.length = count ∧
      Slot.Tally race.script language (compile (ev.prelude.augment text)) count ∧
      race.parsed.slot = Slot.empty

/-- Evaluations of one expression in one language, by one evaluator and with one registry, do not depend on
the order of their steps, however many they are: each ends as it does alone, and how often they call a parser
or a compiler is settled by whether it succeeds. -/
theorem orderFree_of_after {count : Nat} (ev : Evaluator) (registry : Registry) (language : String)
    (e : Expression) (contexts : Fin count → Context) {steps : Nat} {race : Race (Fin count)}
    (present : 1 ≤ count) (run : After (ev.plan registry language e) contexts steps race) :
    OrderFree ev registry language e contexts steps race := by
  have invariant := invariant_of_after run
  have threads : Nonempty (Fin count) := ⟨⟨0, present⟩⟩
  constructor
  case bounded =>
    have whole := run.steps_le
    rw [Fintype.card_fin] at whole
    omega
  case goesOn =>
    intro stuck thread
    by_contra unfinished
    obtain ⟨next, step⟩ := invariant.exists_step (not_exists.mp unfinished)
    exact stuck next step
  case outcome_eq =>
    intro thread outcome reached
    rw [invariant.outcome_eq reached, Evaluator.alone_plan]
  case interpolated =>
    rintro text written rfl finished
    have slots := invariant.slots
    obtain ⟨finish, planEq⟩ := Evaluator.plan_delimited written
    rw [planEq] at slots
    obtain ⟨through, untouched⟩ := slots
    have tally := through.tally finished
    rw [Fintype.card_fin] at tally
    exact ⟨tally, by rw [untouched]; rfl⟩
  case script =>
    intro text backend compile written classEq known enabled compilable finished
    have offered : ev.compiler? backend = some compile :=
      Evaluator.compiler?_eq_some_iff.mpr ⟨enabled, compilable⟩
    have planEq := (Evaluator.plan_served written classEq known).trans
      (Evaluator.planWith_compiled offered)
    have slots := invariant.slots
    have bound := invariant.length_bound finished (by rw [planEq]; rfl)
    rw [planEq] at slots
    obtain ⟨through, untouched⟩ := slots
    have tally := through.tally finished
    rw [Fintype.card_fin] at tally bound
    exact ⟨bound, tally, by rw [untouched]; rfl⟩

theorem After.use {request : Slot.Request BackendError ParsedText}
    {finish : Context → Outcome BackendError ParsedText → Outcome EvaluationError (Option Json)}
    {contexts : ι → Context} {steps : Nat} {race : Race ι} {after : Slot.Shared ι BackendError ParsedText}
    (run : After (.parsed request finish) contexts steps race)
    (asking : ∀ thread, race.progress thread = .asking)
    (step : Slot.Step (fun _ => request) race.parsed after) :
    After (.parsed request finish) contexts (steps + 1) { race with parsed := after } :=
  .step run (.useParsed rfl step fun thread _ => asking thread)

/-- An evaluator whose parser refuses every text. -/
def refusing : Evaluator where
  formulaEngine := BuiltIn.formulaEngine
  textProvider := ⟨fun _ => .error (.other "refused")⟩
  prelude := ⟨"", ""⟩
  compileScripts := true
  defaultLanguage := LanguageClass.formulaAlias

/-- A request that the parser refuses. -/
def refused : Slot.Request BackendError ParsedText where
  language := LanguageClass.interpolatedName
  compilation := .error (.other "refused")

/-- Two evaluations find the slot empty, and one waits for the lock while the other's text is refused. The
one that has waited tries again. -/
theorem exists_after_twoRefusals
    (finish : Context → Outcome BackendError ParsedText → Outcome EvaluationError (Option Json))
    (contexts : Fin 2 → Context) :
    ∃ race : Race (Fin 2), After (.parsed refused finish) contexts 14 race ∧ race.Finished := by
  have entered : After (.parsed refused finish) contexts 2 _ :=
    .step (.step .initial (@Step.enter _ _ _ _ _ 0 rfl)) (@Step.enter _ _ _ _ _ 1 rfl)
  have asking : ∀ thread : Fin 2, ((initial.enter (.parsed refused finish) 0 (contexts 0)).enter
      (.parsed refused finish) 1 (contexts 1)).progress thread = .asking :=
    Fin.forall_fin_two.mpr ⟨rfl, rfl⟩
  have found := (entered.use asking (@Slot.Step.findEmpty _ _ _ _ _ _ 0 rfl rfl)).use asking
    (@Slot.Step.findEmpty _ _ _ _ _ _ 1 rfl rfl)
  have locked := (found.use asking (@Slot.Step.lock _ _ _ _ _ _ 0 rfl rfl)).use asking
    (@Slot.Step.findEmptyAgain _ _ _ _ _ _ 0 rfl rfl)
  have unwound := (locked.use asking (@Slot.Step.compile _ _ _ _ _ _ 0 rfl)).use asking
    (@Slot.Step.release _ _ _ _ _ _ 0 _ rfl)
  have lockedAgain := (unwound.use asking (@Slot.Step.lock _ _ _ _ _ _ 1 rfl rfl)).use asking
    (@Slot.Step.findEmptyAgain _ _ _ _ _ _ 1 rfl rfl)
  have unwoundAgain := (lockedAgain.use asking (@Slot.Step.compile _ _ _ _ _ _ 1 rfl)).use asking
    (@Slot.Step.release _ _ _ _ _ _ 1 _ rfl)
  have finished := (unwoundAgain.step (@Step.finishParsed _ _ _ _ _ 0 _ _ _ rfl rfl rfl)).step
    (@Step.finishParsed _ _ _ _ _ 1 _ _ _ rfl rfl rfl)
  exact ⟨_, finished, Fin.forall_fin_two.mpr ⟨⟨_, rfl⟩, ⟨_, rfl⟩⟩⟩

/-- Variables for two evaluations. -/
def twoContexts : Fin 2 → Context
  | 0 => .single "a" (.bool true)
  | 1 => .empty

theorem orderFree_twoRefusals :
    ∃ race : Race (Fin 2), After (refusing.plan Registry.empty LanguageClass.interpolatedName (.ofText "a"))
      twoContexts 14 race ∧ race.Finished ∧ race.parsed.compiled.length = 2 ∧
      OrderFree refusing Registry.empty LanguageClass.interpolatedName (.ofText "a") twoContexts 14 race := by
  have written : (Expression.ofText "a").text? = some "a" := by decide
  obtain ⟨finish, planEq⟩ :=
    @Evaluator.plan_delimited refusing Registry.empty "a" (Expression.ofText "a") written
  obtain ⟨race, run, finished⟩ := exists_after_twoRefusals finish twoContexts
  have planned : After (refusing.plan Registry.empty LanguageClass.interpolatedName (.ofText "a"))
      twoContexts 14 race := planEq ▸ run
  have orderFree := orderFree_of_after refusing Registry.empty LanguageClass.interpolatedName (.ofText "a")
    twoContexts (by decide) planned
  obtain ⟨tally, -⟩ := orderFree.interpolated "a" written rfl finished
  exact ⟨race, planned, finished, (tally.failure rfl).1, orderFree⟩

end DecisionEval.Race
