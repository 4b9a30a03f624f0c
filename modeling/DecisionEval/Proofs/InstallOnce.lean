/-
Module: DecisionEval.Proofs.InstallOnce
Purpose: Threads that share one slot install one artifact, in whatever order their steps come, and every
  request is answered from it or from the thread's own compilation.
Main exports: Slot.KnownAt, Slot.Invariant, Slot.OneArtifact, Slot.oneArtifact_of_reachable
-/
import Mathlib.Data.List.Perm.Subperm
import Mathlib.Logic.Relation
import DecisionEval.Slot.Interleaving

namespace DecisionEval.Slot

variable {ι ε α : Type}

/-!
### What is known at each stage

A stage of a thread is annotated with what the thread may rely on while it is there. The annotation speaks
of the slot and of the thread's own part in the two records only. So a step of another thread can disturb
it by filling the slot alone, and the threads for which that would matter hold the lock.
-/

/-- What is known of an outcome that a request is answered with. An artifact is the installed one if the
languages agree, and was compiled by the thread itself if they do not; a failure is that of the thread's
own compilation. A thread that compiled successfully for the installed language is the one that installed
its artifact. -/
def AnswerKnown (request : ι → Request ε α) (shared : Shared ι ε α) (thread : ι) :
    Outcome ε α → Prop
  | .ok artifact => ∃ installed, shared.slot.installed = some installed ∧
      ((installed.language = (request thread).language ∧ installed.artifact = artifact ∧
          (thread ∈ shared.compiled → thread ∈ shared.installers)) ∨
        (installed.language ≠ (request thread).language ∧ (request thread).compilation = .ok artifact))
  | .error cause => (request thread).compilation = .error cause
  | .fault => (request thread).compilation = .fault

/-- What is known while a thread is at a stage. -/
def KnownAt (request : ι → Request ε α) (shared : Shared ι ε α) (thread : ι) : Stage ε α → Prop
  | .start => thread ∉ shared.compiled
  | .waiting => thread ∉ shared.compiled
  | .holding => thread ∉ shared.compiled
  | .compiling => thread ∉ shared.compiled ∧ shared.slot.installed = none
  | .installing artifact =>
      (request thread).compilation = .ok artifact ∧ shared.slot.installed = none
  | .bypassing _ => thread ∉ shared.compiled ∧ ∃ installed, shared.slot.installed = some installed ∧
      installed.language ≠ (request thread).language
  | .releasing outcome => AnswerKnown request shared thread outcome
  | .done outcome => AnswerKnown request shared thread outcome

/-- An empty slot has been offered nothing. A filled one holds the only artifact that has been offered to
it, which its thread compiled for its own language. -/
def OriginKnown (request : ι → Request ε α) (shared : Shared ι ε α) : Prop :=
  match shared.slot.installed with
  | none => shared.installers = []
  | some installed => ∃ thread, shared.installers = [thread] ∧
      (request thread).language = installed.language ∧
      (request thread).compilation = .ok installed.artifact

/-- The lock is held by exactly the thread whose stage says so. -/
def LockKnown (shared : Shared ι ε α) : Prop :=
  ∀ thread, (shared.stage thread).holdsLock = true ↔ shared.holder = some thread

/-- What holds in every state: the lock is held by exactly the thread whose stage says so, every thread's
annotation is true, and no thread compiles twice. -/
structure Invariant (request : ι → Request ε α) (shared : Shared ι ε α) : Prop where
  lock : LockKnown shared
  known : ∀ thread, KnownAt request shared thread (shared.stage thread)
  origin : OriginKnown request shared
  compiledOnce : shared.compiled.Nodup

namespace Shared

variable [DecidableEq ι] {shared : Shared ι ε α} {thread other : ι} {stage : Stage ε α}

@[simp] theorem advance_stage_self : (shared.advance thread stage).stage thread = stage := by
  simp [advance]

@[simp] theorem advance_stage_of_ne (distinct : other ≠ thread) :
    (shared.advance thread stage).stage other = shared.stage other := by
  simp [advance, distinct]

@[simp] theorem advance_slot : (shared.advance thread stage).slot = shared.slot := rfl

@[simp] theorem advance_holder : (shared.advance thread stage).holder = shared.holder := rfl

@[simp] theorem advance_installers :
    (shared.advance thread stage).installers = shared.installers := rfl

end Shared

/-- An annotation reads the slot and the thread's own part in the records, and nothing else. -/
theorem KnownAt.congr {request : ι → Request ε α} {before after : Shared ι ε α} {thread : ι}
    {stage : Stage ε α} (known : KnownAt request before thread stage)
    (slotEq : after.slot = before.slot)
    (compiledIff : thread ∈ after.compiled ↔ thread ∈ before.compiled)
    (installersEq : after.installers = before.installers) :
    KnownAt request after thread stage := by
  cases stage with
  | releasing outcome =>
      cases outcome <;> simpa [KnownAt, AnswerKnown, slotEq, compiledIff, installersEq] using known
  | done outcome =>
      cases outcome <;> simpa [KnownAt, AnswerKnown, slotEq, compiledIff, installersEq] using known
  | _ => simpa [KnownAt, slotEq, compiledIff] using known

/-- Filling an empty slot disturbs no annotation outside the lock: a thread there either has not relied on
the slot yet, or has found it filled. -/
theorem KnownAt.of_filling {request : ι → Request ε α} {before after : Shared ι ε α} {thread : ι}
    {stage : Stage ε α} (known : KnownAt request before thread stage)
    (unlocked : stage.holdsLock = false) (empty : before.slot.installed = none)
    (compiledEq : after.compiled = before.compiled) :
    KnownAt request after thread stage := by
  cases stage with
  | start => simpa [KnownAt, compiledEq] using known
  | waiting => simpa [KnownAt, compiledEq] using known
  | holding => simp [Stage.holdsLock] at unlocked
  | compiling => simp [Stage.holdsLock] at unlocked
  | installing artifact => simp [Stage.holdsLock] at unlocked
  | releasing outcome => simp [Stage.holdsLock] at unlocked
  | bypassing locked =>
      obtain ⟨-, installed, found, -⟩ := known
      simp [empty] at found
  | done outcome =>
      cases outcome with
      | ok artifact =>
          obtain ⟨installed, found, -⟩ := known
          simp [empty] at found
      | error cause => exact known
      | fault => exact known

/-!
### The stages that steps lead to
-/

section Targets

variable {request : ι → Request ε α} {shared : Shared ι ε α} {thread : ι} {installed : Installed α}

theorem holdsLock_afterFinding (asked : Request ε α) (locked : Bool) :
    (Stage.afterFinding asked installed locked).holdsLock = locked := by
  unfold Stage.afterFinding
  split
  · cases locked <;> rfl
  · rfl

theorem holdsLock_afterCompiling (outcome : Outcome ε α) :
    (Stage.afterCompiling outcome).holdsLock = true := by
  cases outcome <;> rfl

theorem holdsLock_afterBypass (locked : Bool) (outcome : Outcome ε α) :
    (Stage.afterBypass locked outcome).holdsLock = locked := by
  cases locked <;> rfl

theorem knownAt_done {outcome : Outcome ε α} (known : KnownAt request shared thread (.releasing outcome)) :
    KnownAt request { shared with holder := none } thread (.done outcome) := by
  cases outcome <;> exact known

theorem knownAt_afterFinding (uncompiled : thread ∉ shared.compiled)
    (found : shared.slot.installed = some installed) (locked : Bool) :
    KnownAt request shared thread (.afterFinding (request thread) installed locked) := by
  unfold Stage.afterFinding
  split
  case isTrue agree =>
    have answer : AnswerKnown request shared thread (.ok installed.artifact) :=
      ⟨installed, found, Or.inl ⟨agree, rfl, fun compiled => absurd compiled uncompiled⟩⟩
    cases locked <;> exact answer
  case isFalse differ => exact ⟨uncompiled, installed, found, differ⟩

theorem knownAt_afterCompiling (empty : shared.slot.installed = none) :
    KnownAt request shared thread (.afterCompiling (request thread).compilation) := by
  cases outcomeEq : (request thread).compilation with
  | ok artifact => exact ⟨outcomeEq, empty⟩
  | error cause => exact outcomeEq
  | fault => exact outcomeEq

theorem knownAt_afterBypass (found : shared.slot.installed = some installed)
    (differ : installed.language ≠ (request thread).language) (locked : Bool) :
    KnownAt request shared thread (.afterBypass locked (request thread).compilation) := by
  have answer : AnswerKnown request shared thread (request thread).compilation := by
    cases outcomeEq : (request thread).compilation with
    | ok artifact => exact ⟨installed, found, Or.inr ⟨differ, outcomeEq⟩⟩
    | error cause => exact outcomeEq
    | fault => exact outcomeEq
  cases locked <;> exact answer

end Targets

/-!
### Every step keeps the invariant

`moved` is the state before a step with the change that the step makes to what the threads share. What is
left of the step is that one thread goes on to its next stage.
-/

section Steps

variable {request : ι → Request ε α} {shared moved : Shared ι ε α} {thread : ι} {stage : Stage ε α}

theorem lockKnown_recordCompile (lock : LockKnown shared) :
    LockKnown (shared.recordCompile thread) := lock

theorem lockKnown_offer (lock : LockKnown shared) (offered : Installed α) :
    LockKnown (shared.offer thread offered) := lock

theorem held_of_stage (stageEq : shared.stage thread = stage)
    (holds : stage.holdsLock = true) : (shared.stage thread).holdsLock = true := by
  rw [stageEq, holds]

theorem Invariant.knownAt (invariant : Invariant request shared)
    (stageEq : shared.stage thread = stage) : KnownAt request shared thread stage :=
  stageEq ▸ invariant.known thread

/-- While a thread holds the lock, no other thread does. -/
theorem LockKnown.unlocked_of_ne (lock : LockKnown shared)
    (held : (shared.stage thread).holdsLock = true) {other : ι} (distinct : other ≠ thread) :
    (shared.stage other).holdsLock = false := by
  rw [Bool.eq_false_iff]
  intro alsoHeld
  have holder : shared.holder = some thread := (lock thread).mp held
  rw [(lock other).mp alsoHeld] at holder
  exact distinct (Option.some.inj holder)

theorem knownAt_recordCompile_of_ne {other : ι} (distinct : other ≠ thread)
    (known : KnownAt request shared other stage) :
    KnownAt request (shared.recordCompile thread) other stage :=
  known.congr rfl (by simp [Shared.recordCompile, distinct]) rfl

theorem invariant_initial : Invariant request (Shared.initial : Shared ι ε α) where
  lock := fun thread => by simp [Shared.initial, Stage.holdsLock]
  known := fun thread => by simp [Shared.initial, KnownAt]
  origin := rfl
  compiledOnce := List.nodup_nil

variable [DecidableEq ι]

theorem LockKnown.keep (lock : LockKnown shared)
    (same : stage.holdsLock = (shared.stage thread).holdsLock) :
    LockKnown (shared.advance thread stage) := by
  intro other
  by_cases moves : other = thread
  · subst moves
    simpa [same] using lock other
  · simpa [moves] using lock other

theorem LockKnown.acquire (lock : LockKnown shared) (free : shared.holder = none)
    (holds : stage.holdsLock = true) :
    LockKnown ({ shared with holder := some thread }.advance thread stage) := by
  intro other
  by_cases moves : other = thread
  · subst moves
    simpa using holds
  · have unlocked : ¬ (shared.stage other).holdsLock = true := by
      rw [lock other, free]
      simp
    simpa [moves, Ne.symm moves] using unlocked

theorem LockKnown.release (lock : LockKnown shared) (held : (shared.stage thread).holdsLock = true)
    (lets : stage.holdsLock = false) :
    LockKnown ({ shared with holder := none }.advance thread stage) := by
  have holder : shared.holder = some thread := (lock thread).mp held
  intro other
  by_cases moves : other = thread
  · subst moves
    simpa using lets
  · have unlocked : ¬ (shared.stage other).holdsLock = true := by
      rw [lock other, holder]
      simpa using Ne.symm moves
    simpa [moves] using unlocked

/-- The annotations after a step: those of the other threads have to survive the change of what is shared,
and that of the thread that moves has to hold at its new stage. -/
theorem knownAt_advance (stages : moved.stage = shared.stage)
    (others : ∀ other, other ≠ thread → KnownAt request moved other (shared.stage other))
    (own : KnownAt request moved thread stage) (other : ι) :
    KnownAt request (moved.advance thread stage) other ((moved.advance thread stage).stage other) := by
  by_cases moves : other = thread
  · subst moves
    rw [Shared.advance_stage_self]
    exact own.congr rfl Iff.rfl rfl
  · rw [Shared.advance_stage_of_ne moves, stages]
    exact (others other moves).congr rfl Iff.rfl rfl

/-- A step that changes nothing but the stage of its thread. -/
theorem Invariant.move (invariant : Invariant request shared)
    (same : stage.holdsLock = (shared.stage thread).holdsLock)
    (own : KnownAt request shared thread stage) : Invariant request (shared.advance thread stage) where
  lock := invariant.lock.keep same
  known := knownAt_advance rfl (fun other _ => invariant.known other) own
  origin := invariant.origin
  compiledOnce := invariant.compiledOnce

/-- A step that compiles. -/
theorem Invariant.compile (invariant : Invariant request shared)
    (same : stage.holdsLock = (shared.stage thread).holdsLock) (uncompiled : thread ∉ shared.compiled)
    (own : KnownAt request (shared.recordCompile thread) thread stage) :
    Invariant request ((shared.recordCompile thread).advance thread stage) where
  lock := (lockKnown_recordCompile invariant.lock).keep same
  known := knownAt_advance rfl
    (fun other distinct => knownAt_recordCompile_of_ne distinct (invariant.known other)) own
  origin := invariant.origin
  compiledOnce := List.nodup_cons.mpr ⟨uncompiled, invariant.compiledOnce⟩

theorem afterOffer_of_empty {slot : Slot α} (empty : slot.installed = none) (offered : Installed α) :
    slot.afterOffer offered = offered := by
  simp [afterOffer, empty]

/-- The step that installs. Its thread holds the lock, so nobody else relies on the slot's being empty. -/
theorem Invariant.install (invariant : Invariant request shared) {artifact : α}
    (stageEq : shared.stage thread = .installing artifact) :
    Invariant request ((shared.offer thread ⟨(request thread).language, artifact⟩).advance thread
      (.releasing (.ok (shared.slot.afterOffer ⟨(request thread).language, artifact⟩).artifact))) := by
  obtain ⟨compiled, empty⟩ := invariant.knownAt stageEq
  have held := held_of_stage stageEq rfl
  have origin := invariant.origin
  rw [OriginKnown, empty] at origin
  rw [afterOffer_of_empty empty]
  constructor
  case lock => exact (lockKnown_offer invariant.lock _).keep held.symm
  case known =>
    refine knownAt_advance rfl (fun other distinct => ?_) ?_
    · exact (invariant.known other).of_filling (invariant.lock.unlocked_of_ne held distinct) empty rfl
    · refine ⟨⟨(request thread).language, artifact⟩, ?_, Or.inl ⟨rfl, rfl, fun _ => ?_⟩⟩
      · simp [Shared.offer, afterOffer_of_empty empty]
      · simp [Shared.offer]
  case origin =>
    simp [OriginKnown, Shared.offer, afterOffer_of_empty empty, origin, compiled]
  case compiledOnce => exact invariant.compiledOnce

theorem Invariant.step {after : Shared ι ε α} (invariant : Invariant request shared)
    (step : Step request shared after) : Invariant request after := by
  cases step with
  | @findEmpty thread stageEq empty =>
      have known := invariant.knownAt stageEq
      exact invariant.move (by rw [stageEq]; rfl) known
  | @findInstalled thread installed stageEq found =>
      have known := invariant.knownAt stageEq
      exact invariant.move (by rw [stageEq, holdsLock_afterFinding]; rfl)
        (knownAt_afterFinding known found false)
  | @lock thread stageEq free =>
      have known := invariant.knownAt stageEq
      exact
        { lock := invariant.lock.acquire free rfl
          known := knownAt_advance rfl
            (fun other _ => (invariant.known other).congr rfl Iff.rfl rfl) known
          origin := invariant.origin
          compiledOnce := invariant.compiledOnce }
  | @findEmptyAgain thread stageEq empty =>
      have known := invariant.knownAt stageEq
      exact invariant.move (by rw [stageEq]; rfl) ⟨known, empty⟩
  | @findInstalledLater thread installed stageEq found =>
      have known := invariant.knownAt stageEq
      exact invariant.move (by rw [stageEq, holdsLock_afterFinding]; rfl)
        (knownAt_afterFinding known found true)
  | @compile thread stageEq =>
      have known := invariant.knownAt stageEq
      exact invariant.compile (by rw [stageEq, holdsLock_afterCompiling]; rfl) known.1
        (knownAt_afterCompiling known.2)
  | @install thread artifact stageEq => exact invariant.install stageEq
  | @bypass thread locked stageEq =>
      obtain ⟨uncompiled, installed, found, differ⟩ := invariant.knownAt stageEq
      have stillFound : (shared.recordCompile thread).slot.installed = some installed := found
      exact invariant.compile (by rw [stageEq, holdsLock_afterBypass]; rfl) uncompiled
        (knownAt_afterBypass stillFound differ locked)
  | @release thread outcome stageEq =>
      have known := invariant.knownAt stageEq
      exact
        { lock := invariant.lock.release (held_of_stage stageEq rfl) rfl
          known := knownAt_advance rfl
            (fun other _ => (invariant.known other).congr rfl Iff.rfl rfl)
            (knownAt_done known)
          origin := invariant.origin
          compiledOnce := invariant.compiledOnce }

theorem invariant_of_reachable (reachable : Reachable request shared) : Invariant request shared := by
  induction reachable with
  | initial => exact invariant_initial
  | step _ step inductionHypothesis => exact inductionHypothesis.step step

theorem Reachable.steps {later : Shared ι ε α} (reachable : Reachable request shared)
    (steps : Relation.ReflTransGen (Step request) shared later) : Reachable request later := by
  induction steps with
  | refl => exact reachable
  | tail _ step inductionHypothesis => exact inductionHypothesis.step step

end Steps

/-!
### What becomes of the slot
-/

section Outcomes

variable {request : ι → Request ε α} {shared after later : Shared ι ε α} {thread : ι} {artifact : α}
  {installed : Installed α}

/-- A thread whose compilation has succeeded is about to install, or the slot is filled; and if it is filled
for the thread's language, that thread has filled it. -/
theorem Invariant.installing_or_filled (invariant : Invariant request shared)
    (compiled : thread ∈ shared.compiled) (success : (request thread).compilation = .ok artifact) :
    shared.stage thread = .installing artifact ∨
      ∃ installed, shared.slot.installed = some installed ∧
        (installed.language = (request thread).language → thread ∈ shared.installers) := by
  have filled : ∀ outcome, AnswerKnown request shared thread outcome →
      ∃ installed, shared.slot.installed = some installed ∧
        (installed.language = (request thread).language → thread ∈ shared.installers) := by
    intro outcome answer
    cases outcome with
    | ok answered =>
        obtain ⟨installed, found, ⟨-, -, installs⟩ | ⟨differ, -⟩⟩ := answer
        · exact ⟨installed, found, fun _ => installs compiled⟩
        · exact ⟨installed, found, fun agree => absurd agree differ⟩
    | error cause => simp [AnswerKnown, success] at answer
    | fault => simp [AnswerKnown, success] at answer
  cases stageEq : shared.stage thread with
  | start => exact absurd compiled (invariant.knownAt stageEq)
  | waiting => exact absurd compiled (invariant.knownAt stageEq)
  | holding => exact absurd compiled (invariant.knownAt stageEq)
  | compiling => exact absurd compiled (invariant.knownAt stageEq).1
  | bypassing locked => exact absurd compiled (invariant.knownAt stageEq).1
  | installing ready =>
      have same : Outcome.ok ready = Outcome.ok artifact :=
        (invariant.knownAt stageEq).1.symm.trans success
      cases same
      exact Or.inl rfl
  | releasing outcome => exact Or.inr (filled outcome (invariant.knownAt stageEq))
  | done outcome => exact Or.inr (filled outcome (invariant.knownAt stageEq))

/-- The threads whose compilation for a language has succeeded. -/
def Shared.successes (shared : Shared ι ε α) (request : ι → Request ε α) (language : String) : List ι :=
  shared.compiled.filter fun thread =>
    (request thread).language = language && (request thread).compilation.value?.isSome

theorem Invariant.successes_length_le_one (invariant : Invariant request shared)
    (found : shared.slot.installed = some installed) :
    (shared.successes request installed.language).length ≤ 1 := by
  have origin := invariant.origin
  rw [OriginKnown, found] at origin
  obtain ⟨first, installersEq, -, -⟩ := origin
  have distinct : (shared.successes request installed.language).Nodup :=
    invariant.compiledOnce.filter _
  have only : shared.successes request installed.language ⊆ [first] := by
    intro thread member
    simp only [Shared.successes, List.mem_filter, Bool.and_eq_true, decide_eq_true_eq] at member
    obtain ⟨compiled, language, success⟩ := member
    obtain ⟨artifact, success⟩ : ∃ artifact, (request thread).compilation = .ok artifact := by
      cases outcomeEq : (request thread).compilation <;> simp [outcomeEq, Outcome.value?] at success ⊢
    rcases invariant.installing_or_filled compiled success with installing | ⟨same, filled, installs⟩
    · have empty := (invariant.knownAt installing).2
      simp [found] at empty
    · rw [found] at filled
      cases filled
      simpa [installersEq] using installs language.symm
  simpa using (List.subperm_of_subset distinct only).length_le

variable [DecidableEq ι]

private theorem moved_keeps_slot {moved : Shared ι ε α} {stage next : Stage ε α}
    (slotEq : moved.slot = shared.slot) (stages : moved.stage = shared.stage)
    (stageEq : shared.stage thread = stage) (otherwise : ∀ artifact, stage ≠ .installing artifact) :
    ∃ mover, (∀ artifact, shared.stage mover ≠ .installing artifact) ∧
      (moved.advance thread next).slot = shared.slot ∧
      ∀ other, other ≠ mover → (moved.advance thread next).stage other = shared.stage other := by
  refine ⟨thread, by simpa [stageEq] using otherwise, slotEq, fun other distinct => ?_⟩
  rw [Shared.advance_stage_of_ne distinct, stages]

/-- A step changes the slot only where its thread installs. Any other step moves one thread and leaves the
slot as it is. -/
theorem Step.slot_cases (step : Step request shared after) :
    (∃ mover, (∀ artifact, shared.stage mover ≠ .installing artifact) ∧ after.slot = shared.slot ∧
        ∀ other, other ≠ mover → after.stage other = shared.stage other) ∨
      ∃ mover artifact, shared.stage mover = .installing artifact ∧
        after.slot = ⟨some (shared.slot.afterOffer ⟨(request mover).language, artifact⟩)⟩ := by
  cases step with
  | findEmpty stageEq => exact Or.inl (moved_keeps_slot rfl rfl stageEq (by simp))
  | findInstalled stageEq => exact Or.inl (moved_keeps_slot rfl rfl stageEq (by simp))
  | lock stageEq => exact Or.inl (moved_keeps_slot rfl rfl stageEq (by simp))
  | findEmptyAgain stageEq => exact Or.inl (moved_keeps_slot rfl rfl stageEq (by simp))
  | findInstalledLater stageEq => exact Or.inl (moved_keeps_slot rfl rfl stageEq (by simp))
  | compile stageEq => exact Or.inl (moved_keeps_slot rfl rfl stageEq (by simp))
  | bypass stageEq => exact Or.inl (moved_keeps_slot rfl rfl stageEq (by simp))
  | release stageEq => exact Or.inl (moved_keeps_slot rfl rfl stageEq (by simp))
  | install stageEq => exact Or.inr ⟨_, _, stageEq, rfl⟩

theorem Step.installed_stays (step : Step request shared after)
    (found : shared.slot.installed = some installed) : after.slot.installed = some installed := by
  rcases step.slot_cases with ⟨mover, -, slotEq, -⟩ | ⟨mover, artifact, -, slotEq⟩
  · rw [slotEq, found]
  · simp [slotEq, afterOffer, found]

theorem installed_stays (steps : Relation.ReflTransGen (Step request) shared later)
    (found : shared.slot.installed = some installed) : later.slot.installed = some installed := by
  induction steps with
  | refl => exact found
  | tail _ step inductionHypothesis => exact step.installed_stays inductionHypothesis

/-- A thread that is about to install stays so until the slot holds its artifact. -/
theorem Invariant.installing_step (invariant : Invariant request shared)
    (stageEq : shared.stage thread = .installing artifact) (step : Step request shared after) :
    after.stage thread = .installing artifact ∨
      after.slot.installed = some ⟨(request thread).language, artifact⟩ := by
  rcases step.slot_cases with ⟨mover, otherwise, -, stages⟩ | ⟨mover, offered, moverEq, slotEq⟩
  · left
    have distinct : thread ≠ mover := fun same => otherwise artifact (same ▸ stageEq)
    rw [stages thread distinct, stageEq]
  · right
    have same : mover = thread := by
      by_contra distinct
      have unlocked := invariant.lock.unlocked_of_ne (held_of_stage stageEq rfl) distinct
      simp [moverEq, Stage.holdsLock] at unlocked
    subst same
    rw [moverEq] at stageEq
    cases stageEq
    rw [slotEq, afterOffer_of_empty (invariant.knownAt moverEq).2]

theorem installing_steps (reachable : Reachable request shared)
    (stageEq : shared.stage thread = .installing artifact)
    (steps : Relation.ReflTransGen (Step request) shared later) :
    later.stage thread = .installing artifact ∨
      later.slot.installed = some ⟨(request thread).language, artifact⟩ := by
  induction steps with
  | refl => exact Or.inl stageEq
  | tail before step inductionHypothesis =>
      rcases inductionHypothesis with installing | filled
      · exact (invariant_of_reachable (reachable.steps before)).installing_step installing step
      · exact Or.inr (step.installed_stays filled)

/-- A step of one thread alone. -/
private theorem moved_alone {moved : Shared ι ε α} {next : Stage ε α} (stages : moved.stage = shared.stage) :
    ∀ other, other ≠ thread → (moved.advance thread next).stage other = shared.stage other :=
  fun other distinct => by rw [Shared.advance_stage_of_ne distinct, stages]

/-- The thread that holds the lock can take a step of its own. -/
theorem exists_own_step_of_holdsLock (held : (shared.stage thread).holdsLock = true) :
    ∃ after, Step request shared after ∧
      ∀ other, other ≠ thread → after.stage other = shared.stage other := by
  cases stageEq : shared.stage thread with
  | start => simp [stageEq, Stage.holdsLock] at held
  | waiting => simp [stageEq, Stage.holdsLock] at held
  | done outcome => simp [stageEq, Stage.holdsLock] at held
  | holding =>
      cases foundEq : shared.slot.installed with
      | none => exact ⟨_, .findEmptyAgain stageEq foundEq, moved_alone rfl⟩
      | some installed => exact ⟨_, .findInstalledLater stageEq foundEq, moved_alone rfl⟩
  | compiling => exact ⟨_, .compile stageEq, moved_alone rfl⟩
  | installing artifact => exact ⟨_, .install stageEq, moved_alone rfl⟩
  | bypassing locked => exact ⟨_, .bypass stageEq, moved_alone rfl⟩
  | releasing outcome => exact ⟨_, .release stageEq, moved_alone rfl⟩

/-- While a request is unanswered, its thread or the one that holds the lock can take a step of its own. -/
theorem Invariant.exists_own_step (invariant : Invariant request shared)
    (unanswered : ∀ outcome, shared.stage thread ≠ .done outcome) :
    ∃ mover after, (mover = thread ∨ (shared.stage mover).holdsLock = true) ∧ Step request shared after ∧
      ∀ other, other ≠ mover → after.stage other = shared.stage other := by
  have holderSteps : ∀ holder, (shared.stage holder).holdsLock = true →
      ∃ mover after, (mover = thread ∨ (shared.stage mover).holdsLock = true) ∧ Step request shared after ∧
        ∀ other, other ≠ mover → after.stage other = shared.stage other := by
    intro holder held
    obtain ⟨after, step, alone⟩ := exists_own_step_of_holdsLock held
    exact ⟨holder, after, Or.inr held, step, alone⟩
  cases stageEq : shared.stage thread with
  | start =>
      cases foundEq : shared.slot.installed with
      | none => exact ⟨thread, _, Or.inl rfl, .findEmpty stageEq foundEq, moved_alone rfl⟩
      | some installed => exact ⟨thread, _, Or.inl rfl, .findInstalled stageEq foundEq, moved_alone rfl⟩
  | waiting =>
      cases holderEq : shared.holder with
      | none => exact ⟨thread, _, Or.inl rfl, .lock stageEq holderEq, moved_alone rfl⟩
      | some other => exact holderSteps other ((invariant.lock other).mpr holderEq)
  | bypassing locked => exact ⟨thread, _, Or.inl rfl, .bypass stageEq, moved_alone rfl⟩
  | done outcome => exact absurd stageEq (unanswered outcome)
  | holding => exact holderSteps thread (held_of_stage stageEq rfl)
  | compiling => exact holderSteps thread (held_of_stage stageEq rfl)
  | installing artifact => exact holderSteps thread (held_of_stage stageEq rfl)
  | releasing outcome => exact holderSteps thread (held_of_stage stageEq rfl)

/-- No deadlock: while a request is unanswered, some thread can take a step. -/
theorem Invariant.exists_step (invariant : Invariant request shared)
    (unanswered : ∀ outcome, shared.stage thread ≠ .done outcome) :
    ∃ after, Step request shared after := by
  obtain ⟨-, after, -, step, -⟩ := invariant.exists_own_step unanswered
  exact ⟨after, step⟩

end Outcomes

/-!
### One artifact for one slot
-/

/-- What threads that share a slot can rely on in a state, and from there on.

* `exclusive`: at most one thread is between taking the lock and releasing it.
* `offeredOnce`, `filled_iff`: the slot is set at most once, and it is filled exactly if it has been set.
* `stays`: what is installed is still installed in every later state.
* `answered`: a request that was answered with an artifact found the slot filled. If it is filled for the
  language of the request, the artifact is the installed one. If not, the artifact comes from the thread's
  own compilation, and the thread has not touched the slot.
* `failed`: a request that was answered with a failure reports that of the thread's own compilation.
* `compiledOnce`, `successOnce`: no thread compiles twice, and all in all at most one compilation succeeds
  for the language that is installed.
* `kept`: if the slot is still empty when a compilation has succeeded, it is never filled with anything but
  the artifact of that compilation.
* `finished`: a state without further steps has answered every request and has left the lock free, whatever
  the compilations gave. -/
structure OneArtifact [DecidableEq ι] (request : ι → Request ε α) (shared : Shared ι ε α) : Prop where
  exclusive : ∀ first second, (shared.stage first).holdsLock = true →
    (shared.stage second).holdsLock = true → first = second
  offeredOnce : shared.installers.length ≤ 1
  filled_iff : shared.slot.isPopulated = true ↔ shared.installers ≠ []
  stays : ∀ installed later, shared.slot.installed = some installed →
    Relation.ReflTransGen (Step request) shared later → later.slot.installed = some installed
  answered : ∀ thread artifact, shared.stage thread = .done (.ok artifact) →
    ∃ installed, shared.slot.installed = some installed ∧
      (installed.language = (request thread).language → artifact = installed.artifact) ∧
      (installed.language ≠ (request thread).language →
        (request thread).compilation = .ok artifact ∧ thread ∉ shared.installers)
  failed : ∀ thread outcome, shared.stage thread = .done outcome → outcome.value? = none →
    (request thread).compilation = outcome
  compiledOnce : shared.compiled.Nodup
  successOnce : ∀ installed, shared.slot.installed = some installed →
    (shared.successes request installed.language).length ≤ 1
  kept : ∀ thread artifact later, thread ∈ shared.compiled →
    (request thread).compilation = .ok artifact → shared.slot.installed = none →
    Relation.ReflTransGen (Step request) shared later →
    later.slot.installed = none ∨
      later.slot.installed = some ⟨(request thread).language, artifact⟩
  finished : (∀ after, ¬ Step request shared after) →
    shared.holder = none ∧ ∀ thread, ∃ outcome, shared.stage thread = .done outcome

section Main

variable {request : ι → Request ε α} {shared : Shared ι ε α}

private theorem Invariant.answered (invariant : Invariant request shared) {thread : ι} {artifact : α}
    (stageEq : shared.stage thread = .done (.ok artifact)) :
    ∃ installed, shared.slot.installed = some installed ∧
      (installed.language = (request thread).language → artifact = installed.artifact) ∧
      (installed.language ≠ (request thread).language →
        (request thread).compilation = .ok artifact ∧ thread ∉ shared.installers) := by
  have origin := invariant.origin
  obtain ⟨installed, found, answer⟩ := invariant.knownAt stageEq
  rw [OriginKnown, found] at origin
  obtain ⟨first, installersEq, languageEq, -⟩ := origin
  refine ⟨installed, found, ?_, ?_⟩
  · intro agree
    rcases answer with ⟨-, same, -⟩ | ⟨differ, -⟩
    · exact same.symm
    · exact absurd agree differ
  · intro differ
    rcases answer with ⟨agree, -⟩ | ⟨-, own⟩
    · exact absurd agree differ
    · refine ⟨own, fun member => differ ?_⟩
      rw [installersEq, List.mem_singleton] at member
      rw [member, languageEq]

private theorem Invariant.failed (invariant : Invariant request shared) {thread : ι}
    {outcome : Outcome ε α} (stageEq : shared.stage thread = .done outcome)
    (failure : outcome.value? = none) : (request thread).compilation = outcome := by
  have answer := invariant.knownAt stageEq
  cases outcome with
  | ok artifact => simp [Outcome.value?] at failure
  | error cause => exact answer
  | fault => exact answer

variable [DecidableEq ι]

private theorem Invariant.finished (invariant : Invariant request shared)
    (stuck : ∀ after, ¬ Step request shared after) :
    shared.holder = none ∧ ∀ thread, ∃ outcome, shared.stage thread = .done outcome := by
  have done : ∀ thread, ∃ outcome, shared.stage thread = .done outcome := by
    intro thread
    by_contra unanswered
    obtain ⟨after, step⟩ := invariant.exists_step (not_exists.mp unanswered)
    exact stuck after step
  refine ⟨?_, done⟩
  cases holderEq : shared.holder with
  | none => rfl
  | some thread =>
      obtain ⟨outcome, stageEq⟩ := done thread
      have held := (invariant.lock thread).mpr holderEq
      simp [stageEq, Stage.holdsLock] at held

/-- Whatever threads ask a slot for, in whatever languages, however their compilations end and in whatever
order their steps come: in every state that they can reach one artifact at most is installed, for good, and
every answer agrees with it. -/
theorem oneArtifact_of_reachable (reachable : Reachable request shared) :
    OneArtifact request shared := by
  have invariant := invariant_of_reachable reachable
  have origin := invariant.origin
  constructor
  case exclusive =>
    intro first second firstHolds secondHolds
    have holder := (invariant.lock first).mp firstHolds
    rw [(invariant.lock second).mp secondHolds] at holder
    exact (Option.some.inj holder).symm
  case offeredOnce =>
    rw [OriginKnown] at origin
    split at origin
    · simp [origin]
    · obtain ⟨first, installersEq, -⟩ := origin
      simp [installersEq]
  case filled_iff =>
    rw [OriginKnown] at origin
    split at origin
    case h_1 empty => simp [isPopulated, empty, origin]
    case h_2 installed found =>
      obtain ⟨first, installersEq, -⟩ := origin
      simp [isPopulated, found, installersEq]
  case stays => exact fun installed later found steps => installed_stays steps found
  case answered => exact fun thread artifact stageEq => invariant.answered stageEq
  case failed => exact fun thread outcome stageEq failure => invariant.failed stageEq failure
  case compiledOnce => exact invariant.compiledOnce
  case successOnce => exact fun installed found => invariant.successes_length_le_one found
  case kept =>
    intro thread artifact later compiled success empty steps
    rcases invariant.installing_or_filled compiled success with installing | ⟨installed, found, -⟩
    · rcases installing_steps reachable installing steps with still | filled
      · exact Or.inl ((invariant_of_reachable (reachable.steps steps)).knownAt still).2
      · exact Or.inr filled
    · simp [empty] at found
  case finished => exact invariant.finished

/-- Three requests for two languages. The first compilation for `juel` stops abruptly. -/
def threeRequests : Fin 3 → Request String Nat
  | 0 => ⟨"juel", .fault⟩
  | 1 => ⟨"juel", .ok 1⟩
  | 2 => ⟨"cel", .ok 2⟩

/-- Two threads find the slot empty. The first gives up under the lock, the second installs, and the third
finds the artifact before the lock is released and compiles for itself. -/
theorem oneArtifact_threeRequests : ∃ shared : Shared (Fin 3) String Nat,
    Reachable threeRequests shared ∧ shared.stage 0 = .done .fault ∧ shared.stage 1 = .done (.ok 1) ∧
      shared.stage 2 = .done (.ok 2) ∧ shared.slot.installed = some ⟨"juel", 1⟩ ∧
      OneArtifact threeRequests shared := by
  have found : Reachable threeRequests _ :=
    .step (.step .initial (@Step.findEmpty _ _ _ _ _ _ 0 rfl rfl)) (@Step.findEmpty _ _ _ _ _ _ 1 rfl rfl)
  have locked : Reachable threeRequests _ :=
    .step (.step found (@Step.lock _ _ _ _ _ _ 0 rfl rfl)) (@Step.findEmptyAgain _ _ _ _ _ _ 0 rfl rfl)
  have unwound : Reachable threeRequests _ :=
    .step (.step locked (@Step.compile _ _ _ _ _ _ 0 rfl)) (@Step.release _ _ _ _ _ _ 0 _ rfl)
  have lockedAgain : Reachable threeRequests _ :=
    .step (.step unwound (@Step.lock _ _ _ _ _ _ 1 rfl rfl)) (@Step.findEmptyAgain _ _ _ _ _ _ 1 rfl rfl)
  have installed : Reachable threeRequests _ :=
    .step (.step lockedAgain (@Step.compile _ _ _ _ _ _ 1 rfl)) (@Step.install _ _ _ _ _ _ 1 _ rfl)
  have bypassed : Reachable threeRequests _ :=
    .step (.step installed (@Step.findInstalled _ _ _ _ _ _ 2 _ rfl rfl))
      (@Step.bypass _ _ _ _ _ _ 2 _ rfl)
  have released : Reachable threeRequests _ := .step bypassed (@Step.release _ _ _ _ _ _ 1 _ rfl)
  exact ⟨_, released, rfl, rfl, rfl, rfl, oneArtifact_of_reachable released⟩

end Main

end DecisionEval.Slot
