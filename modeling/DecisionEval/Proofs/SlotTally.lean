/-
Module: DecisionEval.Proofs.SlotTally
Purpose: Threads that all ask a slot for the same artifact: how long they take, what they are answered, and
  how often the artifact has been compiled when all of them are done.
Main exports: Slot.Stage.rank, Slot.Step.exists_mover, Slot.Accounted, Slot.Invariant.answer_eq, Slot.Tally,
  Slot.tally_of_done
-/
import Mathlib.Data.Fintype.Card
import DecisionEval.Proofs.InstallOnce

namespace DecisionEval.Slot

variable {ι ε α : Type}

/-!
### How far a thread is from its answer

A step takes one thread nearer to its answer, so no thread takes more than six.
-/

/-- The most steps that a thread at a stage has still to take. -/
def Stage.rank : Stage ε α → Nat
  | .start => 6
  | .waiting => 5
  | .holding => 4
  | .compiling => 3
  | .installing _ => 2
  | .bypassing _ => 2
  | .releasing _ => 1
  | .done _ => 0

theorem Stage.rank_le (stage : Stage ε α) : stage.rank ≤ 6 := by
  cases stage <;> simp [rank]

theorem Stage.rank_afterFinding_le (asked : Request ε α) (installed : Installed α) (locked : Bool) :
    (afterFinding asked installed locked).rank ≤ 2 := by
  unfold afterFinding
  cases locked <;> split <;> simp [rank]

theorem Stage.rank_afterCompiling_le (outcome : Outcome ε α) : (afterCompiling outcome).rank ≤ 2 := by
  cases outcome <;> simp [afterCompiling, rank]

theorem Stage.rank_afterBypass_le (locked : Bool) (outcome : Outcome ε α) :
    (afterBypass locked outcome).rank ≤ 1 := by
  cases locked <;> simp [afterBypass, rank]

section Steps

variable [DecidableEq ι] {request : ι → Request ε α} {shared moved after : Shared ι ε α} {thread : ι}
  {next : Stage ε α}

theorem exists_mover_of_lower (stages : moved.stage = shared.stage)
    (lower : next.rank < (shared.stage thread).rank) :
    ∃ mover, ((moved.advance thread next).stage mover).rank < (shared.stage mover).rank ∧
      ∀ other, other ≠ mover → (moved.advance thread next).stage other = shared.stage other := by
  refine ⟨thread, by rwa [Shared.advance_stage_self], fun other distinct => ?_⟩
  rw [Shared.advance_stage_of_ne distinct, stages]

/-- A step takes one thread nearer to its answer and leaves the others where they are. -/
theorem Step.exists_mover (step : Step request shared after) :
    ∃ mover, (after.stage mover).rank < (shared.stage mover).rank ∧
      ∀ other, other ≠ mover → after.stage other = shared.stage other := by
  cases step with
  | findEmpty stageEq => exact exists_mover_of_lower rfl (by simp [stageEq, Stage.rank])
  | findInstalled stageEq =>
      refine exists_mover_of_lower rfl (Nat.lt_of_le_of_lt (Stage.rank_afterFinding_le _ _ _) ?_)
      simp [stageEq, Stage.rank]
  | lock stageEq => exact exists_mover_of_lower rfl (by simp [stageEq, Stage.rank])
  | findEmptyAgain stageEq => exact exists_mover_of_lower rfl (by simp [stageEq, Stage.rank])
  | findInstalledLater stageEq =>
      refine exists_mover_of_lower rfl (Nat.lt_of_le_of_lt (Stage.rank_afterFinding_le _ _ _) ?_)
      simp [stageEq, Stage.rank]
  | compile stageEq =>
      refine exists_mover_of_lower rfl (Nat.lt_of_le_of_lt (Stage.rank_afterCompiling_le _) ?_)
      simp [stageEq, Stage.rank]
  | install stageEq => exact exists_mover_of_lower rfl (by simp [stageEq, Stage.rank])
  | bypass stageEq =>
      refine exists_mover_of_lower rfl (Nat.lt_of_le_of_lt (Stage.rank_afterBypass_le _ _) ?_)
      simp [stageEq, Stage.rank]
  | release stageEq => exact exists_mover_of_lower rfl (by simp [stageEq, Stage.rank])

/-!
### Who has compiled

A thread that has an artifact to install, or a failure to report, has compiled; and so has every thread that
has offered an artifact to the slot.
-/

/-- Whether a stage is only reached by a compilation. -/
def Stage.worked : Stage ε α → Bool
  | .installing _ => true
  | .releasing outcome => outcome.value?.isNone
  | .done outcome => outcome.value?.isNone
  | _ => false

/-- The compilations that the stages and the record of the offers speak of have taken place. -/
structure Accounted (shared : Shared ι ε α) : Prop where
  worked : ∀ thread, (shared.stage thread).worked = true → thread ∈ shared.compiled
  offered : ∀ thread ∈ shared.installers, thread ∈ shared.compiled

theorem worked_afterFinding (asked : Request ε α) (installed : Installed α) (locked : Bool) :
    (Stage.afterFinding asked installed locked).worked = false := by
  unfold Stage.afterFinding
  cases locked <;> split <;> rfl

theorem Accounted.advance (accounted : Accounted shared) (stages : moved.stage = shared.stage)
    (recorded : ∀ other ∈ shared.compiled, other ∈ moved.compiled)
    (offered : ∀ other ∈ moved.installers, other ∈ moved.compiled)
    (own : next.worked = true → thread ∈ moved.compiled) : Accounted (moved.advance thread next) where
  worked other worked := by
    by_cases moves : other = thread
    · subst moves
      rw [Shared.advance_stage_self] at worked
      exact own worked
    · rw [Shared.advance_stage_of_ne moves, stages] at worked
      exact recorded other (accounted.worked other worked)
  offered := offered

/-- A step that only moves its thread, to a stage that tells no more of compilations than the one before. -/
theorem Accounted.move (accounted : Accounted shared) (stages : moved.stage = shared.stage)
    (compiledEq : moved.compiled = shared.compiled) (installersEq : moved.installers = shared.installers)
    (own : next.worked = true → (shared.stage thread).worked = true) :
    Accounted (moved.advance thread next) :=
  accounted.advance stages (by simp [compiledEq])
    (by simpa [compiledEq, installersEq] using accounted.offered)
    fun worked => compiledEq ▸ accounted.worked thread (own worked)

/-- A step that compiles. -/
theorem Accounted.compile (accounted : Accounted shared) :
    Accounted ((shared.recordCompile thread).advance thread next) :=
  accounted.advance rfl (fun _ member => List.mem_cons_of_mem _ member)
    (fun other member => List.mem_cons_of_mem _ (accounted.offered other member))
    fun _ => List.mem_cons_self

theorem Accounted.step (accounted : Accounted shared) (step : Step request shared after) :
    Accounted after := by
  cases step with
  | findEmpty => exact accounted.move rfl rfl rfl (by simp [Stage.worked])
  | findInstalled => exact accounted.move rfl rfl rfl (by simp [worked_afterFinding])
  | lock => exact accounted.move rfl rfl rfl (by simp [Stage.worked])
  | findEmptyAgain => exact accounted.move rfl rfl rfl (by simp [Stage.worked])
  | findInstalledLater => exact accounted.move rfl rfl rfl (by simp [worked_afterFinding])
  | compile => exact accounted.compile
  | bypass => exact accounted.compile
  | @install thread artifact stageEq =>
      have compiled : thread ∈ shared.compiled := accounted.worked thread (by rw [stageEq]; rfl)
      refine accounted.advance rfl (fun _ member => member) ?_ (by simp [Stage.worked, Outcome.value?])
      intro other member
      rcases List.mem_cons.mp member with rfl | member
      · exact compiled
      · exact accounted.offered other member
  | @release thread outcome stageEq => exact accounted.move rfl rfl rfl (by rw [stageEq]; exact id)

theorem accounted_of_reachable (reachable : Reachable request shared) : Accounted shared := by
  induction reachable with
  | initial => exact ⟨by simp [Shared.initial, Stage.worked], by simp [Shared.initial]⟩
  | step _ step inductionHypothesis => exact inductionHypothesis.step step

end Steps

/-!
### One request of many threads
-/

/-- A list that holds everyone once is as long as they are many. -/
theorem length_eq_card [Fintype ι] [DecidableEq ι] {threads : List ι} (once : threads.Nodup)
    (everyone : ∀ thread, thread ∈ threads) : threads.length = Fintype.card ι := by
  have whole : threads.toFinset = Finset.univ :=
    Finset.eq_univ_of_forall fun thread => List.mem_toFinset.mpr (everyone thread)
  rw [← List.toFinset_card_of_nodup once, whole, Finset.card_univ]

section Uniform

variable {request : Request ε α} {shared : Shared ι ε α} {thread : ι} {outcome : Outcome ε α}
  {installed : Installed α}

/-- What is installed is what the threads ask for. -/
theorem Invariant.installed_eq (invariant : Invariant (fun _ => request) shared)
    (found : shared.slot.installed = some installed) :
    installed.language = request.language ∧ request.compilation = .ok installed.artifact := by
  have origin := invariant.origin
  rw [OriginKnown, found] at origin
  obtain ⟨first, -, languageEq, compiled⟩ := origin
  exact ⟨languageEq.symm, compiled⟩

/-- Every thread is answered with the outcome of the compilation, whoever has compiled. -/
theorem Invariant.answer_eq (invariant : Invariant (fun _ => request) shared)
    (stageEq : shared.stage thread = .done outcome) : outcome = request.compilation := by
  have answer := invariant.knownAt stageEq
  cases outcome with
  | error cause => exact answer.symm
  | fault => exact answer.symm
  | ok artifact =>
      obtain ⟨installed, found, ⟨-, rfl, -⟩ | ⟨differ, -⟩⟩ := answer
      · exact (invariant.installed_eq found).2.symm
      · exact absurd (invariant.installed_eq found).1 differ

/-- What is left of a number of requests for an artifact when all of them are answered. A successful
compilation is the only one and fills the slot. Failing compilations are as many as the requests, for none
of them is spared the next thread, and they leave the slot empty. -/
structure Tally (shared : Shared ι ε α) (language : String) (compilation : Outcome ε α) (count : Nat) :
    Prop where
  success : ∀ artifact, compilation = .ok artifact →
    shared.compiled.length = 1 ∧ shared.slot.installed = some ⟨language, artifact⟩
  failure : compilation.value? = none →
    shared.compiled.length = count ∧ shared.slot.installed = none

theorem Invariant.compiled_of_success (invariant : Invariant (fun _ => request) shared)
    (accounted : Accounted shared) (done : ∀ thread, ∃ outcome, shared.stage thread = .done outcome)
    (found : shared.slot.installed = some installed) : shared.compiled.length = 1 := by
  have origin := invariant.origin
  rw [OriginKnown, found] at origin
  obtain ⟨first, installersEq, -⟩ := origin
  -- The thread that has filled the slot has compiled, and a thread that has compiled has filled the slot.
  have alone : ∀ thread, thread ∈ shared.compiled ↔ thread ∈ [first] := by
    intro thread
    rw [← installersEq]
    refine ⟨fun compiled => ?_, accounted.offered thread⟩
    obtain ⟨outcome, stageEq⟩ := done thread
    have answered := invariant.answer_eq stageEq
    rw [(invariant.installed_eq found).2] at answered
    subst answered
    obtain ⟨other, otherFound, ⟨-, -, fills⟩ | ⟨differ, -⟩⟩ := invariant.knownAt stageEq
    · exact fills compiled
    · exact absurd (invariant.installed_eq otherFound).1 differ
  have same : shared.compiled.Perm [first] :=
    (List.perm_ext_iff_of_nodup invariant.compiledOnce (List.nodup_singleton first)).mpr alone
  exact same.length_eq

variable [DecidableEq ι]

/-- Threads that ask for the same artifact compile it once if that succeeds, and each of them if it fails. -/
theorem tally_of_done [Fintype ι] [Nonempty ι] (reachable : Reachable (fun _ : ι => request) shared)
    (done : ∀ thread, ∃ outcome, shared.stage thread = .done outcome) :
    Tally shared request.language request.compilation (Fintype.card ι) := by
  have invariant := invariant_of_reachable reachable
  have accounted := accounted_of_reachable reachable
  constructor
  case success =>
    intro artifact succeeds
    obtain ⟨outcome, stageEq⟩ := done (Classical.arbitrary ι)
    have answered := invariant.answer_eq stageEq
    rw [succeeds] at answered
    subst answered
    obtain ⟨installed, found, -⟩ := invariant.knownAt stageEq
    obtain ⟨languageEq, compiled⟩ := invariant.installed_eq found
    rw [succeeds] at compiled
    cases compiled
    refine ⟨invariant.compiled_of_success accounted done found, ?_⟩
    rw [found, ← languageEq]
  case failure =>
    intro fails
    constructor
    case left =>
      have everyone : ∀ thread, thread ∈ shared.compiled := by
        intro thread
        obtain ⟨outcome, stageEq⟩ := done thread
        refine accounted.worked thread ?_
        rw [stageEq, invariant.answer_eq stageEq]
        simp [Stage.worked, fails]
      exact length_eq_card invariant.compiledOnce everyone
    case right =>
      cases found : shared.slot.installed with
      | none => rfl
      | some installed => simp [(invariant.installed_eq found).2, Outcome.value?] at fails

end Uniform

end DecisionEval.Slot
