/-
Module: DecisionEval.Slot.Interleaving
Purpose: The uses of one slot by several threads at once, step by step.
Main exports: Slot.Request, Slot.useFor, Slot.Stage, Slot.Shared, Slot.Step, Slot.Reachable
-/
import DecisionEval.Slot

namespace DecisionEval.Slot

/-!
A thread that asks a slot for an artifact first reads the slot without any lock. If the slot is empty it
takes the slot's lock and reads again, for another thread may have installed an artifact while it waited;
only then does it compile and install. The slot is a cell that is written once: what is offered to a cell
that has been written is dropped. The lock is taken only while no thread holds it; it is released on every
way out, also where a compilation fails or stops abruptly.

Every constructor of `Step` is one atomic step of one thread. A compilation takes one step, at which its
outcome becomes known. A thread makes one request; one that asks again counts as another thread.
-/

variable {ι ε α : Type}

/-- What a thread asks for: the artifact of a language, with the outcome of compiling it. -/
structure Request (ε α : Type) where
  language : String
  compilation : Outcome ε α

/-- What the use of a slot gives at once for a request. -/
def useFor (slot : Slot α) (request : Request ε α) : SlotUse ε α :=
  slot.getOrInstall request.language fun _ => request.compilation

/-- How far a thread has come. -/
inductive Stage (ε α : Type) where
  /-- The slot has not been read yet. -/
  | start
  /-- The slot was empty, and the lock is wanted. -/
  | waiting
  /-- The lock is held, and the slot has not been read again. -/
  | holding
  /-- The lock is held, the slot was empty, and the artifact has to be compiled. -/
  | compiling
  /-- The lock is held, and the compiled artifact has to be installed. -/
  | installing (artifact : α)
  /-- The slot has an artifact for another language, so one has to be compiled for the caller; the lock is
      held if the slot was found so on the second reading. -/
  | bypassing (locked : Bool)
  /-- The lock is held, and the outcome is known. -/
  | releasing (outcome : Outcome ε α)
  /-- The request has been answered. -/
  | done (outcome : Outcome ε α)
deriving Repr, DecidableEq

/-- Whether a thread at this stage holds the lock. -/
def Stage.holdsLock : Stage ε α → Bool
  | .holding => true
  | .compiling => true
  | .installing _ => true
  | .bypassing locked => locked
  | .releasing _ => true
  | _ => false

/-- What a slot holds after an artifact has been offered to it: what it held before, or else the artifact
    that is offered. -/
def afterOffer (slot : Slot α) (offered : Installed α) : Installed α := slot.installed.getD offered

/-- What the threads share, how far each of them has come, and which of them have compiled and which have
    offered an artifact to the slot, the last one first. -/
structure Shared (ι ε α : Type) where
  slot : Slot α
  holder : Option ι
  stage : ι → Stage ε α
  compiled : List ι
  installers : List ι

namespace Shared

/-- Nothing has happened yet. -/
def initial : Shared ι ε α := ⟨Slot.empty, none, fun _ => .start, [], []⟩

variable [DecidableEq ι]

/-- One thread has moved on to another stage. -/
def advance (shared : Shared ι ε α) (thread : ι) (stage : Stage ε α) : Shared ι ε α :=
  { shared with stage := fun other => if other = thread then stage else shared.stage other }

/-- One thread has compiled. -/
def recordCompile (shared : Shared ι ε α) (thread : ι) : Shared ι ε α :=
  { shared with compiled := thread :: shared.compiled }

/-- One thread has offered an artifact to the slot. -/
def offer (shared : Shared ι ε α) (thread : ι) (offered : Installed α) : Shared ι ε α :=
  { shared with
    slot := ⟨some (shared.slot.afterOffer offered)⟩
    installers := thread :: shared.installers }

end Shared

/-- The stage after a reading that found an artifact. `locked` says whether the reader holds the lock. -/
def Stage.afterFinding (request : Request ε α) (installed : Installed α) (locked : Bool) : Stage ε α :=
  if installed.language = request.language then
    if locked then .releasing (.ok installed.artifact) else .done (.ok installed.artifact)
  else .bypassing locked

/-- The stage after a compilation under the lock in an empty slot. -/
def Stage.afterCompiling : Outcome ε α → Stage ε α
  | .ok artifact => .installing artifact
  | .error cause => .releasing (.error cause)
  | .fault => .releasing .fault

/-- The stage after a compilation for the caller alone. -/
def Stage.afterBypass (locked : Bool) (outcome : Outcome ε α) : Stage ε α :=
  if locked then .releasing outcome else .done outcome

section Steps

variable [DecidableEq ι]

/-- One step of one thread. -/
inductive Step (request : ι → Request ε α) : Shared ι ε α → Shared ι ε α → Prop where
  | findEmpty {shared : Shared ι ε α} {thread : ι} :
      shared.stage thread = .start → shared.slot.installed = none →
      Step request shared (shared.advance thread .waiting)
  | findInstalled {shared : Shared ι ε α} {thread : ι} {installed : Installed α} :
      shared.stage thread = .start → shared.slot.installed = some installed →
      Step request shared (shared.advance thread (.afterFinding (request thread) installed false))
  | lock {shared : Shared ι ε α} {thread : ι} :
      shared.stage thread = .waiting → shared.holder = none →
      Step request shared ({ shared with holder := some thread }.advance thread .holding)
  | findEmptyAgain {shared : Shared ι ε α} {thread : ι} :
      shared.stage thread = .holding → shared.slot.installed = none →
      Step request shared (shared.advance thread .compiling)
  | findInstalledLater {shared : Shared ι ε α} {thread : ι} {installed : Installed α} :
      shared.stage thread = .holding → shared.slot.installed = some installed →
      Step request shared (shared.advance thread (.afterFinding (request thread) installed true))
  | compile {shared : Shared ι ε α} {thread : ι} :
      shared.stage thread = .compiling →
      Step request shared ((shared.recordCompile thread).advance thread
        (.afterCompiling (request thread).compilation))
  | install {shared : Shared ι ε α} {thread : ι} {artifact : α} :
      shared.stage thread = .installing artifact →
      Step request shared ((shared.offer thread ⟨(request thread).language, artifact⟩).advance thread
        (.releasing (.ok (shared.slot.afterOffer ⟨(request thread).language, artifact⟩).artifact)))
  | bypass {shared : Shared ι ε α} {thread : ι} {locked : Bool} :
      shared.stage thread = .bypassing locked →
      Step request shared ((shared.recordCompile thread).advance thread
        (.afterBypass locked (request thread).compilation))
  | release {shared : Shared ι ε α} {thread : ι} {outcome : Outcome ε α} :
      shared.stage thread = .releasing outcome →
      Step request shared ({ shared with holder := none }.advance thread (.done outcome))

/-- The states that can be reached, in any order of the threads' steps. -/
inductive Reachable (request : ι → Request ε α) : Shared ι ε α → Prop where
  | initial : Reachable request Shared.initial
  | step {before after : Shared ι ε α} :
      Reachable request before → Step request before after → Reachable request after

end Steps

end DecisionEval.Slot
