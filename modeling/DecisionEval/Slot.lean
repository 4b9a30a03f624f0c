/-
Module: DecisionEval.Slot
Purpose: The slot of an expression that keeps one compiled artifact.
Main exports: Slot, Slot.get?, Slot.getOrInstallM, Slot.getOrInstall, Slot.debugText
-/
import DecisionEval.Outcome
import DecisionEval.Text.Quoted

namespace DecisionEval

/-- An artifact together with the language that it was compiled for. -/
structure Installed (α : Type) where
  language : String
  artifact : α
deriving Repr, DecidableEq

/-- A place for one artifact. It is empty at first; what is installed in it stays. -/
structure Slot (α : Type) where
  installed : Option (Installed α) := none
deriving Repr, DecidableEq

/-- What the use of a slot gives: its outcome, the slot afterwards, and whether something was compiled. -/
structure SlotUse (ε α : Type) where
  outcome : Outcome ε α
  slot : Slot α
  compiled : Bool
deriving Repr, DecidableEq

namespace Slot

variable {ε α : Type}

/-- The slot without an artifact. -/
def empty : Slot α := {}

instance : Inhabited (Slot α) := ⟨empty⟩

/-- The artifact, if it was compiled for exactly this language. -/
def get? (slot : Slot α) (language : String) : Option α :=
  match slot.installed with
  | some installed => if installed.language = language then some installed.artifact else none
  | none => none

/-- The language that the artifact was compiled for. -/
def language? (slot : Slot α) : Option String := slot.installed.map (·.language)

/-- Whether an artifact is installed. -/
def isPopulated (slot : Slot α) : Bool := slot.installed.isSome

/-- The artifact for a language. An empty slot compiles and keeps the artifact if that succeeds. A slot
    with an artifact for this language gives that; one with an artifact for another language compiles for
    the caller and keeps what it has. Compiling may have effects. -/
def getOrInstallM {m : Type → Type} [Monad m] (slot : Slot α) (language : String)
    (compile : Unit → m (Outcome ε α)) : m (SlotUse ε α) :=
  match slot.installed with
  | some installed =>
    if installed.language = language then return ⟨.ok installed.artifact, slot, false⟩
    else do
      let outcome ← compile ()
      return ⟨outcome, slot, true⟩
  | none => do
    match ← compile () with
    | .ok artifact => return ⟨.ok artifact, ⟨some ⟨language, artifact⟩⟩, true⟩
    | .error cause => return ⟨.error cause, slot, true⟩
    | .fault => return ⟨.fault, slot, true⟩

/-- The artifact for a language, where compiling has no effects. -/
def getOrInstall (slot : Slot α) (language : String) (compile : Unit → Outcome ε α) : SlotUse ε α :=
  Id.run (slot.getOrInstallM language (fun _ => pure (compile ())))

/-- The text that shows an optional text in full. -/
def optionText : Option String → String
  | none => "None"
  | some text => "Some(" ++ Text.quoted text ++ ")"

/-- The text that shows the state of a slot. -/
def debugText (slot : Slot α) : String :=
  "CompiledSlot \x7b language: " ++ optionText slot.language? ++ ", populated: "
    ++ (if slot.isPopulated then "true" else "false") ++ " \x7d"

end Slot

end DecisionEval
