/-
Module: DecisionEval.Slot.History
Purpose: The uses of one slot, one after the other.
Main exports: Slot.Action, Slot.Reply, Slot.perform, Slot.replay
-/
import DecisionEval.Slot

namespace DecisionEval.Slot

variable {ε α : Type}

/-- A use of a slot: a look at the artifact of a language, or a request for one with the outcome that its
    compilation has if it is run. -/
inductive Action (ε α : Type) where
  | get (language : String)
  | request (language : String) (compilation : Outcome ε α)
deriving Repr, DecidableEq

/-- What a use gives: what was found, or the outcome and whether something was compiled for it. -/
inductive Reply (ε α : Type) where
  | found (artifact : Option α)
  | answered (outcome : Outcome ε α) (compiled : Bool)
deriving Repr, DecidableEq

/-- Whether something was compiled for a reply. -/
def Reply.hasCompiled : Reply ε α → Bool
  | .found _ => false
  | .answered _ compiled => compiled

/-- Uses a slot once. -/
def perform (slot : Slot α) : Action ε α → Reply ε α × Slot α
  | .get language => (.found (slot.get? language), slot)
  | .request language compilation =>
    let use := slot.getOrInstall language (fun _ => compilation)
    (.answered use.outcome use.compiled, use.slot)

/-- Uses a slot again and again: the replies in order, and the slot that is left. -/
def replay (slot : Slot α) : List (Action ε α) → List (Reply ε α) × Slot α
  | [] => ([], slot)
  | action :: rest =>
    let (reply, next) := slot.perform action
    let (replies, last) := replay next rest
    (reply :: replies, last)

end DecisionEval.Slot
