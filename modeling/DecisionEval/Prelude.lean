/-
Module: DecisionEval.Prelude
Purpose: The script fragments that stand in front of every script.
Main exports: Prelude, Prelude.load, Prelude.augment
-/
import DecisionEval.Resource

namespace DecisionEval

/-- The fragments in front of every script: first the global one, then that of the application. -/
structure Prelude where
  global : String
  application : String
deriving Repr, DecidableEq, Inhabited

namespace Prelude

/-- The default name of the global fragment. -/
def globalResource : String := "dmnGlobal.js"

/-- The default name of the application's fragment. -/
def applicationResource : String := "dmn.js"

/-- Whether both fragments are empty. -/
def isEmpty (p : Prelude) : Bool := p.global.isEmpty && p.application.isEmpty

/-- The text of a script with the fragments in front. -/
def augment (p : Prelude) (text : String) : String := p.global ++ p.application ++ text

/-- The fragment that a lookup gives. There is none where the lookup is missing, does not know the name,
    or fails. Bytes that are no valid text are replaced. -/
def fragment (lookup : Option ResourceLookup) (name : String) : String :=
  match lookup with
  | none => ""
  | some lookup =>
    match lookup.find name with
    | .ok (some bytes) => Text.decodeLossy bytes
    | _ => ""

/-- Loads both fragments. -/
def load (global : Option ResourceLookup) (globalName : String) (application : Option ResourceLookup)
    (applicationName : String) : Prelude :=
  ⟨fragment global globalName, fragment application applicationName⟩

end Prelude

end DecisionEval
