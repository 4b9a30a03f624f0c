/-
Module: DecisionEval.Bindings
Purpose: The names that a script sees: those of its backend, laid over the variables of the evaluation.
Main exports: Bindings, Bindings.get?, Bindings.insert, Bindings.toList
-/
import DecisionEval.Context

namespace DecisionEval

/-- The names that a script sees. The backend's own bindings shadow the variables of the context; the
    context as a whole, where it is exposed, has a name of its own that shadows both. -/
structure Bindings where
  native : Dictionary Json
  context : Context
  exposed : Bool
deriving DecidableEq, Inhabited

namespace Bindings

/-- The name under which the whole context is visible. -/
def contextName : String := "variableContext"

/-- Lays native bindings over a context. -/
def wrap (native : Dictionary Json) (context : Context) : Bindings := ⟨native, context, false⟩

/-- Makes the whole context visible. -/
def withContext (b : Bindings) : Bindings := { b with exposed := true }

/-- Whether a name is that of the exposed context. -/
def isContext (b : Bindings) (name : String) : Bool := b.exposed && name == contextName

/-- The value of a name. -/
def get? (b : Bindings) (name : String) : Option Json :=
  if b.isContext name then some b.context.toObject
  else
    match b.native.get? name with
    | some value => some value
    | none => b.context.resolve name

/-- Whether a name is visible. -/
def contains (b : Bindings) (name : String) : Bool := (b.get? name).isSome

/-- Sets a native binding and gives the native value that it replaces. -/
def insert (b : Bindings) (name : String) (value : Json) : Option Json × Bindings :=
  (b.native.get? name, { b with native := b.native.insert name value })

/-- The visible names with their values, each once: the exposed context, the native bindings, and the
    variables that nothing shadows. -/
def toList (b : Bindings) : List (String × Json) :=
  (if b.exposed then [(contextName, b.context.toObject)] else [])
    ++ b.native.toList.filter (fun pair => !b.isContext pair.1)
    ++ b.context.toList.filter (fun pair => !b.isContext pair.1 && !b.native.contains pair.1)

end Bindings

end DecisionEval
