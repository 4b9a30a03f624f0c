/-
Module: DecisionEval.Context
Purpose: The variables that an expression is evaluated against.
Main exports: Context, Context.composite, Context.withVariable, Context.resolve, Context.decode
-/
import DecisionEval.Json.Decode

namespace DecisionEval

/-- The variables of one evaluation: names with JSON values, in ascending order of the names. -/
structure Context where
  defined : Dictionary Json
deriving DecidableEq, Inhabited

namespace Context

/-- The context without variables. -/
def empty : Context := ⟨∅⟩

/-- The context with one more variable, in the place of an earlier one of its name. -/
def withVariable (c : Context) (name : String) (value : Json) : Context :=
  ⟨c.defined.insert name value⟩

/-- The context of exactly one variable. -/
def single (name : String) (value : Json) : Context := empty.withVariable name value

/-- Collects variables; of several with one name the last is kept. -/
def ofList (pairs : List (String × Json)) : Context := ⟨Dictionary.ofList pairs⟩

/-- The value of a variable. -/
def resolve (c : Context) (name : String) : Option Json := c.defined.get? name

/-- Whether a variable is defined. -/
def contains (c : Context) (name : String) : Bool := (c.resolve name).isSome

/-- The variables in ascending order of their names. -/
def toList (c : Context) : List (String × Json) := c.defined.toList

/-- The names in ascending order. -/
def names (c : Context) : List String := c.toList.map (·.1)

/-- The number of variables. -/
def size (c : Context) : Nat := c.toList.length

/-- Whether there are no variables. -/
def isEmpty (c : Context) : Bool := c.size == 0

/-- The whole context as a JSON object. -/
def toObject (c : Context) : Json := .object c.toList

/-- Adds the variables of `other` that the dictionary does not define yet. -/
def addMissing (defined : Dictionary Json) (other : Context) : Dictionary Json :=
  other.toList.foldl
    (fun merged pair => if merged.contains pair.1 then merged else merged.insert pair.1 pair.2) defined

/-- Merges contexts; a variable that an earlier context defines shadows those of later ones. -/
def composite (contexts : List Context) : Context := ⟨contexts.foldl addMissing ∅⟩

/-- Reads a context from a JSON value, which has to be an object. -/
def decode : Json → Except Json.DecodeError Context
  | .object fields => .ok (ofList fields)
  | other => .error (.invalidType other "a map")

/-- Equality of contexts as JSON objects. -/
def same (a b : Context) : Bool := a.toObject.same b.toObject

end Context

end DecisionEval
