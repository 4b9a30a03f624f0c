/-
Module: DecisionEval.Registry
Purpose: The script backends by their languages, whatever the case of a language's name.
Main exports: Registry, Registry.register, Registry.unregister, Registry.resolve
-/
import DecisionEval.BuiltIn
import DecisionEval.Text.Lowercase

namespace DecisionEval

/-- Script backends by the lower-case names of their languages. -/
structure Registry where
  backends : Dictionary ScriptBackend
deriving Inhabited

namespace Registry

/-- The name under which the backend of a language is kept. -/
def key (language : String) : String := Text.lowercase language

/-- The registry without backends. -/
def empty : Registry := ⟨∅⟩

/-- The backend of a language. -/
def resolve (r : Registry) (language : String) : Option ScriptBackend := r.backends.get? (key language)

/-- Registers a backend for a language, and gives the one that it replaces. -/
def register (r : Registry) (language : String) (backend : ScriptBackend) :
    Option ScriptBackend × Registry :=
  (r.resolve language, ⟨r.backends.insert (key language) backend⟩)

/-- Removes the backend of a language and gives it. -/
def unregister (r : Registry) (language : String) : Option ScriptBackend × Registry :=
  (r.resolve language, ⟨r.backends.erase (key language)⟩)

/-- The language of the built-in script backend. -/
def builtInLanguage : String := "cel"

/-- The registry with the built-in script backend. -/
def withDefaults : Registry := (empty.register builtInLanguage BuiltIn.scriptBackend).2

/-- The languages in ascending order. -/
def languages (r : Registry) : List String := r.backends.keys

/-- The number of languages. -/
def size (r : Registry) : Nat := r.backends.size

/-- Whether no backend is registered. -/
def isEmpty (r : Registry) : Bool := r.backends.isEmpty

end Registry

end DecisionEval
