/-
Module: DecisionEval.Resource
Purpose: Where named resources come from.
Main exports: ResourceError, ResourceLookup, ResourceLookup.inDirectory, staysBelow
-/
import DecisionEval.FileTree

namespace DecisionEval

/-- Why a lookup fails: it cannot serve requests, or reading went wrong. -/
inductive ResourceError where
  | unavailable (reason : String)
  | reading (cause : ReadError)
deriving Repr, DecidableEq

/-- The message of a lookup that cannot serve requests; how reading goes wrong is up to the system. -/
def ResourceError.message : ResourceError → String
  | .unavailable reason => "Resource lookup unavailable: " ++ reason
  | .reading _ => "I/O error"

/-- A source of resources: the bytes of a name, nothing where there is no such resource, or a failure. -/
structure ResourceLookup where
  find : String → Except ResourceError (Option (List UInt8))

/-- Whether a name stays below the directory that it is looked up in: it does not start at the top, and no
    part of it leads up. -/
def staysBelow (name : String) : Bool := !isAbsolutePath name && !(pathSegments name).contains ".."

namespace ResourceLookup

/-- Resources held in memory. -/
def ofDictionary (resources : Dictionary (List UInt8)) : ResourceLookup where
  find name := .ok (resources.get? name)

/-- A lookup that always fails. -/
def unavailable (reason : String) : ResourceLookup where
  find _ := .error (.unavailable reason)

/-- The files below a directory. Names that lead out of it are not served, as if they did not exist. -/
def inDirectory (files : FileTree) (directory : String) : ResourceLookup where
  find name :=
    if staysBelow name then
      match files.read (joinPath directory name) with
      | .ok content => .ok (some content)
      | .error .notFound => .ok none
      | .error cause => .error (.reading cause)
    else .ok none

end ResourceLookup

end DecisionEval
