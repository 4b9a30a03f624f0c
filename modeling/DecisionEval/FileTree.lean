/-
Module: DecisionEval.FileTree
Purpose: Directories and files as a tree, and the reading of a file by its path.
Main exports: FileTree, FileTree.insert, FileTree.walk, FileTree.read, pathSegments
-/
import DecisionEval.Dictionary
import DecisionEval.Text.Utf8

namespace DecisionEval

/-- A file, or a directory with named entries. -/
inductive FileTree where
  | file (content : List UInt8)
  | directory (entries : List (String × FileTree))
deriving Repr, Inhabited

/-- Why a file is not read. -/
inductive ReadError where
  | notFound
  | notDirectory
  | isDirectory
  | nameTooLong
  | invalidPath
deriving Repr, DecidableEq

/-- The parts of a text between its slashes, empty ones included. -/
def splitAtSlashes : List Char → List (List Char)
  | [] => [[]]
  | c :: rest =>
    match splitAtSlashes rest with
    | [] => [[c]]
    | first :: others => if c = '/' then [] :: first :: others else (c :: first) :: others

/-- The parts of a path between its slashes; slashes in a row count as one. -/
def pathSegments (path : String) : List String :=
  ((splitAtSlashes path.toList).filter (fun part => !part.isEmpty)).map String.ofList

/-- Whether a path starts at the top of all directories. -/
def isAbsolutePath (path : String) : Bool := path.toList.head? == some '/'

/-- Whether a path ends in a slash. -/
def endsInSlash (path : String) : Bool := path.toList.getLast? == some '/'

/-- The path of a name in a directory; an absolute name stays as it is. -/
def joinPath (directory name : String) : String :=
  if isAbsolutePath name then name
  else if directory.isEmpty || endsInSlash directory then directory ++ name
  else directory ++ "/" ++ name

namespace FileTree

/-- The directory without entries. -/
def emptyDirectory : FileTree := .directory []

/-- The entries of a directory; a file has none. -/
def entries : FileTree → List (String × FileTree)
  | .file _ => []
  | .directory entries => entries

/-- Puts a tree at a path, with the directories above it. -/
def insert (leaf : FileTree) : List String → FileTree → FileTree
  | [], _ => leaf
  | name :: rest, tree =>
    let below := (Entries.find? name tree.entries).getD emptyDirectory
    .directory (Entries.insert name (insert leaf rest below) tree.entries)

/-- The longest name of an entry, in bytes. -/
def nameLimit : Nat := 255

/-- The least length in bytes of a path that is too long. -/
def pathLimit : Nat := 4096

/-- Follows the parts of a path from a tree, of which the directories above are given from the nearest
    on. A single point stays, two points lead up, and the top has itself above. -/
def walk : (above : List FileTree) → FileTree → List String → Except ReadError FileTree
  | _, tree, [] => .ok tree
  | _, .file _, _ :: _ => .error .notDirectory
  | above, .directory entries, segment :: rest =>
    if segment = "." then walk above (.directory entries) rest
    else if segment = ".." then
      match above with
      | [] => walk [] (.directory entries) rest
      | parent :: higher => walk higher parent rest
    else if nameLimit < segment.utf8ByteSize then .error .nameTooLong
    else
      match Entries.find? segment entries with
      | some next => walk (.directory entries :: above) next rest
      | none => .error .notFound

/-- The content of the file at a path, which is taken from the top of the tree. -/
def read (tree : FileTree) (path : String) : Except ReadError (List UInt8) := do
  if path.toList.contains '\x00' then throw .invalidPath
  if pathLimit ≤ path.utf8ByteSize then throw .nameTooLong
  if path.isEmpty then throw .notFound
  match (← walk [] tree (pathSegments path)) with
  | .file content => if endsInSlash path then throw .notDirectory else return content
  | .directory _ => throw .isDirectory

end FileTree

end DecisionEval
