/-
Module: DecisionEval.Main
Purpose: The program: arguments and environment in, output and exit code out.
Main exports: main
-/
import DecisionEval.CommandLine

open DecisionEval

/-- The environment variables that the settings are read from. -/
def settingNames : List String :=
  ["DMN_EVAL_DEFAULT_LANGUAGE", "DMN_EVAL_SCRIPT_COMPILATION", "DMN_EVAL_GLOBAL_PRELUDE",
    "DMN_EVAL_APP_PRELUDE", "DMN_EVAL_GLOBAL_PRELUDE_DIR", "DMN_EVAL_APP_PRELUDE_DIR"]

/-- Reads the prelude resource of a directory, where there is one that can be read. -/
def readResource (directory : Option String) (name : String) : IO (List ((String × String) × List UInt8)) := do
  match directory with
  | none => return []
  | some directory =>
    if staysBelow name then
      try
        let content ← IO.FS.readBinFile (joinPath directory name)
        return [((directory, name), content.toList)]
      catch _ => return []
    else return []

/-- The lookups that serve resources which have been read before. -/
def serveFrom (resources : List ((String × String) × List UInt8)) (directory : String) : ResourceLookup where
  find name := .ok (resources.lookup (directory, name))

/-- Evaluates the expression that the arguments name and prints its value as JSON. -/
def main (arguments : List String) : IO UInt32 := do
  let values ← settingNames.mapM (fun name => return (name, ← IO.getEnv name))
  let environment (name : String) : Option String := (values.lookup name).join
  let settings := Settings.ofEnvironment environment
  let globals ← readResource settings.globalDirectory settings.globalResource
  let applications ← readResource settings.applicationDirectory settings.applicationResource
  let result := CommandLine.exit
    (CommandLine.run arguments environment (serveFrom (globals ++ applications)))
  IO.print result.output
  result.errors.forM (fun line => IO.eprintln line)
  return UInt32.ofNat result.code
