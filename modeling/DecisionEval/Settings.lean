/-
Module: DecisionEval.Settings
Purpose: The settings of an evaluation engine, from defaults, an environment, or JSON.
Main exports: Settings, Settings.ofEnvironment, Settings.decode, Settings.toJson
-/
import DecisionEval.Json.Decode
import DecisionEval.Language
import DecisionEval.Prelude
import DecisionEval.Slot

namespace DecisionEval

/-- The settings of an engine: the language of expressions that have none of their own, whether scripts are
    compiled where their backend offers it, the names of the prelude resources, and the directories that
    serve them. -/
structure Settings where
  defaultLanguage : String := LanguageClass.formulaAlias
  compileScripts : Bool := true
  globalResource : String := Prelude.globalResource
  applicationResource : String := Prelude.applicationResource
  globalDirectory : Option String := none
  applicationDirectory : Option String := none
deriving Repr, DecidableEq, Inhabited

namespace Settings

/-!
### The environment
-/

/-- The truth value of a text, white space aside. -/
def readBool? (text : String) : Option Bool :=
  let word := Text.trim text
  if word = "true" then some true else if word = "false" then some false else none

/-- The defaults, overlaid with the variables of an environment. A blank language and a text that is no
    truth value change nothing. -/
def ofEnvironment (environment : String → Option String) : Settings where
  defaultLanguage :=
    ((environment "DMN_EVAL_DEFAULT_LANGUAGE").filter (fun text => !Text.isBlank text)).getD
      LanguageClass.formulaAlias
  compileScripts := ((environment "DMN_EVAL_SCRIPT_COMPILATION").bind readBool?).getD true
  globalResource := (environment "DMN_EVAL_GLOBAL_PRELUDE").getD Prelude.globalResource
  applicationResource := (environment "DMN_EVAL_APP_PRELUDE").getD Prelude.applicationResource
  globalDirectory := environment "DMN_EVAL_GLOBAL_PRELUDE_DIR"
  applicationDirectory := environment "DMN_EVAL_APP_PRELUDE_DIR"

/-!
### JSON
-/

/-- Reads a text. -/
def decodeText : Json → Except Json.DecodeError String
  | .string text => .ok text
  | other => .error (.invalidType other "a string")

/-- Reads a truth value. -/
def decodeBool : Json → Except Json.DecodeError Bool
  | .bool value => .ok value
  | other => .error (.invalidType other "a boolean")

/-- Reads an optional path. -/
def decodePath : Json → Except Json.DecodeError (Option String)
  | .null => .ok none
  | .string path => .ok (some path)
  | other => .error (.invalidType other "path string")

/-- A setting: its name, and the change that a JSON value makes. -/
structure Setting where
  name : String
  decode : Json → Settings → Except Json.DecodeError Settings

/-- The settings in the order in which an array holds them. -/
def all : List Setting :=
  [⟨"default_expression_language", fun j s => (decodeText j).map (fun v => { s with defaultLanguage := v })⟩,
    ⟨"enable_script_compilation", fun j s => (decodeBool j).map (fun v => { s with compileScripts := v })⟩,
    ⟨"global_prelude_resource", fun j s => (decodeText j).map (fun v => { s with globalResource := v })⟩,
    ⟨"application_prelude_resource",
      fun j s => (decodeText j).map (fun v => { s with applicationResource := v })⟩,
    ⟨"global_prelude_dir", fun j s => (decodePath j).map (fun v => { s with globalDirectory := v })⟩,
    ⟨"application_prelude_dir",
      fun j s => (decodePath j).map (fun v => { s with applicationDirectory := v })⟩]

/-- Reads the fields of an object in their order. Unknown fields are ignored. -/
def decodeFields : Settings → List (String × Json) → Except Json.DecodeError Settings
  | settings, [] => .ok settings
  | settings, (name, value) :: rest =>
    match all.find? (·.name == name) with
    | none => decodeFields settings rest
    | some setting => do
      let settings ← setting.decode value settings
      decodeFields settings rest

/-- Reads the items of an array, each as the setting of its position. -/
def decodeItems : Settings → List Setting → List Json → Except Json.DecodeError Settings
  | settings, [], _ => .ok settings
  | settings, _, [] => .ok settings
  | settings, setting :: others, value :: rest => do
    let settings ← setting.decode value settings
    decodeItems settings others rest

/-- Reads settings from a JSON value: an object with the names of the settings, or an array with their
    values. What is missing keeps its default. -/
def decode : Json → Except Json.DecodeError Settings
  | .object fields => decodeFields {} fields
  | .array items => do
    let settings ← decodeItems {} all items
    if all.length < items.length then .error (.tooManyItems items.length) else .ok settings
  | other => .error (.invalidType other "struct EvaluationConfig")

/-- An optional path as JSON. -/
def pathJson : Option String → Json
  | none => .null
  | some path => .string path

/-- Settings as a JSON object. -/
def toJson (s : Settings) : Json :=
  .object (Entries.ofList
    [("default_expression_language", .string s.defaultLanguage),
      ("enable_script_compilation", .bool s.compileScripts),
      ("global_prelude_resource", .string s.globalResource),
      ("application_prelude_resource", .string s.applicationResource),
      ("global_prelude_dir", pathJson s.globalDirectory),
      ("application_prelude_dir", pathJson s.applicationDirectory)])

/-- The text of a truth value. -/
def boolText (value : Bool) : String := if value then "true" else "false"

/-- The text that shows settings in full. -/
def debugText (s : Settings) : String :=
  "EvaluationConfig \x7b default_expression_language: " ++ Text.quoted s.defaultLanguage
    ++ ", enable_script_compilation: " ++ boolText s.compileScripts
    ++ ", global_prelude_resource: " ++ Text.quoted s.globalResource
    ++ ", application_prelude_resource: " ++ Text.quoted s.applicationResource
    ++ ", global_prelude_dir: " ++ Slot.optionText s.globalDirectory
    ++ ", application_prelude_dir: " ++ Slot.optionText s.applicationDirectory ++ " \x7d"

end Settings

end DecisionEval
