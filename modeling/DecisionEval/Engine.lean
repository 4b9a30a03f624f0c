/-
Module: DecisionEval.Engine
Purpose: Settings together with the collaborators of an evaluator.
Main exports: Engine, Engine.ofSettings, Engine.evaluator
-/
import DecisionEval.Evaluator
import DecisionEval.Settings

namespace DecisionEval

/-- Settings, collaborators, and the lookups that serve the prelude resources. -/
structure Engine where
  settings : Settings
  formulaEngine : FormulaEngine
  textProvider : TextProvider
  globalResources : Option ResourceLookup
  applicationResources : Option ResourceLookup

namespace Engine

/-- The built-in collaborators with the given settings. Directories named in the settings become lookups,
    by way of the function that serves a directory. -/
def ofSettings (serve : String → ResourceLookup) (settings : Settings) : Engine where
  settings := settings
  formulaEngine := BuiltIn.formulaEngine
  textProvider := BuiltIn.textProvider
  globalResources := settings.globalDirectory.map serve
  applicationResources := settings.applicationDirectory.map serve

/-- Loads the prelude. -/
def loadPrelude (engine : Engine) : Prelude :=
  Prelude.load engine.globalResources engine.settings.globalResource engine.applicationResources
    engine.settings.applicationResource

/-- The evaluator of an engine; its prelude is loaded once, here. -/
def evaluator (engine : Engine) : Evaluator where
  formulaEngine := engine.formulaEngine
  textProvider := engine.textProvider
  prelude := engine.loadPrelude
  compileScripts := engine.settings.compileScripts
  defaultLanguage := engine.settings.defaultLanguage

/-- The text that shows the settings of an engine and which lookups it has. -/
def debugText (engine : Engine) : String :=
  "EngineConfiguration \x7b config: " ++ engine.settings.debugText
    ++ ", global_resources: " ++ Settings.boolText engine.globalResources.isSome
    ++ ", application_resources: " ++ Settings.boolText engine.applicationResources.isSome ++ ", .. \x7d"

end Engine

end DecisionEval
