import DecisionEval.Backend
import DecisionEval.Binary64
import DecisionEval.Bindings
import DecisionEval.BuiltIn
import DecisionEval.Cel.Comparison
import DecisionEval.Cel.Conversion
import DecisionEval.Cel.Duration
import DecisionEval.Cel.Eval
import DecisionEval.Cel.EvalError
import DecisionEval.Cel.Expr
import DecisionEval.Cel.Function
import DecisionEval.Cel.Literal
import DecisionEval.Cel.Operator
import DecisionEval.Cel.Parser
import DecisionEval.Cel.Program
import DecisionEval.Cel.Timestamp
import DecisionEval.Cel.Token
import DecisionEval.Cel.Value
import DecisionEval.CommandLine
import DecisionEval.Context
import DecisionEval.Decimal.Notation
import DecisionEval.Decimal.Numeral
import DecisionEval.Decimal.Shortest
import DecisionEval.Dictionary
import DecisionEval.Engine
import DecisionEval.EvaluationError
import DecisionEval.Evaluator
import DecisionEval.Expression
import DecisionEval.FileTree
import DecisionEval.Interpolation
import DecisionEval.Json.Basic
import DecisionEval.Json.Decode
import DecisionEval.Json.Reader
import DecisionEval.Json.Writer
import DecisionEval.Language
import DecisionEval.Main
import DecisionEval.Outcome
import DecisionEval.Power
import DecisionEval.Prelude
import DecisionEval.Race
import DecisionEval.Registry
import DecisionEval.Resource
import DecisionEval.Session
import DecisionEval.Settings
import DecisionEval.Slot
import DecisionEval.Slot.History
import DecisionEval.Slot.Interleaving
import DecisionEval.Template
import DecisionEval.Template.Grammar
import DecisionEval.Template.Offsets
import DecisionEval.Text.Ascii
import DecisionEval.Text.Base64
import DecisionEval.Text.Blank
import DecisionEval.Text.CaseTable
import DecisionEval.Text.CodeRange
import DecisionEval.Text.EscapeTable
import DecisionEval.Text.Lowercase
import DecisionEval.Text.Quoted
import DecisionEval.Text.Utf8
import DecisionEval.Proofs.InstallOnce
import DecisionEval.Proofs.EvaluationSteps
import DecisionEval.Proofs.SlotAgreement
import DecisionEval.Proofs.SessionRun
import DecisionEval.Proofs.Compilation
import DecisionEval.Proofs.SlotSoundness
import DecisionEval.Proofs.SharedExpression
import DecisionEval.Proofs.TemplateGrammar
import DecisionEval.Proofs.JsonValues
import DecisionEval.Proofs.WellFormedValues
import DecisionEval.Proofs.CollaboratorCalls
import DecisionEval.Proofs.EvaluationErrors
import DecisionEval.Proofs.TemplateConcatenation
import DecisionEval.Proofs.BindingsView
import DecisionEval.Proofs.CelAgreement
import DecisionEval.Proofs.Racing
import DecisionEval.Proofs.Uninterrupted
import DecisionEval.Proofs.BareText
import DecisionEval.Proofs.ProgramBodies
import DecisionEval.Proofs.RegistryHistory
import DecisionEval.Proofs.ResourceConfinement
import DecisionEval.Proofs.Isolation
import DecisionEval.Proofs.PreludeReach
import DecisionEval.Proofs.ConfiguredLanguage
import DecisionEval.Proofs.Spellings
import DecisionEval.Proofs.FirstSuccess
import DecisionEval.Proofs.TemplateFaults
import DecisionEval.Proofs.LanguagePartition
import DecisionEval.Proofs.ContextAlgebra
import DecisionEval.Proofs.NormalText
import DecisionEval.Proofs.PaddedText
import DecisionEval.Proofs.CommandLineVariables
import DecisionEval.Proofs.TemplateOffsets
