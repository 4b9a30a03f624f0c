/-
Module: DecisionEval.Proofs.ConfiguredLanguage
Purpose: The language that an expression is evaluated in if none is asked for; where the settings come from an
  environment there always is one.
Main exports: Text.Preferred, Evaluator.preferred_languageOf, Evaluator.evaluate_outcome_eq_missingLanguage_iff,
  Engine.AlwaysNamed, Engine.alwaysNamed_ofEnvironment
-/
import DecisionEval.Engine
import DecisionEval.Proofs.EvaluationErrors

namespace DecisionEval

namespace Text

variable {choice : Option String} {fallback text other : String}

/-- The text that is taken: the choice as it is written, white space around it included, unless it is blank or
there is none; then the fallback. -/
inductive Preferred (choice : Option String) (fallback : String) : String → Prop where
  | chosen {text : String} : choice = some text → isBlank text = false → Preferred choice fallback text
  | fallback : (∀ text, choice = some text → isBlank text = true) → Preferred choice fallback fallback

theorem preferred_getD_filter (choice : Option String) (fallback : String) :
    Preferred choice fallback ((choice.filter fun text => !isBlank text).getD fallback) := by
  cases choice with
  | none =>
      apply Preferred.fallback
      intro text chosen
      cases chosen
  | some text =>
      cases blankEq : isBlank text with
      | true =>
          rw [Option.filter_some, if_neg (by simp [blankEq]), Option.getD_none]
          apply Preferred.fallback
          intro other chosen
          cases chosen
          exact blankEq
      | false =>
          rw [Option.filter_some, if_pos (by simp [blankEq]), Option.getD_some]
          exact .chosen rfl blankEq

/-- Only one text is taken. -/
theorem Preferred.eq (preferred : Preferred choice fallback text)
    (alsoPreferred : Preferred choice fallback other) : text = other := by
  cases preferred with
  | chosen choiceEq nonblank =>
      cases alsoPreferred with
      | chosen otherEq _ => exact Option.some.inj (choiceEq.symm.trans otherEq)
      | fallback blank => simp [blank _ choiceEq] at nonblank
  | fallback blank =>
      cases alsoPreferred with
      | chosen otherEq nonblank => simp [blank _ otherEq] at nonblank
      | fallback => rfl

/-- What is taken is blank only if the fallback is, and the choice is no better. -/
theorem Preferred.isBlank_iff (preferred : Preferred choice fallback text) :
    isBlank text = true ↔
      isBlank fallback = true ∧ ∀ chosen, choice = some chosen → isBlank chosen = true := by
  cases preferred with
  | chosen choiceEq nonblank =>
      constructor
      · intro blank
        simp [blank] at nonblank
      · rintro ⟨-, blank⟩
        exact blank _ choiceEq
  | fallback blank => exact ⟨fun blankFallback => ⟨blankFallback, blank⟩, fun both => both.1⟩

end Text

namespace Evaluator

variable {ev : Evaluator} {registry : Registry} {e : Expression} {context : Context}

/-- An expression is evaluated in its own language, or else in the default. -/
theorem preferred_languageOf (ev : Evaluator) (e : Expression) :
    Text.Preferred e.language ev.defaultLanguage (ev.languageOf e) :=
  Text.preferred_getD_filter e.language ev.defaultLanguage

/-- An expression with a text lacks a language exactly if both its own and the default are blank. -/
theorem evaluate_outcome_eq_missingLanguage_iff :
    (ev.evaluate registry e context).outcome = .error .missingLanguage ↔
      (∃ text, e.text? = some text) ∧ Text.isBlank ev.defaultLanguage = true ∧
        ∀ own, e.language = some own → Text.isBlank own = true := by
  rw [evaluate, evaluateIn_outcome_eq_error_iff, ← (preferred_languageOf ev e).isBlank_iff]
  constructor
  · intro raises
    cases raises with
    | missingLanguage present blank => exact ⟨⟨_, present⟩, blank⟩
  · rintro ⟨⟨text, present⟩, blank⟩
    exact .missingLanguage present blank

end Evaluator

/-- The default language of settings from an environment is that of its variable, or else the formula
language. -/
theorem Settings.preferred_defaultLanguage (environment : String → Option String) :
    Text.Preferred (environment "DMN_EVAL_DEFAULT_LANGUAGE") LanguageClass.formulaAlias
      (ofEnvironment environment).defaultLanguage :=
  Text.preferred_getD_filter _ _

theorem Settings.isBlank_defaultLanguage (environment : String → Option String) :
    Text.isBlank (ofEnvironment environment).defaultLanguage = false := by
  have named : Text.isBlank LanguageClass.formulaAlias = false := by decide
  rw [← Bool.not_eq_true, (preferred_defaultLanguage environment).isBlank_iff, named]
  simp

namespace Engine

/-- An evaluator finds a language for an expression.

* `default`, `defaultNonblank`: the default is what the variable of the environment says, if that is not blank,
  and otherwise the formula language; so it is never blank.
* `language`: the language is that of the expression, if that is not blank, and otherwise the default.
* `evaluated`: this language is not blank, it belongs to one of the paths of evaluation, and the evaluation is
  the one in this language: the same result, the same calls, and the same slots afterwards.
* `named`: so no evaluation fails for want of a language. -/
structure AlwaysNamed (environment : String → Option String) (ev : Evaluator) (registry : Registry)
    (e : Expression) (context : Context) : Prop where
  default : Text.Preferred (environment "DMN_EVAL_DEFAULT_LANGUAGE") LanguageClass.formulaAlias
    ev.defaultLanguage
  defaultNonblank : Text.isBlank ev.defaultLanguage = false
  language : Text.Preferred e.language ev.defaultLanguage (ev.languageOf e)
  evaluated : ∀ language, Text.Preferred e.language ev.defaultLanguage language →
    Text.isBlank language = false ∧ (∃ selected, LanguageClass.of language = .ok selected) ∧
      ev.evaluate registry e context = ev.evaluateIn registry language e context
  named : (ev.evaluate registry e context).outcome ≠ .error .missingLanguage

/-- With settings from an environment, whatever its variables say, an engine finds a language for every
expression, with any collaborators and lookups, and in every state of the slots. -/
theorem alwaysNamed_ofEnvironment (environment : String → Option String) (formulaEngine : FormulaEngine)
    (textProvider : TextProvider) (globalResources applicationResources : Option ResourceLookup)
    (registry : Registry) (e : Expression) (context : Context) :
    AlwaysNamed environment
      (Engine.mk (Settings.ofEnvironment environment) formulaEngine textProvider globalResources
        applicationResources).evaluator registry e context := by
  have defaultNonblank := Settings.isBlank_defaultLanguage environment
  constructor
  case default => exact Settings.preferred_defaultLanguage environment
  case defaultNonblank => exact defaultNonblank
  case language => exact Evaluator.preferred_languageOf _ e
  case evaluated =>
    intro language preferred
    have nonblank : Text.isBlank language = false := by
      rw [← Bool.not_eq_true, preferred.isBlank_iff]
      rintro ⟨blank, -⟩
      exact absurd blank (by rw [evaluator, defaultNonblank]; decide)
    refine ⟨nonblank, ?_, ?_⟩
    · cases classEq : LanguageClass.of language with
      | ok selected => exact ⟨selected, rfl⟩
      | error cause =>
          rw [(LanguageClass.of_eq_error_iff.mp classEq).2] at nonblank
          cases nonblank
    · rw [Evaluator.evaluate, preferred.eq (Evaluator.preferred_languageOf _ e)]
  case named =>
    intro failed
    obtain ⟨-, blank, -⟩ := Evaluator.evaluate_outcome_eq_missingLanguage_iff.mp failed
    exact absurd blank (by rw [evaluator, defaultNonblank]; decide)

-- White space of any kind is no language; around one it is part of the name.
example :
    (Settings.ofEnvironment fun _ => some "\u00a0\t").defaultLanguage = "feel" ∧
      (Settings.ofEnvironment fun _ => some " juel ").defaultLanguage = " juel " := by
  decide +kernel

end Engine

end DecisionEval
