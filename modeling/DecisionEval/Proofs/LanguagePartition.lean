/-
Module: DecisionEval.Proofs.LanguagePartition
Purpose: Every identifier that is not blank belongs to one class of languages, and the class of the formula language
  is closed under the case that registries ignore.
Main exports: LanguageClass.predicates_of_class, LanguageClass.lowercase_eq_alias_iff,
  LanguageClass.key_ne_of_script, LanguageClass.Partition, LanguageClass.partition_identifier
-/
import DecisionEval.Proofs.AsciiCase
import DecisionEval.Proofs.LanguagePaths
import DecisionEval.Proofs.RegistryHistory

namespace DecisionEval

namespace LanguageClass

variable {language other name : String} {selected : LanguageClass}

/-!
### The three predicates and the class
-/

/-- Whether a class is that of script languages. -/
def isScriptClass : LanguageClass → Bool
  | .script _ => true
  | _ => false

theorem isFormula_of_blank (blank : Text.isBlank language = true) :
    isFormula language = .error .missingLanguage := by
  simp [isFormula, ensure, blank, bind, Except.bind]

theorem isInterpolated_of_blank (blank : Text.isBlank language = true) :
    isInterpolated language = .error .missingLanguage := by
  simp [isInterpolated, ensure, blank, bind, Except.bind]

/-- Whether an identifier is that of a script language is read off its class. -/
theorem isScript_eq (language : String) : isScript language = (of language).map isScriptClass := by
  unfold isScript
  cases of language with
  | error cause => rfl
  | ok selected => cases selected <;> rfl

theorem of_eq_formula_iff :
    of language = .ok .formula ↔ Text.isBlank language = false ∧ namesFormula language = true := by
  rw [of_eq]
  cases Text.isBlank language with
  | true => simp
  | false =>
      cases namesFormula language with
      | true => simp
      | false =>
          simp only [Bool.false_eq_true, if_false]
          split <;> simp

theorem nonblank_of_class (classEq : of language = .ok selected) : Text.isBlank language = false := by
  rw [← Bool.not_eq_true]
  intro blank
  rw [of_eq_error_iff.mpr ⟨rfl, blank⟩] at classEq
  cases classEq

/-- An identifier with a class satisfies the predicate of this class alone. -/
theorem predicates_of_class (classEq : of language = .ok selected) :
    isFormula language = .ok (decide (selected = .formula)) ∧
      isInterpolated language = .ok (decide (selected = .interpolated)) ∧
        isScript language = .ok selected.isScriptClass := by
  have nonblank := nonblank_of_class classEq
  rw [isFormula_eq nonblank, isInterpolated_eq nonblank, isScript_eq, classEq]
  cases selected with
  | formula =>
      obtain ⟨-, named⟩ := of_eq_formula_iff.mp classEq
      have distinct : language ≠ interpolatedName := by
        rintro rfl
        rw [namesFormula_interpolatedName] at named
        cases named
      simp [named, distinct, Except.map, isScriptClass]
  | interpolated =>
      obtain rfl := of_eq_interpolated_iff.mp classEq
      simp [namesFormula_interpolatedName, Except.map, isScriptClass]
  | script other =>
      obtain ⟨-, -, unnamed, distinct⟩ := of_eq_script_iff.mp classEq
      simp [unnamed, distinct, Except.map, isScriptClass]

/-!
### Case
-/

/-- No letter of the short name of the formula language is the lower-case form of a character outside of ASCII. -/
theorem asciiCased_formulaAlias : ∀ d ∈ formulaAlias.toList, Text.IsAsciiCased d := by
  have letters : formulaAlias.toList = ['f', 'e', 'e', 'l'] := rfl
  have small : Text.IsAsciiCased 'f' ∧ Text.IsAsciiCased 'e' ∧ Text.IsAsciiCased 'l' := by decide +kernel
  simp [letters, small]

/-- An identifier is lower-cased to the short name of the formula language exactly if it is that name in some case of
its ASCII letters. -/
theorem lowercase_eq_alias_iff :
    Text.lowercase language = formulaAlias ↔ Text.equalIgnoringAsciiCase language formulaAlias = true :=
  Text.lowercase_eq_iff_equalIgnoringAsciiCase asciiCased_formulaAlias

/-- A script language is kept apart from the short name of the formula language in a registry, however that name is
written. -/
theorem key_ne_of_script (classEq : of language = .ok (.script other))
    (named : Text.lowercase name = formulaAlias) : Registry.key name ≠ Registry.key language := by
  intro same
  obtain ⟨-, -, unnamed, -⟩ := of_eq_script_iff.mp classEq
  have cased : Text.lowercase language = formulaAlias := same.symm.trans named
  simp [namesFormula, lowercase_eq_alias_iff.mp cased] at unnamed

end LanguageClass

namespace Registry

variable {r : Registry} {requests : List Request} {language : String}

/-- Calls that are left out do not show if none of them names the language. -/
theorem resolve_afterAll_filter_of_key (kept : Request → Bool)
    (named : ∀ request, key request.language = key language → kept request = true) :
    (r.afterAll (requests.filter kept)).resolve language = (r.afterAll requests).resolve language := by
  have same : (requests.filter kept).filter (fun request => key request.language = key language) =
      requests.filter fun request => key request.language = key language := by
    rw [List.filter_filter]
    refine List.filter_congr fun request _ => ?_
    by_cases names : key request.language = key language
    · simp [names, named request names]
    · simp [names]
  rw [← resolve_afterAll_filter r (requests.filter kept), same, resolve_afterAll_filter]

end Registry

namespace LanguageClass

variable {language : String}

/-!
### The partition
-/

/-- How an identifier is classified, and that registries agree with it.

* `missing`: a blank identifier has no class, and every predicate fails for want of a language.
* `classified`: every other one has a class; all predicates answer, exactly one of them with yes, and that is the one
  of the class.
* `carried`: a script language is handed on as it is written.
* `cased`: the full lower-casing of registries and the case of ASCII letters pick out the same spellings of the short
  name of the formula language.
* `apart`, `unreached`, `unnoticed`: so a script language never shares its key with that name in any case; what is
  found for it was last registered under another name; and calls that name the formula language so do not show. -/
structure Partition (language : String) : Prop where
  missing : Text.isBlank language = true →
    of language = .error .missingLanguage ∧ isFormula language = .error .missingLanguage ∧
      isInterpolated language = .error .missingLanguage ∧ isScript language = .error .missingLanguage
  classified : Text.isBlank language = false → ∃ selected formula interpolated script,
    of language = .ok selected ∧ isFormula language = .ok formula ∧
      isInterpolated language = .ok interpolated ∧ isScript language = .ok script ∧
        [formula, interpolated, script].count true = 1 ∧ (formula = true ↔ selected = .formula) ∧
          (interpolated = true ↔ selected = .interpolated) ∧
            (script = true ↔ ∃ other, selected = .script other)
  carried : ∀ other, of language = .ok (.script other) → other = language
  cased : Text.lowercase language = formulaAlias ↔
    Text.equalIgnoringAsciiCase language formulaAlias = true
  apart : ∀ name, of language = .ok (.script language) → Text.lowercase name = formulaAlias →
    Registry.key name ≠ Registry.key language
  unreached : ∀ (origin : Registry.Origin) (requests : List Registry.Request) (backend : ScriptBackend),
    of language = .ok (.script language) →
      (origin.registry.afterAll requests).resolve language = some backend →
        ∃ earlier name later, origin.opening ++ requests = earlier ++ .register name backend :: later ∧
          Registry.key name = Registry.key language ∧ Text.lowercase name ≠ formulaAlias ∧
            ∀ request ∈ later, request.Changes → Registry.key request.language ≠ Registry.key language
  unnoticed : ∀ (r : Registry) (requests : List Registry.Request), of language = .ok (.script language) →
    (r.afterAll (requests.filter fun request =>
        Text.lowercase request.language ≠ formulaAlias)).resolve language =
      (r.afterAll requests).resolve language

/-- Every identifier is classified in one way at most, and as registries see it. -/
theorem partition_identifier (language : String) : Partition language := by
  constructor
  case missing =>
    intro blank
    have classEq : of language = .error .missingLanguage := of_eq_error_iff.mpr ⟨rfl, blank⟩
    refine ⟨classEq, isFormula_of_blank blank, isInterpolated_of_blank blank, ?_⟩
    rw [isScript_eq, classEq]
    rfl
  case classified =>
    intro nonblank
    cases classEq : of language with
    | error cause =>
        obtain ⟨-, blank⟩ := of_eq_error_iff.mp classEq
        rw [nonblank] at blank
        cases blank
    | ok selected =>
        obtain ⟨formula, interpolated, script⟩ := predicates_of_class classEq
        refine ⟨selected, _, _, _, rfl, formula, interpolated, script, ?_⟩
        cases selected <;> simp [isScriptClass]
  case carried => exact fun other classEq => eq_of_of_eq_script classEq
  case cased => exact lowercase_eq_alias_iff
  case apart => exact fun name classEq named => key_ne_of_script classEq named
  case unreached =>
    intro origin requests backend classEq found
    rw [origin.registry_afterAll] at found
    obtain ⟨earlier, name, later, split, same, last⟩ :=
      Registry.resolve_afterAll_empty_eq_some_iff.mp found
    exact ⟨earlier, name, later, split, same, fun named => key_ne_of_script classEq named same, last⟩
  case unnoticed =>
    intro r requests classEq
    apply Registry.resolve_afterAll_filter_of_key
    intro request same
    exact decide_eq_true fun named => key_ne_of_script classEq named same

end LanguageClass

end DecisionEval
