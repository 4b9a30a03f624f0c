/-
Module: DecisionEval.Proofs.LanguagePaths
Purpose: Which identifiers select which path of evaluation, and the text that each path is handed.
Main exports: LanguageClass.of_eq, LanguageClass.of_eq_interpolated_iff, LanguageClass.eq_of_of_eq_script,
  LanguageClass.of_eq_error_iff, delimitedText, Expression.textFor_of_ne,
  Expression.textFor_interpolatedName
-/
import DecisionEval.Interpolation

namespace DecisionEval

namespace LanguageClass

variable {language other : String}

/-- Whether an identifier is one of those of the formula language. -/
def namesFormula (language : String) : Bool :=
  formulaNamespaces.contains language || Text.equalIgnoringAsciiCase language formulaAlias

theorem isFormula_eq (nonblank : Text.isBlank language = false) :
    isFormula language = .ok (namesFormula language) := by
  simp [isFormula, ensure, nonblank, namesFormula, bind, Except.bind, pure, Except.pure]

theorem isInterpolated_eq (nonblank : Text.isBlank language = false) :
    isInterpolated language = .ok (language == interpolatedName) := by
  simp [isInterpolated, ensure, nonblank, bind, Except.bind, pure, Except.pure]

/-- The four kinds of identifiers, in the order in which they are told apart. -/
theorem of_eq (language : String) : of language =
    if Text.isBlank language then .error .missingLanguage
    else if namesFormula language then .ok .formula
    else if language = interpolatedName then .ok .interpolated
    else .ok (.script language) := by
  cases blankEq : Text.isBlank language with
  | true => simp [of, isFormula, ensure, blankEq, bind, Except.bind]
  | false =>
      simp only [of, isFormula_eq blankEq, isInterpolated_eq blankEq, bind, Except.bind, pure,
        Except.pure, beq_iff_eq]
      rfl

theorem isBlank_interpolatedName : Text.isBlank interpolatedName = false := by decide

theorem namesFormula_interpolatedName : namesFormula interpolatedName = false := by decide

theorem of_interpolatedName : of interpolatedName = .ok .interpolated := by
  simp [of_eq, isBlank_interpolatedName, namesFormula_interpolatedName]

/-- The interpolated path has one identifier. -/
theorem of_eq_interpolated_iff : of language = .ok .interpolated ↔ language = interpolatedName := by
  constructor
  · intro classEq
    rw [of_eq] at classEq
    split at classEq
    · cases classEq
    · split at classEq
      · cases classEq
      · split at classEq
        case isTrue named => exact named
        case isFalse => cases classEq
  · rintro rfl
    exact of_interpolatedName

/-- A script language keeps its identifier as it is written, and is neither of the other two. -/
theorem of_eq_script_iff : of language = .ok (.script other) ↔
    other = language ∧ Text.isBlank language = false ∧ namesFormula language = false ∧
      language ≠ interpolatedName := by
  rw [of_eq]
  constructor
  · intro classEq
    split at classEq
    · cases classEq
    case isFalse nonblank =>
      split at classEq
      · cases classEq
      case isFalse notFormula =>
        split at classEq
        · cases classEq
        case isFalse notInterpolated =>
          cases classEq
          exact ⟨rfl, by simpa using nonblank, by simpa using notFormula, notInterpolated⟩
  · rintro ⟨rfl, nonblank, notFormula, notInterpolated⟩
    simp [nonblank, notFormula, notInterpolated]

theorem eq_of_of_eq_script (classEq : of language = .ok (.script other)) : other = language :=
  (of_eq_script_iff.mp classEq).1

/-- Nothing but being blank is wrong with an identifier. -/
theorem of_eq_error_iff {cause : EvaluationError} :
    of language = .error cause ↔ cause = .missingLanguage ∧ Text.isBlank language = true := by
  rw [of_eq]
  cases blankEq : Text.isBlank language with
  | true => simp [eq_comm]
  | false =>
      simp only [Bool.false_eq_true, if_false, and_false, iff_false]
      split
      · simp
      · split <;> simp

/-- There is no other kind of identifiers. -/
theorem of_cases (language : String) :
    Text.isBlank language = true ∨ of language = .ok .formula ∨ language = interpolatedName ∨
      of language = .ok (.script language) := by
  cases classEq : of language with
  | error cause => exact Or.inl (of_eq_error_iff.mp classEq).2
  | ok selected =>
      cases selected with
      | formula => exact Or.inr (Or.inl rfl)
      | interpolated => exact Or.inr (Or.inr (Or.inl (of_eq_interpolated_iff.mp classEq)))
      | script other =>
          obtain rfl := eq_of_of_eq_script classEq
          exact Or.inr (Or.inr (Or.inr rfl))

theorem ne_interpolatedName_of_class {selected : LanguageClass} (classEq : of language = .ok selected)
    (differs : selected ≠ .interpolated) : language ≠ interpolatedName := by
  rintro rfl
  rw [of_interpolatedName] at classEq
  cases classEq
  exact differs rfl

theorem isInterpolated_eq_true_iff : isInterpolated language = .ok true ↔ language = interpolatedName := by
  cases blankEq : Text.isBlank language with
  | true =>
      constructor
      · intro named
        simp [isInterpolated, ensure, blankEq, bind, Except.bind] at named
      · rintro rfl
        simp [isBlank_interpolatedName] at blankEq
  | false => simp [isInterpolated_eq blankEq]

end LanguageClass

/-- The form in which a text is handed to the parser of interpolated text: between delimiters, unless it
starts with an opening. -/
def delimitedText (text : String) : String := if isDelimited text then text else delimit text

namespace Expression

variable {e : Expression} {language text : String}

theorem text?_eq_some_iff : e.text? = some text ↔ e.written = some text ∧ Text.isBlank text = false := by
  simp [text?, Option.filter_eq_some_iff]

theorem text?_eq_none_iff :
    e.text? = none ↔ ∀ text, e.written = some text → Text.isBlank text = true := by
  simp [text?, Option.filter_eq_none_iff]

/-- Only interpolated text is rewritten. -/
theorem textFor_of_ne (differs : language ≠ LanguageClass.interpolatedName) :
    e.textFor language = e.text? := by
  have plain : LanguageClass.isInterpolated language ≠ .ok true :=
    fun named => differs (LanguageClass.isInterpolated_eq_true_iff.mp named)
  unfold textFor
  cases e.text? with
  | none => rfl
  | some text =>
      simp only [Option.map_some]

/-- An expression has a text in every language or in none. -/
theorem textFor_eq_none_iff : e.textFor language = none ↔ e.text? = none := by
  simp [textFor]

theorem exists_textFor_of_text (language : String) (present : e.text? = some text) :
    ∃ resolved, e.textFor language = some resolved := by
  simp [textFor, present]

theorem textFor_interpolatedName (present : e.text? = some text) :
    e.textFor LanguageClass.interpolatedName = some (delimitedText text) := by
  have named : LanguageClass.isInterpolated LanguageClass.interpolatedName = .ok true :=
    LanguageClass.isInterpolated_eq_true_iff.mpr rfl
  simp only [textFor, present, Option.map_some, named, delimitedText]

end Expression

end DecisionEval
