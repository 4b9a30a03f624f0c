/-
Module: DecisionEval.Proofs.DelimitedText
Purpose: What a text between delimiters parses to.
Main exports: Text.trimChars_eq_nil_iff, Template.parseWith_delimit, Template.body_of_parseWith_delimit
-/
import Mathlib.Data.List.TakeWhile
import DecisionEval.Interpolation
import DecisionEval.Proofs.TemplateConcatenation

namespace DecisionEval

/-!
### White space
-/

namespace Text

variable {cs : List Char}

theorem dropBlank_eq_nil_iff : dropBlank cs = [] ↔ ∀ c ∈ cs, isBlankChar c = true :=
  List.dropWhile_eq_nil_iff

/-- Nothing is left of white space, and of nothing else. -/
theorem trimChars_eq_nil_iff : trimChars cs = [] ↔ ∀ c ∈ cs, isBlankChar c = true := by
  rw [trimChars, List.reverse_eq_nil_iff, dropBlank_eq_nil_iff]
  constructor
  · intro trimmedBlank
    -- What is left after the white space in front would begin with a character that is none.
    cases kept : dropBlank cs with
    | nil => exact dropBlank_eq_nil_iff.mp kept
    | cons c rest =>
        have nonblank := List.head?_dropWhile_not isBlankChar cs
        have blank := trimmedBlank c (by simp [kept])
        rw [← dropBlank, kept] at nonblank
        simp [blank] at nonblank
  · intro blank c member
    rw [dropBlank_eq_nil_iff.mpr blank] at member
    cases member

theorem isBlank_eq_true_iff {text : String} :
    isBlank text = true ↔ ∀ c ∈ text.toList, isBlankChar c = true := by
  simp [isBlank]

end Text

namespace Template

variable {π : Type} {compile : String → Outcome Cel.CelError π} {text : String}

theorem toList_delimit (text : String) : (delimit text).toList = '$' :: '{' :: (text.toList ++ ['}']) := by
  simp [delimit]

/-- A body between delimiters is one piece. -/
theorem pieces_delimit (grammatical : Body text.toList) :
    pieces (delimit text) = [.body 0 '$' text.toList] := by
  have valid : Part.Valid ⟨[], '$', text.toList⟩ := ⟨noOpening_nil, rfl, grammatical⟩
  have whole : (delimit text).toList = Part.chars ⟨[], '$', text.toList⟩ ++ [] := by
    simp [toList_delimit, Part.chars]
  rw [pieces, whole, piecesFrom_part valid, piecesFrom_of_noOpening noOpening_nil]
  simp [Part.pieces, textPiece, Text.utf8Length]

/-- A body between delimiters that is not blank parses exactly as its trimmed text compiles, to that
expression alone. -/
theorem parseWith_delimit (grammatical : Body text.toList) (nonblank : Text.isBlank text = false) :
    parseWith compile (delimit text) =
      (compile (Text.trim text)).bind fun program => .ok ⟨[.expression (Text.trim text) program]⟩ := by
  have present : (Text.trimChars text.toList).isEmpty = false := by
    rw [List.isEmpty_eq_false_iff]
    intro vacant
    rw [Text.isBlank_eq_true_iff.mpr (Text.trimChars_eq_nil_iff.mp vacant)] at nonblank
    cases nonblank
  simp only [parseWith, pieces_delimit grammatical, List.mapM_cons, List.mapM_nil, segment, present,
    Bool.false_eq_true, if_false, Text.trim]
  cases compile (String.ofList (Text.trimChars text.toList)) <;> rfl

/-- A text between delimiters parses to a lone expression only if it is a body. -/
theorem body_of_parseWith_delimit {source : String} {program : π}
    (parsed : parseWith compile (delimit text) = .ok ⟨[.expression source program]⟩) :
    Body text.toList := by
  obtain ⟨d⟩ := exists_decomposition_of_parseWith parsed
  obtain ⟨accepted, segmentsEq⟩ := (parseWith_eq_ok_iff_of_decomposition d).mp parsed
  obtain ⟨⟨⟨literal, mark, body⟩, partsEq, rfl⟩, lastEq⟩ :=
    eq_singleton_of_segmentsOf accepted segmentsEq.symm
  have whole := (toList_delimit text).symm.trans d.chars_eq
  rw [partsEq, lastEq] at whole
  simp only [List.flatMap_cons, List.flatMap_nil, Part.chars, List.append_nil, List.nil_append,
    List.cons.injEq, List.append_cancel_right_eq, true_and] at whole
  rw [whole.2]
  exact d.bodies ⟨[], mark, body⟩ (by simp [partsEq])

end Template

end DecisionEval
