/-
Module: DecisionEval.Proofs.BlankPadding
Purpose: White space at the ends of texts, of bodies and of what closes an opening; and how texts parse whose
  pieces differ in their places alone.
Main exports: Text.trimChars_append, Text.exists_blank_around, Template.body_append_blank_iff,
  Template.splitClosing_of_unclosed, Template.Piece.unplaced, Template.unplaced_parse_congr
-/
import Mathlib.Data.List.Basic
import DecisionEval.Proofs.CelLexemes
import DecisionEval.Proofs.DelimitedText
import DecisionEval.Proofs.TemplateFaults

namespace DecisionEval

/-!
### White space around text
-/

namespace Text

variable {cs front back : List Char}

/-- Characters that are all white space. -/
def Blank (cs : List Char) : Prop := ∀ c ∈ cs, isBlankChar c = true

theorem dropBlank_append (blank : Blank front) (cs : List Char) : dropBlank (front ++ cs) = dropBlank cs :=
  List.dropWhile_append_of_pos blank

theorem trimChars_append (frontBlank : Blank front) (backBlank : Blank back) (cs : List Char) :
    trimChars (front ++ cs ++ back) = trimChars cs := by
  rw [List.append_assoc, trimChars, dropBlank_append frontBlank, trimChars]
  cases kept : dropBlank cs with
  | nil =>
      rw [dropBlank_append (dropBlank_eq_nil_iff.mp kept), dropBlank_eq_nil_iff.mpr backBlank]
  | cons c rest =>
      have whole : dropBlank (cs ++ back) = c :: rest ++ back := by
        rw [← kept, dropBlank, List.dropWhile_append, ← dropBlank, kept]
        rfl
      have reversedBlank : Blank back.reverse := fun c member => backBlank c (List.mem_reverse.mp member)
      rw [whole, List.reverse_append, dropBlank_append reversedBlank]

/-- Trimming takes white space off, and nothing else. -/
theorem exists_blank_around (cs : List Char) :
    ∃ front back, Blank front ∧ Blank back ∧ cs = front ++ trimChars cs ++ back := by
  have split (cs : List Char) : ∃ front, Blank front ∧ front ++ dropBlank cs = cs :=
    ⟨cs.takeWhile isBlankChar, fun c member => List.mem_takeWhile_imp member,
      List.takeWhile_append_dropWhile⟩
  obtain ⟨front, frontBlank, frontEq⟩ := split cs
  obtain ⟨back, backBlank, backEq⟩ := split (dropBlank cs).reverse
  refine ⟨front, back.reverse, frontBlank, fun c member => backBlank c (List.mem_reverse.mp member), ?_⟩
  rw [trimChars, List.append_assoc, ← List.reverse_append, backEq, List.reverse_reverse, frontEq]

theorem trimChars_trimChars (cs : List Char) : trimChars (trimChars cs) = trimChars cs := by
  obtain ⟨front, back, frontBlank, backBlank, whole⟩ := exists_blank_around cs
  have stays := trimChars_append frontBlank backBlank (trimChars cs)
  rw [← whole] at stays
  exact stays.symm

end Text

namespace Template

variable {cs front back literal last : List Char} {c mark : Char} {part : Part}

/-!
### White space is plain
-/

theorem isPlain_of_isBlankChar (blank : Text.isBlankChar c = true) : IsPlain c ∧ isMark c = false := by
  have differs (other : Char) (present : Text.isBlankChar other = false) : c ≠ other := by
    rintro rfl
    simp [present] at blank
  refine ⟨⟨fun brace => ?_, fun quote => ?_⟩, ?_⟩
  · exact brace.elim (differs '{' (by decide)) (differs '}' (by decide))
  · exact quote.elim (differs '"' (by decide)) (differs '\'' (by decide))
  · simp [isMark, differs '$' (by decide), differs '#' (by decide)]

theorem body_of_blank (blank : Text.Blank cs) : Body cs :=
  body_of_plain fun c member => (isPlain_of_isBlankChar (blank c member)).1

theorem noOpening_of_blank (blank : Text.Blank cs) : NoOpening cs := by
  rintro before after mark rfl
  exact (isPlain_of_isBlankChar (blank mark (by simp))).2

/-- The last character of a string is its closing quote. -/
theorem QuotedRest.getLast? {quote : Char} (string : QuotedRest quote cs) : cs.getLast? = some quote := by
  induction string with
  | close => rfl
  | plain _ _ _ inductionHypothesis => simp [List.getLast?_cons, inductionHypothesis]
  | escape _ inductionHypothesis => simp [List.getLast?_cons, inductionHypothesis]

/-- A plain character at the end of a body is not needed for it. -/
theorem body_of_concat (plain : IsPlain c) (grammatical : Body (cs ++ [c])) : Body cs := by
  generalize whole : cs ++ [c] = body at grammatical
  induction grammatical generalizing cs with
  | nil => simp at whole
  | plain noBrace noQuote rest inductionHypothesis =>
      cases cs with
      | nil => exact .nil
      | cons head cs =>
          obtain ⟨rfl, rfl⟩ := List.cons.inj whole
          exact .plain noBrace noQuote (inductionHypothesis rfl)
  | @string quote quoted rest isQuote string grammatical inductionHypothesis =>
      rcases List.eq_nil_or_concat' rest with rfl | ⟨inner, final, rfl⟩
      · have final := congrArg List.getLast? whole
        simp [List.getLast?_cons, string.getLast?] at final
        exact absurd isQuote (final ▸ plain.2)
      · rw [← List.append_assoc, ← List.cons_append] at whole
        obtain ⟨rfl, same⟩ := List.append_inj' whole rfl
        cases same
        exact .string isQuote string (inductionHypothesis rfl)
  | @braces inner rest grammatical outer innerHypothesis outerHypothesis =>
      rcases List.eq_nil_or_concat' rest with rfl | ⟨more, final, rfl⟩
      · have final := congrArg List.getLast? whole
        simp [List.getLast?_cons] at final
        exact absurd (Or.inr final) plain.1
      · have split : '{' :: (inner ++ '}' :: (more ++ [final])) = '{' :: (inner ++ '}' :: more) ++ [final] := by
          simp
        rw [split] at whole
        obtain ⟨rfl, same⟩ := List.append_inj' whole rfl
        cases same
        exact .braces grammatical (outerHypothesis rfl)

/-- White space at the end of a body is not needed for it. -/
theorem body_append_blank_iff (blank : Text.Blank back) : Body (cs ++ back) ↔ Body cs := by
  refine ⟨fun grammatical => ?_, fun grammatical => grammatical.append (body_of_blank blank)⟩
  induction back generalizing cs with
  | nil => simpa using grammatical
  | cons c back inductionHypothesis =>
      obtain ⟨first, others⟩ := List.forall_mem_cons.mp blank
      rw [List.append_cons] at grammatical
      exact body_of_concat (isPlain_of_isBlankChar first).1 (inductionHypothesis others grammatical)

/-- If no brace of a text closes the opening in front of it, the brace behind the text does so exactly if the text
is a body, whatever white space stands in between. -/
theorem splitClosing_of_unclosed (unclosed : ∀ body rest, ¬ClosedBy cs body rest)
    (blank : Text.Blank back) :
    splitClosing 0 .code (cs ++ back ++ ['}']) = if Body cs then some (cs ++ back, []) else none := by
  split
  case isTrue grammatical =>
    exact splitClosing_of_body ((body_append_blank_iff blank).mpr grammatical) []
  case isFalse ungrammatical =>
    rw [splitClosing_eq_none_iff]
    rintro body rest ⟨grammatical, split⟩
    rcases List.eq_nil_or_concat' rest with rfl | ⟨later, final, rfl⟩
    · obtain ⟨rfl, -⟩ := List.append_inj' split rfl
      exact ungrammatical ((body_append_blank_iff blank).mp grammatical)
    · -- A closing brace before the last one stands in the text, as it is no white space.
      rw [← List.cons_append, ← List.append_assoc] at split
      obtain ⟨split, -⟩ := List.append_inj' split rfl
      have noBrace : '}' ∉ back := fun member => absurd (blank _ member) (by decide)
      rcases List.append_eq_append_iff.mp split with ⟨middle, -, backEq⟩ | ⟨middle, csEq, restEq⟩
      · exact noBrace (by simp [backEq])
      · cases middle with
        | nil =>
            rw [List.nil_append] at restEq
            exact noBrace (by simp [← restEq])
        | cons first middle =>
            obtain ⟨rfl, -⟩ := List.cons.inj restEq
            exact unclosed body middle ⟨grammatical, csEq⟩

/-!
### Pieces without their places

The place of a piece shows in errors alone, and the white space around an expression shows nowhere.
-/

/-- A piece without its place in the text, and without what its segment does not show. -/
def Piece.unplaced : Piece → Piece
  | .text chars => .text chars
  | .body _ mark chars => .body 0 mark (Text.trimChars chars)
  | .unclosed _ mark _ => .unclosed 0 mark []

theorem unplaced_piecesFrom (offset other : Nat) (cs : List Char) :
    (piecesFrom offset cs).map Piece.unplaced = (piecesFrom other cs).map Piece.unplaced := by
  have ofParts : ∀ (parts : List Part) (offset other : Nat),
      (piecesOfParts offset parts).map Piece.unplaced = (piecesOfParts other parts).map Piece.unplaced := by
    intro parts
    induction parts with
    | nil => intro offset other; rfl
    | cons part parts inductionHypothesis =>
        intro offset other
        simp only [piecesOfParts, Part.pieces, List.map_append, List.map_cons, List.map_nil, Piece.unplaced]
        rw [inductionHypothesis]
  obtain ⟨parts, rest, valid, rfl, plain | ⟨literal, mark, after, plain, marked, rfl, unclosed⟩⟩ :=
    exists_front cs
  · simp only [piecesFrom_parts valid, piecesFrom_of_noOpening plain, List.map_append]
    rw [ofParts]
  · simp only [piecesFrom_parts valid, piecesFrom_unclosed plain marked unclosed, List.map_append, List.map_cons,
      List.map_nil, Piece.unplaced]
    rw [ofParts]

end Template

namespace Cel

/-- An error without the place of the opening at fault, which leaves its kind. -/
def CelError.unplaced : CelError → CelError
  | .invalidTemplate _ fault => .invalidTemplate 0 fault
  | other => other

theorem Runtime.unplaced_compile {π : Type} (cel : Runtime π) (source : String) :
    (cel.compile source).mapError CelError.unplaced = cel.compile source := by
  rw [compile]
  cases cel.translate source <;> rfl

end Cel

namespace Template

open Cel (CelError Runtime)

variable {π : Type} {cel : Runtime π} {text other : String}

theorem segment_unplaced (piece : Piece) :
    segment cel.compile piece.unplaced = (segment cel.compile piece).mapError CelError.unplaced := by
  cases piece with
  | text chars => rfl
  | unclosed offset mark chars => rfl
  | body offset mark chars =>
      simp only [Piece.unplaced, segment, Text.trimChars_trimChars]
      split
      · rfl
      · rw [Outcome.mapError_bind, cel.unplaced_compile]
        rfl

/-- Texts whose pieces differ in their places alone parse alike, the places of faults aside. -/
theorem unplaced_parse_congr (same : (pieces text).map Piece.unplaced = (pieces other).map Piece.unplaced) :
    (parseWith cel.compile text).mapError CelError.unplaced =
      (parseWith cel.compile other).mapError CelError.unplaced := by
  have byPieces (text : String) : (parseWith cel.compile text).mapError CelError.unplaced =
      ((pieces text).map Piece.unplaced).mapM (segment cel.compile) >>= fun segments => .ok ⟨segments⟩ := by
    rw [parseWith, Outcome.mapError_bind, Outcome.mapError_mapM, List.mapM_map]
    simp only [Function.comp_def, segment_unplaced]
    rfl
  rw [byPieces, byPieces, same]

end Template

end DecisionEval
