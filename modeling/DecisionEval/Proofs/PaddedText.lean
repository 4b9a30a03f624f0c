/-
Module: DecisionEval.Proofs.PaddedText
Purpose: What white space around interpolated text does. Around a delimited expression it is text of its own, and
  around text without delimiters it belongs to the expression, where it does not count.
Main exports: Template.LoneExpression, Cel.Runtime.unplaced_meaning_padded, Cel.Runtime.AnswersInKind,
  Cel.Runtime.Padding, Cel.Runtime.padding_in_answers
-/
import DecisionEval.Proofs.BlankPadding
import DecisionEval.Proofs.NormalText

namespace DecisionEval

namespace Template

open Cel (CelError)

variable {π : Type} {compile : String → Outcome CelError π} {run : π → Outcome CelError Json}
  {text : String} {front body rest back : List Char} {mark : Char}

/-!
### One expression with text around it
-/

/-- A text that is one delimited expression from its first character to its last. -/
def LoneExpression (text : String) : Prop :=
  ∃ mark body, isMark mark = true ∧ Body body ∧ text.toList = mark :: '{' :: (body ++ ['}'])

/-- An expression between two literals parses to a segment between two literals. -/
theorem parseWith_between (frontPlain : NoOpening front) (marked : isMark mark = true)
    (grammatical : Body body) (backPlain : NoOpening back)
    (textEq : text.toList = front ++ (mark :: '{' :: (body ++ ['}'])) ++ back) :
    parseWith compile text = (segment compile (.body (Text.utf8Length front) mark body)).bind fun made =>
      .ok ⟨literalSegments front ++ made :: literalSegments back⟩ := by
  have valid : Part.Valid ⟨front, mark, body⟩ := ⟨frontPlain, marked, grammatical⟩
  have whole : text.toList = Part.chars ⟨front, mark, body⟩ ++ back := by simp [textEq, Part.chars]
  rw [parseWith, pieces, whole, piecesFrom_part valid, piecesFrom_of_noOpening backPlain, Part.pieces,
    Nat.zero_add]
  simp only [List.mapM_append, mapM_textPiece, List.mapM_cons, List.mapM_nil]
  cases segment compile (.body (Text.utf8Length front) mark body) <;> simp [Outcome.bind]

/-- An expression with text around it has the text of its value with that text around it. -/
theorem evaluateWith_between {source : String} {program : π} (around : front ≠ [] ∨ back ≠ []) :
    evaluateWith run ⟨literalSegments front ++ .expression source program :: literalSegments back⟩ =
      (run program).bind fun value =>
        .ok (.string (String.ofList front ++ render value ++ String.ofList back)) := by
  have composite : ∀ shown other, (⟨literalSegments front ++ .expression source program ::
      literalSegments back⟩ : Template π).segments ≠ [.expression shown other] := by
    intro shown other lone
    obtain ⟨frontNil, single⟩ | ⟨-, none⟩ := List.append_eq_singleton_iff.mp lone
    · obtain ⟨-, backNil⟩ := List.cons.inj single
      exact around.elim (absurd (literalSegments_eq_nil_iff.mp frontNil))
        (absurd (literalSegments_eq_nil_iff.mp backNil))
    · cases none
  rw [evaluateWith_of_not_lone composite, List.append_cons, textOf_append, textOf_append,
    textOf_literalSegments, textOf_literalSegments]
  cases ended : run program <;> simp [textOf, segmentText, Outcome.bind, ended]

end Template

namespace Cel.Runtime

open Template (LoneExpression NoOpening Piece ClosedBy pieces piecesFrom)

variable {π : Type} {cel : Runtime π} {text other : String} {context : Context}

/-!
### Meanings up to places
-/

theorem unplaced_meaning_congr (same : (pieces text).map Piece.unplaced = (pieces other).map Piece.unplaced)
    (context : Context) :
    (cel.meaning text context).mapError CelError.unplaced =
      (cel.meaning other context).mapError CelError.unplaced := by
  have byParse (text : String) : (cel.meaning text context).mapError CelError.unplaced =
      (Template.parseWith cel.compile text).mapError CelError.unplaced >>= fun template =>
        (template.evaluateWith (cel.execute · context.toList)).mapError CelError.unplaced :=
    Outcome.mapError_bind _ _
  rw [byParse, byParse, Template.unplaced_parse_congr same]

/-- The pieces of a text between delimiters, from what closes the opening in front of it. -/
def closedPieces : Option (List Char × List Char) → List Piece
  | none => [.unclosed 0 '$' []]
  | some (body, rest) => .body 0 '$' (Text.trimChars body) :: (piecesFrom 0 rest).map Piece.unplaced

theorem unplaced_pieces_delimit (text : String) : (pieces (delimit text)).map Piece.unplaced =
    closedPieces (Template.splitClosing 0 .code (text.toList ++ ['}'])) := by
  have opening : Template.splitOpening ('$' :: '{' :: (text.toList ++ ['}'])) =
      ([], some ('$', text.toList ++ ['}'])) :=
    Template.splitOpening_append rfl _ Template.noOpening_nil
  rw [pieces, Template.toList_delimit, Template.piecesFrom_of_opening opening]
  cases Template.splitClosing 0 .code (text.toList ++ ['}']) with
  | none => rfl
  | some found =>
      obtain ⟨body, rest⟩ := found
      exact congrArg (Piece.body 0 '$' (Text.trimChars body) :: ·) (Template.unplaced_piecesFrom _ _ rest)

theorem closedPieces_prepend {front : List Char} (blank : Text.Blank front)
    (found : Option (List Char × List Char)) :
    closedPieces (Template.prepend front found) = closedPieces found := by
  cases found with
  | none => rfl
  | some pair => simp [Template.prepend, closedPieces, Text.trimChars, Text.dropBlank_append blank]

section Pads

variable {front core back : String}

/-- White space in front of a text between delimiters does not show in its pieces. -/
theorem unplaced_pieces_delimit_front (blank : Text.Blank front.toList) (core : String) :
    (pieces (delimit (front ++ core))).map Piece.unplaced = (pieces (delimit core)).map Piece.unplaced := by
  rw [unplaced_pieces_delimit, unplaced_pieces_delimit, String.toList_append, List.append_assoc,
    Template.splitClosing_body_append (Template.body_of_blank blank), closedPieces_prepend blank]

/-- Nor does white space behind it, unless a brace of the text closes the opening in front of it. -/
theorem unplaced_pieces_delimit_back (unclosed : ∀ body rest, ¬ClosedBy core.toList body rest)
    (blank : Text.Blank back.toList) :
    (pieces (delimit (core ++ back))).map Piece.unplaced = (pieces (delimit core)).map Piece.unplaced := by
  have nothing : Text.Blank [] := by simp [Text.Blank]
  have closing := Template.splitClosing_of_unclosed unclosed nothing
  rw [List.append_nil] at closing
  rw [unplaced_pieces_delimit, unplaced_pieces_delimit, String.toList_append,
    Template.splitClosing_of_unclosed unclosed blank, closing]
  split
  case isTrue =>
    have trimmed := Text.trimChars_append nothing blank core.toList
    rw [List.nil_append] at trimmed
    simp only [closedPieces, trimmed]
  case isFalse => rfl

end Pads

section Between

variable {front body back : List Char} {mark : Char}

/-- The place of an expression is lost with the places of errors. -/
theorem unplaced_segment_body (offset : Nat) (mark : Char) (body : List Char) :
    (Template.segment cel.compile (.body offset mark body)).mapError CelError.unplaced =
      (Template.segment cel.compile (.body 0 mark body)).mapError CelError.unplaced := by
  rw [← Template.segment_unplaced, ← Template.segment_unplaced]
  rfl

/-- An expression between two literals means the value of the template of its segment between two literals. -/
theorem unplaced_meaning_between (frontPlain : NoOpening front) (marked : Template.isMark mark = true)
    (grammatical : Template.Body body) (backPlain : NoOpening back)
    (textEq : text.toList = front ++ (mark :: '{' :: (body ++ ['}'])) ++ back) (context : Context) :
    (cel.meaning text context).mapError CelError.unplaced =
      (Template.segment cel.compile (.body 0 mark body)).mapError CelError.unplaced >>= fun made =>
        (Template.evaluateWith (cel.execute · context.toList)
          ⟨Template.literalSegments front ++ made :: Template.literalSegments back⟩).mapError
            CelError.unplaced := by
  rw [meaning, Template.parseWith_between frontPlain marked grammatical backPlain textEq,
    ← unplaced_segment_body (Text.utf8Length front)]
  cases Template.segment cel.compile (.body (Text.utf8Length front) mark body) <;> rfl

/-- A lone expression with white space around it means the text of its value with that white space around it. -/
theorem unplaced_meaning_padded {front core back : String} (lone : LoneExpression core)
    (frontBlank : Text.Blank front.toList) (backBlank : Text.Blank back.toList)
    (around : front ≠ "" ∨ back ≠ "") (context : Context) :
    (cel.meaning (front ++ core ++ back) context).mapError CelError.unplaced =
      ((cel.meaning core context).mapError CelError.unplaced).bind fun value =>
        .ok (.string (front ++ Template.render value ++ back)) := by
  obtain ⟨mark, body, marked, grammatical, coreEq⟩ := lone
  have wholeEq : (front ++ core ++ back).toList =
      front.toList ++ (mark :: '{' :: (body ++ ['}'])) ++ back.toList := by
    rw [String.toList_append, String.toList_append, coreEq]
  have aloneEq : core.toList = [] ++ (mark :: '{' :: (body ++ ['}'])) ++ [] := by simp [coreEq]
  rw [unplaced_meaning_between (Template.noOpening_of_blank frontBlank) marked grammatical
      (Template.noOpening_of_blank backBlank) wholeEq,
    unplaced_meaning_between Template.noOpening_nil marked grammatical Template.noOpening_nil aloneEq]
  cases segmentEq : Template.segment cel.compile (.body 0 mark body) with
  | error cause => rfl
  | fault => rfl
  | ok made =>
      obtain ⟨-, program, -, rfl⟩ := Template.segment_body_eq_ok_iff.mp segmentEq
      have aroundChars : front.toList ≠ [] ∨ back.toList ≠ [] := by
        simpa only [ne_eq, String.toList_eq_nil_iff] using around
      simp only [Outcome.mapError, Outcome.ok_bind, Template.evaluateWith_between aroundChars,
        String.ofList_toList]
      -- Alone, the template has the value of its program.
      cases ended : cel.execute program context.toList <;>
        simp [Outcome.bind, Template.literalSegments, Template.evaluateWith, ended]

end Between

/-!
### Answers that are alike in kind
-/

/-- Answers to evaluations of two interpolated texts: values of which the one is made from the other, failures of
one kind of which each shows its own text, or two abrupt stops. -/
inductive AlikeInKind (change : Json → Json) (shown other : String) :
    Outcome EvaluationError (Option Json) → Outcome EvaluationError (Option Json) → Prop where
  | value (value : Json) : AlikeInKind change shown other (.ok (some (change value))) (.ok (some value))
  | failure {source cause : CelError} : source.unplaced = cause.unplaced →
      AlikeInKind change shown other
        (.error (.failure shown LanguageClass.interpolatedName (.cel source)))
        (.error (.failure other LanguageClass.interpolatedName (.cel cause)))
  | fault : AlikeInKind change shown other .fault .fault

/-- Evaluations of expressions of two texts with the parser of a runtime answer alike, whatever else differs. -/
def AnswersInKind (cel : Runtime π) (change : Json → Json) (text other : String) : Prop :=
  ∀ (ev : Evaluator) (registry : Registry) (e alternative : Expression) (context : Context),
    ev.textProvider = cel.textProvider → e.Holds cel.textProvider text →
    alternative.Holds cel.textProvider other → AlikeInKind change text other
      (ev.evaluateIn registry LanguageClass.interpolatedName e context).outcome
      (ev.evaluateIn registry LanguageClass.interpolatedName alternative context).outcome

variable {change : Json → Json}

theorem alikeInKind_answer {first second : Outcome CelError Json}
    (same : first.mapError CelError.unplaced =
      (second.mapError CelError.unplaced).bind fun value => .ok (change value)) :
    AlikeInKind change text other (answer text first) (answer other second) := by
  cases second with
  | ok value =>
      obtain rfl : first = .ok (change value) := Outcome.mapError_eq_ok_iff.mp same
      exact .value value
  | error cause =>
      obtain ⟨source, rfl, alike⟩ := Outcome.mapError_eq_error_iff.mp same
      exact .failure alike
  | fault =>
      cases first with
      | fault => exact .fault
      | ok value => cases same
      | error source => cases same

theorem answersInKind_of_meaning (nonblank : Text.isBlank text = false) (otherNonblank : Text.isBlank other = false)
    (same : ∀ context, (cel.meaning (delimitedText text) context).mapError CelError.unplaced =
      ((cel.meaning (delimitedText other) context).mapError CelError.unplaced).bind fun value =>
        .ok (change value)) :
    cel.AnswersInKind change text other := by
  intro ev registry e alternative context parser ofText ofOther
  rw [outcome_eq_answer parser ofText nonblank, outcome_eq_answer parser ofOther otherNonblank]
  exact alikeInKind_answer (same context)

/-!
### Texts with white space around them
-/

section Padding

variable {front core back : String}

theorem isBlank_padded (frontBlank : Text.Blank front.toList) (backBlank : Text.Blank back.toList)
    (core : String) : Text.isBlank (front ++ core ++ back) = Text.isBlank core := by
  rw [Bool.eq_iff_iff, Text.isBlank_eq_true_iff, Text.isBlank_eq_true_iff, ← Text.trimChars_eq_nil_iff,
    ← Text.trimChars_eq_nil_iff, String.toList_append, String.toList_append,
    Text.trimChars_append frontBlank backBlank]

theorem startsWithOpening_eq_true_iff {cs : List Char} :
    startsWithOpening cs = true ↔ ∃ mark rest, Template.isMark mark = true ∧ cs = mark :: '{' :: rest := by
  constructor
  · intro starts
    unfold startsWithOpening at starts
    split at starts
    case h_1 rest => exact ⟨'$', rest, rfl, rfl⟩
    case h_2 rest => exact ⟨'#', rest, rfl, rfl⟩
    case h_3 => cases starts
  · rintro ⟨mark, rest, marked, rfl⟩
    simp only [Template.isMark, Bool.or_eq_true, beq_iff_eq] at marked
    rcases marked with rfl | rfl <;> rfl

theorem startsWithOpening_append_blank {cs back : List Char} (blank : Text.Blank back) :
    startsWithOpening (cs ++ back) = startsWithOpening cs := by
  have noBrace : '{' ∉ back := fun member => absurd (blank _ member) (by decide)
  rw [Bool.eq_iff_iff, startsWithOpening_eq_true_iff, startsWithOpening_eq_true_iff]
  constructor
  · rintro ⟨mark, rest, marked, split⟩
    match cs with
    | [] => exact absurd (by simp_all) noBrace
    | [c] => exact absurd (by simp_all) noBrace
    | c :: next :: cs =>
        simp only [List.cons_append, List.cons.injEq] at split
        obtain ⟨rfl, rfl, -⟩ := split
        exact ⟨c, cs, marked, rfl⟩
  · rintro ⟨mark, rest, marked, rfl⟩
    exact ⟨mark, rest ++ back, marked, rfl⟩

theorem isDelimited_padded (frontBlank : Text.Blank front.toList) (backBlank : Text.Blank back.toList)
    (core : String) : isDelimited (front ++ core ++ back) = isDelimited core := by
  rw [isDelimited, isDelimited, String.toList_append, String.toList_append, List.append_assoc,
    Text.dropBlank_append frontBlank]
  cases kept : Text.dropBlank core.toList with
  | nil =>
      rw [Text.dropBlank_append (Text.dropBlank_eq_nil_iff.mp kept), Text.dropBlank_eq_nil_iff.mpr backBlank]
  | cons c rest =>
      rw [Text.dropBlank, List.dropWhile_append, ← Text.dropBlank, kept]
      exact startsWithOpening_append_blank backBlank

theorem isDelimited_of_lone (lone : LoneExpression core) : isDelimited core = true := by
  obtain ⟨mark, body, marked, -, coreEq⟩ := lone
  have starts : startsWithOpening core.toList = true :=
    startsWithOpening_eq_true_iff.mpr ⟨mark, _, marked, coreEq⟩
  have kept : Text.dropBlank core.toList = core.toList := by
    have noBlank : Text.isBlankChar mark = false := by
      cases blankEq : Text.isBlankChar mark with
      | false => rfl
      | true => simp [(Template.isPlain_of_isBlankChar blankEq).2] at marked
    rw [coreEq, Text.dropBlank, List.dropWhile_cons_of_neg (by simp [noBlank])]
  rw [isDelimited, kept, starts]

theorem answersInKind_padded (cel : Runtime π) (lone : LoneExpression core) (frontBlank : Text.Blank front.toList)
    (backBlank : Text.Blank back.toList) (around : front ≠ "" ∨ back ≠ "") :
    cel.AnswersInKind (fun value => .string (front ++ Template.render value ++ back)) (front ++ core ++ back)
      core := by
  have delimited := isDelimited_of_lone lone
  have wholeDelimited := (isDelimited_padded frontBlank backBlank core).trans delimited
  apply answersInKind_of_meaning (isBlank_of_isDelimited wholeDelimited) (isBlank_of_isDelimited delimited)
  intro context
  rw [delimitedText_of_isDelimited delimited, delimitedText_of_isDelimited wholeDelimited]
  exact unplaced_meaning_padded lone frontBlank backBlank around context

/-- White space around bare text does not show in the answers if it does not show in the pieces. -/
theorem answersInKind_bare (cel : Runtime π) (frontBlank : Text.Blank front.toList) (backBlank : Text.Blank back.toList)
    (bare : isDelimited core = false) (nonblank : Text.isBlank core = false)
    (same : (pieces (delimit (front ++ core ++ back))).map Piece.unplaced =
      (pieces (delimit core)).map Piece.unplaced) :
    cel.AnswersInKind id (front ++ core ++ back) core := by
  have wholeBare := (isDelimited_padded frontBlank backBlank core).trans bare
  apply answersInKind_of_meaning ((isBlank_padded frontBlank backBlank core).trans nonblank) nonblank
  intro context
  rw [delimitedText_of_bare bare, delimitedText_of_bare wholeBare, unplaced_meaning_congr same]
  cases (cel.meaning (delimit core) context).mapError CelError.unplaced <;> rfl

end Padding

/-- What white space around interpolated text does to the answers of evaluations, with the parser of a runtime.

* `lone`: around an expression that stands alone it stays: the text of the value, with the white space around it, is
  the value of the whole, and a failure is of the same kind as without it.
* `bare`: around a text without delimiters, in which no brace closes the opening put in front of it, it does nothing.
* `front`: in front of a text without delimiters it never does anything. -/
structure Padding (cel : Runtime π) (text : String) : Prop where
  lone : LoneExpression (Text.trim text) →
    ∃ front back : String, Text.Blank front.toList ∧ Text.Blank back.toList ∧
      text = front ++ Text.trim text ++ back ∧
      (text ≠ Text.trim text →
        cel.AnswersInKind (fun value => .string (front ++ Template.render value ++ back)) text (Text.trim text))
  bare : isDelimited text = false → Text.isBlank text = false →
    (∀ body rest, ¬ClosedBy (Text.trim text).toList body rest) → cel.AnswersInKind id text (Text.trim text)
  front : isDelimited text = false → Text.isBlank text = false →
    ∀ front : String, Text.Blank front.toList → cel.AnswersInKind id (front ++ text) text

theorem padding_in_answers (cel : Runtime π) (text : String) : cel.Padding text := by
  obtain ⟨frontChars, backChars, frontBlank, backBlank, charsEq⟩ := Text.exists_blank_around text.toList
  have nothing : Text.Blank "".toList := by simp [Text.Blank]
  obtain ⟨front, frontEq⟩ : ∃ front : String, front.toList = frontChars := ⟨_, String.toList_ofList⟩
  obtain ⟨back, backEq⟩ : ∃ back : String, back.toList = backChars := ⟨_, String.toList_ofList⟩
  subst frontEq backEq
  have textEq : text = front ++ Text.trim text ++ back := by
    apply String.toList_injective
    rw [String.toList_append, String.toList_append, Text.trim, String.toList_ofList]
    exact charsEq
  refine ⟨fun lone => ?_, fun bare nonblank unclosed => ?_, fun bare nonblank front blank => ?_⟩
  · refine ⟨front, back, frontBlank, backBlank, textEq, fun padded => ?_⟩
    have around : front ≠ "" ∨ back ≠ "" := by
      by_contra none
      obtain ⟨rfl, rfl⟩ : front = "" ∧ back = "" := by simpa using none
      exact padded (by simpa using textEq)
    have answers := answersInKind_padded cel lone frontBlank backBlank around
    rwa [← textEq] at answers
  · rw [textEq, isDelimited_padded frontBlank backBlank] at bare
    rw [textEq, isBlank_padded frontBlank backBlank] at nonblank
    have answers := answersInKind_bare cel frontBlank backBlank bare nonblank
      (by rw [String.append_assoc, unplaced_pieces_delimit_front frontBlank,
        unplaced_pieces_delimit_back unclosed backBlank])
    rwa [← textEq] at answers
  · have answers := answersInKind_bare cel blank nothing bare nonblank
      (by rw [String.append_empty, unplaced_pieces_delimit_front blank])
    rwa [String.append_empty] at answers

end Cel.Runtime

namespace BuiltIn

open Cel (Program)
open Template (LoneExpression)

/-- A blank in front of an expression makes a text of its value. A blank behind a text whose brace closes the opening
in front of it is text as well. -/
theorem not_answersInKind_padded :
    let evaluated (text : String) : Outcome EvaluationError (Option Json) :=
      (evaluator.evaluateIn Registry.empty LanguageClass.interpolatedName (.ofText text)
        (Context.ofList [("x", .bool true)])).outcome
    (LoneExpression (Text.trim " $\x7bx\x7d") ∧
        evaluated " $\x7bx\x7d" = .ok (some (.string " true")) ∧
        evaluated (Text.trim " $\x7bx\x7d") = .ok (some (.bool true)) ∧
        ¬Program.runtime.AnswersInKind id " $\x7bx\x7d" (Text.trim " $\x7bx\x7d")) ∧
      isDelimited "x\x7d " = false ∧ Text.isBlank "x\x7d " = false ∧
        evaluated "x\x7d " = .ok (some (.string "true \x7d")) ∧
        evaluated (Text.trim "x\x7d ") = .ok (some (.string "true\x7d")) ∧
        ¬Program.runtime.AnswersInKind id "x\x7d " (Text.trim "x\x7d ") := by
  intro evaluated
  have apart {text : String} {value other : Json} (first : evaluated text = .ok (some value))
      (second : evaluated (Text.trim text) = .ok (some other)) (differ : value ≠ other) :
      ¬Program.runtime.AnswersInKind id text (Text.trim text) := by
    intro answers
    have alike := answers evaluator Registry.empty _ _ (Context.ofList [("x", .bool true)])
      evaluator_textProvider (Expression.holds_ofText _ text) (Expression.holds_ofText _ (Text.trim text))
    change Cel.Runtime.AlikeInKind id text (Text.trim text) (evaluated text) (evaluated (Text.trim text)) at alike
    rw [first, second] at alike
    cases alike
    exact differ rfl
  have lone : LoneExpression (Text.trim " $\x7bx\x7d") := ⟨'$', ['x'], by decide, by decide, by decide⟩
  have padded : evaluated " $\x7bx\x7d" = .ok (some (.string " true")) :=
    Outcome.value?_eq_some_iff.mp (by decide +kernel)
  have alone : evaluated (Text.trim " $\x7bx\x7d") = .ok (some (.bool true)) :=
    Outcome.value?_eq_some_iff.mp (by decide +kernel)
  have bare : evaluated "x\x7d " = .ok (some (.string "true \x7d")) :=
    Outcome.value?_eq_some_iff.mp (by decide +kernel)
  have trimmed : evaluated (Text.trim "x\x7d ") = .ok (some (.string "true\x7d")) :=
    Outcome.value?_eq_some_iff.mp (by decide +kernel)
  exact ⟨⟨lone, padded, alone, apart padded alone (by decide)⟩, by decide, by decide, bare, trimmed,
    apart bare trimmed (by decide)⟩

end BuiltIn

end DecisionEval
