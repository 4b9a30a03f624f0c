/-
Module: DecisionEval.Proofs.TemplateFaults
Purpose: Why a text is no template: the error of a parse names the leftmost opening at fault, and what stands
  behind the expression at fault does not matter.
Main exports: Template.ClosedBy, Template.ReachedOpening, Template.FaultKind, Template.parseWith_of_fault,
  Template.exists_fault_of_error, Template.parseWith_eq_error_iff_fault
-/
import DecisionEval.Proofs.TemplateGrammar

namespace DecisionEval

namespace Text

/-- The length of characters is the number of bytes of their text. -/
theorem utf8ByteSize_ofList (cs : List Char) : (String.ofList cs).utf8ByteSize = utf8Length cs := by
  induction cs with
  | nil => rfl
  | cons c rest inductionHypothesis =>
      have split : String.ofList (c :: rest) = String.singleton c ++ String.ofList rest :=
        @String.ofList_append [c] rest
      rw [split, String.utf8ByteSize_append, String.utf8ByteSize_singleton, inductionHypothesis, utf8Length]

end Text

namespace Template

open Cel (CelError)

/-!
### Closed openings
-/

/-- What stands behind an opening is a body, the brace that closes it, and the rest of the text. Braces that pair
up inside of the body and braces inside of strings do not close it. -/
def ClosedBy (after body rest : List Char) : Prop := Body body ∧ after = body ++ '}' :: rest

variable {after body rest literal cs : List Char} {mark : Char}

theorem closedBy_iff : ClosedBy after body rest ↔ splitClosing 0 .code after = some (body, rest) :=
  splitClosing_eq_some_iff.symm

theorem ClosedBy.unique {otherBody otherRest : List Char} (closed : ClosedBy after body rest)
    (other : ClosedBy after otherBody otherRest) : otherBody = body ∧ otherRest = rest := by
  have scan := closedBy_iff.mp other
  rw [closedBy_iff.mp closed] at scan
  cases scan
  exact ⟨rfl, rfl⟩

theorem splitClosing_eq_none_iff :
    splitClosing 0 .code after = none ↔ ∀ body rest, ¬ClosedBy after body rest := by
  simp only [closedBy_iff, Option.eq_none_iff_forall_ne_some, Prod.forall, ne_eq]

variable {π : Type}

/-!
### Openings that a parse reaches
-/

/-- An opening of a text with nothing at fault in front of it: parts that are accepted, and a literal. -/
structure ReachedOpening (compile : String → Outcome CelError π) (cs : List Char) where
  parts : List Part
  literal : List Char
  mark : Char
  after : List Char
  chars_eq : cs = parts.flatMap Part.chars ++ (literal ++ mark :: '{' :: after)
  valid : ∀ part ∈ parts, part.Valid
  accepted : ∀ part ∈ parts, part.Accepted compile
  plain : NoOpening literal
  marked : isMark mark = true

variable {compile : String → Outcome CelError π} {part : Part}

namespace ReachedOpening

/-- The text in front of an opening. -/
def front (opening : ReachedOpening compile cs) : List Char :=
  opening.parts.flatMap Part.chars ++ opening.literal

/-- The byte offset of an opening. -/
def offset (opening : ReachedOpening compile cs) : Nat := (String.ofList opening.front).utf8ByteSize

theorem offset_eq (opening : ReachedOpening compile cs) :
    opening.offset = Text.utf8Length opening.front :=
  Text.utf8ByteSize_ofList opening.front

/-- The first opening of a text. -/
def first (plain : NoOpening literal) (marked : isMark mark = true) (after : List Char) :
    ReachedOpening compile (literal ++ mark :: '{' :: after) where
  parts := []
  literal := literal
  mark := mark
  after := after
  chars_eq := rfl
  valid := by simp
  accepted := by simp
  plain := plain
  marked := marked

/-- An opening behind one more part. -/
def behind (valid : part.Valid) (accepted : part.Accepted compile) (opening : ReachedOpening compile rest) :
    ReachedOpening compile (part.chars ++ rest) where
  parts := part :: opening.parts
  literal := opening.literal
  mark := opening.mark
  after := opening.after
  chars_eq := by rw [List.flatMap_cons, List.append_assoc, ← opening.chars_eq]
  valid := List.forall_mem_cons.mpr ⟨valid, opening.valid⟩
  accepted := List.forall_mem_cons.mpr ⟨accepted, opening.accepted⟩
  plain := opening.plain
  marked := opening.marked

theorem front_behind (valid : part.Valid) (accepted : part.Accepted compile)
    (opening : ReachedOpening compile rest) :
    (opening.behind valid accepted).front = part.chars ++ opening.front := by
  simp [front, behind]

/-- The same opening with another text behind it. -/
def withAfter (opening : ReachedOpening compile cs) (after : List Char) :
    ReachedOpening compile (opening.front ++ opening.mark :: '{' :: after) where
  parts := opening.parts
  literal := opening.literal
  mark := opening.mark
  after := after
  chars_eq := List.append_assoc ..
  valid := opening.valid
  accepted := opening.accepted
  plain := opening.plain
  marked := opening.marked

end ReachedOpening

/-!
### Faults
-/

/-- The ways in which an opening can be at fault. -/
inductive FaultKind where
  | unclosed
  | blank
  | rejected
deriving Repr, DecidableEq

namespace FaultKind

/-- Whether an opening is at fault, told by the text behind it: nothing closes it; or it is closed and its body is
blank; or the body is not blank and the compiler rejects it. -/
def Shows (compile : String → Outcome CelError π) (after : List Char) : FaultKind → Prop
  | .unclosed => ∀ body rest, ¬ClosedBy after body rest
  | .blank => ∃ body rest, ClosedBy after body rest ∧ Text.trimChars body = []
  | .rejected => ∃ body rest cause, ClosedBy after body rest ∧ Text.trimChars body ≠ [] ∧
      compile (String.ofList (Text.trimChars body)) = .error cause

/-- The error that reports a fault: one that names the offset of the opening, or that of the compiler. -/
def ReportedAs (compile : String → Outcome CelError π) (offset : Nat) (after : List Char)
    (cause : CelError) : FaultKind → Prop
  | .unclosed => cause = .invalidTemplate offset .unterminated
  | .blank => cause = .invalidTemplate offset .empty
  | .rejected => ∃ body rest, ClosedBy after body rest ∧
      compile (String.ofList (Text.trimChars body)) = .error cause

variable {kind other : FaultKind} {cause : CelError} {offset : Nat}

theorem shows_iff_of_closed (closed : ClosedBy after body rest) : kind.Shows compile after ↔
    match kind with
    | .unclosed => False
    | .blank => Text.trimChars body = []
    | .rejected => Text.trimChars body ≠ [] ∧
        ∃ cause, compile (String.ofList (Text.trimChars body)) = .error cause := by
  cases kind with
  | unclosed => exact iff_false_intro fun unclosed => unclosed body rest closed
  | blank =>
      constructor
      · rintro ⟨found, later, other, vacant⟩
        obtain ⟨rfl, -⟩ := closed.unique other
        exact vacant
      · intro vacant
        exact ⟨body, rest, closed, vacant⟩
  | rejected =>
      constructor
      · rintro ⟨found, later, cause, other, present, rejected⟩
        obtain ⟨rfl, -⟩ := closed.unique other
        exact ⟨present, cause, rejected⟩
      · rintro ⟨present, cause, rejected⟩
        exact ⟨body, rest, cause, closed, present, rejected⟩

theorem reportedAs_iff_of_closed (closed : ClosedBy after body rest) :
    kind.ReportedAs compile offset after cause ↔
      match kind with
      | .unclosed => cause = .invalidTemplate offset .unterminated
      | .blank => cause = .invalidTemplate offset .empty
      | .rejected => compile (String.ofList (Text.trimChars body)) = .error cause := by
  cases kind with
  | unclosed => exact Iff.rfl
  | blank => exact Iff.rfl
  | rejected =>
      constructor
      · rintro ⟨found, later, other, rejected⟩
        obtain ⟨rfl, -⟩ := closed.unique other
        exact rejected
      · intro rejected
        exact ⟨body, rest, closed, rejected⟩

theorem eq_unclosed_of_shows (unclosed : ∀ body rest, ¬ClosedBy after body rest)
    (shown : kind.Shows compile after) : kind = .unclosed := by
  cases kind with
  | unclosed => rfl
  | blank =>
      obtain ⟨body, rest, closed, -⟩ := shown
      exact absurd closed (unclosed body rest)
  | rejected =>
      obtain ⟨body, rest, -, closed, -⟩ := shown
      exact absurd closed (unclosed body rest)

/-- An opening is at fault in one way at most. -/
theorem eq_of_shows (shown : kind.Shows compile after) (alsoShown : other.Shows compile after) :
    other = kind := by
  cases scan : splitClosing 0 .code after with
  | none =>
      have unclosed := splitClosing_eq_none_iff.mp scan
      rw [eq_unclosed_of_shows unclosed shown, eq_unclosed_of_shows unclosed alsoShown]
  | some found =>
      obtain ⟨body, rest⟩ := found
      rw [shows_iff_of_closed (closedBy_iff.mpr scan)] at shown alsoShown
      -- A body is blank or not.
      cases kind with
      | unclosed => exact shown.elim
      | blank =>
          cases other with
          | unclosed => exact alsoShown.elim
          | blank => rfl
          | rejected => exact absurd shown alsoShown.1
      | rejected =>
          cases other with
          | unclosed => exact alsoShown.elim
          | blank => exact absurd alsoShown shown.1
          | rejected => rfl

end FaultKind

/-!
### The segments of an opening
-/

variable {cause : CelError} {offset : Nat}

theorem segment_body_of_blank (blank : Text.trimChars body = []) :
    segment compile (.body offset mark body) = .error (.invalidTemplate offset .empty) := by
  simp [segment, blank]

theorem segment_body_of_present (present : Text.trimChars body ≠ []) :
    segment compile (.body offset mark body) =
      (compile (String.ofList (Text.trimChars body))).bind fun program =>
        .ok (.expression (String.ofList (Text.trimChars body)) program) := by
  simp only [segment, List.isEmpty_iff, if_neg present]
  rfl

/-- The first piece at fault decides. -/
theorem mapM_literal_cons_error {piece : Piece} (fails : segment compile piece = .error cause)
    (literal : List Char) (later : List Piece) :
    (textPiece literal ++ piece :: later).mapM (segment compile) = .error cause := by
  simp [List.mapM_append, mapM_textPiece, fails]

/-- Pieces that have segments do not change an error of those behind them. -/
theorem mapM_append_eq_error_iff {earlier later : List Piece} {made : List (Segment π)}
    (succeeds : earlier.mapM (segment compile) = .ok made) :
    (earlier ++ later).mapM (segment compile) = .error cause ↔
      later.mapM (segment compile) = .error cause := by
  rw [List.mapM_append, succeeds, Outcome.ok_bind]
  cases later.mapM (segment compile) <;> simp

theorem parseWith_eq_error_iff {text : String} :
    parseWith compile text = .error cause ↔ (pieces text).mapM (segment compile) = .error cause := by
  rw [parseWith]
  cases (pieces text).mapM (segment compile) <;> simp

/-!
### The error of a parse
-/

/-- What is at fault with the first opening is the error of the pieces. -/
theorem mapM_first_of_fault (plain : NoOpening literal) (marked : isMark mark = true) {kind : FaultKind}
    (shown : kind.Shows compile after)
    (reported : kind.ReportedAs compile (offset + Text.utf8Length literal) after cause) :
    (piecesFrom offset (literal ++ mark :: '{' :: after)).mapM (segment compile) = .error cause := by
  cases scan : splitClosing 0 .code after with
  | none =>
      obtain rfl := FaultKind.eq_unclosed_of_shows (splitClosing_eq_none_iff.mp scan) shown
      obtain rfl := reported
      rw [piecesFrom_unclosed plain marked scan]
      exact mapM_literal_cons_error rfl literal []
  | some found =>
      obtain ⟨body, rest⟩ := found
      have closed : ClosedBy after body rest := closedBy_iff.mpr scan
      rw [piecesFrom_of_opening (splitOpening_append marked after plain), scan]
      apply mapM_literal_cons_error
      rw [FaultKind.shows_iff_of_closed closed] at shown
      rw [FaultKind.reportedAs_iff_of_closed closed] at reported
      cases kind with
      | unclosed => exact shown.elim
      | blank => rw [segment_body_of_blank shown, reported]
      | rejected =>
          rw [segment_body_of_present shown.1, reported]
          rfl

/-- What is at fault with an opening that a parse reaches is what the parse fails with. -/
theorem parseWith_of_fault {text : String} (textEq : text.toList = cs)
    (opening : ReachedOpening compile cs) {kind : FaultKind} (shown : kind.Shows compile opening.after)
    (reported : kind.ReportedAs compile opening.offset opening.after cause) :
    parseWith compile text = .error cause := by
  have reached : (piecesOfParts 0 opening.parts).mapM (segment compile) =
      .ok (opening.parts.flatMap (Part.segments compile)) :=
    mapM_piecesOfParts_eq_ok_iff.mpr ⟨opening.accepted, rfl⟩
  have place : opening.offset =
      0 + Text.utf8Length (opening.parts.flatMap Part.chars) + Text.utf8Length opening.literal := by
    rw [opening.offset_eq, ReachedOpening.front, Text.utf8Length_append, Nat.zero_add]
  rw [parseWith_eq_error_iff, pieces, textEq, opening.chars_eq, piecesFrom_parts opening.valid,
    mapM_append_eq_error_iff reached]
  exact mapM_first_of_fault opening.plain opening.marked shown (place ▸ reported)

/-- A parse that fails reaches an opening at fault. The induction is on the text that is still to be parsed: an
expression that is accepted leaves the fault to what stands behind it. -/
theorem exists_fault_of_error (offset : Nat) (cs : List Char)
    (failed : (piecesFrom offset cs).mapM (segment compile) = .error cause) :
    ∃ (opening : ReachedOpening compile cs) (kind : FaultKind), kind.Shows compile opening.after ∧
      kind.ReportedAs compile (offset + Text.utf8Length opening.front) opening.after cause := by
  rcases splitOpening_cases cs with ⟨plain, -⟩ | ⟨literal, mark, after, plain, marked, rfl, -⟩
  case inl =>
    rw [piecesFrom_of_noOpening plain, mapM_textPiece] at failed
    cases failed
  case inr =>
    -- The opening itself is at fault as soon as it shows a fault.
    have here (kind : FaultKind) (shown : kind.Shows compile after) (made : CelError)
        (reported : kind.ReportedAs compile (offset + Text.utf8Length literal) after made) :
        ∃ (opening : ReachedOpening compile (literal ++ mark :: '{' :: after)) (kind : FaultKind),
          kind.Shows compile opening.after ∧
            kind.ReportedAs compile (offset + Text.utf8Length opening.front) opening.after cause := by
      rw [mapM_first_of_fault plain marked shown reported] at failed
      cases failed
      exact ⟨.first plain marked after, kind, shown, reported⟩
    cases scan : splitClosing 0 .code after with
    | none => exact here .unclosed (splitClosing_eq_none_iff.mp scan) _ rfl
    | some found =>
        obtain ⟨body, rest⟩ := found
        have closed : ClosedBy after body rest := closedBy_iff.mpr scan
        by_cases blank : Text.trimChars body = []
        · exact here .blank ⟨body, rest, closed, blank⟩ _ rfl
        cases compiled : compile (String.ofList (Text.trimChars body)) with
        | error made =>
            exact here .rejected ⟨body, rest, made, closed, blank, compiled⟩ made ⟨body, rest, closed, compiled⟩
        | ok program =>
            obtain ⟨grammatical, rfl⟩ := closed
            have valid : (⟨literal, mark, body⟩ : Part).Valid := ⟨plain, marked, grammatical⟩
            have accepted : (⟨literal, mark, body⟩ : Part).Accepted compile := ⟨blank, program, compiled⟩
            rw [← Part.chars_append ⟨literal, mark, body⟩ rest] at failed ⊢
            rw [piecesFrom_part valid, mapM_append_eq_error_iff
              (mapM_part_eq_ok_iff.mpr ⟨accepted, rfl⟩)] at failed
            obtain ⟨opening, kind, shown, reported⟩ := exists_fault_of_error _ rest failed
            refine ⟨opening.behind valid accepted, kind, shown, ?_⟩
            rw [ReachedOpening.front_behind, Text.utf8Length_append, ← Nat.add_assoc]
            exact reported
        | fault =>
            rw [piecesFrom_of_opening (splitOpening_append marked after plain), scan] at failed
            simp [List.mapM_append, mapM_textPiece, segment_body_of_present blank, compiled, Outcome.bind] at failed
termination_by cs.length

/-- What is wrong with the leftmost opening at fault.

* `shown`, `only`: it is at fault in this way, and in no other.
* `reported`: the error is the one that reports this fault.
* `behind`: if the opening is closed, the text behind its closing brace may be any other, and the error is the same. -/
structure ReachedOpening.AtFault (opening : ReachedOpening compile cs) (kind : FaultKind)
    (cause : CelError) : Prop where
  shown : kind.Shows compile opening.after
  only : ∀ other : FaultKind, other.Shows compile opening.after → other = kind
  reported : kind.ReportedAs compile opening.offset opening.after cause
  behind : ∀ body rest other, ClosedBy opening.after body rest →
    parseWith compile
      (String.ofList (opening.front ++ opening.mark :: '{' :: (body ++ '}' :: other))) = .error cause

/-- A fault of a closed opening does not depend on what stands behind it. -/
theorem parseWith_withAfter_of_fault (opening : ReachedOpening compile cs) {kind : FaultKind}
    (shown : kind.Shows compile opening.after)
    (reported : kind.ReportedAs compile opening.offset opening.after cause)
    (closed : ClosedBy opening.after body rest) (other : List Char) :
    parseWith compile
      (String.ofList (opening.front ++ opening.mark :: '{' :: (body ++ '}' :: other))) = .error cause := by
  have closedAgain : ClosedBy (body ++ '}' :: other) body other := ⟨closed.1, rfl⟩
  have shownAgain : kind.Shows compile (body ++ '}' :: other) := by
    rw [FaultKind.shows_iff_of_closed closed] at shown
    exact (FaultKind.shows_iff_of_closed closedAgain).mpr shown
  have reportedAgain : kind.ReportedAs compile opening.offset (body ++ '}' :: other) cause := by
    rw [FaultKind.reportedAs_iff_of_closed closed] at reported
    exact (FaultKind.reportedAs_iff_of_closed closedAgain).mpr reported
  exact parseWith_of_fault String.toList_ofList (opening.withAfter (body ++ '}' :: other)) shownAgain
    reportedAgain

/-- A text is rejected exactly with the fault of its leftmost opening at fault: everything before that opening is
literals and expressions that are closed, not blank and accepted by the compiler. -/
theorem parseWith_eq_error_iff_fault (compile : String → Outcome CelError π) (text : String)
    (cause : CelError) :
    parseWith compile text = .error cause ↔
      ∃ (opening : ReachedOpening compile text.toList) (kind : FaultKind), opening.AtFault kind cause := by
  constructor
  · intro rejected
    obtain ⟨opening, kind, shown, reported⟩ :=
      exists_fault_of_error 0 text.toList (parseWith_eq_error_iff.mp rejected)
    rw [Nat.zero_add, ← opening.offset_eq] at reported
    exact ⟨opening, kind, shown, fun other => FaultKind.eq_of_shows shown, reported,
      fun body rest other closed => parseWith_withAfter_of_fault opening shown reported closed other⟩
  · rintro ⟨opening, kind, fault⟩
    exact parseWith_of_fault rfl opening fault.shown fault.reported

end Template

end DecisionEval
