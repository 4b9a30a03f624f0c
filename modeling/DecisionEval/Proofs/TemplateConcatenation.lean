/-
Module: DecisionEval.Proofs.TemplateConcatenation
Purpose: Templates in a row. The literals that meet where two texts are joined become one, and nothing else
  about the two changes: neither their expressions nor what they are rendered to.
Main exports: Template.OpensAcross, Template.Decomposition.append, Template.textOf,
  Template.exists_parseWith_append, Template.parse_append
-/
import DecisionEval.Proofs.TemplateGrammar

namespace DecisionEval.Template

open Cel (CelError)

/-!
### Literals that meet

An opening is two characters wide, so a new one can only come up where two texts meet: a mark at the end of
the first and a brace at the start of the second.
-/

/-- The last character of a text and the first one of the next make an opening. -/
def OpensAcross (front back : List Char) : Prop :=
  front.getLast?.any isMark = true ∧ back.head? = some '{'

instance (front back : List Char) : Decidable (OpensAcross front back) :=
  inferInstanceAs (Decidable (_ ∧ _))

variable {front back : List Char}

theorem NoOpening.append (frontPlain : NoOpening front) (backPlain : NoOpening back)
    (apart : ¬OpensAcross front back) : NoOpening (front ++ back) := by
  intro before after mark split
  rcases List.append_eq_append_iff.mp split with ⟨middle, beforeEq, backEq⟩ | ⟨middle, frontEq, restEq⟩
  case inl => exact backPlain middle after mark backEq
  -- The mark stands in the first text or at the start of the second.
  cases middle with
  | nil => exact backPlain [] after mark restEq.symm
  | cons first middle =>
      rw [List.cons_append, List.cons.injEq] at restEq
      obtain ⟨rfl, restEq⟩ := restEq
      cases middle with
      | nil =>
          cases marked : isMark mark with
          | false => rfl
          | true =>
              rw [List.nil_append] at restEq
              exact absurd ⟨by simp [frontEq, marked], by rw [← restEq]; rfl⟩ apart
      | cons brace middle =>
          rw [List.cons_append, List.cons.injEq] at restEq
          obtain ⟨rfl, -⟩ := restEq
          exact frontPlain before middle mark frontEq

/-- An opening where two texts meet is there in longer texts too. -/
theorem OpensAcross.widen (across : OpensAcross front back) (before after : List Char) :
    OpensAcross (before ++ front) (back ++ after) := by
  obtain ⟨marked, brace⟩ := across
  refine ⟨?_, by simp [List.head?_append, brace]⟩
  cases last : front.getLast? with
  | none => simp [last] at marked
  | some mark => simpa [List.getLast?_append, last] using marked

/-!
### Decompositions in a row

The last literal of the first text is put in front of the first literal of the second.
-/

/-- Parts with a literal in front of the first. -/
def partsAfter (literal : List Char) : List Part → List Part
  | [] => []
  | part :: parts => { part with literal := literal ++ part.literal } :: parts

/-- The last literal behind parts and with a literal in front of them. -/
def lastAfter (literal : List Char) : List Part → List Char → List Char
  | [], last => literal ++ last
  | _ :: _, last => last

variable {literal last : List Char} {parts : List Part}

theorem chars_partsAfter (literal : List Char) (parts : List Part) (last : List Char) :
    (partsAfter literal parts).flatMap Part.chars ++ lastAfter literal parts last =
      literal ++ (parts.flatMap Part.chars ++ last) := by
  cases parts <;> simp [partsAfter, lastAfter, Part.chars]

theorem valid_partsAfter (plain : NoOpening literal) (valid : ∀ part ∈ parts, part.Valid)
    (apart : ¬OpensAcross literal (parts.flatMap Part.chars ++ last)) :
    ∀ part ∈ partsAfter literal parts, part.Valid := by
  cases parts with
  | nil => simp [partsAfter]
  | cons first parts =>
      obtain ⟨firstValid, others⟩ := List.forall_mem_cons.mp valid
      refine List.forall_mem_cons.mpr ⟨⟨?_, firstValid.mark, firstValid.body⟩, others⟩
      refine plain.append firstValid.literal fun across => apart ?_
      rw [List.flatMap_cons, List.append_assoc, first.chars_append]
      exact across.widen [] _

theorem noOpening_lastAfter (plain : NoOpening literal) (lastPlain : NoOpening last)
    (apart : ¬OpensAcross literal (parts.flatMap Part.chars ++ last)) :
    NoOpening (lastAfter literal parts last) := by
  cases parts with
  | nil => exact plain.append lastPlain apart
  | cons first parts => exact lastPlain

theorem map_source_partsAfter (literal : List Char) (parts : List Part) :
    (partsAfter literal parts).map Part.source = parts.map Part.source := by
  cases parts <;> rfl

/-- The decomposition of two texts in a row. -/
def Decomposition.append (d : Decomposition front) (next : Decomposition back)
    (apart : ¬OpensAcross front back) : Decomposition (front ++ back) :=
  have seam : ¬OpensAcross d.last (next.parts.flatMap Part.chars ++ next.last) := by
    intro across
    rw [d.chars_eq, next.chars_eq] at apart
    exact apart (by simpa using across.widen (d.parts.flatMap Part.chars) [])
  have valid : ∀ part ∈ d.parts ++ partsAfter d.last next.parts, part.Valid :=
    List.forall_mem_append.mpr ⟨d.valid, valid_partsAfter d.last_literal next.valid seam⟩
  { parts := d.parts ++ partsAfter d.last next.parts
    last := lastAfter d.last next.parts next.last
    chars_eq := by
      rw [List.flatMap_append, List.append_assoc, chars_partsAfter, ← next.chars_eq, ← List.append_assoc,
        ← d.chars_eq]
    literals := fun part member => (valid part member).literal
    last_literal := noOpening_lastAfter d.last_literal next.last_literal seam
    marks := fun part member => (valid part member).mark
    bodies := fun part member => (valid part member).body }

/-!
### Texts of segments

The text of segments does not show where one literal ends and the next begins.
-/

section Texts

variable {π : Type} {run : π → Outcome CelError Json}

/-- The texts of segments in a row. -/
def textOf (run : π → Outcome CelError Json) (segments : List (Segment π)) : Outcome CelError String := do
  let texts ← segments.mapM (segmentText run)
  .ok (String.join texts)

theorem textOf_append (earlier later : List (Segment π)) :
    textOf run (earlier ++ later) = (do
      let text ← textOf run earlier
      let other ← textOf run later
      .ok (text ++ other)) := by
  simp [textOf, List.mapM_append, String.join_append]

theorem textOf_literalSegments (chars : List Char) :
    textOf run (literalSegments chars) = .ok (String.ofList chars) := by
  unfold literalSegments
  split
  case isTrue vacant =>
    rw [List.isEmpty_iff.mp vacant]
    rfl
  case isFalse =>
    simp [textOf, segmentText]

theorem textOf_literalSegments_append (chars more : List Char) :
    textOf run (literalSegments (chars ++ more)) =
      textOf run (literalSegments chars ++ literalSegments more) := by
  simp [textOf_append, textOf_literalSegments, String.ofList_append]

variable {compile : String → Outcome CelError π}

theorem accepted_partsAfter (accepted : ∀ part ∈ parts, part.Accepted compile) :
    ∀ part ∈ partsAfter literal parts, part.Accepted compile := by
  cases parts with
  | nil => exact accepted
  | cons part parts =>
      obtain ⟨first, others⟩ := List.forall_mem_cons.mp accepted
      exact List.forall_mem_cons.mpr ⟨first, others⟩

/-- The segments of parts in a row with a literal behind them. -/
def segmentsOf (compile : String → Outcome CelError π) (parts : List Part) (last : List Char) :
    List (Segment π) :=
  parts.flatMap (Part.segments compile) ++ literalSegments last

theorem segmentsOf_append (parts others : List Part) (last : List Char) :
    segmentsOf compile (parts ++ others) last =
      parts.flatMap (Part.segments compile) ++ segmentsOf compile others last := by
  simp [segmentsOf]

theorem textOf_segmentsAfter (parts : List Part) (literal last : List Char) :
    textOf run (segmentsOf compile (partsAfter literal parts) (lastAfter literal parts last)) =
      textOf run (literalSegments literal ++ segmentsOf compile parts last) := by
  cases parts with
  | nil => exact textOf_literalSegments_append literal last
  | cons part parts =>
      simp only [segmentsOf, partsAfter, lastAfter, List.flatMap_cons, Part.segments, List.append_assoc]
      rw [textOf_append, textOf_literalSegments_append, ← textOf_append, List.append_assoc]
      rfl

/-- Parts and literals in a row have the texts that they have one by one, though the literals that meet are
one segment. -/
theorem textOf_segmentsOf_append (parts others : List Part) (last otherLast : List Char) :
    textOf run (segmentsOf compile (parts ++ partsAfter last others) (lastAfter last others otherLast)) =
      textOf run (segmentsOf compile parts last ++ segmentsOf compile others otherLast) := by
  rw [segmentsOf_append, textOf_append, textOf_segmentsAfter, ← textOf_append, ← List.append_assoc]
  rfl

/-!
### Lone expressions

A template that is one expression and nothing else has the value of that expression; any other has a text.
-/

theorem rendered_evaluateWith (t : Template π) :
    (do let value ← evaluateWith run t; .ok (render value)) = textOf run t.segments := by
  rw [evaluateWith]
  split
  case h_1 source program segmentsEq =>
    simp [segmentsEq, textOf, segmentText]
  case h_2 =>
    simp [textOf, render]

theorem evaluateWith_of_not_lone {t : Template π}
    (composite : ∀ source program, t.segments ≠ [.expression source program]) :
    evaluateWith run t = (do let text ← textOf run t.segments; .ok (.string text)) := by
  rw [evaluateWith]
  split
  case h_1 source program segmentsEq => exact absurd segmentsEq (composite source program)
  case h_2 => simp [textOf]

theorem literalSegments_eq_nil_iff {chars : List Char} :
    (literalSegments chars : List (Segment π)) = [] ↔ chars = [] := by
  unfold literalSegments
  split <;> simp_all

theorem literalSegments_ne_expression {chars : List Char} {source : String} {program : π} :
    literalSegments chars ≠ [.expression source program] := by
  unfold literalSegments
  split <;> simp

theorem segmentsOf_cons {part : Part} {program : π} (compiled : compile part.source = .ok program) :
    segmentsOf compile (part :: parts) last =
      literalSegments part.literal ++ .expression part.source program :: segmentsOf compile parts last := by
  simp [segmentsOf, Part.segments_of_compiled compiled]

/-- What parses to a lone expression is one part, without characters around it. -/
theorem eq_singleton_of_segmentsOf {source : String} {program : π}
    (accepted : ∀ part ∈ parts, part.Accepted compile)
    (lone : segmentsOf compile parts last = [.expression source program]) :
    (∃ part, parts = [part] ∧ part.literal = []) ∧ last = [] := by
  cases parts with
  | nil => exact absurd lone literalSegments_ne_expression
  | cons part parts =>
      obtain ⟨⟨-, found, compiled⟩, others⟩ := List.forall_mem_cons.mp accepted
      rw [segmentsOf_cons compiled] at lone
      obtain ⟨bare, single⟩ | ⟨-, none⟩ := List.append_eq_singleton_iff.mp lone
      case inr => cases none
      obtain ⟨-, vacant⟩ := List.cons.inj single
      cases parts with
      | nil =>
          exact ⟨⟨part, rfl, literalSegments_eq_nil_iff.mp bare⟩, literalSegments_eq_nil_iff.mp vacant⟩
      | cons second parts =>
          obtain ⟨⟨-, more, secondCompiled⟩, -⟩ := List.forall_mem_cons.mp others
          simp [segmentsOf_cons secondCompiled] at vacant

/-- Two texts in a row that both have characters are no lone expression. -/
theorem not_lone_append {others : List Part} {otherLast : List Char} {source : String} {program : π}
    (frontPresent : parts.flatMap Part.chars ++ last ≠ [])
    (backPresent : others.flatMap Part.chars ++ otherLast ≠ [])
    (accepted : ∀ part ∈ parts ++ partsAfter last others, part.Accepted compile) :
    segmentsOf compile (parts ++ partsAfter last others) (lastAfter last others otherLast) ≠
      [.expression source program] := by
  intro lone
  obtain ⟨⟨part, single, bare⟩, vacant⟩ := eq_singleton_of_segmentsOf accepted lone
  cases others with
  | nil =>
      -- The one part and what is behind it are all of the first text, and nothing is left for the second.
      obtain ⟨-, rfl⟩ := List.append_eq_nil_iff.mp vacant
      exact backPresent rfl
  | cons first others =>
      -- The one part is the first of the second text, and nothing is left in front of it.
      obtain ⟨rfl, restEq⟩ | ⟨-, none⟩ := List.append_eq_singleton_iff.mp single
      case inr => cases none
      obtain ⟨rfl, -⟩ := List.cons.inj restEq
      obtain ⟨rfl, -⟩ := List.append_eq_nil_iff.mp bare
      exact frontPresent rfl

/-!
### Templates in a row
-/

/-- The value of two templates in a row, given that of each. -/
def evaluateBoth (run : π → Outcome CelError Json) (first second : Template π) : Outcome CelError Json := do
  let value ← evaluateWith run first
  let other ← evaluateWith run second
  .ok (.string (render value ++ render other))

/-- Two texts that parse, and that make no opening where they meet, parse in a row to segments with the same
texts, which are no lone expression if both texts have characters. -/
theorem exists_parseWith_append {front back : String} {first second : Template π}
    (frontParsed : parseWith compile front = .ok first) (backParsed : parseWith compile back = .ok second)
    (apart : ¬OpensAcross front.toList back.toList) :
    ∃ whole : Template π, parseWith compile (front ++ back) = .ok whole ∧
      whole.expressions = first.expressions ++ second.expressions ∧
      (∀ run : π → Outcome CelError Json,
        textOf run whole.segments = textOf run (first.segments ++ second.segments)) ∧
      (front ≠ "" → back ≠ "" → ∀ source program, whole.segments ≠ [.expression source program]) := by
  obtain ⟨d⟩ := exists_decomposition_of_parseWith frontParsed
  obtain ⟨next⟩ := exists_decomposition_of_parseWith backParsed
  obtain ⟨frontAccepted, firstEq⟩ := (parseWith_eq_ok_iff_of_decomposition d).mp frontParsed
  obtain ⟨backAccepted, secondEq⟩ := (parseWith_eq_ok_iff_of_decomposition next).mp backParsed
  obtain ⟨joined, partsEq, lastEq⟩ : ∃ joined : Decomposition (front ++ back).toList,
      joined.parts = d.parts ++ partsAfter d.last next.parts ∧
        joined.last = lastAfter d.last next.parts next.last := by
    rw [String.toList_append]
    exact ⟨d.append next apart, rfl, rfl⟩
  have accepted : ∀ part ∈ d.parts ++ partsAfter d.last next.parts, part.Accepted compile :=
    List.forall_mem_append.mpr ⟨frontAccepted, accepted_partsAfter backAccepted⟩
  have segmentsEq : joined.segments compile =
      segmentsOf compile (d.parts ++ partsAfter d.last next.parts)
        (lastAfter d.last next.parts next.last) := by
    rw [← partsEq, ← lastEq]
    rfl
  have parsed : parseWith compile (front ++ back) = .ok ⟨joined.segments compile⟩ :=
    (parseWith_eq_ok_iff_of_decomposition joined).mpr ⟨partsEq ▸ accepted, rfl⟩
  have expressionsEq : expressions ⟨joined.segments compile⟩ = first.expressions ++ second.expressions := by
    calc
      expressions ⟨joined.segments compile⟩ = joined.parts.map Part.source :=
        expressions_decomposition joined (partsEq ▸ accepted)
      _ = d.parts.map Part.source ++ next.parts.map Part.source := by
        rw [partsEq, List.map_append, map_source_partsAfter]
      _ = first.expressions ++ second.expressions := by
        rw [← expressions_decomposition d frontAccepted, ← expressions_decomposition next backAccepted,
          ← firstEq, ← secondEq]
  refine ⟨_, parsed, expressionsEq, ?_, ?_⟩
  · intro run
    rw [segmentsEq, firstEq, secondEq]
    exact textOf_segmentsOf_append d.parts next.parts d.last next.last
  · intro frontPresent backPresent source program
    rw [segmentsEq]
    apply not_lone_append _ _ accepted
    · rwa [← d.chars_eq, ne_eq, String.toList_eq_nil_iff]
    · rwa [← next.chars_eq, ne_eq, String.toList_eq_nil_iff]

theorem evaluateWith_eq_evaluateBoth {first second whole : Template π}
    (texts : textOf run whole.segments = textOf run (first.segments ++ second.segments))
    (composite : ∀ source program, whole.segments ≠ [.expression source program]) :
    evaluateWith run whole = evaluateBoth run first second := by
  rw [evaluateWith_of_not_lone composite, texts]
  simp [textOf_append, ← rendered_evaluateWith, evaluateBoth]

end Texts

end DecisionEval.Template
