/-
Module: DecisionEval.Proofs.TemplateGrammar
Purpose: Which texts are templates: those that the grammar takes apart into literals and into bodies that
  compile. There is never more than one way to do so.
Main exports: Template.Part.Valid, Template.piecesFrom_parts, Template.exists_front,
  Template.Decomposition.unique, Template.parseWith_iff_grammar
-/
import DecisionEval.Proofs.TemplateScan

namespace DecisionEval.Template

/-!
### Parts and their pieces
-/

/-- A part as the grammar allows it. -/
structure Part.Valid (part : Part) : Prop where
  literal : NoOpening part.literal
  mark : isMark part.mark = true
  body : Body part.body

/-- The pieces of a part that starts at a byte offset. -/
def Part.pieces (offset : Nat) (part : Part) : List Piece :=
  textPiece part.literal ++ [.body (offset + Text.utf8Length part.literal) part.mark part.body]

/-- The pieces of parts in a row. -/
def piecesOfParts : Nat → List Part → List Piece
  | _, [] => []
  | offset, part :: rest =>
    part.pieces offset ++ piecesOfParts (offset + Text.utf8Length part.chars) rest

variable {part : Part} {parts : List Part} {offset : Nat} {cs rest : List Char}

theorem Part.chars_append (part : Part) (rest : List Char) :
    part.chars ++ rest = part.literal ++ part.mark :: '{' :: (part.body ++ '}' :: rest) := by
  simp [Part.chars]

theorem utf8Size_of_isMark {mark : Char} (marked : isMark mark = true) : mark.utf8Size = 1 := by
  simp only [isMark, Bool.or_eq_true, beq_iff_eq] at marked
  rcases marked with rfl | rfl <;> decide

theorem Part.utf8Length_chars (valid : part.Valid) :
    Text.utf8Length part.chars =
      Text.utf8Length part.literal + 2 + Text.utf8Length part.body + 1 := by
  have brace : '{'.utf8Size = 1 ∧ '}'.utf8Size = 1 := by decide
  simp only [Part.chars, Text.utf8Length_append, Text.utf8Length, utf8Size_of_isMark valid.mark, brace.1,
    brace.2]
  omega

theorem splitOpening_part (valid : part.Valid) (rest : List Char) :
    splitOpening (part.chars ++ rest) =
      (part.literal, some (part.mark, part.body ++ '}' :: rest)) := by
  rw [part.chars_append, splitOpening_append valid.mark _ valid.literal]

/-!
### The pieces of a text
-/

theorem piecesFrom_of_noOpening (plain : NoOpening cs) : piecesFrom offset cs = textPiece cs := by
  rw [piecesFrom]
  split
  case h_1 before scan =>
    rw [splitOpening_of_noOpening plain] at scan
    cases scan
    rfl
  case h_2 before mark after scan =>
    rw [splitOpening_of_noOpening plain] at scan
    cases scan

theorem piecesFrom_of_opening {before after : List Char} {mark : Char}
    (opening : splitOpening cs = (before, some (mark, after))) :
    piecesFrom offset cs =
      match splitClosing 0 .code after with
      | none => textPiece before ++ [.unclosed (offset + Text.utf8Length before) mark after]
      | some (body, rest) =>
        textPiece before ++
          .body (offset + Text.utf8Length before) mark body ::
            piecesFrom (offset + Text.utf8Length before + 2 + Text.utf8Length body + 1) rest := by
  rw [piecesFrom]
  split
  case h_1 literal scan =>
    rw [opening] at scan
    cases scan
  case h_2 literal found later scan =>
    rw [opening] at scan
    cases scan
    split <;> simp only [*]

theorem piecesFrom_unclosed {literal after : List Char} {mark : Char} (plain : NoOpening literal)
    (marked : isMark mark = true) (unclosed : splitClosing 0 .code after = none) :
    piecesFrom offset (literal ++ mark :: '{' :: after) =
      textPiece literal ++ [.unclosed (offset + Text.utf8Length literal) mark after] := by
  rw [piecesFrom_of_opening (splitOpening_append marked after plain), unclosed]

theorem piecesFrom_part (valid : part.Valid) (rest : List Char) :
    piecesFrom offset (part.chars ++ rest) =
      part.pieces offset ++ piecesFrom (offset + Text.utf8Length part.chars) rest := by
  rw [piecesFrom_of_opening (splitOpening_part valid rest), splitClosing_of_body valid.body rest]
  simp only [Part.pieces, Part.utf8Length_chars valid, List.append_assoc, List.singleton_append,
    Nat.add_assoc]

/-- What stands in front of a text does not change the pieces of the text, but for their offsets. -/
theorem piecesFrom_parts (valid : ∀ part ∈ parts, part.Valid) (rest : List Char) :
    piecesFrom offset (parts.flatMap Part.chars ++ rest) =
      piecesOfParts offset parts ++
        piecesFrom (offset + Text.utf8Length (parts.flatMap Part.chars)) rest := by
  induction parts generalizing offset with
  | nil => simp [piecesOfParts, Text.utf8Length]
  | cons part parts inductionHypothesis =>
      rw [List.flatMap_cons, List.append_assoc, piecesFrom_part (valid part (by simp)),
        inductionHypothesis (fun other member => valid other (by simp [member]))]
      simp only [piecesOfParts, Text.utf8Length_append, List.append_assoc, Nat.add_assoc]

/-- Every text is parts in a row and then a literal, or a literal with an opening that nothing closes. -/
theorem exists_front (cs : List Char) :
    ∃ (parts : List Part) (rest : List Char), (∀ part ∈ parts, part.Valid) ∧
      cs = parts.flatMap Part.chars ++ rest ∧
      (NoOpening rest ∨ ∃ literal mark after, NoOpening literal ∧ isMark mark = true ∧
        rest = literal ++ mark :: '{' :: after ∧ splitClosing 0 .code after = none) := by
  rcases splitOpening_cases cs with ⟨plain, -⟩ | ⟨literal, mark, after, plain, marked, split, -⟩
  · exact ⟨[], cs, by simp, rfl, Or.inl plain⟩
  · cases closing : splitClosing 0 .code after with
    | none => exact ⟨[], cs, by simp, rfl, Or.inr ⟨literal, mark, after, plain, marked, split, closing⟩⟩
    | some pair =>
        obtain ⟨body, later⟩ := pair
        obtain ⟨grammatical, closed⟩ := splitClosing_eq_some_iff.mp closing
        have shorter : later.length < cs.length := by
          simp only [split, closed, List.length_append, List.length_cons]
          omega
        obtain ⟨parts, rest, valid, laterEq, ending⟩ := exists_front later
        refine ⟨⟨literal, mark, body⟩ :: parts, rest, ?_, ?_, ending⟩
        · intro part member
          rcases List.mem_cons.mp member with rfl | member
          · exact ⟨plain, marked, grammatical⟩
          · exact valid part member
        · rw [List.flatMap_cons, List.append_assoc, Part.chars_append, ← laterEq, ← closed, split]
termination_by cs.length

/-!
### There is one decomposition
-/

theorem Decomposition.valid (d : Decomposition cs) : ∀ part ∈ d.parts, part.Valid :=
  fun part member => ⟨d.literals part member, d.marks part member, d.bodies part member⟩

theorem parts_unique {others : List Part} {last otherLast : List Char}
    (valid : ∀ part ∈ parts, part.Valid) (otherValid : ∀ part ∈ others, part.Valid)
    (plain : NoOpening last) (otherPlain : NoOpening otherLast)
    (same : parts.flatMap Part.chars ++ last = others.flatMap Part.chars ++ otherLast) :
    parts = others ∧ last = otherLast := by
  induction parts generalizing others with
  | nil =>
      cases others with
      | nil => exact ⟨rfl, by simpa using same⟩
      | cons other others =>
          have scan := splitOpening_of_noOpening plain
          have split : last = other.chars ++ (others.flatMap Part.chars ++ otherLast) := by simpa using same
          rw [split, splitOpening_part (otherValid other (by simp))] at scan
          simp at scan
  | cons part parts inductionHypothesis =>
      have scan := splitOpening_part (valid part (by simp)) (parts.flatMap Part.chars ++ last)
      rw [← List.append_assoc, ← List.flatMap_cons, same] at scan
      cases others with
      | nil =>
          rw [List.flatMap_nil, List.nil_append, splitOpening_of_noOpening otherPlain] at scan
          cases scan
      | cons other others =>
          have otherPart := otherValid other (by simp)
          rw [List.flatMap_cons, List.append_assoc, splitOpening_part otherPart] at scan
          simp only [Prod.mk.injEq, Option.some.injEq] at scan
          obtain ⟨literalEq, markEq, bodies⟩ := scan
          -- The two bodies are both what the scan for the closing brace finds.
          have closing := splitClosing_of_body otherPart.body (others.flatMap Part.chars ++ otherLast)
          rw [bodies, splitClosing_of_body (valid part (by simp)).body] at closing
          simp only [Option.some.injEq, Prod.mk.injEq] at closing
          obtain ⟨bodyEq, rest⟩ := closing
          obtain ⟨partsEq, lastEq⟩ := inductionHypothesis
            (fun part member => valid part (by simp [member]))
            (fun part member => otherValid part (by simp [member])) rest
          have partEq : part = other := by
            cases part
            cases other
            simp_all
          exact ⟨by rw [partEq, partsEq], lastEq⟩

theorem Decomposition.unique (d other : Decomposition cs) : d = other := by
  have same := d.chars_eq.symm.trans other.chars_eq
  obtain ⟨partsEq, lastEq⟩ :=
    parts_unique d.valid other.valid d.last_literal other.last_literal same
  cases d
  cases other
  cases partsEq
  cases lastEq
  rfl

/-!
### Parsing
-/

section Parsing

variable {π : Type} {compile : String → Outcome Cel.CelError π} {made : List (Segment π)}

/-- The source of the expression in a part: its body without white space around. -/
def Part.source (part : Part) : String := String.ofList (Text.trimChars part.body)

/-- The body of a part is not blank, and the compiler accepts it. -/
def Part.Accepted (compile : String → Outcome Cel.CelError π) (part : Part) : Prop :=
  Text.trimChars part.body ≠ [] ∧ ∃ program, compile part.source = .ok program

/-- The segment of a literal, unless it is empty. -/
def literalSegments (chars : List Char) : List (Segment π) :=
  if chars.isEmpty then [] else [.literal (String.ofList chars)]

/-- The segments of a part: its literal, and its expression with the program that is compiled from it. -/
def Part.segments (compile : String → Outcome Cel.CelError π) (part : Part) : List (Segment π) :=
  literalSegments part.literal ++
    (compile part.source).value?.toList.map (Segment.expression part.source)

/-- The segments of a text: those of its parts in order, and its last literal. -/
def Decomposition.segments (compile : String → Outcome Cel.CelError π) (d : Decomposition cs) :
    List (Segment π) :=
  d.parts.flatMap (Part.segments compile) ++ literalSegments d.last

theorem Part.segments_of_compiled {program : π} (compiled : compile part.source = .ok program) :
    part.segments compile = literalSegments part.literal ++ [.expression part.source program] := by
  simp [Part.segments, compiled, Outcome.value?]

theorem mapM_textPiece (chars : List Char) :
    (textPiece chars).mapM (segment compile) = .ok (literalSegments chars) := by
  unfold textPiece literalSegments
  split <;> rfl

theorem segment_body_eq_ok_iff {mark : Char} {chars : List Char} {result : Segment π} :
    segment compile (.body offset mark chars) = .ok result ↔
      Text.trimChars chars ≠ [] ∧ ∃ program,
        compile (String.ofList (Text.trimChars chars)) = .ok program ∧
          result = .expression (String.ofList (Text.trimChars chars)) program := by
  simp only [segment, List.isEmpty_iff]
  split
  case isTrue blank => simp [blank]
  case isFalse present => simp [present, Outcome.bind_eq_ok_iff, eq_comm (a := result)]

theorem mapM_part_eq_ok_iff :
    (part.pieces offset).mapM (segment compile) = .ok made ↔
      part.Accepted compile ∧ made = part.segments compile := by
  rw [Part.pieces, Outcome.mapM_append_eq_ok_iff]
  simp only [mapM_textPiece, List.mapM_cons, List.mapM_nil, Outcome.bind_eq_ok_iff, Outcome.pure_eq,
    segment_body_eq_ok_iff]
  constructor
  · rintro ⟨front, back, frontEq, ⟨result, ⟨present, program, compiled, rfl⟩, none, noneEq, backEq⟩, rfl⟩
    cases frontEq
    cases noneEq
    cases backEq
    exact ⟨⟨present, program, compiled⟩, (Part.segments_of_compiled compiled).symm⟩
  · rintro ⟨⟨present, program, compiled⟩, rfl⟩
    exact ⟨_, _, rfl, ⟨_, ⟨present, program, compiled, rfl⟩, [], rfl, rfl⟩,
      Part.segments_of_compiled compiled⟩

theorem mapM_piecesOfParts_eq_ok_iff :
    (piecesOfParts offset parts).mapM (segment compile) = .ok made ↔
      (∀ part ∈ parts, part.Accepted compile) ∧ made = parts.flatMap (Part.segments compile) := by
  induction parts generalizing offset made with
  | nil => simp [piecesOfParts, eq_comm]
  | cons part parts inductionHypothesis =>
      rw [piecesOfParts, Outcome.mapM_append_eq_ok_iff]
      simp only [mapM_part_eq_ok_iff, inductionHypothesis, List.forall_mem_cons, List.flatMap_cons]
      constructor
      · rintro ⟨front, back, ⟨accepted, rfl⟩, ⟨others, rfl⟩, rfl⟩
        exact ⟨⟨accepted, others⟩, rfl⟩
      · rintro ⟨⟨accepted, others⟩, rfl⟩
        exact ⟨_, _, ⟨accepted, rfl⟩, ⟨others, rfl⟩, rfl⟩

/-- Parsing a text that has a decomposition succeeds exactly if all its bodies are accepted. -/
theorem parseWith_eq_ok_iff_of_decomposition {text : String} (d : Decomposition text.toList)
    {t : Template π} :
    parseWith compile text = .ok t ↔
      (∀ part ∈ d.parts, part.Accepted compile) ∧ t.segments = d.segments compile := by
  have piecesEq : pieces text = piecesOfParts 0 d.parts ++ textPiece d.last :=
    calc
      pieces text = piecesFrom 0 (d.parts.flatMap Part.chars ++ d.last) := congrArg (piecesFrom 0) d.chars_eq
      _ = piecesOfParts 0 d.parts ++ textPiece d.last := by
        rw [piecesFrom_parts d.valid, piecesFrom_of_noOpening d.last_literal]
  simp only [parseWith, piecesEq, Outcome.bind_eq_ok_iff, Outcome.mapM_append_eq_ok_iff, mapM_textPiece,
    mapM_piecesOfParts_eq_ok_iff]
  constructor
  · rintro ⟨segments, ⟨front, back, ⟨accepted, rfl⟩, lastEq, rfl⟩, templateEq⟩
    cases lastEq
    cases templateEq
    exact ⟨accepted, rfl⟩
  · rintro ⟨accepted, segmentsEq⟩
    refine ⟨_, ⟨_, _, ⟨accepted, rfl⟩, rfl, rfl⟩, ?_⟩
    cases t
    cases segmentsEq
    rfl

/-- A text that parses has a decomposition. -/
theorem exists_decomposition_of_parseWith {text : String} {t : Template π}
    (parsed : parseWith compile text = .ok t) : Nonempty (Decomposition text.toList) := by
  obtain ⟨parts, rest, valid, split, plain | ⟨literal, mark, after, plain, marked, restEq, unclosed⟩⟩ :=
    exists_front text.toList
  · exact ⟨⟨parts, rest, split, fun part member => (valid part member).literal, plain,
      fun part member => (valid part member).mark, fun part member => (valid part member).body⟩⟩
  · have piecesEq : pieces text = piecesOfParts 0 parts ++ (textPiece literal ++
        [.unclosed (Text.utf8Length (parts.flatMap Part.chars) + Text.utf8Length literal) mark after]) := by
      rw [pieces, split, piecesFrom_parts valid, restEq, piecesFrom_unclosed plain marked unclosed,
        Nat.zero_add]
    simp only [parseWith, piecesEq, Outcome.bind_eq_ok_iff, Outcome.mapM_append_eq_ok_iff] at parsed
    obtain ⟨segments, ⟨front, back, -, ⟨literals, failed, -, failedEq, -⟩, -⟩, -⟩ := parsed
    cases failedEq

theorem expressions_literalSegments (chars : List Char) :
    expressions (⟨literalSegments chars⟩ : Template π) = [] := by
  unfold literalSegments
  split <;> rfl

theorem expressions_append (front back : List (Segment π)) :
    expressions ⟨front ++ back⟩ = expressions ⟨front⟩ ++ expressions ⟨back⟩ := by
  simp [expressions]

theorem expressions_part (accepted : part.Accepted compile) :
    expressions ⟨part.segments compile⟩ = [part.source] := by
  obtain ⟨-, program, compiled⟩ := accepted
  rw [Part.segments_of_compiled compiled, expressions_append, expressions_literalSegments]
  rfl

theorem expressions_decomposition (d : Decomposition cs)
    (accepted : ∀ part ∈ d.parts, part.Accepted compile) :
    expressions ⟨d.segments compile⟩ = d.parts.map Part.source := by
  have ofParts : ∀ {parts : List Part}, (∀ part ∈ parts, part.Accepted compile) →
      expressions ⟨parts.flatMap (Part.segments compile)⟩ = parts.map Part.source := by
    intro parts accepted
    induction parts with
    | nil => rfl
    | cons part parts inductionHypothesis =>
        obtain ⟨first, others⟩ := List.forall_mem_cons.mp accepted
        rw [List.flatMap_cons, expressions_append, expressions_part first, inductionHypothesis others,
          List.map_cons, List.singleton_append]
  rw [Decomposition.segments, expressions_append, ofParts accepted, expressions_literalSegments,
    List.append_nil]

/-- A text parses exactly if the grammar takes it apart into literals and bodies that are not blank and that
the compiler accepts. There is no second way to take it apart. The segments are its literals, the empty
ones left out, and its bodies in the order of the text, and its expressions are the trimmed bodies. -/
theorem parseWith_iff_grammar (compile : String → Outcome Cel.CelError π) (text : String) :
    ((∃ t, parseWith compile text = .ok t) ↔
        ∃ d : Decomposition text.toList, ∀ part ∈ d.parts, part.Accepted compile) ∧
      (∀ d other : Decomposition text.toList, d = other) ∧
      ∀ (t : Template π) (d : Decomposition text.toList), parseWith compile text = .ok t →
        t.segments = d.segments compile ∧ t.expressions = d.parts.map Part.source := by
  refine ⟨⟨?_, ?_⟩, Decomposition.unique, ?_⟩
  · rintro ⟨t, parsed⟩
    obtain ⟨d⟩ := exists_decomposition_of_parseWith parsed
    exact ⟨d, ((parseWith_eq_ok_iff_of_decomposition d).mp parsed).1⟩
  · rintro ⟨d, accepted⟩
    exact ⟨⟨d.segments compile⟩, (parseWith_eq_ok_iff_of_decomposition d).mpr ⟨accepted, rfl⟩⟩
  · intro t d parsed
    obtain ⟨accepted, segmentsEq⟩ := (parseWith_eq_ok_iff_of_decomposition d).mp parsed
    refine ⟨segmentsEq, ?_⟩
    rw [← expressions_decomposition d accepted, ← segmentsEq]

end Parsing

/-- Two expressions: a map that holds a brace in a string, with a mark in front of its opening, and a
variable. -/
def quotedBrace : Decomposition "$$\x7b\x7b'k': '\x7d'\x7d['k']\x7d #\x7ba\x7d".toList where
  parts := [⟨['$'], '$', "\x7b'k': '\x7d'\x7d['k']".toList⟩, ⟨[' '], '#', ['a']⟩]
  last := []
  chars_eq := by decide
  literals := by decide
  last_literal := by decide
  marks := by decide
  bodies := by decide

theorem parseWith_iff_grammar_quotedBrace :
    ∃ t, parse "$$\x7b\x7b'k': '\x7d'\x7d['k']\x7d #\x7ba\x7d" = .ok t ∧
      t.segments = quotedBrace.segments Cel.Program.compile ∧
      t.expressions = ["\x7b'k': '\x7d'\x7d['k']", "a"] := by
  obtain ⟨⟨-, complete⟩, -, described⟩ := parseWith_iff_grammar Cel.Program.compile
    "$$\x7b\x7b'k': '\x7d'\x7d['k']\x7d #\x7ba\x7d"
  have compiles : ∀ part ∈ quotedBrace.parts, (Cel.Program.compile part.source).value?.isSome := by
    decide +kernel
  have accepted : ∀ part ∈ quotedBrace.parts, part.Accepted Cel.Program.compile := by
    intro part member
    obtain ⟨program, compiled⟩ := Option.isSome_iff_exists.mp (compiles part member)
    have present : ∀ part ∈ quotedBrace.parts, Text.trimChars part.body ≠ [] := by decide
    exact ⟨present part member, program, Outcome.value?_eq_some_iff.mp compiled⟩
  obtain ⟨t, parsed⟩ := complete ⟨quotedBrace, accepted⟩
  obtain ⟨segments, expressions⟩ := described t quotedBrace parsed
  exact ⟨t, parsed, segments, expressions.trans (by decide)⟩

end DecisionEval.Template
