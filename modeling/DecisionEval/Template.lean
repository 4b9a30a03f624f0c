/-
Module: DecisionEval.Template
Purpose: Text with expressions between delimiters: how it falls into pieces, and what it evaluates to.
Main exports: Template.splitOpening, Template.splitClosing, Template.pieces, Template.parse,
  Template.evaluate
-/
import DecisionEval.Cel.Program
import DecisionEval.Json.Writer
import DecisionEval.Text.Blank

namespace DecisionEval

open Cel (CelError)

/-- A part of a parsed template: text as it stands, or an expression with the program compiled from it. -/
inductive Segment (π : Type) where
  | literal (text : String)
  | expression (source : String) (program : π)
deriving Repr

/-- A parsed template. -/
structure Template (π : Type) where
  segments : List (Segment π)
deriving Repr

namespace Template

variable {π : Type}

/-!
### Pieces

An opening is a dollar or a number sign with a brace after it. The body that it opens ends at the brace
that closes it; braces inside the body pair up, and braces inside quoted strings do not count.
-/

/-- Whether a character opens an expression when a brace follows it. -/
def isMark (c : Char) : Bool := c == '$' || c == '#'

/-- Splits a text at its first opening: the text before it, and the mark with the text after it. -/
def splitOpening : List Char → List Char × Option (Char × List Char)
  | [] => ([], none)
  | [c] => ([c], none)
  | c :: next :: rest =>
    if isMark c && next == '{' then ([], some (c, rest))
    else
      let (before, opening) := splitOpening (next :: rest)
      (c :: before, opening)

/-- Where a scan for the closing brace stands: in code, in a string of the given quote, or behind a
    backslash in such a string. -/
inductive Mode where
  | code
  | quoted (quote : Char)
  | escaped (quote : Char)
deriving Repr, DecidableEq

/-- Splits a text at the brace that closes a body, of which `depth` braces inside are open: the rest of
    the body, and the text after the brace. -/
def splitClosing : (depth : Nat) → Mode → List Char → Option (List Char × List Char)
  | _, _, [] => none
  | depth, .escaped quote, c :: rest => keep c (splitClosing depth (.quoted quote) rest)
  | depth, .quoted quote, c :: rest =>
    if c = '\\' then keep c (splitClosing depth (.escaped quote) rest)
    else if c = quote then keep c (splitClosing depth .code rest)
    else keep c (splitClosing depth (.quoted quote) rest)
  | depth, .code, c :: rest =>
    if c = '"' ∨ c = '\'' then keep c (splitClosing depth (.quoted c) rest)
    else if c = '{' then keep c (splitClosing (depth + 1) .code rest)
    else if c = '}' then
      match depth with
      | 0 => some ([], rest)
      | depth + 1 => keep c (splitClosing depth .code rest)
    else keep c (splitClosing depth .code rest)
where
  /-- Puts a character in front of the body. -/
  keep (c : Char) (found : Option (List Char × List Char)) : Option (List Char × List Char) :=
    found.map (fun (body, rest) => (c :: body, rest))

/-- A piece of a text: characters outside of expressions, a closed expression, or an opening that nothing
    closes. An opening is known by its offset in UTF-8 bytes. -/
inductive Piece where
  | text (chars : List Char)
  | body (offset : Nat) (mark : Char) (chars : List Char)
  | unclosed (offset : Nat) (mark : Char) (chars : List Char)
deriving Repr, DecidableEq

/-- The characters that a piece stands for. -/
def Piece.chars : Piece → List Char
  | .text chars => chars
  | .body _ mark chars => mark :: '{' :: chars ++ ['}']
  | .unclosed _ mark chars => mark :: '{' :: chars

/-- The piece of characters outside of expressions, if there are any. -/
def textPiece (chars : List Char) : List Piece := if chars.isEmpty then [] else [.text chars]

theorem splitOpening_length {cs before rest : List Char} {mark : Char}
    (h : splitOpening cs = (before, some (mark, rest))) :
    before.length + rest.length + 2 = cs.length := by
  induction cs using splitOpening.induct generalizing before with
  | case1 => simp [splitOpening] at h
  | case2 => simp [splitOpening] at h
  | case3 c next rest' hmark =>
    rw [splitOpening, if_pos hmark] at h
    obtain ⟨rfl, h⟩ := Prod.mk.inj h
    cases h
    simp
  | case4 c next rest' hmark before' opening hrest ih =>
    rw [splitOpening, if_neg hmark, hrest] at h
    obtain ⟨rfl, rfl⟩ := Prod.mk.inj h
    have := ih hrest
    simp only [List.length_cons] at this ⊢
    omega

theorem splitClosing_length {depth : Nat} {mode : Mode} {cs body rest : List Char}
    (h : splitClosing depth mode cs = some (body, rest)) :
    body.length + rest.length + 1 = cs.length := by
  have keep {c : Char} {found : Option (List Char × List Char)} {n : Nat} {body : List Char}
      (h : splitClosing.keep c found = some (body, rest))
      (ih : ∀ {body : List Char}, found = some (body, rest) → body.length + rest.length + 1 = n) :
      body.length + rest.length + 1 = n + 1 := by
    obtain ⟨⟨inner, after⟩, hfound, heq⟩ := Option.map_eq_some_iff.1 h
    obtain ⟨rfl, rfl⟩ := Prod.mk.inj heq
    have := ih hfound
    simp only [List.length_cons]
    omega
  induction cs generalizing depth mode body with
  | nil => simp [splitClosing] at h
  | cons c cs ih =>
    rw [List.length_cons]
    cases mode with
    | escaped quote => exact keep (by simpa only [splitClosing] using h) ih
    | quoted quote =>
      simp only [splitClosing] at h
      split at h
      · exact keep h ih
      · split at h <;> exact keep h ih
    | code =>
      simp only [splitClosing] at h
      split at h
      · exact keep h ih
      · split at h
        · exact keep h ih
        · split at h
          · split at h
            · cases h
              simp
            · exact keep h ih
          · exact keep h ih

/-- The pieces of a text that starts at a byte offset. -/
def piecesFrom (offset : Nat) (cs : List Char) : List Piece :=
  match _hopening : splitOpening cs with
  | (before, none) => textPiece before
  | (before, some (mark, after)) =>
    let start := offset + Text.utf8Length before
    match _hclosing : splitClosing 0 .code after with
    | none => textPiece before ++ [.unclosed start mark after]
    | some (body, rest) =>
      textPiece before ++
        .body start mark body :: piecesFrom (start + 2 + Text.utf8Length body + 1) rest
termination_by cs.length
decreasing_by
  have := splitOpening_length _hopening
  have := splitClosing_length _hclosing
  omega

/-- The pieces of a text, from left to right. -/
def pieces (text : String) : List Piece := piecesFrom 0 text.toList

/-!
### Parsing
-/

/-- The segment of a piece. The expression of a body is what stands in it without white space around. -/
def segment (compile : String → Outcome CelError π) : Piece → Outcome CelError (Segment π)
  | .text chars => .ok (.literal (String.ofList chars))
  | .unclosed offset _ _ => .error (.invalidTemplate offset .unterminated)
  | .body offset _ chars =>
    let source := Text.trimChars chars
    if source.isEmpty then .error (.invalidTemplate offset .empty)
    else do
      let program ← compile (String.ofList source)
      .ok (.expression (String.ofList source) program)

/-- Parses a text with a given compiler for its expressions. The first piece at fault decides. -/
def parseWith (compile : String → Outcome CelError π) (text : String) : Outcome CelError (Template π) := do
  let segments ← (pieces text).mapM (segment compile)
  .ok ⟨segments⟩

/-- The sources of the expressions, in order. -/
def expressions (t : Template π) : List String :=
  t.segments.filterMap (fun
    | .literal _ => none
    | .expression source _ => some source)

/-!
### Evaluation
-/

/-- How a value is rendered inside text: nothing for `null`, a string as it stands, and any other value as
    JSON text. -/
def render : Json → String
  | .null => ""
  | .string text => text
  | value => value.write

/-- The text of a segment. -/
def segmentText (run : π → Outcome CelError Json) : Segment π → Outcome CelError String
  | .literal text => .ok text
  | .expression _ program => do
    let value ← run program
    .ok (render value)

/-- The value of a template, given how its programs are run: the value of its expression if it consists of
    exactly one, and else the texts of all segments in a row. -/
def evaluateWith (run : π → Outcome CelError Json) (t : Template π) : Outcome CelError Json :=
  match t.segments with
  | [.expression _ program] => run program
  | segments => do
    let texts ← segments.mapM (segmentText run)
    .ok (.string (String.join texts))

/-- Parses a text with CEL expressions. -/
def parse (text : String) : Outcome CelError (Template Cel.Program) := parseWith Cel.Program.compile text

/-- Evaluates a template with the given variables in scope. -/
def evaluate (t : Template Cel.Program) (inputs : List (String × Json)) : Outcome CelError Json :=
  evaluateWith (·.execute inputs) t

/-- The text that shows a segment in full. -/
def segmentDebugText : Segment π → String
  | .literal text => "Literal(" ++ Text.quoted text ++ ")"
  | .expression source _ => "Expression(" ++ Text.quoted source ++ ")"

/-- The text that shows a template in full. -/
def debugText (t : Template π) : String :=
  "TemplateExpression \x7b segments: [" ++ String.intercalate ", " (t.segments.map segmentDebugText)
    ++ "] \x7d"

end Template

end DecisionEval
