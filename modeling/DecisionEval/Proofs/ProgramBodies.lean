/-
Module: DecisionEval.Proofs.ProgramBodies
Purpose: Programs between delimiters: where the scanner of templates reads a program as the compiler does.
Main exports: Cel.Token.comments, Cel.Laid, Cel.laid_scanFrom, Cel.body_of_parse,
  BuiltIn.isBlank_of_compile, BuiltIn.parse_delimit_program
-/
import DecisionEval.BuiltIn
import DecisionEval.Proofs.CelPairing
import DecisionEval.Proofs.DelimitedText

namespace DecisionEval

namespace Cel

open Template (Body)

namespace Token

/-!
### Comments

The tokens of a text say nothing of its comments. They are listed by the same scan.
-/

/-- Whether a comment stands at the front of a text. -/
def startsComment : List Char → Bool
  | '/' :: '/' :: _ => true
  | _ => false

/-- The comments of a text after its first `skip` characters, each with the line ends after it, as far as
    there are tokens. -/
def commentsFrom : (skip : Nat) → List Char → List (List Char)
  | _, [] => []
  | skip + 1, _ :: rest => commentsFrom skip rest
  | 0, c :: rest =>
    if 0 < skipLength (c :: rest) then
      (if startsComment (c :: rest) then [(c :: rest).take (skipLength (c :: rest))] else []) ++
        commentsFrom (skipLength (c :: rest) - 1) rest
    else
      match lexeme? (c :: rest) with
      | some (length, _) => commentsFrom (length - 1) rest
      | none => []

/-- The comments of a text. -/
def comments (text : String) : List (List Char) := commentsFrom 0 text.toList

/-- What is skipped without being a comment is white space. -/
theorem body_of_skipLength {cs : List Char} (noComment : startsComment cs = false) :
    Body (cs.take (skipLength cs)) := by
  unfold skipLength
  split
  · cases noComment
  · exact (plainFront_countWhile (isPlain_of_test (by decide)) cs).body

end Token

/-!
### Tokens in a text

A text is the text of its tokens with gaps around them. Where the gaps are bodies, tokens that pair up their
braces make a body of the text.
-/

/-- The tokens stand in the text one after the other, with bodies in front of them and after them. -/
inductive Laid : List Char → List Token → Prop where
  | nil : Laid [] []
  | gap {front back : List Char} {tokens : List Token} :
      Body front → Laid back tokens → Laid (front ++ back) tokens
  | token {length : Nat} {token : Token} {cs : List Char} {tokens : List Token} :
      Token.lexeme? cs = some (length, token) → Laid (cs.drop length) tokens → Laid cs (token :: tokens)

/-- A text whose comments are bodies is laid out as its tokens, unless it holds something that is none. -/
theorem laid_scanFrom (skip : Nat) (cs : List Char)
    (comments : ∀ comment ∈ Token.commentsFrom skip cs, Body comment)
    (valid : Token.invalid ∉ Token.scanFrom skip cs) : Laid (cs.drop skip) (Token.scanFrom skip cs) := by
  -- The scan of the comments takes the same steps as that of the tokens.
  fun_induction Token.scanFrom skip cs with
  | case1 => simpa using Laid.nil
  | case2 skip c rest inductionHypothesis =>
      rw [Token.commentsFrom] at comments
      exact inductionHypothesis comments valid
  | case3 c rest skipped inductionHypothesis =>
      rw [Token.commentsFrom, if_pos skipped, List.forall_mem_append] at comments
      obtain ⟨front, later⟩ := comments
      have laid := inductionHypothesis later valid
      have body : Body ((c :: rest).take (Token.skipLength (c :: rest))) := by
        cases comment : Token.startsComment (c :: rest) with
        | true => exact front _ (by simp [comment])
        | false => exact Token.body_of_skipLength comment
      have behind : rest.drop (Token.skipLength (c :: rest) - 1) =
          (c :: rest).drop (Token.skipLength (c :: rest)) := (List.drop_cons skipped).symm
      rw [behind] at laid
      have whole := Laid.gap body laid
      rwa [List.take_append_drop] at whole
  | case4 c rest unskipped length token found inductionHypothesis =>
      rw [Token.commentsFrom, if_neg unskipped, found] at comments
      have laid := inductionHypothesis comments (fun member => valid (List.mem_cons_of_mem _ member))
      have behind : rest.drop (length - 1) = (c :: rest).drop length :=
        (List.drop_cons (Token.lexeme?_cases found).1).symm
      rw [behind] at laid
      exact .token found laid
  | case5 => simp at valid

namespace Laid

variable {cs : List Char} {token : Token} {tokens inner later : List Token}

theorem body (laid : Laid cs []) : Body cs := by
  generalize noTokens : ([] : List Token) = tokens at laid
  induction laid with
  | nil => exact .nil
  | gap front _ inductionHypothesis => exact front.append (inductionHypothesis noTokens)
  | token => cases noTokens

/-- In front of the first token is a body. -/
theorem exists_front (laid : Laid cs (token :: tokens)) : ∃ front rest length,
    cs = front ++ rest ∧ Body front ∧ Token.lexeme? rest = some (length, token) ∧
      Laid (rest.drop length) tokens := by
  generalize someTokens : token :: tokens = all at laid
  induction laid with
  | nil => cases someTokens
  | @gap before after _ body _ inductionHypothesis =>
      obtain ⟨front, rest, length, rfl, frontBody, found, behind⟩ := inductionHypothesis someTokens
      exact ⟨before ++ front, rest, length, (List.append_assoc ..).symm, body.append frontBody, found, behind⟩
  | token found behind =>
      cases someTokens
      exact ⟨[], _, _, rfl, .nil, found, behind⟩

/-- Paired tokens take a body off the front of the text. -/
theorem exists_body_of_paired (paired : Paired inner) (laid : Laid cs (inner ++ later)) :
    ∃ front rest, cs = front ++ rest ∧ Body front ∧ Laid rest later := by
  induction paired generalizing cs later with
  | nil => exact ⟨[], cs, rfl, .nil, laid⟩
  | plain plain _ inductionHypothesis =>
      obtain ⟨front, rest, length, rfl, frontBody, found, behind⟩ := laid.exists_front
      obtain ⟨others, back, dropEq, othersBody, behind⟩ := inductionHypothesis behind
      have first := Token.body_of_lexeme? found plain
      refine ⟨front ++ (rest.take length ++ others), back, ?_, frontBody.append (first.append othersBody), behind⟩
      rw [List.append_assoc, List.append_assoc, ← dropEq, List.take_append_drop]
  | braces _ _ innerHypothesis restHypothesis =>
      rw [List.cons_append, List.append_assoc, List.cons_append] at laid
      obtain ⟨front, rest, length, rfl, frontBody, opening, behind⟩ := laid.exists_front
      obtain ⟨inside, middle, insideEq, insideBody, behind⟩ := innerHypothesis behind
      obtain ⟨gap, more, moreLength, rfl, gapBody, closing, behind⟩ := behind.exists_front
      obtain ⟨others, back, othersEq, othersBody, behind⟩ := restHypothesis behind
      -- Between the braces stand the text of the inner tokens and the gap in front of the closing brace.
      have opened := List.take_append_drop length rest
      have closed := List.take_append_drop moreLength more
      rw [Token.take_of_openBrace opening, insideEq] at opened
      rw [Token.take_of_closeBrace closing, othersEq] at closed
      refine ⟨front ++ '{' :: ((inside ++ gap) ++ '}' :: others), back, ?_,
        frontBody.append (.braces (insideBody.append gapBody) othersBody), behind⟩
      simp [← opened, ← closed]

end Laid

theorem Paired.invalid_notMem {tokens : List Token} (paired : Paired tokens) : Token.invalid ∉ tokens := by
  induction paired with
  | nil => simp
  | plain plain _ inductionHypothesis =>
      rintro (_ | ⟨_, member⟩)
      · cases plain
      · exact inductionHypothesis member
  | braces _ _ innerHypothesis restHypothesis => simp [innerHypothesis, restHypothesis]

/-- A program whose comments are bodies is a body. -/
theorem body_of_parse {source : String} {program : Expr} (spelled : Expr.parse source = .ok program)
    (comments : ∀ comment ∈ Token.comments source, Body comment) : Body source.toList := by
  have paired : Paired (Token.scan source) := paired_of_ofTokens spelled
  have laid : Laid source.toList (Token.scan source ++ []) := by
    rw [List.append_nil]
    exact laid_scanFrom 0 source.toList comments paired.invalid_notMem
  obtain ⟨front, rest, textEq, frontBody, behind⟩ := Laid.exists_body_of_paired paired laid
  rw [textEq]
  exact frontBody.append behind.body

end Cel

namespace BuiltIn

open Cel (CelError Program)

variable {source : String} {program : Program}

/-!
### Delimited programs
-/

theorem isBlank_of_compile (trimmed : Text.trim source = source)
    (compiled : Program.compile source = .ok program) : Text.isBlank source = false := by
  cases blank : Text.isBlank source with
  | false => rfl
  | true =>
      have vacant : Text.trimChars source.toList = [] :=
        Text.trimChars_eq_nil_iff.mpr (Text.isBlank_eq_true_iff.mp blank)
      have empty : source = "" := by rw [← trimmed, Text.trim, vacant]
      obtain ⟨cause, unspelled⟩ : ∃ cause, Program.compile "" = .error cause := ⟨_, rfl⟩
      rw [empty, unspelled] at compiled
      cases compiled

/-- A program with delimiters around it parses to itself alone if its comments are bodies. Whatever the comments
hold, it parses to a lone expression exactly if it is a body, comments included. -/
theorem parse_delimit_program (trimmed : Text.trim source = source)
    (compiled : Program.compile source = .ok program) :
    ((∀ comment ∈ Cel.Token.comments source, Template.Body comment) →
      Template.parse (delimit source) = .ok ⟨[.expression source program]⟩) ∧
    ((∃ shown other, Template.parse (delimit source) = .ok ⟨[.expression shown other]⟩) ↔
      Template.Body source.toList) := by
  have nonblank := isBlank_of_compile trimmed compiled
  have parsed (grammatical : Template.Body source.toList) :
      Template.parse (delimit source) = .ok ⟨[.expression source program]⟩ := by
    have whole : Template.parseWith Program.compile (delimit source) = _ :=
      Template.parseWith_delimit grammatical nonblank
    rw [trimmed, compiled] at whole
    exact whole
  constructor
  · intro comments
    have translated : Program.translate source = .ok program := Outcome.mapError_eq_ok_iff.mp compiled
    obtain ⟨body, spelled, -⟩ := Outcome.bind_eq_ok_iff.mp translated
    exact parsed (Cel.body_of_parse (Outcome.mapError_eq_ok_iff.mp spelled) comments)
  · constructor
    · rintro ⟨shown, other, lone⟩
      exact Template.body_of_parseWith_delimit lone
    · intro grammatical
      exact ⟨source, program, parsed grammatical⟩

theorem parse_delimit_program_commented :
    let source := "\x7b'\x7d': b'\"'\x7d // \x7bnote\x7d"
    Cel.Token.comments source = ["// \x7bnote\x7d".toList] ∧
      ∃ program, Template.parse (delimit source) = .ok ⟨[.expression source program]⟩ := by
  intro source
  have compiles : (Program.compile source).value?.isSome = true := by decide +kernel
  obtain ⟨program, found⟩ := Option.isSome_iff_exists.mp compiles
  have listed : Cel.Token.comments source = ["// \x7bnote\x7d".toList] := by decide +kernel
  have parses := (parse_delimit_program (by decide) (Outcome.value?_eq_some_iff.mp found)).1
  refine ⟨listed, program, parses ?_⟩
  rw [listed]
  decide

/-- A closing brace in a comment closes the expression. -/
theorem parse_delimit_ne_of_comment :
    let source := "1 // \x7d"
    Text.trim source = source ∧ (∃ program, Program.compile source = .ok program) ∧
      ¬∃ program, Template.parse (delimit source) = .ok ⟨[.expression source program]⟩ := by
  intro source
  have compiles : (Program.compile source).value?.isSome = true := by decide +kernel
  obtain ⟨program, found⟩ := Option.isSome_iff_exists.mp compiles
  refine ⟨by decide, ⟨program, Outcome.value?_eq_some_iff.mp found⟩, ?_⟩
  rintro ⟨other, lone⟩
  have grammatical : Template.Body source.toList := Template.body_of_parseWith_delimit lone
  exact absurd grammatical (by decide)

end BuiltIn

end DecisionEval
