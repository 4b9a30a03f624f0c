/-
Module: DecisionEval.Proofs.CelLexemes
Purpose: The text of single tokens of a program, as the bodies of templates see it.
Main exports: Template.Body.append, Template.body_of_plain, Cel.Token.isPlain, Cel.Token.body_of_lexeme?,
  Cel.Token.take_of_openBrace, Cel.Token.take_of_closeBrace
-/
import Mathlib.Data.List.TakeWhile
import DecisionEval.Cel.Token
import DecisionEval.Proofs.TemplateScan

namespace DecisionEval

/-!
### Bodies
-/

namespace Template

variable {front back cs : List Char} {quote c : Char}

instance (c : Char) : Decidable (IsBrace c) := inferInstanceAs (Decidable (_ ∨ _))

instance (c : Char) : Decidable (IsQuote c) := inferInstanceAs (Decidable (_ ∨ _))

/-- A character that is read for itself wherever it stands outside of strings. -/
def IsPlain (c : Char) : Prop := ¬IsBrace c ∧ ¬IsQuote c

instance (c : Char) : Decidable (IsPlain c) := inferInstanceAs (Decidable (_ ∧ _))

theorem Body.append (first : Body front) (second : Body back) : Body (front ++ back) := by
  induction first with
  | nil => exact second
  | plain noBrace noQuote _ inductionHypothesis => exact .plain noBrace noQuote inductionHypothesis
  | string isQuote string _ inductionHypothesis =>
      rw [List.cons_append, List.append_assoc]
      exact .string isQuote string inductionHypothesis
  | braces inner _ _ inductionHypothesis =>
      rw [List.cons_append, List.append_assoc, List.cons_append]
      exact .braces inner inductionHypothesis

theorem body_of_plain (plain : ∀ c ∈ cs, IsPlain c) : Body cs := by
  induction cs with
  | nil => exact .nil
  | cons c cs inductionHypothesis =>
      obtain ⟨⟨noBrace, noQuote⟩, others⟩ := List.forall_mem_cons.mp plain
      exact .plain noBrace noQuote (inductionHypothesis others)

theorem body_of_quoted (isQuote : IsQuote quote) (string : QuotedRest quote cs) :
    Body (quote :: cs) := by
  simpa using Body.string isQuote string .nil

theorem isQuote_of_token {c : Char} (isQuote : Cel.Token.isQuote c = true) : IsQuote c := by
  simp only [Cel.Token.isQuote, Bool.or_eq_true, beq_iff_eq] at isQuote
  exact isQuote.symm

/-- Characters that neither close a string nor hide what follows, in front of the rest of a string. -/
theorem QuotedRest.append_plain (ordinary : ∀ c ∈ front, c ≠ quote ∧ c ≠ '\\')
    (rest : QuotedRest quote back) : QuotedRest quote (front ++ back) := by
  induction front with
  | nil => exact rest
  | cons c front inductionHypothesis =>
      obtain ⟨⟨noQuote, noBackslash⟩, others⟩ := List.forall_mem_cons.mp ordinary
      exact .plain noQuote noBackslash (inductionHypothesis others)

end Template

namespace Cel

open Template (Body IsBrace IsPlain IsQuote QuotedRest body_of_plain body_of_quoted)

/-!
### Digits

No digit of any base is a quote or a backslash, so the digits of an escape can be read as they stand.
-/

section Digits

variable {base code : Nat} {c : Char} {cs rest : List Char} {byte : UInt8}

/-- A character without a role in strings: it is neither a quote nor a backslash. -/
def IsOrdinary (c : Char) : Prop := ¬IsQuote c ∧ c ≠ '\\'

theorem isOrdinary_of_digitValue? (digit : (digitValue? base c).isSome = true) : IsOrdinary c := by
  constructor
  · rintro (rfl | rfl) <;> simp [digitValue?] at digit
  · rintro rfl
    simp [digitValue?] at digit

theorem isOrdinary_of_digitsValue? (valued : digitsValue? base cs = some code) :
    ∀ c ∈ cs, IsOrdinary c := by
  have fold : ∀ (cs : List Char) (start : Nat),
      cs.foldlM (fun value c => (digitValue? base c).map (value * base + ·)) start = some code →
        ∀ c ∈ cs, IsOrdinary c := by
    intro cs
    induction cs with
    | nil => simp
    | cons c cs inductionHypothesis =>
        intro start folded
        simp only [List.foldlM_cons, Option.bind_eq_bind, Option.bind_eq_some_iff,
          Option.map_eq_some_iff] at folded
        obtain ⟨next, ⟨digit, digitEq, -⟩, later⟩ := folded
        exact List.forall_mem_cons.mpr
          ⟨isOrdinary_of_digitValue? (by rw [digitEq]; rfl), inductionHypothesis next later⟩
  cases cs with
  | nil => simp
  | cons c cs => exact fold (c :: cs) 0 valued

theorem isOrdinary_of_signedDigitsValue? (valued : signedDigitsValue? base cs = some code) :
    ∀ c ∈ cs, IsOrdinary c := by
  unfold signedDigitsValue? at valued
  split at valued
  case h_1 digits =>
    have plus : IsOrdinary '+' := ⟨by decide, by decide⟩
    exact List.forall_mem_cons.mpr ⟨plus, isOrdinary_of_digitsValue? valued⟩
  case h_2 => exact isOrdinary_of_digitsValue? valued

theorem eq_append_of_takeExactly? {count : Nat} {taken : List Char}
    (found : takeExactly? count cs = some (taken, rest)) : cs = taken ++ rest := by
  unfold takeExactly? at found
  split at found
  · cases found
    exact (List.take_append_drop count cs).symm
  · cases found

/-- An octal escape is a digit and two more. -/
theorem eq_append_of_octalEscape? (escape : octalEscape? c cs = some (code, rest)) :
    ∃ digits, cs = digits ++ rest ∧ ∀ digit ∈ c :: digits, IsOrdinary digit := by
  simp only [octalEscape?, Option.bind_eq_bind, Option.bind_eq_some_iff] at escape
  obtain ⟨⟨digits, after⟩, taken, read⟩ := escape
  split at read
  · obtain ⟨value, valued, found⟩ := Option.bind_eq_some_iff.mp read
    cases found
    exact ⟨digits, eq_append_of_takeExactly? taken, isOrdinary_of_digitsValue? valued⟩
  · cases read

/-- An escape of a byte is a letter or a digit and some more digits. -/
theorem eq_append_of_byteEscape? (escape : byteEscape? c cs = some (byte, rest)) :
    ∃ digits, cs = digits ++ rest ∧ ∀ digit ∈ c :: digits, IsOrdinary digit := by
  simp only [byteEscape?, Option.bind_eq_bind] at escape
  split at escape
  case isTrue letter =>
    simp only [Option.bind_eq_some_iff] at escape
    obtain ⟨⟨digits, after⟩, taken, code, valued, pair, pairEq, byte, -, found⟩ := escape
    cases pairEq
    cases found
    have ordinary : IsOrdinary c := by
      subst letter
      exact ⟨by decide, by decide⟩
    exact ⟨digits, eq_append_of_takeExactly? taken,
      List.forall_mem_cons.mpr ⟨ordinary, isOrdinary_of_signedDigitsValue? valued⟩⟩
  case isFalse =>
    simp only [Option.bind_eq_some_iff] at escape
    obtain ⟨⟨code, after⟩, octal, byte, -, found⟩ := escape
    cases found
    exact eq_append_of_octalEscape? octal

end Digits

namespace Token

variable {quote : Char} {cs : List Char} {length : Nat} {token : Token}

/-!
### Strings

A backslash in a string takes the next character with it, for the tokens as for templates.
-/

theorem quotedRest_of_stringBodyLength? (found : stringBodyLength? quote cs = some length) :
    QuotedRest quote (cs.take (length + 1)) := by
  fun_induction stringBodyLength? quote cs generalizing length with
  | case1 => cases found
  | case2 c rest notLineFeed inductionHypothesis =>
      obtain ⟨inner, innerFound, rfl⟩ := Option.map_eq_some_iff.mp found
      exact .escape (inductionHypothesis innerFound)
  | case3 rest =>
      cases found
      exact .close
  | case4 => cases found
  | case5 c rest _ noQuote noBackslash inductionHypothesis =>
      obtain ⟨inner, innerFound, rfl⟩ := Option.map_eq_some_iff.mp found
      exact .plain noQuote noBackslash (inductionHypothesis innerFound)
  | case6 => cases found

theorem exists_literal_of_matchString? (found : matchString? cs = some (length, token)) :
    0 < length ∧ ∃ value, token = .literal value ∧ Body (cs.take length) := by
  have quoted {quote : Char} {rest : List Char} {inner : Nat} (isQuote : isQuote quote = true)
      (innerFound : stringBodyLength? quote rest = some inner) :
      Body ((quote :: rest).take (inner + 2)) :=
    body_of_quoted (Template.isQuote_of_token isQuote) (quotedRest_of_stringBodyLength? innerFound)
  unfold matchString? at found
  split at found
  case h_1 c rest =>
    split at found
    case isTrue isQuote =>
      obtain ⟨inner, innerFound, pairEq⟩ := Option.map_eq_some_iff.mp found
      cases pairEq
      exact ⟨by omega, _, rfl, quoted isQuote innerFound⟩
    case isFalse =>
      split at found
      case isTrue raw =>
        have plain : IsPlain c := by rcases raw with rfl | rfl <;> decide
        split at found
        case h_1 quote rest =>
          split at found
          case isTrue isQuote =>
            obtain ⟨inner, innerFound, pairEq⟩ := Option.map_eq_some_iff.mp found
            cases pairEq
            exact ⟨by omega, _, rfl, .plain plain.1 plain.2 (quoted isQuote innerFound)⟩
          case isFalse => cases found
        case h_2 => cases found
      case isFalse => cases found
  case h_2 => cases found

/-!
### Bytes

The closing quote of bytes is the last one on the line that can be reached. The quotes before it stand behind
backslashes, and no escape of a byte begins so. So bytes that have a value hold no quote of their own.
-/

/-- Every quote stands right behind a backslash. Whether one stands in front of the text is given. -/
def Hidden (quote : Char) : (escaped : Bool) → List Char → Prop
  | _, [] => True
  | escaped, c :: rest => (c = quote → escaped = true) ∧ Hidden quote (c == '\\') rest

theorem eq_append_of_bytesBodyLength? {escaped : Bool} (isQuote : IsQuote quote)
    (found : bytesBodyLength? quote escaped cs = some length) :
    ∃ body rest, cs = body ++ quote :: rest ∧ body.length = length ∧ Hidden quote escaped body := by
  have closed {rest : List Char} {escaped : Bool} :
      ∃ body later, quote :: rest = body ++ quote :: later ∧ body.length = 0 ∧ Hidden quote escaped body :=
    ⟨[], rest, rfl, rfl, trivial⟩
  fun_induction bytesBodyLength? quote escaped cs generalizing length with
  | case1 => cases found
  | case2 => cases found
  | case3 rest inner innerFound _ inductionHypothesis =>
      cases found
      obtain ⟨body, later, restEq, lengthEq, hidden⟩ := inductionHypothesis innerFound
      have unhidden : (quote == '\\') = false := by simpa using Template.ne_backslash_of_isQuote isQuote
      refine ⟨quote :: body, later, by rw [restEq, List.cons_append], by simp [lengthEq], fun _ => rfl, ?_⟩
      rw [unhidden]
      exact hidden
  | case4 =>
      cases found
      exact closed
  | case5 =>
      cases found
      exact closed
  | case6 escaped c rest _ noQuote inductionHypothesis =>
      obtain ⟨inner, innerFound, rfl⟩ := Option.map_eq_some_iff.mp found
      obtain ⟨body, later, restEq, lengthEq, hidden⟩ := inductionHypothesis innerFound
      exact ⟨c :: body, later, by rw [restEq, List.cons_append], by simp [lengthEq],
        fun same => absurd same noQuote, hidden⟩

/-- What stands behind ordinary characters is not hidden by them. -/
theorem Hidden.of_append {escaped : Bool} {front back : List Char} (ordinary : ∀ c ∈ front, IsOrdinary c)
    (present : front ≠ []) (hidden : Hidden quote escaped (front ++ back)) : Hidden quote false back := by
  induction front generalizing escaped with
  | nil => exact absurd rfl present
  | cons c front inductionHypothesis =>
      obtain ⟨⟨-, noBackslash⟩, others⟩ := List.forall_mem_cons.mp ordinary
      have unhidden : (c == '\\') = false := by simpa using noBackslash
      obtain ⟨-, later⟩ := hidden
      rw [unhidden] at later
      cases front with
      | nil => exact later
      | cons => exact inductionHypothesis others (by simp) later

theorem quotedRest_of_unescapeBytesFrom? {fuel : Nat} {bytes : List UInt8} (isQuote : IsQuote quote)
    (hidden : Hidden quote false cs) (valued : unescapeBytesFrom? fuel cs = some bytes) :
    QuotedRest quote (cs ++ [quote]) := by
  fun_induction unescapeBytesFrom? fuel cs generalizing bytes with
  | case1 => cases valued
  | case2 => exact .close
  | case3 => cases valued
  | case4 fuel c rest inductionHypothesis =>
      simp only [Option.bind_eq_bind, Option.bind_eq_some_iff] at valued
      obtain ⟨⟨byte, after⟩, escape, others, later, -⟩ := valued
      obtain ⟨digits, rfl, ordinary⟩ := eq_append_of_byteEscape? escape
      have behind : Hidden quote false after :=
        Hidden.of_append ordinary (by simp) hidden.2
      have string := inductionHypothesis after behind later
      rw [List.cons_append, List.cons_append, List.append_assoc]
      refine .escape (string.append_plain ?_)
      intro digit member
      obtain ⟨noQuote, noBackslash⟩ := ordinary digit (List.mem_cons_of_mem _ member)
      exact ⟨fun same => noQuote (same ▸ isQuote), noBackslash⟩
  | case5 fuel c rest notLast notEscape inductionHypothesis =>
      simp only [Option.bind_eq_bind, Option.bind_eq_some_iff] at valued
      obtain ⟨others, later, -⟩ := valued
      obtain ⟨exposed, behind⟩ := hidden
      have noBackslash : c ≠ '\\' := by
        intro backslash
        cases rest with
        | nil => exact notLast backslash rfl
        | cons next rest => exact notEscape next rest backslash rfl
      have unhidden : (c == '\\') = false := by simpa using noBackslash
      rw [unhidden] at behind
      exact .plain (fun same => Bool.false_ne_true (exposed same)) noBackslash
        (inductionHypothesis behind later)

/-- Bytes that have a value are a string behind a letter. -/
theorem exists_literal_of_matchBytes? (found : matchBytes? cs = some (length, token)) :
    0 < length ∧ ∃ value, token = .literal value ∧ (value.isSome → Body (cs.take length)) := by
  unfold matchBytes? at found
  split at found
  case h_1 b quote rest =>
    split at found
    case isTrue marked =>
      obtain ⟨letter, isQuote⟩ := marked
      have isQuote := Template.isQuote_of_token isQuote
      have plain : IsPlain b := by rcases letter with rfl | rfl <;> decide
      obtain ⟨inner, innerFound, pairEq⟩ := Option.map_eq_some_iff.mp found
      obtain ⟨body, later, rfl, rfl, hidden⟩ := eq_append_of_bytesBodyLength? isQuote innerFound
      cases pairEq
      refine ⟨by omega, _, rfl, ?_⟩
      intro valued
      obtain ⟨bytes, bytesEq⟩ := Option.isSome_iff_exists.mp (by simpa using valued)
      have string := quotedRest_of_unescapeBytesFrom? isQuote hidden bytesEq
      have front : (b :: quote :: (body ++ quote :: later)).take (body.length + 3) =
          b :: quote :: (body ++ [quote]) := by
        simp [List.take_append, List.take_of_length_le]
      rw [front]
      exact .plain plain.1 plain.2 (body_of_quoted isQuote string)
    case isFalse => cases found
  case h_2 => cases found

/-!
### Names and numbers
-/

/-- The first characters of a text are plain. -/
def PlainFront (length : Nat) (cs : List Char) : Prop := ∀ c ∈ cs.take length, IsPlain c

theorem PlainFront.body (plain : PlainFront length cs) : Body (cs.take length) := body_of_plain plain

theorem PlainFront.add {more : Nat} (front : PlainFront length cs) (back : PlainFront more (cs.drop length)) :
    PlainFront (length + more) cs := by
  intro c member
  rw [List.take_add, List.mem_append] at member
  exact member.elim (front c) (back c)

theorem plainFront_zero : PlainFront 0 cs := by simp [PlainFront]

theorem plainFront_cons {c : Char} (plain : IsPlain c) (rest : PlainFront length cs) :
    PlainFront (1 + length) (c :: cs) := by
  intro other member
  rw [Nat.add_comm, List.take_succ_cons] at member
  exact List.forall_mem_cons.mpr ⟨plain, rest⟩ other member

theorem plainFront_countWhile {test : Char → Bool} (plain : ∀ c, test c = true → IsPlain c)
    (cs : List Char) : PlainFront (countWhile test cs) cs := by
  intro c member
  have front : cs.take (countWhile test cs) = cs.takeWhile test :=
    (List.prefix_iff_eq_take.mp (List.takeWhile_prefix test)).symm
  rw [front] at member
  exact plain c (List.mem_takeWhile_imp member)

/-- A test that no brace and no quote passes is passed by plain characters alone. -/
theorem isPlain_of_test {test : Char → Bool}
    (refused : test '{' = false ∧ test '}' = false ∧ test '"' = false ∧ test '\'' = false)
    (c : Char) (passed : test c = true) : IsPlain c := by
  constructor
  · rintro (rfl | rfl) <;> simp [refused] at passed
  · rintro (rfl | rfl) <;> simp [refused] at passed

theorem plainFront_digits (cs : List Char) : PlainFront (countWhile Char.isDigit cs) cs :=
  plainFront_countWhile (isPlain_of_test (by decide)) cs

theorem plainFront_minusLength (cs : List Char) : PlainFront (minusLength cs) cs := by
  unfold minusLength
  split
  · exact plainFront_cons (by decide) plainFront_zero
  · exact plainFront_zero

theorem plainFront_signLength (cs : List Char) : PlainFront (signLength cs) cs := by
  unfold signLength
  split
  · exact plainFront_cons (by decide) plainFront_zero
  · exact plainFront_cons (by decide) plainFront_zero
  · exact plainFront_zero

theorem plainFront_of_integerLength? (found : integerLength? cs = some length) :
    0 < length ∧ PlainFront length cs := by
  simp only [integerLength?] at found
  split at found
  · cases found
  · cases found
    exact ⟨by omega, (plainFront_minusLength cs).add (plainFront_digits _)⟩

theorem plainFront_of_exponentLength? (found : exponentLength? cs = some length) : PlainFront length cs := by
  unfold exponentLength? at found
  split at found
  case h_1 c rest =>
    simp only at found
    split at found
    case isTrue marked =>
      cases found
      have plain : IsPlain c := by rcases marked.1 with rfl | rfl <;> decide
      rw [Nat.add_assoc]
      exact plainFront_cons plain ((plainFront_signLength rest).add (plainFront_digits _))
    case isFalse => cases found
  case h_2 => cases found

theorem plainFront_of_floatLength? (found : floatLength? cs = some length) :
    0 < length ∧ PlainFront length cs := by
  have whole := (plainFront_signLength cs).add (plainFront_digits (cs.drop (signLength cs)))
  simp only [floatLength?] at found
  split at found
  case h_1 rest restEq =>
    split at found
    · cases found
    · cases found
      have exponent : ∀ cs, PlainFront ((exponentLength? cs).getD 0) cs := by
        intro cs
        cases foundEq : exponentLength? cs with
        | none => exact plainFront_zero
        | some length => exact plainFront_of_exponentLength? foundEq
      have fraction := (plainFront_digits rest).add (exponent _)
      have pointed : PlainFront _ ('.' :: rest) := plainFront_cons (by decide) fraction
      rw [← restEq] at pointed
      exact ⟨by omega, by simpa only [Nat.add_assoc] using whole.add pointed⟩
  case h_2 =>
    split at found
    · cases found
    · obtain ⟨exponent, exponentFound, rfl⟩ := Option.map_eq_some_iff.mp found
      exact ⟨by omega, whole.add (plainFront_of_exponentLength? exponentFound)⟩

/-!
### Tokens

What a token is made of shows in its class. Braces stand for themselves; the text of every other token with a
value is a body.
-/

/-- Whether a token is neither a brace nor a fault in the text: a literal without a value, or no token. -/
def isPlain : Token → Bool
  | .symbol .openBrace => false
  | .symbol .closeBrace => false
  | .literal none => false
  | .invalid => false
  | _ => true

theorem exists_word_of_matchWord? (found : matchWord? cs = some (length, token)) :
    0 < length ∧ ∃ word ∈ words, cs.take length = word.1 ∧ token = word.2 := by
  obtain ⟨word, wordFound, pairEq⟩ := Option.map_eq_some_iff.mp found
  cases pairEq
  have member : word ∈ words := List.mem_of_find?_eq_some wordFound
  have present : ∀ word ∈ words, 0 < word.1.length := by decide
  have matched : word.1.isPrefixOf cs = true := by simpa using List.find?_some wordFound
  have front := List.isPrefixOf_iff_prefix.mp matched
  exact ⟨present word member, word, member, (List.prefix_iff_eq_take.mp front).symm, rfl⟩

theorem plainFront_of_matchIdent? (found : matchIdent? cs = some (length, token)) :
    0 < length ∧ PlainFront length cs ∧ ∃ name, token = .ident name := by
  unfold matchIdent? at found
  split at found
  case h_1 c rest =>
    split at found
    case isTrue start =>
      cases found
      have first : IsPlain c := isPlain_of_test (by decide) c start
      have others : PlainFront (countWhile isIdentPart rest) rest :=
        plainFront_countWhile (isPlain_of_test (by decide)) rest
      refine ⟨by simp, ?_, _, rfl⟩
      rw [List.length_cons, Nat.add_comm]
      exact plainFront_cons first others
    case isFalse => cases found
  case h_2 => cases found

theorem hexLength?_pos (found : hexLength? cs = some length) : 0 < length := by
  simp only [hexLength?] at found
  split at found
  · split at found
    · cases found
      omega
    · cases found
  · cases found

/-- A number is hexadecimal or marked as unsigned, and has no value, or its characters are plain. -/
theorem exists_literal_of_matchNumber? (found : matchNumber? cs = some (length, token)) :
    0 < length ∧ ∃ value, token = .literal value ∧ (value.isSome → PlainFront length cs) := by
  simp only [matchNumber?] at found
  split at found
  case h_1 count _ _ floatFound =>
    cases found
    obtain ⟨present, plain⟩ := plainFront_of_floatLength? floatFound
    exact ⟨present, _, rfl, fun _ => plain⟩
  case h_2 count _ _ hexFound =>
    have present := hexLength?_pos hexFound
    split at found <;> (cases found; exact ⟨by omega, none, rfl, by simp⟩)
  case h_3 count _ _ integerFound =>
    obtain ⟨present, plain⟩ := plainFront_of_integerLength? integerFound
    split at found
    · cases found
      exact ⟨by omega, none, rfl, by simp⟩
    · cases found
      exact ⟨present, _, rfl, fun _ => plain⟩
  case h_4 => cases found

theorem longer_eq_some_iff {a b : Option (Nat × Token)} {found : Nat × Token}
    (chosen : longer a b = some found) : a = some found ∨ b = some found := by
  unfold longer at chosen
  split at chosen
  · split at chosen
    · exact Or.inr chosen
    · exact Or.inl chosen
  · exact Or.inl chosen
  · exact Or.inr chosen

/-- A token is a word, a name or a literal, and never empty. -/
theorem lexeme?_cases (found : lexeme? cs = some (length, token)) : 0 < length ∧
    ((∃ word ∈ words, cs.take length = word.1 ∧ token = word.2) ∨
      (PlainFront length cs ∧ ∃ name, token = .ident name) ∨
      ∃ value, token = .literal value ∧ (value.isSome → Body (cs.take length))) := by
  rcases longer_eq_some_iff found with word | found
  · exact (exists_word_of_matchWord? word).imp_right .inl
  rcases longer_eq_some_iff found with ident | found
  · exact (plainFront_of_matchIdent? ident).imp_right (.inr ∘ .inl)
  rcases longer_eq_some_iff found with number | found
  · obtain ⟨present, value, tokenEq, plain⟩ := exists_literal_of_matchNumber? number
    exact ⟨present, .inr (.inr ⟨value, tokenEq, fun valued => (plain valued).body⟩)⟩
  rcases longer_eq_some_iff found with string | bytes
  · obtain ⟨present, value, tokenEq, body⟩ := exists_literal_of_matchString? string
    exact ⟨present, .inr (.inr ⟨value, tokenEq, fun _ => body⟩)⟩
  · exact (exists_literal_of_matchBytes? bytes).imp_right (.inr ∘ .inr)

/-- The text of a token that is no brace and no fault is a body. -/
theorem body_of_lexeme? (found : lexeme? cs = some (length, token)) (plain : token.isPlain = true) :
    Body (cs.take length) := by
  have ofWord : ∀ word ∈ words, word.2.isPlain = true → Body word.1 := by decide
  obtain ⟨-, ⟨word, member, front, rfl⟩ | ⟨front, -⟩ | ⟨value, rfl, body⟩⟩ := lexeme?_cases found
  · rw [front]
    exact ofWord word member plain
  · exact front.body
  · apply body
    cases value with
    | none => cases plain
    | some value => rfl

/-- A symbol is spelled as its word. -/
theorem exists_word_of_lexeme? {symbol : Symbol} (found : lexeme? cs = some (length, .symbol symbol)) :
    ∃ word ∈ words, cs.take length = word.1 ∧ .symbol symbol = word.2 := by
  obtain ⟨-, ofWord | ⟨-, name, tokenEq⟩ | ⟨value, tokenEq, -⟩⟩ := lexeme?_cases found
  · exact ofWord
  · cases tokenEq
  · cases tokenEq

theorem take_of_openBrace (found : lexeme? cs = some (length, .symbol .openBrace)) :
    cs.take length = ['{'] := by
  have spelled : ∀ word ∈ words, word.2 = .symbol .openBrace → word.1 = ['{'] := by decide
  obtain ⟨word, member, front, tokenEq⟩ := exists_word_of_lexeme? found
  rw [front, spelled word member tokenEq.symm]

theorem take_of_closeBrace (found : lexeme? cs = some (length, .symbol .closeBrace)) :
    cs.take length = ['}'] := by
  have spelled : ∀ word ∈ words, word.2 = .symbol .closeBrace → word.1 = ['}'] := by decide
  obtain ⟨word, member, front, tokenEq⟩ := exists_word_of_lexeme? found
  rw [front, spelled word member tokenEq.symm]

end Token

end Cel

end DecisionEval
