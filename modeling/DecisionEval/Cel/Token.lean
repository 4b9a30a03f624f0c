/-
Module: DecisionEval.Cel.Token
Purpose: The tokens of CEL programs and the splitting of a text into them.
Main exports: Token, Token.lexeme?, Token.scan
-/
import DecisionEval.Cel.Literal
import DecisionEval.Text.Blank

namespace DecisionEval.Cel

/-- A symbol of the grammar. -/
inductive Symbol where
  | question
  | colon
  | orOr
  | andAnd
  | less
  | lessOrEqual
  | greater
  | greaterOrEqual
  | equal
  | notEqual
  | inside
  | plus
  | minus
  | star
  | slash
  | percent
  | not
  | notNot
  | minusMinus
  | dot
  | comma
  | openParen
  | closeParen
  | openBracket
  | closeBracket
  | openBrace
  | closeBrace
deriving Repr, DecidableEq, Inhabited

/-- A token. A literal without a value has the form of a literal and denotes nothing; `invalid` stands
    where the text goes on with no token. -/
inductive Token where
  | symbol (symbol : Symbol)
  | literal (value : Option Literal)
  | ident (name : String)
  | invalid
deriving Repr, DecidableEq, Inhabited

namespace Token

/-!
### Token classes

Each class gives the length of its longest match at the front of a text. The longest match of all classes
is the next token; where a word and an identifier match equally long, it is the word.
-/

/-- The fixed words and symbols. -/
def words : List (List Char × Token) :=
  [(['|', '|'], .symbol .orOr), (['&', '&'], .symbol .andAnd), (['<', '='], .symbol .lessOrEqual),
    (['>', '='], .symbol .greaterOrEqual), (['=', '='], .symbol .equal), (['!', '='], .symbol .notEqual),
    (['!', '!'], .symbol .notNot), (['-', '-'], .symbol .minusMinus), (['i', 'n'], .symbol .inside),
    (['?'], .symbol .question), ([':'], .symbol .colon), (['<'], .symbol .less), (['>'], .symbol .greater),
    (['+'], .symbol .plus), (['-'], .symbol .minus), (['*'], .symbol .star), (['/'], .symbol .slash),
    (['%'], .symbol .percent), (['!'], .symbol .not), (['.'], .symbol .dot), ([','], .symbol .comma),
    (['('], .symbol .openParen), ([')'], .symbol .closeParen), (['['], .symbol .openBracket),
    ([']'], .symbol .closeBracket), (['{'], .symbol .openBrace), (['}'], .symbol .closeBrace),
    (['t', 'r', 'u', 'e'], .literal (some (.bool true))),
    (['f', 'a', 'l', 's', 'e'], .literal (some (.bool false))),
    (['n', 'u', 'l', 'l'], .literal (some .null))]

/-- The longest fixed word or symbol. Of two that match, the longer stands first in the list. -/
def matchWord? (cs : List Char) : Option (Nat × Token) :=
  (words.find? (fun word => word.1.isPrefixOf cs)).map (fun word => (word.1.length, word.2))

/-- Whether a character may start an identifier. -/
def isIdentStart (c : Char) : Bool := c == '_' || c.isAlpha

/-- Whether a character may continue an identifier. -/
def isIdentPart (c : Char) : Bool := c == '_' || c.isAlphanum

/-- An identifier: ASCII letters, digits and underscores, without a digit in front. -/
def matchIdent? : List Char → Option (Nat × Token)
  | c :: rest =>
    if isIdentStart c then
      let name := c :: rest.takeWhile isIdentPart
      some (name.length, .ident (String.ofList name))
    else none
  | [] => none

/-- Whether a character is a hexadecimal digit. -/
def isHexDigit (c : Char) : Bool := (digitValue? 16 c).isSome

/-- The length of a minus sign, if there is one. -/
def minusLength : List Char → Nat
  | '-' :: _ => 1
  | _ => 0

/-- The length of a sign, if there is one. -/
def signLength : List Char → Nat
  | '-' :: _ => 1
  | '+' :: _ => 1
  | _ => 0

/-- The number of characters at the front that satisfy a test. -/
def countWhile (test : Char → Bool) (cs : List Char) : Nat := (cs.takeWhile test).length

/-- The length of an integer in decimal digits. -/
def integerLength? (cs : List Char) : Option Nat :=
  let sign := minusLength cs
  let digits := countWhile Char.isDigit (cs.drop sign)
  if digits = 0 then none else some (sign + digits)

/-- The length of an integer in hexadecimal digits. -/
def hexLength? (cs : List Char) : Option Nat :=
  let sign := minusLength cs
  match cs.drop sign with
  | '0' :: x :: rest =>
    let digits := countWhile isHexDigit rest
    if (x = 'x' ∨ x = 'X') ∧ digits ≠ 0 then some (sign + 2 + digits) else none
  | _ => none

/-- The length of the mark of an unsigned integer: a space and the letter `u`. -/
def unsignedMarkLength? : List Char → Option Nat
  | ' ' :: 'u' :: _ => some 2
  | ' ' :: 'U' :: _ => some 2
  | _ => none

/-- The length of an exponent: a letter, an optional sign and digits. -/
def exponentLength? : List Char → Option Nat
  | c :: rest =>
    let sign := signLength rest
    let digits := countWhile Char.isDigit (rest.drop sign)
    if (c = 'e' ∨ c = 'E') ∧ digits ≠ 0 then some (1 + sign + digits) else none
  | [] => none

/-- The length of a float: digits with a point before the last of them and an optional exponent, or
    digits with an exponent. -/
def floatLength? (cs : List Char) : Option Nat :=
  let sign := signLength cs
  let whole := countWhile Char.isDigit (cs.drop sign)
  match cs.drop (sign + whole) with
  | '.' :: rest =>
    let fraction := countWhile Char.isDigit rest
    if fraction = 0 then none
    else
      let exponent := (exponentLength? (rest.drop fraction)).getD 0
      some (sign + whole + 1 + fraction + exponent)
  | rest =>
    if whole = 0 then none else (exponentLength? rest).map (fun exponent => sign + whole + exponent)

/-- A number, from the longest of its forms. Hexadecimal and unsigned integers have no value. -/
def matchNumber? (cs : List Char) : Option (Nat × Token) :=
  let withMark (length : Nat) : Nat × Token :=
    match unsignedMarkLength? (cs.drop length) with
    | some mark => (length + mark, .literal none)
    | none => (length, .literal none)
  match floatLength? cs, hexLength? cs, integerLength? cs with
  | some length, _, _ => some (length, .literal ((readFloat? (cs.take length)).map .float))
  | none, some length, _ => some (withMark length)
  | none, none, some length =>
    match unsignedMarkLength? (cs.drop length) with
    | some mark => some (length + mark, .literal none)
    | none => some (length, .literal ((readInteger? (cs.take length)).map .int))
  | none, none, none => none

/-- The length of what stands between the quotes of a string, given the text after its opening quote. A
    backslash takes the next character with it, which is no line feed. -/
def stringBodyLength? (quote : Char) : List Char → Option Nat
  | '\\' :: c :: rest => if c = '\n' then none else (stringBodyLength? quote rest).map (· + 2)
  | c :: rest =>
    if c = quote then some 0
    else if c = '\\' then none
    else (stringBodyLength? quote rest).map (· + 1)
  | [] => none

/-- Whether a character is a quote. -/
def isQuote (c : Char) : Bool := c == '\'' || c == '"'

/-- A string between quotes, raw after the letter `r`. -/
def matchString? : List Char → Option (Nat × Token)
  | c :: rest =>
    if isQuote c then
      (stringBodyLength? c rest).map (fun length =>
        (length + 2, .literal ((unescapeString? c (rest.take length)).map .string)))
    else if c = 'r' ∨ c = 'R' then
      match rest with
      | quote :: rest =>
        if isQuote quote then
          (stringBodyLength? quote rest).map (fun length =>
            (length + 3, .literal (some (.string (String.ofList (unescapeRaw quote (rest.take length)))))))
        else none
      | [] => none
    else none
  | [] => none

/-- The length of what stands between the quotes of bytes, given the text after the opening quote and
    whether the character before it was a backslash. The closing quote is the last one on the line that
    can be reached: a quote after a backslash need not close. -/
def bytesBodyLength? (quote : Char) (escaped : Bool) : List Char → Option Nat
  | [] => none
  | c :: rest =>
    if c = '\n' then none
    else if c = quote then
      if escaped then
        match bytesBodyLength? quote false rest with
        | some length => some (length + 1)
        | none => some 0
      else some 0
    else (bytesBodyLength? quote (c == '\\') rest).map (· + 1)

/-- Bytes: a string after the letter `b`. -/
def matchBytes? : List Char → Option (Nat × Token)
  | b :: quote :: rest =>
    if (b = 'b' ∨ b = 'B') ∧ isQuote quote then
      (bytesBodyLength? quote false rest).map (fun length =>
        (length + 3, .literal ((unescapeBytes? (rest.take length)).map .bytes)))
    else none
  | _ => none

/-- The length of what is skipped at the front of a text: white space, or a comment that two slashes
    start, with the line ends after it. -/
def skipLength : List Char → Nat
  | '/' :: '/' :: rest =>
    let isLineEnd (c : Char) : Bool := c == '\n' || c == '\r'
    let body := countWhile (fun c => !isLineEnd c) rest
    2 + body + countWhile isLineEnd (rest.drop body)
  | cs => countWhile Text.isBlankChar cs

/-- The longer of two matches; of two equally long ones the first. -/
def longer (a b : Option (Nat × Token)) : Option (Nat × Token) :=
  match a, b with
  | some a, some b => if a.1 < b.1 then some b else some a
  | some a, none => some a
  | none, b => b

/-- The token at the front of a text, with its length. -/
def lexeme? (cs : List Char) : Option (Nat × Token) :=
  longer (matchWord? cs) (longer (matchIdent? cs)
    (longer (matchNumber? cs) (longer (matchString? cs) (matchBytes? cs))))

/-- The tokens of a text after the first `skip` characters. Where neither a token nor something to skip
    is found, the tokens end with `invalid`. -/
def scanFrom : (skip : Nat) → List Char → List Token
  | _, [] => []
  | skip + 1, _ :: rest => scanFrom skip rest
  | 0, c :: rest =>
    if 0 < skipLength (c :: rest) then scanFrom (skipLength (c :: rest) - 1) rest
    else
      match lexeme? (c :: rest) with
      | some (length, token) => token :: scanFrom (length - 1) rest
      | none => [.invalid]

/-- The tokens of a text. -/
def scan (text : String) : List Token := scanFrom 0 text.toList

end Token

end DecisionEval.Cel
