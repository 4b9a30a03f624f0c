/-
Module: DecisionEval.Cel.Parser
Purpose: The grammar of CEL programs.
Main exports: SyntaxError, Expr.ofTokens, Expr.parse
-/
import DecisionEval.Cel.Expr
import DecisionEval.Cel.Token
import DecisionEval.Outcome

namespace DecisionEval.Cel

/-- The text is no program. -/
inductive SyntaxError where
  | unexpected
deriving Repr, DecidableEq

/-- A parser reads from the front of a list of tokens and gives what it read with the tokens after it. A
    literal without a value is a fault, not an error. -/
abbrev Parser (α : Type) := List Token → Outcome SyntaxError (α × List Token)

namespace Parser

/-!
### Pieces

Every level of the grammar is a parser built from the level that binds more tightly. Nested expressions
(in parentheses, brackets and braces) are read by a parser for whole expressions that is handed down; the
last definition ties the knot, with the number of tokens as a bound on the nesting.
-/

/-- Reads one symbol. -/
def symbol (expected : Symbol) : Parser Unit
  | .symbol found :: rest => if found = expected then .ok ((), rest) else .error .unexpected
  | _ => .error .unexpected

/-- Reads one identifier. -/
def ident : Parser String
  | .ident name :: rest => .ok (name, rest)
  | _ => .error .unexpected

/-- Reads the rest of a list of parts with commas between them, up to the closing symbol. A comma may
    stand before the closing symbol. -/
def commaRest {α : Type} (close : Symbol) (part : Parser α) : (fuel : Nat) → Parser (List α)
  | 0, _ => .error .unexpected
  | fuel + 1, tokens =>
    if tokens.head? = some (.symbol close) then .ok ([], tokens.drop 1)
    else do
      let (first, rest) ← part tokens
      match rest with
      | .symbol .comma :: rest => do
        let (others, rest) ← commaRest close part fuel rest
        .ok (first :: others, rest)
      | rest => do
        let ((), rest) ← symbol close rest
        .ok ([first], rest)

/-- Reads parts with commas between them and the closing symbol. -/
def commaList {α : Type} (close : Symbol) (part : Parser α) : Parser (List α) := fun tokens =>
  commaRest close part (tokens.length + 1) tokens

/-- Reads two parts with a colon between them. -/
def colonPair {α β : Type} (left : Parser α) (right : Parser β) : Parser (α × β) := fun tokens => do
  let (first, rest) ← left tokens
  let ((), rest) ← symbol .colon rest
  let (second, rest) ← right rest
  .ok ((first, second), rest)

/-- Extends an expression to the right for as long as an operator follows, at most `fuel` times. -/
def chainRest (operand : Parser Expr) (build? : Token → Option (Expr → Expr → Expr)) :
    (fuel : Nat) → Expr → Parser Expr
  | 0, left, tokens => .ok (left, tokens)
  | fuel + 1, left, tokens =>
    match tokens with
    | [] => .ok (left, [])
    | token :: rest =>
      match build? token with
      | none => .ok (left, tokens)
      | some build => do
        let (right, rest) ← operand rest
        chainRest operand build? fuel (build left right) rest

/-- Reads operands with operators between them, which group to the left. -/
def chain (operand : Parser Expr) (build? : Token → Option (Expr → Expr → Expr)) : Parser Expr :=
  fun tokens => do
    let (first, rest) ← operand tokens
    chainRest operand build? rest.length first rest

/-!
### Literals
-/

/-- Whether a token may follow a literal in some program. -/
def mayFollowLiteral : Token → Bool
  | .symbol .not => false
  | .symbol .notNot => false
  | .symbol .minusMinus => false
  | .symbol .openParen => false
  | .symbol _ => true
  | _ => false

/-- Takes the value of a literal. One without a value is noticed when the next token has been read, and
    only if this token may follow a literal at all. -/
def literal (value : Option Literal) (rest : List Token) : Outcome SyntaxError (Expr × List Token) :=
  match value with
  | some value => .ok (.literal value, rest)
  | none => if (rest.head?.map mayFollowLiteral).getD true then .fault else .error .unexpected

/-!
### Levels, from the tightest
-/

/-- Reads what follows a name: the arguments of a call, or nothing. -/
def afterName (expression : Parser Expr) (target : Option Expr) (name : String) (otherwise : Expr) :
    Parser Expr
  | .symbol .openParen :: rest => do
    let (arguments, rest) ← commaList .closeParen expression rest
    .ok (.call name target arguments, rest)
  | rest => .ok (otherwise, rest)

/-- A name, a call, a literal, a list, a map, or an expression in parentheses. A point may stand before a
    name. -/
def primary (expression : Parser Expr) : Parser Expr
  | .ident name :: rest => afterName expression none name (.ident name) rest
  | .symbol .dot :: rest => do
    let (name, rest) ← ident rest
    afterName expression none name (.ident name) rest
  | .literal value :: rest => literal value rest
  | .symbol .openBracket :: rest => do
    let (items, rest) ← commaList .closeBracket expression rest
    .ok (.list items, rest)
  | .symbol .openBrace :: rest => do
    let (entries, rest) ← commaList .closeBrace (colonPair expression expression) rest
    .ok (.map entries, rest)
  | .symbol .openParen :: rest => do
    let (inner, rest) ← expression rest
    let ((), rest) ← symbol .closeParen rest
    .ok (inner, rest)
  | _ => .error .unexpected

/-- Extends a target by selections, method calls, indices and fields, at most `fuel` of them. -/
def memberRest (expression : Parser Expr) : (fuel : Nat) → Expr → Parser Expr
  | 0, target, tokens => .ok (target, tokens)
  | fuel + 1, target, tokens =>
    match tokens with
    | .symbol .dot :: rest => do
      let (name, rest) ← ident rest
      let (member, rest) ← afterName expression (some target) name (.select target name) rest
      memberRest expression fuel member rest
    | .symbol .openBracket :: rest => do
      let (key, rest) ← expression rest
      let ((), rest) ← symbol .closeBracket rest
      memberRest expression fuel (.index target key) rest
    | .symbol .openBrace :: rest => do
      let (entries, rest) ← commaList .closeBrace (colonPair ident expression) rest
      memberRest expression fuel (.fields target entries) rest
    | tokens => .ok (target, tokens)

/-- A primary with what is selected from it. -/
def member (expression : Parser Expr) : Parser Expr := fun tokens => do
  let (target, rest) ← primary expression tokens
  memberRest expression rest.length target rest

/-- The operator of a token in front of an operand. -/
def unaryOp? : Token → Option UnaryOp
  | .symbol .not => some .not
  | .symbol .notNot => some .notNot
  | .symbol .minus => some .minus
  | .symbol .minusMinus => some .minusMinus
  | _ => none

/-- A member with at most one operator in front. -/
def unary (expression : Parser Expr) : Parser Expr
  | [] => .error .unexpected
  | token :: rest =>
    match unaryOp? token with
    | none => member expression (token :: rest)
    | some op => do
      let (operand, rest) ← member expression rest
      .ok (.unary op operand, rest)

/-- The operators of products. -/
def productOp? : Token → Option (Expr → Expr → Expr)
  | .symbol .star => some (.arithmetic .multiply)
  | .symbol .slash => some (.arithmetic .divide)
  | .symbol .percent => some (.arithmetic .modulus)
  | _ => none

/-- The operators of sums. -/
def sumOp? : Token → Option (Expr → Expr → Expr)
  | .symbol .plus => some (.arithmetic .add)
  | .symbol .minus => some (.arithmetic .subtract)
  | _ => none

/-- The operators that compare. -/
def relationOp? : Token → Option RelationOp
  | .symbol .less => some .less
  | .symbol .lessOrEqual => some .lessOrEqual
  | .symbol .greater => some .greater
  | .symbol .greaterOrEqual => some .greaterOrEqual
  | .symbol .equal => some .equal
  | .symbol .notEqual => some .notEqual
  | .symbol .inside => some .inside
  | _ => none

/-- Sums of products. -/
def sum (expression : Parser Expr) : Parser Expr :=
  chain (chain (unary expression) productOp?) sumOp?

/-- A sum, or two sums with one comparison between them. -/
def relation (expression : Parser Expr) : Parser Expr := fun tokens => do
  let (left, rest) ← sum expression tokens
  match rest with
  | [] => .ok (left, [])
  | token :: more =>
    match relationOp? token with
    | none => .ok (left, rest)
    | some op => do
      let (right, rest) ← sum expression more
      .ok (.relation op left right, rest)

/-- Relations joined by `&&`. -/
def conjunction (expression : Parser Expr) : Parser Expr :=
  chain (relation expression) (fun token => if token = .symbol .andAnd then some .and else none)

/-- Conjunctions joined by `||`. -/
def disjunction (expression : Parser Expr) : Parser Expr :=
  chain (conjunction expression) (fun token => if token = .symbol .orOr then some .or else none)

/-- A disjunction, or a choice between two by a third; the last part of a choice may be a choice. -/
def conditional (expression : Parser Expr) : Parser Expr := fun tokens => do
  let (condition, rest) ← disjunction expression tokens
  match rest with
  | .symbol .question :: rest => do
    let (yes, rest) ← disjunction expression rest
    let ((), rest) ← symbol .colon rest
    let (no, rest) ← expression rest
    .ok (.conditional condition yes no, rest)
  | rest => .ok (condition, rest)

/-- A whole expression, with at most `depth` expressions inside each other. -/
def expression : (depth : Nat) → Parser Expr
  | 0, _ => .error .unexpected
  | depth + 1, tokens => conditional (expression depth) tokens

end Parser

namespace Expr

/-- The program that tokens spell. Every nested expression stands behind a token of its own, so their
    depth is at most the number of tokens. -/
def ofTokens (tokens : List Token) : Outcome SyntaxError Expr := do
  let (program, rest) ← Parser.expression (tokens.length + 1) tokens
  if rest.isEmpty then .ok program else .error .unexpected

/-- The program that a text spells. -/
def parse (text : String) : Outcome SyntaxError Expr := ofTokens (Token.scan text)

end Expr

end DecisionEval.Cel
