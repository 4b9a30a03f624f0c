/-
Module: DecisionEval.Proofs.CelPairing
Purpose: The tokens of a program pair up their braces, and none of them is a fault.
Main exports: Cel.Paired, Cel.Parser.Pairs, Cel.Parser.pairs_expression, Cel.paired_of_ofTokens
-/
import DecisionEval.Cel.Parser
import DecisionEval.Proofs.CelLexemes

namespace DecisionEval.Cel

/-- Tokens in which every brace has its partner, and which are all plain otherwise. -/
inductive Paired : List Token → Prop where
  | nil : Paired []
  | plain {token : Token} {rest : List Token} :
      token.isPlain = true → Paired rest → Paired (token :: rest)
  | braces {inner rest : List Token} : Paired inner → Paired rest →
      Paired (.symbol .openBrace :: (inner ++ .symbol .closeBrace :: rest))

theorem Paired.append {front back : List Token} (first : Paired front) (second : Paired back) :
    Paired (front ++ back) := by
  induction first with
  | nil => exact second
  | plain plain _ inductionHypothesis => exact .plain plain inductionHypothesis
  | braces inner _ _ inductionHypothesis =>
      rw [List.cons_append, List.append_assoc, List.cons_append]
      exact .braces inner inductionHypothesis

/-- What stands in front of the last tokens of a list is paired. -/
def PairedUpTo (tokens rest : List Token) : Prop := ∃ front, Paired front ∧ tokens = front ++ rest

namespace PairedUpTo

variable {tokens middle rest : List Token}

theorem refl : PairedUpTo tokens tokens := ⟨[], .nil, rfl⟩

theorem trans (first : PairedUpTo tokens middle) (second : PairedUpTo middle rest) :
    PairedUpTo tokens rest := by
  obtain ⟨front, frontPaired, rfl⟩ := first
  obtain ⟨more, morePaired, rfl⟩ := second
  exact ⟨front ++ more, frontPaired.append morePaired, (List.append_assoc ..).symm⟩

theorem cons {token : Token} (plain : token.isPlain = true) (later : PairedUpTo tokens rest) :
    PairedUpTo (token :: tokens) rest := by
  obtain ⟨front, paired, rfl⟩ := later
  exact ⟨token :: front, .plain plain paired, rfl⟩

theorem braces (inner : PairedUpTo tokens (.symbol .closeBrace :: rest)) :
    PairedUpTo (.symbol .openBrace :: tokens) rest := by
  obtain ⟨front, paired, rfl⟩ := inner
  exact ⟨.symbol .openBrace :: (front ++ [.symbol .closeBrace]), .braces paired .nil, by simp⟩

end PairedUpTo

namespace Parser

variable {α β : Type} {close : Symbol} {tokens rest : List Token}

/-- What a parser takes off the front is paired. -/
def Pairs (parser : Parser α) : Prop :=
  ∀ {tokens value rest}, parser tokens = .ok (value, rest) → PairedUpTo tokens rest

/-!
### Pieces
-/

theorem eq_cons_of_symbol {expected : Symbol} {value : Unit}
    (read : symbol expected tokens = .ok (value, rest)) : tokens = .symbol expected :: rest := by
  unfold symbol at read
  split at read
  · split at read
    case isTrue same =>
      cases read
      rw [same]
    case isFalse => cases read
  · cases read

theorem pairs_ident : Pairs ident := by
  intro tokens name rest read
  unfold ident at read
  split at read
  · cases read
    exact .cons rfl .refl
  · cases read

/-- Parts with commas between them are paired up to the symbol that closes them. -/
theorem pairedUpTo_commaRest {part : Parser α} (pairs : Pairs part) :
    ∀ {fuel : Nat} {tokens rest : List Token} {items : List α},
      commaRest close part fuel tokens = .ok (items, rest) →
        PairedUpTo tokens (.symbol close :: rest)
  | 0, _, _, _, read => by cases read
  | fuel + 1, tokens, rest, items, read => by
      unfold commaRest at read
      split at read
      case isTrue closes =>
        cases read
        obtain ⟨later, rfl⟩ := List.head?_eq_some_iff.mp closes
        exact .refl
      case isFalse =>
        obtain ⟨⟨first, middle⟩, readFirst, read⟩ := Outcome.bind_eq_ok_iff.mp read
        apply (pairs readFirst).trans
        simp only at read
        split at read
        case h_1 later =>
          obtain ⟨⟨others, after⟩, readOthers, found⟩ := Outcome.bind_eq_ok_iff.mp read
          cases found
          exact .cons rfl (pairedUpTo_commaRest pairs readOthers)
        case h_2 =>
          obtain ⟨⟨⟨⟩, after⟩, readClose, found⟩ := Outcome.bind_eq_ok_iff.mp read
          cases found
          rw [eq_cons_of_symbol readClose]
          exact .refl

theorem pairedUpTo_commaList {part : Parser α} {items : List α} (pairs : Pairs part)
    (read : commaList close part tokens = .ok (items, rest)) :
    PairedUpTo tokens (.symbol close :: rest) :=
  pairedUpTo_commaRest pairs read

theorem pairs_colonPair {left : Parser α} {right : Parser β} (leftPairs : Pairs left)
    (rightPairs : Pairs right) : Pairs (colonPair left right) := by
  intro tokens value rest read
  obtain ⟨⟨first, middle⟩, readFirst, read⟩ := Outcome.bind_eq_ok_iff.mp read
  obtain ⟨⟨⟨⟩, behind⟩, readColon, read⟩ := Outcome.bind_eq_ok_iff.mp read
  obtain ⟨⟨second, after⟩, readSecond, found⟩ := Outcome.bind_eq_ok_iff.mp read
  cases found
  have colon := eq_cons_of_symbol readColon
  exact (leftPairs readFirst).trans (colon ▸ .cons rfl (rightPairs readSecond))

/-- Whether every operator of a kind is plain. -/
def PlainOperators {γ : Type} (build? : Token → Option γ) : Prop :=
  ∀ {token build}, build? token = some build → token.isPlain = true

theorem pairedUpTo_chainRest {operand : Parser Expr} {build? : Token → Option (Expr → Expr → Expr)}
    (pairs : Pairs operand) (operators : PlainOperators build?) :
    ∀ {fuel : Nat} {left value : Expr} {tokens rest : List Token},
      chainRest operand build? fuel left tokens = .ok (value, rest) → PairedUpTo tokens rest
  | 0, _, _, _, _, read => by
      cases read
      exact .refl
  | fuel + 1, left, value, tokens, rest, read => by
      unfold chainRest at read
      split at read
      case h_1 =>
        cases read
        exact .refl
      case h_2 token later =>
        split at read
        case h_1 =>
          cases read
          exact .refl
        case h_2 build known =>
          obtain ⟨⟨right, middle⟩, readRight, readMore⟩ := Outcome.bind_eq_ok_iff.mp read
          exact .cons (operators known)
            ((pairs readRight).trans (pairedUpTo_chainRest pairs operators readMore))

theorem pairs_chain {operand : Parser Expr} {build? : Token → Option (Expr → Expr → Expr)}
    (pairs : Pairs operand) (operators : PlainOperators build?) : Pairs (chain operand build?) := by
  intro tokens value rest read
  obtain ⟨⟨first, middle⟩, readFirst, readMore⟩ := Outcome.bind_eq_ok_iff.mp read
  exact (pairs readFirst).trans (pairedUpTo_chainRest pairs operators readMore)

/-!
### Levels

Every level pairs if the parser for nested expressions does.
-/

section Levels

variable {expression : Parser Expr}

theorem pairs_afterName (pairs : Pairs expression) {target : Option Expr} {name : String}
    {otherwise : Expr} : Pairs (afterName expression target name otherwise) := by
  intro tokens value rest read
  unfold afterName at read
  split at read
  · obtain ⟨⟨arguments, after⟩, readArguments, found⟩ := Outcome.bind_eq_ok_iff.mp read
    cases found
    exact .cons rfl ((pairedUpTo_commaList pairs readArguments).trans (.cons rfl .refl))
  · cases read
    exact .refl

theorem pairs_primary (pairs : Pairs expression) : Pairs (primary expression) := by
  intro tokens value rest read
  unfold primary at read
  split at read
  case h_1 name later => exact .cons rfl (pairs_afterName pairs read)
  case h_2 later =>
    obtain ⟨⟨name, middle⟩, readName, readCall⟩ := Outcome.bind_eq_ok_iff.mp read
    exact .cons rfl ((pairs_ident readName).trans (pairs_afterName pairs readCall))
  case h_3 valued later =>
    unfold literal at read
    split at read
    · cases read
      exact .cons rfl .refl
    · split at read <;> cases read
  case h_4 later =>
    obtain ⟨⟨items, after⟩, readItems, found⟩ := Outcome.bind_eq_ok_iff.mp read
    cases found
    exact .cons rfl ((pairedUpTo_commaList pairs readItems).trans (.cons rfl .refl))
  case h_5 later =>
    obtain ⟨⟨entries, after⟩, readEntries, found⟩ := Outcome.bind_eq_ok_iff.mp read
    cases found
    exact .braces (pairedUpTo_commaList (pairs_colonPair pairs pairs) readEntries)
  case h_6 later =>
    obtain ⟨⟨inner, middle⟩, readInner, read⟩ := Outcome.bind_eq_ok_iff.mp read
    obtain ⟨⟨⟨⟩, after⟩, readClose, found⟩ := Outcome.bind_eq_ok_iff.mp read
    cases found
    have closing := eq_cons_of_symbol readClose
    exact .cons rfl ((pairs readInner).trans (closing ▸ .cons rfl .refl))
  case h_7 => cases read

theorem pairedUpTo_memberRest (pairs : Pairs expression) :
    ∀ {fuel : Nat} {target value : Expr} {tokens rest : List Token},
      memberRest expression fuel target tokens = .ok (value, rest) → PairedUpTo tokens rest
  | 0, _, _, _, _, read => by
      cases read
      exact .refl
  | fuel + 1, target, value, tokens, rest, read => by
      unfold memberRest at read
      split at read
      case h_1 later =>
        obtain ⟨⟨name, middle⟩, readName, read⟩ := Outcome.bind_eq_ok_iff.mp read
        obtain ⟨⟨member, after⟩, readCall, readMore⟩ := Outcome.bind_eq_ok_iff.mp read
        exact .cons rfl ((pairs_ident readName).trans
          ((pairs_afterName pairs readCall).trans (pairedUpTo_memberRest pairs readMore)))
      case h_2 later =>
        obtain ⟨⟨key, middle⟩, readKey, read⟩ := Outcome.bind_eq_ok_iff.mp read
        obtain ⟨⟨⟨⟩, after⟩, readClose, readMore⟩ := Outcome.bind_eq_ok_iff.mp read
        have closing := eq_cons_of_symbol readClose
        exact .cons rfl ((pairs readKey).trans
          (closing ▸ .cons rfl (pairedUpTo_memberRest pairs readMore)))
      case h_3 later =>
        obtain ⟨⟨entries, after⟩, readEntries, readMore⟩ := Outcome.bind_eq_ok_iff.mp read
        have fields := pairedUpTo_commaList (pairs_colonPair pairs_ident pairs) readEntries
        exact (PairedUpTo.braces fields).trans (pairedUpTo_memberRest pairs readMore)
      case h_4 =>
        cases read
        exact .refl

theorem pairs_member (pairs : Pairs expression) : Pairs (member expression) := by
  intro tokens value rest read
  obtain ⟨⟨target, middle⟩, readTarget, readMore⟩ := Outcome.bind_eq_ok_iff.mp read
  exact (pairs_primary pairs readTarget).trans (pairedUpTo_memberRest pairs readMore)

theorem plainOperators_unaryOp? : PlainOperators unaryOp? := by
  intro token op known
  unfold unaryOp? at known
  split at known
  case h_5 => cases known
  all_goals rfl

theorem plainOperators_productOp? : PlainOperators productOp? := by
  intro token build known
  unfold productOp? at known
  split at known
  case h_4 => cases known
  all_goals rfl

theorem plainOperators_sumOp? : PlainOperators sumOp? := by
  intro token build known
  unfold sumOp? at known
  split at known
  case h_3 => cases known
  all_goals rfl

theorem plainOperators_relationOp? : PlainOperators relationOp? := by
  intro token op known
  unfold relationOp? at known
  split at known
  case h_8 => cases known
  all_goals rfl

theorem plainOperators_of_symbol {operator : Symbol} {build : Expr → Expr → Expr}
    (plain : Token.isPlain (.symbol operator) = true) :
    PlainOperators (fun token => if token = .symbol operator then some build else none) := by
  intro token found known
  simp only at known
  split at known
  case isTrue same => rw [same, plain]
  case isFalse => cases known

theorem pairs_unary (pairs : Pairs expression) : Pairs (unary expression) := by
  intro tokens value rest read
  unfold unary at read
  split at read
  case h_1 => cases read
  case h_2 token later =>
    split at read
    case h_1 => exact pairs_member pairs read
    case h_2 op known =>
      obtain ⟨⟨operand, after⟩, readOperand, found⟩ := Outcome.bind_eq_ok_iff.mp read
      cases found
      exact .cons (plainOperators_unaryOp? known) (pairs_member pairs readOperand)

theorem pairs_sum (pairs : Pairs expression) : Pairs (sum expression) :=
  pairs_chain (pairs_chain (pairs_unary pairs) plainOperators_productOp?) plainOperators_sumOp?

theorem pairs_relation (pairs : Pairs expression) : Pairs (relation expression) := by
  intro tokens value rest read
  obtain ⟨⟨left, middle⟩, readLeft, read⟩ := Outcome.bind_eq_ok_iff.mp read
  apply (pairs_sum pairs readLeft).trans
  simp only at read
  split at read
  case h_1 =>
    cases read
    exact .refl
  case h_2 token more =>
    split at read
    case h_1 =>
      cases read
      exact .refl
    case h_2 op known =>
      obtain ⟨⟨right, after⟩, readRight, found⟩ := Outcome.bind_eq_ok_iff.mp read
      cases found
      exact .cons (plainOperators_relationOp? known) (pairs_sum pairs readRight)

theorem pairs_disjunction (pairs : Pairs expression) : Pairs (disjunction expression) :=
  pairs_chain (pairs_chain (pairs_relation pairs) (plainOperators_of_symbol rfl))
    (plainOperators_of_symbol rfl)

theorem pairs_conditional (pairs : Pairs expression) : Pairs (conditional expression) := by
  intro tokens value rest read
  obtain ⟨⟨condition, middle⟩, readCondition, read⟩ := Outcome.bind_eq_ok_iff.mp read
  apply (pairs_disjunction pairs readCondition).trans
  simp only at read
  split at read
  case h_1 later =>
    obtain ⟨⟨yes, more⟩, readYes, read⟩ := Outcome.bind_eq_ok_iff.mp read
    obtain ⟨⟨⟨⟩, behind⟩, readColon, read⟩ := Outcome.bind_eq_ok_iff.mp read
    obtain ⟨⟨no, after⟩, readNo, found⟩ := Outcome.bind_eq_ok_iff.mp read
    cases found
    have colon : more = .symbol .colon :: behind := eq_cons_of_symbol readColon
    exact .cons rfl ((pairs_disjunction pairs readYes).trans (colon ▸ .cons rfl (pairs readNo)))
  case h_2 =>
    cases read
    exact .refl

end Levels

theorem pairs_expression : ∀ depth : Nat, Pairs (expression depth)
  | 0 => fun read => by cases read
  | depth + 1 => pairs_conditional (pairs_expression depth)

end Parser

/-- The tokens of a program are paired. -/
theorem paired_of_ofTokens {tokens : List Token} {program : Expr}
    (spelled : Expr.ofTokens tokens = .ok program) : Paired tokens := by
  obtain ⟨⟨read, rest⟩, readAll, finished⟩ := Outcome.bind_eq_ok_iff.mp spelled
  obtain ⟨front, paired, rfl⟩ := Parser.pairs_expression _ readAll
  simp only at finished
  split at finished
  case isTrue nothing =>
    rw [List.isEmpty_iff.mp nothing, List.append_nil]
    exact paired
  case isFalse => cases finished

end DecisionEval.Cel
