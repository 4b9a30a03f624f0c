/-
Module: DecisionEval.Text.Lowercase
Purpose: Lower-casing of whole texts.
Main exports: lowercase
-/
import DecisionEval.Text.CaseTable
import DecisionEval.Text.CodeRange

namespace DecisionEval.Text

/-- Whether a run gives the lower-case form of the code point. -/
def CaseRun.covers (run : CaseRun) (code : Nat) : Bool :=
  run.first ≤ code && code ≤ run.last && (code - run.first) % run.step == 0

/-- The lower-case form of a character by itself: one character, or two for a dotted capital I. -/
def lowercaseChar (c : Char) : List Char :=
  if c = '\u0130' then ['i', '\u0307']
  else match lowercaseRuns.find? (·.covers c.toNat) with
    | some run => [Char.ofNat (c.toNat + run.offset).toNat]
    | none => [c]

/-- Whether, passing over the characters that the rule ignores, the next one has case. -/
def meetsCased (cs : List Char) : Bool :=
  match cs.dropWhile (inRanges caseIgnorableRanges) with
  | c :: _ => inRanges casedRanges c
  | [] => false

/-- Lower-cases `rest`, the characters after `before`, whose characters stand in reverse order. A capital
    sigma becomes the final form where a letter precedes it in its word and none follows. -/
def lowercaseFrom (before : List Char) : List Char → List Char
  | [] => []
  | c :: rest =>
    (if c = 'Σ' then [if meetsCased before && !meetsCased rest then 'ς' else 'σ'] else lowercaseChar c)
      ++ lowercaseFrom (c :: before) rest

/-- The lower-case form of a text, by the full case mapping of Unicode. -/
def lowercase (text : String) : String := String.ofList (lowercaseFrom [] text.toList)

end DecisionEval.Text
