/-
Module: DecisionEval.Text.Quoted
Purpose: Text between double quotes, with escapes for everything that does not show as itself.
Main exports: quoted
-/
import DecisionEval.Text.CodeRange
import DecisionEval.Text.EscapeTable

namespace DecisionEval.Text

/-- The hexadecimal digits of a number, in lower case and without leading zeros. -/
def hexDigits (n : Nat) : List Char := Nat.toDigits 16 n

/-- One character of quoted text. A single quote stands as itself; characters without a glyph of their own
    are shown by their code points. -/
def quotedChar (c : Char) : List Char :=
  match c with
  | '\x00' => ['\\', '0']
  | '\t' => ['\\', 't']
  | '\r' => ['\\', 'r']
  | '\n' => ['\\', 'n']
  | '\\' => ['\\', '\\']
  | '"' => ['\\', '"']
  | c => if inRanges escapedRanges c then ['\\', 'u', '{'] ++ hexDigits c.toNat ++ ['}'] else [c]

/-- Text between double quotes. -/
def quoted (text : String) : String :=
  String.ofList (['"'] ++ text.toList.flatMap quotedChar ++ ['"'])

end DecisionEval.Text
