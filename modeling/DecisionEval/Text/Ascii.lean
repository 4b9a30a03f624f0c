/-
Module: DecisionEval.Text.Ascii
Purpose: Case of ASCII letters.
Main exports: asciiLower, equalIgnoringAsciiCase
-/

namespace DecisionEval.Text

/-- Lower-cases the ASCII letters; every other character stays as it is. -/
def asciiLower (cs : List Char) : List Char := cs.map Char.toLower

/-- Whether two texts differ at most in the case of ASCII letters. -/
def equalIgnoringAsciiCase (a b : String) : Bool := asciiLower a.toList == asciiLower b.toList

end DecisionEval.Text
