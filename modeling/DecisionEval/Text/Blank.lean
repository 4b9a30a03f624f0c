/-
Module: DecisionEval.Text.Blank
Purpose: White space, trimming, and blank text.
Main exports: isBlankChar, trimStart, trim, isBlank
-/

namespace DecisionEval.Text

/-- The characters with the Unicode property `White_Space`. -/
def whiteSpace : List Char :=
  ['\t', '\n', '\x0b', '\x0c', '\r', ' ', '\u0085', '\u00a0', '\u1680', '\u2000', '\u2001', '\u2002',
   '\u2003', '\u2004', '\u2005', '\u2006', '\u2007', '\u2008', '\u2009', '\u200a', '\u2028', '\u2029',
   '\u202f', '\u205f', '\u3000']

/-- Whether a character is white space. -/
def isBlankChar (c : Char) : Bool := whiteSpace.contains c

/-- The characters from the first one that is not white space on. -/
def dropBlank (cs : List Char) : List Char := cs.dropWhile isBlankChar

/-- The characters without white space at either end. -/
def trimChars (cs : List Char) : List Char := (dropBlank (dropBlank cs).reverse).reverse

/-- Text without white space at either end. -/
def trim (text : String) : String := String.ofList (trimChars text.toList)

/-- Whether text holds nothing but white space. The empty text is blank. -/
def isBlank (text : String) : Bool := text.toList.all isBlankChar

end DecisionEval.Text
