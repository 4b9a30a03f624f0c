/-
Module: DecisionEval.Text.Base64
Purpose: Bytes as text of the standard base-64 alphabet, padded.
Main exports: base64
-/

namespace DecisionEval.Text

/-- The character for six bits: upper-case letters, lower-case letters, digits, `+` and `/`. -/
def base64Digit (bits : Nat) : Char :=
  let value := bits % 64
  if value < 26 then Char.ofNat ('A'.toNat + value)
  else if value < 52 then Char.ofNat ('a'.toNat + (value - 26))
  else if value < 62 then Char.ofNat ('0'.toNat + (value - 52))
  else if value = 62 then '+' else '/'

/-- Three bytes give four characters; a shorter rest is filled with zero bits and padded. -/
def base64Chars : List UInt8 → List Char
  | [] => []
  | [a] =>
    let bits := a.toNat * 16
    [base64Digit (bits / 64), base64Digit bits, '=', '=']
  | [a, b] =>
    let bits := (a.toNat * 256 + b.toNat) * 4
    [base64Digit (bits / 4096), base64Digit (bits / 64), base64Digit bits, '=']
  | a :: b :: c :: rest =>
    let bits := (a.toNat * 256 + b.toNat) * 256 + c.toNat
    [base64Digit (bits / 262144), base64Digit (bits / 4096), base64Digit (bits / 64), base64Digit bits]
      ++ base64Chars rest

/-- Bytes as padded base-64 text. -/
def base64 (bytes : List UInt8) : String := String.ofList (base64Chars bytes)

end DecisionEval.Text
