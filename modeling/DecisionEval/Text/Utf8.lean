/-
Module: DecisionEval.Text.Utf8
Purpose: The UTF-8 bytes of text, and the reading of bytes that need not be valid.
Main exports: utf8Bytes, utf8Length, decodeLossy
-/

namespace DecisionEval.Text

/-- The UTF-8 bytes of characters. -/
def utf8BytesOf (cs : List Char) : List UInt8 := cs.flatMap String.utf8EncodeChar

/-- The UTF-8 bytes of a text. -/
def utf8Bytes (text : String) : List UInt8 := utf8BytesOf text.toList

/-- The number of UTF-8 bytes of characters. -/
def utf8Length : List Char → Nat
  | [] => 0
  | c :: rest => c.utf8Size + utf8Length rest

@[simp] theorem utf8Length_append (front back : List Char) :
    utf8Length (front ++ back) = utf8Length front + utf8Length back := by
  induction front with
  | nil => simp [utf8Length]
  | cons c rest inductionHypothesis => simp [utf8Length, inductionHypothesis, Nat.add_assoc]

/-- The replacement character, which stands for bytes that are not valid UTF-8. -/
def replacement : Char := '\uFFFD'

/-- A character of which some bytes have been read: their bits, the number of bytes that are missing,
    and the closed range in which the next byte has to lie. -/
structure Partial where
  bits : Nat
  missing : Nat
  low : UInt8
  high : UInt8
deriving Repr, DecidableEq

/-- What a byte means where a character has to start. -/
inductive Lead where
  | char (c : Char)
  | start (read : Partial)
  | invalid
deriving Repr, DecidableEq

/-- Classifies a byte where a character has to start. The range of the second byte keeps out overlong
    forms, surrogates and code points past U+10FFFF. -/
def Lead.ofByte (b : UInt8) : Lead :=
  let bits := b.toNat
  if b < 0x80 then .char (Char.ofNat bits)
  else if b < 0xC2 then .invalid
  else if b < 0xE0 then .start ⟨bits - 0xC0, 1, 0x80, 0xBF⟩
  else if b = 0xE0 then .start ⟨bits - 0xE0, 2, 0xA0, 0xBF⟩
  else if b = 0xED then .start ⟨bits - 0xE0, 2, 0x80, 0x9F⟩
  else if b < 0xF0 then .start ⟨bits - 0xE0, 2, 0x80, 0xBF⟩
  else if b = 0xF0 then .start ⟨bits - 0xF0, 3, 0x90, 0xBF⟩
  else if b < 0xF4 then .start ⟨bits - 0xF0, 3, 0x80, 0xBF⟩
  else if b = 0xF4 then .start ⟨bits - 0xF0, 3, 0x80, 0x8F⟩
  else .invalid

/-- Reads bytes, given what has been read of the current character. Bytes that begin a character but do
    not complete it are replaced together, by one replacement character; the byte that breaks them off
    is looked at again. -/
def decodeFrom : Option Partial → List UInt8 → List Char
  | none, [] => []
  | some _, [] => [replacement]
  | none, b :: rest =>
    match Lead.ofByte b with
    | .char c => c :: decodeFrom none rest
    | .start read => decodeFrom (some read) rest
    | .invalid => replacement :: decodeFrom none rest
  | some read, b :: rest =>
    if read.low ≤ b && b ≤ read.high then
      let bits := read.bits * 64 + (b.toNat - 0x80)
      if read.missing = 1 then Char.ofNat bits :: decodeFrom none rest
      else decodeFrom (some ⟨bits, read.missing - 1, 0x80, 0xBF⟩) rest
    else
      replacement ::
        (match Lead.ofByte b with
        | .char c => c :: decodeFrom none rest
        | .start next => decodeFrom (some next) rest
        | .invalid => replacement :: decodeFrom none rest)

/-- The text of bytes, with a replacement character for every maximal part that is not valid. -/
def decodeLossy (bytes : List UInt8) : String := String.ofList (decodeFrom none bytes)

end DecisionEval.Text
