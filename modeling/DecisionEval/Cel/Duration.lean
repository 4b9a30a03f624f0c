/-
Module: DecisionEval.Cel.Duration
Purpose: Spans of time with the resolution of a nanosecond: their text forms and the reading of one.
Main exports: Duration, Duration.parse, Duration.text?, Duration.debugText
-/
import DecisionEval.Decimal.Numeral
import DecisionEval.Text.Quoted

namespace DecisionEval.Cel

/-- A span of time, forwards or backwards. -/
structure Duration where
  nanoseconds : Int
deriving Repr, DecidableEq, Inhabited

namespace Duration

/-- The nanoseconds of a second. -/
def second : Nat := 1000000000

/-- The longest span, in either direction: as many milliseconds as 63 bits count. -/
def limit : Nat := 0x7FFFFFFFFFFFFFFF * 1000000

/-- The span, where it is not longer than the longest one. -/
def checked? (nanoseconds : Int) : Option Duration :=
  if nanoseconds.natAbs ≤ limit then some ⟨nanoseconds⟩ else none

/-- Whether the nanoseconds of a span fit a signed 64-bit word. -/
def fitsWord (d : Duration) : Bool :=
  -0x8000000000000000 ≤ d.nanoseconds && d.nanoseconds < 0x8000000000000000

/-- The text that shows the representation: whole seconds, rounded down, and the nanoseconds above. -/
def debugText (d : Duration) : String :=
  "TimeDelta \x7b secs: " ++ toString (d.nanoseconds.fdiv second) ++ ", nanos: "
    ++ toString (d.nanoseconds.fmod second) ++ " \x7d"

/-!
### Text

A count of nanoseconds is written in hours, minutes and seconds, from the largest unit that it reaches on;
one below a second in the largest smaller unit. Fractions have no trailing zeros.

The text of a span has the sign of the span and an unsigned 64-bit count. A negative number stands in the
count as its two's complement, so it is the complement of the magnitude that is written. A span past the
signed words is counted in whole seconds, and has a text only if these fit the count.
-/

/-- `count / 10 ^ places` as decimal text without trailing zeros. -/
def fractionText (count places : Nat) : String :=
  let whole := toString (count / tenTo places)
  let digits := Nat.toDigits 10 (count % tenTo places)
  let padded := List.replicate (places - digits.length) '0' ++ digits
  let fraction := (padded.reverse.dropWhile (· == '0')).reverse
  if count % tenTo places = 0 then whole else whole ++ "." ++ String.ofList fraction

/-- The text of a count of nanoseconds. -/
def countText (nanoseconds : Nat) : String :=
  if nanoseconds = 0 then "0s"
  else if nanoseconds < 1000 then toString nanoseconds ++ "ns"
  else if nanoseconds < 1000000 then fractionText nanoseconds 3 ++ "µs"
  else if nanoseconds < second then fractionText nanoseconds 6 ++ "ms"
  else
    let minute := 60 * second
    let hours := nanoseconds / (60 * minute)
    let minutes := nanoseconds / minute
    (if hours = 0 then "" else toString hours ++ "h")
      ++ (if minutes = 0 then "" else toString (minutes % 60) ++ "m")
      ++ fractionText (nanoseconds % minute) 9 ++ "s"

/-- The number of unsigned 64-bit words. -/
def wordCount : Nat := 0x10000000000000000

/-- The unsigned 64-bit word that stands for an integer, by two's complement. -/
def wordOfInt (value : Int) : Nat := (value % wordCount).toNat

/-- The nanoseconds that the text of a span counts, where they fit a word. -/
def count? (d : Duration) : Option Nat :=
  let count :=
    if d.fitsWord then wordOfInt d.nanoseconds else wordOfInt (d.nanoseconds.tdiv second) * second
  if count < wordCount then some count else none

/-- The text of a span, with its sign in front. -/
def text? (d : Duration) : Option String :=
  d.count?.map (fun count => (if d.nanoseconds < 0 then "-" else "") ++ countText count)

/-!
### Reading
-/

/-- Why a text is not read as a span; `rest` is the text from the place of the fault on. -/
inductive ParseError where
  | noNumber (rest : String)
  | openExponent (rest : String)
  | noUnit (rest : String)
deriving Repr, DecidableEq

/-- The message of a parse error. -/
def ParseError.message : ParseError → String
  | .noNumber rest => "Parsing Error: Error \x7b input: " ++ Text.quoted rest ++ ", code: Float \x7d"
  | .openExponent rest => "Parsing Failure: Error \x7b input: " ++ Text.quoted rest ++ ", code: Float \x7d"
  | .noUnit rest => "Parsing Error: Error \x7b input: " ++ Text.quoted rest ++ ", code: Char \x7d"

/-- The units in the order in which they are tried, with their nanoseconds. -/
def units : List (List Char × Nat) :=
  [(['m', 's'], 1000000), (['u', 's'], 1000), (['n', 's'], 1), (['h'], 3600 * second),
    (['m'], 60 * second), (['s'], second)]

/-- Reads a unit from the front of a text. -/
def readUnit? (cs : List Char) : Option (Nat × List Char) :=
  (units.find? (fun unit => unit.1.isPrefixOf cs)).map (fun unit => (unit.2, cs.drop unit.1.length))

/-- Drops a word from the front of a text, whatever its case. -/
def dropWord? (word : List Char) (cs : List Char) : Option (List Char) :=
  if word.isPrefixOf (Text.asciiLower cs) then some (cs.drop word.length) else none

/-- Reads a float from the front of a text: a numeral with an optional sign, or `nan` or `inf`. -/
def readNumber (cs : List Char) : Except ParseError (Float × List Char) :=
  let (negative, unsigned) := Numeral.readSign cs
  match Numeral.readMantissa? unsigned with
  | some ((whole, fraction), rest) =>
    match Numeral.readExponent? rest with
    | some (exponent, rest) => .ok ((Numeral.ofParts negative whole fraction exponent).toFloat, rest)
    | none => .error (.openExponent (String.ofList cs))
  | none =>
    match dropWord? ['n', 'a', 'n'] cs, dropWord? ['i', 'n', 'f'] cs with
    | some rest, _ => .ok (0.0 / 0.0, rest)
    | _, some rest => .ok (floatOfBits false infinityBits, rest)
    | none, none => .error (.noNumber (String.ofList cs))

/-- The whole nanoseconds of a float, clamped to 64 bits; NaN counts as none. -/
def wholeNanoseconds (x : Float) : Int :=
  if x.isNaN then 0
  else
    let least : Int := -0x8000000000000000
    let greatest : Int := 0x7FFFFFFFFFFFFFFF
    if x.isInf then (if x < 0.0 then least else greatest)
    else min greatest (max least (Binary64.ofFloat x).truncate)

/-- Reads one number with its unit. -/
def readTerm (cs : List Char) : Except ParseError (Int × List Char) := do
  let (number, rest) ← readNumber cs
  match readUnit? rest with
  | some (unit, rest) => .ok (wholeNanoseconds (number * nearest false unit 1), rest)
  | none => .error (.noUnit (String.ofList rest))

/-- Adds up terms for as long as they can be read; what follows them is ignored. An exponent that breaks
    off is refused also there. -/
def sumTerms (total : Int) : (fuel : Nat) → List Char → Except ParseError Int
  | 0, _ => .ok total
  | fuel + 1, cs =>
    match readTerm cs with
    | .ok (nanoseconds, rest) => sumTerms (total + nanoseconds) fuel rest
    | .error (.openExponent rest) => .error (.openExponent rest)
    | .error _ => .ok total

/-- Reads a span: an optional minus sign, then a lone zero or terms. -/
def parse (text : String) : Except ParseError Duration :=
  let (negative, cs) :=
    match text.toList with
    | '-' :: rest => (true, rest)
    | cs => (false, cs)
  if cs = ['0'] then .ok ⟨0⟩
  else do
    let (first, rest) ← readTerm cs
    let total ← sumTerms first rest.length rest
    .ok ⟨if negative then -total else total⟩

end Duration

end DecisionEval.Cel
