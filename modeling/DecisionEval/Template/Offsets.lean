/-
Module: DecisionEval.Template.Offsets
Purpose: Parsing a text by offsets into its bytes, with every check that a machine makes on the way.
Main exports: Template.Breach, Template.slice, Template.findOpening, Template.findClosing,
  Template.round, Template.parseByOffsets
-/
import DecisionEval.Template

namespace DecisionEval.Template

open Cel (CelError)

/-!
`DecisionEval.Template` takes a text apart as a list of characters. On a machine the text is a row of bytes:
openings are looked for byte by byte, closing braces character by character, and what lies between them is cut
out at byte offsets. Indices, cuts and numbers are checked there, and a check that fails stops the program.
Numbers of the machine are below a limit, which is a parameter here.
-/

/-- The checks that can stop a parse: an index outside of the bytes, a cut outside of the text or inside of a
    character, a number that does not fit, and one below zero. A loop that is given up is a breach too. -/
inductive Breach where
  | index
  | cut
  | overflow
  | underflow
  | endless
deriving Repr, DecidableEq

variable {π : Type}

namespace Breach

variable {α β : Type}

@[simp] theorem pure_eq (value : α) : (pure value : Except Breach α) = .ok value := rfl

@[simp] theorem ok_bind (value : α) (next : α → Except Breach β) :
    ((.ok value : Except Breach α) >>= next) = next value := rfl

theorem bind_eq_ok_iff {first : Except Breach α} {next : α → Except Breach β} {result : β} :
    (first >>= next) = .ok result ↔ ∃ value, first = .ok value ∧ next value = .ok result := by
  cases first <;> simp [bind, Except.bind]

end Breach

/-!
### Checked steps
-/

/-- The sum of two numbers, if it is below the limit. -/
def add (limit a b : Nat) : Except Breach Nat := if a + b < limit then .ok (a + b) else .error .overflow

theorem add_eq_ok_iff {limit a b sum : Nat} : add limit a b = .ok sum ↔ a + b < limit ∧ a + b = sum := by
  unfold add
  split <;> simp [*]

/-- The difference of two numbers, if there is one. -/
def subtract (a b : Nat) : Except Breach Nat := if b ≤ a then .ok (a - b) else .error .underflow

/-- The byte at an index. -/
def byteAt (bytes : List UInt8) (i : Nat) : Except Breach UInt8 :=
  match bytes[i]? with
  | some byte => .ok byte
  | none => .error .index

/-- Splits characters at a byte offset, which has to lie between two characters or at an end. -/
def splitAtByte? : Nat → List Char → Option (List Char × List Char)
  | 0, cs => some ([], cs)
  | _ + 1, [] => none
  | n + 1, c :: rest =>
    if c.utf8Size ≤ n + 1 then
      (splitAtByte? (n + 1 - c.utf8Size) rest).map fun (front, back) => (c :: front, back)
    else none

/-- The characters of a text from one byte offset to another. -/
def slice (text : String) (start stop : Nat) : Except Breach (List Char) :=
  if start ≤ stop then
    match splitAtByte? start text.toList with
    | none => .error .cut
    | some (_, after) =>
      match splitAtByte? (stop - start) after with
      | none => .error .cut
      | some (cut, _) => .ok cut
  else .error .cut

/-!
### Openings
-/

/-- Whether a byte is the mark of an opening, with a brace in the next byte. The next byte is read only behind a
    mark. -/
def opensAt (limit : Nat) (bytes : List UInt8) (i : Nat) : Except Breach Bool := do
  let first ← byteAt bytes i
  if first == '$'.toUInt8 || first == '#'.toUInt8 then
    let next ← add limit i 1
    let second ← byteAt bytes next
    return second == '{'.toUInt8
  else return false

/-- The offset of the first opening from an offset on. The last byte opens nothing. -/
def findOpening (limit : Nat) (text : String) (start : Nat) : Except Breach (Option Nat) :=
  let bytes := Text.utf8Bytes text
  (List.range' start (bytes.length - 1 - start)).findM? (opensAt limit bytes)

/-!
### Closing braces
-/

/-- The state of a scan for a closing brace: how many braces are open, the one that is looked for included; the
    quote of the string that the scan is in; and whether the next character of that string is escaped. -/
structure Scan where
  depth : Nat
  quote : Option Char
  escaped : Bool
deriving Repr, DecidableEq

namespace Scan

/-- The state in front of a body. -/
def start : Scan := ⟨1, none, false⟩

/-- Reads one character. There is no state behind the brace that is looked for. -/
def step (limit : Nat) (s : Scan) (c : Char) : Except Breach (Option Scan) :=
  match s.quote with
  | some quote =>
    if s.escaped then .ok (some { s with escaped := false })
    else if c = '\\' then .ok (some { s with escaped := true })
    else if c = quote then .ok (some { s with quote := none })
    else .ok (some s)
  | none =>
    if c = '"' ∨ c = '\'' then .ok (some { s with quote := some c })
    else if c = '{' then do
      let depth ← add limit s.depth 1
      return some { s with depth := depth }
    else if c = '}' then do
      let depth ← subtract s.depth 1
      return if depth = 0 then none else some { s with depth := depth }
    else .ok (some s)

end Scan

/-- The offset of the closing brace among characters that come `offset` bytes behind `base`. -/
def closingFrom (limit base : Nat) : Scan → (offset : Nat) → List Char → Except Breach (Option Nat)
  | _, _, [] => .ok none
  | s, offset, c :: rest => do
    match ← s.step limit c with
    | none =>
      let closing ← add limit base offset
      return some closing
    | some later => closingFrom limit base later (offset + c.utf8Size) rest

/-- The offset of the brace that closes a body, which starts at the given offset. -/
def findClosing (limit : Nat) (text : String) (start : Nat) : Except Breach (Option Nat) := do
  let after ← slice text start text.utf8ByteSize
  closingFrom limit start .start 0 after

/-!
### Rounds
-/

/-- What a round leaves: the segments up to the end of the text, or those up to the offset at which the next
    round goes on. -/
inductive Progress (π : Type) where
  | finished (segments : List (Segment π))
  | onward (rest : Nat) (segments : List (Segment π))
deriving Repr

/-- The segment of an opening, and the offset behind its closing brace. -/
def expressionAt (limit : Nat) (compile : String → Outcome CelError π) (text : String) (start : Nat) :
    Except Breach (Outcome CelError (Nat × Segment π)) := do
  let bodyStart ← add limit start 2
  match ← findClosing limit text bodyStart with
  | none => return .error (.invalidTemplate start .unterminated)
  | some bodyEnd =>
    let source := Text.trimChars (← slice text bodyStart bodyEnd)
    if source.isEmpty then return .error (.invalidTemplate start .empty)
    else
      match compile (String.ofList source) with
      | .ok program =>
        let next ← add limit bodyEnd 1
        return .ok (next, .expression (String.ofList source) program)
      | .error cause => return .error cause
      | .fault => return .fault

/-- The literal between two offsets, if there is room for one. -/
def literalBetween (text : String) (start stop : Nat) : Except Breach (List (Segment π)) :=
  if start < stop then do
    let chars ← slice text start stop
    return [.literal (String.ofList chars)]
  else .ok []

/-- One round: the literal up to the next opening, and its expression. -/
def round (limit : Nat) (compile : String → Outcome CelError π) (text : String) (rest : Nat) :
    Except Breach (Outcome CelError (Progress π)) := do
  match ← findOpening limit text rest with
  | none =>
    let literal ← literalBetween text rest text.utf8ByteSize
    return .ok (.finished literal)
  | some start =>
    let literal ← literalBetween text rest start
    match ← expressionAt limit compile text start with
    | .ok (next, expression) => return .ok (.onward next (literal ++ [expression]))
    | .error cause => return .error cause
    | .fault => return .fault

/-- Goes on from an offset for a number of rounds at most. -/
def roundsFrom (limit : Nat) (compile : String → Outcome CelError π) (text : String) :
    (rounds rest : Nat) → List (Segment π) → Except Breach (Outcome CelError (Template π))
  | 0, _, _ => .error .endless
  | rounds + 1, rest, segments => do
    match ← round limit compile text rest with
    | .ok (.finished last) => return .ok ⟨segments ++ last⟩
    | .ok (.onward next more) => roundsFrom limit compile text rounds next (segments ++ more)
    | .error cause => return .error cause
    | .fault => return .fault

/-- Parses a text by its offsets, in a number of rounds at most. -/
def parseByOffsets (limit : Nat) (compile : String → Outcome CelError π) (rounds : Nat) (text : String) :
    Except Breach (Outcome CelError (Template π)) :=
  roundsFrom limit compile text rounds 0 []

end DecisionEval.Template
