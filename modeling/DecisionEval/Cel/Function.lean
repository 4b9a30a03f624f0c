/-
Module: DecisionEval.Cel.Function
Purpose: The built-in functions of CEL.
Main exports: Scope, Argument, Call, Function.call, Function.isDefined
-/
import DecisionEval.Cel.Operator

namespace DecisionEval.Cel

/-- The variables that an expression sees: those bound by functions around it, the innermost first, and
    those of the program; and the place of its evaluation. -/
structure Scope where
  locals : List (String × Value)
  globals : Entries String Value
  place : Place
deriving Inhabited

namespace Scope

/-- The value of a variable. -/
def find? (scope : Scope) (name : String) : Option Value :=
  match scope.locals.lookup name with
  | some value => some value
  | none => Entries.find? name scope.globals

/-- The scope with one more variable, which shadows others of its name. -/
def bind (scope : Scope) (name : String) (value : Value) : Scope :=
  { scope with locals := (name, value) :: scope.locals }

/-- The scope of a part, of which `number` tells it from the other parts of the whole. -/
def step (scope : Scope) (number : Nat) : Scope := { scope with place := number :: scope.place }

end Scope

/-- An argument of a call: its tree, and its evaluation in a scope. -/
structure Argument where
  tree : Expr
  run : Scope → EvalResult Value

/-- A call of a function: its name, the value of its target, its arguments, and the scope of the call. -/
structure Call where
  name : String
  target : Option Value
  arguments : List Argument
  scope : Scope

namespace Call

/-!
### Taking parameters

A function asks for its parameters one after the other; each says which position it takes. What is given
beyond them is ignored.
-/

/-- The error that a function reports by itself. -/
def fail {α : Type} (call : Call) (message : String) : EvalResult α :=
  .error (.functionError call.name message)

/-- The scope of the argument at a position. The target takes the first step below the call. -/
def scopeAt (call : Call) (position : Nat) : Scope := call.scope.step (position + 1)

/-- The value of the argument at a position. -/
def valueAt (call : Call) (position : Nat) : EvalResult Value :=
  match call.arguments[position]? with
  | some argument => argument.run (call.scopeAt position)
  | none => .error (.invalidArgumentCount (position + 1) call.arguments.length)

/-- A value that has to be a string. -/
def asString (value : Value) : EvalResult String :=
  match value with
  | .string text => .ok text
  | value => .error (.unexpectedType value.debugText "Arc<String>")

/-- The string argument at a position. -/
def stringAt (call : Call) (position : Nat) : EvalResult String := do
  let value ← call.valueAt position
  asString value

/-- The value that a function works on, and the position of the next argument: the target, or else the
    first argument, of which any error means that there is none. -/
def subject (call : Call) : EvalResult (Value × Nat) :=
  match call.target with
  | some value => .ok (value, 0)
  | none => ((call.valueAt 0).mapError (fun _ => .missingArgumentOrTarget)).bind (fun value => .ok (value, 1))

/-- The name that an argument consists of. Where the argument is missing, this is a fault. -/
def identAt (call : Call) (position : Nat) : EvalResult String :=
  match call.arguments[position]? with
  | some argument =>
    match argument.tree with
    | .ident name => .ok name
    | tree => .error (.unexpectedType tree.debugText "identifier")
  | none => .fault

/-- The argument at a position, not evaluated. Where it is missing, this is a fault. -/
def argumentAt (call : Call) (position : Nat) : EvalResult Argument :=
  match call.arguments[position]? with
  | some argument => .ok argument
  | none => .fault

/-- The values of all arguments, from left to right. -/
def values (call : Call) : EvalResult (List Value) :=
  call.arguments.zipIdx.mapM (fun (argument, position) => argument.run (call.scopeAt position))

end Call

namespace Function

/-!
### Sizes and parts
-/

/-- The size of the first argument: items, entries, or bytes. -/
def size (call : Call) : EvalResult Value := do
  let value ← call.valueAt 0
  let count (n : Nat) : EvalResult Value := intResult n
  match value with
  | .list items _ => count items.length
  | .map entries _ => count entries.length
  | .string text => count text.utf8ByteSize
  | .bytes bytes => count bytes.length
  | value => call.fail ("cannot determine the size of " ++ value.debugText)

/-- Whether a list has an item, a map a key, a string or bytes a part. A search for no bytes is a fault. -/
def contains (call : Call) : EvalResult Value := do
  let (whole, next) ← call.subject
  let part ← call.valueAt next
  match whole, part with
  | .list items _, part => .ok (.bool (items.any (·.equal part)))
  | .map entries _, part =>
    match part.toKey? with
    | some key => .ok (.bool (Entries.find? key entries).isSome)
    | none => .error (.unsupportedKeyType part)
  | .string whole, .string part => .ok (.bool (occursIn part.toList whole.toList))
  | .bytes whole, .bytes part => if part.isEmpty then .fault else .ok (.bool (occursIn part whole))
  | _, _ => .ok (.bool false)

/-- Whether a string starts with another. -/
def startsWith (call : Call) : EvalResult Value := do
  let (value, next) ← call.subject
  let whole ← Call.asString value
  let part ← call.stringAt next
  .ok (.bool (part.toList.isPrefixOf whole.toList))

/-- Whether a string ends with another. -/
def endsWith (call : Call) : EvalResult Value := do
  let (value, next) ← call.subject
  let whole ← Call.asString value
  let part ← call.stringAt next
  .ok (.bool (part.toList.isSuffixOf whole.toList))

/-!
### Conversions
-/

/-- The failure of a conversion of a value of another kind. -/
def cannotConvert (call : Call) (value : Value) (kind : String) : EvalResult Value :=
  call.fail ("cannot convert " ++ value.debugText ++ " to " ++ kind)

/-- The value of a conversion, or its failure where it has none. -/
def converted (call : Call) (message : String) : Option Value → EvalResult Value
  | some value => .ok value
  | none => call.fail message

/-- Text of a string, a number, bytes, a point in time or a span. A span without a text is a fault. -/
def string (call : Call) : EvalResult Value := do
  let (value, _) ← call.subject
  match value with
  | .string text => .ok (.string text)
  | .timestamp t => .ok (.string t.text)
  | .duration d =>
    match d.text? with
    | some text => .ok (.string text)
    | none => .fault
  | .int i => .ok (.string (toString i.toInt))
  | .uint u => .ok (.string (toString u.toNat))
  | .float x => .ok (.string (Value.plainFloatNotation.write x))
  | .bytes bytes => .ok (.string (Text.decodeLossy bytes))
  | value => cannotConvert call value "string"

/-- The UTF-8 bytes of a string. -/
def bytes (call : Call) : EvalResult Value := do
  let text ← call.stringAt 0
  .ok (.bytes (Text.utf8Bytes text))

/-- Why a text is no integer. -/
inductive IntegerFault where
  | empty
  | invalidDigit
  | tooLarge
  | tooSmall
deriving Repr, DecidableEq

/-- The message of an integer fault. -/
def IntegerFault.message : IntegerFault → String
  | .empty => "cannot parse integer from empty string"
  | .invalidDigit => "invalid digit found in string"
  | .tooLarge => "number too large to fit in target type"
  | .tooSmall => "number too small to fit in target type"

/-- Reads the digits of an integer from the left. A character that is no digit is refused where it
    stands, a number that has grown past its bounds at the digit that made it so. -/
def readDigits (fits : Int → Bool) (excess : IntegerFault) (step : Int → Nat → Int) :
    Int → List Char → Except IntegerFault Int
  | value, [] => .ok value
  | value, c :: rest =>
    match digitValue? 10 c with
    | none => .error .invalidDigit
    | some digit =>
      let next := step value digit
      if fits next then readDigits fits excess step next rest else .error excess

/-- Reads an integer within bounds, with an optional sign; a minus sign only where negative integers are
    within the bounds. A sign alone has an invalid digit. -/
def readBounded (least greatest : Int) (text : String) : Except IntegerFault Int :=
  let fits (value : Int) : Bool := least ≤ value && value ≤ greatest
  let up (value : Int) (digit : Nat) : Int := value * 10 + digit
  let down (value : Int) (digit : Nat) : Int := value * 10 - digit
  match text.toList with
  | [] => .error .empty
  | ['+'] => .error .invalidDigit
  | ['-'] => .error .invalidDigit
  | '+' :: digits => readDigits fits .tooLarge up 0 digits
  | '-' :: digits =>
    if least < 0 then readDigits fits .tooSmall down 0 digits else .error .invalidDigit
  | digits => readDigits fits .tooLarge up 0 digits

/-- A number read from text, or the failure of the conversion. -/
def parsed (call : Call) (read : Except IntegerFault Int) (result : Int → EvalResult Value) : EvalResult Value :=
  match read with
  | .ok value => result value
  | .error fault => call.fail ("string parse error: " ++ fault.message)

/-- The integer part of a float within closed bounds, of which the upper one may be one too large; it is
    clamped to the integers of the kind. NaN becomes zero. -/
def clampFloat? (least greatest : Int) (x : Float) : Option Int :=
  if x.isNaN then some 0
  else if floatOfInt greatest < x || x < floatOfInt least then none
  else some (min greatest (Binary64.ofFloat x).truncate)

/-- A signed integer from text or a number. -/
def int (call : Call) : EvalResult Value := do
  let (value, _) ← call.subject
  let least : Int := -0x8000000000000000
  let greatest : Int := 0x7FFFFFFFFFFFFFFF
  match value with
  | .string text => parsed call (readBounded least greatest text) intResult
  | .float x =>
    match clampFloat? least greatest x with
    | some i => intResult i
    | none => call.fail "integer overflow"
  | .int i => .ok (.int i)
  | .uint u => converted call "integer overflow" ((int64OfInt? u.toNat).map .int)
  | value => cannotConvert call value "int"

/-- An unsigned integer from text or a number. -/
def uint (call : Call) : EvalResult Value := do
  let (value, _) ← call.subject
  let greatest : Int := 0xFFFFFFFFFFFFFFFF
  match value with
  | .string text => parsed call (readBounded 0 greatest text) uintResult
  | .float x =>
    match clampFloat? 0 greatest x with
    | some i => uintResult i
    | none => call.fail "unsigned integer overflow"
  | .int i => converted call "unsigned integer overflow" ((uint64OfInt? i.toInt).map .uint)
  | .uint u => .ok (.uint u)
  | value => cannotConvert call value "uint"

/-- A float from text or a number. -/
def double (call : Call) : EvalResult Value := do
  let (value, _) ← call.subject
  match value with
  | .string text =>
    let reason := if text.isEmpty then "cannot parse float from empty string" else "invalid float literal"
    converted call ("string parse error: " ++ reason) ((readFloat? text.toList).map .float)
  | .float x => .ok (.float x)
  | .int i => .ok (.float (floatOfInt i.toInt))
  | .uint u => .ok (.float (floatOfInt u.toNat))
  | value => cannotConvert call value "double"

/-- A span from text. -/
def duration (call : Call) : EvalResult Value := do
  let text ← call.stringAt 0
  match Duration.parse text with
  | .ok value => durationResult value.nanoseconds
  | .error fault => call.fail fault.message

/-- A point in time from text. What exactly is wrong with a text that is none is not modelled: a failure has
    one message, whereas full implementations tell premature ends, trailing characters and numbers out of range
    apart. -/
def timestamp (call : Call) : EvalResult Value := do
  let text ← call.stringAt 0
  converted call "input contains invalid characters" ((Timestamp.parse? text).map .timestamp)

/-!
### Functions that bind a variable

Their first parameter is a list, or for some of them a map, whose keys stand for its items. Then come the
name of the variable and the expression that is evaluated for every item.
-/

/-- The values that a map is searched by. -/
def keysOf (entries : List (Key × Value)) : List Value := entries.map (fun entry => entry.1.toValue)

/-- What a function does for every item: it evaluates an expression with a variable bound to the item. -/
structure Binder where
  subject : Value
  name : String
  body : Argument
  scope : Scope

/-- The parameters of a function that binds a variable. -/
def Binder.ofCall (call : Call) : EvalResult Binder := do
  let (subject, next) ← call.subject
  let name ← call.identAt next
  let body ← call.argumentAt (next + 1)
  .ok ⟨subject, name, body, call.scopeAt (next + 1)⟩

/-- The value of the body for one item, which comes with its number. -/
def Binder.run (binder : Binder) (item : Value × Nat) : EvalResult Value :=
  binder.body.run ((binder.scope.step item.2).bind binder.name item.1)

/-- Whether the body is exactly `true` for one item. -/
def Binder.holds (binder : Binder) (item : Value × Nat) : EvalResult Bool := do
  match (← binder.run item) with
  | .bool true => .ok true
  | _ => .ok false

/-- The failure of a function whose first parameter is no list. -/
def wantList {α : Type} (value : Value) : EvalResult α := .error (.unexpectedType value.kindName "list")

/-- The items of a list, with their numbers. -/
def listItems : Value → EvalResult (List (Value × Nat))
  | .list items _ => .ok items.zipIdx
  | value => wantList value

/-- The items of a list, or the keys of a map, with their numbers. -/
def searchedItems : Value → EvalResult (List (Value × Nat))
  | .list items _ => .ok items.zipIdx
  | .map entries _ => .ok (keysOf entries).zipIdx
  | value => wantList value

/-- The values of the body for all items. -/
def map (call : Call) : EvalResult Value := do
  let binder ← Binder.ofCall call
  let items ← listItems binder.subject
  let values ← items.mapM binder.run
  .ok (.listAt call.scope.place values)

/-- The items for which the body holds. -/
def filter (call : Call) : EvalResult Value := do
  let binder ← Binder.ofCall call
  let items ← listItems binder.subject
  let kept ← items.filterM binder.holds
  .ok (.listAt call.scope.place (kept.map (·.1)))

/-- Whether the body is exactly `false` for none of the items; the first for which it is ends the
    search. -/
def allFrom (binder : Binder) : List (Value × Nat) → EvalResult Value
  | [] => .ok (.bool true)
  | item :: rest => do
    match (← binder.run item) with
    | .bool false => .ok (.bool false)
    | _ => allFrom binder rest

/-- Whether the body is exactly `false` for no item. -/
def all (call : Call) : EvalResult Value := do
  let binder ← Binder.ofCall call
  let items ← searchedItems binder.subject
  allFrom binder items

/-- Whether the body holds for one of the items; the first for which it does ends the search. -/
def existsFrom (binder : Binder) : List (Value × Nat) → EvalResult Value
  | [] => .ok (.bool false)
  | item :: rest => do
    if (← binder.holds item) then .ok (.bool true) else existsFrom binder rest

/-- Whether the body holds for some item. -/
def exists_ (call : Call) : EvalResult Value := do
  let binder ← Binder.ofCall call
  let items ← searchedItems binder.subject
  existsFrom binder items

/-- Whether the body holds for exactly one item, where `found` tells whether it held for one before; the
    second for which it does ends the search. -/
def existsOneFrom (binder : Binder) (found : Bool) : List (Value × Nat) → EvalResult Value
  | [] => .ok (.bool found)
  | item :: rest => do
    if (← binder.holds item) then
      if found then .ok (.bool false) else existsOneFrom binder true rest
    else existsOneFrom binder found rest

/-- Whether the body holds for exactly one item. -/
def existsOne (call : Call) : EvalResult Value := do
  let binder ← Binder.ofCall call
  let items ← searchedItems binder.subject
  existsOneFrom binder false items

/-!
### Others
-/

/-- Whether an expression has a value: a missing key means that it has none, any other error is one. -/
def has (call : Call) : EvalResult Value :=
  match call.valueAt 0 with
  | .ok _ => .ok (.bool true)
  | .error (.noSuchKey _) => .ok (.bool false)
  | .error cause => .error cause
  | .fault => .fault

/-- The greatest of values, of which `greatest` is the one so far. Of equal ones it is the last. -/
def maxFrom (greatest : Value) : List Value → EvalResult Value
  | [] => .ok greatest
  | value :: rest =>
    match greatest.order? value with
    | some .gt => maxFrom greatest rest
    | some _ => maxFrom value rest
    | none => .error (.valuesNotComparable greatest value)

/-- The greatest of the arguments, or of the items of a list that is the only one. -/
def max (call : Call) : EvalResult Value := do
  let values ← call.values
  match values with
  | [.list [] _] => .ok .null
  | [.list (first :: rest) _] => maxFrom first rest
  | [] => .ok .null
  | first :: rest => maxFrom first rest

/-- Matching against a regular expression. Here this differs from full implementations of CEL, which match the
    subject: regular expressions are not modelled, and every call fails. -/
def matches_ (call : Call) : EvalResult Value := do
  let _ ← call.subject
  call.fail "regular expressions are not supported"

/-!
### The table of functions
-/

/-- The functions by their names. -/
def table : List (String × (Call → EvalResult Value)) :=
  [("contains", contains), ("size", size), ("has", has), ("map", map), ("filter", filter), ("all", all),
    ("max", max), ("startsWith", startsWith), ("endsWith", endsWith), ("string", string),
    ("bytes", bytes), ("double", double), ("exists", exists_), ("exists_one", existsOne), ("int", int),
    ("uint", uint), ("matches", matches_), ("duration", duration), ("timestamp", timestamp)]

/-- The function of a name. -/
def find? (name : String) : Option (Call → EvalResult Value) := table.lookup name

/-- Whether a name is that of a function. -/
def isDefined (name : String) : Bool := (find? name).isSome

end Function

end DecisionEval.Cel
