/-
Module: DecisionEval.Cel.Operator
Purpose: What the operators of CEL do with values.
Main exports: ArithmeticOp.apply, RelationOp.apply, UnaryOp.apply, Value.itemAt, Value.lookup?
-/
import DecisionEval.Cel.Comparison
import DecisionEval.Cel.EvalError

namespace DecisionEval.Cel

/-- The signed integer of a result; one that does not fit is a fault. -/
def intResult (value : Int) : EvalResult Value :=
  match int64OfInt? value with
  | some value => .ok (.int value)
  | none => .fault

/-- The unsigned integer of a result; one that does not fit is a fault. -/
def uintResult (value : Int) : EvalResult Value :=
  match uint64OfInt? value with
  | some value => .ok (.uint value)
  | none => .fault

/-- The span of a result; one that is too long is a fault. -/
def durationResult (nanoseconds : Int) : EvalResult Value :=
  match Duration.checked? nanoseconds with
  | some value => .ok (.duration value)
  | none => .fault

/-- The point in time of a result; one outside the calendar is a fault. -/
def timestampResult : Option Timestamp → EvalResult Value
  | some value => .ok (.timestamp value)
  | none => .fault

namespace ArithmeticOp

/-- The name of an operator in errors. -/
def name : ArithmeticOp → String
  | .add => "add"
  | .subtract => "sub"
  | .divide => "div"
  | .multiply => "mul"
  | .modulus => "rem"

/-- The operation on integers: division truncates, and a remainder has the sign of the left operand. There
    is no division by zero, and no remainder where the quotient does not fit the kind. -/
def onInts (op : ArithmeticOp) (fit : Int → EvalResult Value) (a b : Int) : EvalResult Value :=
  match op with
  | .add => fit (a + b)
  | .subtract => fit (a - b)
  | .multiply => fit (a * b)
  | .divide => if b = 0 then .fault else fit (a.tdiv b)
  | .modulus =>
    if b = 0 then .fault
    else do
      let _ ← fit (a.tdiv b)
      fit (a.tmod b)

/-- The operation on floats. -/
def onFloats (op : ArithmeticOp) (a b : Float) : Value :=
  .float (match op with
    | .add => a + b
    | .subtract => a - b
    | .multiply => a * b
    | .divide => a / b
    | .modulus => remainder a b)

/-- The operation on values. Integers of one kind stay in it, a float on either side makes the result a
    float. Sums also join lists, strings and maps, of which the right one wins, and spans with points in
    time; differences also give spans. What is joined is put together at the given place. -/
def apply (op : ArithmeticOp) (place : Place) (left right : Value) : EvalResult Value :=
  match left, right with
  | .int a, .int b => op.onInts intResult a.toInt b.toInt
  | .uint a, .uint b => op.onInts uintResult a.toNat b.toNat
  | .float a, .float b => .ok (op.onFloats a b)
  | .int a, .float b => .ok (op.onFloats (floatOfInt a.toInt) b)
  | .float a, .int b => .ok (op.onFloats a (floatOfInt b.toInt))
  | .uint a, .float b => .ok (op.onFloats (floatOfInt a.toNat) b)
  | .float a, .uint b => .ok (op.onFloats a (floatOfInt b.toNat))
  | left, right =>
    match op, left, right with
    | .add, .list a _, .list b _ => .ok (.listAt place (a ++ b))
    | .add, .string a, .string b => .ok (.string (a ++ b))
    | .add, .map a _, .map b _ => .ok (.mapAt place (Entries.insertAll a b))
    | .add, .duration a, .duration b => durationResult (a.nanoseconds + b.nanoseconds)
    | .add, .timestamp a, .duration b => timestampResult (a.add? b.nanoseconds)
    | .add, .duration a, .timestamp b => timestampResult (b.add? a.nanoseconds)
    | .subtract, .duration a, .duration b => durationResult (a.nanoseconds - b.nanoseconds)
    | .subtract, .timestamp a, .duration b => timestampResult (a.add? (-b.nanoseconds))
    | .subtract, .timestamp a, .timestamp b => .ok (.duration (a.since b))
    | _, _, _ => .error (.unsupportedBinaryOperator op.name left right)

end ArithmeticOp

namespace RelationOp

/-- Whether one value is in another: a part of a string, an item of a list, or a key of a map. A value that
    is no key is in no map. -/
def isInside (left right : Value) : EvalResult Value :=
  match left, right with
  | .string part, .string whole => .ok (.bool (occursIn part.toList whole.toList))
  | left, .list items _ => .ok (.bool (items.any (·.equal left)))
  | left, .map entries _ =>
    .ok (.bool ((left.toKey?.bind (fun key => Entries.find? key entries)).isSome))
  | left, right => .error (.valuesNotComparable left right)

/-- Tests the order of two values that have one. -/
def testOrder (test : Ordering → Bool) (left right : Value) : EvalResult Value :=
  match left.order? right with
  | some order => .ok (.bool (test order))
  | none => .error (.valuesNotComparable left right)

/-- The result of a comparison. -/
def apply (op : RelationOp) (left right : Value) : EvalResult Value :=
  match op with
  | .less => testOrder (· == .lt) left right
  | .lessOrEqual => testOrder (· != .gt) left right
  | .greater => testOrder (· == .gt) left right
  | .greaterOrEqual => testOrder (· != .lt) left right
  | .equal => .ok (.bool (left.equal right))
  | .notEqual => .ok (.bool (!left.equal right))
  | .inside => isInside left right

end RelationOp

/-- The result of an operator on one operand. Two minus signs change nothing. -/
def UnaryOp.apply (op : UnaryOp) (operand : Value) : EvalResult Value :=
  match op, operand with
  | .not, operand => .ok (.bool (!operand.truthy))
  | .notNot, operand => .ok (.bool operand.truthy)
  | .minus, .int value => intResult (-value.toInt)
  | .minus, .float value => .ok (.float (-value))
  | .minus, operand => .error (.unsupportedUnaryOperator "minus" operand)
  | .minusMinus, .int value => .ok (.int value)
  | .minusMinus, .uint value => .ok (.uint value)
  | .minusMinus, .float value => .ok (.float value)
  | .minusMinus, operand => .error (.unsupportedUnaryOperator "negate" operand)

namespace Value

/-- The entry under a key; an integer also finds the entry of its value under the other kind. -/
def lookup? (entries : List (Key × Value)) (key : Key) : Option Value :=
  match Entries.find? key entries, key with
  | some value, _ => some value
  | none, .int value =>
    (uint64OfInt? value.toInt).bind (fun other => Entries.find? (Key.uint other) entries)
  | none, .uint value =>
    (int64OfInt? value.toNat).bind (fun other => Entries.find? (Key.int other) entries)
  | none, _ => none

/-- The character that starts at a byte of a text and takes one byte; there is none inside or at the start
    of a longer character. -/
def byteCharAt? (offset : Nat) : List Char → Option Char
  | [] => none
  | c :: rest =>
    if offset = 0 then (if c.utf8Size = 1 then some c else none)
    else if offset < c.utf8Size then none
    else byteCharAt? (offset - c.utf8Size) rest

/-- The largest signed integer. -/
def greatestInt : Int := 0x7FFFFFFFFFFFFFFF

/-- What stands at an index: an item of a list, one byte of a string, an entry of a map; `null` where
    nothing does. The end of the byte range after the largest integer is past all integers. -/
def itemAt (target key : Value) : EvalResult Value :=
  match target, key with
  | .list items _, .int index =>
    .ok (if index < 0 then .null else items[index.toInt.toNat]?.getD .null)
  | .string text, .int index =>
    if index.toInt = greatestInt then .fault
    else if index < 0 then .ok .null
    else
      match byteCharAt? index.toInt.toNat text.toList with
      | some c => .ok (.string (String.singleton c))
      | none => .ok .null
  | .map entries _, key =>
    match key.toKey? with
    | some found => .ok ((lookup? entries found).getD .null)
    | none => .error (.unsupportedMapIndex key)
  | .list _ _, key => .error (.unsupportedListIndex key)
  | target, key => .error (.unsupportedIndex target key)

end Value

end DecisionEval.Cel
