/-
Module: DecisionEval.Cel.Comparison
Purpose: Truth, equality and order of CEL values.
Main exports: Value.truthy, Value.equal, Value.listAt, Value.mapAt, Value.order?
-/
import DecisionEval.Cel.Value

namespace DecisionEval.Cel

/-- The float nearest to an integer. -/
def floatOfInt (value : Int) : Float := nearest (decide (value < 0)) value.natAbs 1

/-- The order of two floats; NaN is in no order. -/
def floatOrder? (a b : Float) : Option Ordering :=
  if a < b then some .lt else if b < a then some .gt else if a == b then some .eq else none

namespace Key

/-- The value of a key. -/
def toValue : Key → Value
  | .int value => .int value
  | .uint value => .uint value
  | .bool value => .bool value
  | .string value => .string value

end Key

namespace Value

/-- The key that a value is; only integers, booleans and strings are keys. -/
def toKey? : Value → Option Key
  | .int value => some (.int value)
  | .uint value => some (.uint value)
  | .bool value => some (.bool value)
  | .string value => some (.string value)
  | _ => none

/-- Whether a value counts as true in a condition. A span does if it is not zero, a point in time if it lies
    after the start of 1970, and both only where their nanoseconds fit a signed 64-bit word. -/
def truthy : Value → Bool
  | .int value => value != 0
  | .uint value => value != 0
  | .float value => value != 0.0
  | .string value => !value.isEmpty
  | .bytes value => !value.isEmpty
  | .bool value => value
  | .null => false
  | .list items _ => !items.isEmpty
  | .map entries _ => !entries.isEmpty
  | .duration value => value.nanoseconds != 0 && value.fitsWord
  | .timestamp value => 0 < value.instant && value.instant < 0x8000000000000000
  | .function _ _ => false

/-- Whether two places are given and are one. -/
def samePlace : Option Place → Option Place → Bool
  | some a, some b => a == b
  | _, _ => false

mutual

/-- Equality. Numbers of different kinds compare by value, an integer with a float after rounding it to a
    float; other values of different kinds differ. Lists and maps compare part by part, unless they come
    from one place. -/
def equal : Value → Value → Bool
  | .int a, .int b => a == b
  | .uint a, .uint b => a == b
  | .float a, .float b => a == b
  | .int a, .uint b => a.toInt == b.toNat
  | .uint a, .int b => (a.toNat : Int) == b.toInt
  | .int a, .float b => floatOfInt a.toInt == b
  | .float a, .int b => a == floatOfInt b.toInt
  | .uint a, .float b => floatOfInt a.toNat == b
  | .float a, .uint b => a == floatOfInt b.toNat
  | .string a, .string b => a == b
  | .bytes a, .bytes b => a == b
  | .bool a, .bool b => a == b
  | .null, .null => true
  | .list a place, .list b other => samePlace place other || equalItems a b
  | .map a place, .map b other => samePlace place other || equalEntries a b
  | .duration a, .duration b => a == b
  | .timestamp a, .timestamp b => a.same b
  | .function name a, .function other b => name == other && equalTarget a b
  | _, _ => false

/-- Equality of list items, position by position. -/
def equalItems : List Value → List Value → Bool
  | [], [] => true
  | a :: as, b :: bs => equal a b && equalItems as bs
  | _, _ => false

/-- Equality of map entries: the same keys, with equal values. -/
def equalEntries : List (Key × Value) → List (Key × Value) → Bool
  | [], [] => true
  | (key, a) :: as, (other, b) :: bs => key == other && equal a b && equalEntries as bs
  | _, _ => false

/-- Equality of the values that functions were selected from. -/
def equalTarget : Option Value → Option Value → Bool
  | none, none => true
  | some a, some b => equal a b
  | _, _ => false

end

/-- The list of items that an evaluation puts together at a place. -/
def listAt (place : Place) (items : List Value) : Value :=
  .list items (if equalItems items items then none else some place)

/-- The map of entries that an evaluation puts together at a place. -/
def mapAt (place : Place) (entries : List (Key × Value)) : Value :=
  .map entries (if equalEntries entries entries then none else some place)

/-- The order of two values, for those kinds that have one. -/
def order? : Value → Value → Option Ordering
  | .int a, .int b => some (compare a.toInt b.toInt)
  | .uint a, .uint b => some (compare a.toNat b.toNat)
  | .float a, .float b => floatOrder? a b
  | .int a, .uint b => some (compare a.toInt (b.toNat : Int))
  | .uint a, .int b => some (compare (a.toNat : Int) b.toInt)
  | .int a, .float b => floatOrder? (floatOfInt a.toInt) b
  | .float a, .int b => floatOrder? a (floatOfInt b.toInt)
  | .uint a, .float b => floatOrder? (floatOfInt a.toNat) b
  | .float a, .uint b => floatOrder? a (floatOfInt b.toNat)
  | .string a, .string b => some (if a < b then .lt else if a = b then .eq else .gt)
  | .bool a, .bool b => some (compare a.toNat b.toNat)
  | .null, .null => some .eq
  | .duration a, .duration b => some (compare a.nanoseconds b.nanoseconds)
  | .timestamp a, .timestamp b => some (a.order b)
  | _, _ => none

end Value

/-- Whether a list of characters stands somewhere in another. -/
def occursIn {α : Type} [BEq α] (part : List α) : List α → Bool
  | [] => part.isEmpty
  | c :: rest => part.isPrefixOf (c :: rest) || occursIn part rest

end DecisionEval.Cel
