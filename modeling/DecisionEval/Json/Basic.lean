/-
Module: DecisionEval.Json.Basic
Purpose: JSON values with three kinds of numbers, and their equality.
Main exports: Json.Number, Json, Json.WellFormed, Json.same
-/
import DecisionEval.Dictionary

namespace DecisionEval

/-- A number keeps the kind that it was written in: an integer in one of the two 64-bit ranges, or a
    finite float. Every integer has exactly one form, the signed one where it fits. -/
inductive Json.Number where
  | signed (value : Int64)
  | unsigned (value : UInt64) (large : 0x8000000000000000 ≤ value.toNat)
  | float (value : Float) (finite : value.isFinite = true)
deriving Repr, DecidableEq

namespace Json.Number

/-- The number of an unsigned 64-bit integer. -/
def ofUInt64 (value : UInt64) : Number :=
  if h : 0x8000000000000000 ≤ value.toNat then .unsigned value h else .signed (Int64.ofNat value.toNat)

/-- The number of a float; infinities and NaN are no JSON numbers. -/
def ofFloat? (value : Float) : Option Number :=
  if h : value.isFinite = true then some (.float value h) else none

/-- Equality of numbers of one kind; floats compare by value, so the two zeros are the same. Numbers of
    different kinds differ. -/
def same : Number → Number → Bool
  | .signed a, .signed b => a == b
  | .unsigned a _, .unsigned b _ => a == b
  | .float a _, .float b _ => a == b
  | _, _ => false

end Json.Number

/-- A JSON value. The fields of an object stand in ascending order of their names, each name once; the
    predicate `Json.WellFormed` states this at every depth. -/
inductive Json where
  | null
  | bool (value : Bool)
  | number (value : Json.Number)
  | string (value : String)
  | array (items : List Json)
  | object (fields : List (String × Json))
deriving Repr, Inhabited

namespace Json

/-- The JSON value of a signed 64-bit integer. -/
def ofInt64 (value : Int64) : Json := .number (.signed value)

/-- The JSON value of an unsigned 64-bit integer. -/
def ofUInt64 (value : UInt64) : Json := .number (.ofUInt64 value)

/-- The JSON value of a float; `null` where it is not finite. -/
def ofFloat (value : Float) : Json :=
  match Number.ofFloat? value with
  | some finite => .number finite
  | none => .null

mutual

/-- Every object in the value holds its names in ascending order. -/
def WellFormed : Json → Prop
  | .array items => WellFormedItems items
  | .object fields => Entries.Ascending fields ∧ WellFormedFields fields
  | _ => True

/-- Every item is well formed. -/
def WellFormedItems : List Json → Prop
  | [] => True
  | item :: rest => WellFormed item ∧ WellFormedItems rest

/-- The value of every field is well formed. -/
def WellFormedFields : List (String × Json) → Prop
  | [] => True
  | (_, value) :: rest => WellFormed value ∧ WellFormedFields rest

end

mutual

/-- Equality of JSON values: numbers as `Number.same` says, all else part by part. -/
def same : Json → Json → Bool
  | .null, .null => true
  | .bool a, .bool b => a == b
  | .number a, .number b => a.same b
  | .string a, .string b => a == b
  | .array a, .array b => sameItems a b
  | .object a, .object b => sameFields a b
  | _, _ => false

/-- Equality of lists of items. -/
def sameItems : List Json → List Json → Bool
  | [], [] => true
  | a :: as, b :: bs => same a b && sameItems as bs
  | _, _ => false

/-- Equality of lists of fields. -/
def sameFields : List (String × Json) → List (String × Json) → Bool
  | [], [] => true
  | (name, a) :: as, (other, b) :: bs => name == other && same a b && sameFields as bs
  | _, _ => false

end

mutual

/-- Decides whether two values are one and the same, the two float zeros told apart. -/
def decideEq : (a b : Json) → Decidable (a = b)
  | .null, b => by cases b <;> first | exact isTrue rfl | exact isFalse (fun h => nomatch h)
  | .bool x, b => by
    cases b with
    | bool y => exact decidable_of_iff (x = y) (by simp)
    | _ => exact isFalse (fun h => nomatch h)
  | .number x, b => by
    cases b with
    | number y => exact decidable_of_iff (x = y) (by simp)
    | _ => exact isFalse (fun h => nomatch h)
  | .string x, b => by
    cases b with
    | string y => exact decidable_of_iff (x = y) (by simp)
    | _ => exact isFalse (fun h => nomatch h)
  | .array x, b => by
    cases b with
    | array y => exact @decidable_of_iff _ (x = y) (by simp) (decideEqItems x y)
    | _ => exact isFalse (fun h => nomatch h)
  | .object x, b => by
    cases b with
    | object y => exact @decidable_of_iff _ (x = y) (by simp) (decideEqFields x y)
    | _ => exact isFalse (fun h => nomatch h)

/-- Decides equality of lists of items. -/
def decideEqItems : (a b : List Json) → Decidable (a = b)
  | [], [] => isTrue rfl
  | [], _ :: _ => isFalse (fun h => nomatch h)
  | _ :: _, [] => isFalse (fun h => nomatch h)
  | a :: as, b :: bs =>
    match decideEq a b, decideEqItems as bs with
    | isTrue ha, isTrue has => isTrue (by rw [ha, has])
    | isFalse ha, _ => isFalse (fun h => ha (List.cons.inj h).1)
    | _, isFalse has => isFalse (fun h => has (List.cons.inj h).2)

/-- Decides equality of lists of fields. -/
def decideEqFields : (a b : List (String × Json)) → Decidable (a = b)
  | [], [] => isTrue rfl
  | [], _ :: _ => isFalse (fun h => nomatch h)
  | _ :: _, [] => isFalse (fun h => nomatch h)
  | (name, a) :: as, (other, b) :: bs =>
    match decEq name other, decideEq a b, decideEqFields as bs with
    | isTrue hn, isTrue ha, isTrue has => isTrue (by rw [hn, ha, has])
    | isFalse hn, _, _ => isFalse (fun h => hn (congrArg Prod.fst (List.cons.inj h).1))
    | _, isFalse ha, _ => isFalse (fun h => ha (congrArg Prod.snd (List.cons.inj h).1))
    | _, _, isFalse has => isFalse (fun h => has (List.cons.inj h).2)

end

instance : DecidableEq Json := decideEq

end Json

end DecisionEval
