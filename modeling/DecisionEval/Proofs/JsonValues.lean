/-
Module: DecisionEval.Proofs.JsonValues
Purpose: The JSON values among the CEL values: which values JSON becomes, and that nothing is lost either way.
Main exports: Cel.Value.WellFormed, Cel.Value.Plain, Cel.Value.toJson_ofJson, Cel.Value.ofJson_toJson,
  Cel.Value.json_correspondence
-/
import DecisionEval.Cel.Comparison
import DecisionEval.Cel.Conversion

namespace DecisionEval.Cel

/-- A finite float equals itself; of all floats only NaN does not. -/
theorem float_beq_self {x : Float} (finite : x.isFinite = true) : (x == x) = true := by
  change x.toModel.unpack.isFinite = true at finite
  change x.toModel.unpack.beq x.toModel.unpack = true
  cases unpacked : x.toModel.unpack with
  | infinity sign =>
      rw [unpacked] at finite
      cases finite
  | notANumber =>
      rw [unpacked] at finite
      cases finite
  | zero sign => rfl
  | finite sign mantissa exponent positive =>
      have same : (compare exponent exponent).then (compare mantissa mantissa) = .eq := by
        rw [Std.ReflOrd.compare_self, Std.ReflOrd.compare_self, Ordering.then]
      cases sign with
      | negative =>
          change (some ((compare exponent exponent).then (compare mantissa mantissa)).swap ==
            some Ordering.eq) = true
          rw [same]
          rfl
      | positive =>
          change (some ((compare exponent exponent).then (compare mantissa mantissa)) ==
            some Ordering.eq) = true
          rw [same]
          rfl

namespace Value

/-!
### What programs hold

The entries of a map ascend by their keys. A list or a map has a place exactly if it differs from itself
part by part: only then does it matter where it was put together.
-/

mutual

/-- Every map in the value ascends, and every list and every map has a place only where it needs one. -/
def WellFormed : Value → Prop
  | .list items place => WellFormedItems items ∧ (place = none ↔ equalItems items items = true)
  | .map entries place =>
    Entries.Ascending entries ∧ WellFormedEntries entries ∧
      (place = none ↔ equalEntries entries entries = true)
  | .function _ target => WellFormedTarget target
  | _ => True

/-- Every item is well formed. -/
def WellFormedItems : List Value → Prop
  | [] => True
  | item :: rest => WellFormed item ∧ WellFormedItems rest

/-- The value of every entry is well formed. -/
def WellFormedEntries : List (Key × Value) → Prop
  | [] => True
  | (_, value) :: rest => WellFormed value ∧ WellFormedEntries rest

/-- The value that a function was selected from is well formed. -/
def WellFormedTarget : Option Value → Prop
  | none => True
  | some target => WellFormed target

end

variable {items : List Value} {entries : List (Key × Value)}

/-- The lists that an evaluation puts together are well formed. -/
theorem wellFormed_listAt (place : Place) (wellFormed : WellFormedItems items) :
    (listAt place items).WellFormed := by
  refine ⟨wellFormed, ?_⟩
  cases equalItems items items <;> simp

/-- The maps that an evaluation puts together are well formed. -/
theorem wellFormed_mapAt (place : Place) (ascending : Entries.Ascending entries)
    (wellFormed : WellFormedEntries entries) : (mapAt place entries).WellFormed := by
  refine ⟨ascending, wellFormed, ?_⟩
  cases equalEntries entries entries <;> simp

/-!
### Plain values
-/

mutual

/-- The values that JSON has a form for: `null`, truth values, signed integers, unsigned integers that are
too large to be signed, finite floats, strings, and lists and maps of such values, a map with no other
keys than strings. -/
def Plain : Value → Prop
  | .null => True
  | .bool _ => True
  | .int _ => True
  | .uint value => 0x8000000000000000 ≤ value.toNat
  | .float value => value.isFinite = true
  | .string _ => True
  | .list items _ => PlainItems items
  | .map entries _ => PlainEntries entries
  | _ => False

/-- Every item is plain. -/
def PlainItems : List Value → Prop
  | [] => True
  | item :: rest => Plain item ∧ PlainItems rest

/-- Every key is a string, and every value is plain. -/
def PlainEntries : List (Key × Value) → Prop
  | [] => True
  | (key, value) :: rest => (∃ name, key = .string name) ∧ Plain value ∧ PlainEntries rest

end

mutual

/-- A plain value equals itself. -/
theorem equal_self : ∀ {value : Value}, Plain value → equal value value = true
  | .null, _ => by rw [equal]
  | .bool _, _ => by rw [equal, beq_self_eq_true]
  | .int _, _ => by rw [equal, beq_self_eq_true]
  | .uint _, _ => by rw [equal, beq_self_eq_true]
  | .float _, finite => by rw [equal, float_beq_self finite]
  | .string _, _ => by rw [equal, beq_self_eq_true]
  | .list items place, plain => by
      rw [equal, equalItems_self plain, Bool.or_true]
  | .map entries place, plain => by
      rw [equal, equalEntries_self plain, Bool.or_true]

/-- A list of plain values equals itself. -/
theorem equalItems_self : ∀ {items : List Value}, PlainItems items → equalItems items items = true
  | [], _ => by rw [equalItems]
  | _ :: _, ⟨first, others⟩ => by rw [equalItems, equal_self first, equalItems_self others, Bool.true_and]

/-- Plain entries equal themselves. -/
theorem equalEntries_self : ∀ {entries : List (Key × Value)}, PlainEntries entries →
    equalEntries entries entries = true
  | [], _ => by rw [equalEntries]
  | (key, _) :: _, ⟨_, first, others⟩ => by
      rw [equalEntries, beq_self_eq_true key, equal_self first, equalEntries_self others]
      rfl

end

/-!
### From JSON and back
-/

theorem toJson_ofNumber (number : Json.Number) : (ofNumber number).toJson = .number number := by
  cases number with
  | signed value => rfl
  | unsigned value large => simp [ofNumber, toJson, Json.ofUInt64, Json.Number.ofUInt64, large]
  | float value finite => simp [ofNumber, toJson, Json.ofFloat, Json.Number.ofFloat?, finite]

mutual

/-- A JSON value is what comes back from its CEL value. -/
theorem toJson_ofJson : ∀ {v : Json}, v.WellFormed → (ofJson v).toJson = v
  | .null, _ => rfl
  | .bool _, _ => rfl
  | .number number, _ => toJson_ofNumber number
  | .string _, _ => rfl
  | .array items, wellFormed => by
      rw [Json.WellFormed] at wellFormed
      rw [ofJson, toJson, toJsonItems_ofJsonItems wellFormed]
  | .object fields, wellFormed => by
      rw [Json.WellFormed] at wellFormed
      obtain ⟨ascending, wellFormed⟩ := wellFormed
      rw [ofJson, toJson, toJsonFields_ofJsonFields wellFormed, Entries.ofList_of_ascending ascending]

theorem toJsonItems_ofJsonItems : ∀ {items : List Json}, Json.WellFormedItems items →
    toJsonItems (ofJsonItems items) = items
  | [], _ => rfl
  | item :: rest, wellFormed => by
      rw [Json.WellFormedItems] at wellFormed
      rw [ofJsonItems, toJsonItems, toJson_ofJson wellFormed.1, toJsonItems_ofJsonItems wellFormed.2]

theorem toJsonFields_ofJsonFields : ∀ {fields : List (String × Json)}, Json.WellFormedFields fields →
    toJsonFields (ofJsonFields fields) = fields
  | [], _ => rfl
  | (name, value) :: rest, wellFormed => by
      rw [Json.WellFormedFields] at wellFormed
      rw [ofJsonFields, toJsonFields, toJson_ofJson wellFormed.1, toJsonFields_ofJsonFields wellFormed.2]
      rfl

end

mutual

theorem plain_ofJson : ∀ v : Json, (ofJson v).Plain
  | .null => trivial
  | .bool _ => trivial
  | .number (.signed _) => trivial
  | .number (.unsigned _ large) => large
  | .number (.float _ finite) => finite
  | .string _ => trivial
  | .array items => plainItems_ofJsonItems items
  | .object fields => plainEntries_ofJsonFields fields

theorem plainItems_ofJsonItems : ∀ items : List Json, PlainItems (ofJsonItems items)
  | [] => trivial
  | item :: rest => ⟨plain_ofJson item, plainItems_ofJsonItems rest⟩

theorem plainEntries_ofJsonFields : ∀ fields : List (String × Json), PlainEntries (ofJsonFields fields)
  | [] => trivial
  | (name, value) :: rest => ⟨⟨name, rfl⟩, plain_ofJson value, plainEntries_ofJsonFields rest⟩

end

theorem string_lt_string_iff {a b : String} : Key.string a < Key.string b ↔ a < b := by
  change Key.before (.string a) (.string b) = true ↔ a < b
  simp [Key.before]

theorem keys_ofJsonFields (fields : List (String × Json)) :
    (ofJsonFields fields).map (·.1) = fields.map fun field => .string field.1 := by
  induction fields with
  | nil => rfl
  | cons field rest inductionHypothesis =>
      rw [List.map_cons, ← inductionHypothesis]
      rfl

theorem ascending_ofJsonFields {fields : List (String × Json)} (ascending : Entries.Ascending fields) :
    Entries.Ascending (ofJsonFields fields) := by
  rw [Entries.ascending_iff_keys, keys_ofJsonFields, List.pairwise_map]
  apply ascending.imp
  intro earlier later below
  exact string_lt_string_iff.mpr below

mutual

theorem wellFormed_ofJson : ∀ {v : Json}, v.WellFormed → (ofJson v).WellFormed
  | .null, _ => trivial
  | .bool _, _ => trivial
  | .number (.signed _), _ => trivial
  | .number (.unsigned _ _), _ => trivial
  | .number (.float _ _), _ => trivial
  | .string _, _ => trivial
  | .array items, wellFormed => by
      rw [Json.WellFormed] at wellFormed
      have same := equalItems_self (plainItems_ofJsonItems items)
      exact ⟨wellFormedItems_ofJsonItems wellFormed, by simp [same]⟩
  | .object fields, wellFormed => by
      rw [Json.WellFormed] at wellFormed
      have same := equalEntries_self (plainEntries_ofJsonFields fields)
      exact ⟨ascending_ofJsonFields wellFormed.1, wellFormedEntries_ofJsonFields wellFormed.2, by simp [same]⟩

theorem wellFormedItems_ofJsonItems : ∀ {items : List Json}, Json.WellFormedItems items →
    WellFormedItems (ofJsonItems items)
  | [], _ => trivial
  | _ :: _, wellFormed => by
      rw [Json.WellFormedItems] at wellFormed
      exact ⟨wellFormed_ofJson wellFormed.1, wellFormedItems_ofJsonItems wellFormed.2⟩

theorem wellFormedEntries_ofJsonFields : ∀ {fields : List (String × Json)},
    Json.WellFormedFields fields → WellFormedEntries (ofJsonFields fields)
  | [], _ => trivial
  | (_, _) :: _, wellFormed => by
      rw [Json.WellFormedFields] at wellFormed
      exact ⟨wellFormed_ofJson wellFormed.1, wellFormedEntries_ofJsonFields wellFormed.2⟩

end

/-!
### To JSON and back
-/

theorem keys_toJsonFields (entries : List (Key × Value)) :
    (toJsonFields entries).map (·.1) = entries.map (·.1.name) := by
  induction entries with
  | nil => rfl
  | cons entry rest inductionHypothesis =>
      rw [List.map_cons, ← inductionHypothesis]
      rfl

theorem PlainEntries.key {entries : List (Key × Value)} (plain : PlainEntries entries)
    {entry : Key × Value} (member : entry ∈ entries) : entry.1 = .string entry.1.name := by
  induction entries with
  | nil => cases member
  | cons head rest inductionHypothesis =>
      obtain ⟨⟨name, key⟩, -, others⟩ := plain
      rcases List.mem_cons.mp member with rfl | member
      · rw [key]
        rfl
      · exact inductionHypothesis others member

theorem ascending_toJsonFields (plain : PlainEntries entries) (ascending : Entries.Ascending entries) :
    Entries.Ascending (toJsonFields entries) := by
  rw [Entries.ascending_iff_keys, keys_toJsonFields, List.pairwise_map]
  apply List.Pairwise.imp_of_mem _ ascending
  intro earlier later earlierMember laterMember below
  rw [plain.key earlierMember, plain.key laterMember] at below
  exact string_lt_string_iff.mp below

mutual

/-- What a plain value becomes is well-formed JSON, and the value comes back from it. -/
theorem ofJson_toJson : ∀ {value : Value}, value.Plain → value.WellFormed →
    value.toJson.WellFormed ∧ ofJson value.toJson = value
  | .null, _, _ => ⟨trivial, rfl⟩
  | .bool _, _, _ => ⟨trivial, rfl⟩
  | .int _, _, _ => ⟨trivial, rfl⟩
  | .uint value, large, _ => by
      have kept : (Value.uint value).toJson = .number (.unsigned value large) :=
        toJson_ofNumber (.unsigned value large)
      rw [kept]
      exact ⟨trivial, rfl⟩
  | .float value, finite, _ => by
      have kept : (Value.float value).toJson = .number (.float value finite) :=
        toJson_ofNumber (.float value finite)
      rw [kept]
      exact ⟨trivial, rfl⟩
  | .string _, _, _ => ⟨trivial, rfl⟩
  | .list items place, plain, wellFormed => by
      rw [WellFormed] at wellFormed
      obtain ⟨inside, placed⟩ := wellFormed
      obtain ⟨jsonWellFormed, back⟩ := ofJsonItems_toJsonItems plain inside
      have unplaced : place = none := placed.mpr (equalItems_self plain)
      rw [toJson, ofJson, Json.WellFormed, back, unplaced]
      exact ⟨jsonWellFormed, rfl⟩
  | .map entries place, plain, wellFormed => by
      rw [WellFormed] at wellFormed
      obtain ⟨ascending, inside, placed⟩ := wellFormed
      obtain ⟨jsonWellFormed, back⟩ := ofJsonFields_toJsonFields plain inside
      have unplaced : place = none := placed.mpr (equalEntries_self plain)
      have fieldsAscend := ascending_toJsonFields plain ascending
      rw [toJson, Entries.ofList_of_ascending fieldsAscend, ofJson, Json.WellFormed, back, unplaced]
      exact ⟨⟨fieldsAscend, jsonWellFormed⟩, rfl⟩

theorem ofJsonItems_toJsonItems : ∀ {items : List Value}, PlainItems items → WellFormedItems items →
    Json.WellFormedItems (toJsonItems items) ∧ ofJsonItems (toJsonItems items) = items
  | [], _, _ => ⟨trivial, rfl⟩
  | item :: rest, plain, wellFormed => by
      rw [WellFormedItems] at wellFormed
      obtain ⟨first, firstBack⟩ := ofJson_toJson plain.1 wellFormed.1
      obtain ⟨others, othersBack⟩ := ofJsonItems_toJsonItems plain.2 wellFormed.2
      rw [toJsonItems, ofJsonItems, firstBack, othersBack]
      exact ⟨⟨first, others⟩, rfl⟩

theorem ofJsonFields_toJsonFields : ∀ {entries : List (Key × Value)}, PlainEntries entries →
    WellFormedEntries entries →
      Json.WellFormedFields (toJsonFields entries) ∧ ofJsonFields (toJsonFields entries) = entries
  | [], _, _ => ⟨trivial, rfl⟩
  | (key, value) :: rest, plain, wellFormed => by
      rw [WellFormedEntries] at wellFormed
      obtain ⟨⟨name, rfl⟩, plainValue, plainRest⟩ := plain
      obtain ⟨first, firstBack⟩ := ofJson_toJson plainValue wellFormed.1
      obtain ⟨others, othersBack⟩ := ofJsonFields_toJsonFields plainRest wellFormed.2
      rw [toJsonFields, ofJsonFields, firstBack, othersBack]
      exact ⟨⟨first, others⟩, rfl⟩

end

/-- JSON values and plain CEL values are the same data: either way and back nothing changes, integers stay
integers and floats stay floats, bit by bit, and the plain values are precisely those that JSON becomes. -/
theorem json_correspondence :
    (∀ v : Json, v.WellFormed → (ofJson v).toJson = v) ∧
      (∀ value : Value, value.WellFormed → value.Plain →
        value.toJson.WellFormed ∧ ofJson value.toJson = value) ∧
      ∀ value : Value,
        (∃ v : Json, v.WellFormed ∧ ofJson v = value) ↔ value.WellFormed ∧ value.Plain := by
  refine ⟨?fromJson, ?fromValue, ?image⟩
  case fromJson =>
    intro v wellFormed
    exact toJson_ofJson wellFormed
  case fromValue =>
    intro value wellFormed plain
    exact ofJson_toJson plain wellFormed
  case image =>
    intro value
    constructor
    · rintro ⟨v, wellFormed, rfl⟩
      exact ⟨wellFormed_ofJson wellFormed, plain_ofJson v⟩
    · rintro ⟨wellFormed, plain⟩
      obtain ⟨jsonWellFormed, back⟩ := ofJson_toJson plain wellFormed
      exact ⟨value.toJson, jsonWellFormed, back⟩

/-- The least signed integer, the greatest one and the one above it, the negative zero, and an object inside
a list. -/
def borderJson : Json :=
  .object
    [("above", .number (.unsigned 0x8000000000000000 (by decide))),
      ("items", .array [.number (.float (-0.0) (by decide)), .object [("null", .null)]]),
      ("least", .number (.signed (-0x8000000000000000))),
      ("most", .number (.signed 0x7FFFFFFFFFFFFFFF))]

theorem json_correspondence_border :
    borderJson.WellFormed ∧ (ofJson borderJson).WellFormed ∧ (ofJson borderJson).Plain ∧
      (ofJson borderJson).toJson = borderJson ∧
      ofJson (ofJson borderJson).toJson = ofJson borderJson := by
  obtain ⟨fromJson, fromValue, image⟩ := json_correspondence
  have wellFormed : borderJson.WellFormed := by
    simp only [borderJson, Json.WellFormed, Json.WellFormedFields, Json.WellFormedItems, Entries.Ascending,
      and_true, true_and]
    decide
  obtain ⟨valueWellFormed, plain⟩ := (image (ofJson borderJson)).mp ⟨borderJson, wellFormed, rfl⟩
  exact ⟨wellFormed, valueWellFormed, plain, fromJson borderJson wellFormed,
    (fromValue _ valueWellFormed plain).2⟩

end Value

end DecisionEval.Cel
