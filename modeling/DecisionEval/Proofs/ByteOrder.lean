/-
Module: DecisionEval.Proofs.ByteOrder
Purpose: The order of texts by code points is their order by UTF-8 bytes.
Main exports: Text.utf8EncodeChar_eq, Text.utf8EncodeChar_append_lt, Text.utf8Bytes_lt_utf8Bytes_iff
-/
import DecisionEval.Text.Utf8

namespace DecisionEval.Text

/-!
### The bytes of a code point

The first byte of a character says how many bytes follow, and each of those holds one digit to the base 64. More
bytes come with greater code points, and with a greater first byte.
-/

/-- How many bytes follow the first byte of a code point. -/
def followers (code : Nat) : Nat :=
  if code < 0x80 then 0 else if code < 0x800 then 1 else if code < 0x10000 then 2 else 3

/-- What is added to the first byte to say how many bytes follow. -/
def leadMark : Nat → Nat
  | 0 => 0
  | 1 => 0xC0
  | 2 => 0xE0
  | _ => 0xF0

/-- A code point without its last digits. -/
def withoutDigits : Nat → Nat → Nat
  | 0, code => code
  | count + 1, code => withoutDigits count (code / 64)

/-- The last digits of a code point, the most significant one first, in a byte each. -/
def digitBytes : Nat → Nat → List UInt8
  | 0, _ => []
  | count + 1, code => digitBytes count (code / 64) ++ [UInt8.ofNat (code % 64 + 0x80)]

/-- The first byte of a code point. -/
def leadByte (code : Nat) : Nat := withoutDigits (followers code) code + leadMark (followers code)

variable {code other : Nat} {c d : Char}

theorem toNat_lt (c : Char) : c.toNat < 0x110000 := by
  have valid : c.val.toNat < 0xD800 ∨ 0xDFFF < c.val.toNat ∧ c.val.toNat < 0x110000 := c.valid
  change c.val.toNat < 0x110000
  omega

/-- The bytes of a character in terms of its digits. -/
theorem utf8EncodeChar_eq (c : Char) : String.utf8EncodeChar c =
    UInt8.ofNat (leadByte c.toNat) :: digitBytes (followers c.toNat) c.toNat := by
  have bound : c.val.toNat < 0x110000 := toNat_lt c
  have nested : c.val.toNat / 4096 = c.val.toNat / 64 / 64 ∧
      c.val.toNat / 262144 = c.val.toNat / 64 / 64 / 64 := by
    simp [Nat.div_div_eq_div_mul]
  unfold String.utf8EncodeChar leadByte followers
  rw [Char.toNat]
  simp only [nested]
  generalize c.val.toNat = code at bound
  -- The library cuts the first byte to the room it has; no code point of its range is cut.
  by_cases one : code < 0x80
  · rw [if_pos (by omega), if_pos one]
    rfl
  rw [if_neg (by omega), if_neg one]
  by_cases two : code < 0x800
  · have fits : code / 64 < 32 := by omega
    rw [if_pos (by omega), if_pos two, Nat.mod_eq_of_lt fits]
    rfl
  rw [if_neg (by omega), if_neg two]
  by_cases three : code < 0x10000
  · have fits : code / 64 / 64 < 16 := by omega
    rw [if_pos (by omega), if_pos three, Nat.mod_eq_of_lt fits]
    rfl
  · have fits : code / 64 / 64 / 64 < 8 := by omega
    rw [if_neg (by omega), if_neg three, Nat.mod_eq_of_lt fits]
    rfl

/-!
### Greater code points have greater bytes
-/

theorem ofNat_lt_ofNat {a b : Nat} (below : a < b) (fits : b < 256) : UInt8.ofNat a < UInt8.ofNat b := by
  rw [UInt8.lt_iff_toNat_lt, UInt8.toNat_ofNat', UInt8.toNat_ofNat']
  omega

theorem withoutDigits_mono (count : Nat) (least : code ≤ other) :
    withoutDigits count code ≤ withoutDigits count other := by
  induction count generalizing code other with
  | zero => exact least
  | succ count inductionHypothesis => exact inductionHypothesis (Nat.div_le_div_right least)

/-- Code points that differ in their last digits alone differ in the bytes of those. -/
theorem digitBytes_append_lt (count : Nat) (below : code < other)
    (same : withoutDigits count code = withoutDigits count other) (front back : List UInt8) :
    digitBytes count code ++ front < digitBytes count other ++ back := by
  induction count generalizing code other front back with
  | zero => exact absurd same (Nat.ne_of_lt below)
  | succ count inductionHypothesis =>
      simp only [digitBytes, List.append_assoc]
      obtain above | equal : code / 64 < other / 64 ∨ code / 64 = other / 64 := by omega
      · exact inductionHypothesis above same _ _
      · rw [equal]
        refine List.append_left_lt (List.cons_lt_cons_iff.mpr (.inl ?_))
        exact ofNat_lt_ofNat (by omega) (by omega)

theorem followers_lt_followers (below : code < other) (differ : followers code ≠ followers other) :
    followers code < followers other := by
  grind [followers]

/-- The first bytes of fewer bytes lie below the mark of more. -/
theorem leadByte_lt_leadMark (fewer : followers code < followers other) :
    leadByte code < leadMark (followers other) := by
  grind [followers, leadByte, leadMark, withoutDigits]

theorem leadByte_lt (bound : code < 0x110000) : leadByte code < 256 := by
  unfold leadByte followers
  repeat' split
  all_goals simp only [withoutDigits, leadMark]; omega

/-- Whatever follows, the bytes of a character come before those of every greater one. -/
theorem utf8EncodeChar_append_lt (below : c < d) (front back : List UInt8) :
    String.utf8EncodeChar c ++ front < String.utf8EncodeChar d ++ back := by
  have below : c.toNat < d.toNat := below
  have bound : d.toNat < 0x110000 := toNat_lt d
  rw [utf8EncodeChar_eq, utf8EncodeChar_eq, List.cons_append, List.cons_append, List.cons_lt_cons_iff]
  by_cases alike : followers c.toNat = followers d.toNat
  case neg =>
    have lower : leadByte c.toNat < leadByte d.toNat :=
      Nat.lt_of_lt_of_le (leadByte_lt_leadMark (followers_lt_followers below alike)) (Nat.le_add_left _ _)
    exact .inl (ofNat_lt_ofNat lower (leadByte_lt bound))
  case pos =>
    obtain lower | same := Nat.lt_or_eq_of_le (withoutDigits_mono (followers d.toNat) (Nat.le_of_lt below))
    · refine .inl (ofNat_lt_ofNat ?_ (leadByte_lt bound))
      rw [leadByte, leadByte, alike]
      exact Nat.add_lt_add_right lower _
    · have leadEq : leadByte c.toNat = leadByte d.toNat := by rw [leadByte, leadByte, alike, same]
      rw [alike, leadEq]
      exact .inr ⟨rfl, digitBytes_append_lt _ below same front back⟩

/-!
### Texts
-/

theorem utf8BytesOf_cons (c : Char) (rest : List Char) :
    utf8BytesOf (c :: rest) = String.utf8EncodeChar c ++ utf8BytesOf rest :=
  List.flatMap_cons

theorem utf8BytesOf_lt_utf8BytesOf {front back : List Char} (below : front < back) :
    utf8BytesOf front < utf8BytesOf back := by
  induction front generalizing back with
  | nil =>
      cases back with
      | nil => exact absurd below (List.lt_irrefl [])
      | cons d back =>
          rw [utf8BytesOf_cons, utf8EncodeChar_eq]
          exact List.nil_lt_cons _ _
  | cons c front inductionHypothesis =>
      cases back with
      | nil => exact absurd below (List.not_lt_nil _)
      | cons d back =>
          rw [utf8BytesOf_cons, utf8BytesOf_cons]
          obtain lower | ⟨rfl, behind⟩ := List.cons_lt_cons_iff.mp below
          · exact utf8EncodeChar_append_lt lower _ _
          · exact List.append_left_lt (inductionHypothesis behind)

/-- Texts are ordered as their bytes are. -/
theorem utf8Bytes_lt_utf8Bytes_iff {text later : String} : utf8Bytes text < utf8Bytes later ↔ text < later := by
  refine ⟨fun below => ?_, fun below => utf8BytesOf_lt_utf8BytesOf below⟩
  apply Decidable.byContradiction
  intro notBelow
  have least : later ≤ text := notBelow
  by_cases same : text = later
  · subst same
    exact List.lt_irrefl _ below
  · have above : later < text := Decidable.byContradiction fun notAbove =>
      same (String.le_antisymm notAbove least)
    exact List.lt_asymm below (utf8BytesOf_lt_utf8BytesOf above)

end DecisionEval.Text
