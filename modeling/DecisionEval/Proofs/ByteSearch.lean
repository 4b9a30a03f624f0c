/-
Module: DecisionEval.Proofs.ByteSearch
Purpose: What is found among the bytes of a text is found among its characters: marks and braces are bytes of their
  own, and cuts between characters cut the text.
Main exports: Text.toUInt8_mem_utf8EncodeChar_iff, Template.slice_eq_ok_iff, Template.findOpening_eq
-/
import DecisionEval.Proofs.ByteOrder
import DecisionEval.Proofs.TemplateFaults
import DecisionEval.Template.Offsets

namespace DecisionEval

namespace Text

variable {c a : Char} {byte : UInt8}

/-!
### ASCII bytes
-/

theorem utf8EncodeChar_of_ascii (ascii : c.toNat < 0x80) : String.utf8EncodeChar c = [c.toUInt8] := by
  have alone : followers c.toNat = 0 := if_pos ascii
  rw [utf8EncodeChar_eq, leadByte, alone]
  rfl

/-- The bytes of a character that is not ASCII are not ASCII. -/
theorem le_of_mem_utf8EncodeChar (wide : 0x80 ≤ c.toNat) (member : byte ∈ String.utf8EncodeChar c) :
    0x80 ≤ byte.toNat := by
  have digits : ∀ count code, ∀ byte ∈ digitBytes count code, 0x80 ≤ byte.toNat := by
    intro count
    induction count with
    | zero => simp [digitBytes]
    | succ count inductionHypothesis =>
        intro code byte member
        rcases List.mem_append.mp member with earlier | last
        · exact inductionHypothesis _ byte earlier
        · rw [List.mem_singleton.mp last, UInt8.toNat_ofNat']
          omega
  rw [utf8EncodeChar_eq] at member
  rcases List.mem_cons.mp member with rfl | follows
  · have bound := leadByte_lt (toNat_lt c)
    have marked : 0x80 ≤ leadByte c.toNat := by
      grind [leadByte, followers, leadMark]
    rw [UInt8.toNat_ofNat']
    omega
  · exact digits _ _ byte follows

theorem toNat_toUInt8 (ascii : c.toNat < 0x80) : c.toUInt8.toNat = c.toNat := by
  change c.val.toNat % 256 = c.val.toNat
  change c.val.toNat < 0x80 at ascii
  omega

/-- An ASCII byte is a character of its own. -/
theorem toUInt8_mem_utf8EncodeChar_iff (ascii : a.toNat < 0x80) :
    a.toUInt8 ∈ String.utf8EncodeChar c ↔ c = a := by
  constructor
  · intro member
    by_cases narrow : c.toNat < 0x80
    · rw [utf8EncodeChar_of_ascii narrow, List.mem_singleton] at member
      have same := congrArg UInt8.toNat member
      rw [toNat_toUInt8 ascii, toNat_toUInt8 narrow] at same
      exact Char.toNat_inj.mp same.symm
    · have wide := le_of_mem_utf8EncodeChar (Nat.le_of_not_lt narrow) member
      rw [toNat_toUInt8 ascii] at wide
      omega
  · rintro rfl
    rw [utf8EncodeChar_of_ascii ascii, List.mem_singleton]

theorem utf8EncodeChar_ne_nil (c : Char) : String.utf8EncodeChar c ≠ [] := by
  rw [utf8EncodeChar_eq]
  exact List.cons_ne_nil _ _

theorem length_utf8BytesOf (cs : List Char) : (utf8BytesOf cs).length = utf8Length cs := by
  induction cs with
  | nil => rfl
  | cons c rest inductionHypothesis =>
      rw [utf8BytesOf_cons, List.length_append, String.length_utf8EncodeChar, inductionHypothesis, utf8Length]

theorem utf8BytesOf_append (front back : List Char) :
    utf8BytesOf (front ++ back) = utf8BytesOf front ++ utf8BytesOf back :=
  List.flatMap_append

theorem length_le_utf8Length (cs : List Char) : cs.length ≤ utf8Length cs := by
  induction cs with
  | nil => exact Nat.le_refl 0
  | cons c cs inductionHypothesis =>
      have positive := c.utf8Size_pos
      rw [List.length_cons, utf8Length]
      omega

theorem utf8ByteSize_eq (text : String) : text.utf8ByteSize = utf8Length text.toList := by
  rw [← utf8ByteSize_ofList, String.ofList_toList]

end Text

namespace Template

variable {text : String} {cs front back cut : List Char} {bytes more : List UInt8} {limit start stop n : Nat}

/-!
### The first opening among bytes
-/

/-- Whether two bytes in a row are an opening. -/
def isOpening (first second : UInt8) : Bool :=
  (first == '$'.toUInt8 || first == '#'.toUInt8) && second == '{'.toUInt8

/-- The index of the first opening among bytes. -/
def firstOpening? : List UInt8 → Option Nat
  | first :: second :: rest =>
    if isOpening first second then some 0 else (firstOpening? (second :: rest)).map (· + 1)
  | _ => none

theorem opensAt_append (front : List UInt8) {first second : UInt8} (fits : front.length + 1 < limit) :
    opensAt limit (front ++ first :: second :: more) front.length = .ok (isOpening first second) := by
  have atFirst : byteAt (front ++ first :: second :: more) front.length = .ok first := by
    simp [byteAt]
  have atSecond : byteAt (front ++ first :: second :: more) (front.length + 1) = .ok second := by
    simp [byteAt]
  rw [opensAt, atFirst, isOpening, add, if_pos fits, Breach.ok_bind]
  cases first == '$'.toUInt8 || first == '#'.toUInt8 with
  | false => rfl
  | true =>
      rw [if_pos rfl, Breach.ok_bind, atSecond]
      rfl

/-- The search by indices goes through the bytes from where it starts. -/
theorem findM?_opensAt (front bytes : List UInt8) (fits : front.length + bytes.length ≤ limit) :
    (List.range' front.length (bytes.length - 1)).findM? (opensAt limit (front ++ bytes)) =
      .ok ((firstOpening? bytes).map (front.length + ·)) := by
  induction bytes using firstOpening?.induct generalizing front with
  | case1 first second rest opens =>
      simp only [List.length_cons] at fits
      rw [firstOpening?, if_pos opens, List.length_cons, List.length_cons, Nat.add_sub_cancel, List.range'_succ,
        List.findM?, opensAt_append front (by omega), opens]
      rfl
  | case2 first second rest skipped inductionHypothesis =>
      -- The index of the next byte is the number of bytes in front of it, with the byte that is skipped among them.
      simp only [List.length_cons] at fits
      have onward := inductionHypothesis (front ++ [first]) (by simp; omega)
      rw [← List.append_cons, List.length_append, List.length_singleton, List.length_cons,
        Nat.add_sub_cancel] at onward
      rw [firstOpening?, if_neg skipped, List.length_cons, List.length_cons, Nat.add_sub_cancel, List.range'_succ,
        List.findM?, opensAt_append front (by omega), Bool.eq_false_iff.mpr skipped, Breach.ok_bind,
        onward, Option.map_map]
      change Except.ok _ = _
      congr 2
      funext index
      exact Nat.add_right_comm ..
  | case3 bytes short =>
      rcases bytes with _ | ⟨first, _ | ⟨second, rest⟩⟩
      · rfl
      · rfl
      · exact absurd rfl (short first second rest)

theorem firstOpening?_append (unmarked : ∀ byte ∈ bytes, ∀ second, isOpening byte second = false)
    (more : List UInt8) : firstOpening? (bytes ++ more) = (firstOpening? more).map (bytes.length + ·) := by
  induction bytes with
  | nil => simp
  | cons first bytes inductionHypothesis =>
      obtain ⟨plain, others⟩ := List.forall_mem_cons.mp unmarked
      rw [List.cons_append]
      cases rest : bytes ++ more with
      | nil =>
          obtain ⟨rfl, rfl⟩ := List.append_eq_nil_iff.mp rest
          rfl
      | cons second later =>
          rw [firstOpening?, plain, if_neg Bool.false_ne_true, ← rest, inductionHypothesis others, Option.map_map]
          congr 1
          funext index
          simp only [Function.comp_apply, List.length_cons]
          omega

/-!
### The first opening among characters
-/

theorem isOpening_of_not_isMark {c : Char} (unmarked : isMark c = false) {byte : UInt8}
    (member : byte ∈ String.utf8EncodeChar c) (second : UInt8) : isOpening byte second = false := by
  have differs (mark : Char) (ascii : mark.toNat < 0x80) (other : c ≠ mark) : (byte == mark.toUInt8) = false := by
    rw [beq_eq_false_iff_ne]
    rintro rfl
    exact other ((Text.toUInt8_mem_utf8EncodeChar_iff ascii).mp member)
  simp only [isMark, Bool.or_eq_false_iff, beq_eq_false_iff_ne] at unmarked
  rw [isOpening, differs '$' (by decide) unmarked.1, differs '#' (by decide) unmarked.2]
  rfl

theorem toUInt8_of_isMark {c : Char} (marked : isMark c = true) :
    String.utf8EncodeChar c = [c.toUInt8] ∧ (c.toUInt8 == '$'.toUInt8 || c.toUInt8 == '#'.toUInt8) = true := by
  simp only [isMark, Bool.or_eq_true, beq_iff_eq] at marked
  rcases marked with rfl | rfl <;> exact ⟨Text.utf8EncodeChar_of_ascii (by decide), rfl⟩

/-- Where no opening starts at a character, none starts at its bytes. -/
theorem firstOpening?_skip {c next : Char} (skipped : (isMark c && next == '{') = false) (rest : List Char) :
    firstOpening? (Text.utf8BytesOf (c :: next :: rest)) =
      (firstOpening? (Text.utf8BytesOf (next :: rest))).map (c.utf8Size + ·) := by
  rw [Text.utf8BytesOf_cons]
  cases marked : isMark c with
  | false =>
      rw [firstOpening?_append fun byte member => isOpening_of_not_isMark marked member,
        String.length_utf8EncodeChar]
  | true =>
      -- A mark is one byte, and the byte behind it is the first one of the next character.
      have noBrace : next ≠ '{' := by simpa [marked] using skipped
      rw [(toUInt8_of_isMark marked).1, utf8Size_of_isMark marked, List.singleton_append]
      cases bytes : Text.utf8BytesOf (next :: rest) with
      | nil => rfl
      | cons second later =>
          have member : second ∈ String.utf8EncodeChar next := by
            obtain ⟨lead, others, encoded⟩ := List.exists_cons_of_ne_nil (Text.utf8EncodeChar_ne_nil next)
            rw [Text.utf8BytesOf_cons, encoded, List.cons_append] at bytes
            rw [encoded, (List.cons.inj bytes).1]
            exact List.mem_cons_self
          have plain : isOpening c.toUInt8 second = false := by
            rw [isOpening, Bool.and_eq_false_iff, beq_eq_false_iff_ne]
            refine .inr ?_
            rintro rfl
            exact noBrace ((Text.toUInt8_mem_utf8EncodeChar_iff (by decide)).mp member)
          rw [firstOpening?, plain, if_neg Bool.false_ne_true]
          simp only [Nat.add_comm]

/-- The first opening among the bytes of characters is their first opening. -/
theorem firstOpening?_utf8BytesOf (cs : List Char) :
    firstOpening? (Text.utf8BytesOf cs) =
      (splitOpening cs).2.map fun _ => Text.utf8Length (splitOpening cs).1 := by
  induction cs using splitOpening.induct with
  | case1 => rfl
  | case2 c =>
      have nothing : firstOpening? (String.utf8EncodeChar c ++ []) = none := by
        cases marked : isMark c with
        | false => rw [firstOpening?_append fun byte member => isOpening_of_not_isMark marked member]; rfl
        | true => rw [(toUInt8_of_isMark marked).1]; rfl
      rw [Text.utf8BytesOf_cons]
      exact nothing
  | case3 c next rest opens =>
      obtain ⟨marked, brace⟩ := Bool.and_eq_true_iff.mp opens
      obtain rfl := eq_of_beq brace
      obtain ⟨bytes, first⟩ := toUInt8_of_isMark marked
      have braceBytes : String.utf8EncodeChar '{' = ['{'.toUInt8] := Text.utf8EncodeChar_of_ascii (by decide)
      rw [splitOpening, if_pos opens, Text.utf8BytesOf_cons, Text.utf8BytesOf_cons, bytes, braceBytes,
        List.singleton_append, List.singleton_append, firstOpening?, isOpening, first]
      rfl
  | case4 c next rest skipped before opening found inductionHypothesis =>
      rw [firstOpening?_skip (Bool.eq_false_iff.mpr skipped), inductionHypothesis, splitOpening, if_neg skipped,
        found]
      cases opening <;> rfl

/-- The search by offsets finds what the search among characters finds. -/
theorem findOpening_eq (split : text.toList = front ++ back) (fits : text.utf8ByteSize < limit) :
    findOpening limit text (Text.utf8Length front) =
      .ok ((splitOpening back).2.map fun _ => Text.utf8Length (front ++ (splitOpening back).1)) := by
  have size : (Text.utf8BytesOf front).length + (Text.utf8BytesOf back).length ≤ limit := by
    rw [Text.utf8ByteSize_eq, split, Text.utf8Length_append] at fits
    rw [Text.length_utf8BytesOf, Text.length_utf8BytesOf]
    omega
  have search := findM?_opensAt (Text.utf8BytesOf front) (Text.utf8BytesOf back) size
  have count : Text.utf8Length front + Text.utf8Length back - 1 - Text.utf8Length front =
      Text.utf8Length back - 1 := by
    omega
  rw [firstOpening?_utf8BytesOf, Option.map_map, Text.length_utf8BytesOf, Text.length_utf8BytesOf] at search
  simp only [findOpening, Text.utf8Bytes, split, Text.utf8BytesOf_append, List.length_append,
    Text.length_utf8BytesOf, count, search, Text.utf8Length_append, Function.comp_def]

/-!
### Cuts
-/

theorem splitAtByte?_append (front back : List Char) :
    splitAtByte? (Text.utf8Length front) (front ++ back) = some (front, back) := by
  induction front with
  | nil => simp [splitAtByte?, Text.utf8Length]
  | cons c front inductionHypothesis =>
      have positive := c.utf8Size_pos
      obtain ⟨n, size⟩ := Nat.exists_eq_add_of_lt (Nat.lt_add_right (Text.utf8Length front) positive)
      rw [Nat.zero_add] at size
      have others : n + 1 - c.utf8Size = Text.utf8Length front := by omega
      rw [Text.utf8Length, size, List.cons_append, splitAtByte?, if_pos (by omega), others, inductionHypothesis]
      rfl

theorem splitAtByte?_eq_some_iff :
    splitAtByte? n cs = some (front, back) ↔ cs = front ++ back ∧ n = Text.utf8Length front := by
  constructor
  · intro split
    induction n, cs using splitAtByte?.induct generalizing front with
    | case1 cs =>
        rw [splitAtByte?] at split
        cases split
        exact ⟨rfl, rfl⟩
    | case2 n => cases split
    | case3 n c rest fits inductionHypothesis =>
        rw [splitAtByte?, if_pos fits] at split
        obtain ⟨⟨inner, later⟩, found, same⟩ := Option.map_eq_some_iff.mp split
        cases same
        obtain ⟨rfl, size⟩ := inductionHypothesis found
        refine ⟨rfl, ?_⟩
        rw [Text.utf8Length]
        omega
    | case4 n c rest wide =>
        rw [splitAtByte?, if_neg wide] at split
        cases split
  · rintro ⟨rfl, rfl⟩
    exact splitAtByte?_append front back

/-- A cut succeeds exactly between two offsets that follow characters of the text, in their order. -/
theorem slice_eq_ok_iff : slice text start stop = .ok cut ↔
    ∃ front back, text.toList = front ++ (cut ++ back) ∧ start = Text.utf8Length front ∧
      stop = start + Text.utf8Length cut := by
  rw [slice]
  constructor
  · intro sliced
    split at sliced
    case isFalse => cases sliced
    case isTrue order =>
      split at sliced
      case h_1 => cases sliced
      case h_2 front after found =>
        split at sliced
        case h_1 => cases sliced
        case h_2 middle back foundAfter =>
          cases sliced
          obtain ⟨split, size⟩ := splitAtByte?_eq_some_iff.mp found
          obtain ⟨rfl, cutSize⟩ := splitAtByte?_eq_some_iff.mp foundAfter
          exact ⟨front, back, split, size, by omega⟩
  · rintro ⟨front, back, split, rfl, rfl⟩
    rw [if_pos (by omega), split, splitAtByte?_append]
    simp only [Nat.add_sub_cancel_left, splitAtByte?_append]

example : slice "é" 1 2 = .error .cut := rfl

end Template

end DecisionEval
