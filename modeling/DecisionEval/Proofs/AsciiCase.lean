/-
Module: DecisionEval.Proofs.AsciiCase
Purpose: Where the case of ASCII letters and the case of Unicode agree: on words of ASCII letters that are the
  lower-case forms of ASCII letters only.
Main exports: Text.IsAsciiCased, Text.isAscii_of_mem_lowercaseChar, Text.lowercaseFrom_of_ascii,
  Text.lowercase_eq_iff_equalIgnoringAsciiCase
-/
import DecisionEval.Proofs.Lowercasing
import DecisionEval.Text.Ascii

namespace DecisionEval.Text

/-!
### Letters that no other character is lower-cased to

Some characters outside of ASCII have a lower-case form with an ASCII letter in it: the Kelvin sign a small k, and
the dotted capital I a small i with a dot. For every other letter the table of runs is checked.
-/

/-- Whether a character is one of ASCII. -/
def IsAscii (c : Char) : Prop := c.toNat < 128

instance (c : Char) : Decidable (IsAscii c) := inferInstanceAs (Decidable (_ < _))

namespace CaseRun

variable {run : CaseRun} {code target : Nat}

/-- Whether no form of a letter outside of ASCII is the code point, told by the ends of the run. -/
def misses (target : Nat) (run : CaseRun) : Bool :=
  run.last.blt 128 || target.blt (run.form run.first) || (run.form run.last).blt target

theorem form_ne_of_misses (misses : run.misses target = true) (covered : run.covers code = true)
    (beyond : 128 ≤ code) : run.form code ≠ target := by
  obtain ⟨above, below, -⟩ := covers_eq_true_iff.mp covered
  simp only [CaseRun.misses, form, Bool.or_eq_true, Nat.blt_eq] at misses
  rw [form]
  omega

end CaseRun

/-- A small ASCII letter, or another ASCII character without case, that no character outside of ASCII is lower-cased
to. -/
def IsAsciiCased (d : Char) : Prop :=
  IsAscii d ∧ d.toLower = d ∧ d ≠ '\x00' ∧ d ≠ 'i' ∧ lowercaseRuns.all (·.misses d.toNat) = true

instance (d : Char) : Decidable (IsAsciiCased d) := inferInstanceAs (Decidable (_ ∧ _))

variable {c d : Char} {cs before : List Char} {text word : String}

/-- Only ASCII characters are lower-cased to such a letter. -/
theorem isAscii_of_mem_lowercaseChar (cased : IsAsciiCased d) (member : d ∈ lowercaseChar c) :
    IsAscii c := by
  obtain ⟨ascii, -, present, undotted, missed⟩ := cased
  refine Nat.lt_of_not_le fun beyond => ?_
  unfold lowercaseChar at member
  split at member
  case isTrue =>
    simp only [List.mem_cons, List.not_mem_nil, or_false] at member
    rcases member with rfl | rfl
    · exact undotted rfl
    · exact absurd ascii (by decide)
  case isFalse =>
    split at member
    case h_1 run found =>
      have listed : run ∈ lowercaseRuns := List.mem_of_find?_eq_some found
      have covered : run.covers c.toNat = true := by simpa using List.find?_some found
      have other := CaseRun.form_ne_of_misses (List.all_eq_true.mp missed run listed) covered beyond
      have formed : d = Char.ofNat (run.form c.toNat) := List.mem_singleton.mp member
      rcases toNat_ofNat_cases (run.form c.toNat) with valid | zero
      · exact other (by rw [← valid, formed])
      · rw [← formed] at zero
        exact present (Char.toNat_inj.mp zero)
    case h_2 =>
      obtain rfl := List.mem_singleton.mp member
      exact absurd ascii (Nat.not_lt.mpr beyond)

/-!
### ASCII characters
-/

theorem lowercaseChar_of_isAscii (ascii : IsAscii c) : lowercaseChar c = [c.toLower] := by
  have checked : ∀ code < 128, lowercaseChar (Char.ofNat code) = [(Char.ofNat code).toLower] := by
    decide +kernel
  simpa only [Char.ofNat_toNat] using checked c.toNat ascii

theorem lowercaseChar_ne_nil (c : Char) : lowercaseChar c ≠ [] := by
  unfold lowercaseChar
  split
  · simp
  · split <;> simp

/-- Case of ASCII is case of Unicode on texts of ASCII characters. -/
theorem lowercaseFrom_of_ascii (ascii : ∀ c ∈ cs, IsAscii c) : lowercaseFrom before cs = asciiLower cs := by
  induction cs generalizing before with
  | nil => rfl
  | cons c rest inductionHypothesis =>
      obtain ⟨first, others⟩ := List.forall_mem_cons.mp ascii
      have noSigma : c ≠ 'Σ' := by
        rintro rfl
        exact absurd first (by decide)
      rw [lowercaseFrom, if_neg noSigma, lowercaseChar_of_isAscii first, inductionHypothesis others]
      rfl

/-- A text whose lower-case form consists of such letters consists of ASCII characters. -/
theorem ascii_of_lowercaseFrom (cased : ∀ d ∈ lowercaseFrom before cs, IsAsciiCased d) :
    ∀ c ∈ cs, IsAscii c := by
  induction cs generalizing before with
  | nil => simp
  | cons c rest inductionHypothesis =>
      rw [lowercaseFrom] at cased
      obtain ⟨first, others⟩ := List.forall_mem_append.mp cased
      refine List.forall_mem_cons.mpr ⟨?_, inductionHypothesis others⟩
      split at first
      case isTrue =>
        have sigmas : ¬IsAscii 'ς' ∧ ¬IsAscii 'σ' := by decide
        have small := (first _ List.mem_cons_self).1
        split at small
        · exact absurd small sigmas.1
        · exact absurd small sigmas.2
      case isFalse =>
        obtain ⟨d, member⟩ := List.exists_mem_of_ne_nil _ (lowercaseChar_ne_nil c)
        exact isAscii_of_mem_lowercaseChar (first d member) member

theorem isAscii_of_toLower (ascii : IsAscii c.toLower) : IsAscii c := by
  unfold Char.toLower at ascii
  split at ascii
  case isTrue upper =>
    have bound : c.val.toNat ≤ 90 := UInt32.le_iff_toNat_le.mp upper.2
    exact Nat.lt_of_le_of_lt bound (by decide)
  case isFalse => exact ascii

/-!
### Words
-/

theorem asciiLower_of_cased (cased : ∀ d ∈ cs, IsAsciiCased d) : asciiLower cs = cs := by
  have same : cs.map Char.toLower = cs.map id := List.map_congr_left fun d member => (cased d member).2.1
  rw [asciiLower, same, List.map_id]

/-- The two notions of case agree on such a word: the same texts are lower-cased to it, and are it up to the case of
ASCII letters. -/
theorem lowercase_eq_iff_equalIgnoringAsciiCase (cased : ∀ d ∈ word.toList, IsAsciiCased d) :
    lowercase text = word ↔ equalIgnoringAsciiCase text word = true := by
  rw [equalIgnoringAsciiCase, beq_iff_eq, asciiLower_of_cased cased]
  constructor
  · rintro rfl
    rw [lowercase, String.toList_ofList] at cased ⊢
    exact (lowercaseFrom_of_ascii (ascii_of_lowercaseFrom cased)).symm
  · intro same
    have ascii : ∀ c ∈ text.toList, IsAscii c := by
      intro c member
      have small : c.toLower ∈ word.toList := same ▸ List.mem_map_of_mem member
      exact isAscii_of_toLower (cased _ small).1
    rw [lowercase, lowercaseFrom_of_ascii ascii, same, String.ofList_toList]

end DecisionEval.Text
