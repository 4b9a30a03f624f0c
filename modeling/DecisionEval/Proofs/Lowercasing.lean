/-
Module: DecisionEval.Proofs.Lowercasing
Purpose: Lower-casing a text a second time leaves it as it is.
Main exports: Text.IsSettled, Text.isSettled_of_mem_lowercaseFrom, Text.lowercase_lowercase
-/
import DecisionEval.Text.Lowercase

namespace DecisionEval.Text

/-!
### Runs

A lower-case form has no other lower-case form of its own. That is a fact of the table of runs, which is checked
run against run: the forms of a run lie outside of every run, or between the letters of one that takes every
second code point.
-/

namespace CaseRun

variable {run other : CaseRun} {code : Nat}

/-- The code point of the lower-case form. -/
def form (run : CaseRun) (code : Nat) : Nat := ((code : Int) + run.offset).toNat

/-- Whether no form of `run` is a letter of `other`, told by the ends of the two. -/
def avoids (run other : CaseRun) : Bool :=
  (run.form run.last).blt other.first || other.last.blt (run.form run.first) ||
    (other.step.beq 2 && (run.first.beq run.last || run.step.beq 2) && Nat.blt 0 (run.form run.first) &&
      ((run.form run.first + other.first) % 2).beq 1)

theorem covers_eq_true_iff : run.covers code = true ↔
    run.first ≤ code ∧ code ≤ run.last ∧ (code - run.first) % run.step = 0 := by
  simp [covers, and_assoc]

theorem covers_form_of_avoids (avoids : run.avoids other = true) (covered : run.covers code = true) :
    other.covers (run.form code) = false := by
  obtain ⟨above, below, aligned⟩ := covers_eq_true_iff.mp covered
  simp only [CaseRun.avoids, form, Bool.or_eq_true, Bool.and_eq_true, Nat.blt_eq, Nat.beq_eq] at avoids
  rw [Bool.eq_false_iff, ne_eq, covers_eq_true_iff, form]
  obtain (before | behind) | ⟨⟨⟨step, pace⟩, present⟩, odd⟩ := avoids
  · omega
  · omega
  · rw [step]
    rcases pace with single | pace
    · omega
    · rw [pace] at aligned
      omega

end CaseRun

/-- The dotted capital I, in the form of a run. -/
def dottedRun : CaseRun := ⟨0x130, 0x130, 1, 0⟩

theorem avoids_of_mem_lowercaseRuns :
    ∀ run ∈ lowercaseRuns, ∀ other ∈ dottedRun :: lowercaseRuns, run.avoids other = true := by
  have checked : lowercaseRuns.all (fun run => (dottedRun :: lowercaseRuns).all run.avoids) = true := by
    decide +kernel
  simpa only [List.all_eq_true] using checked

/-!
### Settled characters
-/

/-- A character that lower-casing leaves as it is, wherever it stands. -/
def IsSettled (c : Char) : Prop := c ≠ 'Σ' ∧ lowercaseChar c = [c]

instance (c : Char) : Decidable (IsSettled c) := inferInstanceAs (Decidable (_ ∧ _))

variable {c d : Char}

theorem isSettled_of_find?_eq_none (undotted : c ≠ '\u0130')
    (nowhere : lowercaseRuns.find? (·.covers c.toNat) = none) : IsSettled c := by
  constructor
  · rintro rfl
    exact absurd nowhere (by decide +kernel)
  · rw [lowercaseChar, if_neg undotted, nowhere]

/-- A character that no run covers is settled. -/
theorem isSettled_of_covers (uncovered : ∀ run ∈ dottedRun :: lowercaseRuns, run.covers c.toNat = false) :
    IsSettled c := by
  obtain ⟨noDot, uncovered⟩ := List.forall_mem_cons.mp uncovered
  apply isSettled_of_find?_eq_none
  · rintro rfl
    exact absurd noDot (by decide)
  · simpa [List.find?_eq_none] using uncovered

/-- Every code point yields its character, or the character zero if it belongs to none. -/
theorem toNat_ofNat_cases (code : Nat) : (Char.ofNat code).toNat = code ∨ (Char.ofNat code).toNat = 0 := by
  by_cases valid : code.isValidChar
  · rw [Char.ofNat, dif_pos valid]
    exact .inl rfl
  · rw [Char.ofNat, dif_neg valid]
    exact .inr rfl

/-- What a character by itself is lower-cased to is settled. -/
theorem isSettled_of_mem_lowercaseChar (member : d ∈ lowercaseChar c) : IsSettled d := by
  unfold lowercaseChar at member
  split at member
  case isTrue =>
    have settled : IsSettled 'i' ∧ IsSettled '\u0307' := by decide +kernel
    simp only [List.mem_cons, List.not_mem_nil, or_false] at member
    rcases member with rfl | rfl
    · exact settled.1
    · exact settled.2
  case isFalse undotted =>
    split at member
    case h_1 run found =>
      rw [List.mem_singleton.mp member]
      have listed : run ∈ lowercaseRuns := List.mem_of_find?_eq_some found
      have covered : run.covers c.toNat = true := by simpa using List.find?_some found
      apply isSettled_of_covers
      intro other otherListed
      rcases toNat_ofNat_cases (run.form c.toNat) with valid | zero
      · rw [CaseRun.form] at valid
        rw [valid]
        exact CaseRun.covers_form_of_avoids (avoids_of_mem_lowercaseRuns run listed other otherListed) covered
      · have positive : ∀ other ∈ dottedRun :: lowercaseRuns, other.covers 0 = false := by decide +kernel
        rw [CaseRun.form] at zero
        rw [zero]
        exact positive other otherListed
    case h_2 nowhere =>
      rw [List.mem_singleton.mp member]
      exact isSettled_of_find?_eq_none undotted nowhere

/-!
### Texts
-/

theorem isSettled_of_mem_lowercaseFrom {before cs : List Char} (member : d ∈ lowercaseFrom before cs) :
    IsSettled d := by
  induction cs generalizing before with
  | nil => cases member
  | cons c rest inductionHypothesis =>
      rcases List.mem_append.mp member with first | later
      · split at first
        case isTrue =>
          have settled : IsSettled 'ς' ∧ IsSettled 'σ' := by decide +kernel
          rw [List.mem_singleton.mp first]
          split
          · exact settled.1
          · exact settled.2
        case isFalse => exact isSettled_of_mem_lowercaseChar first
      · exact inductionHypothesis later

theorem lowercaseFrom_of_settled {before cs : List Char} (settled : ∀ c ∈ cs, IsSettled c) :
    lowercaseFrom before cs = cs := by
  induction cs generalizing before with
  | nil => rfl
  | cons c rest inductionHypothesis =>
      obtain ⟨⟨noSigma, same⟩, others⟩ := List.forall_mem_cons.mp settled
      rw [lowercaseFrom, if_neg noSigma, same, inductionHypothesis others, List.singleton_append]

/-- Lower-casing a second time changes nothing. -/
theorem lowercase_lowercase (text : String) : lowercase (lowercase text) = lowercase text := by
  rw [lowercase, lowercase, String.toList_ofList]
  exact congrArg String.ofList (lowercaseFrom_of_settled fun _ => isSettled_of_mem_lowercaseFrom)

end DecisionEval.Text
