/-
Module: DecisionEval.Proofs.SlotUse
Purpose: What one use of a slot answers, and what it leaves in the slot.
Main exports: Slot.get?_eq_some_iff, Slot.obtained, Slot.filledWith, Slot.getOrInstallM_of_found,
  Slot.getOrInstallM_of_missing, Slot.getOrInstall_of_found, Slot.getOrInstall_of_missing
-/
import DecisionEval.Slot

namespace DecisionEval.Slot

variable {ε α : Type} {slot : Slot α} {language : String} {artifact : α}
  {compile : Unit → Outcome ε α}

@[simp] theorem installed_empty : (empty : Slot α).installed = none := rfl

@[simp] theorem get?_empty : (empty : Slot α).get? language = none := rfl

theorem eq_empty_of_installed (vacant : slot.installed = none) : slot = empty := by
  cases slot
  cases vacant
  rfl

/-- A slot has an artifact for a language exactly if that artifact is installed under that language. -/
theorem get?_eq_some_iff :
    slot.get? language = some artifact ↔ slot.installed = some ⟨language, artifact⟩ := by
  cases installedEq : slot.installed with
  | none => simp [get?, installedEq]
  | some installed =>
      obtain ⟨tag, kept⟩ := installed
      by_cases agree : tag = language
      · simp [get?, installedEq, agree]
      · simp [get?, installedEq, agree]

/-- A slot with an artifact has none for every language but the one of that artifact. -/
theorem get?_eq_none_iff_of_installed {installed : Installed α} (filled : slot.installed = some installed) :
    slot.get? language = none ↔ language ≠ installed.language := by
  simp [get?, filled, eq_comm]

/-!
### What is obtained from a slot
-/

/-- The artifact that a use of a slot comes by: the one that it has for the language, or else the one that
the compilation gives, if it succeeds. -/
def obtained (slot : Slot α) (language : String) (compilation : Outcome ε α) : Option α :=
  (slot.get? language).or compilation.value?

/-- The slot with an artifact in it, if there is one and the slot was empty. -/
def filledWith (slot : Slot α) (language : String) (artifact? : Option α) : Slot α :=
  ⟨slot.installed.or (artifact?.map fun artifact => ⟨language, artifact⟩)⟩

theorem obtained_of_found {compilation : Outcome ε α} (found : slot.get? language = some artifact) :
    slot.obtained language compilation = some artifact := by
  rw [obtained, found, Option.some_or]

theorem obtained_of_missing {compilation : Outcome ε α} (missing : slot.get? language = none) :
    slot.obtained language compilation = compilation.value? := by
  rw [obtained, missing, Option.none_or]

theorem filledWith_of_installed {installed : Installed α} (found : slot.installed = some installed)
    (artifact? : Option α) : slot.filledWith language artifact? = slot := by
  rw [filledWith, found, Option.some_or, ← found]

/-!
### One use of a slot

A use hands out what the slot has for the language, or else it compiles and fills the slot if that is empty.
-/

section Effects

variable {m : Type → Type} [Monad m] {compile : Unit → m (Outcome ε α)}

theorem getOrInstallM_of_found (found : slot.get? language = some artifact) :
    slot.getOrInstallM language compile = pure ⟨.ok artifact, slot, false⟩ := by
  rw [get?_eq_some_iff] at found
  simp [getOrInstallM, found]

theorem getOrInstallM_of_missing (missing : slot.get? language = none) :
    slot.getOrInstallM language compile = (do
      let outcome ← compile ()
      return ⟨outcome, slot.filledWith language outcome.value?, true⟩) := by
  unfold getOrInstallM
  split
  case h_1 installed installedEq =>
    have differs : installed.language ≠ language :=
      ((get?_eq_none_iff_of_installed installedEq).mp missing).symm
    simp only [if_neg differs, filledWith_of_installed installedEq]
  case h_2 vacant =>
    obtain rfl := eq_empty_of_installed vacant
    congr 1
    funext outcome
    cases outcome <;> rfl

end Effects

/-- An artifact for the language is handed out, and nothing is compiled. -/
theorem getOrInstall_of_found (found : slot.get? language = some artifact) :
    slot.getOrInstall language compile = ⟨.ok artifact, slot, false⟩ := by
  rw [getOrInstall, getOrInstallM_of_found found]
  rfl

/-- Without an artifact for the language something is compiled, and an empty slot keeps it. -/
theorem getOrInstall_of_missing (missing : slot.get? language = none) :
    slot.getOrInstall language compile =
      ⟨compile (), slot.filledWith language (compile ()).value?, true⟩ := by
  rw [getOrInstall, getOrInstallM_of_missing missing]
  rfl

/-- A slot with an artifact stays as it is, whether that is handed out or something is compiled. -/
theorem getOrInstall_of_installed {installed : Installed α} (filled : slot.installed = some installed) :
    slot.getOrInstall language compile =
      if installed.language = language then ⟨.ok installed.artifact, slot, false⟩
      else ⟨compile (), slot, true⟩ := by
  split
  case isTrue agree => exact getOrInstall_of_found (get?_eq_some_iff.mpr (agree ▸ filled))
  case isFalse differ =>
    rw [getOrInstall_of_missing ((get?_eq_none_iff_of_installed filled).mpr (Ne.symm differ)),
      filledWith_of_installed filled]

/-- Without an artifact for the language the answer is that of the compilation. -/
theorem getOrInstall_outcome_of_missing (missing : slot.get? language = none) :
    (slot.getOrInstall language compile).outcome = compile () := by
  rw [getOrInstall_of_missing missing]

/-- If what the slot has for a language is what compiling gives, its use cannot be told from compiling. -/
theorem getOrInstall_outcome_of_agrees
    (agrees : ∀ artifact, slot.get? language = some artifact → compile () = .ok artifact) :
    (slot.getOrInstall language compile).outcome = compile () := by
  cases foundEq : slot.get? language with
  | none => exact getOrInstall_outcome_of_missing foundEq
  | some artifact => rw [getOrInstall_of_found foundEq, agrees artifact foundEq]

theorem getOrInstall_slot (slot : Slot α) (language : String) (compile : Unit → Outcome ε α) :
    (slot.getOrInstall language compile).slot =
      slot.filledWith language (slot.obtained language (compile ())) := by
  cases foundEq : slot.get? language with
  | none => rw [getOrInstall_of_missing foundEq, obtained_of_missing foundEq]
  | some found =>
      rw [getOrInstall_of_found foundEq, filledWith_of_installed (get?_eq_some_iff.mp foundEq)]

/-- Only an empty slot is filled, and only with what a compilation for the language gives. -/
theorem getOrInstall_slot_cases (slot : Slot α) (language : String) (compile : Unit → Outcome ε α) :
    (slot.getOrInstall language compile).slot = slot ∨
      slot = empty ∧ ∃ artifact, compile () = .ok artifact ∧
        (slot.getOrInstall language compile).slot = ⟨some ⟨language, artifact⟩⟩ := by
  rw [getOrInstall_slot]
  cases installedEq : slot.installed with
  | some installed => exact Or.inl (filledWith_of_installed installedEq _)
  | none =>
      obtain rfl := eq_empty_of_installed installedEq
      rw [obtained_of_missing get?_empty]
      cases compile () with
      | ok artifact => exact Or.inr ⟨rfl, artifact, rfl, rfl⟩
      | error cause => exact Or.inl rfl
      | fault => exact Or.inl rfl

/-- A use of a slot succeeds exactly with what is obtained from it. -/
theorem getOrInstall_outcome_value? (slot : Slot α) (language : String) (compile : Unit → Outcome ε α) :
    (slot.getOrInstall language compile).outcome.value? = slot.obtained language (compile ()) := by
  cases foundEq : slot.get? language with
  | none => rw [getOrInstall_outcome_of_missing foundEq, obtained_of_missing foundEq]
  | some found => rw [getOrInstall_of_found foundEq, obtained_of_found foundEq, Outcome.value?]

theorem getOrInstall_outcome_eq_ok_iff :
    (slot.getOrInstall language compile).outcome = .ok artifact ↔
      slot.obtained language (compile ()) = some artifact := by
  rw [← getOrInstall_outcome_value?, Outcome.value?_eq_some_iff]

/-- A use of a slot fails only with a compilation that takes place, and as that does. -/
theorem getOrInstall_outcome_eq_error_iff {cause : ε} :
    (slot.getOrInstall language compile).outcome = .error cause ↔
      slot.get? language = none ∧ compile () = .error cause := by
  cases foundEq : slot.get? language with
  | none => simp [getOrInstall_outcome_of_missing foundEq]
  | some found => simp [getOrInstall_of_found foundEq]

theorem getOrInstall_outcome_eq_fault_iff :
    (slot.getOrInstall language compile).outcome = .fault ↔
      slot.get? language = none ∧ compile () = .fault := by
  cases foundEq : slot.get? language with
  | none => simp [getOrInstall_outcome_of_missing foundEq]
  | some found => simp [getOrInstall_of_found foundEq]

end DecisionEval.Slot
