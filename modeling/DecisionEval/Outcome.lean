/-
Module: DecisionEval.Outcome
Purpose: The three ways in which a computation of this library ends.
Main exports: Outcome, Outcome.bind, Outcome.bindM, Outcome.mapError, Outcome.value?, Outcome.Ensures
-/

namespace DecisionEval

/-- How a computation ended. An `error` is reported to the caller, who may look at its cause. A `fault`
    is an abrupt stop (an integer overflow, a division by zero, a literal that denotes no value): it
    carries nothing and no later step sees it as an error. -/
inductive Outcome (ε α : Type) where
  | ok (value : α)
  | error (cause : ε)
  | fault
deriving Repr, DecidableEq, Inhabited

namespace Outcome

variable {ε δ α β : Type}

/-- Sequencing: an error or a fault of the first step is the outcome of the whole. -/
def bind (first : Outcome ε α) (next : α → Outcome ε β) : Outcome ε β :=
  match first with
  | .ok value => next value
  | .error cause => .error cause
  | .fault => .fault

instance : Monad (Outcome ε) where
  pure := .ok
  bind := bind

/-- Sequencing with a next step that has effects. After an error or a fault there is no next step. -/
def bindM {m : Type → Type} [Monad m] (first : Outcome ε α) (next : α → m (Outcome ε β)) : m (Outcome ε β) :=
  match first with
  | .ok value => next value
  | .error cause => return .error cause
  | .fault => return .fault

/-- Relabels the cause of an error; values and faults pass through. -/
def mapError (relabel : ε → δ) : Outcome ε α → Outcome δ α
  | .ok value => .ok value
  | .error cause => .error (relabel cause)
  | .fault => .fault

/-- The value, where the computation ended with one. -/
def value? : Outcome ε α → Option α
  | .ok value => some value
  | _ => none

theorem value?_eq_some_iff {outcome : Outcome ε α} {value : α} :
    outcome.value? = some value ↔ outcome = .ok value := by
  cases outcome <;> simp [value?]

@[simp] theorem pure_eq (value : α) : (pure value : Outcome ε α) = .ok value := rfl

@[simp] theorem ok_bind (value : α) (next : α → Outcome ε β) :
    (Outcome.ok value >>= next) = next value := rfl

@[simp] theorem error_bind (cause : ε) (next : α → Outcome ε β) :
    (Outcome.error cause >>= next) = .error cause := rfl

@[simp] theorem fault_bind (next : α → Outcome ε β) :
    ((Outcome.fault : Outcome ε α) >>= next) = .fault := rfl

theorem bind_eq_ok_iff {first : Outcome ε α} {next : α → Outcome ε β} {result : β} :
    (first >>= next) = .ok result ↔ ∃ value, first = .ok value ∧ next value = .ok result := by
  cases first <;> simp

theorem bind_eq_error_iff {first : Outcome ε α} {next : α → Outcome ε β} {cause : ε} :
    first.bind next = .error cause ↔
      first = .error cause ∨ ∃ value, first = .ok value ∧ next value = .error cause := by
  cases first <;> simp [bind]

theorem bind_eq_fault_iff {first : Outcome ε α} {next : α → Outcome ε β} :
    first.bind next = .fault ↔ first = .fault ∨ ∃ value, first = .ok value ∧ next value = .fault := by
  cases first <;> simp [bind]

theorem mapError_eq_ok_iff {outcome : Outcome ε α} {relabel : ε → δ} {value : α} :
    outcome.mapError relabel = .ok value ↔ outcome = .ok value := by
  cases outcome <;> simp [mapError]

theorem mapError_eq_error_iff {outcome : Outcome ε α} {relabel : ε → δ} {cause : δ} :
    outcome.mapError relabel = .error cause ↔ ∃ source, outcome = .error source ∧ relabel source = cause := by
  cases outcome <;> simp [mapError]

theorem mapError_bind {relabel : ε → δ} (first : Outcome ε α) (next : α → Outcome ε β) :
    (first >>= next).mapError relabel =
      first.mapError relabel >>= fun value => (next value).mapError relabel := by
  cases first <;> rfl

instance : LawfulMonad (Outcome ε) :=
  LawfulMonad.mk' _ (fun outcome => by cases outcome <;> rfl) (fun _ _ => rfl)
    (fun outcome _ _ => by cases outcome <;> rfl)

/-- Steps for two lists in a row succeed if those for each of them do. -/
theorem mapM_append_eq_ok_iff {step : α → Outcome ε β} {earlier later : List α} {results : List β} :
    (earlier ++ later).mapM step = .ok results ↔
      ∃ front back, earlier.mapM step = .ok front ∧ later.mapM step = .ok back ∧
        results = front ++ back := by
  simp only [List.mapM_append, bind_eq_ok_iff, pure_eq, ok.injEq, exists_and_left,
    eq_comm (a := results)]

/-- Steps for a list are stopped by one of them. -/
theorem exists_fault_of_mapM {step : α → Outcome ε β} {items : List α} (stopped : items.mapM step = .fault) :
    ∃ item ∈ items, step item = .fault := by
  induction items with
  | nil => simp at stopped
  | cons item items inductionHypothesis =>
      rw [List.mapM_cons] at stopped
      rcases bind_eq_fault_iff.mp stopped with first | ⟨value, -, later⟩
      · exact ⟨item, List.mem_cons_self, first⟩
      · rcases bind_eq_fault_iff.mp later with others | ⟨values, -, done⟩
        · obtain ⟨other, member, fault⟩ := inductionHypothesis others
          exact ⟨other, List.mem_cons_of_mem item member, fault⟩
        · cases done

theorem mapError_mapM {relabel : ε → δ} (step : α → Outcome ε β) (items : List α) :
    (items.mapM step).mapError relabel = items.mapM fun item => (step item).mapError relabel := by
  induction items with
  | nil => rfl
  | cons item items inductionHypothesis =>
      simp only [List.mapM_cons, mapError_bind, inductionHypothesis]
      rfl

/-!
### What values satisfy
-/

/-- If the computation ends with a value, the value satisfies `p`. -/
def Ensures (p : α → Prop) (outcome : Outcome ε α) : Prop := ∀ value, outcome = .ok value → p value

section Ensures

variable {p : α → Prop} {q : β → Prop}

@[simp] theorem ensures_ok {value : α} : (ok value : Outcome ε α).Ensures p ↔ p value := by
  simp [Ensures]

@[simp] theorem ensures_error {cause : ε} : (error cause : Outcome ε α).Ensures p := by
  simp [Ensures]

@[simp] theorem ensures_fault : (fault : Outcome ε α).Ensures p := by
  simp [Ensures]

theorem Ensures.bind {first : Outcome ε α} {next : α → Outcome ε β} (earlier : first.Ensures p)
    (later : ∀ value, p value → (next value).Ensures q) : (first >>= next).Ensures q := by
  intro result done
  obtain ⟨value, gives, done⟩ := bind_eq_ok_iff.mp done
  exact later value (earlier value gives) result done

/-- Where the next step does not depend on what the first one gives, nothing need be known of that. -/
theorem ensures_bind_of_forall {first : Outcome ε α} {next : α → Outcome ε β}
    (later : ∀ value, (next value).Ensures q) : (first >>= next).Ensures q :=
  Ensures.bind (p := fun _ => True) (fun _ _ => trivial) fun value _ => later value

theorem Ensures.mapError {outcome : Outcome ε α} (ensures : outcome.Ensures p) (relabel : ε → δ) :
    (outcome.mapError relabel).Ensures p :=
  fun value done => ensures value (mapError_eq_ok_iff.mp done)

theorem ensures_mapM {step : α → Outcome ε β} {items : List α}
    (each : ∀ item ∈ items, (step item).Ensures q) : (items.mapM step).Ensures (∀ value ∈ ·, q value) := by
  induction items with
  | nil => simp
  | cons item items inductionHypothesis =>
      rw [List.mapM_cons]
      refine (each item List.mem_cons_self).bind fun value first => ?_
      refine (inductionHypothesis fun other member => each other (List.mem_cons_of_mem _ member)).bind
        fun values others => ?_
      rw [pure_eq, ensures_ok, List.forall_mem_cons]
      exact ⟨first, others⟩

/-- What a filter keeps are items of its list, besides those that it has kept before. -/
theorem ensures_filterAuxM (test : α → Outcome ε Bool) (items kept : List α) :
    (items.filterAuxM test kept).Ensures (∀ item ∈ ·, item ∈ items ∨ item ∈ kept) := by
  induction items generalizing kept with
  | nil => simp [List.filterAuxM]
  | cons head rest inductionHypothesis =>
      rw [List.filterAuxM]
      refine ensures_bind_of_forall fun holds => ?_
      intro result done item member
      rcases inductionHypothesis _ result done item member with later | earlier
      · exact .inl (List.mem_cons_of_mem _ later)
      · cases holds with
        | false => exact .inr earlier
        | true =>
            rcases List.mem_cons.mp earlier with rfl | earlier
            · exact .inl List.mem_cons_self
            · exact .inr earlier

/-- A filter keeps items of its list. -/
theorem ensures_filterM (test : α → Outcome ε Bool) (items : List α) :
    (items.filterM test).Ensures (∀ item ∈ ·, item ∈ items) := by
  refine (ensures_filterAuxM test items []).bind fun kept members => ?_
  simpa using members

end Ensures

end Outcome

end DecisionEval
