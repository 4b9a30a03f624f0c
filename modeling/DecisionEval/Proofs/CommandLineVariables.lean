/-
Module: DecisionEval.Proofs.CommandLineVariables
Purpose: The variables of a command line: which arguments are none, which context the others make, and what a run
  does with it.
Main exports: CommandLine.Faulty, CommandLine.Binds, CommandLine.Collects, CommandLine.Reordered,
  CommandLine.VariablesInRuns, CommandLine.variables_in_runs
-/
import DecisionEval.CommandLine
import DecisionEval.Proofs.BareText
import DecisionEval.Proofs.ContextAlgebra
import Mathlib.Data.List.TakeDrop
import Mathlib.Data.List.TakeWhile

namespace DecisionEval.CommandLine

variable {argument front raw name language text : String} {value : Json} {cause : VariableError}
variable {assignments others : List String} {pairs : List (String × Json)} {c d : Context}

/-!
### One argument
-/

/-- An argument in two parts, with its first equals sign between them. -/
structure Splits (argument front raw : String) : Prop where
  whole : argument = front ++ "=" ++ raw
  first : '=' ∉ front.toList

theorem splitAtEquals?_eq_some_iff : splitAtEquals? argument = some (front, raw) ↔ Splits argument front raw := by
  constructor
  · intro found
    rw [splitAtEquals?, List.span_eq_takeWhile_dropWhile] at found
    split at found
    case h_1 taken rest parts =>
      cases found
      obtain ⟨rfl, dropped⟩ := Prod.mk.inj parts
      refine ⟨String.toList_injective ?_, fun member => ?_⟩
      · have joined := List.takeWhile_append_dropWhile (p := (· != '=')) (l := argument.toList)
        rw [dropped] at joined
        simpa using joined.symm
      · rw [String.toList_ofList] at member
        simpa using List.mem_takeWhile_imp member
    case h_2 => cases found
  · rintro ⟨rfl, first⟩
    have skipped (c : Char) (member : c ∈ front.toList) : (c != '=') = true := by
      rw [bne_iff_ne]
      rintro rfl
      exact first member
    have parts : (front ++ "=" ++ raw).toList.span (· != '=') = (front.toList, '=' :: raw.toList) := by
      simp [List.span_eq_takeWhile_dropWhile, List.takeWhile_append_of_pos skipped,
        List.dropWhile_append_of_pos skipped]
    rw [splitAtEquals?, parts]
    simp

theorem splitAtEquals?_eq_none_iff : splitAtEquals? argument = none ↔ '=' ∉ argument.toList := by
  constructor
  · intro missed member
    obtain ⟨front, raw, whole, first⟩ := List.eq_append_cons_of_mem member
    have splits : Splits argument (String.ofList front) (String.ofList raw) :=
      ⟨String.toList_injective (by simpa using whole), by simpa using first⟩
    rw [splitAtEquals?_eq_some_iff.mpr splits] at missed
    cases missed
  · intro absent
    rw [Option.eq_none_iff_forall_ne_some]
    rintro ⟨front, raw⟩ found
    obtain ⟨rfl, -⟩ := splitAtEquals?_eq_some_iff.mp found
    simp at absent

/-- What a raw value stands for: what it says as JSON, or itself where it is no JSON. -/
inductive ReadsAs (raw : String) : Json → Prop where
  | json {value : Json} : Json.read? raw = some value → ReadsAs raw value
  | verbatim : Json.read? raw = none → ReadsAs raw (.string raw)

theorem readValue_eq_iff : readValue raw = value ↔ ReadsAs raw value := by
  constructor
  · rintro rfl
    unfold readValue
    cases read : Json.read? raw with
    | none => exact .verbatim read
    | some value => exact .json read
  · rintro (read | read) <;> simp [readValue, read]

/-- An argument that is no variable, and why: it has no equals sign, or nothing but white space in front of the
    first one. -/
inductive Faulty : String → VariableError → Prop where
  | unassigned {argument : String} : '=' ∉ argument.toList → Faulty argument (.noValue argument)
  | unnamed {argument front raw : String} :
      Splits argument front raw → Text.isBlank front = true → Faulty argument (.emptyName argument)

/-- The variable that an argument binds: its trimmed name, and what is written behind the first equals sign. -/
inductive Binds : String → String → Json → Prop where
  | splits {argument front raw : String} {value : Json} :
      Splits argument front raw → Text.isBlank front = false → ReadsAs raw value →
        Binds argument (Text.trim front) value

theorem readVariable_eq_error_iff : readVariable argument = .error cause ↔ Faulty argument cause := by
  unfold readVariable
  constructor
  · intro failed
    split at failed
    case h_1 missed =>
      cases failed
      exact .unassigned (splitAtEquals?_eq_none_iff.mp missed)
    case h_2 front raw found =>
      split at failed
      case isTrue blank =>
        cases failed
        exact .unnamed (splitAtEquals?_eq_some_iff.mp found) blank
      case isFalse => cases failed
  · rintro (absent | ⟨splits, blank⟩)
    · rw [splitAtEquals?_eq_none_iff.mpr absent]
    · simp [splitAtEquals?_eq_some_iff.mpr splits, blank]

theorem readVariable_eq_ok_iff : readVariable argument = .ok (name, value) ↔ Binds argument name value := by
  unfold readVariable
  constructor
  · intro read
    split at read
    case h_1 => cases read
    case h_2 front raw found =>
      split at read
      case isTrue => cases read
      case isFalse named =>
        cases read
        exact .splits (splitAtEquals?_eq_some_iff.mp found) (by simpa using named) (readValue_eq_iff.mp rfl)
  · rintro ⟨splits, named, reads⟩
    simp [splitAtEquals?_eq_some_iff.mpr splits, named, readValue_eq_iff.mpr reads]

example : readVariable " a =b=1" = .ok ("a", .string "b=1") := by cbv

/-- What is said about an argument starts with the argument. -/
theorem Faulty.names (faulty : Faulty argument cause) :
    ∃ complaint, cause.message = "variable '" ++ argument ++ "'" ++ complaint := by
  cases faulty with
  | unassigned => exact ⟨" must look like name=value", by simp [VariableError.message, String.append_assoc]⟩
  | unnamed => exact ⟨" has an empty name", by simp [VariableError.message, String.append_assoc]⟩

/-!
### All arguments
-/

section Except

variable {α β ε : Type} {step : α → Except ε β}

/-- Steps for a list succeed if each of them does. -/
theorem mapM_eq_ok_iff {items : List α} {results : List β} :
    items.mapM step = .ok results ↔ items.map step = results.map .ok := by
  induction items generalizing results with
  | nil => cases results <;> simp [pure, Except.pure]
  | cons item items inductionHypothesis =>
      rw [List.mapM_cons, List.map_cons]
      cases step item with
      | error cause => cases results <;> simp [bind, Except.bind]
      | ok result =>
          cases results with
          | nil => cases items.mapM step <;> simp [bind, Except.bind, pure, Except.pure]
          | cons first results =>
              rw [List.map_cons, List.cons.injEq, ← inductionHypothesis]
              cases items.mapM step <;> simp [bind, Except.bind, pure, Except.pure]

/-- Steps for a list fail with the first of them that fails. -/
theorem mapM_of_first_error {earlier later : List α} {item : α} {results : List β} {cause : ε}
    (succeed : earlier.mapM step = .ok results) (fails : step item = .error cause) :
    (earlier ++ item :: later).mapM step = .error cause := by
  rw [List.mapM_append, succeed, List.mapM_cons, fails]
  rfl

theorem mapM_ok_or_first_error (step : α → Except ε β) (items : List α) :
    (∃ results, items.mapM step = .ok results) ∨
      ∃ earlier results item later cause, items = earlier ++ item :: later ∧
        earlier.mapM step = .ok results ∧ step item = .error cause := by
  induction items with
  | nil => exact .inl ⟨[], rfl⟩
  | cons item items inductionHypothesis =>
      cases taken : step item with
      | error cause => exact .inr ⟨[], [], item, items, cause, rfl, rfl, taken⟩
      | ok result =>
          have prefixed {items : List α} {results : List β} (succeed : items.mapM step = .ok results) :
              (item :: items).mapM step = .ok (result :: results) := by
            rw [List.mapM_cons, taken, succeed]
            rfl
          rcases inductionHypothesis with
            ⟨results, succeed⟩ | ⟨earlier, results, other, later, cause, rfl, succeed, fails⟩
          · exact .inl ⟨result :: results, prefixed succeed⟩
          · exact .inr ⟨item :: earlier, result :: results, other, later, cause, rfl, prefixed succeed, fails⟩

end Except

/-- Arguments that are all variables. -/
def Faultless (assignments : List String) : Prop := ∀ argument ∈ assignments, ∀ cause, ¬Faulty argument cause

theorem faultless_of_read (read : assignments.mapM readVariable = .ok pairs) : Faultless assignments := by
  intro argument member cause faulty
  have results := mapM_eq_ok_iff.mp read
  have result : readVariable argument ∈ assignments.map readVariable := List.mem_map_of_mem member
  rw [results, readVariable_eq_error_iff.mpr faulty] at result
  simp at result

theorem Faultless.read (faultless : Faultless assignments) :
    ∃ pairs, assignments.mapM readVariable = .ok pairs := by
  rcases mapM_ok_or_first_error readVariable assignments with
    read | ⟨earlier, _, argument, later, cause, rfl, -, fails⟩
  · exact read
  · exact absurd (readVariable_eq_error_iff.mp fails) (faultless argument (by simp) cause)

/-- A list of results is split at a result where its items are split. -/
theorem exists_split_map_iff {α β : Type} (f : α → β) (result : β) (behind : β → Prop) (items : List α) :
    (∃ front back, items.map f = front ++ result :: back ∧ ∀ other ∈ back, behind other) ↔
      ∃ front item back, items = front ++ item :: back ∧ f item = result ∧ ∀ other ∈ back, behind (f other) := by
  constructor
  · rintro ⟨front, back, split, others⟩
    obtain ⟨front, rest, rfl, rfl, cons⟩ := List.map_eq_append_iff.mp split
    obtain ⟨item, back, rfl, same, rfl⟩ := List.map_eq_cons_iff.mp cons
    exact ⟨front, item, back, rfl, same, fun other member => others _ (List.mem_map_of_mem member)⟩
  · rintro ⟨front, item, back, rfl, rfl, others⟩
    exact ⟨front.map f, back.map f, by simp, by simpa using others⟩

/-- The context that arguments make: every name has the value of the last argument that binds it. -/
def Collects (assignments : List String) (c : Context) : Prop :=
  ∀ name value, c.resolve name = some value ↔
    ∃ earlier argument later, assignments = earlier ++ argument :: later ∧ Binds argument name value ∧
      ∀ other ∈ later, ∀ overriding, ¬Binds other name overriding

theorem Collects.unique (collects : Collects assignments c) (other : Collects assignments d) : c = d :=
  Context.ext_resolve fun name => Option.ext fun value => (collects name value).trans (other name value).symm

theorem collects_ofList (read : assignments.mapM readVariable = .ok pairs) :
    Collects assignments (Context.ofList pairs) := by
  intro name value
  -- The last pair of the name and the last argument that binds it are the same result of reading.
  have inPairs := exists_split_map_iff Except.ok (.ok (name, value))
    (fun other : Except VariableError _ => ∀ overriding, other ≠ .ok (name, overriding)) pairs
  have inArguments := exists_split_map_iff readVariable (.ok (name, value))
    (fun other => ∀ overriding, other ≠ .ok (name, overriding)) assignments
  rw [mapM_eq_ok_iff.mp read, inPairs] at inArguments
  simp only [Except.ok.injEq, ne_eq, readVariable_eq_ok_iff] at inArguments
  rw [Context.resolve_ofList_eq_some_iff, ← inArguments]
  grind

/-!
### Arguments in another order
-/

/-- The trimmed name in front of the first equals sign. -/
def trimmedName? (argument : String) : Option String :=
  (splitAtEquals? argument).map fun parts => Text.trim parts.1

/-- The same arguments in an order in which those of one trimmed name follow one another as before. -/
structure Reordered (assignments others : List String) : Prop where
  permuted : others.Perm assignments
  kept : ∀ name, others.filter (trimmedName? · == some name) = assignments.filter (trimmedName? · == some name)

theorem Binds.trimmedName? (binds : Binds argument name value) :
    CommandLine.trimmedName? argument = some name := by
  obtain ⟨splits, -, -⟩ := binds
  rw [CommandLine.trimmedName?, splitAtEquals?_eq_some_iff.mpr splits, Option.map_some]

theorem Reordered.faultless (reordered : Reordered assignments others) (faultless : Faultless assignments) :
    Faultless others := fun argument member => faultless argument (reordered.permuted.mem_iff.mp member)

/-- The arguments of one name are read as the variables of that name. -/
theorem mapM_readVariable_filter (read : assignments.mapM readVariable = .ok pairs) (name : String) :
    (assignments.filter (trimmedName? · == some name)).mapM readVariable =
      .ok (pairs.filter (·.1 == name)) := by
  have results := mapM_eq_ok_iff.mp read
  -- The name in front of the equals sign is the name of the variable that is read, as every argument is one.
  have chosen : assignments.filter (trimmedName? · == some name) =
      assignments.filter ((·.toOption.map Prod.fst == some name) ∘ readVariable) := by
    refine List.filter_congr fun argument member => ?_
    have result : readVariable argument ∈ assignments.map readVariable := List.mem_map_of_mem member
    rw [results] at result
    obtain ⟨⟨bound, value⟩, -, read⟩ := List.mem_map.mp result
    rw [Function.comp_apply, ← read, (readVariable_eq_ok_iff.mp read.symm).trimmedName?]
    rfl
  rw [mapM_eq_ok_iff, chosen, ← List.filter_map, results, List.filter_map]
  congr 1

/-- The order of the names does not show in the context. -/
theorem Reordered.ofList_eq (reordered : Reordered assignments others) {otherPairs : List (String × Json)}
    (read : assignments.mapM readVariable = .ok pairs) (otherRead : others.mapM readVariable = .ok otherPairs) :
    Context.ofList otherPairs = Context.ofList pairs := by
  apply Context.ext_resolve
  intro name
  have filtered := mapM_readVariable_filter otherRead name
  rw [reordered.kept, mapM_readVariable_filter read name] at filtered
  rw [Context.resolve_ofList, Context.resolve_ofList, ← lastValue?_filter name pairs, Except.ok.inj filtered,
    lastValue?_filter]

/-!
### Runs
-/

/-- A run that ends with an argument that is no variable, whatever evaluates, and before anything does. -/
structure Refuses (language text : String) (assignments : List String) (cause : VariableError) : Prop where
  outcome : ∀ environment serve,
    run (language :: text :: assignments) environment serve = .error (.badVariable cause)
  unevaluated : ∀ {m : Type → Type} [Monad m]
    (evaluate : String → Expression → Context → m (Outcome EvaluationError (Option Json))),
    runWith evaluate (language :: text :: assignments) = pure (.error (.badVariable cause))

/-- A run that ends with the outcome of one evaluation of the text in the given context, by the evaluator that the
environment configures. -/
structure EvaluatesIn (c : Context) (language text : String) (assignments : List String) : Prop where
  outcome : ∀ environment serve,
    run (language :: text :: assignments) environment serve =
      ((Engine.ofSettings serve (Settings.ofEnvironment environment)).evaluator.evaluateIn Registry.withDefaults
        language (Expression.ofText text) c).outcome.mapError (.evaluation language text)
  once : ∀ {m : Type → Type} [Monad m]
    (evaluate : String → Expression → Context → m (Outcome EvaluationError (Option Json))),
    runWith evaluate (language :: text :: assignments) = do
      let outcome ← evaluate language (Expression.ofText text) c
      return outcome.mapError (.evaluation language text)

theorem refuses_of_read (read : assignments.mapM readVariable = .error cause) :
    Refuses language text assignments cause where
  outcome _ _ := by
    rw [run, runWith, read]
    rfl
  unevaluated _ := by rw [runWith, read]

theorem evaluatesIn_of_read (read : assignments.mapM readVariable = .ok pairs) :
    EvaluatesIn (Context.ofList pairs) language text assignments where
  outcome _ _ := by
    rw [run, runWith, read]
    rfl
  once _ := by rw [runWith, read]

/-- Where the text is interpolated, without delimiters and a body, the built-in formula engine decides how the run ends,
whatever the environment. -/
theorem EvaluatesIn.run_of_bare (evaluates : EvaluatesIn c LanguageClass.interpolatedName text assignments)
    (present : (Expression.ofText text).text? = some text) (bare : isDelimited text = false)
    (grammatical : Template.Body text.toList) (environment : String → Option String)
    (serve : String → ResourceLookup) :
    run (LanguageClass.interpolatedName :: text :: assignments) environment serve =
      (Evaluator.present ((BuiltIn.formulaEngine.evaluate (Text.trim text) c).mapError
        (.failure text LanguageClass.interpolatedName))).mapError
          (.evaluation LanguageClass.interpolatedName text) := by
  have parser : (Engine.ofSettings serve (Settings.ofEnvironment environment)).evaluator.textProvider =
      Cel.Program.runtime.textProvider := rfl
  rw [evaluates.outcome, Cel.Runtime.outcome_of_bare parser rfl .refl present bare grammatical]
  rfl

/-- The first argument that is no variable ends the run. -/
theorem exists_refuses (faulty : ¬Faultless assignments) (language text : String) :
    ∃ earlier argument later cause, assignments = earlier ++ argument :: later ∧ Faultless earlier ∧
      Faulty argument cause ∧ Refuses language text assignments cause := by
  rcases mapM_ok_or_first_error readVariable assignments with
    ⟨pairs, read⟩ | ⟨earlier, pairs, argument, later, cause, rfl, read, fails⟩
  · exact absurd (faultless_of_read read) faulty
  · exact ⟨earlier, argument, later, cause, rfl, faultless_of_read read, readVariable_eq_error_iff.mp fails,
      refuses_of_read (mapM_of_first_error read fails)⟩

theorem Reordered.run_eq (reordered : Reordered assignments others) (faultless : Faultless assignments)
    (environment : String → Option String) (serve : String → ResourceLookup) :
    run (language :: text :: others) environment serve = run (language :: text :: assignments) environment serve := by
  obtain ⟨pairs, read⟩ := faultless.read
  obtain ⟨otherPairs, otherRead⟩ := (reordered.faultless faultless).read
  rw [(evaluatesIn_of_read read).outcome, (evaluatesIn_of_read otherRead).outcome,
    reordered.ofList_eq read otherRead]

/-- A name that can be written in front of an equals sign as it is. -/
structure PlainName (name : String) : Prop where
  named : Text.isBlank name = false
  trimmed : Text.trim name = name
  undivided : '=' ∉ name.toList

/-- The argument that passes a variable: its name and the JSON text of its value. -/
def assignment (pair : String × Json) : String := pair.1 ++ "=" ++ pair.2.write

theorem PlainName.readVariable_assignment (plain : PlainName name) (stable : Json.read? value.write = some value) :
    readVariable (assignment (name, value)) = .ok (name, value) := by
  have binds : Binds (assignment (name, value)) (Text.trim name) value :=
    .splits ⟨rfl, plain.undivided⟩ plain.named (.json stable)
  rwa [plain.trimmed, ← readVariable_eq_ok_iff] at binds

/-- Variables that are passed in any order make the context that they are from. -/
theorem evaluatesIn_of_perm (permuted : pairs.Perm c.toList)
    (plain : ∀ name value, (name, value) ∈ pairs → PlainName name ∧ Json.read? value.write = some value) :
    EvaluatesIn c language text (pairs.map assignment) := by
  have read : (pairs.map assignment).mapM readVariable = .ok pairs := by
    rw [mapM_eq_ok_iff, List.map_map]
    exact List.map_congr_left fun (name, value) member =>
      (plain name value member).1.readVariable_assignment (plain name value member).2
  rw [← Context.ofList_of_perm permuted]
  exact evaluatesIn_of_read read

/-- What the variables are to a run.

* `refused`: if an argument is no variable, the first such argument ends the run, whose message starts with it, and
  nothing is evaluated.
* `evaluated`: otherwise there is one context in which every name has the value of the last argument that binds
  it, and the run is one evaluation in this context.
* `reordered`: the order of arguments with different names does not matter.
* `passed`: a context whose names can be written in front of an equals sign is passed by the JSON texts of its
  values, in any order, as far as these are read back. -/
structure VariablesInRuns (language text : String) : Prop where
  refused : ∀ assignments : List String, (∃ argument ∈ assignments, ∃ cause, Faulty argument cause) →
    ∃ earlier argument later cause complaint, assignments = earlier ++ argument :: later ∧
      (∀ other ∈ earlier, ∀ cause, ¬Faulty other cause) ∧ Faulty argument cause ∧
      cause.message = "variable '" ++ argument ++ "'" ++ complaint ∧ Refuses language text assignments cause
  evaluated : ∀ assignments : List String, (∀ argument ∈ assignments, ∀ cause, ¬Faulty argument cause) →
    ∃ c, Collects assignments c ∧ (∀ d, Collects assignments d → d = c) ∧ EvaluatesIn c language text assignments
  reordered : ∀ assignments others : List String, (∀ argument ∈ assignments, ∀ cause, ¬Faulty argument cause) →
    Reordered assignments others → ∀ environment serve,
      run (language :: text :: others) environment serve = run (language :: text :: assignments) environment serve
  passed : ∀ (c : Context) (pairs : List (String × Json)), pairs.Perm c.toList →
    (∀ name value, (name, value) ∈ pairs → PlainName name ∧ Json.read? value.write = some value) →
      EvaluatesIn c language text (pairs.map assignment)

/-- The variables of a command line make one context, in which the last argument of a name counts, or none. -/
theorem variables_in_runs (language text : String) : VariablesInRuns language text where
  refused assignments faulty := by
    have blamed : ¬Faultless assignments := by
      obtain ⟨argument, member, cause, faulty⟩ := faulty
      exact fun faultless => faultless argument member cause faulty
    obtain ⟨earlier, argument, later, cause, split, first, faulty, refuses⟩ := exists_refuses blamed language text
    obtain ⟨complaint, names⟩ := faulty.names
    exact ⟨earlier, argument, later, cause, complaint, split, first, faulty, names, refuses⟩
  evaluated assignments faultless := by
    obtain ⟨pairs, read⟩ := Faultless.read faultless
    have collects := collects_ofList read
    exact ⟨Context.ofList pairs, collects, fun _ other => other.unique collects, evaluatesIn_of_read read⟩
  reordered _ _ faultless reordered := reordered.run_eq faultless
  passed _ _ permuted plain := evaluatesIn_of_perm permuted plain

/-- Two names that are the same once they are trimmed, and a variable passed as its JSON text. -/
theorem variables_in_runs_collision :
    let assignments := [" a=true", "b=false", "a =x=1"]
    let others := ["b=false", " a=true", "a =x=1"]
    EvaluatesIn (Context.ofList [("b", .bool false), ("a", .string "x=1")]) "juel" "a" assignments ∧
      EvaluatesIn (Context.single "a" (.bool true)) "juel" "a" ["a=true"] ∧
      ∀ environment serve,
        run ("juel" :: "a" :: assignments) environment serve = .ok (some (.string "x=1")) ∧
          run ("juel" :: "a" :: others) environment serve = .ok (some (.string "x=1")) ∧
          run ["juel", "a", "a=true"] environment serve = .ok (some (.bool true)) := by
  intro assignments others
  have runs := variables_in_runs "juel" "a"
  have first : Binds " a=true" (Text.trim " a") (.bool true) :=
    .splits (⟨rfl, by decide⟩ : Splits _ " a" "true") (by decide) (.json rfl)
  have second : Binds "b=false" (Text.trim "b") (.bool false) :=
    .splits (⟨rfl, by decide⟩ : Splits _ "b" "false") (by decide) (.json rfl)
  have third : Binds "a =x=1" (Text.trim "a ") (.string "x=1") :=
    .splits (⟨rfl, by decide⟩ : Splits _ "a " "x=1") (by decide) (.verbatim rfl)
  have names : Text.trim " a" = "a" ∧ Text.trim "b" = "b" ∧ Text.trim "a " = "a" := by decide
  rw [names.1] at first
  rw [names.2.1] at second
  rw [names.2.2] at third
  have read : assignments.mapM readVariable =
      .ok [("a", .bool true), ("b", .bool false), ("a", .string "x=1")] := by
    rw [mapM_eq_ok_iff]
    simp [assignments, readVariable_eq_ok_iff.mpr first, readVariable_eq_ok_iff.mpr second,
      readVariable_eq_ok_iff.mpr third]
  have faultless := faultless_of_read read
  have reordered : Reordered assignments others := by
    refine ⟨by decide, fun name => ?_⟩
    by_cases same : "a" = name
    · subst same
      decide
    · simp [others, assignments, List.filter_cons, first.trimmedName?, second.trimmedName?, third.trimmedName?, same]
  have collected : EvaluatesIn (Context.ofList [("b", .bool false), ("a", .string "x=1")]) "juel" "a" assignments := by
    obtain ⟨c, collects, unique, evaluates⟩ := runs.evaluated assignments faultless
    have same : Context.ofList [("b", .bool false), ("a", .string "x=1")] = c := by
      rw [← unique _ (collects_ofList read)]
      decide
    exact same ▸ evaluates
  have passed : EvaluatesIn (Context.single "a" (.bool true)) "juel" "a" ["a=true"] := by
    refine runs.passed _ [("a", .bool true)] (.refl _) ?_
    rintro name value member
    obtain ⟨rfl, rfl⟩ : name = "a" ∧ value = .bool true := by simpa using member
    exact ⟨⟨by decide, by decide, by decide⟩, rfl⟩
  have answers {c : Context} {arguments : List String} {value : Json}
      (evaluates : EvaluatesIn c "juel" "a" arguments)
      (found : (BuiltIn.formulaEngine.evaluate "a" c).value? = some value)
      (environment : String → Option String) (serve : String → ResourceLookup) :
      run ("juel" :: "a" :: arguments) environment serve = .ok (some value) := by
    have ends := evaluates.run_of_bare (by decide) (by decide) (by decide) environment serve
    have trimmed : Text.trim "a" = "a" := by decide
    rw [trimmed, Outcome.value?_eq_some_iff.mp found] at ends
    exact ends
  have found : (BuiltIn.formulaEngine.evaluate "a"
      (Context.ofList [("b", .bool false), ("a", .string "x=1")])).value? = some (.string "x=1") := by
    decide +kernel
  have alone : (BuiltIn.formulaEngine.evaluate "a" (Context.single "a" (.bool true))).value? =
      some (.bool true) := by
    decide +kernel
  refine ⟨collected, passed, fun environment serve => ⟨answers collected found environment serve, ?_,
    answers passed alone environment serve⟩⟩
  rw [runs.reordered assignments others faultless reordered]
  exact answers collected found environment serve

end DecisionEval.CommandLine
