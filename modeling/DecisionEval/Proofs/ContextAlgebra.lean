/-
Module: DecisionEval.Proofs.ContextAlgebra
Purpose: The algebra of contexts: laying them over one another, adding a variable, collecting pairs and
  serialising are ways to one and the same contexts.
Main exports: Context.ext_resolve, Context.Listed, Context.Laws, Context.laws
-/
import DecisionEval.Proofs.Lookup
import DecisionEval.Proofs.ByteOrder

namespace DecisionEval

/-!
### The last pair of a name is the first one from behind
-/

section LastValue

variable {α : Type} {name : String} {value : α}

theorem lastValue?_eq_findSome? (name : String) (pairs : List (String × α)) :
    lastValue? name pairs = pairs.reverse.findSome? fun pair => if name = pair.1 then some pair.2 else none := by
  induction pairs with
  | nil => rfl
  | cons pair rest inductionHypothesis =>
      rw [lastValue?, inductionHypothesis, List.reverse_cons, List.findSome?_append]
      congr 1
      split <;> simp [*]

theorem lastValue?_eq_some_iff_split {pairs : List (String × α)} :
    lastValue? name pairs = some value ↔
      ∃ earlier later, pairs = earlier ++ (name, value) :: later ∧ ∀ pair ∈ later, pair.1 ≠ name := by
  have foundIff (pair : String × α) :
      (if name = pair.1 then some pair.2 else none) = some value ↔ pair = (name, value) := by
    obtain ⟨key, stored⟩ := pair
    simp [eq_comm]
  have missedIff (pair : String × α) :
      (if name = pair.1 then some pair.2 else none) = none ↔ pair.1 ≠ name := by
    simp [eq_comm]
  rw [lastValue?_eq_findSome?, List.findSome?_eq_some_iff]
  simp only [foundIff, missedIff]
  constructor
  · rintro ⟨behind, _, front, split, rfl, missed⟩
    refine ⟨front.reverse, behind.reverse, ?_, fun pair member => missed pair (List.mem_reverse.mp member)⟩
    rw [← List.reverse_reverse pairs, split]
    simp
  · rintro ⟨earlier, later, rfl, missed⟩
    exact ⟨later.reverse, (name, value), earlier.reverse, by simp, rfl,
      fun pair member => missed pair (List.mem_reverse.mp member)⟩

end LastValue

namespace Context

variable {c d : Context} {name : String}

/-- Contexts are known by the values of their variables. -/
theorem ext_resolve (same : ∀ name, c.resolve name = d.resolve name) : c = d := by
  obtain ⟨⟨entries, ascending⟩⟩ := c
  obtain ⟨⟨others, otherAscending⟩⟩ := d
  obtain rfl : entries = others := Entries.eq_of_find?_eq ascending otherAscending same
  rfl

@[simp] theorem resolve_empty (name : String) : empty.resolve name = none := rfl

/-!
### Contexts over contexts
-/

/-- The first of several contexts that defines a variable gives its value. -/
theorem resolve_composite_eq_some_iff {contexts : List Context} {value : Json} :
    (composite contexts).resolve name = some value ↔
      ∃ earlier c later, contexts = earlier ++ c :: later ∧ c.resolve name = some value ∧
        ∀ other ∈ earlier, other.resolve name = none := by
  rw [resolve_composite, List.findSome?_eq_some_iff]

theorem resolve_composite_eq_none_iff {contexts : List Context} :
    (composite contexts).resolve name = none ↔ ∀ c ∈ contexts, c.resolve name = none := by
  rw [resolve_composite, List.findSome?_eq_none_iff]

/-- Contexts laid over one another are the context that has the first value of every variable. -/
theorem composite_eq {contexts : List Context}
    (same : ∀ name, contexts.findSome? (·.resolve name) = c.resolve name) : composite contexts = c :=
  ext_resolve fun name => (resolve_composite contexts name).trans (same name)

theorem composite_flatten (groups : List (List Context)) :
    composite (groups.map composite) = composite groups.flatten := by
  refine composite_eq fun name => ?_
  rw [resolve_composite]
  induction groups with
  | nil => rfl
  | cons group rest inductionHypothesis =>
      rw [List.flatten_cons, List.findSome?_append, ← inductionHypothesis, ← resolve_composite group,
        List.map_cons, List.findSome?_cons]
      cases (composite group).resolve name <;> rfl

theorem composite_singleton (c : Context) : composite [c] = c := by
  refine composite_eq fun name => ?_
  rw [List.findSome?_cons]
  cases c.resolve name <;> rfl

theorem composite_empty_between (front back : List Context) :
    composite (front ++ empty :: back) = composite (front ++ back) := by
  refine composite_eq fun name => ?_
  rw [resolve_composite, List.findSome?_append, List.findSome?_append, List.findSome?_cons, resolve_empty]

/-- A context defines nothing any more where it stood before. -/
theorem composite_repeated (front middle back : List Context) (c : Context) :
    composite (front ++ c :: (middle ++ c :: back)) = composite (front ++ c :: (middle ++ back)) := by
  refine composite_eq fun name => ?_
  simp only [resolve_composite, List.findSome?_append, List.findSome?_cons]
  cases c.resolve name <;> rfl

/-!
### One variable, and many pairs
-/

theorem resolve_withVariable (c : Context) (key name : String) (value : Json) :
    (c.withVariable key value).resolve name = ((single key value).resolve name).or (c.resolve name) := by
  rw [resolve_single]
  by_cases same : name = key
  · subst same
    rw [if_pos rfl]
    exact Dictionary.get?_insert_self c.defined name value
  · rw [if_neg same]
    exact Dictionary.get?_insert_of_ne c.defined value same

theorem withVariable_eq_composite (c : Context) (name : String) (value : Json) :
    c.withVariable name value = composite [single name value, c] := by
  refine (composite_eq fun other => ?_).symm
  rw [resolve_withVariable, List.findSome?_cons, ← resolve_composite, composite_singleton]
  cases (single name value).resolve other <;> rfl

/-- Collecting keeps the last value of a name, so the last pair comes first when contexts are laid over one
another. -/
theorem ofList_eq_composite (pairs : List (String × Json)) :
    ofList pairs = composite (pairs.reverse.map fun pair => single pair.1 pair.2) := by
  refine (composite_eq fun name => ?_).symm
  rw [resolve_ofList, lastValue?_eq_findSome?, List.findSome?_map]
  simp only [Function.comp_def, resolve_single]

theorem resolve_ofList_eq_some_iff {pairs : List (String × Json)} {value : Json} :
    (ofList pairs).resolve name = some value ↔
      ∃ earlier later, pairs = earlier ++ (name, value) :: later ∧ ∀ pair ∈ later, pair.1 ≠ name := by
  rw [resolve_ofList, lastValue?_eq_some_iff_split]

/-!
### What holds of every context
-/

theorem mem_names_iff : name ∈ c.names ↔ ∃ value, c.resolve name = some value := by
  simp only [resolve_eq_some_iff, names, mem_map_fst_iff]

theorem contains_iff : c.contains name = true ↔ name ∈ c.names := by
  rw [mem_names_iff, contains, Option.isSome_iff_exists]

/-- The names ascend by their bytes. -/
theorem pairwise_names (c : Context) :
    c.names.Pairwise fun name later => Text.utf8Bytes name < Text.utf8Bytes later :=
  (Entries.ascending_iff_keys.mp c.defined.ascending).imp Text.utf8Bytes_lt_utf8Bytes_iff.mpr

/-- The variables of a context give it again, in whatever order they are collected. -/
theorem ofList_of_perm {fields : List (String × Json)} (permuted : fields.Perm c.toList) : ofList fields = c := by
  apply ext_resolve
  intro name
  rw [resolve_ofList]
  exact Dictionary.lastValue?_of_perm permuted name

/-- A context as a list of names and as a JSON object.

* `ascending`: the names come in the order of their bytes, each of them once.
* `counted`: there are as many as the context counts.
* `present`: they are the names that the context says it contains.
* `restored`: the object of the variables is read back as the same context.
* `unordered`: the order in which its fields are read does not matter. -/
structure Listed (c : Context) : Prop where
  ascending : c.names.Pairwise fun name later => Text.utf8Bytes name < Text.utf8Bytes later
  counted : c.names.length = c.size
  present : ∀ name, c.contains name = true ↔ name ∈ c.names
  restored : decode c.toObject = .ok c
  unordered : ∀ fields : List (String × Json), fields.Perm c.toList → decode (.object fields) = .ok c

theorem listed (c : Context) : c.Listed where
  ascending := c.pairwise_names
  counted := List.length_map _
  present _ := contains_iff
  restored := congrArg Except.ok (ofList_of_perm (List.Perm.refl _))
  unordered _ permuted := congrArg Except.ok (ofList_of_perm permuted)

/-!
### The laws
-/

/-- Contexts under `composite`.

* `first`, `undefined`: a variable has its value from the first context that defines it, and none if there is no
  such context.
* `flatten`: contexts of contexts are the contexts in one row.
* `nothing`, `alone`, `unit`: the context without variables is laid over others, or under them, without effect.
* `repeated`, `idempotent`: so is a context that has come before.
* `builder`: a variable is added by laying it over the context.
* `collected`, `latest`: pairs are collected by laying them over one another from the last one on, so that a later
  pair of a name is the one that counts.
* `listed`: a context is told by its names and by its object, however it was built. -/
structure Laws : Prop where
  first : ∀ (contexts : List Context) (name : String) (value : Json),
    (composite contexts).resolve name = some value ↔
      ∃ earlier c later, contexts = earlier ++ c :: later ∧ c.resolve name = some value ∧
        ∀ other ∈ earlier, other.resolve name = none
  undefined : ∀ (contexts : List Context) (name : String),
    (composite contexts).resolve name = none ↔ ∀ c ∈ contexts, c.resolve name = none
  flatten : ∀ groups : List (List Context), composite (groups.map composite) = composite groups.flatten
  nothing : composite [] = empty
  alone : ∀ c, composite [c] = c
  unit : ∀ front back, composite (front ++ empty :: back) = composite (front ++ back)
  repeated : ∀ front c middle back,
    composite (front ++ c :: (middle ++ c :: back)) = composite (front ++ c :: (middle ++ back))
  idempotent : ∀ c, composite [c, c] = c
  builder : ∀ (c : Context) (name : String) (value : Json),
    c.withVariable name value = composite [single name value, c]
  collected : ∀ pairs : List (String × Json),
    ofList pairs = composite (pairs.map fun pair => single pair.1 pair.2).reverse
  latest : ∀ (pairs : List (String × Json)) (name : String) (value : Json),
    (ofList pairs).resolve name = some value ↔
      ∃ earlier later, pairs = earlier ++ (name, value) :: later ∧ ∀ pair ∈ later, pair.1 ≠ name
  listed : ∀ c : Context, c.Listed

/-- Laying over one another, adding and collecting are one algebra, in which the first context and the last pair
    of a name count. -/
theorem laws : Laws where
  first _ _ _ := resolve_composite_eq_some_iff
  undefined _ _ := resolve_composite_eq_none_iff
  flatten := composite_flatten
  nothing := rfl
  alone := composite_singleton
  unit := composite_empty_between
  repeated front c middle back := composite_repeated front middle back c
  idempotent c := (composite_repeated [] [] [] c).trans (composite_singleton c)
  builder := withVariable_eq_composite
  collected pairs := by rw [ofList_eq_composite, List.map_reverse]
  latest _ _ _ := resolve_ofList_eq_some_iff
  listed := listed

end Context

end DecisionEval
