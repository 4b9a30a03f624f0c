/-
Module: DecisionEval.Proofs.BindingsView
Purpose: The two ways to look at bindings, one name at a time and all names in a row, show the same names with
  the same values, whatever has been set and in whatever order the native bindings are listed.
Main exports: Bindings.listed, Bindings.View, Bindings.view_listed, Bindings.insertEach, Bindings.view_insertEach
-/
import DecisionEval.Bindings
import DecisionEval.Proofs.Lookup

namespace DecisionEval.Bindings

/-!
### Listings

Native bindings have no order of their own. A listing takes the order in which they happen to come as an
argument; what follows holds of every order.
-/

/-- The visible names with their values, where the native bindings come in the given order. -/
def listed (b : Bindings) (order : List (String × Json)) : List (String × Json) :=
  (if b.exposed then [(contextName, b.context.toObject)] else [])
    ++ order.filter (fun pair => !b.isContext pair.1)
    ++ b.context.toList.filter (fun pair => !b.isContext pair.1 && !b.native.contains pair.1)

theorem listed_native (b : Bindings) : b.listed b.native.toList = b.toList := rfl

/-- What a list of pairs shows of bindings: every visible name once, with the value that is found under it,
and an exposed context in front. -/
structure View (b : Bindings) (pairs : List (String × Json)) : Prop where
  once : (pairs.map (·.1)).Nodup
  mem_iff : ∀ name value, (name, value) ∈ pairs ↔ b.get? name = some value
  contains_iff : ∀ name, b.contains name = true ↔ name ∈ pairs.map (·.1)
  first : b.exposed = true → pairs.head? = some (contextName, b.context.toObject)

variable {b : Bindings} {order : List (String × Json)} {name : String} {value : Json}

/-- A view has the last pair of each name where the name is found. -/
theorem View.lastValue? {pairs : List (String × Json)} (view : b.View pairs) (name : String) :
    lastValue? name pairs = b.get? name := by
  apply Option.ext
  intro value
  rw [lastValue?_eq_some_iff view.once, view.mem_iff]

/-!
### The three layers

A name is that of the exposed context, or one of the native bindings, or a variable of the context. Each
layer of a listing holds the names of that layer that no layer before it holds.
-/

theorem get?_of_isContext (isContext : b.isContext name = true) :
    b.get? name = some b.context.toObject := by
  rw [get?, if_pos isContext]

theorem get?_of_not_isContext (plain : b.isContext name = false) :
    b.get? name = (b.native.get? name).or (b.context.resolve name) := by
  rw [get?, plain, if_neg Bool.false_ne_true]
  cases b.native.get? name <;> rfl

theorem isContext_iff : b.isContext name = true ↔ b.exposed = true ∧ name = contextName := by
  simp [isContext]

theorem mem_exposed_iff :
    (name, value) ∈ (if b.exposed then [(contextName, b.context.toObject)] else []) ↔
      b.isContext name = true ∧ b.context.toObject = value := by
  cases exposed : b.exposed with
  | false => simp [isContext, exposed]
  | true => simp [isContext, exposed, eq_comm (a := value)]

theorem mem_native_iff (permuted : order.Perm b.native.toList) :
    (name, value) ∈ order.filter (fun pair => !b.isContext pair.1) ↔
      b.isContext name = false ∧ b.native.get? name = some value := by
  simp [permuted.mem_iff, Dictionary.get?_eq_some_iff, and_comm]

theorem mem_inherited_iff :
    (name, value) ∈ b.context.toList.filter
        (fun pair => !b.isContext pair.1 && !b.native.contains pair.1) ↔
      b.isContext name = false ∧ b.native.get? name = none ∧ b.context.resolve name = some value := by
  simp [Dictionary.contains, Context.resolve_eq_some_iff, and_comm, and_left_comm]

theorem mem_listed_iff (permuted : order.Perm b.native.toList) :
    (name, value) ∈ b.listed order ↔ b.get? name = some value := by
  rw [listed, List.mem_append, List.mem_append, mem_exposed_iff, mem_native_iff permuted,
    mem_inherited_iff]
  cases isContext : b.isContext name with
  | true => simp [get?_of_isContext isContext]
  | false => cases native : b.native.get? name <;> simp [get?_of_not_isContext isContext, native]

theorem nodup_listed (permuted : order.Perm b.native.toList) : ((b.listed order).map (·.1)).Nodup := by
  have nativeOnce := Dictionary.nodup_keys_of_perm permuted
  have contextOnce : (b.context.toList.map (·.1)).Nodup := b.context.defined.nodup_keys
  -- No layer holds a name of a layer before it.
  refine nodup_map_fst_append (nodup_map_fst_append ?_ ?_ ?_) ?_ ?_
  · cases b.exposed <;> simp
  · exact nativeOnce.sublist (List.filter_sublist.map _)
  · intro name value other exposed native
    have plain := ((mem_native_iff permuted).mp native).1
    rw [(mem_exposed_iff.mp exposed).1] at plain
    cases plain
  · exact contextOnce.sublist (List.filter_sublist.map _)
  · intro name value other earlier inherited
    obtain ⟨plain, free, -⟩ := mem_inherited_iff.mp inherited
    rcases List.mem_append.mp earlier with exposed | native
    · rw [(mem_exposed_iff.mp exposed).1] at plain
      cases plain
    · rw [((mem_native_iff permuted).mp native).2] at free
      cases free

theorem view_listed (permuted : order.Perm b.native.toList) : b.View (b.listed order) where
  once := nodup_listed permuted
  mem_iff name value := mem_listed_iff permuted
  contains_iff name := by
    simp only [contains, Option.isSome_iff_exists, mem_map_fst_iff, mem_listed_iff permuted]
  first exposed := by simp [listed, exposed]

/-!
### Inserts
-/

/-- Sets native bindings one after the other. The replies are the native values that are replaced. -/
def insertEach (b : Bindings) : List (String × Json) → List (Option Json) × Bindings
  | [] => ([], b)
  | (name, value) :: rest =>
    let (replaced, next) := b.insert name value
    let (replies, last) := next.insertEach rest
    (replaced :: replies, last)

/-- Inserts change the native bindings and nothing else. -/
theorem insertEach_snd (b : Bindings) (inserts : List (String × Json)) :
    (b.insertEach inserts).2 = { b with native := b.native.insertAll inserts } := by
  induction inserts generalizing b with
  | nil => rfl
  | cons pair rest inductionHypothesis => exact inductionHypothesis _

theorem insertEach_fst_append (b : Bindings) (earlier later : List (String × Json)) :
    (b.insertEach (earlier ++ later)).1 =
      (b.insertEach earlier).1 ++ ((b.insertEach earlier).2.insertEach later).1 := by
  induction earlier generalizing b with
  | nil => rfl
  | cons pair rest inductionHypothesis => exact congrArg _ (inductionHypothesis _)

theorem length_insertEach_fst (b : Bindings) (inserts : List (String × Json)) :
    (b.insertEach inserts).1.length = inserts.length := by
  induction inserts generalizing b with
  | nil => rfl
  | cons pair rest inductionHypothesis => exact congrArg _ (inductionHypothesis _)

theorem native_get?_insertEach (b : Bindings) (inserts : List (String × Json)) (name : String) :
    (b.insertEach inserts).2.native.get? name = (lastValue? name inserts).or (b.native.get? name) := by
  rw [insertEach_snd]
  exact Dictionary.get?_insertAll b.native name inserts

/-- The reply to an insert is the native value from right before it. -/
theorem reply_insertEach (b : Bindings) (earlier later : List (String × Json)) (name : String)
    (value : Json) :
    (b.insertEach (earlier ++ (name, value) :: later)).1[earlier.length]? =
      some ((lastValue? name earlier).or (b.native.get? name)) := by
  have passed : (b.insertEach earlier).1.length ≤ earlier.length :=
    Nat.le_of_eq (length_insertEach_fst b earlier)
  rw [insertEach_fst_append, List.getElem?_append_right passed, length_insertEach_fst, Nat.sub_self,
    ← native_get?_insertEach]
  rfl

/-- What is found after inserts: the exposed context under its name, else the value of the last insert, else
the native value, else that of the context. -/
theorem get?_insertEach (b : Bindings) (inserts : List (String × Json)) (name : String) :
    (b.insertEach inserts).2.get? name =
      if b.exposed = true ∧ name = contextName then some b.context.toObject
      else ((lastValue? name inserts).or (b.native.get? name)).or (b.context.resolve name) := by
  have special : (b.insertEach inserts).2.isContext name = true ↔ b.exposed = true ∧ name = contextName := by
    rw [isContext_iff, insertEach_snd]
  have contextEq : (b.insertEach inserts).2.context = b.context := by rw [insertEach_snd]
  split
  case isTrue exposed =>
    rw [get?_of_isContext (special.mpr exposed), contextEq]
  case isFalse plain =>
    rw [get?_of_not_isContext (Bool.eq_false_iff.mpr (mt special.mp plain)), contextEq,
      native_get?_insertEach]

/-- However bindings have been set, and in whatever order the native ones come, a listing shows every
visible name once and with the value that is found under it: that of the exposed context, else the last
native one, else that of the context. Each insert gives the native value that it replaces, and none
changes the context. -/
theorem view_insertEach {start after : Bindings} {inserts order : List (String × Json)}
    {replies : List (Option Json)} (inserted : start.insertEach inserts = (replies, after))
    (permuted : order.Perm after.native.toList) :
    after.View after.toList ∧ after.View (after.listed order) ∧
      (∀ name, after.get? name =
        if start.exposed = true ∧ name = contextName then some start.context.toObject
        else ((lastValue? name inserts).or (start.native.get? name)).or (start.context.resolve name)) ∧
      replies.length = inserts.length ∧
      (∀ earlier name value later, inserts = earlier ++ (name, value) :: later →
        replies[earlier.length]? = some ((lastValue? name earlier).or (start.native.get? name))) ∧
      after.context = start.context ∧ after.exposed = start.exposed := by
  obtain ⟨rfl, rfl⟩ := Prod.mk.inj inserted
  have whole : (start.insertEach inserts).2.View (start.insertEach inserts).2.toList := by
    rw [← listed_native]
    exact view_listed (.refl _)
  have replied : ∀ earlier name value later, inserts = earlier ++ (name, value) :: later →
      (start.insertEach inserts).1[earlier.length]? =
        some ((lastValue? name earlier).or (start.native.get? name)) := by
    rintro earlier name value later rfl
    exact reply_insertEach start earlier later name value
  exact ⟨whole, view_listed permuted, get?_insertEach start inserts, length_insertEach_fst start inserts,
    replied, by rw [insertEach_snd], by rw [insertEach_snd]⟩

/-- An exposed context with a native binding and a variable of its own name, and a variable that is set
twice. -/
def crowded : Bindings where
  native := Dictionary.ofList [("variableContext", .null), ("native", .bool true)]
  context := Context.ofList [("variableContext", .string "inner"), ("both", .null)]
  exposed := true

theorem view_insertEach_crowded :
    ∃ after : Bindings,
      crowded.insertEach [("both", .bool true), ("variableContext", .bool true), ("both", .bool false)] =
          ([none, some .null, some (.bool true)], after) ∧
        after.View [("variableContext", crowded.context.toObject), ("native", .bool true),
          ("both", .bool false)] ∧
        after.get? "variableContext" = some crowded.context.toObject ∧
        after.context = crowded.context := by
  have inserted : crowded.insertEach
      [("both", .bool true), ("variableContext", .bool true), ("both", .bool false)] =
        ([none, some .null, some (.bool true)], ⟨Dictionary.ofList [("both", .bool false),
          ("native", .bool true), ("variableContext", .bool true)], crowded.context, true⟩) := by
    decide +kernel
  obtain ⟨-, view, found, -, -, unchanged, -⟩ := view_insertEach inserted (List.reverse_perm _)
  refine ⟨_, inserted, view, ?_, unchanged⟩
  rw [found, if_pos ⟨rfl, rfl⟩]

end DecisionEval.Bindings
