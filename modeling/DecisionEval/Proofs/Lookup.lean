/-
Module: DecisionEval.Proofs.Lookup
Purpose: What is found under a name: in entries that ascend, among pairs that are stored one after the
  other, and in contexts that are laid over one another.
Main exports: lastValue?, Entries.find?_insertAll, Entries.find?_eq_some_iff, Entries.ofList_congr,
  Dictionary.get?_eq_some_iff, Context.resolve_composite
-/
import DecisionEval.Context
import Mathlib.Data.List.Nodup

namespace DecisionEval

variable {α : Type} {name : String} {value : α}

/-!
### The last pair of a name

Pairs that are stored one after the other leave the value of the last pair of each name. The order in which
the pairs of different names come does not show.
-/

/-- The value of the last pair of a name. -/
def lastValue? (name : String) : List (String × α) → Option α
  | [] => none
  | (key, value) :: rest => (lastValue? name rest).or (if name = key then some value else none)

section LastValue

variable {pairs : List (String × α)}

theorem mem_map_fst_iff : name ∈ pairs.map (·.1) ↔ ∃ value, (name, value) ∈ pairs := by simp

/-- Names that are once in two lists are once in both in a row, if no name is in the two of them. -/
theorem nodup_map_fst_append {front back : List (String × α)} (frontOnce : (front.map (·.1)).Nodup)
    (backOnce : (back.map (·.1)).Nodup)
    (apart : ∀ name value other, (name, value) ∈ front → (name, other) ∉ back) :
    ((front ++ back).map (·.1)).Nodup := by
  rw [List.map_append]
  refine List.nodup_append.mpr ⟨frontOnce, backOnce, ?_⟩
  rintro name inFront other inBack rfl
  obtain ⟨value, inFront⟩ := mem_map_fst_iff.mp inFront
  obtain ⟨other, inBack⟩ := mem_map_fst_iff.mp inBack
  exact apart name value other inFront inBack

theorem lastValue?_eq_none_iff : lastValue? name pairs = none ↔ name ∉ pairs.map (·.1) := by
  induction pairs with
  | nil => simp [lastValue?]
  | cons pair rest inductionHypothesis =>
      simp [lastValue?, inductionHypothesis, and_comm]

theorem lastValue?_eq_some_iff (distinct : (pairs.map (·.1)).Nodup) :
    lastValue? name pairs = some value ↔ (name, value) ∈ pairs := by
  induction pairs with
  | nil => simp [lastValue?]
  | cons pair rest inductionHypothesis =>
      obtain ⟨key, stored⟩ := pair
      obtain ⟨fresh, distinct⟩ := List.nodup_cons.mp distinct
      by_cases same : name = key
      · subst same
        have absent : ∀ other, (name, other) ∉ rest := fun other member =>
          fresh (mem_map_fst_iff.mpr ⟨other, member⟩)
        simp [lastValue?, lastValue?_eq_none_iff.mpr fresh, absent, eq_comm]
      · simp [lastValue?, same, inductionHypothesis distinct]

theorem lastValue?_map {β : Type} (f : α → β) :
    lastValue? name (pairs.map fun (name, value) => (name, f value)) = (lastValue? name pairs).map f := by
  induction pairs with
  | nil => rfl
  | cons pair rest inductionHypothesis =>
      obtain ⟨key, stored⟩ := pair
      rw [List.map_cons, lastValue?, lastValue?, inductionHypothesis, Option.map_or]
      split <;> rfl

theorem lastValue?_filter (name : String) (pairs : List (String × α)) :
    lastValue? name (pairs.filter (·.1 == name)) = lastValue? name pairs := by
  induction pairs with
  | nil => rfl
  | cons pair rest inductionHypothesis =>
      by_cases same : pair.1 = name
      · rw [List.filter_cons_of_pos (by simpa using same), lastValue?, lastValue?, inductionHypothesis]
      · rw [List.filter_cons_of_neg (by simpa using same), inductionHypothesis, lastValue?, if_neg (Ne.symm same),
          Option.or_none]

end LastValue

/-!
### Entries
-/

namespace Entries

variable {entries others : Entries String α} {pairs : List (String × α)}

theorem nodup_keys (ascending : Ascending entries) : (entries.map (·.1)).Nodup := by
  refine (ascending_iff_keys.mp ascending).imp ?_
  rintro earlier later below rfl
  exact String.lt_irrefl _ below

/-- Storing pairs overlays the entries with the last pair of each name. -/
theorem find?_insertAll (name : String) (entries : Entries String α) (pairs : List (String × α)) :
    find? name (insertAll entries pairs) = (lastValue? name pairs).or (find? name entries) := by
  induction pairs generalizing entries with
  | nil => rfl
  | cons pair rest inductionHypothesis =>
      obtain ⟨key, stored⟩ := pair
      change find? name (insertAll (insert key stored entries) rest) = _
      rw [inductionHypothesis, lastValue?, Option.or_assoc]
      by_cases same : name = key
      · subst same
        rw [find?_insert_self, if_pos rfl, Option.some_or]
      · rw [find?_insert_of_ne stored entries same, if_neg same, Option.none_or]

theorem find?_ofList (name : String) (pairs : List (String × α)) :
    find? name (ofList pairs) = lastValue? name pairs := by
  rw [ofList, find?_insertAll, find?, Option.or_none]

theorem find?_eq_some_iff (ascending : Ascending entries) :
    find? name entries = some value ↔ (name, value) ∈ entries := by
  have collected := find?_ofList name entries
  rw [ofList_of_ascending ascending] at collected
  rw [collected, lastValue?_eq_some_iff (nodup_keys ascending)]

theorem find?_erase_of_ne {key other : String} (entries : Entries String α) (distinct : other ≠ key) :
    find? other (erase key entries) = find? other entries := by
  induction entries with
  | nil => rfl
  | cons entry rest inductionHypothesis =>
      obtain ⟨first, stored⟩ := entry
      rw [erase]
      split
      case isTrue same => rw [find?, if_neg (same ▸ distinct)]
      case isFalse => rw [find?, find?, inductionHypothesis]

/-- Nothing is left under a key that is once among the keys. -/
theorem find?_erase_self (key : String) (ascending : Ascending entries) :
    find? key (erase key entries) = none := by
  induction entries with
  | nil => rfl
  | cons entry rest inductionHypothesis =>
      obtain ⟨first, stored⟩ := entry
      obtain ⟨above, later⟩ := List.pairwise_cons.mp ascending
      rw [erase]
      split
      case isTrue same =>
        rw [Option.eq_none_iff_forall_ne_some]
        intro value found
        have behind := above (key, value) ((find?_eq_some_iff later).mp found)
        exact String.lt_irrefl key (same ▸ behind)
      case isFalse distinct => rw [find?, if_neg distinct, inductionHypothesis later]

/-- Entries are known by what is found in them. -/
theorem eq_of_find?_eq (ascending : Ascending entries) (otherAscending : Ascending others)
    (same : ∀ name, find? name entries = find? name others) : entries = others := by
  have distinct : entries.Nodup := List.Nodup.of_map (·.1) (nodup_keys ascending)
  have otherDistinct : others.Nodup := List.Nodup.of_map (·.1) (nodup_keys otherAscending)
  have members : entries.Perm others := by
    refine (List.perm_ext_iff_of_nodup distinct otherDistinct).mpr ?_
    rintro ⟨name, value⟩
    rw [← find?_eq_some_iff ascending, ← find?_eq_some_iff otherAscending, same name]
  refine members.eq_of_pairwise ?_ ascending otherAscending
  intro earlier later _ _ below above
  exact absurd above (String.lt_asymm below)

/-- Pairs are collected to the same entries if every name has the same last pair in them. -/
theorem ofList_congr {others : List (String × α)}
    (same : ∀ name, lastValue? name pairs = lastValue? name others) : ofList pairs = ofList others := by
  refine eq_of_find?_eq (ascending_insertAll pairs List.Pairwise.nil)
    (ascending_insertAll others List.Pairwise.nil) ?_
  intro name
  rw [find?_ofList, find?_ofList, same name]

end Entries

/-!
### Dictionaries
-/

namespace Dictionary

variable {d : Dictionary α}

theorem nodup_keys (d : Dictionary α) : (d.toList.map (·.1)).Nodup := Entries.nodup_keys d.ascending

theorem get?_eq_some_iff : d.get? name = some value ↔ (name, value) ∈ d.toList :=
  Entries.find?_eq_some_iff d.ascending

theorem get?_erase_self (d : Dictionary α) (name : String) : (d.erase name).get? name = none :=
  Entries.find?_erase_self name d.ascending

theorem get?_erase_of_ne (d : Dictionary α) {name other : String} (distinct : other ≠ name) :
    (d.erase name).get? other = d.get? other :=
  Entries.find?_erase_of_ne d.entries distinct

theorem mem_keys_iff : name ∈ d.keys ↔ ∃ value, d.get? name = some value := by
  simp only [get?_eq_some_iff, keys, toList, mem_map_fst_iff]

theorem nodup_keys_of_perm {order : List (String × α)} (permuted : order.Perm d.toList) :
    (order.map (·.1)).Nodup :=
  (permuted.map _).nodup_iff.mpr d.nodup_keys

/-- The last pairs of a list in which every name is once are its only ones, in whatever order they come. -/
theorem lastValue?_of_perm {order : List (String × α)} (permuted : order.Perm d.toList) (name : String) :
    lastValue? name order = d.get? name := by
  apply Option.ext
  intro value
  rw [lastValue?_eq_some_iff (nodup_keys_of_perm permuted), permuted.mem_iff, get?_eq_some_iff]

theorem get?_insertAll (d : Dictionary α) (name : String) (pairs : List (String × α)) :
    (d.insertAll pairs).get? name = (lastValue? name pairs).or (d.get? name) :=
  Entries.find?_insertAll name d.entries pairs

end Dictionary

/-!
### Contexts
-/

namespace Context

variable {c : Context}

theorem resolve_eq_some_iff {value : Json} : c.resolve name = some value ↔ (name, value) ∈ c.toList :=
  Dictionary.get?_eq_some_iff

theorem resolve_ofList (name : String) (pairs : List (String × Json)) :
    (ofList pairs).resolve name = lastValue? name pairs :=
  Entries.find?_ofList name pairs

theorem resolve_single (key name : String) (value : Json) :
    (single key value).resolve name = if name = key then some value else none := by
  by_cases same : name = key
  · subst same
    rw [if_pos rfl]
    exact Dictionary.get?_insert_self ∅ name value
  · rw [if_neg same]
    exact Dictionary.get?_insert_of_ne ∅ value same

/-- Variables are added behind those that are there already. -/
theorem get?_addMissing (defined : Dictionary Json) (other : Context) (name : String) :
    (addMissing defined other).get? name = (defined.get? name).or (other.resolve name) := by
  have merged : ∀ (pairs : List (String × Json)) (defined : Dictionary Json),
      (pairs.foldl (fun merged pair =>
        if merged.contains pair.1 then merged else merged.insert pair.1 pair.2) defined).get? name =
        (defined.get? name).or (Entries.find? name pairs) := by
    intro pairs
    induction pairs with
    | nil => intro defined; simp [Entries.find?]
    | cons pair rest inductionHypothesis =>
        intro defined
        obtain ⟨key, value⟩ := pair
        rw [List.foldl_cons, inductionHypothesis, Entries.find?]
        by_cases same : name = key
        · subst same
          cases found : defined.get? name <;> simp [Dictionary.contains, found]
        · rw [if_neg same]
          split
          · rfl
          · rw [Dictionary.get?_insert_of_ne _ _ same]
  exact merged other.toList defined

/-- The first context that defines a variable gives its value. -/
theorem resolve_composite (contexts : List Context) (name : String) :
    (composite contexts).resolve name = contexts.findSome? (·.resolve name) := by
  have layered : ∀ (contexts : List Context) (defined : Dictionary Json),
      (contexts.foldl addMissing defined).get? name =
        (defined.get? name).or (contexts.findSome? (·.resolve name)) := by
    intro contexts
    induction contexts with
    | nil => intro defined; simp
    | cons c rest inductionHypothesis =>
        intro defined
        rw [List.foldl_cons, inductionHypothesis, get?_addMissing, List.findSome?_cons, Option.or_assoc]
        cases c.resolve name <;> rfl
  exact layered contexts ∅

end Context

end DecisionEval
