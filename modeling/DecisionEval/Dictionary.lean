/-
Module: DecisionEval.Dictionary
Purpose: Finite maps from names to values, held as association lists in ascending order of the names.
Main exports: Entries.find?, Entries.insert, Entries.erase, Entries.ofList, Dictionary
-/

namespace DecisionEval

/-!
### Entries

An association list whose keys ascend strictly. Every operation is defined on plain lists, so that
recursive data (objects inside objects) can hold them; `Dictionary` below packs a list with the proof
that its keys ascend.
-/

/-- An association list. The operations of this namespace keep the keys in ascending order. -/
abbrev Entries (κ α : Type) := List (κ × α)

namespace Entries

variable {κ α : Type}

/-- The keys ascend strictly, so no key occurs twice. -/
def Ascending [LT κ] (entries : Entries κ α) : Prop :=
  entries.Pairwise (fun earlier later => earlier.1 < later.1)

/-- Whether entries ascend shows in their keys. -/
theorem ascending_iff_keys [LT κ] {entries : Entries κ α} :
    entries.Ascending ↔ (entries.map (·.1)).Pairwise (· < ·) :=
  List.pairwise_map.symm

section Operations

variable [DecidableEq κ]

/-- The value stored under `key`. -/
def find? (key : κ) : Entries κ α → Option α
  | [] => none
  | (k, value) :: rest => if key = k then some value else find? key rest

/-- The entries without the one stored under `key`. -/
def erase (key : κ) : Entries κ α → Entries κ α
  | [] => []
  | (k, value) :: rest => if key = k then rest else (k, value) :: erase key rest

variable [LT κ] [DecidableLT κ]

/-- Stores `value` under `key`, in the place of an earlier value of that key. -/
def insert (key : κ) (value : α) : Entries κ α → Entries κ α
  | [] => [(key, value)]
  | (k, old) :: rest =>
    if key < k then (key, value) :: (k, old) :: rest
    else if key = k then (key, value) :: rest
    else (k, old) :: insert key value rest

/-- Stores pairs from left to right, so that a later pair wins over an earlier one of its key. -/
def insertAll (entries : Entries κ α) (pairs : List (κ × α)) : Entries κ α :=
  pairs.foldl (fun stored pair => insert pair.1 pair.2 stored) entries

/-- Collects pairs in any order; of several pairs with one key the last is kept. -/
def ofList (pairs : List (κ × α)) : Entries κ α :=
  insertAll [] pairs

end Operations

/-!
### What storing keeps
-/

section Storing

variable [DecidableEq κ] [LT κ] [DecidableLT κ]

theorem mem_insert {key : κ} {value : α} {entries : Entries κ α} {pair : κ × α}
    (h : pair ∈ insert key value entries) : pair = (key, value) ∨ pair ∈ entries := by
  induction entries with
  | nil => simpa [insert] using h
  | cons head rest ih =>
    obtain ⟨k, old⟩ := head
    simp only [insert] at h
    split at h
    · simpa using h
    · split at h
      · rcases List.mem_cons.1 h with h | h
        · exact .inl h
        · exact .inr (List.mem_cons_of_mem _ h)
      · rcases List.mem_cons.1 h with h | h
        · exact .inr (h ▸ List.mem_cons_self)
        · rcases ih h with h | h
          · exact .inl h
          · exact .inr (List.mem_cons_of_mem _ h)

theorem mem_insertAll {entries : Entries κ α} {pairs : List (κ × α)} {pair : κ × α}
    (h : pair ∈ insertAll entries pairs) : pair ∈ entries ∨ pair ∈ pairs := by
  induction pairs generalizing entries with
  | nil => exact .inl h
  | cons head rest ih =>
    rcases ih h with stored | later
    · rcases mem_insert stored with rfl | earlier
      · exact .inr List.mem_cons_self
      · exact .inl earlier
    · exact .inr (List.mem_cons_of_mem _ later)

/-- The pairs that are collected are among those that were given. -/
theorem mem_ofList {pairs : List (κ × α)} {pair : κ × α} (h : pair ∈ ofList pairs) : pair ∈ pairs :=
  (mem_insertAll h).resolve_left List.not_mem_nil

variable [Trans (α := κ) (· < ·) (· < ·) (· < ·)] [Std.Trichotomous (α := κ) (· < ·)]

theorem ascending_insert {entries : Entries κ α} (key : κ) (value : α)
    (h : entries.Ascending) : (insert key value entries).Ascending := by
  induction entries with
  | nil => simp [insert, Ascending]
  | cons head rest ih =>
    obtain ⟨k, old⟩ := head
    obtain ⟨hhead, hrest⟩ := List.pairwise_cons.1 h
    simp only [insert]
    split
    · next hlt =>
      refine List.pairwise_cons.2 ⟨fun pair hpair => ?_, h⟩
      rcases List.mem_cons.1 hpair with rfl | hpair
      · exact hlt
      · exact Trans.trans hlt (hhead pair hpair)
    · next hnlt =>
      split
      · next heq =>
        subst heq
        exact List.pairwise_cons.2 ⟨hhead, hrest⟩
      · next hne =>
        refine List.pairwise_cons.2 ⟨fun pair hpair => ?_, ih hrest⟩
        rcases mem_insert hpair with rfl | hpair
        · show k < key
          rcases Decidable.em (k < key) with hlt | hge
          · exact hlt
          · exact absurd (Std.Trichotomous.trichotomous key k hnlt hge) hne
        · exact hhead pair hpair

theorem ascending_insertAll {entries : Entries κ α} (pairs : List (κ × α))
    (h : entries.Ascending) : (insertAll entries pairs).Ascending := by
  induction pairs generalizing entries with
  | nil => exact h
  | cons pair rest ih => exact ih (ascending_insert pair.1 pair.2 h)

/-- Pairs that are collected ascend, in whatever order they were given. -/
theorem ascending_ofList (pairs : List (κ × α)) : (ofList pairs).Ascending :=
  ascending_insertAll pairs List.Pairwise.nil

end Storing

/-- What is found is an entry. -/
theorem mem_of_find? [DecidableEq κ] {key : κ} {value : α} {entries : Entries κ α}
    (found : find? key entries = some value) : (key, value) ∈ entries := by
  induction entries with
  | nil => cases found
  | cons head rest ih =>
    obtain ⟨k, stored⟩ := head
    rw [find?] at found
    split at found
    · next same =>
      cases found
      exact same ▸ List.mem_cons_self
    · exact List.mem_cons_of_mem _ (ih found)

/-!
### Laws for names

The order of `String` compares code points from left to right, which is also the order of the UTF-8
bytes.
-/

theorem erase_sublist (key : String) (entries : Entries String α) :
    (erase key entries).Sublist entries := by
  induction entries with
  | nil => exact .slnil
  | cons head rest ih =>
    obtain ⟨k, value⟩ := head
    simp only [erase]
    split
    · exact .cons _ (.refl _)
    · exact .cons_cons _ ih

theorem ascending_erase {entries : Entries String α} (key : String) (h : entries.Ascending) :
    (erase key entries).Ascending :=
  h.sublist (erase_sublist key entries)

theorem find?_insert_self (key : String) (value : α) (entries : Entries String α) :
    find? key (insert key value entries) = some value := by
  induction entries with
  | nil => simp [insert, find?]
  | cons head rest ih =>
    obtain ⟨k, old⟩ := head
    simp only [insert]
    split
    · simp [find?]
    · split
      · simp [find?]
      · next hne => simp [find?, hne, ih]

theorem find?_insert_of_ne {key other : String} (value : α) (entries : Entries String α)
    (hne : other ≠ key) : find? other (insert key value entries) = find? other entries := by
  induction entries with
  | nil => simp [insert, find?, hne]
  | cons head rest ih =>
    obtain ⟨k, old⟩ := head
    simp only [insert]
    split
    · simp [find?, hne]
    · split
      · next heq => subst heq; simp [find?, hne]
      · simp only [find?]; rw [ih]

theorem insert_of_last {key : String} (value : α) :
    ∀ {entries : Entries String α}, (∀ pair ∈ entries, pair.1 < key) →
      insert key value entries = entries ++ [(key, value)]
  | [], _ => rfl
  | (k, old) :: rest, below => by
      have first : k < key := below (k, old) List.mem_cons_self
      have later := insert_of_last value fun pair member => below pair (List.mem_cons_of_mem _ member)
      have distinct : key ≠ k := fun same => String.lt_irrefl k (same ▸ first)
      rw [insert, if_neg (String.lt_asymm first), if_neg distinct, later, List.cons_append]

theorem insertAll_of_ascending {entries : Entries String α} :
    ∀ {pairs : List (String × α)}, Ascending (entries ++ pairs) →
      insertAll entries pairs = entries ++ pairs
  | [], _ => (List.append_nil entries).symm
  | (key, value) :: rest, ascending => by
      have below : ∀ pair ∈ entries, pair.1 < key := fun pair member =>
        (List.pairwise_append.mp ascending).2.2 pair member (key, value) List.mem_cons_self
      have whole : entries ++ [(key, value)] ++ rest = entries ++ (key, value) :: rest := by simp
      have stored : insertAll (insert key value entries) rest = entries ++ [(key, value)] ++ rest := by
        rw [insert_of_last value below]
        exact insertAll_of_ascending (whole ▸ ascending)
      exact stored.trans whole

/-- Pairs that ascend already are collected as they stand. -/
theorem ofList_of_ascending {pairs : List (String × α)} (ascending : Ascending pairs) :
    ofList pairs = pairs :=
  insertAll_of_ascending ascending

end Entries

/-!
### Dictionaries
-/

/-- A finite map from names to values; the entries ascend by name. -/
structure Dictionary (α : Type) where
  entries : Entries String α
  ascending : entries.Ascending

namespace Dictionary

variable {α : Type}

instance : EmptyCollection (Dictionary α) := ⟨⟨[], List.Pairwise.nil⟩⟩

instance : Inhabited (Dictionary α) := ⟨∅⟩

instance [DecidableEq α] : DecidableEq (Dictionary α) := fun a b =>
  if h : a.entries = b.entries then
    isTrue (by cases a; cases b; cases h; rfl)
  else
    isFalse (fun heq => h (heq ▸ rfl))

/-- Collects pairs; of several pairs with one name the last is kept. -/
def ofList (pairs : List (String × α)) : Dictionary α :=
  ⟨Entries.ofList pairs, Entries.ascending_ofList pairs⟩

/-- The pairs in ascending order of their names. -/
def toList (d : Dictionary α) : List (String × α) := d.entries

/-- The value stored under `name`. -/
def get? (d : Dictionary α) (name : String) : Option α := d.entries.find? name

/-- Whether a value is stored under `name`. -/
def contains (d : Dictionary α) (name : String) : Bool := (d.get? name).isSome

/-- The names in ascending order. -/
def keys (d : Dictionary α) : List String := d.entries.map (·.1)

/-- The number of names. -/
def size (d : Dictionary α) : Nat := d.entries.length

/-- Whether no name is stored. -/
def isEmpty (d : Dictionary α) : Bool := d.entries.isEmpty

/-- Stores `value` under `name`, in the place of an earlier value of that name. -/
def insert (d : Dictionary α) (name : String) (value : α) : Dictionary α :=
  ⟨d.entries.insert name value, Entries.ascending_insert name value d.ascending⟩

/-- The dictionary without `name`. -/
def erase (d : Dictionary α) (name : String) : Dictionary α :=
  ⟨d.entries.erase name, Entries.ascending_erase name d.ascending⟩

/-- Stores pairs from left to right. -/
def insertAll (d : Dictionary α) (pairs : List (String × α)) : Dictionary α :=
  ⟨d.entries.insertAll pairs, Entries.ascending_insertAll pairs d.ascending⟩

@[simp] theorem get?_insert_self (d : Dictionary α) (name : String) (value : α) :
    (d.insert name value).get? name = some value :=
  Entries.find?_insert_self name value d.entries

theorem get?_insert_of_ne (d : Dictionary α) {name other : String} (value : α)
    (hne : other ≠ name) : (d.insert name value).get? other = d.get? other :=
  Entries.find?_insert_of_ne value d.entries hne

end Dictionary

end DecisionEval
