/-
Module: DecisionEval.Proofs.RegistryHistory
Purpose: What a registry holds after any calls on it: a map from languages to backends, modulo case.
Main exports: Registry.Request, Registry.perform, Registry.resolve_perform, Registry.resolve_afterAll,
  Registry.MapModuloCase, Registry.mapModuloCase
-/
import DecisionEval.Proofs.Lookup
import DecisionEval.Proofs.Lowercasing
import DecisionEval.Registry

namespace DecisionEval.Registry

/-!
### Calls
-/

/-- A call on a registry. -/
inductive Request where
  | register (language : String) (backend : ScriptBackend)
  | unregister (language : String)
  | resolve (language : String)

/-- The language that a call names. -/
def Request.language : Request → String
  | .register language _ => language
  | .unregister language => language
  | .resolve language => language

/-- Whether a call changes what is registered. -/
def Request.Changes : Request → Prop
  | .resolve _ => False
  | _ => True

/-- What a call leaves for a language: a backend, none, or what was there before. -/
def Request.leaves (language : String) : Request → Option (Option ScriptBackend)
  | .register name backend => if key name = key language then some (some backend) else none
  | .unregister name => if key name = key language then some none else none
  | .resolve _ => none

/-- Makes a call. -/
def perform (r : Registry) : Request → Option ScriptBackend × Registry
  | .register language backend => r.register language backend
  | .unregister language => r.unregister language
  | .resolve language => (r.resolve language, r)

/-- The registry after calls, from left to right. -/
def afterAll (r : Registry) (requests : List Request) : Registry :=
  requests.foldl (fun r request => (r.perform request).2) r

/-- What calls return, from left to right. -/
def replies (r : Registry) : List Request → List (Option ScriptBackend)
  | [] => []
  | request :: rest => (r.perform request).1 :: (r.perform request).2.replies rest

variable {r : Registry} {request : Request} {requests : List Request} {language name : String}

/-!
### One call
-/

/-- Every call returns the backend that its language had before it. -/
theorem perform_fst (r : Registry) (request : Request) :
    (r.perform request).1 = r.resolve request.language := by
  cases request <;> rfl

theorem resolve_perform (r : Registry) (request : Request) (language : String) :
    (r.perform request).2.resolve language = (request.leaves language).getD (r.resolve language) := by
  cases request with
  | register name backend =>
      change (r.backends.insert (key name) backend).get? (key language) = _
      by_cases same : key name = key language
      · rw [Request.leaves, if_pos same, same, Dictionary.get?_insert_self]
        rfl
      · rw [Request.leaves, if_neg same, Dictionary.get?_insert_of_ne _ _ (Ne.symm same)]
        rfl
  | unregister name =>
      change (r.backends.erase (key name)).get? (key language) = _
      by_cases same : key name = key language
      · rw [Request.leaves, if_pos same, same, Dictionary.get?_erase_self]
        rfl
      · rw [Request.leaves, if_neg same, Dictionary.get?_erase_of_ne _ (Ne.symm same)]
        rfl
  | resolve => rfl

theorem leaves_eq_none_iff : request.leaves language = none ↔
    (request.Changes → key request.language ≠ key language) := by
  cases request <;> simp [Request.leaves, Request.Changes, Request.language]

theorem leaves_eq_some_some_iff {backend : ScriptBackend} : request.leaves language = some (some backend) ↔
    ∃ name, request = .register name backend ∧ key name = key language := by
  cases request <;> simp [Request.leaves, and_comm]

/-!
### All calls
-/

/-- The last call that leaves something for a language decides. -/
theorem resolve_afterAll (r : Registry) (requests : List Request) (language : String) :
    (r.afterAll requests).resolve language =
      (requests.reverse.findSome? (·.leaves language)).getD (r.resolve language) := by
  induction requests generalizing r with
  | nil => rfl
  | cons request rest inductionHypothesis =>
      change ((r.perform request).2.afterAll rest).resolve language = _
      rw [inductionHypothesis, resolve_perform, List.reverse_cons, List.findSome?_append]
      cases rest.reverse.findSome? (·.leaves language) with
      | some left => rfl
      | none =>
          rw [List.findSome?_singleton]
          rfl

/-- The last registration of a language that no removal follows. -/
theorem resolve_afterAll_empty_eq_some_iff {backend : ScriptBackend} :
    (empty.afterAll requests).resolve language = some backend ↔
      ∃ earlier name later, requests = earlier ++ .register name backend :: later ∧
        key name = key language ∧
          ∀ request ∈ later, request.Changes → key request.language ≠ key language := by
  have vacant : empty.resolve language = none := rfl
  have decided : (empty.afterAll requests).resolve language = some backend ↔
      requests.reverse.findSome? (·.leaves language) = some (some backend) := by
    rw [resolve_afterAll, vacant]
    cases requests.reverse.findSome? (·.leaves language) with
    | none => simp
    | some left => simp
  rw [decided, List.findSome?_eq_some_iff]
  constructor
  · rintro ⟨later, request, earlier, split, leaves, unchanged⟩
    obtain ⟨name, rfl, same⟩ := leaves_eq_some_some_iff.mp leaves
    refine ⟨earlier.reverse, name, later.reverse, ?_, same, ?_⟩
    · simpa using congrArg List.reverse split
    · intro request member
      exact leaves_eq_none_iff.mp (unchanged request (List.mem_reverse.mp member))
  · rintro ⟨earlier, name, later, rfl, same, unchanged⟩
    refine ⟨later.reverse, .register name backend, earlier.reverse, by simp,
      leaves_eq_some_some_iff.mpr ⟨name, rfl, same⟩, ?_⟩
    intro request member
    exact leaves_eq_none_iff.mpr (unchanged request (List.mem_reverse.mp member))

/-- Calls that name other languages are as if they had not been made. -/
theorem resolve_afterAll_filter (r : Registry) (requests : List Request) (language : String) :
    (r.afterAll (requests.filter fun request => key request.language = key language)).resolve language =
      (r.afterAll requests).resolve language := by
  induction requests generalizing r with
  | nil => rfl
  | cons request rest inductionHypothesis =>
      by_cases same : key request.language = key language
      · rw [List.filter_cons_of_pos (by simpa using same)]
        exact inductionHypothesis (r.perform request).2
      · have unchanged : request.leaves language = none := leaves_eq_none_iff.mpr fun _ => same
        rw [List.filter_cons_of_neg (by simpa using same), inductionHypothesis, resolve_afterAll,
          resolve_afterAll, List.reverse_cons, List.findSome?_append, List.findSome?_singleton, unchanged,
          Option.or_none]

theorem replies_getElem? (r : Registry) (earlier : List Request) (request : Request)
    (later : List Request) : (r.replies (earlier ++ request :: later))[earlier.length]? =
      some ((r.afterAll earlier).resolve request.language) := by
  induction earlier generalizing r with
  | nil => simp [replies, perform_fst, afterAll]
  | cons first rest inductionHypothesis =>
      simpa [replies, afterAll] using inductionHypothesis (r.perform first).2

/-- After removals, what is registered is what was registered and has not been removed. -/
theorem resolve_afterAll_unregister_eq_some_iff {removed : List String} {backend : ScriptBackend} :
    (r.afterAll (removed.map .unregister)).resolve language = some backend ↔
      r.resolve language = some backend ∧ ∀ name ∈ removed, key name ≠ key language := by
  induction removed generalizing r with
  | nil => simp [afterAll]
  | cons name rest inductionHypothesis =>
      change ((r.perform (.unregister name)).2.afterAll (rest.map .unregister)).resolve language = _ ↔ _
      rw [inductionHypothesis, resolve_perform, Request.leaves, List.forall_mem_cons]
      by_cases same : key name = key language <;> simp [same]

/-!
### Languages
-/

theorem languages_ascending (r : Registry) : r.languages.Pairwise (· < ·) :=
  Entries.ascending_iff_keys.mp r.backends.ascending

theorem isEmpty_eq_true_iff : r.isEmpty = true ↔ r.languages = [] := by
  simp [languages, isEmpty, Dictionary.keys, Dictionary.isEmpty]

/-- Sorting the languages in whatever order yields them in ascending order. -/
theorem mergeSort_eq_languages {order : List String} (permuted : order.Perm r.languages) :
    order.mergeSort = r.languages := by
  have sorted : order.mergeSort.Pairwise (fun a b => decide (a ≤ b) = true) :=
    List.pairwise_mergeSort (by simpa using fun _ _ _ => String.le_trans)
      (by simpa using String.le_total) order
  refine ((List.mergeSort_perm order _).trans permuted).eq_of_pairwise ?_ sorted
    (r.languages_ascending.imp fun below => decide_eq_true (String.lt_asymm below))
  intro a b _ _ below above
  exact String.le_antisymm (by simpa using below) (by simpa using above)

/-- The languages are lower-case, so that each of them is its own key. -/
def Normal (r : Registry) : Prop := ∀ language ∈ r.languages, key language = language

theorem mem_languages_iff (normal : r.Normal) : language ∈ r.languages ↔
    key language = language ∧ ∃ backend, r.resolve language = some backend := by
  constructor
  · intro listed
    have same := normal language listed
    refine ⟨same, ?_⟩
    rw [resolve, same]
    exact Dictionary.mem_keys_iff.mp listed
  · rintro ⟨same, found⟩
    rw [resolve, same] at found
    exact Dictionary.mem_keys_iff.mpr found

theorem normal_perform (normal : r.Normal) (request : Request) : (r.perform request).2.Normal := by
  intro language listed
  cases request with
  | register name backend =>
      obtain ⟨stored, found⟩ := mem_map_fst_iff.mp listed
      rcases Entries.mem_insert found with new | old
      · cases new
        exact Text.lowercase_lowercase name
      · exact normal language (mem_map_fst_iff.mpr ⟨stored, old⟩)
  | unregister name =>
      have kept := (Entries.erase_sublist (key name) r.backends.entries).map (·.1)
      exact normal language (kept.subset listed)
  | resolve => exact normal language listed

theorem normal_afterAll (normal : r.Normal) (requests : List Request) : (r.afterAll requests).Normal := by
  induction requests generalizing r with
  | nil => exact normal
  | cons request rest inductionHypothesis => exact inductionHypothesis (normal_perform normal request)

/-- Removing every language, in whatever order, leaves nothing. -/
theorem isEmpty_afterAll_unregister (normal : r.Normal) {order : List String}
    (permuted : order.Perm r.languages) : (r.afterAll (order.map .unregister)).isEmpty = true := by
  have vacant : (r.afterAll (order.map .unregister)).languages = [] := by
    rw [List.eq_nil_iff_forall_not_mem]
    intro language left
    obtain ⟨same, backend, found⟩ := (mem_languages_iff (normal_afterAll normal _)).mp left
    obtain ⟨registered, kept⟩ := resolve_afterAll_unregister_eq_some_iff.mp found
    have listed : language ∈ r.languages := (mem_languages_iff normal).mpr ⟨same, backend, registered⟩
    exact kept language (permuted.mem_iff.mpr listed) rfl
  exact isEmpty_eq_true_iff.mpr vacant

/-!
### Histories
-/

/-- Where a registry starts. -/
inductive Origin where
  | empty
  | defaults

/-- The registry at the start. -/
def Origin.registry : Origin → Registry
  | .empty => Registry.empty
  | .defaults => withDefaults

/-- The calls behind the registry at the start. -/
def Origin.opening : Origin → List Request
  | .empty => []
  | .defaults => [.register builtInLanguage BuiltIn.scriptBackend]

theorem Origin.registry_afterAll (origin : Origin) (requests : List Request) :
    origin.registry.afterAll requests = Registry.empty.afterAll (origin.opening ++ requests) := by
  cases origin <;> rfl

theorem Origin.normal_registry (origin : Origin) : origin.registry.Normal := by
  have vacant : Registry.empty.Normal := by
    intro language listed
    cases listed
  cases origin with
  | empty => exact vacant
  | defaults => exact normal_perform vacant (.register builtInLanguage BuiltIn.scriptBackend)

/-- A registry after calls is the map modulo case that the calls describe.

* `latest`: a language has the backend of its last registration, under whatever case of its name, unless a
  removal of it follows, and no other.
* `replies`: every call returns what the language that it names resolved to just before.
* `apart`: calls that name other languages do not show.
* `ascending`, `sorted`: the languages ascend strictly. They are what sorting them yields, in whatever order they
  are stored.
* `size`, `isEmpty`: they are counted, and there are none exactly if the registry is empty.
* `listed`: each of them has a backend.
* `cleared`: removing each of them once, in whatever order, leaves the registry empty. -/
structure MapModuloCase (origin : Origin) (requests : List Request) : Prop where
  latest : ∀ language backend,
    (origin.registry.afterAll requests).resolve language = some backend ↔
      ∃ earlier name later, origin.opening ++ requests = earlier ++ .register name backend :: later ∧
        key name = key language ∧
          ∀ request ∈ later, request.Changes → key request.language ≠ key language
  replies : ∀ earlier request later, requests = earlier ++ request :: later →
    (origin.registry.replies requests)[earlier.length]? =
      some ((origin.registry.afterAll earlier).resolve request.language)
  apart : ∀ language,
    (origin.registry.afterAll
        (requests.filter fun request => key request.language = key language)).resolve language =
      (origin.registry.afterAll requests).resolve language
  ascending : (origin.registry.afterAll requests).languages.Pairwise (· < ·)
  sorted : ∀ order : List String, order.Perm (origin.registry.afterAll requests).languages →
    order.mergeSort = (origin.registry.afterAll requests).languages
  size : (origin.registry.afterAll requests).languages.length = (origin.registry.afterAll requests).size
  isEmpty : (origin.registry.afterAll requests).isEmpty = true ↔
    (origin.registry.afterAll requests).languages = []
  listed : ∀ language ∈ (origin.registry.afterAll requests).languages,
    ∃ backend, (origin.registry.afterAll requests).resolve language = some backend
  cleared : ∀ order : List String, order.Perm (origin.registry.afterAll requests).languages →
    ((origin.registry.afterAll requests).afterAll (order.map .unregister)).isEmpty = true

end DecisionEval.Registry
