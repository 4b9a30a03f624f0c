/-
Module: DecisionEval.Proofs.WellFormedValues
Purpose: Evaluation keeps values well formed, so that what a program answers is well-formed JSON and a plain
  answer means the same value to the next program that sees it.
Main exports: Cel.Scope.WellFormed, Cel.Call.WellFormed, Cel.Function.wellFormed_find?, Cel.Expr.wellFormed_eval,
  Cel.Program.wellFormed_run, Cel.Program.answer_seen
-/
import DecisionEval.Cel.Program
import DecisionEval.Proofs.JsonValues

namespace DecisionEval.Cel

open Outcome (ensures_ok ensures_error ensures_fault ensures_bind_of_forall ensures_mapM ensures_filterM)

/-!
### The order of keys
-/

namespace Key

theorem before_trans {a b c : Key} (first : a.before b = true) (second : b.before c = true) :
    a.before c = true := by
  cases a <;> cases b <;> cases c <;> simp_all only [before, decide_eq_true_eq, Bool.false_eq_true]
  case int.int.int => exact Int64.lt_trans first second
  case uint.uint.uint => exact UInt64.lt_trans first second
  case bool.bool.bool a b c => cases b <;> simp_all
  case string.string.string => exact String.lt_trans first second

theorem eq_of_not_before {a b : Key} (notBefore : ¬a.before b = true) (notAfter : ¬b.before a = true) :
    a = b := by
  cases a <;> cases b <;> simp_all only [before, decide_eq_true_eq, Bool.false_eq_true, not_true_eq_false]
  case int.int => rw [Int64.le_antisymm (Int64.not_lt.mp notAfter) (Int64.not_lt.mp notBefore)]
  case uint.uint => rw [UInt64.le_antisymm (UInt64.not_lt.mp notAfter) (UInt64.not_lt.mp notBefore)]
  case bool.bool a b => cases a <;> cases b <;> simp_all
  case string.string => rw [String.le_antisymm notAfter notBefore]

instance : Trans (α := Key) (· < ·) (· < ·) (· < ·) := ⟨before_trans⟩

instance : Std.Trichotomous (α := Key) (· < ·) := ⟨fun _ _ => eq_of_not_before⟩

theorem wellFormed_toValue (key : Key) : key.toValue.WellFormed := by
  cases key <;> trivial

end Key

/-!
### Parts of values
-/

namespace Value

variable {items : List Value} {entries : List (Key × Value)}

theorem wellFormedItems_iff : WellFormedItems items ↔ ∀ item ∈ items, item.WellFormed := by
  induction items with
  | nil => simp [WellFormedItems]
  | cons item rest inductionHypothesis => simp [WellFormedItems, inductionHypothesis]

theorem wellFormedEntries_iff : WellFormedEntries entries ↔ ∀ entry ∈ entries, entry.2.WellFormed := by
  induction entries with
  | nil => simp [WellFormedEntries]
  | cons entry rest inductionHypothesis => simp [WellFormedEntries, inductionHypothesis]

theorem WellFormed.item {place : Option Place} (wellFormed : (list items place).WellFormed) :
    ∀ item ∈ items, item.WellFormed :=
  wellFormedItems_iff.mp (And.left wellFormed)

theorem WellFormed.ascending {place : Option Place} (wellFormed : (map entries place).WellFormed) :
    Entries.Ascending entries :=
  And.left wellFormed

theorem WellFormed.entry {place : Option Place} (wellFormed : (map entries place).WellFormed) :
    ∀ entry ∈ entries, entry.2.WellFormed :=
  wellFormedEntries_iff.mp (And.left (And.right wellFormed))

/-- What an index finds in a map stands under some key, be it that of an integer of the other kind. -/
theorem find?_of_lookup? {key : Key} {value : Value} (found : lookup? entries key = some value) :
    ∃ other, Entries.find? other entries = some value := by
  unfold lookup? at found
  split at found
  case h_1 here => exact ⟨_, here.trans found⟩
  case h_2 =>
    obtain ⟨other, -, found⟩ := Option.bind_eq_some_iff.mp found
    exact ⟨.uint other, found⟩
  case h_3 =>
    obtain ⟨other, -, found⟩ := Option.bind_eq_some_iff.mp found
    exact ⟨.int other, found⟩
  case h_4 => cases found

end Value

open Value (WellFormed wellFormedItems_iff wellFormedEntries_iff wellFormed_listAt wellFormed_mapAt)

/-!
### Operators
-/

theorem wellFormed_intResult (value : Int) : (intResult value).Ensures WellFormed := by
  unfold intResult
  split <;> simp [WellFormed]

theorem wellFormed_uintResult (value : Int) : (uintResult value).Ensures WellFormed := by
  unfold uintResult
  split <;> simp [WellFormed]

theorem wellFormed_durationResult (nanoseconds : Int) : (durationResult nanoseconds).Ensures WellFormed := by
  unfold durationResult
  split <;> simp [WellFormed]

theorem wellFormed_timestampResult (instant : Option Timestamp) :
    (timestampResult instant).Ensures WellFormed := by
  cases instant <;> simp [timestampResult, WellFormed]

namespace ArithmeticOp

theorem wellFormed_onInts (op : ArithmeticOp) {fit : Int → EvalResult Value}
    (fitted : ∀ value, (fit value).Ensures WellFormed) (a b : Int) :
    (op.onInts fit a b).Ensures WellFormed := by
  cases op with
  | add => exact fitted _
  | subtract => exact fitted _
  | multiply => exact fitted _
  | divide =>
      rw [onInts]
      split
      · exact ensures_fault
      · exact fitted _
  | modulus =>
      rw [onInts]
      split
      · exact ensures_fault
      · exact ensures_bind_of_forall fun _ => fitted _

theorem wellFormed_apply (op : ArithmeticOp) (place : Place) {left right : Value}
    (wellFormedLeft : left.WellFormed) (wellFormedRight : right.WellFormed) :
    (op.apply place left right).Ensures WellFormed := by
  unfold apply
  split
  · exact op.wellFormed_onInts wellFormed_intResult _ _
  · exact op.wellFormed_onInts wellFormed_uintResult _ _
  iterate 5 exact ensures_ok.mpr trivial
  · split
    · have joined := List.forall_mem_append.mpr ⟨wellFormedLeft.item, wellFormedRight.item⟩
      exact ensures_ok.mpr (wellFormed_listAt place (wellFormedItems_iff.mpr joined))
    · exact ensures_ok.mpr trivial
    · refine ensures_ok.mpr (wellFormed_mapAt place ?_ (wellFormedEntries_iff.mpr fun entry member => ?_))
      · exact Entries.ascending_insertAll _ wellFormedLeft.ascending
      rcases Entries.mem_insertAll member with onLeft | onRight
      · exact wellFormedLeft.entry entry onLeft
      · exact wellFormedRight.entry entry onRight
    · exact wellFormed_durationResult _
    · exact wellFormed_timestampResult _
    · exact wellFormed_timestampResult _
    · exact wellFormed_durationResult _
    · exact wellFormed_timestampResult _
    · exact ensures_ok.mpr trivial
    · exact ensures_error

end ArithmeticOp

/-- A comparison gives a truth value. -/
theorem RelationOp.wellFormed_apply (op : RelationOp) (left right : Value) :
    (op.apply left right).Ensures WellFormed := by
  have ordered (test : Ordering → Bool) : (testOrder test left right).Ensures WellFormed := by
    unfold testOrder
    split <;> simp [WellFormed]
  cases op with
  | less => exact ordered _
  | lessOrEqual => exact ordered _
  | greater => exact ordered _
  | greaterOrEqual => exact ordered _
  | equal => exact ensures_ok.mpr trivial
  | notEqual => exact ensures_ok.mpr trivial
  | inside =>
      rw [apply]
      unfold isInside
      split <;> simp [WellFormed]

theorem UnaryOp.wellFormed_apply (op : UnaryOp) (operand : Value) : (op.apply operand).Ensures WellFormed := by
  unfold apply
  split
  case h_3 => exact wellFormed_intResult _
  all_goals simp [WellFormed]

namespace Value

theorem wellFormed_itemAt {target : Value} (wellFormed : target.WellFormed) (key : Value) :
    (target.itemAt key).Ensures WellFormed := by
  unfold itemAt
  split
  case h_1 items _ index =>
    rw [ensures_ok]
    split
    · trivial
    · cases here : items[index.toInt.toNat]? with
      | none => trivial
      | some item => exact wellFormed.item item (List.mem_of_getElem? here)
  case h_2 =>
    split
    · exact ensures_fault
    · split
      · exact ensures_ok.mpr trivial
      · split <;> exact ensures_ok.mpr trivial
  case h_3 entries _ =>
    split
    · next found _ =>
      rw [ensures_ok]
      cases here : lookup? entries found with
      | none => trivial
      | some value =>
          obtain ⟨other, here⟩ := find?_of_lookup? here
          exact wellFormed.entry _ (Entries.mem_of_find? here)
    · exact ensures_error
  all_goals exact ensures_error

/-- A function that is selected from a value holds that value. -/
theorem wellFormed_select {target : Value} (wellFormed : target.WellFormed) (name : String) :
    (target.select name).Ensures WellFormed := by
  unfold select
  extract_lets stored
  cases found : stored with
  | some value =>
      rw [ensures_ok]
      cases target with
      | map entries place => exact wellFormed.entry _ (Entries.mem_of_find? found)
      | _ => simp [stored] at found
  | none =>
      dsimp only
      split
      · exact ensures_ok.mpr wellFormed
      · exact ensures_error

end Value

/-!
### Scopes and calls
-/

/-- Every variable of the scope has a well-formed value. -/
structure Scope.WellFormed (scope : Scope) : Prop where
  locals : ∀ binding ∈ scope.locals, binding.2.WellFormed
  globals : ∀ binding ∈ scope.globals, binding.2.WellFormed

namespace Scope.WellFormed

variable {scope : Scope}

theorem find? (wellFormed : scope.WellFormed) {name : String} {value : Value}
    (found : scope.find? name = some value) : value.WellFormed := by
  unfold Scope.find? at found
  split at found
  case h_1 here =>
    obtain ⟨before, after, locals, -⟩ := List.lookup_eq_some_iff.mp (here.trans found)
    exact wellFormed.locals (name, value) (by simp [locals])
  case h_2 => exact wellFormed.globals _ (Entries.mem_of_find? found)

theorem step (wellFormed : scope.WellFormed) (number : Nat) : (scope.step number).WellFormed :=
  ⟨wellFormed.locals, wellFormed.globals⟩

theorem bind (wellFormed : scope.WellFormed) (name : String) {value : Value} (bound : value.WellFormed) :
    (scope.bind name value).WellFormed :=
  ⟨List.forall_mem_cons.mpr ⟨bound, wellFormed.locals⟩, wellFormed.globals⟩

end Scope.WellFormed

/-- In well-formed scopes the argument has no other values than well-formed ones. -/
def Argument.KeepsWellFormed (argument : Argument) : Prop :=
  ∀ scope, scope.WellFormed → (argument.run scope).Ensures Value.WellFormed

/-- All that a call hands to its function is well formed. -/
structure Call.WellFormed (call : Call) : Prop where
  target : ∀ value, call.target = some value → value.WellFormed
  arguments : ∀ argument ∈ call.arguments, argument.KeepsWellFormed
  scope : call.scope.WellFormed

namespace Call.WellFormed

variable {call : Call}

theorem valueAt (wellFormed : call.WellFormed) (position : Nat) :
    (call.valueAt position).Ensures Value.WellFormed := by
  unfold Call.valueAt
  split
  case h_1 argument here =>
    exact wellFormed.arguments argument (List.mem_of_getElem? here) _ (wellFormed.scope.step _)
  case h_2 => exact ensures_error

theorem subject (wellFormed : call.WellFormed) : call.subject.Ensures fun subject => subject.1.WellFormed := by
  unfold Call.subject
  split
  case h_1 value given => exact ensures_ok.mpr (wellFormed.target value given)
  case h_2 =>
    exact ((wellFormed.valueAt 0).mapError _).bind fun value first => ensures_ok.mpr first

theorem argumentAt (wellFormed : call.WellFormed) (position : Nat) :
    (call.argumentAt position).Ensures Argument.KeepsWellFormed := by
  unfold Call.argumentAt
  split
  case h_1 argument here =>
    exact ensures_ok.mpr (wellFormed.arguments argument (List.mem_of_getElem? here))
  case h_2 => exact ensures_fault

theorem values (wellFormed : call.WellFormed) : call.values.Ensures (∀ value ∈ ·, value.WellFormed) := by
  refine ensures_mapM fun (argument, position) member => ?_
  have given := wellFormed.arguments argument (List.fst_mem_of_mem_zipIdx member)
  exact given _ (wellFormed.scope.step (position + 1))

end Call.WellFormed

namespace Function

/-!
### Functions whose values have no parts
-/

variable (call : Call)

theorem wellFormed_size : (size call).Ensures WellFormed := by
  refine ensures_bind_of_forall fun value => ?_
  cases value with
  | list items place => exact wellFormed_intResult _
  | map entries place => exact wellFormed_intResult _
  | string text => exact wellFormed_intResult _
  | bytes bytes => exact wellFormed_intResult _
  | _ => exact ensures_error

theorem wellFormed_contains : (contains call).Ensures WellFormed := by
  refine ensures_bind_of_forall fun (whole, next) => ensures_bind_of_forall fun part => ?_
  split
  case h_2 => split <;> simp [WellFormed]
  case h_4 => split <;> simp [WellFormed]
  all_goals exact ensures_ok.mpr trivial

theorem wellFormed_startsWith : (startsWith call).Ensures WellFormed :=
  ensures_bind_of_forall fun _ => ensures_bind_of_forall fun _ => ensures_bind_of_forall fun _ =>
    ensures_ok.mpr trivial

theorem wellFormed_endsWith : (endsWith call).Ensures WellFormed :=
  ensures_bind_of_forall fun _ => ensures_bind_of_forall fun _ => ensures_bind_of_forall fun _ =>
    ensures_ok.mpr trivial

theorem wellFormed_string : (string call).Ensures WellFormed := by
  refine ensures_bind_of_forall fun (value, next) => ?_
  cases value with
  | duration span =>
      dsimp only
      split
      · exact ensures_ok.mpr trivial
      · exact ensures_fault
  | string text => exact ensures_ok.mpr trivial
  | timestamp instant => exact ensures_ok.mpr trivial
  | int value => exact ensures_ok.mpr trivial
  | uint value => exact ensures_ok.mpr trivial
  | float value => exact ensures_ok.mpr trivial
  | bytes bytes => exact ensures_ok.mpr trivial
  | _ => exact ensures_error

theorem wellFormed_bytes : (bytes call).Ensures WellFormed :=
  ensures_bind_of_forall fun _ => ensures_ok.mpr trivial

theorem wellFormed_parsed (read : Except IntegerFault Int) {result : Int → EvalResult Value}
    (fitted : ∀ value, (result value).Ensures WellFormed) : (parsed call read result).Ensures WellFormed := by
  cases read with
  | ok value => exact fitted value
  | error fault => exact ensures_error

theorem wellFormed_converted {κ : Type} (message : String) (read : Option κ) {toValue : κ → Value}
    (wellFormed : ∀ found, (toValue found).WellFormed) :
    (converted call message (read.map toValue)).Ensures WellFormed := by
  cases read with
  | none => exact ensures_error
  | some found => exact ensures_ok.mpr (wellFormed found)

theorem wellFormed_int : (int call).Ensures WellFormed := by
  refine ensures_bind_of_forall fun (value, next) => ?_
  cases value with
  | string text => exact wellFormed_parsed call _ wellFormed_intResult
  | float value =>
      dsimp only
      split
      · exact wellFormed_intResult _
      · exact ensures_error
  | int value => exact ensures_ok.mpr trivial
  | uint value => exact wellFormed_converted call _ _ fun _ => trivial
  | _ => exact ensures_error

theorem wellFormed_uint : (uint call).Ensures WellFormed := by
  refine ensures_bind_of_forall fun (value, next) => ?_
  cases value with
  | string text => exact wellFormed_parsed call _ wellFormed_uintResult
  | float value =>
      dsimp only
      split
      · exact wellFormed_uintResult _
      · exact ensures_error
  | int value => exact wellFormed_converted call _ _ fun _ => trivial
  | uint value => exact ensures_ok.mpr trivial
  | _ => exact ensures_error

theorem wellFormed_double : (double call).Ensures WellFormed := by
  refine ensures_bind_of_forall fun (value, next) => ?_
  cases value with
  | string text => exact wellFormed_converted call _ _ fun _ => trivial
  | float value => exact ensures_ok.mpr trivial
  | int value => exact ensures_ok.mpr trivial
  | uint value => exact ensures_ok.mpr trivial
  | _ => exact ensures_error

theorem wellFormed_duration : (duration call).Ensures WellFormed := by
  refine ensures_bind_of_forall fun text => ?_
  split
  · exact wellFormed_durationResult _
  · exact ensures_error

theorem wellFormed_timestamp : (timestamp call).Ensures WellFormed :=
  ensures_bind_of_forall fun _ => wellFormed_converted call _ _ fun _ => trivial

theorem wellFormed_has : (has call).Ensures WellFormed := by
  unfold has
  split <;> simp [WellFormed]

theorem wellFormed_matches : (matches_ call).Ensures WellFormed :=
  ensures_bind_of_forall fun _ => ensures_error

/-!
### Searches

A search ends with a truth value, whatever the body does for the items.
-/

theorem wellFormed_allFrom (binder : Binder) (items : List (Value × Nat)) :
    (allFrom binder items).Ensures WellFormed := by
  induction items with
  | nil => exact ensures_ok.mpr trivial
  | cons item rest inductionHypothesis =>
      rw [allFrom]
      refine ensures_bind_of_forall fun value => ?_
      split
      · exact ensures_ok.mpr trivial
      · exact inductionHypothesis

theorem wellFormed_existsFrom (binder : Binder) (items : List (Value × Nat)) :
    (existsFrom binder items).Ensures WellFormed := by
  induction items with
  | nil => exact ensures_ok.mpr trivial
  | cons item rest inductionHypothesis =>
      rw [existsFrom]
      refine ensures_bind_of_forall fun holds => ?_
      split
      · exact ensures_ok.mpr trivial
      · exact inductionHypothesis

theorem wellFormed_existsOneFrom (binder : Binder) (found : Bool) (items : List (Value × Nat)) :
    (existsOneFrom binder found items).Ensures WellFormed := by
  induction items generalizing found with
  | nil => exact ensures_ok.mpr trivial
  | cons item rest inductionHypothesis =>
      rw [existsOneFrom]
      refine ensures_bind_of_forall fun holds => ?_
      split
      · split
        · exact ensures_ok.mpr trivial
        · exact inductionHypothesis true
      · exact inductionHypothesis found

theorem wellFormed_all : (all call).Ensures WellFormed :=
  ensures_bind_of_forall fun _ => ensures_bind_of_forall fun _ => wellFormed_allFrom _ _

theorem wellFormed_exists : (exists_ call).Ensures WellFormed :=
  ensures_bind_of_forall fun _ => ensures_bind_of_forall fun _ => wellFormed_existsFrom _ _

theorem wellFormed_existsOne : (existsOne call).Ensures WellFormed :=
  ensures_bind_of_forall fun _ => ensures_bind_of_forall fun _ => wellFormed_existsOneFrom _ _ _

/-!
### Functions whose values are made of what the call is given
-/

/-- All that a function that binds a variable works with is well formed. -/
structure Binder.WellFormed (binder : Binder) : Prop where
  subject : binder.subject.WellFormed
  body : binder.body.KeepsWellFormed
  scope : binder.scope.WellFormed

theorem Binder.WellFormed.run {binder : Binder} (wellFormed : binder.WellFormed) {item : Value × Nat}
    (bound : item.1.WellFormed) : (binder.run item).Ensures Value.WellFormed :=
  wellFormed.body _ ((wellFormed.scope.step item.2).bind binder.name bound)

variable {call}

theorem Binder.wellFormed_ofCall (wellFormed : call.WellFormed) :
    (Binder.ofCall call).Ensures Binder.WellFormed := by
  refine wellFormed.subject.bind fun (subject, next) subjectWellFormed => ?_
  refine ensures_bind_of_forall fun name => ?_
  refine (wellFormed.argumentAt (next + 1)).bind fun body bodyWellFormed => ?_
  exact ensures_ok.mpr ⟨subjectWellFormed, bodyWellFormed, wellFormed.scope.step _⟩

theorem wellFormed_listItems {value : Value} (wellFormed : value.WellFormed) :
    (listItems value).Ensures (∀ item ∈ ·, item.1.WellFormed) := by
  unfold listItems
  split
  · exact ensures_ok.mpr fun item member =>
      wellFormed.item item.1 (List.fst_mem_of_mem_zipIdx member)
  · exact ensures_error

theorem wellFormed_map (wellFormed : call.WellFormed) : (map call).Ensures WellFormed := by
  refine (Binder.wellFormed_ofCall wellFormed).bind fun binder binderWellFormed => ?_
  refine (wellFormed_listItems binderWellFormed.subject).bind fun items itemsWellFormed => ?_
  have each : ∀ item ∈ items, (binder.run item).Ensures WellFormed := fun item member =>
    binderWellFormed.run (itemsWellFormed item member)
  refine (ensures_mapM each).bind fun values valuesWellFormed => ?_
  exact ensures_ok.mpr (wellFormed_listAt _ (wellFormedItems_iff.mpr valuesWellFormed))

theorem wellFormed_filter (wellFormed : call.WellFormed) : (filter call).Ensures WellFormed := by
  refine (Binder.wellFormed_ofCall wellFormed).bind fun binder binderWellFormed => ?_
  refine (wellFormed_listItems binderWellFormed.subject).bind fun items itemsWellFormed => ?_
  refine (ensures_filterM binder.holds items).bind fun kept members => ?_
  refine ensures_ok.mpr (wellFormed_listAt _ (wellFormedItems_iff.mpr ?_))
  intro value member
  obtain ⟨item, isKept, rfl⟩ := List.mem_map.mp member
  exact itemsWellFormed item (members item isKept)

theorem wellFormed_maxFrom {greatest : Value} {values : List Value} (greatestWellFormed : greatest.WellFormed)
    (wellFormed : ∀ value ∈ values, value.WellFormed) : (maxFrom greatest values).Ensures WellFormed := by
  induction values generalizing greatest with
  | nil => exact ensures_ok.mpr greatestWellFormed
  | cons value rest inductionHypothesis =>
      obtain ⟨first, others⟩ := List.forall_mem_cons.mp wellFormed
      rw [maxFrom]
      split
      · exact inductionHypothesis greatestWellFormed others
      · exact inductionHypothesis first others
      · exact ensures_error

theorem wellFormed_max (wellFormed : call.WellFormed) : (max call).Ensures WellFormed := by
  refine wellFormed.values.bind fun values valuesWellFormed => ?_
  split
  case h_1 => exact ensures_ok.mpr trivial
  case h_2 first rest place =>
    have listed : (Value.list (first :: rest) place).WellFormed := valuesWellFormed _ List.mem_cons_self
    obtain ⟨first, others⟩ := List.forall_mem_cons.mp listed.item
    exact wellFormed_maxFrom first others
  case h_3 => exact ensures_ok.mpr trivial
  case h_4 first rest _ _ =>
    obtain ⟨first, others⟩ := List.forall_mem_cons.mp valuesWellFormed
    exact wellFormed_maxFrom first others

/-- Every function of the table has well-formed values for what is well formed. -/
theorem wellFormed_of_mem_table (wellFormed : call.WellFormed) :
    ∀ entry ∈ table, (entry.2 call).Ensures WellFormed := by
  simp only [table, List.forall_mem_cons]
  exact ⟨wellFormed_contains call, wellFormed_size call, wellFormed_has call, wellFormed_map wellFormed,
    wellFormed_filter wellFormed, wellFormed_all call, wellFormed_max wellFormed, wellFormed_startsWith call,
    wellFormed_endsWith call, wellFormed_string call, wellFormed_bytes call, wellFormed_double call,
    wellFormed_exists call, wellFormed_existsOne call, wellFormed_int call, wellFormed_uint call,
    wellFormed_matches call, wellFormed_duration call, wellFormed_timestamp call, by simp⟩

theorem wellFormed_find? {name : String} {function : Call → EvalResult Value}
    (found : find? name = some function) (wellFormed : call.WellFormed) :
    (function call).Ensures WellFormed := by
  obtain ⟨before, after, listed, -⟩ := List.lookup_eq_some_iff.mp found
  exact wellFormed_of_mem_table wellFormed (name, function) (by simp [listed])

end Function

/-!
### Evaluation
-/

theorem Literal.wellFormed_toValue (literal : Literal) : literal.toValue.WellFormed := by
  cases literal <;> trivial

namespace Expr

mutual

/-- In a well-formed scope a program has no other values than well-formed ones. -/
theorem wellFormed_eval : ∀ (program : Expr) {scope : Scope}, scope.WellFormed →
    (program.eval scope).Ensures WellFormed
  | .arithmetic op left right, scope, wellFormed => by
      rw [eval]
      refine (wellFormed_eval left (wellFormed.step 0)).bind fun a first => ?_
      refine (wellFormed_eval right (wellFormed.step 1)).bind fun b second => ?_
      exact op.wellFormed_apply scope.place first second
  | .relation op left right, scope, wellFormed => by
      rw [eval]
      exact ensures_bind_of_forall fun a => ensures_bind_of_forall fun b => op.wellFormed_apply a b
  | .conditional condition yes no, scope, wellFormed => by
      rw [eval]
      refine ensures_bind_of_forall fun test => ?_
      split
      · exact wellFormed_eval yes (wellFormed.step 1)
      · exact wellFormed_eval no (wellFormed.step 2)
  | .or left right, scope, wellFormed => by
      rw [eval]
      refine (wellFormed_eval left (wellFormed.step 0)).bind fun a first => ?_
      split
      · exact ensures_ok.mpr first
      · exact wellFormed_eval right (wellFormed.step 1)
  | .and left right, scope, wellFormed => by
      rw [eval]
      exact ensures_bind_of_forall fun a => ensures_bind_of_forall fun b => ensures_ok.mpr trivial
  | .unary op operand, scope, wellFormed => by
      rw [eval]
      exact ensures_bind_of_forall fun a => op.wellFormed_apply a
  | .select target name, scope, wellFormed => by
      rw [eval]
      exact (wellFormed_eval target (wellFormed.step 0)).bind fun a first => a.wellFormed_select first name
  | .index target key, scope, wellFormed => by
      rw [eval]
      refine (wellFormed_eval target (wellFormed.step 0)).bind fun a first => ?_
      exact ensures_bind_of_forall fun k => a.wellFormed_itemAt first k
  | .fields target entries, scope, wellFormed => by
      rw [eval]
      exact ensures_bind_of_forall fun a => ensures_error
  | .call name target arguments, scope, wellFormed => by
      rw [eval]
      split
      case h_1 => exact ensures_error
      case h_2 function found =>
        refine (wellFormed_evalTarget target (wellFormed.step 0)).bind fun target targetWellFormed => ?_
        exact Function.wellFormed_find? found ⟨targetWellFormed, wellFormed_argumentsOf arguments, wellFormed⟩
  | .list items, scope, wellFormed => by
      rw [eval]
      refine (wellFormed_evalItems items wellFormed).bind fun values each => ?_
      exact ensures_ok.mpr (wellFormed_listAt scope.place (wellFormedItems_iff.mpr each))
  | .map entries, scope, wellFormed => by
      rw [eval]
      refine (wellFormed_evalEntries entries wellFormed).bind fun values each => ?_
      have kept := fun entry member => each entry (Entries.mem_ofList member)
      exact ensures_ok.mpr (wellFormed_mapAt scope.place (Entries.ascending_ofList values)
        (wellFormedEntries_iff.mpr kept))
  | .literal value, scope, wellFormed => by
      rw [eval]
      exact ensures_ok.mpr value.wellFormed_toValue
  | .ident name, scope, wellFormed => by
      rw [eval]
      split
      case h_1 value found => exact ensures_ok.mpr (wellFormed.find? found)
      case h_2 => exact ensures_error

theorem wellFormed_evalTarget : ∀ (target : Option Expr) {scope : Scope}, scope.WellFormed →
    (evalTarget target scope).Ensures fun target => ∀ value, target = some value → value.WellFormed
  | none, scope, wellFormed => by
      rw [evalTarget]
      exact ensures_ok.mpr nofun
  | some target, scope, wellFormed => by
      rw [evalTarget]
      refine (wellFormed_eval target wellFormed).bind fun value first => ensures_ok.mpr ?_
      rintro _ ⟨⟩
      exact first

theorem wellFormed_argumentsOf : ∀ arguments : List Expr,
    ∀ argument ∈ argumentsOf arguments, argument.KeepsWellFormed
  | [] => by simp [argumentsOf]
  | argument :: rest => by
      rw [argumentsOf, List.forall_mem_cons]
      exact ⟨fun scope wellFormed => wellFormed_eval argument wellFormed, wellFormed_argumentsOf rest⟩

theorem wellFormed_evalItems : ∀ (items : List Expr) {scope : Scope}, scope.WellFormed →
    (evalItems items scope).Ensures (∀ value ∈ ·, value.WellFormed)
  | [], scope, wellFormed => by simp [evalItems]
  | item :: rest, scope, wellFormed => by
      rw [evalItems]
      refine (wellFormed_eval item (wellFormed.step 0)).bind fun value first => ?_
      refine (wellFormed_evalItems rest (wellFormed.step 1)).bind fun values others => ?_
      exact ensures_ok.mpr (List.forall_mem_cons.mpr ⟨first, others⟩)

theorem wellFormed_evalEntries : ∀ (entries : List (Expr × Expr)) {scope : Scope}, scope.WellFormed →
    (evalEntries entries scope).Ensures (∀ entry ∈ ·, entry.2.WellFormed)
  | [], scope, wellFormed => by simp [evalEntries]
  | (key, value) :: rest, scope, wellFormed => by
      rw [evalEntries]
      refine ensures_bind_of_forall fun k => ?_
      split
      case h_1 => exact ensures_error
      case h_2 found _ =>
        refine (wellFormed_eval value (wellFormed.step 1)).bind fun v first => ?_
        refine (wellFormed_evalEntries rest (wellFormed.step 2)).bind fun others laterWellFormed => ?_
        exact ensures_ok.mpr (List.forall_mem_cons.mpr ⟨first, laterWellFormed⟩)

end

end Expr

/-!
### Answers
-/

theorem wellFormedFields_iff {fields : List (String × Json)} :
    Json.WellFormedFields fields ↔ ∀ field ∈ fields, field.2.WellFormed := by
  induction fields with
  | nil => simp [Json.WellFormedFields]
  | cons field rest inductionHypothesis => simp [Json.WellFormedFields, inductionHypothesis]

namespace Value

mutual

/-- What a value becomes is well-formed JSON, also where names coincide or a number has no JSON form. -/
theorem wellFormed_toJson : ∀ value : Value, value.toJson.WellFormed
  | .null => trivial
  | .bool _ => trivial
  | .int _ => trivial
  | .uint _ => by
      rw [toJson, Json.ofUInt64]
      trivial
  | .float _ => by
      rw [toJson, Json.ofFloat]
      split <;> trivial
  | .string _ => trivial
  | .bytes _ => trivial
  | .list items _ => by
      rw [toJson, Json.WellFormed]
      exact wellFormedItems_toJsonItems items
  | .map entries _ => by
      rw [toJson, Json.WellFormed]
      have fields := wellFormedFields_iff.mp (wellFormedFields_toJsonFields entries)
      refine ⟨Entries.ascending_ofList _, wellFormedFields_iff.mpr fun field member => ?_⟩
      exact fields field (Entries.mem_ofList member)
  | .duration _ => trivial
  | .timestamp _ => trivial
  | .function _ _ => trivial

theorem wellFormedItems_toJsonItems : ∀ items : List Value, Json.WellFormedItems (toJsonItems items)
  | [] => trivial
  | item :: rest => ⟨wellFormed_toJson item, wellFormedItems_toJsonItems rest⟩

theorem wellFormedFields_toJsonFields : ∀ entries : List (Key × Value),
    Json.WellFormedFields (toJsonFields entries)
  | [] => trivial
  | (_, value) :: rest => ⟨wellFormed_toJson value, wellFormedFields_toJsonFields rest⟩

end

end Value

namespace Program

variable {program : Program} {inputs : List (String × Json)}

theorem wellFormed_scopeOf (wellFormed : ∀ input ∈ inputs, input.2.WellFormed) :
    (scopeOf inputs).WellFormed := by
  refine ⟨nofun, fun binding member => ?_⟩
  obtain ⟨input, given, rfl⟩ := List.mem_map.mp (Entries.mem_ofList member)
  exact Value.wellFormed_ofJson (wellFormed input given)

theorem find?_scopeOf_append (others : List (String × Json)) (name : String) (value : Json) :
    (scopeOf (others ++ [(name, value)])).find? name = some (Value.ofJson value) := by
  simp only [Scope.find?, scopeOf, List.lookup_nil, Entries.ofList, Entries.insertAll, List.map_append,
    List.map_cons, List.map_nil, List.foldl_append, List.foldl_cons, List.foldl_nil,
    Entries.find?_insert_self]

/-- What a program answers is well-formed JSON, whatever it was given. -/
theorem wellFormed_run (program : Program) (inputs : List (String × Json)) :
    (program.run inputs).Ensures Json.WellFormed :=
  ensures_bind_of_forall fun value => ensures_ok.mpr value.wellFormed_toJson

/-- Where a program has a plain value, a program that is given its answer as a variable sees this very value:
the way over JSON changes nothing. -/
theorem answer_seen (wellFormed : ∀ input ∈ inputs, input.2.WellFormed) {value : Value}
    (evaluates : program.body.eval (scopeOf inputs) = .ok value) (plain : value.Plain) :
    ∃ answer, program.run inputs = .ok answer ∧
      ∀ others name, (scopeOf (others ++ [(name, answer)])).find? name = some value := by
  have kept : value.WellFormed :=
    program.body.wellFormed_eval (wellFormed_scopeOf wellFormed) value evaluates
  obtain ⟨-, back⟩ := Value.ofJson_toJson plain kept
  refine ⟨value.toJson, ?answers, ?seen⟩
  case answers => rw [run, evaluates, Outcome.bind]
  case seen =>
    intro others name
    rw [find?_scopeOf_append, back]

end Program

end DecisionEval.Cel
