/-
Module: DecisionEval.Proofs.CelAgreement
Purpose: The ways to run CEL against bindings end alike: the script backend, directly or with a compiled
  script, and the formula engine with the bindings merged into one context.
Main exports: Cel.Runtime.SeesBindings, Cel.Program.seesBindings_runtime, Cel.Runtime.backendListing,
  Cel.Runtime.merged, Cel.Runtime.engines_agree
-/
import DecisionEval.BuiltIn
import DecisionEval.Proofs.BindingsView

namespace DecisionEval

/-!
### Scopes

A program sees the last value of each name. Neither the order of the inputs nor a pair that a later one
shadows shows in what it ends with.
-/

namespace Cel

/-- The execution of a program depends on nothing but the program and on what its inputs bind each name to. -/
def Runtime.SeesBindings {π : Type} (cel : Runtime π) : Prop :=
  ∀ (program : π) (inputs others : List (String × Json)),
    (∀ name, lastValue? name inputs = lastValue? name others) →
      cel.execute program inputs = cel.execute program others

theorem Program.seesBindings_runtime : runtime.SeesBindings := by
  intro program inputs others same
  have scopes : scopeOf inputs = scopeOf others := by
    unfold scopeOf
    rw [Entries.ofList_congr fun name => ?_]
    rw [lastValue?_map, lastValue?_map, same name]
  simp only [Runtime.execute, runtime, run, scopes]

namespace Runtime

variable {π : Type} {cel : Runtime π}

theorem SeesBindings.runText (sees : cel.SeesBindings) {inputs others : List (String × Json)}
    (same : ∀ name, lastValue? name inputs = lastValue? name others) (text : String) :
    cel.runText text inputs = cel.runText text others := by
  have programs : (cel.execute · inputs) = (cel.execute · others) :=
    funext fun program => sees program inputs others same
  rw [Runtime.runText, Runtime.runText, programs]

/-!
### Listings of bindings

A script sees its bindings as a listing, in which the native ones come in an order that is not fixed.
-/

/-- A way to list bindings, which lays the native ones out in some order. -/
def Lists (list : Bindings → List (String × Json)) : Prop :=
  ∀ b, ∃ order, order.Perm b.native.toList ∧ list b = b.listed order

theorem lists_toList : Lists Bindings.toList := fun b => ⟨b.native.toList, .refl _, rfl⟩

variable {list : Bindings → List (String × Json)}

theorem Lists.lastValue? (lists : Lists list) (b : Bindings) (name : String) :
    lastValue? name (list b) = b.get? name := by
  obtain ⟨order, permuted, listedEq⟩ := lists b
  rw [listedEq, (Bindings.view_listed permuted).lastValue?]

/-- Compiles a script that lists its bindings in a given way. -/
def compileListing (cel : Runtime π) (list : Bindings → List (String × Json)) (text : String) :
    Outcome BackendError CompiledScript :=
  report ((cel.compile text).bind fun program => .ok ⟨fun b => report (cel.execute program (list b))⟩)

/-- The script backend, where bindings are listed in a given way. -/
def backendListing (cel : Runtime π) (list : Bindings → List (String × Json)) : ScriptBackend where
  languageName := languageName
  createBindings := ∅
  eval text b := cel.runText text (list b)
  compile? := some (cel.compileListing list)

theorem backendListing_toList : cel.backendListing Bindings.toList = cel.scriptBackend := rfl

theorem compileListing_toList : cel.compileListing Bindings.toList = cel.compileScript := rfl

/-- A compiled script ends as its text does. -/
theorem compileListing_bind_run (list : Bindings → List (String × Json)) (text : String) (b : Bindings) :
    (cel.compileListing list text >>= fun script => script.run b) = cel.runText text (list b) := by
  simp only [compileListing, Runtime.runText]
  cases cel.compile text <;> rfl

/-!
### Contexts
-/

/-- What bindings show, merged into one context: the whole context under its name if it is exposed, then the
native bindings, then the variables of the context. -/
def merged (b : Bindings) (order : List (String × Json)) : Context :=
  Context.composite
    ((if b.exposed then [Context.single Bindings.contextName b.context.toObject] else []) ++
      [Context.ofList order, b.context])

theorem resolve_merged {b : Bindings} {order : List (String × Json)}
    (permuted : order.Perm b.native.toList) (name : String) :
    (merged b order).resolve name = b.get? name := by
  have front : (if b.exposed then [Context.single Bindings.contextName b.context.toObject] else []).findSome?
      (·.resolve name) = if b.isContext name then some b.context.toObject else none := by
    cases exposed : b.exposed <;> simp [Bindings.isContext, exposed, Context.resolve_single]
  have behind : [Context.ofList order, b.context].findSome? (·.resolve name) =
      (b.native.get? name).or (b.context.resolve name) := by
    rw [List.findSome?_cons, Context.resolve_ofList, Dictionary.lastValue?_of_perm permuted]
    cases b.native.get? name <;> simp
  rw [merged, Context.resolve_composite, List.findSome?_append, front, behind]
  cases isContext : b.isContext name with
  | true => rw [Bindings.get?_of_isContext isContext, if_pos rfl, Option.some_or]
  | false =>
      rw [Bindings.get?_of_not_isContext isContext, if_neg Bool.false_ne_true, Option.none_or]

theorem lastValue?_merged {b : Bindings} {order : List (String × Json)}
    (permuted : order.Perm b.native.toList) (name : String) :
    lastValue? name (merged b order).toList = b.get? name := by
  rw [← resolve_merged permuted]
  exact Dictionary.lastValue?_of_perm (.refl _) name

/-- With a runtime that sees bindings alone, the script backend, a script that it compiles, and the formula engine
with the bindings merged into one context end alike on every text, with a value, an error or a fault, in whatever
order the native bindings are listed. -/
theorem engines_agree (sees : cel.SeesBindings) (text : String) (b : Bindings)
    {list : Bindings → List (String × Json)} {order : List (String × Json)} (lists : Lists list)
    (permuted : order.Perm b.native.toList) :
    (cel.compileScript text >>= fun script => script.run b) = cel.scriptBackend.eval text b ∧
      cel.formulaEngine.evaluate text (merged b order) = cel.scriptBackend.eval text b ∧
      (cel.backendListing list).eval text b = cel.scriptBackend.eval text b ∧
      (cel.compileListing list text >>= fun script => script.run b) = cel.scriptBackend.eval text b := by
  have seen : ∀ name, lastValue? name b.toList = b.get? name := lists_toList.lastValue? b
  have contexts : cel.runText text (merged b order).toList = cel.runText text b.toList := by
    apply sees.runText
    intro name
    rw [lastValue?_merged permuted, seen]
  have listings : cel.runText text (list b) = cel.runText text b.toList := by
    apply sees.runText
    intro name
    rw [lists.lastValue?, seen]
  rw [← compileListing_toList, compileListing_bind_run, compileListing_bind_run, ← backendListing_toList]
  exact ⟨rfl, contexts, listings, listings⟩

/-- A native binding in two orders, one of them under the name of the context; and a text that does not compile. -/
theorem engines_agree_crowded :
    let cel := Program.runtime
    let text := "[native, both, variableContext.variableContext]"
    let b := Bindings.crowded
    let list := fun b : Bindings => b.listed b.native.toList.reverse
    let value := Json.array [.bool true, .null, .string "inner"]
    (cel.scriptBackend.eval text b).value? = some value ∧
      ((cel.backendListing list).eval text b).value? = some value ∧
      (cel.formulaEngine.evaluate text (merged b b.native.toList.reverse)).value? = some value ∧
      cel.formulaEngine.evaluate "both +" (merged b b.native.toList.reverse) =
        cel.scriptBackend.eval "both +" b ∧
      cel.scriptBackend.eval "both +" b = .error (.cel (.compilation (Text.quoted "both +"))) := by
  intro cel text b list value
  have lists : Lists list := fun b => ⟨_, List.reverse_perm _, rfl⟩
  have sees : cel.SeesBindings := Program.seesBindings_runtime
  have ends : (cel.scriptBackend.eval text b).value? = some value := by decide +kernel
  obtain ⟨-, contexts, listings, -⟩ := engines_agree sees text b lists (List.reverse_perm _)
  obtain ⟨-, failures, -⟩ := engines_agree sees "both +" b lists (List.reverse_perm _)
  exact ⟨ends, by rw [listings, ends], by rw [contexts, ends], failures, rfl⟩

end Runtime

end Cel

end DecisionEval
