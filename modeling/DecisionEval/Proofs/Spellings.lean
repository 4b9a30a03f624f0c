/-
Module: DecisionEval.Proofs.Spellings
Purpose: How often an expression is compiled when its language is spelled in several ways.
Main exports: CollaboratorCall.compiles, Evaluator.compilations_evaluateIn, Session.ServedBy,
  Session.compiledUnder, Session.compilations_of_filled, Session.compilations_of_empty,
  Session.CompiledPerSpelling, Session.compiledPerSpelling_of_servedBy, Session.compiled_in_two_spellings
-/
import DecisionEval.Proofs.SessionRun

namespace DecisionEval

/-!
### Two notions of a language

A registry takes the spellings of a language that differ in case for one language. A slot does not: it tells
languages apart by every character of their identifiers. So a backend can be asked to compile an expression
under several spellings, and keeps the script under the first of them alone.
-/

/-- Whether an identifier is that of a script language. -/
def LanguageClass.namesScript (language : String) : Bool :=
  match LanguageClass.of language with
  | .ok (.script _) => true
  | _ => false

theorem LanguageClass.namesScript_eq_true_iff {language : String} :
    namesScript language = true ↔ of language = .ok (.script language) := by
  unfold namesScript
  constructor
  · intro named
    split at named
    case h_1 other classEq => rw [classEq, eq_of_of_eq_script classEq]
    case h_2 => cases named
  · intro classEq
    rw [classEq]

/-- Whether a call is a compilation, and one that succeeds. -/
def CollaboratorCall.compiles : CollaboratorCall → Bool
  | .compile backend text => (backend.compile?.bind fun compile => (compile text).value?).isSome
  | _ => false

theorem CollaboratorCall.exists_compile {call : CollaboratorCall} (compiles : call.compiles = true) :
    ∃ backend script, call = .compile backend script := by
  cases call with
  | compile backend script => exact ⟨backend, script, rfl⟩
  | formula | parse | parsedValue | createBindings | runCompiled | evalScript => cases compiles

/-!
### One evaluation
-/

namespace Evaluator

variable {ev : Evaluator} {registry : Registry} {backend : ScriptBackend} {language text : String}
  {e : Expression} {context : Context} {compile : String → Outcome BackendError CompiledScript}

/-- What compiling an expression gives: that of its text, with the prelude in front, if it has one. -/
def script? (ev : Evaluator) (compile : String → Outcome BackendError CompiledScript) (e : Expression) :
    Option CompiledScript :=
  e.text?.bind fun text => (compile (ev.prelude.augment text)).value?

/-- Nothing but a script is compiled, and nothing else fills the slot for scripts. -/
theorem not_compiled_of_unscripted (unscripted : LanguageClass.of language ≠ .ok (.script language)) :
    (∀ other script,
        CollaboratorCall.compile other script ∉ (ev.evaluateIn registry language e context).calls) ∧
      (ev.evaluateIn registry language e context).expression.scriptSlot = e.scriptSlot := by
  have takes := ev.takes_evaluateIn registry language e context
  generalize ev.evaluateIn registry language e context = evaluation at takes
  cases takes with
  | textless absent => exact ⟨by simp, rfl⟩
  | nameless present blank => exact ⟨by simp, rfl⟩
  | formula present classEq => exact ⟨by simp [evaluateFormula_eq], rfl⟩
  | interpolated present named =>
      rw [evaluateInterpolated_calls, evaluateInterpolated_expression]
      exact ⟨by simp, rfl⟩
  | unserved present classEq unknown => exact absurd classEq unscripted
  | served present classEq known => exact absurd classEq unscripted

/-- With a backend that compiles, an evaluation of a text compiles exactly if it is one of a script and nothing
is kept under its identifier. -/
theorem compile_mem_calls_iff (present : e.text? = some text)
    (known : registry.resolve language = some backend) (offered : ev.compiler? backend = some compile) :
    (∃ script, CollaboratorCall.compile backend script ∈ (ev.evaluateIn registry language e context).calls) ↔
      LanguageClass.namesScript language = true ∧ e.scriptSlot.get? language = none := by
  by_cases classEq : LanguageClass.of language = .ok (.script language)
  case neg =>
    constructor
    · rintro ⟨script, member⟩
      exact absurd member ((not_compiled_of_unscripted classEq).1 backend script)
    · rintro ⟨scripted, -⟩
      exact absurd (LanguageClass.namesScript_eq_true_iff.mp scripted) classEq
  case pos =>
    rw [evaluateIn_served present classEq known, evaluateWith_calls_compiled offered,
      LanguageClass.namesScript_eq_true_iff.mpr classEq]
    cases e.scriptSlot.get? language <;> simp

/-- A compilation succeeds in an evaluation if there is one and the script compiles. -/
theorem compilations_evaluateIn (known : registry.resolve language = some backend)
    (offered : ev.compiler? backend = some compile) :
    (ev.evaluateIn registry language e context).calls.countP (·.compiles) =
      if LanguageClass.namesScript language ∧ e.scriptSlot.get? language = none ∧
        (ev.script? compile e).isSome then 1 else 0 := by
  by_cases classEq : LanguageClass.of language = .ok (.script language)
  case neg =>
    have unscripted : ¬ LanguageClass.namesScript language = true := by
      rwa [LanguageClass.namesScript_eq_true_iff]
    rw [if_neg (fun all => unscripted all.1), List.countP_eq_zero]
    intro call member compiles
    obtain ⟨other, script, rfl⟩ := CollaboratorCall.exists_compile compiles
    exact (not_compiled_of_unscripted classEq).1 other script member
  case pos =>
    have scripted : LanguageClass.namesScript language = true :=
      LanguageClass.namesScript_eq_true_iff.mpr classEq
    cases present : e.text? with
    | none => simp [evaluateIn_of_no_text present, script?, present]
    | some text =>
        have offers := (compiler?_eq_some_iff.mp offered).2
        have ran : ∀ made : Option CompiledScript, (made.toList.map
            (CollaboratorCall.runCompiled · (backend.bindingsFor context))).countP (·.compiles) = 0 := by
          intro made
          cases made <;> rfl
        rw [evaluateIn_served present classEq known, evaluateWith_calls_compiled offered, List.cons_append,
          List.countP_cons_of_neg (by simp [CollaboratorCall.compiles]), List.countP_append, ran, script?,
          present]
        cases found : e.scriptSlot.get? language with
        | none =>
            cases made : (compile (ev.prelude.augment text)).value? <;>
              simp [CollaboratorCall.compiles, offers, made, scripted]
        | some artifact => simp

/-- An evaluation of a script that compiles fills a slot that is empty, under its identifier. -/
theorem scriptSlot_of_empty {artifact : CompiledScript}
    (classEq : LanguageClass.of language = .ok (.script language))
    (known : registry.resolve language = some backend) (offered : ev.compiler? backend = some compile)
    (vacant : e.scriptSlot = Slot.empty) (made : ev.script? compile e = some artifact) :
    (ev.evaluateIn registry language e context).expression.scriptSlot.installed =
      some ⟨language, artifact⟩ := by
  obtain ⟨text, present, value⟩ := Option.bind_eq_some_iff.mp made
  rw [evaluateIn_served present classEq known, evaluateWith_expression_compiled offered,
    Slot.getOrInstall_slot, vacant, Slot.obtained_of_missing Slot.get?_empty, value]
  rfl

end Evaluator

/-!
### Runs
-/

/-- No element of a list is other than one before it exactly if all of them are equal. -/
theorem countP_ne_eq_zero_iff {α : Type} [DecidableEq α] {first : α} {others : List α} :
    others.countP (· ≠ first) = 0 ↔
      ∀ element ∈ first :: others, ∀ other ∈ first :: others, element = other := by
  rw [List.countP_eq_zero]
  constructor
  · intro same
    have toFirst : ∀ element ∈ first :: others, element = first := by simpa using same
    intro element member other otherMember
    rw [toFirst element member, toFirst other otherMember]
  · intro same element member
    simp [same element (List.mem_cons_of_mem _ member) first List.mem_cons_self]

namespace Session

/-- How many compilations succeed in evaluations. -/
def compilations (evaluations : List Evaluation) : Nat :=
  (evaluations.flatMap (·.calls)).countP (·.compiles)

/-- The identifiers of the scripts that calls ask for, in order. -/
def spellings (s : Session) (calls : List Call) : List String :=
  (calls.map fun call => s.languageFor call.name call.language).filter LanguageClass.namesScript

/-- How many times evaluations of a script under some spellings compile it: while a script is kept, once for
every spelling that is not its own; before that, once for the first, which then is the one that is kept. -/
def compiledUnder : Option String → List String → Nat
  | some kept, spellings => spellings.countP (· ≠ kept)
  | none, [] => 0
  | none, first :: others => 1 + others.countP (· ≠ first)

/-- Calls that all name one expression, in languages that one and the same backend serves, which compiles and
is to compile. -/
structure ServedBy (s : Session) (name : String) (backend : ScriptBackend)
    (compile : String → Outcome BackendError CompiledScript) (calls : List Call) : Prop where
  compiles : s.evaluator.compileScripts = true
  offered : backend.compile? = some compile
  named : ∀ call ∈ calls, call.name = name
  served : ∀ call ∈ calls, s.registry.resolve (s.languageFor call.name call.language) = some backend

variable {s : Session} {name : String} {backend : ScriptBackend}
  {compile : String → Outcome BackendError CompiledScript} {call : Call} {calls rest : List Call}

theorem compilations_cons (evaluation : Evaluation) (rest : List Evaluation) :
    compilations (evaluation :: rest) = evaluation.calls.countP (·.compiles) + compilations rest := by
  simp [compilations]

theorem spellings_cons (s : Session) (call : Call) (rest : List Call) :
    s.spellings (call :: rest) =
      if LanguageClass.namesScript (s.languageFor call.name call.language) then
        s.languageFor call.name call.language :: s.spellings rest
      else s.spellings rest := by
  simp [spellings, List.filter_cons]

theorem spellings_after (s : Session) (event : Event) (calls : List Call) :
    (s.after event).spellings calls = s.spellings calls := by
  simp only [spellings, languageFor_after]

theorem script?_after (s : Session) (event : Event) (name : String)
    (compile : String → Outcome BackendError CompiledScript) :
    (s.after event).evaluator.script? compile ((s.after event).expression name) =
      s.evaluator.script? compile (s.expression name) := by
  simp only [Evaluator.script?, evaluator_after, (s.evolves_after event name).text?_eq]

namespace ServedBy

theorem compiler?_eq (served : ServedBy s name backend compile calls) :
    s.evaluator.compiler? backend = some compile :=
  Evaluator.compiler?_eq_some_iff.mpr ⟨served.compiles, served.offered⟩

theorem tail (served : ServedBy s name backend compile (call :: rest)) :
    ServedBy (s.after (.evaluate call)) name backend compile rest := by
  constructor
  case compiles => rw [evaluator_after, served.compiles]
  case offered => exact served.offered
  case named => exact fun later member => served.named later (List.mem_cons_of_mem _ member)
  case served =>
    intro later member
    rw [registry_after_evaluate, languageFor_after]
    exact served.served later (List.mem_cons_of_mem _ member)

/-- After the first calls, the others are still served. -/
theorem drop (served : ServedBy s name backend compile (calls ++ rest)) :
    ServedBy (s.afterAll (calls.map .evaluate)) name backend compile rest := by
  induction calls generalizing s with
  | nil => exact served
  | cons call others inductionHypothesis => exact inductionHypothesis served.tail

theorem expression_after (served : ServedBy s name backend compile (call :: rest)) :
    (s.after (.evaluate call)).expression name =
      (s.evaluator.evaluateIn s.registry (s.languageFor call.name call.language) (s.expression name)
        call.context).expression := by
  rw [← served.named call List.mem_cons_self, expression_after_evaluate_self, answer_eq]

/-- The first call compiles exactly if it is one of a script that compiles and that is not kept under its
spelling; the other calls are those of a run from where it ends. -/
theorem compilations_step (served : ServedBy s name backend compile (call :: rest)) :
    compilations (s.evaluations ((call :: rest).map .evaluate)) =
      (if LanguageClass.namesScript (s.languageFor call.name call.language) ∧
        (s.expression name).scriptSlot.get? (s.languageFor call.name call.language) = none ∧
        (s.evaluator.script? compile (s.expression name)).isSome then 1 else 0) +
      compilations ((s.after (.evaluate call)).evaluations (rest.map .evaluate)) := by
  have known := served.served call List.mem_cons_self
  rw [List.map_cons, evaluations, compilations_cons, answer_eq, ← served.named call List.mem_cons_self,
    Evaluator.compilations_evaluateIn known served.compiler?_eq]

end ServedBy

/-- If the script does not compile, no compilation succeeds. -/
theorem compilations_of_refused (served : ServedBy s name backend compile calls)
    (refused : s.evaluator.script? compile (s.expression name) = none) :
    compilations (s.evaluations (calls.map .evaluate)) = 0 := by
  induction calls generalizing s with
  | nil => rfl
  | cons call rest inductionHypothesis =>
      have later := inductionHypothesis served.tail ((script?_after s _ name compile).trans refused)
      rw [served.compilations_step, later, refused]
      simp

/-- Once a script is kept, every evaluation of it under another identifier compiles it again, and none under
the same one does. -/
theorem compilations_of_filled (served : ServedBy s name backend compile calls)
    {installed : Installed CompiledScript} {artifact : CompiledScript}
    (filled : (s.expression name).scriptSlot.installed = some installed)
    (made : s.evaluator.script? compile (s.expression name) = some artifact) :
    compilations (s.evaluations (calls.map .evaluate)) =
      (s.spellings calls).countP (· ≠ installed.language) := by
  induction calls generalizing s with
  | nil => rfl
  | cons call rest inductionHypothesis =>
      have later := inductionHypothesis served.tail ((s.evolves_after _ name).scriptSlot_stays filled)
        ((script?_after s _ name compile).trans made)
      rw [served.compilations_step, later, spellings_after, spellings_cons, made]
      simp only [Slot.get?_eq_none_iff_of_installed filled]
      by_cases scripted : LanguageClass.namesScript (s.languageFor call.name call.language) = true
      · rw [if_pos scripted, List.countP_cons, Nat.add_comm]
        simp [scripted]
      · rw [if_neg scripted, if_neg (fun all => scripted all.1), Nat.zero_add]

/-- From an empty slot, the first evaluation of the script compiles it, and after that every one under another
identifier than the first. -/
theorem compilations_of_empty (served : ServedBy s name backend compile calls)
    (vacant : (s.expression name).scriptSlot = Slot.empty) {artifact : CompiledScript}
    (made : s.evaluator.script? compile (s.expression name) = some artifact) :
    compilations (s.evaluations (calls.map .evaluate)) = compiledUnder none (s.spellings calls) := by
  induction calls generalizing s with
  | nil => rfl
  | cons call rest inductionHypothesis =>
      have madeLater := (script?_after s (.evaluate call) name compile).trans made
      rw [served.compilations_step, spellings_cons, made]
      by_cases scripted : LanguageClass.namesScript (s.languageFor call.name call.language) = true
      case pos =>
        -- From here on the script is kept, under the spelling of this call.
        have classEq := LanguageClass.namesScript_eq_true_iff.mp scripted
        have filled : ((s.after (.evaluate call)).expression name).scriptSlot.installed =
            some ⟨s.languageFor call.name call.language, artifact⟩ := by
          rw [served.expression_after]
          exact Evaluator.scriptSlot_of_empty classEq (served.served call List.mem_cons_self)
            served.compiler?_eq vacant made
        rw [compilations_of_filled served.tail filled madeLater, spellings_after, if_pos scripted,
          if_pos ⟨scripted, by rw [vacant, Slot.get?_empty], rfl⟩, compiledUnder]
      case neg =>
        have stillVacant : ((s.after (.evaluate call)).expression name).scriptSlot = Slot.empty := by
          have unscripted := mt LanguageClass.namesScript_eq_true_iff.mpr scripted
          rw [served.expression_after, (Evaluator.not_compiled_of_unscripted unscripted).2, vacant]
        rw [inductionHypothesis served.tail stillVacant madeLater, spellings_after, if_neg scripted,
          if_neg (fun all => scripted all.1), Nat.zero_add]

theorem compiledUnder_none_le_one_iff {spellings : List String} :
    compiledUnder none spellings ≤ 1 ↔
      ∀ spelling ∈ spellings, ∀ other ∈ spellings, spelling = other := by
  cases spellings with
  | nil => simp [compiledUnder]
  | cons first others =>
      have none_after : 1 + others.countP (· ≠ first) ≤ 1 ↔ others.countP (· ≠ first) = 0 := by omega
      rw [compiledUnder, none_after, countP_ne_eq_zero_iff]

/-- How an expression, in any state, is compiled over calls in languages that one backend serves.

* `refused`: if its script does not compile, no compilation succeeds.
* `count`: if it does, it is compiled for the first evaluation of it, unless one is kept already, and again for
  every later one whose spelling of the language differs from that of the script that is kept.
* `atMostOnce`: so, from an empty slot, it is compiled at most once exactly if it does not compile, or all
  evaluations of the script spell the language alike.
* `again`: whenever a script is kept, a call compiles exactly if it is one for a script under another spelling
  than that of the script. -/
structure CompiledPerSpelling (s : Session) (name : String) (backend : ScriptBackend)
    (compile : String → Outcome BackendError CompiledScript) (calls : List Call) : Prop where
  refused : s.evaluator.script? compile (s.expression name) = none →
    compilations (s.evaluations (calls.map .evaluate)) = 0
  count : ∀ artifact, s.evaluator.script? compile (s.expression name) = some artifact →
    compilations (s.evaluations (calls.map .evaluate)) =
      compiledUnder (s.expression name).scriptSlot.language? (s.spellings calls)
  atMostOnce : (s.expression name).scriptSlot = Slot.empty →
    (compilations (s.evaluations (calls.map .evaluate)) ≤ 1 ↔
      s.evaluator.script? compile (s.expression name) = none ∨
        ∀ spelling ∈ s.spellings calls, ∀ other ∈ s.spellings calls, spelling = other)
  again : ∀ text earlier call later installed, (s.expression name).text? = some text →
    calls = earlier ++ call :: later →
    ((s.afterAll (earlier.map .evaluate)).expression name).scriptSlot.installed = some installed →
    ((∃ script, CollaboratorCall.compile backend script ∈
        ((s.afterAll (earlier.map .evaluate)).answer call).calls) ↔
      LanguageClass.namesScript (s.languageFor name call.language) = true ∧
        s.languageFor name call.language ≠ installed.language)

/-- How often a script is compiled depends on how its language is spelled. -/
theorem compiledPerSpelling_of_servedBy (served : ServedBy s name backend compile calls) :
    CompiledPerSpelling s name backend compile calls := by
  constructor
  case refused => exact compilations_of_refused served
  case count =>
    intro artifact made
    rw [Slot.language?]
    cases kept : (s.expression name).scriptSlot.installed with
    | none => exact compilations_of_empty served (Slot.eq_empty_of_installed kept) made
    | some installed => exact compilations_of_filled served kept made
  case atMostOnce =>
    intro vacant
    cases made : s.evaluator.script? compile (s.expression name) with
    | none => simp [compilations_of_refused served made]
    | some artifact =>
        rw [compilations_of_empty served vacant made, compiledUnder_none_le_one_iff]
        simp only [reduceCtorEq, false_or]
  case again =>
    rintro text earlier call later installed present rfl filled
    have now := served.drop
    have presentStill := (s.evolves_afterAll (earlier.map .evaluate) name).text?_eq.trans present
    have named := now.named call List.mem_cons_self
    have known := now.served call List.mem_cons_self
    subst named
    rw [answer_eq, Evaluator.compile_mem_calls_iff presentStill known now.compiler?_eq,
      Slot.get?_eq_none_iff_of_installed filled, languageFor_afterAll]

/-- The two spellings of a language under which the built-in backend is asked for one script. -/
def celSpellings : List Call := [⟨"sum", some "cel", .empty⟩, ⟨"sum", some "CEL", .empty⟩]

theorem celSpellings_served :
    celSession.ServedBy "sum" BuiltIn.scriptBackend BuiltIn.compileScript celSpellings := by
  constructor
  case compiles => rfl
  case offered => rfl
  case named => simp [celSpellings]
  case served =>
    simp only [celSpellings, List.forall_mem_cons]
    exact ⟨rfl, rfl, by simp⟩

theorem compiledPerSpelling_cel :
    celSession.ServedBy "sum" BuiltIn.scriptBackend BuiltIn.compileScript celSpellings ∧
      CompiledPerSpelling celSession "sum" BuiltIn.scriptBackend BuiltIn.compileScript celSpellings :=
  ⟨celSpellings_served, compiledPerSpelling_of_servedBy celSpellings_served⟩

/-- One backend serves both spellings, and yet it compiles the script for each of them. -/
theorem compiled_in_two_spellings :
    celSession.ServedBy "sum" BuiltIn.scriptBackend BuiltIn.compileScript celSpellings ∧
      (celSession.expression "sum").scriptSlot = Slot.empty ∧
      compilations (celSession.evaluations (celSpellings.map .evaluate)) = 2 :=
  ⟨celSpellings_served, rfl, by decide +kernel⟩

end Session

end DecisionEval
