/-
Module: DecisionEval.Proofs.SlotSoundness
Purpose: What the slots of an expression hold in every state that a session can reach.
Main exports: Session.ScriptOrigin, Session.SlotsSound, Session.slotsSound_of_fresh
-/
import DecisionEval.Proofs.SessionRun

namespace DecisionEval.Session

variable {s : Session} {name : String}

/-!
### The slot for parsed text
-/

/-- Once a parsed form is kept, interpolated text is not parsed again. -/
theorem not_parsed_of_kept {ev : Evaluator} {registry : Registry} {e : Expression}
    (current : ev.ParsedCurrent e) {installed : Installed ParsedText}
    (found : e.parsedSlot.installed = some installed) {language : String}
    (classEq : LanguageClass.of language = .ok .interpolated) (context : Context) (text : String) :
    CollaboratorCall.parse text ∉ (ev.evaluateIn registry language e context).calls := by
  obtain ⟨tagEq, source, resolved, -⟩ := current installed found
  have handed : e.parsedSlot.get? LanguageClass.interpolatedName = some installed.artifact := by
    rw [Slot.get?_eq_some_iff, found, ← tagEq]
  obtain rfl := LanguageClass.of_eq_interpolated_iff.mp classEq
  rw [Evaluator.evaluateIn_interpolated resolved, Evaluator.evaluateInterpolated_of_found handed]
  simp

/-!
### The slot for scripts
-/

/-- How a script came into its slot. Some call of the run evaluated the expression in the language of the
script while the slot was empty. The backend that served that language then compiled the text of the
expression, with both fragments of the prelude in front, and the slot was filled with the result. -/
def ScriptOrigin (s : Session) (events : List Event) (name : String)
    (installed : Installed CompiledScript) : Prop :=
  ∃ earlier call later text backend compile, events = earlier ++ .evaluate call :: later ∧
    call.name = name ∧ (s.afterAll earlier).languageFor call.name call.language = installed.language ∧
    ((s.afterAll earlier).expression name).scriptSlot = Slot.empty ∧
    ((s.afterAll (earlier ++ [.evaluate call])).expression name).scriptSlot.installed = some installed ∧
    (s.afterAll earlier).registry.resolve installed.language = some backend ∧
    backend.compile? = some compile ∧ (s.expression name).text? = some text ∧
    compile (s.evaluator.prelude.global ++ s.evaluator.prelude.application ++ text) =
      .ok installed.artifact

theorem compile?_of_compiler? {ev : Evaluator} {backend : ScriptBackend}
    {compile : String → Outcome BackendError CompiledScript}
    (offered : ev.compiler? backend = some compile) : backend.compile? = some compile := by
  unfold Evaluator.compiler? at offered
  split at offered
  · exact offered
  · cases offered

/-- The event that fills an empty slot for scripts is a call that compiles for a script language. -/
theorem scriptSlot_filled {event : Event} {installed : Installed CompiledScript}
    (vacant : (s.expression name).scriptSlot.installed = none)
    (filled : ((s.after event).expression name).scriptSlot.installed = some installed) :
    ∃ call text backend compile, event = .evaluate call ∧ call.name = name ∧
      s.languageFor call.name call.language = installed.language ∧
      LanguageClass.of installed.language = .ok (.script installed.language) ∧
      s.registry.resolve installed.language = some backend ∧ backend.compile? = some compile ∧
      (s.expression name).text? = some text ∧
      compile (s.evaluator.prelude.augment text) = .ok installed.artifact := by
  rcases s.expression_after_cases event name with kept | ⟨call, rfl, rfl, evaluated⟩
  · rw [kept, vacant] at filled
    cases filled
  · rw [evaluated, answer_eq] at filled
    obtain ⟨language, classEq, text, backend, compile, present, known, offered, made⟩ :=
      Evaluator.evaluateIn_scriptSlot_filled vacant filled
    exact ⟨call, text, backend, compile, rfl, rfl, language, classEq, known,
      compile?_of_compiler? offered, present, made⟩

theorem script_of_fresh (fresh : s.Fresh) (events : List Event) {installed : Installed CompiledScript}
    (found : ((s.afterAll events).expression name).scriptSlot.installed = some installed) :
    LanguageClass.of installed.language = .ok (.script installed.language) ∧
      ScriptOrigin s events name installed := by
  have vacant : (s.expression name).scriptSlot.installed = none := by rw [← fresh name]; rfl
  obtain ⟨earlier, event, later, split, before, filled⟩ :=
    exists_filling_transition after (fun s => (s.expression name).scriptSlot.installed)
      (fun s event _ => (s.evolves_after event name).scriptSlot_stays) vacant events found
  obtain ⟨call, text, backend, compile, rfl, named, language, classEq, known, offered, present, made⟩ :=
    scriptSlot_filled before filled
  refine ⟨classEq, earlier, call, later, text, backend, compile, split, named, language,
    Slot.eq_empty_of_installed before, ?_, known, offered, ?_, ?_⟩
  · rw [afterAll_append]
    exact filled
  · rw [← (s.evolves_afterAll earlier name).text?_eq]
    exact present
  · change compile ((s.afterAll earlier).evaluator.prelude.augment text) = _ at made
    rw [evaluator_afterAll] at made
    exact made

/-!
### Both slots
-/

/-- What the slots of one expression hold after a run of a session.

* `kept`: slots apart, the expression is the one that the session began with.
* `parsed`: a parsed form is kept for interpolated text alone, and is that of the expression's text in the
  form that is handed to the parser.
* `parsedOnce`: once it is kept, no evaluation of interpolated text parses.
* `script`: a script is kept for a script language alone, never for a formula or interpolated identifier,
  and has its origin in the run.
* `parsedStays`, `scriptStays`: what is kept stays, whatever happens afterwards.
* `textless`: an expression without text, or with a blank one, keeps nothing. -/
structure SlotsSound (s : Session) (events : List Event) (name : String) : Prop where
  kept : ((s.afterAll events).expression name).fresh = (s.expression name).fresh
  parsed : ∀ installed, ((s.afterAll events).expression name).parsedSlot.installed = some installed →
    installed.language = LanguageClass.interpolatedName ∧
      ∃ text, (s.expression name).textFor LanguageClass.interpolatedName = some text ∧
        s.evaluator.textProvider.parse text = .ok installed.artifact
  parsedOnce : ((s.afterAll events).expression name).parsedSlot.isPopulated = true →
    ∀ language context text, LanguageClass.of language = .ok .interpolated →
      CollaboratorCall.parse text ∉ (s.evaluator.evaluateIn (s.afterAll events).registry language
        ((s.afterAll events).expression name) context).calls
  script : ∀ installed, ((s.afterAll events).expression name).scriptSlot.installed = some installed →
    LanguageClass.of installed.language = .ok (.script installed.language) ∧
      LanguageClass.isFormula installed.language = .ok false ∧
      LanguageClass.isInterpolated installed.language = .ok false ∧ ScriptOrigin s events name installed
  parsedStays : ∀ installed later,
    ((s.afterAll events).expression name).parsedSlot.installed = some installed →
    ((s.afterAll (events ++ later)).expression name).parsedSlot.installed = some installed
  scriptStays : ∀ installed later,
    ((s.afterAll events).expression name).scriptSlot.installed = some installed →
    ((s.afterAll (events ++ later)).expression name).scriptSlot.installed = some installed
  textless : (s.expression name).text? = none →
    ((s.afterAll events).expression name).parsedSlot = Slot.empty ∧
      ((s.afterAll events).expression name).scriptSlot = Slot.empty

/-- However evaluations of fresh expressions and changes of the registry follow each other, the slots of
every expression hold what its own text was made into. -/
theorem slotsSound_of_fresh (s : Session) (fresh : s.Fresh) (events : List Event) (name : String) :
    SlotsSound s events name := by
  have evolves := s.evolves_afterAll events name
  have current : s.evaluator.ParsedCurrent ((s.afterAll events).expression name) := by
    apply evolves.parsedCurrent rfl
    rw [← fresh name]
    exact .fresh
  constructor
  case kept => exact evolves.fresh_eq
  case parsed =>
    intro installed found
    obtain ⟨tagEq, text, resolved, made⟩ := current installed found
    exact ⟨tagEq, text, (evolves.textFor_eq _).symm.trans resolved, made⟩
  case parsedOnce =>
    intro populated language context text classEq
    obtain ⟨installed, found⟩ := Option.isSome_iff_exists.mp populated
    exact not_parsed_of_kept current found classEq context text
  case script =>
    intro installed found
    obtain ⟨classEq, origin⟩ := script_of_fresh fresh events found
    obtain ⟨-, nonblank, notFormula, notInterpolated⟩ := LanguageClass.of_eq_script_iff.mp classEq
    refine ⟨classEq, ?_, ?_, origin⟩
    · rw [LanguageClass.isFormula_eq nonblank, notFormula]
    · simp [LanguageClass.isInterpolated_eq nonblank, notInterpolated]
  case parsedStays =>
    intro installed later found
    rw [afterAll_append]
    exact ((s.afterAll events).evolves_afterAll later name).parsedSlot_stays found
  case scriptStays =>
    intro installed later found
    rw [afterAll_append]
    exact ((s.afterAll events).evolves_afterAll later name).scriptSlot_stays found
  case textless =>
    intro absent
    constructor
    · apply Slot.eq_empty_of_installed
      cases foundEq : ((s.afterAll events).expression name).parsedSlot.installed with
      | none => rfl
      | some installed =>
          obtain ⟨-, text, resolved, -⟩ := current installed foundEq
          rw [evolves.textFor_eq, Expression.textFor_eq_none_iff.mpr absent] at resolved
          cases resolved
    · apply Slot.eq_empty_of_installed
      cases foundEq : ((s.afterAll events).expression name).scriptSlot.installed with
      | none => rfl
      | some installed =>
          obtain ⟨-, earlier, call, later, text, backend, compile, -, -, -, -, -, -, -, present, -⟩ :=
            script_of_fresh fresh events foundEq
          rw [absent] at present
          cases present

theorem slotsSound_celSession :
    celSession.Fresh ∧
      SlotsSound celSession
        [.evaluate ⟨"sum", none, Context.empty⟩, .unregister "CEL",
          .evaluate ⟨"sum", some "juel", Context.empty⟩] "sum" :=
  ⟨celSession_fresh, slotsSound_of_fresh celSession celSession_fresh _ "sum"⟩

end DecisionEval.Session
