/-
Module: DecisionEval.Proofs.FirstSuccess
Purpose: The history of a slot is decided by the first compilation that succeeds: what every use is answered,
  what the slot holds at every point, and how often something is compiled.
Main exports: Slot.firstSuccess?, Slot.Action.replyCold, Slot.Action.replyWarm, Slot.replay_warm, Slot.replay_empty,
  Slot.DecidedByFirstSuccess, Slot.decidedByFirstSuccess
-/
import DecisionEval.Slot.History
import DecisionEval.Proofs.SlotUse

namespace DecisionEval.Slot

variable {ε α : Type} {slot : Slot α} {installed : Installed α} {action : Action ε α}
  {actions earlier later : List (Action ε α)}

/-!
### Actions by themselves

What a use comes to depends on one thing only: whether an artifact is installed, and then which.
-/

/-- The artifact that an action has to install: that of a request whose compilation succeeds. -/
def Action.success? : Action ε α → Option (Installed α)
  | .get _ => none
  | .request language compilation => compilation.value?.map fun artifact => ⟨language, artifact⟩

/-- The artifact of the first action that has one. -/
def firstSuccess? (actions : List (Action ε α)) : Option (Installed α) := actions.findSome? Action.success?

/-- Whether an action asks for an artifact. -/
def Action.isRequest : Action ε α → Bool
  | .get _ => false
  | .request _ _ => true

/-- Whether an action asks for an artifact of another language. -/
def Action.asksBeside (language : String) : Action ε α → Bool
  | .get _ => false
  | .request other _ => other ≠ language

/-- The reply of a slot without an artifact: nothing is found, and a request ends as its compilation. -/
def Action.replyCold : Action ε α → Reply ε α
  | .get _ => .found none
  | .request _ compilation => .answered compilation true

/-- The reply of a slot with an artifact: for its language the artifact, without a compilation, and for another
language what an empty slot replies. -/
def Action.replyWarm (installed : Installed α) : Action ε α → Reply ε α
  | .get language => .found (if language = installed.language then some installed.artifact else none)
  | .request language compilation =>
    if language = installed.language then .answered (.ok installed.artifact) false
    else .answered compilation true

theorem Action.hasCompiled_replyCold (action : Action ε α) :
    action.replyCold.hasCompiled = action.isRequest := by
  cases action <;> rfl

theorem Action.hasCompiled_replyWarm (installed : Installed α) (action : Action ε α) :
    (action.replyWarm installed).hasCompiled = action.asksBeside installed.language := by
  cases action with
  | get => rfl
  | request language compilation =>
      by_cases same : language = installed.language
      · simp [replyWarm, asksBeside, Reply.hasCompiled, same]
      · simp [replyWarm, asksBeside, Reply.hasCompiled, same]

/-!
### One use
-/

/-- An empty slot takes what an action has to install, and stays empty otherwise. -/
theorem perform_empty (action : Action ε α) :
    (empty : Slot α).perform action = (action.replyCold, ⟨action.success?⟩) := by
  cases action with
  | get => rfl
  | request language compilation => cases compilation <;> rfl

/-- A slot with an artifact stays as it is. -/
theorem perform_warm (installed : Installed α) (action : Action ε α) :
    (⟨some installed⟩ : Slot α).perform action = (action.replyWarm installed, ⟨some installed⟩) := by
  cases action with
  | get language => simp [perform, get?, Action.replyWarm, eq_comm]
  | request language compilation =>
      rw [perform, getOrInstall_of_installed rfl]
      by_cases same : language = installed.language
      · simp [Action.replyWarm, same]
      · simp [Action.replyWarm, same, Ne.symm same]

/-- A use that installs nothing leaves every slot as it is. -/
theorem perform_snd_of_no_success (slot : Slot α) (fails : action.success? = none) :
    (slot.perform action).2 = slot := by
  obtain ⟨installed?⟩ := slot
  cases installed? with
  | none =>
      have vacant := perform_empty action
      rw [fails] at vacant
      exact congrArg Prod.snd vacant
  | some installed => exact congrArg Prod.snd (perform_warm installed action)

/-!
### Uses in a row
-/

theorem replay_append (slot : Slot α) (earlier later : List (Action ε α)) :
    slot.replay (earlier ++ later) =
      ((slot.replay earlier).1 ++ ((slot.replay earlier).2.replay later).1,
        ((slot.replay earlier).2.replay later).2) := by
  induction earlier generalizing slot with
  | nil => rfl
  | cons action rest inductionHypothesis =>
      simp only [List.cons_append, replay, inductionHypothesis]

theorem length_replay (slot : Slot α) (actions : List (Action ε α)) :
    (slot.replay actions).1.length = actions.length := by
  induction actions generalizing slot with
  | nil => rfl
  | cons action rest inductionHypothesis => simp only [replay, List.length_cons, inductionHypothesis]

/-- Once an artifact is installed, nothing but it decides. -/
theorem replay_warm (installed : Installed α) (actions : List (Action ε α)) :
    (⟨some installed⟩ : Slot α).replay actions =
      (actions.map (Action.replyWarm installed), ⟨some installed⟩) := by
  induction actions with
  | nil => rfl
  | cons action rest inductionHypothesis =>
      simp only [replay, perform_warm, inductionHypothesis, List.map_cons]

/-- As long as nothing succeeds, the slot stays empty. -/
theorem replay_cold (fail : ∀ action ∈ actions, action.success? = none) :
    (empty : Slot α).replay actions = (actions.map Action.replyCold, empty) := by
  induction actions with
  | nil => rfl
  | cons action rest inductionHypothesis =>
      obtain ⟨first, others⟩ := List.forall_mem_cons.mp fail
      have unchanged : (empty : Slot α).perform action = (action.replyCold, empty) := by
        rw [perform_empty, first]
        rfl
      simp only [replay, unchanged, inductionHypothesis others, List.map_cons]

/-- The first success parts a history in two. -/
theorem replay_decided (fail : ∀ action ∈ earlier, action.success? = none)
    (succeeds : action.success? = some installed) :
    (empty : Slot α).replay (earlier ++ action :: later) =
      (earlier.map Action.replyCold ++ action.replyCold :: later.map (Action.replyWarm installed),
        ⟨some installed⟩) := by
  have fills : (empty : Slot α).perform action = (action.replyCold, ⟨some installed⟩) := by
    rw [perform_empty, succeeds]
  simp only [replay_append, replay_cold fail, replay, fills, replay_warm]

/-- The slot holds what the history so far decides. -/
theorem replay_empty_snd (actions : List (Action ε α)) :
    ((empty : Slot α).replay actions).2 = ⟨firstSuccess? actions⟩ := by
  cases first : firstSuccess? actions with
  | none =>
      rw [replay_cold (List.findSome?_eq_none_iff.mp first)]
      rfl
  | some installed =>
      obtain ⟨earlier, action, later, rfl, succeeds, fail⟩ := List.findSome?_eq_some_iff.mp first
      rw [replay_decided fail succeeds]

/-- The reply to an action is decided by the history before it. -/
theorem replay_empty_getElem? (earlier : List (Action ε α)) (action : Action ε α)
    (later : List (Action ε α)) :
    ((empty : Slot α).replay (earlier ++ action :: later)).1[earlier.length]? =
      some (match firstSuccess? earlier with
        | none => action.replyCold
        | some installed => action.replyWarm installed) := by
  have next : ((empty : Slot α).replay (earlier ++ action :: later)).1[earlier.length]? =
      some ((⟨firstSuccess? earlier⟩ : Slot α).perform action).1 := by
    rw [replay_append, replay_empty_snd, ← length_replay (empty : Slot α) earlier]
    simp [replay]
  rw [next]
  cases firstSuccess? earlier with
  | none => exact congrArg (some ·.1) (perform_empty action)
  | some installed => exact congrArg (some ·.1) (perform_warm installed action)

/-!
### How often something is compiled
-/

/-- The number of compilations for a list of replies. -/
def compileCount (replies : List (Reply ε α)) : Nat := replies.countP Reply.hasCompiled

theorem compileCount_append (front back : List (Reply ε α)) :
    compileCount (front ++ back) = compileCount front + compileCount back :=
  List.countP_append

theorem compileCount_cold (actions : List (Action ε α)) :
    compileCount (actions.map Action.replyCold) = actions.countP Action.isRequest := by
  rw [compileCount, List.countP_map]
  exact List.countP_congr fun action _ => by simp [Action.hasCompiled_replyCold]

theorem compileCount_warm (installed : Installed α) (actions : List (Action ε α)) :
    compileCount (actions.map (Action.replyWarm installed)) =
      actions.countP (Action.asksBeside installed.language) := by
  rw [compileCount, List.countP_map]
  exact List.countP_congr fun action _ => by simp [Action.hasCompiled_replyWarm]

/-- Every request up to the first success is compiled, and after it those for other languages are. -/
theorem compileCount_decided (fail : ∀ action ∈ earlier, action.success? = none)
    (succeeds : action.success? = some installed) :
    compileCount ((empty : Slot α).replay (earlier ++ action :: later)).1 =
      (earlier ++ [action]).countP Action.isRequest +
        later.countP (Action.asksBeside installed.language) := by
  have parted : (earlier.map Action.replyCold ++ action.replyCold :: later.map (Action.replyWarm installed)) =
      (earlier ++ [action]).map Action.replyCold ++ later.map (Action.replyWarm installed) := by simp
  rw [replay_decided fail succeeds, parted, compileCount_append, compileCount_cold, compileCount_warm]

/-!
### The whole history
-/

/-- What is decided about the history of a slot that is empty at first.

* `holds`: at every point the slot holds the artifact of the first success so far, under its language, and nothing
  if there has been none.
* `stays`: what the slot holds at some point it holds ever after.
* `cold`: up to the first success and with it, a look finds nothing, and every request compiles once and ends as
  its compilation.
* `warm`: from then on a look finds the artifact under its language and nothing under another; a request for that
  language is answered with the artifact and compiles nothing, and one for another language compiles once and ends
  as its compilation.
* `failing`: a compilation that fails leaves the slot exactly as it was.
* `unsuccessful`, `successful`: all requests are compiled, or those up to the first success and of the later ones
  those for other languages. -/
structure DecidedByFirstSuccess (actions : List (Action ε α)) : Prop where
  holds : ∀ earlier later, actions = earlier ++ later →
    ((empty : Slot α).replay earlier).2 = ⟨firstSuccess? earlier⟩
  stays : ∀ earlier later installed, actions = earlier ++ later →
    ((empty : Slot α).replay earlier).2 = ⟨some installed⟩ →
      ((empty : Slot α).replay actions).2 = ⟨some installed⟩
  cold : ∀ earlier action later, actions = earlier ++ action :: later → firstSuccess? earlier = none →
    ((empty : Slot α).replay actions).1[earlier.length]? = some action.replyCold
  warm : ∀ earlier action later installed, actions = earlier ++ action :: later →
    firstSuccess? earlier = some installed →
      ((empty : Slot α).replay actions).1[earlier.length]? = some (action.replyWarm installed)
  failing : ∀ earlier language compilation later,
    actions = earlier ++ .request language compilation :: later → compilation.value? = none →
      ((empty : Slot α).replay (earlier ++ [.request language compilation])).2 =
        ((empty : Slot α).replay earlier).2
  unsuccessful : firstSuccess? actions = none →
    compileCount ((empty : Slot α).replay actions).1 = actions.countP Action.isRequest
  successful : ∀ earlier action later installed, actions = earlier ++ action :: later →
    firstSuccess? earlier = none → action.success? = some installed →
      compileCount ((empty : Slot α).replay actions).1 =
        (earlier ++ [action]).countP Action.isRequest +
          later.countP (Action.asksBeside installed.language)

/-- The first success decides every history. -/
theorem decidedByFirstSuccess (actions : List (Action ε α)) : DecidedByFirstSuccess actions := by
  constructor
  case holds =>
    intro earlier _ _
    exact replay_empty_snd earlier
  case stays =>
    rintro earlier later installed rfl holds
    rw [replay_append, holds, replay_warm]
  case cold =>
    rintro earlier action later rfl unsuccessful
    rw [replay_empty_getElem?, unsuccessful]
  case warm =>
    rintro earlier action later installed rfl first
    rw [replay_empty_getElem?, first]
  case failing =>
    rintro earlier language compilation later rfl fails
    rw [replay_append]
    have nothing : (Action.request language compilation).success? = none := by simp [Action.success?, fails]
    exact perform_snd_of_no_success _ nothing
  case unsuccessful =>
    intro unsuccessful
    rw [replay_cold (List.findSome?_eq_none_iff.mp unsuccessful), compileCount_cold]
  case successful =>
    rintro earlier action later installed rfl unsuccessful succeeds
    exact compileCount_decided (List.findSome?_eq_none_iff.mp unsuccessful) succeeds

/-- A failure and a fault leave the slot empty. What is compiled for another language is not kept. -/
example : (empty : Slot Nat).replay [.request "juel" (.error "syntax"), .request "juel" .fault,
      .request "juel" (.ok 1), .request "cel" (.ok 2), .get "cel", .request "juel" (.ok 3)] =
    ([.answered (.error "syntax") true, .answered .fault true, .answered (.ok 1) true,
      .answered (.ok 2) true, .found none, .answered (.ok 1) false], ⟨some ⟨"juel", 1⟩⟩) := by
  decide

end DecisionEval.Slot
