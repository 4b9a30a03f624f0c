/-
Module: DecisionEval.Proofs.Isolation
Purpose: What a run of a session does with one expression, which does not depend on what it does with others.
Main exports: CollaboratorCall.makes, Session.answered, Session.Event.concerns, Session.AgreeOn,
  Session.AgreeOn.run, Session.answers_isolated
-/
import DecisionEval.Proofs.SessionRun

namespace DecisionEval

/-- Whether a call makes an artifact, that is, parses a text or compiles a script. -/
def CollaboratorCall.makes : CollaboratorCall → Bool
  | .parse _ => true
  | .compile _ _ => true
  | _ => false

namespace Session

/-- The calls of a run with the evaluations that answer them, in order. -/
def answered : Session → List Event → List (Call × Evaluation)
  | _, [] => []
  | s, .evaluate call :: rest => (call, s.answer call) :: (s.after (.evaluate call)).answered rest
  | s, event :: rest => (s.after event).answered rest

/-- How many texts were parsed and scripts compiled for evaluations. -/
def artifactsMade (answers : List (Call × Evaluation)) : Nat :=
  (answers.flatMap (·.2.calls)).countP (·.makes)

/-- Whether an event can matter to an expression: every call does that names it, and every change of the
registry, but no call that names another one. -/
def Event.concerns (name : String) : Event → Bool
  | .evaluate call => call.name = name
  | .register _ _ => true
  | .unregister _ => true

variable {s t : Session} {name : String} {event : Event} {call : Call}

/-!
### Sessions that agree on one expression

An expression is known by its name alone. Another one may have the same text, id, language and all else; it is
still another one, and nothing that happens to it is seen here.
-/

/-- Two sessions have the same evaluator, the same registry, and under one name the same expression. Their
other expressions can be any. -/
structure AgreeOn (name : String) (s t : Session) : Prop where
  evaluator : s.evaluator = t.evaluator
  registry : s.registry = t.registry
  expression : s.expression name = t.expression name

namespace AgreeOn

theorem refl (name : String) (s : Session) : AgreeOn name s s := ⟨rfl, rfl, rfl⟩

/-- An evaluation reads nothing but the expression that it evaluates, the evaluator and the registry. -/
theorem answer_eq (agree : AgreeOn name s t) (named : call.name = name) : s.answer call = t.answer call := by
  subst named
  rw [Session.answer_eq, Session.answer_eq, languageFor, languageFor, agree.evaluator, agree.registry,
    agree.expression]

/-- What happens to both sessions leaves them in agreement. -/
theorem after (agree : AgreeOn name s t) (event : Event) : AgreeOn name (s.after event) (t.after event) := by
  constructor
  case evaluator => rw [evaluator_after, evaluator_after, agree.evaluator]
  case registry => exact registry_after_congr agree.registry event
  case expression =>
    cases event with
    | evaluate call =>
        by_cases named : call.name = name
        · have same := agree.answer_eq named
          subst named
          rw [expression_after_evaluate_self, expression_after_evaluate_self, same]
        · rw [expression_after_evaluate_of_ne (Ne.symm named), expression_after_evaluate_of_ne (Ne.symm named),
            agree.expression]
    | register language backend => exact agree.expression
    | unregister language => exact agree.expression

/-- An evaluation writes nothing but the slots of the expression that it evaluates. -/
theorem after_other (agree : AgreeOn name s t) (distinct : call.name ≠ name) :
    AgreeOn name (s.after (.evaluate call)) t := by
  constructor
  case evaluator => rw [evaluator_after, agree.evaluator]
  case registry => rw [registry_after_evaluate, agree.registry]
  case expression => rw [expression_after_evaluate_of_ne (Ne.symm distinct), agree.expression]

/-- In a run the evaluations of an expression are those of the run without all calls that name others, and
the two runs leave the expression the same. -/
theorem run (agree : AgreeOn name s t) (events : List Event) :
    (s.answered events).filter (·.1.name = name) = t.answered (events.filter (·.concerns name)) ∧
      AgreeOn name (s.afterAll events) (t.afterAll (events.filter (·.concerns name))) := by
  induction events generalizing s t with
  | nil => exact ⟨rfl, agree⟩
  | cons event rest inductionHypothesis =>
      cases event with
      | evaluate call =>
          by_cases named : call.name = name
          · have kept : (Event.evaluate call).concerns name = true := decide_eq_true named
            obtain ⟨answers, states⟩ := inductionHypothesis (agree.after (.evaluate call))
            rw [List.filter_cons_of_pos kept]
            refine ⟨?_, states⟩
            rw [answered, answered, List.filter_cons_of_pos (by simpa using named), answers,
              agree.answer_eq named]
          · -- The call is left out of the second run, which stands still.
            have dropped : ¬ (Event.evaluate call).concerns name = true := by
              simpa [Event.concerns] using named
            obtain ⟨answers, states⟩ := inductionHypothesis (agree.after_other named)
            rw [List.filter_cons_of_neg dropped]
            refine ⟨?_, states⟩
            rw [answered, List.filter_cons_of_neg (by simpa using named), answers]
      | register language backend => exact inductionHypothesis (agree.after (.register language backend))
      | unregister language => exact inductionHypothesis (agree.after (.unregister language))

end AgreeOn

/-- Of calls alone, those that name the expression concern it. -/
theorem filter_concerns_calls (name : String) (calls : List Call) :
    (calls.map Event.evaluate).filter (·.concerns name) =
      (calls.filter (·.name = name)).map .evaluate :=
  List.filter_map

/-- While the registry does not change, the evaluations of one expression in a run (their outcomes, the calls of
collaborators, and the slots that each of them leaves) are those of the run that keeps only the calls that name
it, and so are its slots in the end. How much is parsed and compiled for it is the same in every other run with
the same calls for it, in any session that has this expression under its name, whatever else that has. -/
theorem answers_isolated (s : Session) (calls : List Call) (name : String) :
    (s.answered (calls.map .evaluate)).filter (·.1.name = name) =
        s.answered ((calls.filter (·.name = name)).map .evaluate) ∧
      (s.afterAll (calls.map .evaluate)).expression name =
        (s.afterAll ((calls.filter (·.name = name)).map .evaluate)).expression name ∧
      ∀ (other : Session) (others : List Call), AgreeOn name other s →
        others.filter (·.name = name) = calls.filter (·.name = name) →
        artifactsMade ((other.answered (others.map .evaluate)).filter (·.1.name = name)) =
          artifactsMade ((s.answered (calls.map .evaluate)).filter (·.1.name = name)) := by
  obtain ⟨answers, states⟩ := (AgreeOn.refl name s).run (calls.map .evaluate)
  rw [filter_concerns_calls] at answers states
  refine ⟨answers, states.expression, ?_⟩
  intro other others agree sameCalls
  have otherAnswers := (agree.run (others.map .evaluate)).1
  rw [filter_concerns_calls, sameCalls] at otherAnswers
  rw [otherAnswers, answers]

/-- Two expressions that are equal in all but their names. -/
def twins : Session :=
  { celSession with
    expressions := celSession.expressions.insert "total" (celSession.expression "sum") }

-- Each of the twins is compiled for itself, and only once.
example :
    (["sum", "total"].map fun name =>
      artifactsMade ((twins.answered
        ((["sum", "total", "sum", "total"].map fun called =>
          Call.mk called none Context.empty).map .evaluate)).filter (·.1.name = name))) = [1, 1] := by
  decide +kernel

end Session

end DecisionEval
