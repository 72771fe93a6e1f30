import Corpus.Session

/-!
# Runs of attempts

An attempt is opened step by step: what it comes to in a session is what its continuation comes to
in the session that its first step leaves.
-/

namespace Corpus

namespace Session

variable {ε α β : Type}

def reporting (session : Session) (events : List Event) : Session :=
  { session with events := session.events ++ events.toArray }

def sending (session : Session) (texts : List String) : Session :=
  { session with sent := session.sent ++ texts.toArray }

@[simp] theorem reporting_nil (session : Session) : session.reporting [] = session := by
  simp [reporting]

@[simp] theorem reporting_reporting (session : Session) (events others : List Event) :
    (session.reporting events).reporting others = session.reporting (events ++ others) := by
  simp [reporting]

theorem attempt_bind (attempt : Attempt ε α) (next : α → Attempt ε β) (session : Session) :
    (attempt >>= next) session =
      match attempt session with
      | (.ok value, later) => next value later
      | (.error error, later) => (.error error, later) := by
  simp only [bind, ExceptT.bind, ExceptT.mk, StateT.bind, ExceptT.bindCont]
  cases attempt session with
  | mk outcome later => cases outcome <;> rfl

theorem attempt_pure (value : α) (session : Session) :
    (pure value : Attempt ε α) session = (.ok value, session) := rfl

theorem attempt_settle (outcome : Except ε α) (session : Session) :
    settle outcome session = (outcome, session) := rfl

theorem attempt_lift (run : Run α) (session : Session) :
    (liftM run : Attempt ε α) session = (.ok (run session).1, (run session).2) := rfl

theorem attempt_adapt {δ : Type} (attempt : Attempt ε α) (change : ε → δ) (session : Session) :
    (attempt.adapt change : Attempt δ α) session =
      ((attempt session).1.mapError change, (attempt session).2) := rfl

theorem attempt_bind_eq_ok {attempt : Attempt ε α} {next : α → Attempt ε β} {result : β}
    {session later : Session} (succeeded : (attempt >>= next) session = (.ok result, later)) :
    ∃ value middle, attempt session = (.ok value, middle) ∧
      next value middle = (.ok result, later) := by
  rw [attempt_bind] at succeeded
  rcases first : attempt session with ⟨error | value, middle⟩
  · rw [first] at succeeded
    cases succeeded
  · rw [first] at succeeded
    exact ⟨value, middle, rfl, succeeded⟩

theorem attempt_adapt_eq_ok {δ : Type} {attempt : Attempt ε α} {change : ε → δ} {value : α}
    {session later : Session}
    (succeeded : (attempt.adapt change : Attempt δ α) session = (.ok value, later)) :
    attempt session = (.ok value, later) := by
  rw [attempt_adapt] at succeeded
  rcases outcome : attempt session with ⟨error | value, middle⟩
  · rw [outcome] at succeeded
    cases succeeded
  · rw [outcome] at succeeded
    cases succeeded
    rfl

theorem attempt_report (event : Event) (session : Session) :
    (liftM (report event) : Attempt ε Unit) session = (.ok (), session.reporting [event]) := by
  have reported : (liftM (report event) : Attempt ε Unit) session =
      (.ok (), { session with events := session.events.push event }) := rfl
  simp [reported, reporting]

theorem attempt_reports (event : α → Event) (items : List α) (session : Session) :
    (forIn items PUnit.unit fun item _ => do
        report (event item)
        return ForInStep.yield PUnit.unit : Attempt ε PUnit) session =
      (.ok PUnit.unit, session.reporting (items.map event)) := by
  induction items generalizing session with
  | nil => simp [attempt_pure]
  | cons item items induction =>
    simp only [List.forIn_cons, attempt_bind, attempt_report, attempt_pure]
    rw [induction, reporting_reporting]
    rfl

end Session

end Corpus
