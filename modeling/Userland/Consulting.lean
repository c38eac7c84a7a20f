import Userland.Run

/-!
# Runs that consult their caller

A run may ask its caller questions on the way.  The caller answers by a function
with a state of its own, of which nothing is assumed.  The course of such a run
keeps questions and kernel calls in one list, in the order in which they came,
so it tells what was asked before which call.  Like the calls, the questions
asked before a run is ended or panics stay on record.
-/

namespace Userland

open Kernel

/-- One thing that happens during a run that consults its caller. -/
inductive Moment (Question : Type)
  | asked (question : Question)
  | called (event : Event)
  deriving DecidableEq

namespace Moment

variable {Question : Type}

/-- The question, if the moment is one. -/
def question? : Moment Question → Option Question
  | asked question => some question
  | called _ => none

/-- The kernel call, if the moment is one. -/
def event? : Moment Question → Option Event
  | asked _ => none
  | called event => some event

end Moment

/-- The effect of a run that consults its caller. -/
structure Course (Question σ α : Type) where
  outcome : Outcome α
  moments : List (Moment Question)
  state : σ
  session : Session

namespace Course

variable {Question σ α : Type}

/-- The course with more moments in front. -/
def after (moments : List (Moment Question)) (course : Course Question σ α) :
    Course Question σ α :=
  { course with moments := moments ++ course.moments }

def questions (course : Course Question σ α) : List Question :=
  course.moments.filterMap Moment.question?

def events (course : Course Question σ α) : List Event :=
  course.moments.filterMap Moment.event?

end Course

/-- A computation that may trap into the kernel and ask its caller, whose state
is of type `σ`. -/
def Consulting (Question σ α : Type) : Type :=
  σ → Session → Course Question σ α

namespace Consulting

variable {Question Answer σ α β : Type}

instance : Monad (Consulting Question σ) where
  pure value := fun state session => ⟨.finished value, [], state, session⟩
  bind first next := fun state session =>
    let course := first state session
    match course.outcome with
    | .finished value => Course.after course.moments (next value course.state course.session)
    | .exited status => { course with outcome := .exited status }
    | .panicked reason => { course with outcome := .panicked reason }

/-- A run asks nothing and leaves the caller's state alone. -/
instance : MonadLift Run (Consulting Question σ) where
  monadLift run := fun state session =>
    let step := run session
    ⟨step.outcome, step.events.map .called, state, step.session⟩

/-- Ask a question, which the caller answers by the given function. -/
def ask (answer : Question → σ → Answer × σ) (question : Question) :
    Consulting Question σ Answer :=
  fun state session =>
    let answered := answer question state
    ⟨.finished answered.1, [.asked question], answered.2, session⟩

theorem bind_apply (first : Consulting Question σ α) (next : α → Consulting Question σ β)
    (state : σ) (session : Session) :
    (first >>= next) state session =
      match (first state session).outcome with
      | .finished value =>
        Course.after (first state session).moments
          (next value (first state session).state (first state session).session)
      | .exited status => { first state session with outcome := .exited status }
      | .panicked reason => { first state session with outcome := .panicked reason } :=
  rfl

end Consulting

end Userland
