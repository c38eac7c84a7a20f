import Userland.Kernel.Script
import Userland.Log.Level
import Userland.Panic

/-!
# Runs

A `Run` is a computation of a program against a kernel.  From a `Session`, that
is the kernel and the state of the logger, it makes a `Step`: how it came out,
the calls it made in order, and the session it leaves.  A run comes out in one
of three ways: it finishes with a value, the kernel ends it, or it panics.
After the last two nothing that was sequenced behind it takes place.

The record of calls is kept one entry per call.  How it is shown is the
business of `Transcript`.
-/

namespace Userland

open Kernel

/-- Whether there is a kernel, and what it will answer. -/
inductive Host
  | absent
  | scripted (script : Script)
  deriving DecidableEq

/-- How often the kernel will still return from an exit. -/
def Host.pendingExits : Host → Nat
  | absent => 0
  | scripted script => script.exit.length

/-- What a run acts on: the kernel and the state of the logger. -/
structure Session where
  host : Host
  logging : Log.State := {}
  deriving DecidableEq

/-- How a run came out. -/
inductive Outcome (α : Type)
  | finished (value : α)
  | exited (status : Int64)
  | panicked (panic : Panic)
  deriving DecidableEq

/-- The effect of a run on a session. -/
structure Step (α : Type) where
  outcome : Outcome α
  events : List Event
  session : Session
  deriving DecidableEq

namespace Step

variable {α : Type}

/-- The step with more events in front. -/
def after (events : List Event) (step : Step α) : Step α :=
  { step with events := events ++ step.events }

@[simp] theorem after_nil (step : Step α) : after [] step = step := rfl

theorem after_append (first second : List Event) (step : Step α) :
    after (first ++ second) step = after first (after second step) := by
  simp [after]

end Step

/-- A computation against the kernel. -/
def Run (α : Type) : Type :=
  Session → Step α

namespace Run

variable {α β : Type}

/-- Give up. -/
def panic (reason : Panic) : Run α :=
  fun session => ⟨.panicked reason, [], session⟩

instance : Monad Run where
  pure value := fun session => ⟨.finished value, [], session⟩
  bind first next := fun session =>
    let step := first session
    match step.outcome with
    | .finished value => Step.after step.events (next value step.session)
    | .exited status => ⟨.exited status, step.events, step.session⟩
    | .panicked reason => ⟨.panicked reason, step.events, step.session⟩

theorem pure_apply (value : α) (session : Session) :
    (pure value : Run α) session = ⟨.finished value, [], session⟩ := rfl

theorem bind_apply (first : Run α) (next : α → Run β) (session : Session) :
    (first >>= next) session =
      match (first session).outcome with
      | .finished value =>
        Step.after (first session).events (next value (first session).session)
      | .exited status => ⟨.exited status, (first session).events, (first session).session⟩
      | .panicked reason => ⟨.panicked reason, (first session).events, (first session).session⟩ :=
  rfl

instance : LawfulMonad Run := LawfulMonad.mk' Run
  (by
    intro α run
    funext session
    show (run >>= fun value => pure (id value)) session = run session
    rw [bind_apply]
    rcases run session with ⟨outcome, events, left⟩
    cases outcome <;> simp [pure_apply, Step.after])
  (by intros; rfl)
  (by
    intro α β γ run next last
    funext session
    simp only [bind_apply]
    rcases run session with ⟨outcome, events, left⟩
    cases outcome with
    | finished value =>
        simp only [Step.after]
        rcases next value left with ⟨outcome, events, left⟩
        cases outcome <;> simp
    | exited status => rfl
    | panicked reason => rfl)

/-- A mapped run makes the same calls and leaves the same session. -/
theorem map_apply (f : α → β) (run : Run α) (session : Session) :
    (f <$> run) session =
      match (run session).outcome with
      | .finished value => ⟨.finished (f value), (run session).events, (run session).session⟩
      | .exited status => ⟨.exited status, (run session).events, (run session).session⟩
      | .panicked reason => ⟨.panicked reason, (run session).events, (run session).session⟩ := by
  rw [map_eq_pure_bind, bind_apply]
  cases (run session).outcome with
  | finished value => simp [pure_apply, Step.after]
  | exited status => rfl
  | panicked reason => rfl

/-- The state of the logger. -/
def logging : Run Log.State :=
  fun session => ⟨.finished session.logging, [], session⟩

/-- Change the state of the logger. -/
def modifyLogging (change : Log.State → Log.State) : Run Unit :=
  fun session => ⟨.finished (), [], { session with logging := change session.logging }⟩

/-- Trap into the kernel.  Without a kernel the run panics and no call is
recorded. -/
def request (call : Call) : Run Reply :=
  fun session =>
    match session.host with
    | .absent => ⟨.panicked (.noKernel call.number), [], session⟩
    | .scripted script =>
      let served := script.serve call
      { outcome := match served.1 with
          | .ended status => .exited status
          | .resumed reply => .finished reply
        events := [⟨call, served.1⟩]
        session := { session with host := .scripted served.2 } }

/-- Hand a panic to a handler.  The calls made before it stay made. -/
def rescue (run : Run α) (handler : Panic → Run α) : Run α :=
  fun session =>
    let step := run session
    match step.outcome with
    | .panicked reason => Step.after step.events (handler reason step.session)
    | _ => step

end Run

end Userland
