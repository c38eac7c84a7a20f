import Userland.Ending
import Userland.Proofs.Kernel.Replies

/-!
# One run after another

A sequence is decided by how its first part comes out: after a value the second
part takes over where the first left the session, and after an exit or a panic
there is no second part.  `bind_of_finished`, `bind_of_exited` and
`bind_of_panicked` say so once, so that no later proof opens a sequence.

The other lemmas say what one call does in a session with a kernel: one entry
in the record, and the script that is left.  Nothing is said here about a
session without a kernel, where every call panics.  An exit comes last: behind
it there is no part of a run, whether the kernel takes it or returns.
-/

namespace Userland

open Kernel

namespace Step

variable {α : Type} (events : List Event) (step : Step α)

@[simp] theorem outcome_after : (after events step).outcome = step.outcome := rfl

@[simp] theorem events_after : (after events step).events = events ++ step.events := rfl

@[simp] theorem session_after : (after events step).session = step.session := rfl

end Step

namespace Run

variable {α β : Type} {first : Run α} {next : α → Run β} {session : Session}

theorem bind_of_finished {value : α} (finished : (first session).outcome = .finished value) :
    (first >>= next) session =
      Step.after (first session).events (next value (first session).session) := by
  rw [bind_apply, finished]

theorem bind_of_exited {status : Int64} (exited : (first session).outcome = .exited status) :
    (first >>= next) session =
      ⟨.exited status, (first session).events, (first session).session⟩ := by
  rw [bind_apply, exited]

theorem bind_of_panicked {reason : Panic}
    (panicked : (first session).outcome = .panicked reason) :
    (first >>= next) session =
      ⟨.panicked reason, (first session).events, (first session).session⟩ := by
  rw [bind_apply, panicked]

/-- The first part known altogether. -/
theorem bind_of_ran {value : α} {events : List Event} {left : Session}
    (ran : first session = ⟨.finished value, events, left⟩) :
    (first >>= next) session = Step.after events (next value left) := by
  rw [bind_apply, ran]

/-- The first part known to go on as another run does. -/
theorem bind_of_after {run : Run α} {events : List Event} {left : Session}
    (continued : first session = Step.after events (run left)) :
    (first >>= next) session = Step.after events ((run >>= next) left) := by
  rw [bind_apply, bind_apply, continued, Step.outcome_after]
  cases (run left).outcome with
  | finished value => rw [← Step.after_append]; rfl
  | exited status => rfl
  | panicked reason => rfl

theorem map_of_ran (f : α → β) {value : α} {events : List Event} {left : Session}
    (ran : first session = ⟨.finished value, events, left⟩) :
    (f <$> first) session = ⟨.finished (f value), events, left⟩ := by
  rw [map_apply, ran]

theorem map_of_after (f : α → β) {run : Run α} {events : List Event} {left : Session}
    (continued : first session = Step.after events (run left)) :
    (f <$> first) session = Step.after events ((f <$> run) left) := by
  rw [← bind_pure_comp, ← bind_pure_comp, bind_of_after continued]

/-- A call that resumes the program. -/
theorem request_of_resumed {call : Call} {script left : Script} {reply : Reply}
    (served : script.serve call = (.resumed reply, left)) (logging : Log.State) :
    request call ⟨.scripted script, logging⟩ =
      ⟨.finished reply, [⟨call, .resumed reply⟩], ⟨.scripted left, logging⟩⟩ := by
  simp only [request, served]

/-- A call that ends the program. -/
theorem request_of_ended {call : Call} {script left : Script} {status : Int64}
    (served : script.serve call = (.ended status, left)) (logging : Log.State) :
    request call ⟨.scripted script, logging⟩ =
      ⟨.exited status, [⟨call, .ended status⟩], ⟨.scripted left, logging⟩⟩ := by
  simp only [request, served]

end Run

namespace Trap

variable (script : Script) (logging : Log.State)

theorem exec_scripted (name : Text.Terminated) (count : Nat)
    (arguments : Option (List Text.Terminated)) :
    exec name count arguments ⟨.scripted script, logging⟩ =
      ⟨.finished (script.execWord 0),
        [⟨.exec name count arguments, .resumed (.returned (script.execWord 0))⟩],
        ⟨.scripted (script.afterExecs 1), logging⟩⟩ := by
  rw [exec, Run.bind_of_ran
    (Run.request_of_resumed (script.serve_exec name count arguments) logging)]
  rfl

theorem join_scripted (child : UInt64) (code : Int32) :
    join child code ⟨.scripted script, logging⟩ =
      ⟨.finished ((script.joinReply 0).1, (script.joinReply 0).2.getD code),
        [⟨.join child, .resumed (.joined (script.joinReply 0).1 (script.joinReply 0).2)⟩],
        ⟨.scripted (script.afterJoins 1), logging⟩⟩ := by
  rw [join, Run.bind_of_ran (Run.request_of_resumed (script.serve_join child) logging)]
  rfl

theorem write_scripted (descriptor : UInt64) (data : List UInt8) :
    write descriptor data ⟨.scripted script, logging⟩ =
      ⟨.finished (script.writeReply 0 data.length).word,
        [⟨.write descriptor data, .resumed (script.writeReply 0 data.length)⟩],
        ⟨.scripted (script.afterWrites 1), logging⟩⟩ := by
  rw [write, Run.bind_of_ran (Run.request_of_resumed (script.serve_write descriptor data) logging)]
  rfl

/-- An exit for which no return was prepared. -/
theorem exit_scripted {α : Type} (code : Int32) (final : script.exit = []) :
    (exit code : Run α) ⟨.scripted script, logging⟩ =
      ⟨.exited (statusWord code).toInt64,
        [⟨.exit (statusWord code), .ended (statusWord code).toInt64⟩],
        ⟨.scripted script, logging⟩⟩ := by
  have ended := Run.request_of_ended (script.serve_exit (statusWord code) final) logging
  rw [exit, Run.bind_of_exited (congrArg Step.outcome ended), ended]

/-- An exit from which the kernel returns. -/
theorem exit_returned {α : Type} (code : Int32) {word : Int64} {rest : List Int64}
    (prepared : script.exit = word :: rest) :
    (exit code : Run α) ⟨.scripted script, logging⟩ =
      ⟨.panicked .exitReturned, [⟨.exit (statusWord code), .resumed (.returned word)⟩],
        ⟨.scripted { script with exit := rest }, logging⟩⟩ := by
  have served : script.serve (.exit (statusWord code)) =
      (.resumed (.returned word), { script with exit := rest }) := by
    simp only [Script.serve, prepared]
  rw [exit, Run.bind_of_ran (Run.request_of_resumed served logging)]
  rfl

end Trap

/-! ## An exit at the end -/

/-- The entry of an exit that ends the process. -/
def exitEvent (code : Int32) : Event where
  call := .exit (Trap.statusWord code)
  response := .ended code.toInt64

theorem exit_final {α : Type} (code : Int32) {script : Script} (final : script.exit = [])
    (logging : Log.State) :
    (exit code : Run α) ⟨.scripted script, logging⟩ =
      ⟨.exited code.toInt64, [exitEvent code], ⟨.scripted script, logging⟩⟩ :=
  Trap.exit_scripted script logging code final

/-- No part of a run stands behind an exit. -/
theorem exit_bind {α β : Type} (code : Int32) (next : α → Run β) :
    (exit code : Run α) >>= next = exit code :=
  bind_assoc (Run.request (.exit (Trap.statusWord code)))
    (fun _reply => (Run.panic .exitReturned : Run α)) next

theorem bind_exit_bind {α β γ : Type} (front : Run γ) (code : Int32) (next : α → Run β) :
    (front >>= fun _ => (exit code : Run α)) >>= next = front >>= fun _ => exit code := by
  rw [bind_assoc]
  congr 1
  funext _
  exact exit_bind code next

theorem outcome_exit_ne_finished {α : Type} (code : Int32) (session : Session) (value : α) :
    ((exit code : Run α) session).outcome ≠ .finished value := by
  change ((Run.request _ >>= fun _ => Run.panic _) session).outcome ≠ _
  rw [Run.bind_apply]
  cases (Run.request (.exit (Trap.statusWord code)) session).outcome with
  | finished reply => exact nofun
  | exited status => exact nofun
  | panicked reason => exact nofun

/-- A run that ends in an exit does not come back, whatever stands in front. -/
theorem outcome_bind_exit_ne_finished {α β : Type} (front : Run α) (code : Int32)
    (session : Session) (value : β) :
    ((front >>= fun _ => (exit code : Run β)) session).outcome ≠ .finished value := by
  rw [Run.bind_apply]
  cases (front session).outcome with
  | finished result => exact outcome_exit_ne_finished code (front session).session value
  | exited status => exact nofun
  | panicked reason => exact nofun

end Userland
