import Userland.Proofs.Run.Asks

/-!
# What is left of a run without its output

Two sessions are alike when there is a kernel in both and their scripts differ
at most in how they take writes.  The state of the logger is free.  Two steps
are alike when they come out in the same way, made the same calls other than
writes, with the same replies, and leave sessions that are alike.

A run ignores output when it makes alike steps in alike sessions.  This holds of
sequences of such runs, of every call but a write, and of every run that
proceeds by writes alone, whatever becomes of them.  The last is what printing
and logging are: they are not compared write by write, since two alike sessions
need not make the same writes.
-/

namespace Userland

open Kernel

namespace Kernel

/-- Whether the call is a write. -/
def Call.isWrite : Call → Bool
  | .write .. => true
  | _ => false

theorem Call.isExit_of_isWrite {call : Call} (written : call.isWrite = true) :
    call.isExit = false := by
  cases call with
  | write => rfl
  | _ => cases written

/-- The record without its writes. -/
def control (events : List Event) : List Event :=
  events.filter fun event => !event.call.isWrite

@[simp] theorem control_append (first second : List Event) :
    control (first ++ second) = control first ++ control second :=
  List.filter_append ..

theorem mem_control {event : Event} {events : List Event} :
    event ∈ control events ↔ event ∈ events ∧ event.call.isWrite = false := by
  rw [control, List.mem_filter, Bool.not_eq_true']

theorem control_eq_self {events : List Event}
    (others : ∀ event ∈ events, event.call.isWrite = false) : control events = events := by
  apply List.filter_eq_self.mpr
  intro event listed
  rw [others event listed]
  rfl

/-- The script without what it says about writes. -/
def Script.muted (script : Script) : Script :=
  { script with write := [], outputClosed := false }

theorem Script.serve_write_muted (script : Script) (descriptor : UInt64) (data : List UInt8) :
    (script.serve (.write descriptor data)).2.muted = script.muted := by
  simp only [serve]
  split
  · rfl
  · split <;> rfl

/-- A call other than a write is served without regard to output. -/
theorem Script.serve_muted (script : Script) {call : Call} (other : call.isWrite = false) :
    script.muted.serve call = ((script.serve call).1, (script.serve call).2.muted) := by
  cases call with
  | write descriptor data => cases other
  | exit word =>
      rcases script with ⟨halt, exit⟩
      cases exit <;> rfl
  | _ => rfl

end Kernel

/-- There is a kernel in both, and the kernels differ at most in how they take
writes. -/
def Session.Alike (first second : Session) : Prop :=
  ∃ firstScript secondScript, first.host = .scripted firstScript ∧
    second.host = .scripted secondScript ∧ firstScript.muted = secondScript.muted

namespace Session.Alike

variable {first second third : Session}

theorem symm (alike : first.Alike second) : second.Alike first := by
  rcases alike with ⟨firstScript, secondScript, firstHost, secondHost, same⟩
  exact ⟨secondScript, firstScript, secondHost, firstHost, same.symm⟩

theorem trans (former : first.Alike second) (latter : second.Alike third) :
    first.Alike third := by
  rcases former with ⟨firstScript, secondScript, firstHost, secondHost, same⟩
  rcases latter with ⟨again, thirdScript, againHost, thirdHost, alsoSame⟩
  rw [secondHost] at againHost
  cases againHost
  exact ⟨firstScript, thirdScript, firstHost, thirdHost, same.trans alsoSame⟩

theorem left (alike : first.Alike second) : first.Alike first :=
  alike.trans alike.symm

theorem right (alike : first.Alike second) : second.Alike second :=
  alike.symm.trans alike

theorem exists_script {script : Script} {logging : Log.State}
    (alike : first.Alike ⟨.scripted script, logging⟩) :
    ∃ left state, first = ⟨.scripted left, state⟩ ∧ left.muted = script.muted := by
  rcases first with ⟨host, state⟩
  rcases alike with ⟨left, same, rfl, again, muted⟩
  cases again
  exact ⟨left, state, rfl, muted⟩

end Session.Alike

/-- Come out in the same way, with the same calls but for writes. -/
structure Step.Alike {α : Type} (first second : Step α) : Prop where
  outcome : first.outcome = second.outcome
  control : control first.events = control second.events
  session : first.session.Alike second.session

namespace Run

variable {α β : Type}

/-- Neither the level of logging nor what becomes of writes has a bearing on
anything but the writes themselves. -/
def IgnoresOutput (run : Run α) : Prop :=
  ∀ first second : Session, first.Alike second → (run first).Alike (run second)

/-- Where there is a kernel, the run comes back with a value and has done
nothing but write. -/
def OnlyWrites (run : Run α) : Prop :=
  ∀ session : Session, session.Alike session → ∃ value, (run session).outcome = .finished value ∧
    control (run session).events = [] ∧ session.Alike (run session).session

/-! ## Runs that only write -/

/-- What proceeds by writes alone comes back, and the kernel it leaves differs
from the one before at most in how it takes writes. -/
theorem Proceeds.onlyWrites {run : Run α}
    (proceeds : Proceeds (fun call => call.isWrite = true) run) : run.OnlyWrites := by
  induction proceeds with
  | pure value =>
      intro session present
      exact ⟨value, rfl, rfl, present⟩
  | logging =>
      intro session present
      exact ⟨session.logging, rfl, rfl, present⟩
  | modifyLogging change =>
      rintro ⟨_, logging⟩ ⟨script, -, rfl, -, -⟩
      exact ⟨(), rfl, rfl, script, script, rfl, rfl, rfl⟩
  | @request call written =>
      cases call with
      | write descriptor data =>
          rintro ⟨_, logging⟩ ⟨script, -, rfl, -, -⟩
          rcases script.serve_of_other (rfl : (Call.write descriptor data).isExit = false) with
            ⟨reply, left, served, -⟩
          have muted := script.serve_write_muted descriptor data
          rw [served] at muted
          rw [request_of_resumed served logging]
          exact ⟨reply, rfl, rfl, script, left, rfl, rfl, muted.symm⟩
      | _ => cases written
  | bind front behind frontHypothesis behindHypothesis =>
      intro session present
      rcases frontHypothesis session present with ⟨value, finished, silent, alike⟩
      rcases behindHypothesis value _ alike.right with ⟨result, ended, quiet, later⟩
      refine ⟨result, ?_, ?_, ?_⟩
      · rw [bind_of_finished finished, Step.outcome_after, ended]
      · rw [bind_of_finished finished, Step.events_after, control_append, silent, quiet,
          List.append_nil]
      · rw [bind_of_finished finished, Step.session_after]
        exact alike.trans later

/-- The same over a kernel that is known. -/
theorem OnlyWrites.ran {run : Run α} (writes : run.OnlyWrites) (script : Script)
    (logging : Log.State) :
    ∃ value writing left state,
      run ⟨.scripted script, logging⟩ =
        ⟨.finished value, writing, ⟨.scripted left, state⟩⟩ ∧
      control writing = [] ∧ left.muted = script.muted := by
  rcases writes ⟨.scripted script, logging⟩ ⟨script, script, rfl, rfl, rfl⟩ with
    ⟨value, finished, silent, alike⟩
  rcases alike.symm.exists_script with ⟨left, state, reached, muted⟩
  refine ⟨value, (run ⟨.scripted script, logging⟩).events, left, state, ?_, silent, muted⟩
  rw [← finished, ← reached]

/-- Whatever becomes of the writes before it, an exit is the end. -/
theorem OnlyWrites.bind_exit {run : Run α} (writes : run.OnlyWrites)
    (code : Int32) {script : Script} (final : script.exit = []) (logging : Log.State) :
    let step : Step β := (run >>= fun _ => exit code) ⟨.scripted script, logging⟩
    step.outcome = .exited code.toInt64 ∧ control step.events = [exitEvent code] := by
  rcases writes.ran script logging with ⟨value, writing, left, state, ran, silent, muted⟩
  have finalLeft : left.exit = [] := (congrArg Script.exit muted).trans final
  dsimp only
  rw [bind_of_ran ran, exit_final code finalLeft]
  refine ⟨rfl, ?_⟩
  rw [Step.events_after, control_append, silent]
  rfl

/-! ## Runs that ignore output -/

namespace IgnoresOutput

theorem pure (value : α) : IgnoresOutput (Pure.pure value : Run α) := by
  intro first second alike
  exact ⟨rfl, rfl, alike⟩

theorem panic (reason : Panic) : IgnoresOutput (Run.panic reason : Run α) := by
  intro first second alike
  exact ⟨rfl, rfl, alike⟩

theorem bind {front : Run α} {next : α → Run β} (frontIgnores : front.IgnoresOutput)
    (nextIgnores : ∀ value, (next value).IgnoresOutput) : (front >>= next).IgnoresOutput := by
  intro first second alike
  have fronts := frontIgnores first second alike
  cases outcome : (front first).outcome with
  | finished value =>
      have rests := nextIgnores value _ _ fronts.session
      rw [bind_of_finished outcome, bind_of_finished (fronts.outcome.symm.trans outcome)]
      refine ⟨rests.outcome, ?_, rests.session⟩
      rw [Step.events_after, Step.events_after, control_append, control_append, fronts.control,
        rests.control]
  | exited status =>
      rw [bind_of_exited outcome, bind_of_exited (fronts.outcome.symm.trans outcome)]
      exact ⟨rfl, fronts.control, fronts.session⟩
  | panicked reason =>
      rw [bind_of_panicked outcome, bind_of_panicked (fronts.outcome.symm.trans outcome)]
      exact ⟨rfl, fronts.control, fronts.session⟩

theorem map (f : α → β) {run : Run α} (ignores : run.IgnoresOutput) :
    (f <$> run).IgnoresOutput := by
  rw [← bind_pure_comp]
  exact ignores.bind fun value => pure (f value)

theorem request {call : Call} (other : call.isWrite = false) :
    IgnoresOutput (Run.request call) := by
  rintro ⟨_, firstLogging⟩ ⟨_, secondLogging⟩ ⟨firstScript, secondScript, rfl, rfl, same⟩
  -- Both scripts serve the call as their common muted script does.
  have served : ((firstScript.serve call).1, (firstScript.serve call).2.muted) =
      ((secondScript.serve call).1, (secondScript.serve call).2.muted) := by
    rw [← firstScript.serve_muted other, ← secondScript.serve_muted other, same]
  have response := (Prod.mk.inj served).1
  refine ⟨?_, ?_, ?_⟩
  · simp only [Run.request, response]
  · simp only [Run.request, response]
  · exact ⟨_, _, rfl, rfl, (Prod.mk.inj served).2⟩

/-- A run with nothing to tell can do its writing unnoticed. -/
theorem of_onlyWrites {run : Run Unit} (writes : run.OnlyWrites) : run.IgnoresOutput := by
  intro first second alike
  rcases writes first alike.left with ⟨firstValue, firstFinished, firstSilent, firstAlike⟩
  rcases writes second alike.right with ⟨secondValue, secondFinished, secondSilent, secondAlike⟩
  refine ⟨?_, ?_, ?_⟩
  · rw [firstFinished, secondFinished]
  · rw [firstSilent, secondSilent]
  · exact (firstAlike.symm.trans alike).trans secondAlike

end IgnoresOutput
end Run
end Userland
