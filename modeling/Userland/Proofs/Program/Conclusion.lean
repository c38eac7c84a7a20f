import Userland.Proofs.Batch.Verdict

/-!
# How programs conclude

A program ends by one exit.  Its main part either answers an exit code, and the
exit stands behind it, or exits itself on the way, and then nothing behind it
takes place.  `Concludes` says this of the text of a main part: before its end
there is only a run that proceeds, and its end is an answer or an exit, with
zero or minus one.  Each of the five main parts is shown to be of this form,
with the calls it makes as obligations.

What the kernel does with the exit is its own affair.  When it takes the exit,
the run ends with that status.  When it returns, whatever the word, the run
panics, and no second exit is tried.
-/

namespace Userland

open Kernel Text Run

namespace Run

/-- A main part that proceeds to its end: an answer or an exit, with one of the
two codes. -/
inductive Concludes (allowed : Call → Prop) : Run Int32 → Prop
  | byAnswer {code : Int32} (known : code = 0 ∨ code = -1) : Concludes allowed (Pure.pure code)
  | byExit {code : Int32} (known : code = 0 ∨ code = -1) : Concludes allowed (exit code)
  | bind {α : Type} {front : Run α} {next : α → Run Int32} (proceeds : Proceeds allowed front)
      (concludes : ∀ value, Concludes allowed (next value)) : Concludes allowed (front >>= next)

namespace Concludes

variable {allowed : Call → Prop} {main : Run Int32}

theorem asks (concludes : Concludes allowed main)
    (exits : ∀ code, allowed (.exit (Trap.statusWord code))) : Asks allowed main := by
  induction concludes with
  | @byAnswer code known => exact .pure code
  | @byExit code known => exact exit_asks code (exits code)
  | bind proceeds concludes inductionHypothesis => exact .bind proceeds.asks inductionHypothesis

/-- Behind calls that are no exits the main part either answers the code, or
goes on as the exit itself, over a kernel that still has all of the returns that
were prepared for exits. -/
theorem reaches_end (concludes : Concludes allowed main)
    (others : ∀ call, allowed call → call.isExit = false) (script : Script)
    (logging : Log.State) :
    ∃ code before left state, (code = 0 ∨ code = -1) ∧ left.exit = script.exit ∧
      (∀ event ∈ before, event.call.isExit = false) ∧
      (main ⟨.scripted script, logging⟩ = ⟨.finished code, before, ⟨.scripted left, state⟩⟩ ∨
        main ⟨.scripted script, logging⟩ =
          Step.after before (exit code ⟨.scripted left, state⟩)) := by
  induction concludes generalizing script logging with
  | @byAnswer code known =>
      exact ⟨code, [], script, logging, known, rfl, List.forall_mem_nil _, .inl rfl⟩
  | @byExit code known =>
      exact ⟨code, [], script, logging, known, rfl, List.forall_mem_nil _, .inr rfl⟩
  | @bind α front next proceeds concludes inductionHypothesis =>
      rcases proceeds.finishes others script logging with
        ⟨value, events, middle, reached, ran, same, asked⟩
      rcases inductionHypothesis value middle reached with
        ⟨code, before, left, state, known, alsoSame, silent, ended⟩
      have quiet : ∀ event ∈ events, event.call.isExit = false :=
        fun event listed => others _ (asked event listed)
      refine ⟨code, events ++ before, left, state, known, alsoSame.trans same,
        List.forall_mem_append.mpr ⟨quiet, silent⟩, ?_⟩
      rw [bind_of_ran ran, Step.after_append]
      rcases ended with answered | exited
      · exact .inl (by rw [answered]; rfl)
      · exact .inr (by rw [exited])

end Concludes
end Run

/-! ## The five main parts -/

section Mains

variable {allowed : Call → Prop} (permits : Permits allowed)

include permits in
theorem complain_concludes (pieces : Pieces) :
    Concludes allowed (Terminal.printLine pieces >>= fun _ => exit (-1)) :=
  .bind (Terminal.print_proceeds fun piece _ => permits.writes piece) fun _ => .byExit (.inr rfl)

namespace Batch.SmokeTest

include permits in
theorem launchOnly_concludes : Concludes allowed launchOnly := by
  refine .bind (launchPrograms_proceeds permits) fun launched => ?_
  cases launched with
  | ok children =>
      exact .bind (Log.log_proceeds permits.writes (allLaunched children)) fun _ =>
        .byExit (.inl rfl)
  | error failure => exact complain_concludes permits _

include permits in
theorem launchAndJoin_concludes : Concludes allowed launchAndJoin := by
  rw [launchAndJoin_eq]
  refine .bind (launchPrograms_proceeds permits) fun launched => ?_
  cases launched with
  | error failure => exact complain_concludes permits _
  | ok children =>
      refine .bind (awaitAll_proceeds permits children) fun endings =>
        .bind (report_proceeds permits.writes endings) fun _ => .byAnswer ?_
      unfold verdict
      split
      · exact .inl rfl
      · exact .inr rfl

end Batch.SmokeTest

namespace Paging.SwapTest

include permits in
theorem inOrder_concludes (size : Nat) : Concludes allowed (inOrder size) := by
  unfold inOrder
  dsimp only
  split
  · exact complain_concludes permits _
  · exact .bind (Terminal.print_proceeds fun piece _ => permits.writes piece) fun _ =>
      .byAnswer (.inl rfl)

include permits in
theorem bySweeps_concludes (rounds pages width : Nat) :
    Concludes allowed (bySweeps rounds pages width) := by
  unfold bySweeps sweepMemory
  dsimp only
  split
  · exact complain_concludes permits _
  · exact .bind (Terminal.print_proceeds fun piece _ => permits.writes piece) fun _ =>
      .byAnswer (.inl rfl)

end Paging.SwapTest

namespace LineWriter

include permits in
theorem writeLines_concludes (indices : List Nat) : Concludes allowed (writeLines indices) := by
  have failed : ∀ pieces : Pieces,
      Concludes allowed (Terminal.print pieces >>= fun _ => pure (-1)) := fun pieces =>
    .bind (Terminal.print_proceeds fun piece _ => permits.writes piece) fun _ =>
      .byAnswer (.inr rfl)
  induction indices with
  | nil => exact .byAnswer (.inl rfl)
  | cons index rest inductionHypothesis =>
      refine .bind (File.write_proceeds _ _ fun _ => permits.writes line) fun written => ?_
      cases written with
      | none => exact failed _
      | some count =>
          dsimp only
          split
          · exact inductionHypothesis
          · exact failed _

end LineWriter

include permits in
theorem Program.main_concludes {program : Program} (listed : program ∈ all) :
    Concludes allowed program.main := by
  simp only [all, List.mem_cons, List.not_mem_nil, or_false] at listed
  rcases listed with rfl | rfl | rfl | rfl | rfl
  · exact Batch.SmokeTest.launchOnly_concludes permits
  · exact Batch.SmokeTest.launchAndJoin_concludes permits
  · simp only [walkInOrder]
    exact Paging.SwapTest.inOrder_concludes permits _
  · simp only [walkBySweeps]
    exact Paging.SwapTest.bySweeps_concludes permits _ _ _
  · exact LineWriter.writeLines_concludes permits _

end Mains

/-! ## A launch that fails -/

theorem permits_others : Permits fun call => call.isExit = false :=
  ⟨fun _ => rfl, fun _ _ _ _ => rfl, fun _ => rfl⟩

namespace Batch.SmokeTest

/-- One negative word among the replies to the batch is enough: the complaint
goes out, and the exit behind it belongs to the run. -/
theorem LaunchesAs.exits_of_negative {α : Type} {name : String} {run : Run α}
    (launches : LaunchesAs name run) {script : Script}
    (negative : ∃ entry < programs.length, script.execWord entry < 0) (logging : Log.State) :
    ∃ before left state, left.exit = script.exit ∧
      (∀ event ∈ before, event.call.isExit = false) ∧
      run ⟨.scripted script, logging⟩ =
        Step.after before (exit (-1) ⟨.scripted left, state⟩) := by
  rcases Script.exists_first_negative negative with ⟨entry, bound, word, started⟩
  rcases launches.of_failed bound word started logging with
    ⟨launching, complaining, left, records, printed, ran, same, -⟩
  refine ⟨_, left, logging, same, ?_, ran⟩
  intro event listed
  cases written : event.call.isWrite with
  | true => exact Call.isExit_of_isWrite written
  | false =>
      have kept := mem_control.mpr ⟨listed, written⟩
      rw [records.control_append_start bound printed] at kept
      rcases List.mem_mapIdx.mp kept with ⟨index, inside, rfl⟩
      rfl

end Batch.SmokeTest

namespace Program

theorem run_of_ended {α : Type} {program : Program} {session left : Session} {code : Int32}
    {before : List Event}
    (ended : program.main session = ⟨.finished code, before, left⟩ ∨
      program.main session = Step.after before (exit code left)) :
    (program.run session : Step α) = Step.after before (exit code left) := by
  rcases ended with answered | exited
  · exact bind_of_ran answered
  · rw [run, bind_of_after exited, exit_bind]

/-- As `Concludes.reaches_end`, for the main part of a program, and with the exit
inside it when the program launches a batch and that fails. -/
theorem main_reaches_end {program : Program} (listed : program ∈ all) (script : Script)
    (logging : Log.State) :
    ∃ code before left state, (code = 0 ∨ code = -1) ∧ left.exit = script.exit ∧
      (∀ event ∈ before, event.call.isExit = false) ∧
      (program.main ⟨.scripted script, logging⟩ =
          ⟨.finished code, before, ⟨.scripted left, state⟩⟩ ∨
        program.main ⟨.scripted script, logging⟩ =
          Step.after before (exit code ⟨.scripted left, state⟩)) ∧
      (program ∈ [launchOnly, launchAndJoin] →
        (∃ entry < Batch.SmokeTest.programs.length, script.execWord entry < 0) →
          code = -1 ∧ program.main ⟨.scripted script, logging⟩ =
            Step.after before (exit code ⟨.scripted left, state⟩)) := by
  by_cases failing : program ∈ [launchOnly, launchAndJoin] ∧
      ∃ entry < Batch.SmokeTest.programs.length, script.execWord entry < 0
  · rcases failing with ⟨launches, negative⟩
    have exits : ∃ before left state, left.exit = script.exit ∧
        (∀ event ∈ before, event.call.isExit = false) ∧
        program.main ⟨.scripted script, logging⟩ =
          Step.after before (exit (-1) ⟨.scripted left, state⟩) := by
      simp only [List.mem_cons, List.not_mem_nil, or_false] at launches
      rcases launches with rfl | rfl
      · exact Batch.SmokeTest.launchOnly_launches.exits_of_negative negative logging
      · exact Batch.SmokeTest.launchAndJoin_launches.exits_of_negative negative logging
    rcases exits with ⟨before, left, state, same, silent, exited⟩
    exact ⟨-1, before, left, state, .inr rfl, same, silent, .inr exited,
      fun _ _ => ⟨rfl, exited⟩⟩
  · rcases (main_concludes permits_others listed).reaches_end (fun _ other => other) script
      logging with ⟨code, before, left, state, known, same, silent, ended⟩
    exact ⟨code, before, left, state, known, same, silent, ended,
      fun launches negative => absurd ⟨launches, negative⟩ failing⟩

end Program

/-- What comes of an exit is decided by the returns that were prepared. -/
theorem exit_is_one_call {α : Type} (code : Int32) (script : Script) (logging : Log.State) :
    let step : Step α := exit code ⟨.scripted script, logging⟩
    ∃ response, step.events = [⟨.exit code.toInt64.toUInt64, response⟩] ∧
      (script.exit = [] → response = .ended code.toInt64 ∧ step.outcome = .exited code.toInt64) ∧
      ∀ word rest, script.exit = word :: rest →
        response = .resumed (.returned word) ∧ step.outcome = .panicked .exitReturned := by
  intro step
  cases prepared : script.exit with
  | nil =>
      have ran : step = ⟨.exited code.toInt64, [exitEvent code], ⟨.scripted script, logging⟩⟩ :=
        exit_final code prepared logging
      rw [ran]
      refine ⟨.ended code.toInt64, rfl, fun _ => ⟨rfl, rfl⟩, ?_⟩
      rintro word rest ⟨⟩
  | cons word rest =>
      have ran : step = ⟨.panicked .exitReturned,
          [⟨.exit code.toInt64.toUInt64, .resumed (.returned word)⟩],
          ⟨.scripted { script with exit := rest }, logging⟩⟩ :=
        Trap.exit_returned script logging code prepared
      rw [ran]
      refine ⟨.resumed (.returned word), rfl, ?_, ?_⟩
      · rintro ⟨⟩
      · rintro again others ⟨⟩
        exact ⟨rfl, rfl⟩

/-- Every program makes one exit over any kernel and at any level of logging,
with status zero or minus one, and no call after it.  The kernel that takes the
exit ends the run; the kernel that returns from it, with whatever word, makes
the run panic.  An exit made inside the main part is that one exit, so the run
is then the main part and nothing else, and so it is when a launch has failed. -/
theorem program_makes_one_exit {α : Type} (program : Program) (listed : program ∈ Program.all)
    (script : Script) (logging : Log.State) :
    let session : Session := ⟨.scripted script, logging⟩
    let step : Step α := program.run session
    ∃ before status response,
      step.events = before ++ [⟨.exit status.toUInt64, response⟩] ∧
      (∀ event ∈ before, event.call.isExit = false) ∧
      (status = 0 ∨ status = -1) ∧
      (script.exit = [] → response = .ended status ∧ step.outcome = .exited status) ∧
      (∀ word rest, script.exit = word :: rest →
        response = .resumed (.returned word) ∧ step.outcome = .panicked .exitReturned) ∧
      ((∃ event ∈ (program.main session).events, event.call.isExit = true) →
        (program.run session : Step Int32) = program.main session) ∧
      (program ∈ [Program.launchOnly, .launchAndJoin] →
        (∃ entry < Batch.SmokeTest.programs.length, script.execWord entry < 0) →
          status = -1 ∧ (program.run session : Step Int32) = program.main session) := by
  intro session step
  rcases Program.main_reaches_end listed script logging with
    ⟨code, before, left, state, known, same, silent, ended, failing⟩
  have ran : step = Step.after before (exit code ⟨.scripted left, state⟩) :=
    Program.run_of_ended ended
  have own : (program.run session : Step Int32) =
      Step.after before (exit code ⟨.scripted left, state⟩) := Program.run_of_ended ended
  have status : code.toInt64 = 0 ∨ code.toInt64 = -1 := by
    rcases known with rfl | rfl
    · exact .inl rfl
    · exact .inr rfl
  have inside : (∃ event ∈ (program.main session).events, event.call.isExit = true) →
      (program.run session : Step Int32) = program.main session := by
    rintro ⟨event, onRecord, exits⟩
    rcases ended with answered | exited
    · rw [answered] at onRecord
      rw [silent event onRecord] at exits
      cases exits
    · rw [own, exited]
  have failed : program ∈ [Program.launchOnly, .launchAndJoin] →
      (∃ entry < Batch.SmokeTest.programs.length, script.execWord entry < 0) →
        code.toInt64 = -1 ∧ (program.run session : Step Int32) = program.main session := by
    intro launches negative
    rcases failing launches negative with ⟨rfl, exited⟩
    exact ⟨rfl, own.trans exited.symm⟩
  rcases exit_is_one_call (α := α) code left state with ⟨response, once, taken, returned⟩
  rw [same] at taken returned
  refine ⟨before, code.toInt64, response, ?_, silent, status, ?_, ?_, inside, failed⟩
  · rw [ran, Step.events_after, once]
  · intro final
    exact ⟨(taken final).1, ran ▸ (taken final).2⟩
  · intro word rest prepared
    exact ⟨(returned word rest prepared).1, ran ▸ (returned word rest prepared).2⟩

/-- The second start is refused, and the kernel returns from the exit behind the
complaint: the other exit, which stands behind the main part, is not made. -/
theorem launchOnly_panics_once :
    let script : Script := { exec := [7, -3], exit := [5, 0] }
    let step : Step Int32 := Program.launchOnly.run ⟨.scripted script, {}⟩
    Program.launchOnly ∈ Program.all ∧ step.outcome = .panicked .exitReturned ∧
      step = Program.launchOnly.main ⟨.scripted script, {}⟩ := by
  intro script step
  have listed : Program.launchOnly ∈ Program.all := List.mem_cons_self
  have negative : ∃ entry < Batch.SmokeTest.programs.length, script.execWord entry < 0 :=
    ⟨1, by decide, by decide⟩
  rcases program_makes_one_exit (α := Int32) Program.launchOnly listed script {} with
    ⟨before, status, response, events, silent, known, taken, returned, inside, failed⟩
  exact ⟨listed, (returned 5 [0] rfl).2, (failed List.mem_cons_self negative).2⟩

end Userland
