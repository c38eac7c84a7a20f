import Userland.Proofs.Batch.Launching

/-!
# How the launch of the batch ends

No program of the batch has a refused name, so the launch fails at the first
start that is answered by a negative word, and else succeeds.  The level of
logging and the replies to writes have no bearing on this.

Both programs that launch the batch begin with it, and when it fails they
complain and exit, each behind its own name.  `LaunchesAs` says this of a run,
so what follows from it is shown once: the record is that of the programs that
were started, of the start that failed and of the complaint, and where every
write is accepted, the text of both is known.
-/

namespace Userland

open Kernel Text Run

namespace Batch
namespace SmokeTest

/-! ## The programs of the batch -/

theorem programs_accepted : ∀ program ∈ programs, ¬ Refused program := by
  decide

theorem fails_iff (script : Script) {entry : Nat} (bound : entry < programs.length) :
    Fails programs script entry ↔ script.execWord entry < 0 := by
  have accepted : ¬ Refused (programs.getD entry "") := by
    rw [List.getD_eq_getElem _ _ bound]
    exact programs_accepted _ (List.getElem_mem bound)
  exact or_iff_right accepted

theorem not_fails_of_started {script : Script} {count : Nat} (within : count ≤ programs.length)
    (started : ∀ earlier < count, 0 ≤ script.execWord earlier) :
    ∀ earlier < count, ¬ Fails programs script earlier := by
  intro earlier bound
  rw [fails_iff script (lt_of_lt_of_le bound within)]
  exact Int64.not_lt.mpr (started earlier bound)

/-! ## Launching -/

theorem launchPrograms_proceeds {allowed : Call → Prop} (permits : Permits allowed) :
    Proceeds allowed launchPrograms :=
  launchFrom_proceeds permits programs [] 0

/-- Launching where no start is answered by a negative word. -/
theorem launchPrograms_of_started {script : Script}
    (started : ∀ entry < programs.length, 0 ≤ script.execWord entry) (logging : Log.State) :
    ∃ launching left, RecordsLaunch logging [] programs script launching ∧
      launchPrograms ⟨.scripted script, logging⟩ =
        ⟨.finished (.ok (children programs script)), launching, ⟨.scripted left, logging⟩⟩ ∧
      left.exit = script.exit ∧ left.join = script.join ∧
      (script.AcceptsAll → left.AcceptsAll) := by
  rcases launch_of_started (Or.inr (List.forall_mem_nil _)) (not_fails_of_started le_rfl started)
    logging with ⟨launching, used, records, ran⟩
  exact ⟨launching, _, records, ran, Script.exit_afterWrites _ _, Script.join_afterWrites _ _,
    fun accepts => accepts.afterExecs_afterWrites _ _⟩

section Failing

variable {script : Script} {entry : Nat} (bound : entry < programs.length)
  (negative : script.execWord entry < 0)
  (started : ∀ earlier < entry, 0 ≤ script.execWord earlier) (logging : Log.State)

include negative started in
/-- Launching up to the first start that is. -/
theorem launchPrograms_of_failed :
    ∃ launching left, RecordsLaunch logging [] (programs.take entry) script launching ∧
      launchPrograms ⟨.scripted script, logging⟩ =
        ⟨.finished (.error { index := entry, program := programs[entry] }),
          launching ++ [startEvent programs[entry] [] (script.execWord entry)],
          ⟨.scripted left, logging⟩⟩ ∧
      left.exit = script.exit ∧ (script.AcceptsAll → left.AcceptsAll) := by
  rcases launch_of_failed (List.forall_mem_nil _) bound ((fails_iff script bound).mpr negative)
    (not_fails_of_started (Nat.le_of_lt bound) started) logging with
      ⟨launching, used, records, ran⟩
  have tried : starts (attempted programs[entry]) [] (script.afterExecs entry) =
      [startEvent programs[entry] [] (script.execWord entry)] := by
    rw [attempted, if_neg (programs_accepted _ (List.getElem_mem bound)), starts_cons,
      Script.execWord_afterExecs, Nat.add_zero]
    rfl
  rw [tried] at ran
  exact ⟨launching, _, records, ran, Script.exit_afterWrites _ _,
    fun accepts => accepts.afterExecs_afterWrites _ _⟩

end Failing

/-! ## The complaint -/

/-- The line with which a program says that its batch was not launched. -/
def complaint (name : String) (failure : Failure) : Pieces :=
  name :: failure.message ++ ["\n"]

theorem text_complaint (name : String) (failure : Failure) :
    Pieces.text (complaint name failure) =
      name ++ ("failed to exec `" ++ failure.program ++ "` (entry " ++ toString failure.index ++
        ")" ++ "\n") := by
  have natural : Pieces.text (Pieces.natural failure.index) = toString failure.index :=
    Pieces.text_singleton _
  have front : Pieces.text ["failed to exec `", failure.program, "` (entry "] =
      "failed to exec `" ++ failure.program ++ "` (entry " := by
    simp only [Pieces.text, String.join_cons, String.join_nil, String.append_empty,
      String.append_assoc]
  rw [complaint, List.cons_append, ← List.singleton_append, Pieces.text_append,
    Pieces.text_append, Failure.message, Pieces.text_append, Pieces.text_append, front, natural,
    Pieces.text_singleton, Pieces.text_singleton, Pieces.text_singleton]

/-- The run launches the batch and, when that fails, complains under this name
and exits. -/
def LaunchesAs {α : Type} (name : String) (run : Run α) : Prop :=
  ∃ next : Except Failure (List UInt64) → Run α, run = launchPrograms >>= next ∧
    ∀ failure, next (.error failure) =
      Terminal.print (complaint name failure) >>= fun _ => exit (-1)

theorem launchOnly_launches : LaunchesAs "multi_exec: " launchOnly :=
  ⟨_, rfl, fun _failure => rfl⟩

theorem launchAndJoin_launches : LaunchesAs "multi_exec_join: " launchAndJoin :=
  ⟨_, launchAndJoin_eq, fun _failure => rfl⟩

namespace LaunchesAs

variable {α β : Type} {name : String}

/-- What stands behind the run does not take place when the launch fails. -/
theorem bind {run : Run α} (launches : LaunchesAs name run) (behind : α → Run β) :
    LaunchesAs name (run >>= behind) := by
  rcases launches with ⟨next, rfl, complains⟩
  refine ⟨fun launched => next launched >>= behind, bind_assoc _ _ _, fun failure => ?_⟩
  dsimp only
  rw [complains, bind_exit_bind]

variable {run : Run α} (launches : LaunchesAs name run) {script : Script} {entry : Nat}
  (bound : entry < programs.length) (negative : script.execWord entry < 0)
  (started : ∀ earlier < entry, 0 ≤ script.execWord earlier) (logging : Log.State)

include launches bound negative started in
/-- The programs up to the first that fails are started, and behind the
complaint stands an exit. -/
theorem of_failed :
    ∃ launching complaining left,
      RecordsLaunch logging [] (programs.take entry) script launching ∧
      Terminal.Printed (complaint name { index := entry, program := programs[entry] })
        complaining ∧
      run ⟨.scripted script, logging⟩ =
        Step.after (launching ++ startEvent programs[entry] [] (script.execWord entry) :: complaining)
          (exit (-1) ⟨.scripted left, logging⟩) ∧
      left.exit = script.exit ∧
      (script.AcceptsAll → ∀ event ∈ launching ++ complaining, ¬ event.IsRefusal) := by
  rcases launches with ⟨next, rfl, complains⟩
  let failure : Failure := { index := entry, program := programs[entry] }
  rcases launchPrograms_of_failed bound negative started logging with
    ⟨launching, reached, records, ran, same, acceptsLeft⟩
  rcases Terminal.print_finishes reached logging (complaint name failure) with
    ⟨used, printing, printed⟩
  have sameLeft : (reached.afterWrites used).exit = script.exit :=
    (Script.exit_afterWrites _ _).trans same
  refine ⟨launching, _, reached.afterWrites used, records, printed, ?_, sameLeft, ?_⟩
  · rw [bind_of_ran ran, complains, bind_of_ran printing, ← Step.after_append, List.append_assoc]
    rfl
  · intro accepts
    have anything : Permits fun _call => True :=
      ⟨fun _ => trivial, fun _ _ _ _ => trivial, fun _ => trivial⟩
    have proceeds : Proceeds (fun _call => True) (Terminal.print (complaint name failure)) :=
      Terminal.print_proceeds fun _ _ => trivial
    have accepted := (launchPrograms_proceeds anything).asks.not_isRefusal accepts logging
    have alsoAccepted := proceeds.asks.not_isRefusal (acceptsLeft accepts) logging
    rw [ran] at accepted
    rw [printing] at alsoAccepted
    exact List.forall_mem_append.mpr ⟨(List.forall_mem_append.mp accepted).1, alsoAccepted⟩

section Ending

variable (final : script.exit = [])

include launches bound negative started final in
theorem ends_of_failed :
    let step := run ⟨.scripted script, logging⟩
    step.outcome = .exited (-1) ∧
      control step.events = starts (programs.take (entry + 1)) [] script ++ [exitEvent (-1)] := by
  rcases launches.of_failed bound negative started logging with
    ⟨launching, complaining, left, records, printed, ran, same, -⟩
  dsimp only
  rw [ran, exit_final (-1) (same.trans final)]
  refine ⟨rfl, ?_⟩
  rw [Step.events_after, control_append, records.control_append_start bound printed]
  rfl

include launches bound negative started final in
/-- Where every write is accepted, the complaint arrives whole, behind the lines
about the programs that were started. -/
theorem written_of_failed (accepts : script.AcceptsAll) :
    written (run ⟨.scripted script, logging⟩).events =
      encode (Pieces.text (launchLines logging (programs.take entry) script) ++
        Pieces.text (complaint name { index := entry, program := programs[entry] })) := by
  rcases launches.of_failed bound negative started logging with
    ⟨launching, complaining, left, records, printed, ran, same, accepted⟩
  have ⟨linesAccepted, complaintAccepted⟩ := List.forall_mem_append.mp (accepted accepts)
  rw [ran, exit_final (-1) (same.trans final), Step.events_after, List.append_assoc,
    written_append, records.written linesAccepted, encode_append,
    ← printed.written complaintAccepted]
  -- Neither the start that failed nor the exit is a write.
  change _ ++ written (complaining ++ [exitEvent (-1)]) = _
  rw [written_append]
  exact congrArg _ (List.append_nil _)

end Ending

end LaunchesAs

end SmokeTest
end Batch
end Userland
