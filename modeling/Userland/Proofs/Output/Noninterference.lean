import Userland.Program
import Userland.Proofs.Output.Control

/-!
# Output has no bearing on control

Log lines, complaints and reports stand between the calls that matter, and each
of them may be shown or not, and may fail at any of its writes.  Here every
function that prints is a run that only writes, every other function of the
library ignores output, and so do the programs that are put together from them.

The program that writes one line again and again is left out.  It looks at the
answers to its writes, as it should, and so it does not ignore output.
-/

namespace Userland

open Kernel Text Run

/-! ## The library -/

theorem Terminal.print_onlyWrites (pieces : Pieces) : (Terminal.print pieces).OnlyWrites :=
  (Terminal.print_proceeds fun _piece _ => rfl).onlyWrites

theorem Log.log_onlyWrites (record : Record) : (Log.log record).OnlyWrites :=
  (Log.log_proceeds (fun _piece => rfl) record).onlyWrites

theorem Terminal.print_ignoresOutput (pieces : Pieces) : (Terminal.print pieces).IgnoresOutput :=
  .of_onlyWrites (Terminal.print_onlyWrites pieces)

theorem Log.log_ignoresOutput (record : Record) : (Log.log record).IgnoresOutput :=
  .of_onlyWrites (Log.log_onlyWrites record)

theorem Child.exec_ignoresOutput (name : String) (arguments : List String) :
    (Child.exec name arguments).IgnoresOutput := by
  unfold Child.exec
  split
  · exact IgnoresOutput.map _ ((IgnoresOutput.request rfl).bind fun reply => .pure reply.word)
  · exact .pure none

theorem Child.join_ignoresOutput (child : UInt64) : (Child.join child).IgnoresOutput :=
  ((IgnoresOutput.request rfl).bind fun _reply => .pure _).bind fun _left => .pure _

theorem exit_ignoresOutput {α : Type} (code : Int32) : (exit code : Run α).IgnoresOutput :=
  (IgnoresOutput.request rfl).bind fun _reply => .panic _

/-- A complaint and an exit. -/
theorem complain_ignoresOutput {α : Type} (pieces : Pieces) (code : Int32) :
    (Terminal.printLine pieces >>= fun _ => (exit code : Run α)).IgnoresOutput :=
  (Terminal.print_ignoresOutput _).bind fun _ => exit_ignoresOutput code

/-! ## Batches -/

namespace Batch

theorem launchFrom_ignoresOutput {start : String → Run (Option UInt64)}
    (starts : ∀ program, (start program).IgnoresOutput) (programs : List String) (index : Nat) :
    (launchFrom start index programs).IgnoresOutput := by
  induction programs generalizing index with
  | nil => exact .pure _
  | cons program rest inductionHypothesis =>
      refine (starts program).bind fun started => ?_
      cases started with
      | none => exact .pure _
      | some child =>
          refine (Log.log_ignoresOutput (launched program child)).bind fun _ => ?_
          exact (inductionHypothesis (index + 1)).bind fun others => .pure _

theorem awaitAll_ignoresOutput {join : UInt64 → Run (Option Ending)}
    (waits : ∀ child, (join child).IgnoresOutput) (children : List UInt64) :
    (awaitAll join children).IgnoresOutput := by
  induction children with
  | nil => exact .pure _
  | cons child rest inductionHypothesis =>
      exact (waits child).bind fun _ending => inductionHypothesis.bind fun _others => .pure _

theorem run_ignoresOutput (programs arguments : List String) :
    (run programs arguments).IgnoresOutput := by
  refine (launchFrom_ignoresOutput (fun program => Child.exec_ignoresOutput program arguments)
    programs 0).bind fun launched => ?_
  cases launched with
  | error failure => exact .pure _
  | ok children =>
      exact (awaitAll_ignoresOutput Child.join_ignoresOutput children).bind fun _ => .pure _

namespace SmokeTest

theorem launchPrograms_ignoresOutput : launchPrograms.IgnoresOutput :=
  launchFrom_ignoresOutput (fun program => Child.exec_ignoresOutput program []) programs 0

theorem launchOnly_ignoresOutput : launchOnly.IgnoresOutput := by
  refine launchPrograms_ignoresOutput.bind fun launched => ?_
  cases launched with
  | ok children => exact (Log.log_ignoresOutput _).bind fun _ => exit_ignoresOutput 0
  | error failure => exact complain_ignoresOutput _ _

/-- The code with which the second program ends. -/
def verdict (endings : List Joined) : Int32 :=
  if endings.all Joined.isSuccess then 0 else -1

/-- The last line of the second program, if there is one. -/
def closing (endings : List Joined) : Pieces :=
  if endings.all Joined.isSuccess then ["multi_exec_join passed!\n"] else []

/-- What the second program prints once all children were waited for. -/
def report (endings : List Joined) : Run Unit := do
  endings.forM fun joined => Terminal.print (line joined)
  Terminal.print (closing endings)

theorem launchAndJoin_eq :
    launchAndJoin = launchPrograms >>= fun launched =>
      match launched with
      | .error failure =>
        Terminal.printLine ("multi_exec_join: " :: failure.message) >>= fun _ => exit (-1)
      | .ok children => awaitAll Child.join children >>= fun endings =>
        report endings >>= fun _ => pure (verdict endings) := by
  unfold launchAndJoin
  congr 1
  funext launched
  cases launched with
  | error failure => rfl
  | ok children =>
      dsimp only
      congr 1
      funext endings
      rw [report, bind_assoc, closing, verdict]
      split <;> rfl

theorem report_proceeds {allowed : Call → Prop}
    (permitted : ∀ piece : String, allowed (.write File.standardOutput (encode piece)))
    (endings : List Joined) : Proceeds allowed (report endings) := by
  have printed : ∀ pieces : Pieces, Proceeds allowed (Terminal.print pieces) :=
    fun pieces => Terminal.print_proceeds fun piece _ => permitted piece
  have lines : Proceeds allowed (endings.forM fun joined => Terminal.print (line joined)) := by
    induction endings with
    | nil => exact .pure _
    | cons joined rest inductionHypothesis =>
        exact (printed (line joined)).bind fun _ => inductionHypothesis
  exact lines.bind fun _ => printed (closing endings)

theorem report_onlyWrites (endings : List Joined) : (report endings).OnlyWrites :=
  (report_proceeds (fun _piece => rfl) endings).onlyWrites

theorem launchAndJoin_ignoresOutput : launchAndJoin.IgnoresOutput := by
  rw [launchAndJoin_eq]
  refine launchPrograms_ignoresOutput.bind fun launched => ?_
  cases launched with
  | error failure => exact complain_ignoresOutput _ _
  | ok children =>
      refine (awaitAll_ignoresOutput Child.join_ignoresOutput children).bind fun endings => ?_
      exact (IgnoresOutput.of_onlyWrites (report_onlyWrites endings)).bind fun _ => .pure _

end SmokeTest
end Batch

/-! ## Programs that make pages move -/

namespace Paging.SwapTest

theorem inOrder_ignoresOutput (size : Nat) : (inOrder size).IgnoresOutput := by
  unfold inOrder
  dsimp only
  split
  · exact complain_ignoresOutput _ _
  · exact (Terminal.print_ignoresOutput _).bind fun _ => .pure 0

theorem bySweeps_ignoresOutput (rounds pages width : Nat) :
    (bySweeps rounds pages width).IgnoresOutput := by
  unfold bySweeps sweepMemory
  dsimp only
  split
  · exact complain_ignoresOutput _ _
  · exact (Terminal.print_ignoresOutput _).bind fun _ => .pure 0

end Paging.SwapTest

/-! ## Two runs -/

namespace Program

theorem walkInOrder_ignoresOutput : walkInOrder.main.IgnoresOutput := by
  simp only [walkInOrder]
  exact Paging.SwapTest.inOrder_ignoresOutput _

theorem walkBySweeps_ignoresOutput : walkBySweeps.main.IgnoresOutput := by
  simp only [walkBySweeps]
  exact Paging.SwapTest.bySweeps_ignoresOutput _ _ _

theorem run_ignoresOutput {α : Type} {program : Program} (ignores : program.main.IgnoresOutput) :
    (program.run : Run α).IgnoresOutput :=
  ignores.bind fun code => exit_ignoresOutput code

end Program

/-- Two runs over kernels that differ in the level of logging, in their replies
to writes and in whether the output is closed, and in nothing else, come out in
the same way and make the same other calls with the same replies. -/
theorem output_has_no_bearing_on_control {α : Type} (first second : Session)
    (alike : first.Alike second) :
    (∀ programs arguments : List String,
      (Batch.run programs arguments first).Alike (Batch.run programs arguments second)) ∧
    ∀ program ∈ [Program.launchOnly, .launchAndJoin, .walkInOrder, .walkBySweeps],
      (program.run first : Step α).Alike (program.run second) := by
  constructor
  · intro programs arguments
    exact Batch.run_ignoresOutput programs arguments first second alike
  · intro program listed
    have ignores : program.main.IgnoresOutput := by
      simp only [List.mem_cons, List.not_mem_nil, or_false] at listed
      rcases listed with rfl | rfl | rfl | rfl
      · exact Batch.SmokeTest.launchOnly_ignoresOutput
      · exact Batch.SmokeTest.launchAndJoin_ignoresOutput
      · exact Program.walkInOrder_ignoresOutput
      · exact Program.walkBySweeps_ignoresOutput
    exact Program.run_ignoresOutput ignores first second alike

/-- A silent run and one that logs everything, with one write refused and the
next one cut short, differ in their writes and end alike. -/
theorem launchOnly_alike_when_logging :
    let first : Session := ⟨.scripted { exec := [7, 8, 9, 7, 0], outputClosed := true }, {}⟩
    let second : Session :=
      ⟨.scripted { exec := [7, 8, 9, 7, 0], write := [-1, 3] },
        { installed := true, threshold := .upTo .trace }⟩
    first.Alike second ∧
      (Program.launchOnly.run first : Step Unit).Alike (Program.launchOnly.run second) := by
  intro first second
  have alike : first.Alike second := ⟨_, _, rfl, rfl, rfl⟩
  have programs := (output_has_no_bearing_on_control (α := Unit) first second alike).2
  exact ⟨alike, programs _ List.mem_cons_self⟩

end Userland
