import Userland.Proofs.Batch.Outcome

/-!
# The verdict of the program that launches and waits

The program succeeds for one reason only: every start was answered by a number
and every wait by one, with the code zero or none at all.  A shortcut at the
first child that ended badly would leave children that nobody waited for, so the
waits are counted here as well, and they stand together between all starts and
all lines of the report.

The kernel is any script that really ends the process at its exit.  How it
answers writes decides where a print is cut short and nothing else.  So the
record is known part by part whatever these answers are, and the text of the
report is known where every write is accepted.
-/

namespace Userland

open Kernel Text Run

namespace Batch

/-! ## The verdict and the report -/

/-- The line about a child. -/
def Joined.text (joined : Joined) : String :=
  "multi_exec_join: pid " ++ toString joined.child.toNat ++
    match joined.ending with
    | some (.exited code) => " exited with code " ++ toString code.toInt ++ "\n"
    | some .abnormal => " terminated abnormally\n"
    | none => " could not be joined\n"

theorem Joined.isSuccess_iff (child : UInt64) (word : Int64) (code : Int32) :
    ({ child, ending := Ending.ofJoin? word code } : Joined).isSuccess = true ↔
      word = 1 ∧ code = 0 := by
  unfold Joined.isSuccess Ending.ofJoin?
  split
  · rename_i one
    simp [Ending.isSuccess, one]
  · rename_i notOne
    split <;> simp [Ending.isSuccess, notOne]

/-- All waits for so many children are answered by one, with the code zero or
none. -/
def AllSucceed (count : Nat) (script : Script) : Prop :=
  ∀ entry < count, (script.joinReply entry).1 = 1 ∧ (script.joinReply entry).2.getD 0 = 0

theorem all_isSuccess_endings_iff (children : List UInt64) (script : Script) :
    (endings children script).all Joined.isSuccess = true ↔
      AllSucceed children.length script := by
  rw [List.all_eq_true]
  constructor
  · intro succeeded entry bound
    have success := succeeded _ (List.mem_mapIdx.mpr ⟨entry, bound, rfl⟩)
    exact (Joined.isSuccess_iff _ _ _).mp success
  · intro succeeded joined listed
    rcases List.mem_mapIdx.mp listed with ⟨entry, bound, rfl⟩
    exact (Joined.isSuccess_iff _ _ _).mpr (succeeded entry bound)

namespace SmokeTest

theorem text_line (joined : Joined) : Pieces.text (line joined) = joined.text := by
  rcases joined with ⟨child, ending⟩
  have pid : Pieces.text (Pieces.natural child.toNat) = toString child.toNat :=
    Pieces.text_singleton _
  cases ending with
  | none =>
      rw [line, Pieces.text_append, Pieces.text_append, Pieces.text_singleton, pid,
        Pieces.text_singleton]
      rfl
  | some ending =>
      cases ending with
      | abnormal =>
          rw [line, Pieces.text_append, Pieces.text_append, Pieces.text_singleton, pid,
            Pieces.text_singleton]
          rfl
      | exited code =>
          rw [line]
          simp only [Pieces.text_append, Pieces.text_singleton, Pieces.text_integer]
          rw [pid, String.append_assoc, String.append_assoc]
          rfl

/-- The texts of a report: one for each child, and one more if all succeeded. -/
def reportTexts (endings : List Joined) : List String :=
  endings.map Joined.text ++
    if endings.all Joined.isSuccess then ["multi_exec_join passed!\n"] else []

/-- A report comes back, whatever is answered to it. -/
theorem report_finishes (script : Script) (logging : Log.State) (endings : List Joined) :
    ∃ reporting count, report endings ⟨.scripted script, logging⟩ =
        ⟨.finished (), reporting, ⟨.scripted (script.afterWrites count), logging⟩⟩ ∧
      Terminal.PrintedInTurn (reportTexts endings) reporting := by
  rcases Terminal.forM_print_finishes script logging line endings with
    ⟨lines, used, ran, printed⟩
  rw [funext text_line] at printed
  rw [report, Run.bind_of_ran ran, reportTexts, closing]
  split
  · rcases Terminal.print_finishes (script.afterWrites used) logging
      ["multi_exec_join passed!\n"] with ⟨more, later, last⟩
    have closed := Terminal.PrintedInTurn.cons last .nil
    rw [Pieces.text_singleton] at closed
    refine ⟨_, used + more, ?_, printed.append closed⟩
    rw [later, Script.afterWrites_afterWrites, List.append_nil]
    rfl
  · refine ⟨lines, used, ?_, ?_⟩
    · rw [Terminal.print, Run.pure_apply, Step.after, List.append_nil]
    · rw [List.append_nil]
      exact printed

/-! ## The whole program -/

/-- The exit behind the main part is reached after a report only. -/
theorem run_launchAndJoin_eq {α : Type} :
    (Program.launchAndJoin.run : Run α) = launchPrograms >>= fun launched =>
      match launched with
      | .error failure =>
        Terminal.printLine ("multi_exec_join: " :: failure.message) >>= fun _ => exit (-1)
      | .ok children => awaitAll Child.join children >>= fun endings =>
        report endings >>= fun _ => exit (verdict endings) := by
  rw [Program.run, Program.launchAndJoin, launchAndJoin_eq, bind_assoc]
  congr 1
  funext launched
  cases launched with
  | error failure =>
      dsimp only
      rw [bind_exit_bind]
  | ok children =>
      dsimp only
      rw [bind_assoc]
      congr 1
      funext endings
      rw [bind_assoc]
      congr 1

theorem run_launchAndJoin_launches {α : Type} :
    LaunchesAs "multi_exec_join: " (Program.launchAndJoin.run : Run α) :=
  launchAndJoin_launches.bind fun code => exit code

section Running

variable {α : Type} {script : Script} (final : script.exit = []) (logging : Log.State)

include final in
theorem run_launchAndJoin_of_started
    (started : ∀ entry < programs.length, 0 ≤ script.execWord entry) :
    let step : Step α := Program.launchAndJoin.run ⟨.scripted script, logging⟩
    let found := endings (children programs script) script
    ∃ launching reporting,
      RecordsLaunch logging [] programs script launching ∧
      Terminal.PrintedInTurn (reportTexts found) reporting ∧
      step.events = launching ++ waits (children programs script) script ++ reporting ++
        [exitEvent (verdict found)] ∧
      step.outcome = .exited (verdict found).toInt64 ∧
      (script.AcceptsAll → ∀ event ∈ reporting, ¬ event.IsRefusal) := by
  rcases launchPrograms_of_started started logging with
    ⟨launching, reached, records, launched, sameExit, sameJoin, acceptsLeft⟩
  have waited := awaitAll_scripted (children programs script) reached logging
  rw [endings_congr _ sameJoin, waits_congr _ sameJoin] at waited
  intro step found
  let left := reached.afterJoins (children programs script).length
  rcases report_finishes left logging found with ⟨reporting, used, reported, printed⟩
  have finalLeft : (left.afterWrites used).exit = [] := by
    rw [Script.exit_afterWrites]
    exact sameExit.trans final
  have ran : step = Step.after launching (Step.after (waits (children programs script) script)
      (Step.after reporting
        (exit (verdict found) ⟨.scripted (left.afterWrites used), logging⟩))) := by
    show (Program.launchAndJoin.run : Run α) _ = _
    rw [run_launchAndJoin_eq, Run.bind_of_ran launched]
    dsimp only
    rw [Run.bind_of_ran waited, Run.bind_of_ran reported]
  refine ⟨launching, reporting, records, printed, ?_, ?_, ?_⟩
  · rw [ran, exit_final _ finalLeft]
    simp only [Step.events_after, List.append_assoc]
  · rw [ran, exit_final _ finalLeft]
    rfl
  · intro accepts
    have proceeds : Proceeds (fun _call => True) (report found) :=
      report_proceeds (fun _piece => trivial) found
    have acceptsHere : left.AcceptsAll := acceptsLeft accepts
    have accepted := proceeds.asks.not_isRefusal acceptsHere logging
    rw [reported] at accepted
    exact accepted

end Running

/-- What the program does over any kernel that lets it exit, at any level of
logging.  When a start fails, nothing is started after it, nobody is waited for,
and the program complains and fails.  Otherwise its record has four parts, one
behind the other: the starts, with a line behind each of them if the level of
logging shows it and with nothing else between them; the waits for all children,
in the same order; the report, with a line about each child and one more in the
case of success; and the exit.  The program succeeds exactly when every child
did.  Where all writes are accepted, the report has arrived whole. -/
theorem run_launchAndJoin_conforms {α : Type} (script : Script) (final : script.exit = [])
    (logging : Log.State) :
    let step : Step α := Program.launchAndJoin.run ⟨.scripted script, logging⟩
    let found := endings (children programs script) script
    (∀ entry (bound : entry < programs.length), script.execWord entry < 0 →
      (∀ earlier < entry, 0 ≤ script.execWord earlier) →
        step.outcome = .exited (-1) ∧
        control step.events =
          starts (programs.take (entry + 1)) [] script ++ [exitEvent (-1)] ∧
        ∃ launching complaining,
          RecordsLaunch logging [] (programs.take entry) script launching ∧
          Terminal.Printed (complaint "multi_exec_join: "
            { index := entry, program := programs[entry] }) complaining ∧
          step.events = launching ++ startEvent programs[entry] [] (script.execWord entry) ::
            complaining ++ [exitEvent (-1)]) ∧
    ((∀ entry < programs.length, 0 ≤ script.execWord entry) →
      ∃ launching reporting code,
        step.events = launching ++ waits (children programs script) script ++ reporting ++
          [exitEvent code] ∧
        RecordsLaunch logging [] programs script launching ∧
        control launching = starts programs [] script ∧
        ((logging.installed && logging.threshold.admits .debug) = false →
          launching = starts programs [] script) ∧
        Terminal.PrintedInTurn (found.map Joined.text ++
          if code = 0 then ["multi_exec_join passed!\n"] else []) reporting ∧
        step.outcome = .exited code.toInt64 ∧
        (code = 0 ∧ AllSucceed programs.length script ∨
          code = -1 ∧ ¬ AllSucceed programs.length script) ∧
        (script.AcceptsAll → written reporting =
          encode (String.join (found.map Joined.text) ++
            if code = 0 then "multi_exec_join passed!\n" else ""))) := by
  intro step found
  constructor
  · intro entry bound negative started
    have ended := run_launchAndJoin_launches.ends_of_failed (α := α) bound negative started logging
      final
    rcases run_launchAndJoin_launches.of_failed (α := α) bound negative started logging with
      ⟨launching, complaining, left, records, printed, ran, same, -⟩
    refine ⟨ended.1, ended.2, launching, complaining, records, printed, ?_⟩
    rw [exit_final (-1) (same.trans final)] at ran
    exact congrArg Step.events ran
  · intro started
    rcases run_launchAndJoin_of_started (α := α) final logging started with
      ⟨launching, reporting, records, printed, events, exited, accepted⟩
    have length : (children programs script).length = programs.length := List.length_mapIdx
    have judged := all_isSuccess_endings_iff (children programs script) script
    rw [length] at judged
    refine ⟨launching, reporting, verdict found, events, records, records.control,
      records.eq_starts, ?_⟩
    by_cases success : AllSucceed programs.length script
    · have all := judged.mpr success
      have code : verdict found = 0 := if_pos all
      rw [reportTexts, if_pos all] at printed
      rw [code, if_pos rfl, if_pos rfl]
      refine ⟨printed, code ▸ exited, Or.inl ⟨rfl, success⟩, fun accepts => ?_⟩
      rw [printed.written (accepted accepts), String.join_append, String.join_cons,
        String.join_nil, String.append_empty]
    · have failed : ¬ found.all Joined.isSuccess = true := fun all => success (judged.mp all)
      have code : verdict found = -1 := if_neg failed
      rw [reportTexts, if_neg failed] at printed
      rw [code, if_neg (by decide), if_neg (by decide)]
      refine ⟨printed, code ▸ exited, Or.inr ⟨rfl, success⟩, fun accepts => ?_⟩
      rw [printed.written (accepted accepts), List.append_nil, String.append_empty]

/-- Four children succeed, the third ends for a fault after it stored zero. -/
theorem run_launchAndJoin_faulted :
    let script : Script :=
      { exec := [7, 8, 9, 10, 11]
        join := [(1, some 0), (1, none), (0, some 0), (1, some 0), (1, none)] }
    script.exit = [] ∧ (∀ entry < programs.length, 0 ≤ script.execWord entry) ∧
      (Program.launchAndJoin.run ⟨.scripted script, {}⟩ : Step Unit).outcome = .exited (-1) := by
  intro script
  have conforms := run_launchAndJoin_conforms (α := Unit) script rfl {}
  have started : ∀ entry < programs.length, 0 ≤ script.execWord entry := by decide
  have faulted : ¬ AllSucceed programs.length script := by
    intro all
    exact absurd (all 2 (by decide)).1 (by decide)
  rcases conforms.2 started with ⟨_, _, code, _, _, _, _, _, exited, judged, _⟩
  rcases judged with ⟨_, succeeded⟩ | ⟨rfl, _⟩
  · exact absurd succeeded faulted
  · exact ⟨rfl, started, exited⟩

end SmokeTest
end Batch
end Userland
