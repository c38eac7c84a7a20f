import Userland.Boot
import Userland.Proofs.Output.Written
import Userland.Proofs.Run.Asks

/-!
# The rounds of a start without a program

A start without a program panics, and handling the panic is a round: a report on
the terminal, and then an exit.  A kernel that returns from the exit raises the
next panic and with it the next round.  A round that is not the last takes one
prepared return out of the script, whatever becomes of its report, so there is
one round more than there are prepared returns.

The handler is given a number of rounds that it may make.  `handle_of_enough`
says that any number from the prepared returns on gives the same run, so the
number is no limit that a kernel could notice.
-/

namespace Userland

open Kernel Text Run

/-- The report of a panic as it is printed. -/
def Panic.line (reason : Panic) : Pieces :=
  reason.report ++ ["\n"]

namespace Boot

/-- The entry of an exit with status minus one. -/
def failing (response : Response) : Event where
  call := .exit (-1 : Int64).toUInt64
  response := response

/-- The exits of all rounds: each prepared return is used, and then the exit is
taken. -/
def exits (returns : List Int64) : List Event :=
  returns.map (fun word => failing (.resumed (.returned word))) ++ [failing (.ended (-1))]

/-- A round is the record of a report and the exit behind it. -/
abbrev Round := List Event × Event

def record (rounds : List Round) : List Event :=
  rounds.flatMap fun round => round.1 ++ [round.2]

/-! ## One round -/

section Round

variable {α : Type} (reason : Panic) (script : Script) (logging : Log.State)

/-- A report comes back, has done nothing but write to the output, and leaves
the prepared returns alone. -/
theorem report_scripted :
    ∃ reported left state,
      Terminal.printLine reason.report ⟨.scripted script, logging⟩ =
        ⟨.finished (), reported, ⟨.scripted left, state⟩⟩ ∧
      left.exit = script.exit ∧
      (∀ event ∈ reported, ∃ data, event.call = .write File.standardOutput data) ∧
      (script.AcceptsAll → left.AcceptsAll ∧ reported = reason.line.map Terminal.accepted) := by
  have proceeds : Proceeds (fun call => ∃ data, call = .write File.standardOutput data)
      (Terminal.printLine reason.report) := Terminal.print_proceeds fun piece _ => ⟨_, rfl⟩
  have others : ∀ call, (∃ data, call = Call.write File.standardOutput data) →
      call.isExit = false := by
    rintro call ⟨data, rfl⟩
    rfl
  rcases proceeds.finishes others script logging with
    ⟨value, reported, left, state, ran, same, wrote⟩
  refine ⟨reported, left, state, ran, same, wrote, fun accepts => ?_⟩
  have accepted := Terminal.print_accepted accepts logging reason.line
  rw [show Terminal.print reason.line = Terminal.printLine reason.report from rfl, ran] at accepted
  cases accepted
  exact ⟨accepts, rfl⟩

variable {reason script}

/-- Without a prepared return there is one round, however many may be made. -/
theorem handle_of_final (final : script.exit = []) (allowance : Nat) :
    (handle allowance reason : Run α) ⟨.scripted script, logging⟩ =
      (Terminal.printLine reason.report >>= fun _ => exit (-1)) ⟨.scripted script, logging⟩ := by
  cases allowance with
  | zero => rfl
  | succ allowance =>
      rcases report_scripted reason script logging with ⟨reported, left, state, ran, same, -, -⟩
      have taken := Trap.exit_scripted (α := α) left state (-1) (same.trans final)
      rw [handle, bind_of_ran ran, bind_of_ran ran]
      simp only [Run.rescue, Userland.exit, taken]

theorem handle_of_returned {word : Int64} {rest : List Int64} (prepared : script.exit = word :: rest)
    {reported : List Event} {left : Script} {state : Log.State}
    (ran : Terminal.printLine reason.report ⟨.scripted script, logging⟩ =
      ⟨.finished (), reported, ⟨.scripted left, state⟩⟩)
    (same : left.exit = script.exit) (allowance : Nat) :
    (handle (allowance + 1) reason : Run α) ⟨.scripted script, logging⟩ =
      Step.after (reported ++ [failing (.resumed (.returned word))])
        (handle allowance .exitReturned ⟨.scripted { left with exit := rest }, state⟩) := by
  have returned := Trap.exit_returned (α := α) left state (-1) (same.trans prepared)
  rw [handle, bind_of_ran ran, Step.after_append]
  simp only [Run.rescue, Userland.exit, returned]
  rfl

end Round

/-! ## All rounds -/

section Rounds

variable {α : Type} {script : Script}

theorem handle_of_enough {first second : Nat} (firstEnough : script.exit.length ≤ first)
    (secondEnough : script.exit.length ≤ second) (reason : Panic) (logging : Log.State) :
    (handle first reason : Run α) ⟨.scripted script, logging⟩ =
      handle second reason ⟨.scripted script, logging⟩ := by
  induction prepared : script.exit generalizing script reason logging first second with
  | nil => rw [handle_of_final logging prepared, handle_of_final logging prepared]
  | cons word rest inductionHypothesis =>
      rw [prepared, List.length_cons] at firstEnough secondEnough
      obtain ⟨first, rfl⟩ := Nat.exists_eq_add_one_of_ne_zero (Nat.ne_zero_of_lt firstEnough)
      obtain ⟨second, rfl⟩ := Nat.exists_eq_add_one_of_ne_zero (Nat.ne_zero_of_lt secondEnough)
      rcases report_scripted reason script logging with ⟨reported, left, state, ran, same, -, -⟩
      have firstBehind : ({ left with exit := rest } : Script).exit.length ≤ first :=
        Nat.le_of_succ_le_succ firstEnough
      have later := inductionHypothesis firstBehind (Nat.le_of_succ_le_succ secondEnough)
        .exitReturned state rfl
      rw [handle_of_returned logging prepared ran same,
        handle_of_returned logging prepared ran same, later]

/-- The induction is on the prepared returns: the first round uses the first of
them, and the other rounds are those of the panic about a return. -/
theorem handle_rounds {allowance : Nat} (enough : script.exit.length ≤ allowance)
    (reason : Panic) (logging : Log.State) :
    let step : Step α := handle allowance reason ⟨.scripted script, logging⟩
    step.outcome = .exited (-1) ∧
    ∃ rounds : List Round, step.events = record rounds ∧
      rounds.map Prod.snd = exits script.exit ∧
      (∀ round ∈ rounds, ∀ event ∈ round.1,
        ∃ data, event.call = .write File.standardOutput data) ∧
      (script.AcceptsAll → rounds.map Prod.fst =
        (reason :: List.replicate script.exit.length .exitReturned).map fun reason =>
          reason.line.map Terminal.accepted) := by
  induction prepared : script.exit generalizing script reason logging allowance with
  | nil =>
      rcases report_scripted reason script logging with
        ⟨reported, left, state, ran, same, wrote, accepted⟩
      have taken := Trap.exit_scripted (α := α) left state (-1) (same.trans prepared)
      have step : (handle allowance reason : Run α) ⟨.scripted script, logging⟩ =
          ⟨.exited (-1), reported ++ [failing (.ended (-1))], ⟨.scripted left, state⟩⟩ := by
        rw [handle_of_final logging prepared, bind_of_ran ran, Userland.exit, taken]
        rfl
      rw [step]
      refine ⟨rfl, [(reported, failing (.ended (-1)))], ?_, rfl,
        List.forall_mem_singleton.mpr wrote, fun accepts => ?_⟩
      · simp [record]
      · rw [(accepted accepts).2]
        rfl
  | cons word rest inductionHypothesis =>
      rw [prepared, List.length_cons] at enough
      obtain ⟨allowance, rfl⟩ := Nat.exists_eq_add_one_of_ne_zero (Nat.ne_zero_of_lt enough)
      rcases report_scripted reason script logging with
        ⟨reported, left, state, ran, same, wrote, accepted⟩
      have enoughBehind : ({ left with exit := rest } : Script).exit.length ≤ allowance :=
        Nat.le_of_succ_le_succ enough
      rcases inductionHypothesis enoughBehind .exitReturned state rfl with
        ⟨ended, rounds, events, behind, alsoWrote, lines⟩
      rw [handle_of_returned logging prepared ran same]
      refine ⟨ended, (reported, failing (.resumed (.returned word))) :: rounds, ?_, ?_,
        List.forall_mem_cons.mpr ⟨wrote, alsoWrote⟩, fun accepts => ?_⟩
      · rw [Step.events_after, events]
        rfl
      · rw [List.map_cons, behind]
        rfl
      · rw [List.map_cons, lines (accepted accepts).1, (accepted accepts).2]
        rfl

end Rounds

/-- A start without a program exits with status minus one until the kernel takes
the exit, which is once more than there are prepared returns, and each return is
used in its turn.  Whatever becomes of the output, only a report stands before
an exit; where the output takes everything, the report is one whole line, about
the missing program at first and about the return from the exit afterwards.
The number of rounds allowed to the handler is no limit. -/
theorem bare_exits_until_taken {α : Type} (script : Script) (logging : Log.State) :
    let step : Step α := bare ⟨.scripted script, logging⟩
    step.outcome = .exited (-1) ∧
    (∃ rounds : List Round, step.events = record rounds ∧
      rounds.map Prod.snd = exits script.exit ∧
      (∀ round ∈ rounds, ∀ event ∈ round.1,
        ∃ data, event.call = .write File.standardOutput data) ∧
      (script.AcceptsAll → ∃ lines : List Pieces,
        rounds.map Prod.fst = lines.map (List.map Terminal.accepted) ∧
        lines.map Pieces.text =
          "Panicked at user/src/lib.rs:58, Cannot find main!\n" ::
            List.replicate script.exit.length
              "Panicked at user/src/syscall.rs:63, internal error: entered unreachable code\n")) ∧
    ∀ allowance, script.exit.length ≤ allowance →
      Run.rescue (start missingMain) (handle allowance) ⟨.scripted script, logging⟩ = step := by
  intro step
  have raised : (start missingMain : Run α) ⟨.scripted script, logging⟩ =
      ⟨.panicked .noProgram, [], (Log.install ⟨.scripted script, logging⟩).session⟩ := rfl
  have rescued : ∀ allowance,
      Run.rescue (start missingMain) (handle allowance) ⟨.scripted script, logging⟩ =
        (handle allowance .noProgram : Run α)
          (Log.install ⟨.scripted script, logging⟩).session := by
    intro allowance
    simp only [Run.rescue, raised, Step.after_nil]
  have ran : step = handle script.exit.length .noProgram
      (Log.install ⟨.scripted script, logging⟩).session := rescued script.exit.length
  rcases handle_rounds (α := α) (le_refl script.exit.length) .noProgram
    (Log.install ⟨.scripted script, logging⟩).session.logging with
    ⟨ended, rounds, events, exited, wrote, accepted⟩
  refine ⟨ran ▸ ended, ⟨rounds, ran ▸ events, exited, wrote, fun accepts => ?_⟩, ?_⟩
  · refine ⟨(Panic.noProgram :: List.replicate script.exit.length .exitReturned).map Panic.line,
      ?_, ?_⟩
    · rw [accepted accepts, List.map_map]
      rfl
    · rw [List.map_map, List.map_cons, List.map_replicate]
      congr 1
  · intro allowance enough
    rw [rescued, ran]
    exact handle_of_enough enough le_rfl .noProgram _

/-- Two returns make three rounds, and an allowance of five is as good as any. -/
theorem bare_returned_from_twice :
    let script : Script := { exit := [7, -1] }
    let step : Step Unit := bare ⟨.scripted script, {}⟩
    script.AcceptsAll ∧ script.exit.length ≤ 5 ∧
      Run.rescue (start missingMain) (handle 5) ⟨.scripted script, {}⟩ = step ∧
      step.outcome = .exited (-1) ∧
      ∃ (rounds : List Round) (lines : List Pieces), step.events = record rounds ∧
        rounds.map Prod.fst = lines.map (List.map Terminal.accepted) ∧
        lines.map Pieces.text =
          ["Panicked at user/src/lib.rs:58, Cannot find main!\n",
            "Panicked at user/src/syscall.rs:63, internal error: entered unreachable code\n",
            "Panicked at user/src/syscall.rs:63, internal error: entered unreachable code\n"] := by
  intro script step
  rcases bare_exits_until_taken (α := Unit) script {} with
    ⟨exited, ⟨rounds, events, -, -, accepted⟩, allowed⟩
  rcases accepted ⟨rfl, rfl⟩ with ⟨lines, reports, texts⟩
  exact ⟨⟨rfl, rfl⟩, by decide, allowed 5 (by decide), exited, rounds, lines, events, reports,
    texts⟩

end Boot
end Userland
