import Userland.Program
import Userland.Proofs.Output.Written

/-!
# Lines that have to be taken whole

The program that writes one line again and again looks at every answer.  The
line is taken when the word is exactly its length, and any other word ends the
program: a negative one as a failure, and all others, zero and words that are
too large among them, as a write that was cut short.  The complaint goes out by
the same call as the lines do, so it takes the replies behind theirs.

As with prints, lines that are taken are passed over by `writeLines_append`, and
`writeLines_cons_of_other` is the end of the loop.  What becomes of the
complaint itself has no bearing on the exit code.
-/

namespace Userland

open Kernel Text Run

namespace LineWriter

/-- The word with which the line in this place will be answered. -/
def answer (script : Script) (index : Nat) : Int64 :=
  (script.writeReply index lineBytes.length).word

/-- The line in this place is answered by its length. -/
def TakesLine (script : Script) (index : Nat) : Prop :=
  (answer script index).toInt = lineBytes.length

instance (script : Script) (index : Nat) : Decidable (TakesLine script index) :=
  inferInstanceAs (Decidable (_ = _))

@[simp] theorem answer_afterWrites (script : Script) (count index : Nat) :
    answer (script.afterWrites count) index = answer script (count + index) := by
  rw [answer, Script.writeReply_afterWrites, answer]

@[simp] theorem takesLine_afterWrites (script : Script) (count index : Nat) :
    TakesLine (script.afterWrites count) index ↔ TakesLine script (count + index) := by
  rw [TakesLine, answer_afterWrites, TakesLine]

/-- The complaint about the line in this place, which was answered by the
word. -/
def complaint (index : Nat) (word : Int64) : Pieces :=
  if word < 0 then failedWrite index else shortWrite index word.toInt.toNat

theorem text_complaint (index : Nat) (word : Int64) :
    Pieces.text (complaint index word) =
      if word < 0 then "write10: write #" ++ toString index ++ " failed\n"
      else "write10: short write #" ++ toString index ++ ", " ++ toString word.toInt ++
        " of 32 bytes\n" := by
  have natural : ∀ number : Nat, Pieces.text (Pieces.natural number) = toString number :=
    fun number => Pieces.text_singleton _
  unfold complaint
  split
  · simp only [failedWrite, Pieces.text_append, Pieces.text_singleton, natural]
  · rename_i nonnegative
    have same : ((word.toInt.toNat : Nat) : Int) = word.toInt :=
      Int.toNat_of_nonneg (Int64.le_iff_toInt_le.mp (Int64.not_lt.mp nonnegative))
    have number : toString word.toInt.toNat = toString word.toInt :=
      congrArg (toString : Int → String) same
    have length : " of " ++ (toString lineBytes.length ++ " bytes\n") = " of 32 bytes\n" := by
      decide
    simp only [shortWrite, Pieces.text_append, Pieces.text_singleton, natural,
      String.append_assoc, length, number]

section Writing

variable (script : Script) (logging : Log.State)

theorem write_line :
    File.write File.standardOutput lineBytes ⟨.scripted script, logging⟩ =
      ⟨.finished (Returned.value? (answer script 0)), Terminal.writes [line] script,
        ⟨.scripted (script.afterWrites 1), logging⟩⟩ :=
  Terminal.write_piece line script logging

theorem writeLines_cons_of_taken (taken : TakesLine script 0) (index : Nat) (rest : List Nat) :
    writeLines (index :: rest) ⟨.scripted script, logging⟩ =
      Step.after (Terminal.writes [line] script)
        (writeLines rest ⟨.scripted (script.afterWrites 1), logging⟩) := by
  have nonnegative : 0 ≤ answer script 0 := by
    rw [Int64.le_iff_toInt_le, taken]
    exact Int.natCast_nonneg _
  have count : (answer script 0).toUInt64.toNat = lineBytes.length := by
    rw [Int64.toNat_toUInt64_of_le nonnegative, Int64.toNatClampNeg, taken, Int.toNat_natCast]
  rw [writeLines, Run.bind_of_ran (write_line script logging), Returned.value?,
    if_pos nonnegative]
  dsimp only
  rw [if_pos count]

theorem writeLines_cons_of_other (other : ¬ TakesLine script 0) (index : Nat) (rest : List Nat) :
    writeLines (index :: rest) ⟨.scripted script, logging⟩ =
      Step.after (Terminal.writes [line] script)
        ((Terminal.print (complaint index (answer script 0)) >>= fun _ => pure (-1))
          ⟨.scripted (script.afterWrites 1), logging⟩) := by
  rw [writeLines, Run.bind_of_ran (write_line script logging), Returned.value?, complaint]
  by_cases nonnegative : 0 ≤ answer script 0
  · have count : (answer script 0).toUInt64.toNat = (answer script 0).toInt.toNat :=
      Int64.toNat_toUInt64_of_le nonnegative
    have different : (answer script 0).toInt.toNat ≠ lineBytes.length := by
      intro same
      apply other
      rw [TakesLine, ← same, Int.toNat_of_nonneg (Int64.le_iff_toInt_le.mp nonnegative)]
    rw [if_pos nonnegative, if_neg (Int64.not_lt.mpr nonnegative)]
    dsimp only
    rw [count, if_neg different]
  · rw [if_neg nonnegative, if_pos (Int64.not_le.mp nonnegative)]

/-- Lines that are taken are passed over. -/
theorem writeLines_append {before : List Nat}
    (taken : ∀ index < before.length, TakesLine script index) (rest : List Nat) :
    writeLines (before ++ rest) ⟨.scripted script, logging⟩ =
      Step.after (Terminal.writes (List.replicate before.length line) script)
        (writeLines rest ⟨.scripted (script.afterWrites before.length), logging⟩) := by
  induction before generalizing script with
  | nil => rw [List.nil_append, List.length_nil, Script.afterWrites_zero]; rfl
  | cons first others inductionHypothesis =>
      have later : ∀ index < others.length, TakesLine (script.afterWrites 1) index := by
        intro index bound
        rw [takesLine_afterWrites, Nat.add_comm]
        exact taken (index + 1) (Nat.succ_lt_succ bound)
      rw [List.cons_append, writeLines_cons_of_taken script logging (taken 0 (Nat.zero_lt_succ _)),
        inductionHypothesis _ later, ← Step.after_append, Script.afterWrites_afterWrites,
        List.length_cons, List.replicate_succ,
        Terminal.writes_cons line (List.replicate others.length line), Nat.add_comm]
      rfl

theorem writeAll_of_taken (taken : ∀ index < times, TakesLine script index) :
    writeAll ⟨.scripted script, logging⟩ =
      ⟨.finished 0, Terminal.writes (List.replicate times line) script,
        ⟨.scripted (script.afterWrites times), logging⟩⟩ := by
  have length : (List.range times).length = times := List.length_range
  have passed := writeLines_append script logging (length.symm ▸ taken) []
  rw [List.append_nil, length] at passed
  rw [writeAll, passed, writeLines, Run.pure_apply, Step.after, List.append_nil]

/-- The first line that is not taken is followed by the complaint about it. -/
theorem writeAll_of_other {index : Nat} (bound : index < times) (other : ¬ TakesLine script index)
    (taken : ∀ earlier < index, TakesLine script earlier) :
    writeAll ⟨.scripted script, logging⟩ =
      Step.after (Terminal.writes (List.replicate (index + 1) line) script)
        ((Terminal.print (complaint index (answer script index)) >>= fun _ => pure (-1))
          ⟨.scripted (script.afterWrites (index + 1)), logging⟩) := by
  have length : (List.range index).length = index := List.length_range
  have inside : index < (List.range times).length := by rwa [List.length_range]
  have split := List.take_append_drop index (List.range times)
  rw [List.drop_eq_getElem_cons inside, List.getElem_range, List.take_range,
    Nat.min_eq_left (Nat.le_of_lt bound)] at split
  have otherThere : ¬ TakesLine (script.afterWrites index) 0 :=
    fun same => other ((takesLine_afterWrites script index 0).mp same)
  have passed := writeLines_append script logging (length.symm ▸ taken)
    (index :: (List.range times).drop (index + 1))
  rw [split, length, writeLines_cons_of_other _ logging otherThere, answer_afterWrites,
    Script.afterWrites_afterWrites, Nat.add_zero, ← Step.after_append] at passed
  rw [writeAll, passed, List.replicate_succ', Terminal.writes_append, List.length_replicate]

end Writing

section Running

variable {α : Type} {script : Script} (final : script.exit = []) (logging : Log.State)

include final in
theorem run_writeLines_of_taken (taken : ∀ index < times, TakesLine script index) :
    let step : Step α := Program.writeLines.run ⟨.scripted script, logging⟩
    step.outcome = .exited 0 ∧
      step.events = Terminal.writes (List.replicate times line) script ++ [exitEvent 0] := by
  have finalLeft : (script.afterWrites times).exit = [] := by
    rwa [Script.exit_afterWrites]
  intro step
  have ran : step = Step.after (Terminal.writes (List.replicate times line) script)
      (exit 0 ⟨.scripted (script.afterWrites times), logging⟩) :=
    Run.bind_of_ran (writeAll_of_taken script logging taken)
  rw [ran, exit_final 0 finalLeft]
  exact ⟨rfl, rfl⟩

include final in
/-- However the complaint ends, it comes back, and the exit stands behind it. -/
theorem run_writeLines_of_other {index : Nat} (bound : index < times)
    (other : ¬ TakesLine script index) (taken : ∀ earlier < index, TakesLine script earlier) :
    let step : Step α := Program.writeLines.run ⟨.scripted script, logging⟩
    let complaining := Terminal.print (complaint index (answer script index))
      ⟨.scripted (script.afterWrites (index + 1)), logging⟩
    step.outcome = .exited (-1) ∧
      step.events = Terminal.writes (List.replicate (index + 1) line) script ++
        complaining.events ++ [exitEvent (-1)] := by
  let pieces := complaint index (answer script index)
  rcases Terminal.print_finishes (script.afterWrites (index + 1)) logging pieces with
    ⟨count, printed, -⟩
  have answered := Run.map_of_ran (fun _ : Unit => (-1 : Int32)) printed
  rw [← bind_pure_comp] at answered
  have finalLeft : ((script.afterWrites (index + 1)).afterWrites count).exit = [] := by
    rwa [Script.exit_afterWrites, Script.exit_afterWrites]
  intro step complaining
  have ran : step = Step.after (Terminal.writes (List.replicate (index + 1) line) script)
      (Step.after (Terminal.writes (pieces.take count) (script.afterWrites (index + 1)))
        (exit (-1) ⟨.scripted ((script.afterWrites (index + 1)).afterWrites count),
          logging⟩)) := by
    show (writeAll >>= fun code => (exit code : Run α)) _ = _
    rw [Run.bind_of_after (writeAll_of_other script logging bound other taken),
      Run.bind_of_ran answered]
  have events : complaining.events =
      Terminal.writes (pieces.take count) (script.afterWrites (index + 1)) :=
    congrArg Step.events printed
  rw [ran, exit_final (-1) finalLeft, events, List.append_assoc]
  exact ⟨rfl, rfl⟩

end Running

/-- What the program does over any kernel that lets it exit.  Where all ten
lines are taken it writes these, nothing else, and succeeds.  Where one is not,
it writes no line behind it, complains about this one and fails.  The complaint
is a print like any other, over the replies that are left; where none is left
and the output is open, it goes out whole. -/
theorem run_writeLines_conforms {α : Type} (script : Script) (final : script.exit = [])
    (logging : Log.State) :
    let step : Step α := Program.writeLines.run ⟨.scripted script, logging⟩
    ((∀ index < times, TakesLine script index) →
      step.outcome = .exited 0 ∧
      step.events = Terminal.writes (List.replicate times line) script ++ [exitEvent 0]) ∧
    ∀ index < times, ¬ TakesLine script index →
      (∀ earlier < index, TakesLine script earlier) →
        step.outcome = .exited (-1) ∧
        ∃ (pieces : Pieces) (complaining : Step Unit),
          step.events = Terminal.writes (List.replicate (index + 1) line) script ++
            complaining.events ++ [exitEvent (-1)] ∧
          Terminal.Prints pieces (script.afterWrites (index + 1)) logging complaining ∧
          (script.outputClosed = false → script.write.length ≤ index + 1 →
            complaining.events = pieces.map Terminal.accepted) ∧
          Pieces.text pieces =
            if answer script index < 0 then "write10: write #" ++ toString index ++ " failed\n"
            else "write10: short write #" ++ toString index ++ ", " ++
              toString (answer script index).toInt ++ " of 32 bytes\n" := by
  intro step
  refine ⟨run_writeLines_of_taken final logging, ?_⟩
  intro index bound other taken
  have ⟨exited, events⟩ := run_writeLines_of_other (α := α) final logging bound other taken
  refine ⟨exited, complaint index (answer script index), _, events,
    Terminal.prints_print _ _ logging, ?_, text_complaint index (answer script index)⟩
  intro isOpen usedUp
  have accepts : (script.afterWrites (index + 1)).AcceptsAll := by
    refine ⟨?_, by rwa [Script.outputClosed_afterWrites]⟩
    rw [Script.afterWrites, isOpen, if_neg Bool.false_ne_true]
    exact List.drop_of_length_le usedUp
  rw [Terminal.print_accepted accepts logging]

/-- Three lines are taken, the fourth is answered by zero: the complaint names
the fourth, counted from zero, and no further line is written. -/
theorem run_writeLines_cut_short :
    let script : Script := { write := [32, 32, 32, 0] }
    let step : Step Unit := Program.writeLines.run ⟨.scripted script, {}⟩
    script.exit = [] ∧ ¬ TakesLine script 3 ∧ (∀ earlier < 3, TakesLine script earlier) ∧
      step.outcome = .exited (-1) ∧
      ∃ pieces : Pieces,
        step.events = Terminal.writes (List.replicate 4 line) script ++
          pieces.map Terminal.accepted ++ [exitEvent (-1)] ∧
        Pieces.text pieces = "write10: short write #3, 0 of 32 bytes\n" := by
  intro script step
  have other : ¬ TakesLine script 3 := by decide
  have taken : ∀ earlier < 3, TakesLine script earlier := by decide
  rcases (run_writeLines_conforms (α := Unit) script rfl {}).2 3 (by decide) other taken with
    ⟨exited, pieces, complaining, events, -, accepted, text⟩
  rw [accepted rfl (by decide)] at events
  exact ⟨rfl, other, taken, exited, pieces, events, text.trans (by decide)⟩

end LineWriter
end Userland
