import Userland.Log.Logger
import Userland.Proofs.Output.Written

/-!
# What a log record comes to

A record that is logged comes to one line or to nothing, and which of the two
depends on the state of the logger and on the level of the record.  `shown` is
that line in its pieces.  Logging is to print what is shown, in every session,
so whatever holds of prints holds of log lines.
-/

namespace Userland
namespace Log

open Kernel Text

/-- The line of a record, where the logger shows it, and else no piece at all. -/
def shown (state : State) (record : Record) : Pieces :=
  if state.installed && state.threshold.admits record.level then record.line else []

theorem shown_of_admitted {threshold : Threshold} {record : Record}
    (admitted : threshold.admits record.level = true) :
    shown { installed := true, threshold } record = record.line :=
  if_pos admitted

theorem shown_of_not_admitted {threshold : Threshold} {record : Record}
    (hidden : threshold.admits record.level = false) :
    shown { installed := true, threshold } record = [] :=
  if_neg (ne_true_of_eq_false hidden)

/-- Where the logger is in place, it prints what is shown of the records that it
is handed. -/
theorem submit_eq_print {session : Session} (installed : session.logging.installed = true)
    (record : Record) :
    submit record session = Terminal.print (shown session.logging record) session := by
  have asked : isEnabled record.level session =
      ⟨.finished (session.logging.threshold.admits record.level), [], session⟩ := rfl
  rw [submit, Run.bind_of_ran asked, Step.after_nil, shown, installed, Bool.true_and]
  cases session.logging.threshold.admits record.level <;> rfl

/-- Of the two questions about the level that a program which logs gives rise to,
the second is never answered otherwise than the first. -/
theorem log_eq_print (record : Record) (session : Session) :
    log record session = Terminal.print (shown session.logging record) session := by
  have looked : Run.logging session = ⟨.finished session.logging, [], session⟩ := rfl
  rw [log, Run.bind_of_ran looked, Step.after_nil]
  cases shows : session.logging.installed && session.logging.threshold.admits record.level with
  | true =>
      rw [if_pos rfl]
      exact submit_eq_print (Bool.and_eq_true_iff.mp shows).1 record
  | false =>
      rw [if_neg Bool.false_ne_true, shown, shows]
      rfl

section Accepting

variable {script : Script} (accepts : script.AcceptsAll) (state : State) (record : Record)

include accepts in
theorem submit_accepted (installed : state.installed = true) :
    submit record ⟨.scripted script, state⟩ =
      ⟨.finished (), (shown state record).map Terminal.accepted, ⟨.scripted script, state⟩⟩ :=
  (submit_eq_print installed record).trans (Terminal.print_accepted accepts state _)

include accepts in
theorem log_accepted :
    log record ⟨.scripted script, state⟩ =
      ⟨.finished (), (shown state record).map Terminal.accepted, ⟨.scripted script, state⟩⟩ :=
  (log_eq_print record _).trans (Terminal.print_accepted accepts state _)

end Accepting

theorem Threshold.admits_debug_iff (threshold : Threshold) :
    threshold.admits .debug = true ↔ threshold = .upTo .debug ∨ threshold = .upTo .trace := by
  cases threshold with
  | off => decide
  | upTo level => cases level <;> decide

theorem shown_debug {record : Record} (debug : record.level = .debug) (threshold : Threshold) :
    shown { installed := true, threshold } record =
      if threshold = .upTo .debug ∨ threshold = .upTo .trace then record.line else [] := by
  simp only [shown, debug, Bool.true_and, Threshold.admits_debug_iff]

/-- A line in one piece. -/
theorem text_line (record : Record) :
    Pieces.text record.line =
      "\x1b[" ++ toString record.level.colour ++ "m[" ++
        Pieces.text (Pieces.padded levelWidth record.level.name) ++ "] [" ++
        origin record.target ++ "] " ++ Pieces.text record.message ++ "\x1b[0m\n" := by
  have colour : Pieces.text (Pieces.natural record.level.colour) =
      toString record.level.colour := Pieces.text_singleton _
  have source : Pieces.text ["] [", origin record.target, "] "] =
      "] [" ++ origin record.target ++ "] " := by
    simp only [Pieces.text, String.join_cons, String.join_nil, String.append_empty,
      String.append_assoc]
  simp only [Record.line, Pieces.text_append, Pieces.text_singleton, colour, source,
    String.append_assoc]

end Log
end Userland
