import Userland.Proofs.Run.Sequence
import Userland.Terminal

/-!
# Which writes a print makes

A print makes one write for each of its pieces, in order, until one of them is
refused.  Which one that is can be read off the script, since the reply to a
piece stands at the place of the piece: pieces in front that are not refused are
passed over by `print_append`, and a refused piece ends the print.

A reply that is too small, or zero, or larger than its piece refuses nothing.
What such a reply says about the bytes that arrived is not considered here.

`Printed` says which records a print of these pieces can leave, and
`PrintedInTurn` the same of prints one after another.  Both mention no script,
so they can be said of a part of a record without following the replies that
were used up before this part.
-/

namespace Userland

open Kernel Text

theorem File.write_scripted {descriptor : UInt64} (inRange : isDescriptor descriptor = true)
    (data : List UInt8) (script : Script) (logging : Log.State) :
    write descriptor data ⟨.scripted script, logging⟩ =
      ⟨.finished (Returned.value? (script.writeReply 0 data.length).word),
        [⟨.write descriptor data, .resumed (script.writeReply 0 data.length)⟩],
        ⟨.scripted (script.afterWrites 1), logging⟩⟩ := by
  rw [write, if_pos inRange, Run.map_of_ran _ (Trap.write_scripted script logging _ _)]

namespace Terminal

/-- The entry of the write of a piece. -/
def pieceEvent (piece : String) (reply : Reply) : Event where
  call := .write File.standardOutput (encode piece)
  response := .resumed reply

/-- The record of writing pieces, each with the reply in its place. -/
def writes (pieces : Pieces) (script : Script) : List Event :=
  pieces.mapIdx fun index piece =>
    pieceEvent piece (script.writeReply index (encode piece).length)

theorem writes_cons (piece : String) (rest : Pieces) (script : Script) :
    writes (piece :: rest) script =
      pieceEvent piece (script.writeReply 0 (encode piece).length) ::
        writes rest (script.afterWrites 1) := by
  simp only [writes, List.mapIdx_cons, Script.writeReply_afterWrites, Nat.add_comm]

theorem writes_append (first second : Pieces) (script : Script) :
    writes (first ++ second) script =
      writes first script ++ writes second (script.afterWrites first.length) := by
  simp only [writes, List.mapIdx_append, Script.writeReply_afterWrites, Nat.add_comm]

/-- The events are the record of a print of these pieces: one write for each of
them, in order, up to the first that is answered by a negative word. -/
inductive Printed : Pieces → List Event → Prop
  | done : Printed [] []
  | refused {piece : String} {reply : Reply} (negative : reply.word < 0) (rest : Pieces) :
      Printed (piece :: rest) [pieceEvent piece reply]
  | taken {piece : String} {rest : Pieces} {reply : Reply} {events : List Event}
      (nonnegative : 0 ≤ reply.word) (others : Printed rest events) :
      Printed (piece :: rest) (pieceEvent piece reply :: events)

/-- Nothing is written of no pieces. -/
theorem Printed.eq_nil {events : List Event} (printed : Printed [] events) : events = [] := by
  cases printed
  rfl

/-- The events are the record of printing these texts one after another, each of
them cut into pieces in some way.  A refusal ends one print and not those behind
it. -/
inductive PrintedInTurn : List String → List Event → Prop
  | nil : PrintedInTurn [] []
  | cons {pieces : Pieces} {rest : List String} {line behind : List Event}
      (printed : Printed pieces line) (others : PrintedInTurn rest behind) :
      PrintedInTurn (Pieces.text pieces :: rest) (line ++ behind)

theorem PrintedInTurn.append {first second : List String} {before behind : List Event}
    (printed : PrintedInTurn first before) (others : PrintedInTurn second behind) :
    PrintedInTurn (first ++ second) (before ++ behind) := by
  induction printed with
  | nil => exact others
  | cons own _ inductionHypothesis =>
      rw [List.append_assoc]
      exact .cons own inductionHypothesis

/-- One piece is written as any other bytes are. -/
theorem write_piece (piece : String) (script : Script) (logging : Log.State) :
    File.write File.standardOutput (encode piece) ⟨.scripted script, logging⟩ =
      ⟨.finished (Returned.value? (script.writeReply 0 (encode piece).length).word),
        writes [piece] script, ⟨.scripted (script.afterWrites 1), logging⟩⟩ :=
  File.write_scripted rfl _ script logging

section Printing

variable (script : Script) (logging : Log.State)

theorem print_cons_of_taken {piece : String} (taken : ¬ script.RefusesWrite 0) (rest : Pieces) :
    print (piece :: rest) ⟨.scripted script, logging⟩ =
      Step.after (writes [piece] script)
        (print rest ⟨.scripted (script.afterWrites 1), logging⟩) := by
  have nonnegative : 0 ≤ (script.writeReply 0 (encode piece).length).word :=
    Int64.not_lt.mp fun negative => taken ((script.word_writeReply_neg_iff _ _).mp negative)
  rw [print, Run.bind_of_ran (write_piece piece script logging), Returned.value?,
    if_pos nonnegative]

theorem print_cons_of_refused {piece : String} (refused : script.RefusesWrite 0)
    (rest : Pieces) :
    print (piece :: rest) ⟨.scripted script, logging⟩ =
      ⟨.finished (), writes [piece] script, ⟨.scripted (script.afterWrites 1), logging⟩⟩ := by
  have negative : (script.writeReply 0 (encode piece).length).word < 0 :=
    (script.word_writeReply_neg_iff _ _).mpr refused
  rw [print, Run.bind_of_ran (write_piece piece script logging), Returned.value?,
    if_neg (Int64.not_le.mpr negative)]
  rfl

/-- Pieces that are not refused are passed over. -/
theorem print_append {before : Pieces}
    (taken : ∀ index < before.length, ¬ script.RefusesWrite index) (rest : Pieces) :
    print (before ++ rest) ⟨.scripted script, logging⟩ =
      Step.after (writes before script)
        (print rest ⟨.scripted (script.afterWrites before.length), logging⟩) := by
  -- The script moves on by one reply with each piece.
  induction before generalizing script with
  | nil => rw [List.nil_append, List.length_nil, Script.afterWrites_zero]; rfl
  | cons piece others inductionHypothesis =>
      rw [List.cons_append, print_cons_of_taken script logging (taken 0 (Nat.zero_lt_succ _)),
        inductionHypothesis _ (Script.not_refusesWrite_behind taken), ← Step.after_append,
        Script.afterWrites_afterWrites, writes_cons piece others, List.length_cons, Nat.add_comm]
      rfl

theorem print_of_taken {pieces : Pieces}
    (taken : ∀ index < pieces.length, ¬ script.RefusesWrite index) :
    print pieces ⟨.scripted script, logging⟩ =
      ⟨.finished (), writes pieces script,
        ⟨.scripted (script.afterWrites pieces.length), logging⟩⟩ := by
  have passed := print_append script logging taken []
  rw [List.append_nil] at passed
  rw [passed, print, Run.pure_apply, Step.after, List.append_nil]

/-- The first refused piece is the last that is written. -/
theorem print_of_refused {pieces : Pieces} {index : Nat} (bound : index < pieces.length)
    (refused : script.RefusesWrite index)
    (taken : ∀ earlier < index, ¬ script.RefusesWrite earlier) :
    print pieces ⟨.scripted script, logging⟩ =
      ⟨.finished (), writes (pieces.take (index + 1)) script,
        ⟨.scripted (script.afterWrites (index + 1)), logging⟩⟩ := by
  have length : (pieces.take index).length = index := List.length_take_of_le (Nat.le_of_lt bound)
  have split : pieces.take index ++ pieces[index] :: pieces.drop (index + 1) = pieces := by
    rw [← List.drop_eq_getElem_cons bound, List.take_append_drop]
  have refusedThere : (script.afterWrites index).RefusesWrite 0 :=
    (script.refusesWrite_afterWrites index 0).mpr refused
  have front : ∀ earlier < (pieces.take index).length, ¬ script.RefusesWrite earlier := by
    rw [length]
    exact taken
  have passed := print_append script logging front (pieces[index] :: pieces.drop (index + 1))
  rw [split, length, print_cons_of_refused _ logging refusedThere,
    Script.afterWrites_afterWrites] at passed
  rw [passed, ← List.take_append_getElem bound, writes_append, length]
  rfl

/-- Whatever is answered to it, a print comes back and has used up replies to
writes only. -/
theorem print_finishes (pieces : Pieces) :
    ∃ count, print pieces ⟨.scripted script, logging⟩ =
        ⟨.finished (), writes (pieces.take count) script,
          ⟨.scripted (script.afterWrites count), logging⟩⟩ ∧
      Printed pieces (writes (pieces.take count) script) := by
  induction pieces generalizing script with
  | nil =>
      refine ⟨0, ?_, .done⟩
      rw [Script.afterWrites_zero]
      rfl
  | cons piece rest inductionHypothesis =>
      have word := script.word_writeReply_neg_iff 0 (encode piece).length
      by_cases refused : script.RefusesWrite 0
      · exact ⟨1, print_cons_of_refused script logging refused rest,
          .refused (word.mpr refused) rest⟩
      · rcases inductionHypothesis (script.afterWrites 1) with ⟨count, ran, printed⟩
        have nonnegative : 0 ≤ (script.writeReply 0 (encode piece).length).word :=
          Int64.not_lt.mp fun negative => refused (word.mp negative)
        refine ⟨count + 1, ?_, ?_⟩
        · rw [print_cons_of_taken script logging refused, ran, Script.afterWrites_afterWrites,
            Nat.add_comm, List.take_succ_cons, writes_cons piece (rest.take count)]
          rfl
        · rw [List.take_succ_cons, writes_cons piece (rest.take count)]
          exact .taken nonnegative printed

/-- A print for each of some values. -/
theorem forM_print_finishes {α : Type} (pieces : α → Pieces) (values : List α) :
    ∃ printing count, (values.forM fun value => print (pieces value))
        ⟨.scripted script, logging⟩ =
          ⟨.finished (), printing, ⟨.scripted (script.afterWrites count), logging⟩⟩ ∧
      PrintedInTurn (values.map fun value => Pieces.text (pieces value)) printing := by
  induction values generalizing script with
  | nil =>
      refine ⟨[], 0, ?_, .nil⟩
      rw [Script.afterWrites_zero]
      rfl
  | cons value rest inductionHypothesis =>
      rcases print_finishes script logging (pieces value) with ⟨used, ran, printed⟩
      rcases inductionHypothesis (script.afterWrites used) with ⟨behind, count, later, others⟩
      refine ⟨_, used + count, ?_, .cons printed others⟩
      rw [List.forM, Run.bind_of_ran ran, later, Script.afterWrites_afterWrites]
      rfl

end Printing
end Terminal
end Userland
