import Mathlib.Data.List.GetD
import Userland.Proofs.Output.Printing
import Userland.Proofs.Run.Asks

/-!
# What arrives of a print

Two readings of the record say what has arrived after some calls.  `written`
counts a write as arrived whole unless it was answered by a negative word, as
the print that made it does.  `taken` goes by the word itself: that many bytes
have arrived, and all of them when the write was accepted whole.  The readings
agree where no word is too small, and then a print that was cut short by a
refusal has left a front part of its text, and any other print the whole text.

Where no reply to a write was prepared and the output is open, no run has a
write refused, and every print goes out whole and leaves the session as it found
it.
-/

namespace Userland

open Kernel Text Run

/-! ## Bytes that arrive -/

/-- The data of a write that was not answered by a negative word. -/
def Kernel.Event.output : Event → List UInt8
  | ⟨.write _ data, .resumed reply⟩ => if 0 ≤ reply.word then data else []
  | _ => []

/-- Everything that has arrived, in order. -/
def Kernel.written (events : List Event) : List UInt8 :=
  events.flatMap Event.output

/-- The data of a write that the kernel took, by the word with which it
answered. -/
def Kernel.Event.taken : Event → List UInt8
  | ⟨.write _ data, .resumed (.accepted _)⟩ => data
  | ⟨.write _ data, .resumed reply⟩ => data.take reply.word.toInt.toNat
  | _ => []

/-- Everything that the kernel took, in order. -/
def Kernel.taken (events : List Event) : List UInt8 :=
  events.flatMap Event.taken

/-- A write that was answered by a negative word. -/
def Kernel.Event.IsRefusal : Event → Prop
  | ⟨.write _ _, .resumed reply⟩ => reply.word < 0
  | _ => False

@[simp] theorem Kernel.written_append (first second : List Event) :
    written (first ++ second) = written first ++ written second :=
  List.flatMap_append

/-- The entry of a piece that was accepted whole. -/
def Terminal.accepted (piece : String) : Event where
  call := .write File.standardOutput (encode piece)
  response := .resumed (.accepted (encode piece).length)

theorem Text.encode_text (pieces : Pieces) :
    encode (Pieces.text pieces) = pieces.flatMap encode := by
  induction pieces with
  | nil => rfl
  | cons piece rest inductionHypothesis =>
      rw [Pieces.text, String.join_cons, encode_append, List.flatMap_cons, ← inductionHypothesis]
      rfl

@[simp] theorem Text.Pieces.text_append (first second : Pieces) :
    Pieces.text (first ++ second) = Pieces.text first ++ Pieces.text second :=
  String.join_append

@[simp] theorem Text.Pieces.text_singleton (piece : String) : Pieces.text [piece] = piece := by
  rw [Pieces.text, String.join_cons, String.join_nil, String.append_empty]

/-- The pieces of a number make up its usual decimal form. -/
theorem Text.Pieces.text_integer (number : Int) :
    Pieces.text (Pieces.integer number) = toString number := by
  cases number with
  | ofNat magnitude => simp [Pieces.text, Pieces.integer, Pieces.natural, toString, Int.repr]
  | negSucc magnitude => simp [Pieces.text, Pieces.integer, Pieces.natural, toString, Int.repr]

/-! ## Prints that go out whole -/

/-- No reply to a write is prepared, and the output is open. -/
def Kernel.Script.AcceptsAll (script : Script) : Prop :=
  script.write = [] ∧ script.outputClosed = false

namespace Kernel.Script.AcceptsAll

variable {script : Script}

theorem follows {later : Script} (accepts : script.AcceptsAll) (follows : later.Follows script) :
    later.AcceptsAll :=
  ⟨List.suffix_nil.mp (accepts.1 ▸ follows.write), follows.outputClosed.trans accepts.2⟩

theorem writeReply (accepts : script.AcceptsAll) (index length : Nat) :
    script.writeReply index length = .accepted length := by
  simp only [Script.writeReply, accepts.1, accepts.2, Bool.false_eq_true, if_false,
    List.getElem?_nil]

theorem not_refusesWrite (accepts : script.AcceptsAll) (index : Nat) :
    ¬ script.RefusesWrite index := by
  simp [RefusesWrite, accepts.1, accepts.2]

theorem afterWrites (accepts : script.AcceptsAll) (count : Nat) :
    script.afterWrites count = script := by
  rcases script with ⟨halt, exit, exec, join, create, openFile, read, write⟩
  rcases accepts with ⟨rfl, rfl⟩
  rw [Script.afterWrites, if_neg Bool.false_ne_true, List.drop_nil]

theorem afterExecs_afterWrites (accepts : script.AcceptsAll) (started written : Nat) :
    ((script.afterExecs started).afterWrites written).AcceptsAll := by
  have same : (script.afterExecs started).AcceptsAll := accepts
  rw [same.afterWrites]
  exact same

end Kernel.Script.AcceptsAll

theorem Terminal.writes_of_acceptsAll {script : Script} (accepts : script.AcceptsAll)
    (pieces : Pieces) : writes pieces script = pieces.map accepted := by
  induction pieces with
  | nil => rfl
  | cons piece rest inductionHypothesis =>
      rw [writes_cons, accepts.writeReply, accepts.afterWrites, inductionHypothesis]
      rfl

section Accepting

variable {script : Script} (accepts : script.AcceptsAll) (logging : Log.State)

include accepts in
theorem Terminal.print_accepted (pieces : Pieces) :
    Terminal.print pieces ⟨.scripted script, logging⟩ =
      ⟨.finished (), pieces.map accepted, ⟨.scripted script, logging⟩⟩ := by
  rw [print_of_taken script logging fun index _ => accepts.not_refusesWrite index,
    writes_of_acceptsAll accepts, accepts.afterWrites]

include accepts in
/-- Nothing that a run writes is refused. -/
theorem Run.Asks.not_isRefusal {α : Type} {allowed : Call → Prop} {run : Run α}
    (asks : Asks allowed run) :
    ∀ event ∈ (run ⟨.scripted script, logging⟩).events, ¬ event.IsRefusal := by
  intro event listed
  rcases asks.served script logging event listed with ⟨reached, follows, response⟩
  rcases event with ⟨call, answer⟩
  cases call with
  | write descriptor data =>
      have accepted : answer = .resumed (.accepted data.length) := by
        refine response.trans ?_
        rw [Script.serve_write, (accepts.follows follows).writeReply]
      rw [accepted]
      exact Int64.not_lt.mpr (Returned.zero_le_lengthWord _)
  | _ => exact id

end Accepting

/-! ## Prints over any replies -/

namespace Terminal

/-- Every word that is prepared for one of the pieces is negative, or it is no
smaller than the number of bytes. -/
def Sufficient (pieces : Pieces) (script : Script) : Prop :=
  ∀ index < pieces.length, ∀ word ∈ script.write[index]?, 0 ≤ word →
    ((encode (pieces.getD index "")).length : Int) ≤ word.toInt

-- The words that are prepared are looked at, not all words that there are.
instance (pieces : Pieces) (script : Script) : Decidable (Sufficient pieces script) :=
  @Nat.decidableBallLT pieces.length _ fun index _bound =>
    Option.decidableForallMem script.write[index]?

theorem output_of_taken {piece : String} {reply : Reply} (nonnegative : 0 ≤ reply.word) :
    (pieceEvent piece reply).output = encode piece :=
  if_pos nonnegative

theorem output_of_refused {piece : String} {reply : Reply} (negative : reply.word < 0) :
    (pieceEvent piece reply).output = [] :=
  if_neg (Int64.not_le.mpr negative)

/-- Of a print without a refusal the whole text has arrived. -/
theorem Printed.written {pieces : Pieces} {events : List Event} (printed : Printed pieces events)
    (accepted : ∀ event ∈ events, ¬ event.IsRefusal) :
    written events = encode (Pieces.text pieces) := by
  induction printed with
  | done => rfl
  | refused negative rest => exact absurd negative (accepted _ List.mem_cons_self)
  | @taken piece rest reply events nonnegative others inductionHypothesis =>
      have behind := inductionHypothesis fun event listed =>
        accepted event (List.mem_cons_of_mem _ listed)
      rw [Kernel.written, List.flatMap_cons, ← Kernel.written, output_of_taken nonnegative, behind,
        Text.encode_text, Text.encode_text, List.flatMap_cons]

theorem PrintedInTurn.written {texts : List String} {events : List Event}
    (printed : PrintedInTurn texts events) (accepted : ∀ event ∈ events, ¬ event.IsRefusal) :
    Kernel.written events = encode (String.join texts) := by
  induction printed with
  | nil => rfl
  | cons own _ inductionHypothesis =>
      have ⟨ownAccepted, othersAccepted⟩ := List.forall_mem_append.mp accepted
      rw [written_append, own.written ownAccepted, inductionHypothesis othersAccepted,
        String.join_cons, encode_append]

theorem taken_pieceEvent (piece : String) (script : Script) (index : Nat)
    (sufficient : ∀ word ∈ script.write[index]?, 0 ≤ word →
      ((encode piece).length : Int) ≤ word.toInt) :
    (pieceEvent piece (script.writeReply index (encode piece).length)).taken =
      (pieceEvent piece (script.writeReply index (encode piece).length)).output := by
  cases closed : script.outputClosed with
  | true =>
      rw [Script.writeReply, if_pos closed]
      rfl
  | false =>
      rw [Script.writeReply, if_neg (closed ▸ Bool.false_ne_true)]
      cases prepared : script.write[index]? with
      | none =>
          have nonnegative : 0 ≤ (Reply.accepted (encode piece).length).word :=
            Returned.zero_le_lengthWord _
          exact (output_of_taken nonnegative).symm
      | some word =>
          show (encode piece).take word.toInt.toNat = _
          by_cases nonnegative : 0 ≤ word
          · have enough := sufficient word prepared nonnegative
            have output : (pieceEvent piece (.returned word)).output = encode piece :=
              output_of_taken nonnegative
            rw [output]
            exact List.take_of_length_le (by omega)
          · have negative : word < 0 := Int64.not_le.mp nonnegative
            have below : word.toInt ≤ 0 := Int.le_of_lt (Int64.lt_iff_toInt_lt.mp negative)
            have output : (pieceEvent piece (.returned word)).output = [] :=
              output_of_refused negative
            rw [output, Int.toNat_of_nonpos below, List.take_zero]

theorem Sufficient.take {pieces : Pieces} {script : Script}
    (sufficient : Sufficient pieces script) (count : Nat) :
    Sufficient (pieces.take count) script := by
  intro index bound word prepared nonnegative
  have inside : index < count ∧ index < pieces.length := by
    rw [List.length_take] at bound
    omega
  have same : (pieces.take count).getD index "" = pieces.getD index "" := by
    rw [List.getD_eq_getElem _ _ bound, List.getD_eq_getElem _ _ inside.2, List.getElem_take]
  rw [same]
  exact sufficient index inside.2 word prepared nonnegative

/-- Where no word is too small, the two readings of what has arrived agree. -/
theorem taken_writes {pieces : Pieces} {script : Script} (sufficient : Sufficient pieces script) :
    taken (writes pieces script) = written (writes pieces script) := by
  apply List.flatMap_congr
  intro event listed
  rcases List.mem_mapIdx.mp listed with ⟨index, bound, rfl⟩
  have enough := sufficient index bound
  rw [List.getD_eq_getElem _ _ bound] at enough
  exact taken_pieceEvent _ script index enough

theorem written_of_taken {pieces : Pieces} {script : Script}
    (taken : ∀ index < pieces.length, ¬ script.RefusesWrite index) :
    written (writes pieces script) = encode (Pieces.text pieces) := by
  induction pieces generalizing script with
  | nil => rfl
  | cons piece rest inductionHypothesis =>
      have nonnegative : 0 ≤ (script.writeReply 0 (encode piece).length).word :=
        Int64.not_lt.mp fun negative =>
          taken 0 (Nat.zero_lt_succ _) ((script.word_writeReply_neg_iff _ _).mp negative)
      have others := inductionHypothesis (Script.not_refusesWrite_behind taken)
      rw [writes_cons, written, List.flatMap_cons, ← written, output_of_taken nonnegative, others,
        Text.encode_text, Text.encode_text, List.flatMap_cons]

/-- The refused piece itself leaves nothing. -/
theorem written_of_refused {pieces : Pieces} {script : Script} {index : Nat}
    (bound : index < pieces.length) (refused : script.RefusesWrite index)
    (taken : ∀ earlier < index, ¬ script.RefusesWrite earlier) :
    written (writes (pieces.take (index + 1)) script) =
      encode (Pieces.text (pieces.take index)) := by
  have length : (pieces.take index).length = index := List.length_take_of_le (Nat.le_of_lt bound)
  have front : ∀ earlier < (pieces.take index).length, ¬ script.RefusesWrite earlier := by
    rw [length]
    exact taken
  have negative : (script.writeReply index (encode pieces[index]).length).word < 0 :=
    (script.word_writeReply_neg_iff _ _).mpr refused
  have last : written (writes [pieces[index]] (script.afterWrites index)) = [] := by
    rw [writes_cons, Script.writeReply_afterWrites, Nat.add_zero, written, List.flatMap_cons,
      output_of_refused negative]
    rfl
  rw [← List.take_append_getElem bound, writes_append, length, written_append,
    written_of_taken front, last, List.append_nil]

/-- What a print of these pieces comes to: one write for each of them up to the
first that is refused, as many replies used up, and a normal end in any case.
Where no word is too small, the kernel has taken a front part of the text, and
the whole of it if it refused nothing. -/
structure Prints (pieces : Pieces) (script : Script) (logging : Log.State) (step : Step Unit) :
    Prop where
  whole : (∀ index < pieces.length, ¬ script.RefusesWrite index) →
    step = ⟨.finished (), writes pieces script,
      ⟨.scripted (script.afterWrites pieces.length), logging⟩⟩
  stopped : ∀ index < pieces.length, script.RefusesWrite index →
    (∀ earlier < index, ¬ script.RefusesWrite earlier) →
      step = ⟨.finished (), writes (pieces.take (index + 1)) script,
        ⟨.scripted (script.afterWrites (index + 1)), logging⟩⟩
  arrived : Sufficient pieces script →
    taken step.events = written step.events ∧
    taken step.events <+: encode (Pieces.text pieces) ∧
    ((∀ index < pieces.length, ¬ script.RefusesWrite index) →
      taken step.events = encode (Pieces.text pieces))

theorem prints_print (pieces : Pieces) (script : Script) (logging : Log.State) :
    Prints pieces script logging (print pieces ⟨.scripted script, logging⟩) where
  whole := print_of_taken script logging
  stopped _index := print_of_refused script logging
  arrived sufficient := by
    by_cases refusal : ∃ index < pieces.length, script.RefusesWrite index
    · rcases exists_first refusal with ⟨index, bound, refused, passed⟩
      have front : Sufficient (pieces.take (index + 1)) script := sufficient.take (index + 1)
      have split : Pieces.text pieces =
          Pieces.text (pieces.take index) ++ Pieces.text (pieces.drop index) := by
        rw [← Pieces.text_append, List.take_append_drop]
      rw [print_of_refused script logging bound refused passed]
      dsimp only
      rw [taken_writes front, written_of_refused bound refused passed, split, encode_append]
      exact ⟨rfl, List.prefix_append _ _, fun none => absurd refused (none index bound)⟩
    · have passed : ∀ index < pieces.length, ¬ script.RefusesWrite index :=
        fun index bound refused => refusal ⟨index, bound, refused⟩
      rw [print_of_taken script logging passed]
      dsimp only
      rw [taken_writes sufficient, written_of_taken passed]
      exact ⟨rfl, List.prefix_rfl, fun _ => rfl⟩

/-- Whatever the kernel answers to the writes of a print, and whether or not the
print ends its line, the writes are those of its leading pieces. -/
theorem print_and_printLine_conform (pieces : Pieces) (script : Script) (logging : Log.State) :
    Prints pieces script logging (print pieces ⟨.scripted script, logging⟩) ∧
      Prints (pieces ++ ["\n"]) script logging (printLine pieces ⟨.scripted script, logging⟩) :=
  ⟨prints_print pieces script logging, prints_print (pieces ++ ["\n"]) script logging⟩

/-- A word that is too large, the empty piece with a zero, and a refusal: the
rest is not written, nor is the line ended, and one reply is left. -/
theorem printLine_refused_midway :
    let pieces : Pieces := ["roses", "", " are ", "red"]
    let script : Script := { write := [9, 0, -1, 7] }
    let step := printLine pieces ⟨.scripted script, {}⟩
    script.RefusesWrite 2 ∧ (∀ earlier < 2, ¬ script.RefusesWrite earlier) ∧
      Sufficient (pieces ++ ["\n"]) script ∧
      step = ⟨.finished (), writes ["roses", "", " are "] script,
        ⟨.scripted { write := [7] }, {}⟩⟩ ∧
      taken step.events <+: encode (Pieces.text ["roses", "", " are ", "red", "\n"]) := by
  intro pieces script step
  have refused : script.RefusesWrite 2 := by decide
  have passed : ∀ earlier < 2, ¬ script.RefusesWrite earlier := by decide
  have sufficient : Sufficient (pieces ++ ["\n"]) script := by decide
  have conforms := (print_and_printLine_conform pieces script {}).2
  exact ⟨refused, passed, sufficient, conforms.stopped 2 (by decide) refused passed,
    (conforms.arrived sufficient).2.1⟩

end Terminal
end Userland
