import Mathlib.Data.List.Infix
import Mathlib.Data.Nat.Find
import Userland.Kernel.Returned
import Userland.Kernel.Script

/-!
# The replies of a script

A script answers the calls of one kind from a list of its own.  Here that list
is read by position: `execWord script index` is the word with which the start
number `index` will be answered, whether it was prepared or is the default, and
`joinReply` is the same for waits and `writeReply` for writes.  `afterExecs`,
`afterJoins` and `afterWrites` are the scripts that are left when so many calls
of the kind were made.  A closed output answers every write and uses nothing up.

`Follows` compares two scripts of one run.  The later one has nothing that the
earlier one had not prepared: replies are only ever taken away from the front.
It is not claimed that the later script is another one, since a call may be
answered by a default and take nothing.
-/

namespace Userland
namespace Kernel

/-- Where some place below a bound has a property, there is a first one. -/
theorem exists_first {property : Nat → Prop} {bound : Nat}
    (found : ∃ index < bound, property index) :
    ∃ index < bound, property index ∧ ∀ earlier < index, ¬ property earlier := by
  classical
  have first := Nat.find_spec found
  refine ⟨Nat.find found, first.1, first.2, fun earlier before holds => ?_⟩
  exact Nat.find_min found before ⟨before.trans first.1, holds⟩

/-- Whether the call asks for the end of the process. -/
def Call.isExit : Call → Bool
  | .exit _ => true
  | _ => false

namespace Script

/-! ## Starting programs and waiting for them -/

/-- The word with which a start of a program will be answered, the starts
counted from zero. -/
def execWord (script : Script) (index : Nat) : Int64 :=
  script.exec.getD index (-1)

/-- The word and the stored code with which a wait will be answered, the waits
counted from zero. -/
def joinReply (script : Script) (index : Nat) : Int64 × Option Int32 :=
  script.join.getD index (-1, none)

/-- The script that is left after some starts. -/
def afterExecs (script : Script) (count : Nat) : Script :=
  { script with exec := script.exec.drop count }

/-- The script that is left after some waits. -/
def afterJoins (script : Script) (count : Nat) : Script :=
  { script with join := script.join.drop count }

theorem afterExecs_afterExecs (script : Script) (first second : Nat) :
    (script.afterExecs first).afterExecs second = script.afterExecs (first + second) := by
  simp only [afterExecs, List.drop_drop]

theorem afterJoins_afterJoins (script : Script) (first second : Nat) :
    (script.afterJoins first).afterJoins second = script.afterJoins (first + second) := by
  simp only [afterJoins, List.drop_drop]

@[simp] theorem execWord_afterExecs (script : Script) (count index : Nat) :
    (script.afterExecs count).execWord index = script.execWord (count + index) := by
  simp only [execWord, afterExecs, List.getD_eq_getElem?_getD, List.getElem?_drop]

@[simp] theorem joinReply_afterJoins (script : Script) (count index : Nat) :
    (script.afterJoins count).joinReply index = script.joinReply (count + index) := by
  simp only [joinReply, afterJoins, List.getD_eq_getElem?_getD, List.getElem?_drop]

/-- Of the starts that are answered by a negative word there is a first. -/
theorem exists_first_negative {script : Script} {count : Nat}
    (negative : ∃ index < count, script.execWord index < 0) :
    ∃ index < count, script.execWord index < 0 ∧
      ∀ earlier < index, 0 ≤ script.execWord earlier := by
  rcases exists_first negative with ⟨index, bound, word, passed⟩
  exact ⟨index, bound, word, fun earlier before => Int64.not_lt.mp (passed earlier before)⟩

theorem serve_exec (script : Script) (name : Text.Terminated) (count : Nat)
    (arguments : Option (List Text.Terminated)) :
    script.serve (.exec name count arguments) =
      (.resumed (.returned (script.execWord 0)), script.afterExecs 1) := by
  simp only [serve, execWord, afterExecs, List.drop_one]
  cases script.exec <;> rfl

theorem serve_join (script : Script) (child : UInt64) :
    script.serve (.join child) =
      (.resumed (.joined (script.joinReply 0).1 (script.joinReply 0).2),
        script.afterJoins 1) := by
  simp only [serve, joinReply, afterJoins, List.drop_one]
  cases script.join <;> rfl

/-- Without a prepared return, an exit is final and takes nothing. -/
theorem serve_exit (script : Script) (word : UInt64) (final : script.exit = []) :
    script.serve (.exit word) = (.ended word.toInt64, script) := by
  simp only [serve, final]

/-- Any other call resumes the program, and the returns that were prepared for
exits stay. -/
theorem serve_of_other (script : Script) {call : Call} (other : call.isExit = false) :
    ∃ reply left, script.serve call = (.resumed reply, left) ∧ left.exit = script.exit := by
  cases call with
  | exit word => cases other
  | write descriptor data =>
      simp only [serve]
      split
      · exact ⟨_, _, rfl, rfl⟩
      · split <;> exact ⟨_, _, rfl, rfl⟩
  | _ => exact ⟨_, _, rfl, rfl⟩

/-! ## Writing -/

/-- The reply to a write of so many bytes, the writes counted from zero. -/
def writeReply (script : Script) (index length : Nat) : Reply :=
  if script.outputClosed then .refused
  else match script.write[index]? with
    | some word => .returned word
    | none => .accepted length

/-- The script that is left after some writes. -/
def afterWrites (script : Script) (count : Nat) : Script :=
  if script.outputClosed then script else { script with write := script.write.drop count }

/-- The write in this place is answered by a negative word, however long it is. -/
def RefusesWrite (script : Script) (index : Nat) : Prop :=
  script.outputClosed = true ∨ ∃ word ∈ script.write[index]?, word < 0

instance (script : Script) (index : Nat) : Decidable (script.RefusesWrite index) :=
  inferInstanceAs (Decidable (_ ∨ _))

theorem afterWrites_zero (script : Script) : script.afterWrites 0 = script := by
  simp only [afterWrites, List.drop_zero, ite_self]

theorem afterWrites_afterWrites (script : Script) (first second : Nat) :
    (script.afterWrites first).afterWrites second = script.afterWrites (first + second) := by
  cases closed : script.outputClosed <;>
    simp [afterWrites, closed, List.drop_drop]

@[simp] theorem outputClosed_afterWrites (script : Script) (count : Nat) :
    (script.afterWrites count).outputClosed = script.outputClosed := by
  cases closed : script.outputClosed <;> simp [afterWrites, closed]

@[simp] theorem exit_afterWrites (script : Script) (count : Nat) :
    (script.afterWrites count).exit = script.exit := by
  cases closed : script.outputClosed <;> simp [afterWrites, closed]

@[simp] theorem join_afterWrites (script : Script) (count : Nat) :
    (script.afterWrites count).join = script.join := by
  cases closed : script.outputClosed <;> simp [afterWrites, closed]

@[simp] theorem execWord_afterWrites (script : Script) (count index : Nat) :
    (script.afterWrites count).execWord index = script.execWord index := by
  cases closed : script.outputClosed <;> simp [execWord, afterWrites, closed]

/-- Starts and writes use up replies of their own. -/
theorem afterExecs_afterWrites (script : Script) (written started : Nat) :
    (script.afterWrites written).afterExecs started =
      (script.afterExecs started).afterWrites written := by
  cases closed : script.outputClosed <;> simp [afterExecs, afterWrites, closed]

@[simp] theorem writeReply_afterWrites (script : Script) (count index length : Nat) :
    (script.afterWrites count).writeReply index length =
      script.writeReply (count + index) length := by
  cases closed : script.outputClosed <;>
    simp [writeReply, afterWrites, closed, List.getElem?_drop]

@[simp] theorem refusesWrite_afterWrites (script : Script) (count index : Nat) :
    (script.afterWrites count).RefusesWrite index ↔ script.RefusesWrite (count + index) := by
  cases closed : script.outputClosed <;>
    simp [RefusesWrite, afterWrites, closed, List.getElem?_drop]

/-- The writes behind the first. -/
theorem not_refusesWrite_behind {script : Script} {count : Nat}
    (taken : ∀ index < count + 1, ¬ script.RefusesWrite index) :
    ∀ index < count, ¬ (script.afterWrites 1).RefusesWrite index := by
  intro index bound
  rw [refusesWrite_afterWrites, Nat.add_comm]
  exact taken (index + 1) (Nat.succ_lt_succ bound)

/-- Only a closed output and a word that was prepared can be negative. -/
theorem word_writeReply_neg_iff (script : Script) (index length : Nat) :
    (script.writeReply index length).word < 0 ↔ script.RefusesWrite index := by
  have accepted : ¬ (Reply.accepted length).word < 0 :=
    Int64.not_lt.mpr (Returned.zero_le_lengthWord length)
  cases closed : script.outputClosed with
  | true => simp [writeReply, RefusesWrite, closed, Reply.word]
  | false =>
      cases prepared : script.write[index]? with
      | none => simp [writeReply, RefusesWrite, closed, prepared, accepted]
      | some word => simp [writeReply, RefusesWrite, closed, prepared, Reply.word]

theorem serve_write (script : Script) (descriptor : UInt64) (data : List UInt8) :
    script.serve (.write descriptor data) =
      (.resumed (script.writeReply 0 data.length), script.afterWrites 1) := by
  rcases script with ⟨halt, exit, exec, join, create, openFile, read, write, close, unlink, closed⟩
  cases closed with
  | true => rfl
  | false => cases write <;> rfl

/-! ## Scripts only move forward -/

/-- Everything that is still prepared was prepared before, behind what has been
used up since. -/
structure Follows (later earlier : Script) : Prop where
  halt : later.halt <:+ earlier.halt
  exit : later.exit <:+ earlier.exit
  exec : later.exec <:+ earlier.exec
  join : later.join <:+ earlier.join
  create : later.create <:+ earlier.create
  openFile : later.openFile <:+ earlier.openFile
  read : later.read <:+ earlier.read
  write : later.write <:+ earlier.write
  close : later.close <:+ earlier.close
  unlink : later.unlink <:+ earlier.unlink
  outputClosed : later.outputClosed = earlier.outputClosed

theorem Follows.refl (script : Script) : script.Follows script := by
  constructor <;> first | exact List.suffix_rfl | rfl

theorem Follows.trans {last later earlier : Script} (second : last.Follows later)
    (first : later.Follows earlier) : last.Follows earlier where
  halt := second.halt.trans first.halt
  exit := second.exit.trans first.exit
  exec := second.exec.trans first.exec
  join := second.join.trans first.join
  create := second.create.trans first.create
  openFile := second.openFile.trans first.openFile
  read := second.read.trans first.read
  write := second.write.trans first.write
  close := second.close.trans first.close
  unlink := second.unlink.trans first.unlink
  outputClosed := second.outputClosed.trans first.outputClosed

/-- One call takes at most one reply, and from the front. -/
theorem serve_follows (script : Script) (call : Call) : (script.serve call).2.Follows script := by
  have same := Follows.refl script
  cases call with
  | halt => exact { same with halt := List.tail_suffix _ }
  | exec => exact { same with exec := List.tail_suffix _ }
  | join => exact { same with join := List.tail_suffix _ }
  | create => exact { same with create := List.tail_suffix _ }
  | openFile => exact { same with openFile := List.tail_suffix _ }
  | read => exact { same with read := List.tail_suffix _ }
  | close => exact { same with close := List.tail_suffix _ }
  | unlink => exact { same with unlink := List.tail_suffix _ }
  | exit word =>
      cases prepared : script.exit with
      | nil => simpa only [serve, prepared] using same
      | cons reply rest =>
          have used : rest <:+ script.exit := prepared ▸ List.suffix_cons reply rest
          simp only [serve, prepared]
          exact { same with exit := used }
  | write descriptor data =>
      cases closed : script.outputClosed with
      | true => simpa only [serve, closed, if_true] using same
      | false =>
          cases prepared : script.write with
          | nil => simpa only [serve, closed, prepared, Bool.false_eq_true, if_false] using same
          | cons reply rest =>
              have used : rest <:+ script.write := prepared ▸ List.suffix_cons reply rest
              simp only [serve, closed, prepared, Bool.false_eq_true, if_false]
              exact { same with write := used, outputClosed := closed.symm }

end Script
end Kernel
end Userland
