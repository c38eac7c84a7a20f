import Userland.Proofs.Program.Conclusion
import Userland.Proofs.Run.Children

/-!
# Exit codes on the way to the parent

A child leaves its exit code in a word of twice the width, and what the kernel
stores for the parent is the low half of that word.  The code is extended by its
sign on the way out and cut off on the way back, so every code arrives as it
was, the least and the greatest included.

Whether the stored code is looked at is decided by the word that the join
returned.  That the kernel stores a code at all, or the right one, is a premise
here and nothing that a run could ensure.
-/

namespace Userland

open Kernel

/-! ## The word of an exit -/

namespace Trap

/-- What a kernel that keeps exit codes stores for the parent: the low half of
the word of the exit, read as a signed number. -/
def keptCode (word : UInt64) : Int32 :=
  word.toUInt32.toInt32

/-- Cutting off is the same for the unsigned word and for the signed one. -/
theorem keptCode_eq (word : UInt64) : keptCode word = word.toInt64.toInt32 := by
  apply Int32.toBitVec_inj.mp
  calc
    (keptCode word).toBitVec = word.toBitVec.setWidth 32 := rfl
    _ = word.toBitVec.signExtend 32 :=
      (BitVec.signExtend_eq_setWidth_of_le word.toBitVec (by decide)).symm
    _ = word.toInt64.toInt32.toBitVec := (Int64.toBitVec_toInt32 word.toInt64).symm

theorem toInt64_statusWord (code : Int32) : (statusWord code).toInt64 = code.toInt64 :=
  code.toInt64.toInt64_toUInt64

/-- As a signed number the word of an exit is the code itself. -/
theorem toInt_statusWord (code : Int32) : (statusWord code).toInt64.toInt = code.toInt := by
  rw [toInt64_statusWord, Int32.toInt_toInt64]

theorem keptCode_statusWord (code : Int32) : keptCode (statusWord code) = code := by
  rw [keptCode_eq, toInt64_statusWord, Int32.toInt32_toInt64]

end Trap

/-! ## What a join tells -/

namespace Ending

/-- The three ways to read a word. -/
theorem ofJoin?_cases (word : Int64) (code : Int32) :
    (word = 1 ∧ ofJoin? word code = some (exited code)) ∨
      (word = 0 ∧ ofJoin? word code = some abnormal) ∨
      ((word ≠ 0 ∧ word ≠ 1) ∧ ofJoin? word code = none) := by
  by_cases one : word = 1
  · exact .inl ⟨one, if_pos one⟩
  · by_cases zero : word = 0
    · exact .inr (.inl ⟨zero, by rw [ofJoin?, if_neg one, if_pos zero]⟩)
    · exact .inr (.inr ⟨⟨zero, one⟩, by rw [ofJoin?, if_neg one, if_neg zero]⟩)

/-- Two joins tell the same when there was nothing to wait for in both, or a
fault in both, or an exit in both with the same code. -/
theorem ofJoin?_eq_iff (first second : Int64) (code other : Int32) :
    ofJoin? first code = ofJoin? second other ↔
      ((first ≠ 0 ∧ first ≠ 1) ∧ second ≠ 0 ∧ second ≠ 1) ∨ (first = 0 ∧ second = 0) ∨
        (first = 1 ∧ second = 1 ∧ code = other) := by
  rcases ofJoin?_cases first code with ⟨firstWord, told⟩ | ⟨firstWord, told⟩ | ⟨firstWord, told⟩ <;>
  rcases ofJoin?_cases second other with
    ⟨secondWord, alsoTold⟩ | ⟨secondWord, alsoTold⟩ | ⟨secondWord, alsoTold⟩ <;>
  rw [told, alsoTold] <;> simp [firstWord, secondWord]

/-- A code that is stored beside any other word than one does not show. -/
theorem ofJoin?_of_ne_one {word : Int64} (notOne : word ≠ 1) (code other : Int32) :
    ofJoin? word code = ofJoin? word other := by
  rw [ofJoin?, ofJoin?, if_neg notOne, if_neg notOne]

theorem isSuccess_exited_iff (code : Int32) : (exited code).isSuccess = true ↔ code = 0 := by
  rw [isSuccess, decide_eq_true_eq, exited.injEq]

end Ending

/-- Every exit code survives the way from the child to the parent.  It goes out
as a word that means the same number, and once a kernel has stored the low half
of that word and answers a join with one, the join tells an exit with this code.
Beside any other word the stored code is of no account. -/
theorem exit_codes_reach_parents {α : Type} :
    (∀ (code : Int32) (script : Script) (logging : Log.State), ∃ word response,
      (exit code ⟨.scripted script, logging⟩ : Step α).events = [⟨.exit word, response⟩] ∧
      word.toInt64.toInt = code.toInt ∧ Trap.keptCode word = code ∧
      (∀ (child : UInt64) (parent : Script) (state : Log.State),
        parent.joinReply 0 = (1, some (Trap.keptCode word)) →
          (Child.join child ⟨.scripted parent, state⟩).outcome =
            .finished (some (.exited code))) ∧
      ((Ending.exited code).isSuccess = true ↔ code = 0)) ∧
    (∀ (child : UInt64) (script : Script) (logging : Log.State),
      (Child.join child ⟨.scripted script, logging⟩).outcome =
        .finished (Ending.ofJoin? (script.joinReply 0).1 ((script.joinReply 0).2.getD 0))) ∧
    (∀ (word : Int64) (code other : Int32), word ≠ 1 →
      Ending.ofJoin? word code = Ending.ofJoin? word other) ∧
    ∀ (first second : Int64) (code other : Int32),
      Ending.ofJoin? first code = Ending.ofJoin? second other ↔
        ((first ≠ 0 ∧ first ≠ 1) ∧ second ≠ 0 ∧ second ≠ 1) ∨ (first = 0 ∧ second = 0) ∨
          (first = 1 ∧ second = 1 ∧ code = other) := by
  refine ⟨?_, ?_, fun word code other notOne => Ending.ofJoin?_of_ne_one notOne code other,
    Ending.ofJoin?_eq_iff⟩
  · intro code script logging
    rcases exit_is_one_call (α := α) code script logging with ⟨response, once, -, -⟩
    refine ⟨Trap.statusWord code, response, once, Trap.toInt_statusWord code,
      Trap.keptCode_statusWord code, ?_, Ending.isSuccess_exited_iff code⟩
    intro child parent state stored
    rw [Child.join_scripted, stored, Trap.keptCode_statusWord]
    rfl
  · intro child script logging
    rw [Child.join_scripted]

/-- The least code goes out below zero and comes back, and a code that is stored
beside a two is not told. -/
theorem least_code_reaches_parent :
    let code : Int32 := -2147483648
    let parent : Script := { join := [(1, some code), (2, some code)] }
    let first : Step (Option Ending) := Child.join 5 ⟨.scripted parent, {}⟩
    (∃ word : UInt64, Trap.keptCode word = code ∧ word.toInt64.toInt = -2147483648 ∧
      parent.joinReply 0 = (1, some (Trap.keptCode word)) ∧
      first.outcome = .finished (some (.exited code))) ∧
    (2 : Int64) ≠ 1 ∧ Ending.ofJoin? 2 code = Ending.ofJoin? 2 0 := by
  intro code parent first
  have ⟨travels, _, hidden, _⟩ := exit_codes_reach_parents (α := Unit)
  rcases travels code {} {} with ⟨word, response, -, number, kept, arrives, -⟩
  have stored : parent.joinReply 0 = (1, some (Trap.keptCode word)) := by rw [kept]; rfl
  have different : (2 : Int64) ≠ 1 := by decide
  exact ⟨⟨word, kept, number, stored, arrives 5 parent {} stored⟩, different,
    hidden 2 code 0 different⟩

end Userland
