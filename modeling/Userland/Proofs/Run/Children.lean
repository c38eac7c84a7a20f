import Userland.Child
import Userland.Proofs.Run.Sequence
import Userland.Proofs.Text.Refused

/-!
# Starting one child and waiting for it

What the checks in front of a start come to: a start is either refused, and then
it is no run at all, or it is the start as the kernel sees it, with its word
read as a number.  In a session with a kernel both calls then have one entry in
the record, and take one reply each.
-/

namespace Userland

open Kernel Text

namespace Child

variable {name : String} {arguments : List String}

theorem exec_of_refused (refused : Refused name ∨ ∃ argument ∈ arguments, Refused argument) :
    exec name arguments = pure none := by
  unfold exec
  rcases refused with nameRefused | argumentRefused
  · rw [Terminated.marshal?_of_refused nameRefused]
  · rw [Arguments.marshal?_of_refused argumentRefused]
    cases Terminated.marshal? name <;> rfl

theorem exec_of_accepted (nameAccepted : ¬ Refused name)
    (argumentsAccepted : ∀ argument ∈ arguments, ¬ Refused argument) :
    exec name arguments =
      Returned.value? <$>
        Trap.exec (.ofText name) arguments.length (Arguments.ofTexts arguments).pointer := by
  rw [exec, Terminated.marshal?_of_accepted nameAccepted,
    Arguments.marshal?_of_accepted argumentsAccepted, ← Arguments.count_ofTexts]

theorem exec_scripted (nameAccepted : ¬ Refused name)
    (argumentsAccepted : ∀ argument ∈ arguments, ¬ Refused argument) (script : Script)
    (logging : Log.State) :
    exec name arguments ⟨.scripted script, logging⟩ =
      ⟨.finished (Returned.value? (script.execWord 0)),
        [⟨.exec (.ofText name) arguments.length (Arguments.ofTexts arguments).pointer,
          .resumed (.returned (script.execWord 0))⟩],
        ⟨.scripted (script.afterExecs 1), logging⟩⟩ := by
  rw [exec_of_accepted nameAccepted argumentsAccepted,
    Run.map_of_ran _ (Trap.exec_scripted script logging _ _ _)]

theorem join_scripted (child : UInt64) (script : Script) (logging : Log.State) :
    join child ⟨.scripted script, logging⟩ =
      ⟨.finished (Ending.ofJoin? (script.joinReply 0).1 ((script.joinReply 0).2.getD 0)),
        [⟨.join child, .resumed (.joined (script.joinReply 0).1 (script.joinReply 0).2)⟩],
        ⟨.scripted (script.afterJoins 1), logging⟩⟩ := by
  rw [join, Run.bind_of_ran (Trap.join_scripted script logging child 0)]
  rfl

end Child
end Userland
