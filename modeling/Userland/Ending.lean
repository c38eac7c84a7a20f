import Userland.Text.Pieces
import Userland.Trap

/-!
# How processes end

A process ends by leaving an exit code, or the kernel ends it for a fault.  Its
parent learns which from the word that a join returns: one for an exit, and
only then is the stored code meaningful; zero for a fault; anything else says
that there was nothing to wait for.
-/

namespace Userland

open Text

/-- How a process ended. -/
inductive Ending
  /-- It left this exit code. -/
  | exited (code : Int32)
  /-- The kernel ended it. -/
  | abnormal
  deriving DecidableEq

namespace Ending

/-- The ending told by the word that a join returned and the exit code then in
memory, if there is one. -/
def ofJoin? (word : Int64) (code : Int32) : Option Ending :=
  if word = 1 then some (exited code)
  else if word = 0 then some abnormal
  else none

/-- Whether the process ended of itself with code zero. -/
def isSuccess (ending : Ending) : Bool :=
  ending = exited 0

/-- The text by which the answer of a join is shown to a developer. -/
def describe : Option Ending → String
  | none => "None"
  | some abnormal => "Some(Abnormal)"
  | some (exited code) => "Some(Exited(" ++ Pieces.text (Pieces.integer code.toInt) ++ "))"

end Ending

/-- End the process with an exit code. -/
def exit {α : Type} (code : Int32) : Run α :=
  Trap.exit code

/-- Ask to switch the machine off.  This returns only when the kernel refuses. -/
def halt : Run Unit :=
  discard Trap.halt

end Userland
