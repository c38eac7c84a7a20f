import Userland.Ending
import Userland.Kernel.Returned

/-!
# Children

A process starts programs, which then run beside it, and waits for them to end.
Names and arguments are checked before the kernel is entered, as for files.
-/

namespace Userland
namespace Child

open Kernel Text

/-- Start a program with arguments and answer the number of the new child.
Nothing is started when the name or an argument is refused, or when the kernel
answers a negative word. -/
def exec (name : String) (arguments : List String) : Run (Option UInt64) :=
  match Terminated.marshal? name, Arguments.marshal? arguments with
  | some name, some arguments =>
    Returned.value? <$> Trap.exec name arguments.count arguments.pointer
  | _, _ => pure none

/-- Wait for a child and answer how it ended.  Every child can be waited for
once. -/
def join (child : UInt64) : Run (Option Ending) := do
  let (word, code) ← Trap.join child 0
  return Ending.ofJoin? word code

end Child
end Userland
