import Userland.Batch.Launch

/-!
# Two programs that launch a batch

Both launch the same batch and complain alike when a program does not start.
The first then leaves its children to themselves.  The second waits for all of
them before it writes a line about each, and succeeds only if every child
ended of itself with code zero.
-/

namespace Userland
namespace Batch
namespace SmokeTest

open Text

/-- The batch: three walks in order, one out of order, one writer of lines. -/
def programs : List String :=
  ["swap4.coff", "swap4.coff", "swap4.coff", "swap5.coff", "write10.coff"]

/-- Launch the batch over the kernel, without arguments. -/
def launchPrograms : Run (Except Failure (List UInt64)) :=
  launch (m := Run) (fun program => Child.exec program []) programs

/-- The record logged once all programs have been started. -/
def allLaunched (children : List UInt64) : Log.Record where
  level := .info
  target := "multi_exec"
  message := ["multi_exec: launched "] ++ Pieces.natural children.length ++ [" children "] ++
    Pieces.bracketed (children.map fun child => Pieces.natural child.toNat)

/-- Launch the batch and end. -/
def launchOnly : Run Int32 := do
  match ← launchPrograms with
  | .ok children => do
    Log.log (allLaunched children)
    exit 0
  | .error failure => do
    Terminal.printLine ("multi_exec: " :: failure.message)
    exit (-1)

/-- The line about one child. -/
def line (joined : Joined) : Pieces :=
  let front := ["multi_exec_join: pid "] ++ Pieces.natural joined.child.toNat
  match joined.ending with
  | some (.exited code) => front ++ [" exited with code "] ++ Pieces.integer code.toInt ++ ["\n"]
  | some .abnormal => front ++ [" terminated abnormally\n"]
  | none => front ++ [" could not be joined\n"]

/-- Launch the batch, wait for it, write about it and judge it. -/
def launchAndJoin : Run Int32 := do
  match ← launchPrograms with
  | .error failure => do
    Terminal.printLine ("multi_exec_join: " :: failure.message)
    exit (-1)
  | .ok children => do
    let endings ← awaitAll Child.join children
    endings.forM fun joined => Terminal.print (line joined)
    if endings.all Joined.isSuccess then
      Terminal.print ["multi_exec_join passed!\n"]
      return 0
    else
      return -1

end SmokeTest
end Batch
end Userland
