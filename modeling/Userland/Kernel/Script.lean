import Userland.Kernel.Call

/-!
# A kernel that follows a script

The kernel is not modelled from within.  It is a script: for every kind of call
the replies it will give, in order.  A kind whose replies are used up gets its
default: a negative word, an empty read, a write accepted whole, an exit that
really ends the program.  So every property of a program that holds for all
scripts holds for whatever a kernel may answer.

A closed output takes precedence over the replies to writes and leaves them
unused.
-/

namespace Userland
namespace Kernel

/-- The replies to come, one list for each kind of call. -/
structure Script where
  halt : List Int64 := []
  /-- Words with which the kernel returns from an exit. -/
  exit : List Int64 := []
  exec : List Int64 := []
  /-- Returned words, and the exit code to store if there is one. -/
  join : List (Int64 × Option Int32) := []
  create : List Int64 := []
  openFile : List Int64 := []
  /-- Returned words and the bytes on offer. -/
  read : List (Int64 × List UInt8) := []
  write : List Int64 := []
  close : List Int64 := []
  unlink : List Int64 := []
  /-- Whether every write is refused. -/
  outputClosed : Bool := false
  deriving DecidableEq

namespace Script

/-- How the script takes a call, and the script that is left. -/
def serve (script : Script) : Call → Response × Script
  | .halt =>
    (.resumed (.returned (script.halt.headD (-1))), { script with halt := script.halt.tail })
  | .exit word =>
    match script.exit with
    | [] => (.ended word.toInt64, script)
    | reply :: rest => (.resumed (.returned reply), { script with exit := rest })
  | .exec .. =>
    (.resumed (.returned (script.exec.headD (-1))), { script with exec := script.exec.tail })
  | .join _ =>
    let reply := script.join.headD (-1, none)
    (.resumed (.joined reply.1 reply.2), { script with join := script.join.tail })
  | .create _ =>
    (.resumed (.returned (script.create.headD (-1))), { script with create := script.create.tail })
  | .openFile _ =>
    (.resumed (.returned (script.openFile.headD (-1))),
      { script with openFile := script.openFile.tail })
  | .read _ length =>
    let reply := script.read.headD (0, [])
    (.resumed (.filled reply.1 (reply.2.take length)), { script with read := script.read.tail })
  | .write _ data =>
    if script.outputClosed then (.resumed .refused, script)
    else match script.write with
      | [] => (.resumed (.accepted data.length), script)
      | reply :: rest => (.resumed (.returned reply), { script with write := rest })
  | .close _ =>
    (.resumed (.returned (script.close.headD (-1))), { script with close := script.close.tail })
  | .unlink _ =>
    (.resumed (.returned (script.unlink.headD (-1))), { script with unlink := script.unlink.tail })

end Script
end Kernel
end Userland
