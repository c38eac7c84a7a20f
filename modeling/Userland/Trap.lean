import Userland.Run

/-!
# The calls as they are

One function for each kernel call.  It hands its arguments over unexamined and
answers the returned word, together with the memory that the kernel may have
changed: the exit code of a join, the buffer of a read.  Whether the arguments
are ones that the kernel accepts is the concern of the modules above this one.
-/

namespace Userland
namespace Trap

open Kernel Text

/-- Ask to switch the machine off.  The kernel obeys the root process only and
resumes every other. -/
def halt : Run Int64 := do
  return (← Run.request .halt).word

/-- The word that carries an exit code: the code with its sign extended. -/
def statusWord (code : Int32) : UInt64 :=
  code.toInt64.toUInt64

/-- End the process.  A kernel that returns from this call leaves the process
nowhere to go on, and it panics. -/
def exit {α : Type} (code : Int32) : Run α := do
  let _ ← Run.request (.exit (statusWord code))
  Run.panic .exitReturned

def exec (name : Terminated) (count : Nat) (arguments : Option (List Terminated)) : Run Int64 := do
  return (← Run.request (.exec name count arguments)).word

/-- Wait for a child, with the exit code that stands in memory before.  The
kernel may store another one, whatever word it returns. -/
def join (child : UInt64) (code : Int32) : Run (Int64 × Int32) := do
  let reply ← Run.request (.join child)
  return (reply.word, reply.code?.getD code)

/-- Create a file, emptied if it exists, and open it. -/
def create (name : Terminated) : Run Int64 := do
  return (← Run.request (.create name)).word

def openFile (name : Terminated) : Run Int64 := do
  return (← Run.request (.openFile name)).word

/-- A buffer whose front was overwritten. -/
def overwrite (buffer data : List UInt8) : List UInt8 :=
  data ++ buffer.drop data.length

/-- Read into a buffer.  The kernel may store bytes, never more than the buffer
holds, whatever word it returns. -/
def read (descriptor : UInt64) (buffer : List UInt8) : Run (Int64 × List UInt8) := do
  let reply ← Run.request (.read descriptor buffer.length)
  return (reply.word, overwrite buffer reply.data)

def write (descriptor : UInt64) (data : List UInt8) : Run Int64 := do
  return (← Run.request (.write descriptor data)).word

def close (descriptor : UInt64) : Run Int64 := do
  return (← Run.request (.close descriptor)).word

def unlink (name : Terminated) : Run Int64 := do
  return (← Run.request (.unlink name)).word

end Trap
end Userland
