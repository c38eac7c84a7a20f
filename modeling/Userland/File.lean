import Userland.Kernel.Returned
import Userland.Trap

/-!
# Files and descriptors

The calls on files, behind the checks that keep a program from asking what the
kernel could not accept: a name has to be one that the kernel reads whole, and
a descriptor has to be below `Limits.maxDescriptors`.  A refused call answers
nothing and never reaches the kernel.
-/

namespace Userland
namespace File

open Kernel Text

/-- Where a program reads its input. -/
def standardInput : UInt64 := 0

/-- Where a program writes its output. -/
def standardOutput : UInt64 := 1

/-- Whether the number can name a descriptor at all. -/
def isDescriptor (number : UInt64) : Bool :=
  number.toNat < Limits.maxDescriptors

/-- Create a file, emptied if it exists, and open it. -/
def create (name : String) : Run (Option UInt64) :=
  match Terminated.marshal? name with
  | none => pure none
  | some name => Returned.value? <$> Trap.create name

def openExisting (name : String) : Run (Option UInt64) :=
  match Terminated.marshal? name with
  | none => pure none
  | some name => Returned.value? <$> Trap.openFile name

def close (descriptor : UInt64) : Run (Option Unit) :=
  if isDescriptor descriptor then Returned.done? <$> Trap.close descriptor else pure none

/-- Delete a file.  Descriptors that this process opened under the name become
invalid with it. -/
def unlink (name : String) : Run (Option Unit) :=
  match Terminated.marshal? name with
  | none => pure none
  | some name => Returned.done? <$> Trap.unlink name

/-- Read into a buffer: the number of bytes read, and the buffer afterwards. -/
def read (descriptor : UInt64) (buffer : List UInt8) : Run (Option UInt64 × List UInt8) :=
  if isDescriptor descriptor then do
    let (word, buffer) ← Trap.read descriptor buffer
    return (Returned.value? word, buffer)
  else pure (none, buffer)

/-- Write bytes: the number of bytes written. -/
def write (descriptor : UInt64) (data : List UInt8) : Run (Option UInt64) :=
  if isDescriptor descriptor then Returned.value? <$> Trap.write descriptor data else pure none

end File
end Userland
