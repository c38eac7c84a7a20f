import Userland.Text.Arguments

/-!
# Kernel calls

A `Call` is what a program hands over when it traps into the kernel: the number
of the call together with the memory that its addresses stand for.  A `Reply`
is what the program finds when the kernel has resumed it, that is the returned
word and what was stored through an address.  A call that ends the program has
no reply; `Response` tells the two apart.

Returned words are signed, descriptors and child numbers are unsigned, both of
64 bits.
-/

namespace Userland
namespace Kernel

open Text

/-- A trap into the kernel, with the memory its addresses stand for. -/
inductive Call
  | halt
  /-- End the calling process; the word carries its exit code. -/
  | exit (word : UInt64)
  /-- Start a program.  `none` is the null address. -/
  | exec (name : Terminated) (count : Nat) (arguments : Option (List Terminated))
  | join (child : UInt64)
  /-- Create a file, emptied if it exists, and open it. -/
  | create (name : Terminated)
  | openFile (name : Terminated)
  /-- Read at most `length` bytes. -/
  | read (descriptor : UInt64) (length : Nat)
  | write (descriptor : UInt64) (data : List UInt8)
  | close (descriptor : UInt64)
  | unlink (name : Terminated)
  deriving DecidableEq

/-- The number by which the kernel tells the calls apart. -/
def Call.number : Call → Nat
  | .halt => 0
  | .exit _ => 1
  | .exec .. => 2
  | .join _ => 3
  | .create _ => 4
  | .openFile _ => 5
  | .read .. => 6
  | .write .. => 7
  | .close _ => 8
  | .unlink _ => 9

/-- What a resumed program finds. -/
inductive Reply
  /-- A returned word and nothing stored. -/
  | returned (word : Int64)
  /-- A write that was accepted whole. -/
  | accepted (length : Nat)
  /-- A write to an output that is closed. -/
  | refused
  /-- A returned word, and the exit code if one was stored. -/
  | joined (word : Int64) (code : Option Int32)
  /-- A returned word and the bytes stored in the buffer. -/
  | filled (word : Int64) (data : List UInt8)
  deriving DecidableEq

namespace Reply

/-- The largest number that a returned word can mean. -/
def largestWord : Nat := 0x7FFF_FFFF_FFFF_FFFF

/-- The number of accepted bytes as a returned word.  Numbers beyond the signed
range, which no memory can hold, stay at its upper end. -/
def lengthWord (length : Nat) : Int64 :=
  Int64.ofNat (min length largestWord)

def word : Reply → Int64
  | returned word => word
  | accepted length => lengthWord length
  | refused => -1
  | joined word _ => word
  | filled word _ => word

/-- The exit code that was stored, if any. -/
def code? : Reply → Option Int32
  | joined _ code => code
  | _ => none

/-- The bytes that were stored in the buffer. -/
def data : Reply → List UInt8
  | filled _ data => data
  | _ => []

end Reply

/-- How the kernel takes a call: it ends the program with a status, or resumes
it with a reply. -/
inductive Response
  | ended (status : Int64)
  | resumed (reply : Reply)
  deriving DecidableEq

/-- A call and how the kernel took it, the unit of the record of a run. -/
structure Event where
  call : Call
  response : Response
  deriving DecidableEq

end Kernel
end Userland
