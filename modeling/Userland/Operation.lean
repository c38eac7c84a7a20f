import Userland.Child
import Userland.File
import Userland.Terminal

/-!
# The operations of the library

What a program can ask of the library, as one type, and what it gets back, as
another.  `perform` says which function of the library stands behind which
operation; `performAll` performs a list of them against one kernel.  The calls
of `Trap` are not among the operations.
-/

namespace Userland

open Text

/-- What a program can ask of the library. -/
inductive Operation
  | halt
  | exit (code : Int32)
  | exec (name : String) (arguments : List String)
  | join (child : UInt64)
  | create (name : String)
  | openExisting (name : String)
  | unlink (name : String)
  | close (descriptor : UInt64)
  | read (descriptor : UInt64) (buffer : List UInt8)
  | write (descriptor : UInt64) (data : List UInt8)
  | readByte
  | print (pieces : Pieces)
  | printLine (pieces : Pieces)
  deriving DecidableEq

/-- What a program gets back. -/
inductive Value
  /-- The operation came back, and that is all it tells. -/
  | returned
  | done (success : Option Unit)
  /-- A child, a descriptor or a number of bytes. -/
  | number (number : Option UInt64)
  | ending (ending : Option Ending)
  /-- The number of bytes read, and the buffer afterwards. -/
  | filled (count : Option UInt64) (buffer : List UInt8)
  | byte (byte : Option UInt8)
  deriving DecidableEq

namespace Operation

/-- Do what is asked.  A halt that comes back was refused. -/
def perform : Operation → Run Value
  | .halt => (fun _ => .done none) <$> Userland.halt
  | .exit code => Userland.exit code
  | .exec name arguments => .number <$> Child.exec name arguments
  | .join child => .ending <$> Child.join child
  | .create name => .number <$> File.create name
  | .openExisting name => .number <$> File.openExisting name
  | .unlink name => .done <$> File.unlink name
  | .close descriptor => .done <$> File.close descriptor
  | .read descriptor buffer =>
    (fun read => .filled read.1 read.2) <$> File.read descriptor buffer
  | .write descriptor data => .number <$> File.write descriptor data
  | .readByte => .byte <$> Terminal.readByte
  | .print pieces => (fun _ => .returned) <$> Terminal.print pieces
  | .printLine pieces => (fun _ => .returned) <$> Terminal.printLine pieces

/-- Perform operations in order, one kernel for all of them. -/
def performAll : List Operation → Run (List Value)
  | [] => pure []
  | operation :: rest => do
    let value ← operation.perform
    let values ← performAll rest
    return value :: values

end Operation
end Userland
