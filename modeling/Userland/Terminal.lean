import Userland.File
import Userland.Text.Pieces

/-!
# Printing and reading characters

What is printed goes out piece by piece, one write for each.  The first piece
that the kernel does not take stops the print; the failure itself is not
reported to the caller, and a write that was taken in part counts as done.
-/

namespace Userland
namespace Terminal

open Text

/-- Write the pieces in order, up to the first that fails. -/
def print : Pieces → Run Unit
  | [] => pure ()
  | piece :: rest => do
    match ← File.write File.standardOutput (encode piece) with
    | none => pure ()
    | some _ => print rest

/-- Write the pieces and end the line, the line's end being a last piece. -/
def printLine (pieces : Pieces) : Run Unit :=
  print (pieces ++ ["\n"])

/-- Read one byte.  Nothing is answered at the end of the input, or when the
kernel refuses. -/
def readByte : Run (Option UInt8) := do
  let (count, buffer) ← File.read File.standardInput [0]
  match count with
  | none => return none
  | some count => return if count = 0 then none else buffer.head?

end Terminal
end Userland
