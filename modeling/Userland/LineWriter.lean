import Userland.Ending
import Userland.Terminal

/-!
# A program that writes one line again and again

Every write has to be taken whole.  The first that is not ends the program with
a complaint, which tells a write that failed from one that was taken in part.
-/

namespace Userland
namespace LineWriter

open Text

def line : String := "roses are red, violets are blue\n"

/-- How often it is written. -/
def times : Nat := 10

def lineBytes : List UInt8 := encode line

/-- The complaint about a write that was taken in part. -/
def shortWrite (index count : Nat) : Pieces :=
  ["write10: short write #"] ++ Pieces.natural index ++ [", "] ++ Pieces.natural count ++
    [" of "] ++ Pieces.natural lineBytes.length ++ [" bytes\n"]

/-- The complaint about a write that failed. -/
def failedWrite (index : Nat) : Pieces :=
  ["write10: write #"] ++ Pieces.natural index ++ [" failed\n"]

/-- Write the line once for each of the numbers. -/
def writeLines : List Nat → Run Int32
  | [] => pure 0
  | index :: rest => do
    match ← File.write File.standardOutput lineBytes with
    | none => do
      Terminal.print (failedWrite index)
      return -1
    | some count =>
      if count.toNat = lineBytes.length then writeLines rest
      else do
        Terminal.print (shortWrite index count.toNat)
        return -1

/-- Write the line as often as the program does. -/
def writeAll : Run Int32 :=
  writeLines (List.range times)

end LineWriter
end Userland
