import Userland.Ending
import Userland.Limits
import Userland.Paging.Buffer
import Userland.Paging.Sweep
import Userland.Terminal

/-!
# Two programs that make pages move

Each fills a buffer that is larger than what the kernel keeps in memory for one
process, so that pages have to leave and come back.  The first reads the buffer
in order.  The second reads it twice by sweeps, one word of a page at a time.
Both write one line, about the first wrong word or about the number of words
that were right.

The second test is written for a buffer that may hold something else in every
round, as it would if pages came back wrong.  The program makes it on a buffer
that keeps what was written.
-/

namespace Userland
namespace Paging
namespace SwapTest

open Text

/-- Read a buffer of `size` words in order. -/
def inOrder (size : Nat) : Run Int32 :=
  let buffer := fill size ownIndex
  match firstMismatch? buffer ownIndex (List.finRange size) with
  | some index => do
    Terminal.printLine <|
      ["swap4: buf["] ++ Pieces.natural index ++ ["] = "] ++
        Pieces.natural (buffer.get index).toNat ++ [", expected "] ++ Pieces.natural index
    exit (-1)
  | none => do
    Terminal.print (["swap4: verified "] ++ Pieces.natural size ++ [" words\n"])
    return 0

/-- The first round in which a sweep comes upon a wrong word, and the index of
this word. -/
def mismatchIn? {pages width : Nat} (rounds : Nat) (memory : Nat → Vector UInt64 (pages * width))
    (expected : Nat → UInt64) : Option (Nat × Fin (pages * width)) :=
  (List.range rounds).findSome? fun round =>
    (firstMismatch? (memory round) expected (sweepIndices pages width)).map fun index =>
      (round, index)

/-- Read `pages` pages with `width` words each by sweeps, where `memory` tells
what they hold in every round. -/
def sweepMemory {pages width : Nat} (rounds : Nat)
    (memory : Nat → Vector UInt64 (pages * width)) : Run Int32 :=
  match mismatchIn? rounds memory scattered with
  | some (round, index) => do
    Terminal.printLine <|
      ["swap5: round "] ++ Pieces.natural round ++ [", buf["] ++ Pieces.natural index ++
        ["] = "] ++ Pieces.hexadecimal ((memory round).get index).toNat ++ [", expected "] ++
        Pieces.hexadecimal (scattered index).toNat
    exit (-1)
  | none => do
    Terminal.print <|
      ["swap5: verified "] ++ Pieces.natural (pages * width) ++ [" words "] ++
        Pieces.natural rounds ++ [" times\n"]
    return 0

/-- Read a buffer of `pages` pages with `width` words each by sweeps. -/
def bySweeps (rounds pages width : Nat) : Run Int32 :=
  let buffer := fill (pages * width) scattered
  sweepMemory rounds fun _round => buffer

/-- The sweeps that one test makes. -/
def rounds : Nat := 2

end SwapTest
end Paging
end Userland
