import Userland.Batch.SmokeTest
import Userland.LineWriter
import Userland.Paging.SwapTest

/-!
# Programs

A program has a name and a main part, which answers an exit code.  Running it
means to run the main part and to exit with its answer, unless the main part
has ended the process already.
-/

namespace Userland

/-- A program by its name. -/
structure Program where
  name : String
  main : Run Int32

namespace Program

/-- Run the main part and exit with its answer. -/
def run {α : Type} (program : Program) : Run α := do
  exit (← program.main)

/-- Launches a batch and ends. -/
def launchOnly : Program where
  name := "multi_exec"
  main := Batch.SmokeTest.launchOnly

/-- Launches a batch and waits for it. -/
def launchAndJoin : Program where
  name := "multi_exec_join"
  main := Batch.SmokeTest.launchAndJoin

/-- Walks through a large buffer in order. -/
def walkInOrder : Program where
  name := "swap4"
  main := Paging.SwapTest.inOrder (Limits.swapPages * Limits.wordsPerPage)

/-- Walks through a large buffer by sweeps. -/
def walkBySweeps : Program where
  name := "swap5"
  main := Paging.SwapTest.bySweeps Paging.SwapTest.rounds Limits.swapPages Limits.wordsPerPage

/-- Writes a line ten times. -/
def writeLines : Program where
  name := "write10"
  main := LineWriter.writeAll

/-- All programs. -/
def all : List Program :=
  [launchOnly, launchAndJoin, walkInOrder, walkBySweeps, writeLines]

/-- The program with a name. -/
def find? (name : String) : Option Program :=
  all.find? fun program => program.name = name

end Program
end Userland
