import Userland.Text.Pieces

/-!
# Panics

A program panics when it cannot go on and no caller could help it.  A panic has
a message and the place in the library that raised it; its report is the line
that shows both.
-/

namespace Userland

open Text

/-- The reasons for which a program gives up. -/
inductive Panic
  /-- There is no kernel that could take the call with this number. -/
  | noKernel (number : Nat)
  /-- The kernel returned from an exit. -/
  | exitReturned
  /-- No program was linked to the entry point. -/
  | noProgram
  deriving DecidableEq

namespace Panic

/-- A line of a source file. -/
structure Place where
  file : String
  line : Nat
  deriving DecidableEq

/-- Where the panic is raised. -/
def place : Panic → Place
  | noKernel _ => { file := "user/src/syscall.rs", line := 32 }
  | exitReturned => { file := "user/src/syscall.rs", line := 63 }
  | noProgram => { file := "user/src/lib.rs", line := 58 }

/-- The message, in the pieces in which it is written. -/
def message : Panic → Pieces
  | noKernel number =>
    ["not implemented: syscall "] ++ Pieces.natural number ++ [" needs a riscv64 kernel"]
  | exitReturned => ["internal error: entered unreachable code"]
  | noProgram => ["Cannot find main!"]

/-- The line that reports the panic, without its end. -/
def report (panic : Panic) : Pieces :=
  ["Panicked at ", panic.place.file, ":"] ++ Pieces.natural panic.place.line ++ [", "] ++
    panic.message

end Panic
end Userland
