import Userland.Ending
import Userland.Log.Logger

/-!
# Starting without a program

The entry point puts the logger in place, runs the main part and exits with its
answer.  Where no program was linked, the main part panics.  Nobody is left to
catch a panic here, so it is reported on the terminal and the process exits
with code -1.

A kernel that returns from this exit raises the next panic, which is reported
and exited from in the same way.  Each round uses up one scripted return, so
the rounds are counted by `Host.pendingExits`, and the exit after the last of
them ends the process.  Where there is no kernel, the report itself panics and
the run is over.
-/

namespace Userland
namespace Boot

/-- Put the logger in place, run the main part and exit with its answer. -/
def start {α : Type} (main : Run Int32) : Run α := do
  Log.install
  exit (← main)

/-- The main part where no program was linked. -/
def missingMain : Run Int32 :=
  Run.panic .noProgram

/-- Report a panic and exit, and do the same for the panics raised by the next
`rounds` returns from the exit. -/
def handle {α : Type} : Nat → Panic → Run α
  | 0, reason => do
    Terminal.printLine reason.report
    exit (-1)
  | rounds + 1, reason => do
    Terminal.printLine reason.report
    Run.rescue (exit (-1)) (handle rounds)

/-- Start without a program. -/
def bare {α : Type} : Run α := fun session =>
  Run.rescue (start missingMain) (handle session.host.pendingExits) session

end Boot
end Userland
