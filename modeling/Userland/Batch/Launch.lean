import Userland.Batch.Failure
import Userland.Child
import Userland.Log.Logger

/-!
# Launching a batch and waiting for it

A batch is a list of programs.  `launch` starts them in order and stops at the
first that does not start: no later one is tried, and those already started go
on.  `awaitAll` waits for every child in order, whatever became of the ones
before it.

How a program is started and how a child is waited for are arguments, so a
batch can be run against the kernel or against anything else that answers such
questions.  `run` puts the two together over the kernel itself.
-/

namespace Userland
namespace Batch

open Text

/-- The record logged for every program that was started. -/
def launched (program : String) (child : UInt64) : Log.Record where
  level := .debug
  target := "user::launch"
  message := ["launched ", program, " as pid "] ++ Pieces.natural child.toNat

section Generic

variable {m : Type → Type} [Monad m]

/-- Start the programs in order, the first of them being entry `index`. -/
def launchFrom [MonadLiftT Run m] (start : String → m (Option UInt64)) :
    Nat → List String → m (Except Failure (List UInt64))
  | _, [] => pure (.ok [])
  | index, program :: rest => do
    match ← start program with
    | none => pure (.error { index, program })
    | some child => do
      liftM (Log.log (launched program child))
      let others ← launchFrom start (index + 1) rest
      pure (others.map (child :: ·))

/-- Start the programs of a batch in order.  The answer is the list of children,
or the first program that did not start. -/
def launch [MonadLiftT Run m] (start : String → m (Option UInt64)) (programs : List String) :
    m (Except Failure (List UInt64)) :=
  launchFrom start 0 programs

/-- A child, and how it ended if it could be waited for. -/
structure Joined where
  child : UInt64
  ending : Option Ending
  deriving DecidableEq

/-- Whether the child was waited for and ended of itself with code zero. -/
def Joined.isSuccess (joined : Joined) : Bool :=
  joined.ending.any Ending.isSuccess

/-- Wait for every child in order. -/
def awaitAll (join : UInt64 → m (Option Ending)) : List UInt64 → m (List Joined)
  | [] => pure []
  | child :: rest => do
    let ending ← join child
    let others ← awaitAll join rest
    pure ({ child, ending } :: others)

end Generic

/-- What became of a batch. -/
inductive Report
  /-- A program did not start, and no child was waited for. -/
  | notLaunched (failure : Failure)
  /-- Every program started, and every child was waited for. -/
  | joined (children : List UInt64) (endings : List Joined)
  deriving DecidableEq

/-- Launch a batch over the kernel, the same arguments for every program, and
wait for its children if all of them started. -/
def run (programs arguments : List String) : Run Report := do
  match ← launch (m := Run) (fun program => Child.exec program arguments) programs with
  | .error failure => return .notLaunched failure
  | .ok children => return .joined children (← awaitAll Child.join children)

end Batch
end Userland
