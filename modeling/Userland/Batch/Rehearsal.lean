import Userland.Batch.Launch
import Userland.Consulting

/-!
# Rehearsing a batch

In a rehearsal the caller stands in for the kernel's part in starting programs
and in waiting for children: it is asked instead.  Logging goes to the kernel as
usual.  `prepared` is a caller with a list of answers, one for each question and
none when they are used up; any other caller can be rehearsed with as well.
-/

namespace Userland
namespace Batch
namespace Rehearsal

variable {Question Answer σ : Type}

/-- Launch a batch, asking the caller for each program. -/
def launch (exec : String → σ → Option UInt64 × σ) (programs : List String) :
    Consulting String σ (Except Failure (List UInt64)) :=
  Batch.launch (Consulting.ask exec) programs

/-- Wait for children, asking the caller for each of them. -/
def awaitAll (join : UInt64 → σ → Option Ending × σ) (children : List UInt64) :
    Consulting UInt64 σ (List Joined) :=
  Batch.awaitAll (Consulting.ask join) children

/-- The caller whose answers are prepared. -/
def prepared (_question : Question) (answers : List (Option Answer)) :
    Option Answer × List (Option Answer) :=
  (answers.headD none, answers.tail)

end Rehearsal
end Batch
end Userland
