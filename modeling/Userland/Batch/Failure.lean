import Userland.Text.Pieces
import Userland.Text.Quoted

/-!
# Why a batch was not launched

The first program of a batch that does not start is named with its place in
the batch.  `message` is the text for users and shows the program as it is;
`describe` is the text for developers and quotes it.
-/

namespace Userland
namespace Batch

open Text

/-- A program that could not be started. -/
structure Failure where
  /-- Its place in the batch, counted from zero. -/
  index : Nat
  program : String
  deriving DecidableEq

namespace Failure

/-- The text for users, in the pieces in which it is written. -/
def message (failure : Failure) : Pieces :=
  ["failed to exec `", failure.program, "` (entry "] ++ Pieces.natural failure.index ++ [")"]

/-- The text for developers. -/
def describe (failure : Failure) : String :=
  "LaunchError \x7b index: " ++ Pieces.text (Pieces.natural failure.index) ++
    ", program: " ++ quote failure.program ++ " \x7d"

end Failure
end Batch
end Userland
