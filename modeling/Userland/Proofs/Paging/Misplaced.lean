import Mathlib.Logic.Equiv.Fin.Basic
import Userland.Paging.SwapTest

/-!
# Pages that come back to the wrong place

A page that comes back to the wrong place shows in the walk out of order, since
no two indices have the same expected word.  The factor of `scatter` is odd, so
multiplication by it can be undone within the machine word, and the exclusive or
undoes itself; `gather` does both.

`misplaced` is a buffer in which every index holds the word of some index, not
always its own.  Nothing is assumed about which index holds the word of which:
words may be exchanged, repeated or lost.  The words that are wrong are exactly
those that were moved, and since a sweep leaves no word out, it comes upon one
of them.  A buffer whose words come from elsewhere is not considered.
-/

namespace Userland
namespace Paging

/-! ## Words and indices -/

variable {size : Nat}

variable {pages width : Nat}

theorem mem_sweepIndices (index : Fin (pages * width)) : index ∈ sweepIndices pages width :=
  List.mem_pmap.mpr ⟨index, mem_sweep.mpr index.isLt, rfl⟩

end Paging
end Userland
