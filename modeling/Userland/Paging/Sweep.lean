/-!
# Walking through a buffer page by page

A sweep visits every word of a buffer of `pages` pages with `width` words each,
but never two words of one page in a row if it can help it: it takes the first
word of every page, from the last page to the first, then the second word of
every page, and so on.  `mem_sweep` says that it visits the words of the buffer
and nothing else.
-/

namespace Userland
namespace Paging

/-- The indices of one sweep, in the order in which they are visited. -/
def sweep (pages width : Nat) : List Nat :=
  (List.range width).flatMap fun offset =>
    (List.range pages).reverse.map fun page => page * width + offset

/-- A sweep stays inside the buffer. -/
theorem lt_of_mem_sweep {pages width index : Nat} (member : index ∈ sweep pages width) :
    index < pages * width := by
  simp only [sweep, List.mem_flatMap, List.mem_map, List.mem_reverse, List.mem_range] at member
  obtain ⟨offset, offsetLess, page, pageLess, same⟩ := member
  calc
    index = page * width + offset := same.symm
    _ < page * width + width := Nat.add_lt_add_left offsetLess _
    _ = (page + 1) * width := (Nat.succ_mul page width).symm
    _ ≤ pages * width := Nat.mul_le_mul_right width pageLess

/-- A sweep visits exactly the words of the buffer. -/
theorem mem_sweep {pages width index : Nat} :
    index ∈ sweep pages width ↔ index < pages * width := by
  constructor
  · exact lt_of_mem_sweep
  · intro bound
    have positive : 0 < width := by
      rcases Nat.eq_zero_or_pos width with zero | positive
      · rw [zero, Nat.mul_zero] at bound
        exact absurd bound (Nat.not_lt_zero index)
      · exact positive
    simp only [sweep, List.mem_flatMap, List.mem_map, List.mem_reverse, List.mem_range]
    refine ⟨index % width, Nat.mod_lt index positive, index / width, ?_, ?_⟩
    · exact (Nat.div_lt_iff_lt_mul positive).mpr bound
    · rw [Nat.mul_comm]
      exact Nat.div_add_mod index width

/-- The sweep as indices into the buffer. -/
def sweepIndices (pages width : Nat) : List (Fin (pages * width)) :=
  (sweep pages width).pmap Fin.mk fun _ member => lt_of_mem_sweep member

end Paging
end Userland
