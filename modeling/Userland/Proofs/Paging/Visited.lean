import Mathlib.Data.List.Nodup
import Userland.Proofs.Output.Printing
import Userland.Proofs.Paging.Misplaced

/-!
# The order in which a sweep visits a buffer

`visited` says which index comes in which place of a sweep: places that leave
the same quotient by the number of pages have the same offset, and within these
the pages come from the last to the first.  Everything about the order follows
from this one equation, since offset and page of an index can be read off it.
A sweep visits every index once, and from one visit to the next it goes one page
back, as long as the offset stays the same.

Nothing is assumed about the number of pages or of words in a page.  What a
buffer holds may change from one round of sweeps to the next, as it would if
pages came back wrong; that it changes within a round is not considered.
-/

namespace Userland
namespace Paging

open Kernel Text

variable {pages width : Nat}

/-! ## Places -/

/-- The index that a sweep visits in a place, the places counted from zero. -/
def visited (pages width place : Nat) : Nat :=
  (pages - 1 - place % pages) * width + place / pages

section Places

variable {place : Nat} (bound : place < width * pages)

include bound in
theorem visited_mod : visited pages width place % width = place / pages := by
  have offset : place / pages < width := Nat.div_lt_of_lt_mul (Nat.mul_comm width pages ▸ bound)
  rw [visited, Nat.mul_add_mod', Nat.mod_eq_of_lt offset]

include bound in
theorem visited_div : visited pages width place / width = pages - 1 - place % pages := by
  have offset : place / pages < width := Nat.div_lt_of_lt_mul (Nat.mul_comm width pages ▸ bound)
  rw [visited, Nat.mul_comm, Nat.mul_add_div (Nat.zero_lt_of_lt offset),
    Nat.div_eq_of_lt offset, Nat.add_zero]

include bound in
/-- Different places are those of different indices. -/
theorem visited_inj {other : Nat} (alsoBound : other < width * pages)
    (same : visited pages width place = visited pages width other) : place = other := by
  have positive : 0 < pages := Nat.pos_of_mul_pos_left (Nat.zero_lt_of_lt bound)
  have offsets : place / pages = other / pages := by
    rw [← visited_mod bound, ← visited_mod alsoBound, same]
  have fromLast : pages - 1 - place % pages = pages - 1 - other % pages := by
    rw [← visited_div bound, ← visited_div alsoBound, same]
  have first := Nat.mod_lt place positive
  have second := Nat.mod_lt other positive
  calc
    place = pages * (place / pages) + place % pages := (Nat.div_add_mod place pages).symm
    _ = pages * (other / pages) + other % pages := by
      rw [offsets]
      omega
    _ = other := Nat.div_add_mod other pages

end Places

/-! ## Sweeps -/

/-- The visits with one offset. -/
theorem row_eq_map (offset : Nat) :
    ((List.range pages).reverse.map fun page => page * width + offset) =
      (List.range pages).map fun position => visited pages width (offset * pages + position) := by
  apply List.ext_getElem
  · rw [List.length_map, List.length_map, List.length_reverse]
  · intro position bound alsoBound
    have inside : position < pages := by
      rw [List.length_map, List.length_range] at alsoBound
      exact alsoBound
    have quotient : (offset * pages + position) / pages = offset := by
      rw [Nat.mul_comm, Nat.mul_add_div (Nat.zero_lt_of_lt inside), Nat.div_eq_of_lt inside,
        Nat.add_zero]
    have remainder : (offset * pages + position) % pages = position := by
      rw [Nat.mul_add_mod', Nat.mod_eq_of_lt inside]
    simp only [List.getElem_map, List.getElem_reverse, List.getElem_range, List.length_range,
      visited, quotient, remainder]

theorem sweep_eq_map (pages width : Nat) :
    sweep pages width = (List.range (width * pages)).map (visited pages width) := by
  -- The width also decides how far apart the pages are, so the induction is on the
  -- number of offsets alone.
  have rows : ∀ offsets, ((List.range offsets).flatMap fun offset =>
      (List.range pages).reverse.map fun page => page * width + offset) =
        (List.range (offsets * pages)).map (visited pages width) := by
    intro offsets
    induction offsets with
    | zero => rw [Nat.zero_mul]; rfl
    | succ offset inductionHypothesis =>
        rw [List.range_succ, List.flatMap_append, inductionHypothesis, List.flatMap_singleton,
          row_eq_map, Nat.succ_mul, List.range_add, List.map_append, List.map_map]
        rfl
  exact rows width

theorem nodup_sweep (pages width : Nat) : (sweep pages width).Nodup := by
  rw [sweep_eq_map]
  apply List.Nodup.map_on _ List.nodup_range
  intro place bound other alsoBound same
  exact visited_inj (List.mem_range.mp bound) (List.mem_range.mp alsoBound) same

theorem sweep_perm_range (pages width : Nat) :
    (sweep pages width).Perm (List.range (pages * width)) := by
  apply (List.perm_ext_iff_of_nodup (nodup_sweep pages width) List.nodup_range).mpr
  intro index
  rw [mem_sweep, List.mem_range]

theorem getElem?_sweep {place : Nat} (bound : place < width * pages) :
    (sweep pages width)[place]? = some (visited pages width place) := by
  rw [sweep_eq_map, List.getElem?_map, List.getElem?_range bound, Option.map_some]

/-- Neighbouring places with one offset are one page apart. -/
theorem visited_succ {place : Nat} (bound : place + 1 < width * pages)
    (offset : visited pages width place % width = visited pages width (place + 1) % width) :
    visited pages width place / width = visited pages width (place + 1) / width + 1 := by
  have earlier : place < width * pages := Nat.lt_of_succ_lt bound
  rw [visited_mod earlier, visited_mod bound] at offset
  rw [visited_div earlier, visited_div bound]
  have positive : 0 < pages := Nat.pos_of_mul_pos_left (Nat.zero_lt_of_lt bound)
  have inside : (place + 1) % pages < pages := Nat.mod_lt (place + 1) positive
  have split : pages * (place / pages) + place % pages = place := Nat.div_add_mod place pages
  have splitNext : pages * ((place + 1) / pages) + (place + 1) % pages = place + 1 :=
    Nat.div_add_mod (place + 1) pages
  rw [← offset] at splitNext
  omega

/-- Two visits in a row with one offset are one page apart. -/
theorem page_of_consecutive {before behind : List Nat} {first second : Nat}
    (order : sweep pages width = before ++ first :: second :: behind)
    (offset : first % width = second % width) : first / width = second / width + 1 := by
  have bound : before.length + 1 < width * pages := by
    have whole := congrArg List.length order
    rw [sweep_eq_map, List.length_map, List.length_range, List.length_append, List.length_cons,
      List.length_cons] at whole
    omega
  have place := getElem?_sweep (Nat.lt_of_succ_lt bound)
  have next := getElem?_sweep bound
  rw [order, List.getElem?_append_right (Nat.le_refl _), Nat.sub_self] at place
  rw [order, List.getElem?_append_right (Nat.le_succ _), Nat.succ_sub (Nat.le_refl _),
    Nat.sub_self] at next
  rw [Option.some.inj place, Option.some.inj next] at offset ⊢
  exact visited_succ bound offset

/-- A sweep of indices into the buffer is the sweep. -/
theorem map_val_sweepIndices (pages width : Nat) :
    (sweepIndices pages width).map Fin.val = sweep pages width := by
  rw [sweepIndices, List.map_pmap]
  exact List.pmap_eq_self.mpr fun _ _ => rfl

/-! ## Rounds -/

/-- An order that leaves no index out finds a wrong word if there is one. -/
theorem firstMismatch?_eq_none_iff {size : Nat} {buffer : Vector UInt64 size}
    {expected : Nat → UInt64} {order : List (Fin size)} (complete : ∀ index, index ∈ order) :
    firstMismatch? buffer expected order = none ↔
      ∀ index : Fin size, buffer.get index = expected index := by
  rw [firstMismatch?, List.find?_eq_none]
  constructor
  · intro right index
    by_contra wrong
    exact right index (complete index) (decide_eq_true wrong)
  · intro right index _ wrong
    exact of_decide_eq_true wrong (right index)

namespace SwapTest

theorem mismatchIn?_eq_none_iff {rounds : Nat} {memory : Nat → Vector UInt64 (pages * width)}
    {expected : Nat → UInt64} :
    mismatchIn? rounds memory expected = none ↔
      ∀ round < rounds, ∀ index : Fin (pages * width),
        (memory round).get index = expected index := by
  rw [mismatchIn?, List.findSome?_eq_none_iff]
  constructor
  · intro none round bound
    have passed := none round (List.mem_range.mpr bound)
    exact (firstMismatch?_eq_none_iff mem_sweepIndices).mp (Option.map_eq_none_iff.mp passed)
  · intro right round listed
    apply Option.map_eq_none_iff.mpr
    apply (firstMismatch?_eq_none_iff mem_sweepIndices).mpr
    exact right round (List.mem_range.mp listed)

/-- The test succeeds if and only if every word is right in every round. -/
theorem outcome_sweepMemory_iff (rounds : Nat) (memory : Nat → Vector UInt64 (pages * width))
    (script : Script) (logging : Log.State) :
    (sweepMemory rounds memory ⟨.scripted script, logging⟩).outcome = .finished 0 ↔
      ∀ round < rounds, ∀ index : Fin (pages * width),
        (memory round).get index = scattered index := by
  rw [← mismatchIn?_eq_none_iff, sweepMemory]
  cases mismatchIn? rounds memory scattered with
  | none =>
      refine iff_of_true ?_ rfl
      dsimp only
      rcases Terminal.print_finishes script logging _ with ⟨count, ran, _⟩
      rw [Run.bind_of_ran ran]
      rfl
  | some found =>
      refine iff_of_false ?_ (Option.some_ne_none found)
      exact outcome_bind_exit_ne_finished _ _ _ _

end SwapTest

/-- In every round a sweep comes to each word of the buffer once, and to nothing
else; visits in a row with one offset are one page apart.  So the test succeeds
if and only if every word is right in every round, as it is in a buffer that
keeps what was written. -/
theorem sweep_visits_each_word_once (pages width : Nat) :
    (sweep pages width).Perm (List.range (pages * width)) ∧
    (sweepIndices pages width).map Fin.val = sweep pages width ∧
    (∀ (before behind : List Nat) (first second : Nat),
      sweep pages width = before ++ first :: second :: behind → first % width = second % width →
      first / width = second / width + 1) ∧
    (∀ (rounds : Nat) (memory : Nat → Vector UInt64 (pages * width)) (script : Script)
      (logging : Log.State),
      (SwapTest.sweepMemory rounds memory ⟨.scripted script, logging⟩).outcome = .finished 0 ↔
        ∀ round < rounds, ∀ index : Fin (pages * width),
          (memory round).get index = scattered index) ∧
    ∀ rounds : Nat,
      SwapTest.bySweeps rounds pages width =
        SwapTest.sweepMemory rounds (fun _ => fill (pages * width) scattered) ∧
      ∀ (script : Script) (logging : Log.State),
        (SwapTest.bySweeps rounds pages width ⟨.scripted script, logging⟩).outcome =
          .finished 0 := by
  refine ⟨sweep_perm_range pages width, map_val_sweepIndices pages width,
    fun before behind first second => page_of_consecutive, SwapTest.outcome_sweepMemory_iff, ?_⟩
  intro rounds
  refine ⟨rfl, ?_⟩
  intro script logging
  apply (SwapTest.outcome_sweepMemory_iff rounds _ script logging).mpr
  intro _ _ index
  exact get_fill (pages * width) scattered index

/-- Three pages of two words: from the second visit the sweep goes one page back. -/
theorem sweep_of_three_pages :
    sweep 3 2 = [4] ++ 2 :: 0 :: [5, 3, 1] ∧ 2 % 2 = 0 % 2 ∧ 2 / 2 = 0 / 2 + 1 := by
  have order : sweep 3 2 = [4] ++ 2 :: 0 :: [5, 3, 1] := by decide
  have offset : 2 % 2 = 0 % 2 := by decide
  exact ⟨order, offset, (sweep_visits_each_word_once 3 2).2.2.1 [4] [5, 3, 1] 2 0 order offset⟩

end Paging
end Userland
