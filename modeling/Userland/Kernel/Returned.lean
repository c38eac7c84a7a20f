import Userland.Kernel.Call

/-!
# Reading a returned word

Most calls answer with a number that means something unless it is negative;
some answer only whether they did what they were asked, and zero alone means
yes.  The two readings differ on every positive word.
-/

namespace Userland
namespace Kernel
namespace Returned

/-- The number that the word means, unless it is negative. -/
def value? (word : Int64) : Option UInt64 :=
  if 0 ≤ word then some word.toUInt64 else none

/-- Whether the call did what it was asked: for zero, and for no other word. -/
def done? (word : Int64) : Option Unit :=
  if word = 0 then some () else none

@[simp] theorem value?_eq_none_iff (word : Int64) : value? word = none ↔ ¬ 0 ≤ word := by
  unfold value?
  split <;> simp_all

/-- A write that was accepted whole is not answered by a negative word. -/
theorem zero_le_lengthWord (length : Nat) : 0 ≤ Reply.lengthWord length := by
  have bound : min length Reply.largestWord < 2 ^ 63 := by
    have largest : Reply.largestWord < 2 ^ 63 := by decide
    exact Nat.lt_of_le_of_lt (Nat.min_le_right _ _) largest
  rw [Reply.lengthWord, Int64.le_iff_toInt_le, Int64.toInt_ofNat_of_lt bound]
  simp

end Returned
end Kernel
end Userland
