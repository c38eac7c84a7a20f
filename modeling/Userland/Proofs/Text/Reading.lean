import Mathlib.Data.List.DropRight

/-!
# Reading texts back

Parts from which a reader of written texts is made: fixed text at the front or at
the end, a decimal number at either end, and text up to a mark that it does not
contain.  A number is read in the form in which it is written, so another
spelling of it, with a zero in front, is not read.

A number is all the digits at its end of the text, and it matters what stands
next to it: nothing is said here about a text in which that is a digit too.
-/

namespace Userland
namespace Text

variable {text front rest : List Char}

theorem dropPrefix?_eq_some : text.dropPrefix? front = some rest ↔ text = front ++ rest := by
  simp [List.dropPrefix?_eq_some_iff]

theorem dropSuffix?_eq_some : text.dropSuffix? rest = some front ↔ text = front ++ rest := by
  simp [List.dropSuffix?_eq_some_iff]

/-- The number with these decimal digits, if they are the way to write it. -/
def natural? (digits : List Char) : Option Nat :=
  let number := Nat.ofDigitChars 10 digits 0
  if Nat.toDigits 10 number = digits then some number else none

theorem natural?_eq_some {digits : List Char} {number : Nat} :
    natural? digits = some number ↔ digits = Nat.toDigits 10 number := by
  constructor
  · intro read
    obtain ⟨written, same⟩ := Option.ite_none_right_eq_some.mp read
    rw [← Option.some.inj same, written]
  · intro written
    rw [written, natural?, Nat.ofDigitChars_ten_toDigits, if_pos rfl]

/-! ## Text up to a mark -/

section Marks

variable {property : Char → Bool} {mark : Char}

theorem takeWhile_append_mark (all : ∀ character ∈ front, property character = true)
    (stops : property mark = false) : (front ++ mark :: rest).takeWhile property = front := by
  rw [List.takeWhile_append_of_pos all, List.takeWhile_cons_of_neg (ne_true_of_eq_false stops),
    List.append_nil]

theorem dropWhile_append_mark (all : ∀ character ∈ front, property character = true)
    (stops : property mark = false) :
    (front ++ mark :: rest).dropWhile property = mark :: rest := by
  rw [List.dropWhile_append_of_pos all, List.dropWhile_cons_of_neg (ne_true_of_eq_false stops)]

end Marks

/-! ## Numbers in front -/

section InFront

variable {mark : Char} (stops : mark.isDigit = false)

include stops in
theorem takeWhile_toDigits_append (number : Nat) :
    (Nat.toDigits 10 number ++ mark :: rest).takeWhile Char.isDigit = Nat.toDigits 10 number :=
  takeWhile_append_mark (fun _ => Nat.isDigit_of_mem_toDigits (by decide) (by decide)) stops

include stops in
theorem dropWhile_toDigits_append (number : Nat) :
    (Nat.toDigits 10 number ++ mark :: rest).dropWhile Char.isDigit = mark :: rest :=
  dropWhile_append_mark (fun _ => Nat.isDigit_of_mem_toDigits (by decide) (by decide)) stops

include stops in
/-- Where no digit follows, neither the number nor what follows can be another. -/
theorem toDigits_append_inj {first second : Nat} {others : List Char}
    (same : Nat.toDigits 10 first ++ mark :: rest = Nat.toDigits 10 second ++ mark :: others) :
    first = second ∧ rest = others := by
  have digits := congrArg (List.takeWhile Char.isDigit) same
  have behind := congrArg (List.dropWhile Char.isDigit) same
  rw [takeWhile_toDigits_append stops, takeWhile_toDigits_append stops] at digits
  rw [dropWhile_toDigits_append stops, dropWhile_toDigits_append stops] at behind
  constructor
  · apply Option.some.inj
    rw [← natural?_eq_some.mpr digits, natural?_eq_some.mpr rfl]
  · exact (List.cons.inj behind).2

end InFront

/-! ## Numbers at the end -/

/-- What stands in front of a number, where this ends in no digit. -/
theorem rdropWhile_append_toDigits (number : Nat)
    (ended : front.rdropWhile Char.isDigit = front) :
    (front ++ Nat.toDigits 10 number).rdropWhile Char.isDigit = front := by
  have areDigits : ∀ character ∈ (Nat.toDigits 10 number).reverse, character.isDigit = true := by
    intro character listed
    rw [List.mem_reverse] at listed
    exact Nat.isDigit_of_mem_toDigits (by decide) (by decide) listed
  rw [List.rdropWhile, List.reverse_append, List.dropWhile_append_of_pos areDigits]
  exact ended

theorem rtakeWhile_append_toDigits (number : Nat)
    (ended : front.rdropWhile Char.isDigit = front) :
    (front ++ Nat.toDigits 10 number).rtakeWhile Char.isDigit = Nat.toDigits 10 number := by
  have split := List.rdropWhile_append_rtakeWhile (p := Char.isDigit)
    (l := front ++ Nat.toDigits 10 number)
  rw [rdropWhile_append_toDigits number ended] at split
  exact List.append_cancel_left split

end Text
end Userland
