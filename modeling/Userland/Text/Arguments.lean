import Userland.Text.Terminated

/-!
# Argument lists of a program

A program is started with a list of texts.  The kernel receives their number
and the address of an array with one address per text.  For an empty list no
array exists and the null address is passed: `Arguments.pointer` is `none` then
and only then.  Marshalling is all or nothing, in the order of the list.
-/

namespace Userland
namespace Text

/-- The marshalled arguments of a program, in order. -/
structure Arguments where
  strings : List Terminated
  deriving DecidableEq

namespace Arguments

/-- Every text in a form that the kernel reads whole, or nothing if one of them
is refused. -/
def marshal? (texts : List String) : Option Arguments :=
  (texts.mapM Terminated.marshal?).map mk

/-- Every text with its final zero, whatever its length, or nothing if one of
them contains a zero byte. -/
def ofTexts? (texts : List String) : Option Arguments :=
  (texts.mapM Terminated.ofText?).map mk

/-- The number passed beside the array. -/
def count (arguments : Arguments) : Nat :=
  arguments.strings.length

/-- The array of texts, or the null address for an empty list. -/
def pointer (arguments : Arguments) : Option (List Terminated) :=
  if arguments.strings.isEmpty then none else some arguments.strings

/-- The null address stands for the empty list and for nothing else. -/
theorem pointer_eq_none_iff (arguments : Arguments) :
    arguments.pointer = none ↔ arguments.count = 0 := by
  unfold pointer count
  split <;> simp_all

/-- The first refused text makes the whole list refused. -/
theorem marshal?_cons (text : String) (rest : List String) :
    marshal? (text :: rest) =
      (Terminated.marshal? text).bind fun first =>
        (marshal? rest).map fun others => ⟨first :: others.strings⟩ := by
  unfold marshal?
  simp only [List.mapM_cons]
  cases Terminated.marshal? text with
  | none => rfl
  | some first => cases rest.mapM Terminated.marshal? <;> rfl

end Arguments
end Text
end Userland
