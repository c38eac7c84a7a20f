/-!
# Text in the pieces it is written in

A line is not handed over whole: each literal part and each value of it is one
piece, and every piece becomes one write.  The cut shows when a write fails, so
it belongs to what a line is.  The functions here say how values fall into
pieces: an unsigned number is one piece, a minus sign stands alone, and so does
the mark of a hexadecimal number.
-/

namespace Userland
namespace Text

/-- The parts of a text, in the order in which they are written. -/
abbrev Pieces := List String

namespace Pieces

/-- The text that the pieces make up together. -/
def text (pieces : Pieces) : String :=
  String.join pieces

/-- Decimal digits, the fewest that name the number. -/
def natural (number : Nat) : Pieces :=
  [number.repr]

/-- A minus sign as a piece of its own, then the digits. -/
def integer : Int → Pieces
  | .ofNat number => natural number
  | .negSucc number => "-" :: natural (number + 1)

/-- The mark `0x` as a piece of its own, then lower-case digits. -/
def hexadecimal (number : Nat) : Pieces :=
  ["0x", String.ofList (Nat.toDigits 16 number)]

/-- Values in square brackets, a comma and a blank between two of them. -/
def bracketed (values : List Pieces) : Pieces :=
  "[" :: (values.intersperse [", "]).flatten ++ ["]"]

/-- A value followed by blanks up to a width, one piece for each blank. -/
def padded (width : Nat) (value : String) : Pieces :=
  value :: List.replicate (width - value.length) " "

end Pieces
end Text
end Userland
