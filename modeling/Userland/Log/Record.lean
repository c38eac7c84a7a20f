import Userland.Log.Level
import Userland.Text.Pieces

/-!
# Log records and their lines

A record has a level, a target, which is the path of the module it comes from,
and a message.  Its line shows the level in colour and at a fixed width, then
the origin, then the message as it is: nothing is escaped.

The origin of a target is the program it belongs to, that is the part before
the first double colon.  Targets inside the library, whose program would be
`user`, keep their whole path.
-/

namespace Userland
namespace Log

open Text

/-- A message on its way to the logger. -/
structure Record where
  level : Level
  target : String
  message : Pieces

/-- The characters before the first double colon, if there is one. -/
def beforeColons? : List Char → Option (List Char)
  | ':' :: ':' :: _ => some []
  | [] => none
  | character :: rest => (beforeColons? rest).map (character :: ·)

/-- The part of a target that a line shows. -/
def origin (target : String) : String :=
  match (beforeColons? target.toList).map String.ofList with
  | none => target
  | some program => if program = "user" then target else program

/-- The width to which the name of a level is filled up. -/
def levelWidth : Nat := 5

/-- The line of a record, in the pieces in which it is written. -/
def Record.line (record : Record) : Pieces :=
  ["\x1b["] ++ Pieces.natural record.level.colour ++ ["m["] ++
    Pieces.padded levelWidth record.level.name ++ ["] [", origin record.target, "] "] ++
    record.message ++ ["\x1b[0m\n"]

end Log
end Userland
