import Userland.Kernel.Call

/-!
# Showing what a run did

The record of a run has one entry for every call, and so it shows where a print
was cut into writes.  A transcript hides the cut where nothing depended on it:
neighbouring writes to one descriptor that were accepted whole become one, and
of neighbouring writes to one closed descriptor only one is kept, without its
data.  Everything else stays, in order.
-/

namespace Userland
namespace Transcript

open Kernel

/-- A write to a closed descriptor loses its data, and so does its entry. -/
def withoutLostData : Event → Event
  | ⟨.write descriptor _, .resumed .refused⟩ => ⟨.write descriptor [], .resumed .refused⟩
  | event => event

/-- The entry that shows two neighbouring ones, if one entry is enough. -/
def merge? : Event → Event → Option Event
  | ⟨.write first before, .resumed (.accepted length)⟩,
    ⟨.write second behind, .resumed (.accepted more)⟩ =>
    if first = second then
      some ⟨.write first (before ++ behind), .resumed (.accepted (length + more))⟩
    else none
  | ⟨.write first _, .resumed .refused⟩, ⟨.write second behind, .resumed .refused⟩ =>
    if first = second then some ⟨.write second behind, .resumed .refused⟩ else none
  | _, _ => none

/-- The entry in front of entries that are condensed already. -/
def prepend (event : Event) : List Event → List Event
  | [] => [event]
  | next :: others =>
    match merge? event next with
    | some merged => merged :: others
    | none => event :: next :: others

/-- The record with mergeable neighbours merged. -/
def condense : List Event → List Event
  | [] => []
  | event :: rest => prepend (withoutLostData event) (condense rest)

end Transcript
end Userland
