import Userland.Proofs.Log.Origin
import Userland.Proofs.Log.Shown
import Userland.Proofs.Text.Reading

/-!
# Reading a line of the log back

The message in a line is not escaped, so a message may contain all that a line
consists of: the number of a colour, the name of a level in brackets, the end of
a line and the beginning of another one.  The line can be read back
nevertheless.  In front of the source everything has its place, since the names
of all levels are filled up to one width; the source ends at the first closing
bracket; and what is left in front of the fixed end is the message.

A source with a closing bracket in it is excluded.  The path of a module has
none, but a record may be given any target, and such a line could be read in
more than one way.  Its colour and its level are certain even so.

`Entry.ofText?` reads one whole line.  A text of several lines is not split.
-/

namespace Userland
namespace Log

open Kernel Text

/-! ## Levels in a line -/

namespace Level

/-- The level with this colour. -/
def ofColour? : Nat → Option Level
  | 31 => some error
  | 93 => some warn
  | 34 => some info
  | 32 => some debug
  | 90 => some trace
  | _ => none

theorem ofColour?_eq_some {number : Nat} {level : Level} :
    ofColour? number = some level ↔ level.colour = number := by
  constructor
  · intro found
    unfold ofColour? at found
    split at found <;> cases found <;> rfl
  · rintro rfl
    cases level <;> rfl

/-- No two levels have the same colour. -/
theorem colour_inj {first second : Level} : first.colour = second.colour ↔ first = second := by
  rw [← ofColour?_eq_some, ofColour?_eq_some.mpr rfl, Option.some.injEq, eq_comm]

/-- The name of a level, filled up to the width that all of them have. -/
def label (level : Level) : String :=
  Pieces.text (Pieces.padded levelWidth level.name)

theorem length_label (level : Level) : level.label.length = levelWidth := by
  cases level <;> decide

theorem label_inj {first second : Level} : first.label = second.label ↔ first = second := by
  cases first <;> cases second <;> decide

end Level

/-! ## Entries -/

/-- What a reader learns from a line. -/
structure Entry where
  level : Level
  source : String
  message : String
  deriving DecidableEq

/-- What a record lets a reader learn. -/
def Record.entry (record : Record) : Entry where
  level := record.level
  source := origin record.target
  message := Pieces.text record.message

namespace Entry

/-- The front of a line, up to the name of the level. -/
def heading (number : Nat) (label : String) : String :=
  "\x1b[" ++ toString number ++ "m[" ++ label

/-- The line from which the entry is learnt. -/
def text (entry : Entry) : String :=
  heading entry.level.colour entry.level.label ++ "] [" ++ entry.source ++ "] " ++
    entry.message ++ "\x1b[0m\n"

/-- What stands in front of the number of the colour. -/
def opening : List Char := "\x1b[".toList

/-- What stands between the letter behind the number and the source. -/
def field (level : Level) : List Char :=
  '[' :: (level.label.toList ++ [']', ' ', '['])

/-- What stands behind the message. -/
def closing : List Char := "\x1b[0m\n".toList

/-- The entry that a text is the line of. -/
def ofText? (text : String) : Option Entry := do
  let numbered ← text.toList.dropPrefix? opening
  let number ← natural? (numbered.takeWhile Char.isDigit)
  let level ← Level.ofColour? number
  let sourced ← (numbered.dropWhile Char.isDigit).dropPrefix? ('m' :: field level)
  let ended ← (sourced.dropWhile (· ≠ ']')).dropPrefix? [']', ' ']
  let message ← ended.dropSuffix? closing
  return { level, source := String.ofList (sourced.takeWhile (· ≠ ']')),
           message := String.ofList message }

theorem toList_heading (number : Nat) (label : String) :
    (heading number label).toList =
      opening ++ (Nat.toDigits 10 number ++ 'm' :: '[' :: label.toList) := by
  rw [heading, String.toList_append, String.toList_append, String.toList_append,
    Nat.toString_eq_repr, Nat.toList_repr]
  change opening ++ _ ++ ['m', '['] ++ _ = _
  simp only [List.append_assoc, List.cons_append, List.nil_append]

theorem toList_text (entry : Entry) :
    entry.text.toList = opening ++ (Nat.toDigits 10 entry.level.colour ++
      'm' :: (field entry.level ++ (entry.source.toList ++
        ']' :: ' ' :: (entry.message.toList ++ closing)))) := by
  rw [text, String.toList_append, String.toList_append, String.toList_append,
    String.toList_append, String.toList_append, toList_heading, field]
  change _ ++ [']', ' ', '['] ++ _ ++ [']', ' '] ++ _ ++ closing = _
  simp only [List.append_assoc, List.cons_append, List.nil_append]

/-- What a text has to be for an entry to be read from it. -/
theorem ofText?_eq_some {text : String} {entry : Entry} :
    ofText? text = some entry ↔ ∃ numbered sourced,
      text.toList = opening ++ numbered ∧
      numbered.takeWhile Char.isDigit = Nat.toDigits 10 entry.level.colour ∧
      numbered.dropWhile Char.isDigit = 'm' :: field entry.level ++ sourced ∧
      sourced.takeWhile (· ≠ ']') = entry.source.toList ∧
      sourced.dropWhile (· ≠ ']') = [']', ' '] ++ (entry.message.toList ++ closing) := by
  simp only [ofText?, Option.bind_eq_bind, Option.bind_eq_some_iff, dropPrefix?_eq_some,
    dropSuffix?_eq_some, natural?_eq_some, Level.ofColour?_eq_some, Option.pure_def,
    Option.some.injEq]
  constructor
  · rintro ⟨numbered, start, number, taken, level, rfl, sourced, dropped, ended, marked, message,
      rfl, rfl⟩
    refine ⟨numbered, sourced, start, taken, dropped, ?_, ?_⟩
    · rw [String.toList_ofList]
    · rw [String.toList_ofList]
      exact marked
  · rintro ⟨numbered, sourced, start, taken, dropped, source, marked⟩
    refine ⟨numbered, start, _, taken, entry.level, rfl, sourced, dropped, _, marked, _, rfl, ?_⟩
    rw [source, String.ofList_toList, String.ofList_toList]

/-- The lines of entries whose sources have no closing bracket are read back, and
no other texts. -/
theorem ofText?_eq_some_iff_text {text : String} {entry : Entry} :
    ofText? text = some entry ↔ text = entry.text ∧ ']' ∉ entry.source.toList := by
  rw [ofText?_eq_some, ← String.toList_inj, toList_text]
  constructor
  · rintro ⟨numbered, sourced, start, taken, dropped, source, marked⟩
    constructor
    -- Each part that was split off is put back in front of the rest.
    · rw [start, ← List.takeWhile_append_dropWhile (p := Char.isDigit) (l := numbered), taken,
        dropped, ← List.takeWhile_append_dropWhile (p := (· ≠ ']')) (l := sourced), source,
        marked]
      rfl
    · intro listed
      rw [← source] at listed
      have other := List.mem_takeWhile_imp listed
      exact of_decide_eq_true other rfl
  · rintro ⟨same, plain⟩
    have others : ∀ character ∈ entry.source.toList, decide (character ≠ ']') = true := by
      intro character listed
      apply decide_eq_true
      rintro rfl
      exact plain listed
    refine ⟨_, _, same, takeWhile_toDigits_append (by decide) _,
      dropWhile_toDigits_append (by decide) _, ?_, ?_⟩
    · exact takeWhile_append_mark others (by decide)
    · exact dropWhile_append_mark others (by decide)

/-- A message with a bracket of its own, and with the end of a line. -/
example : ofText? "\x1b[93m[WARN ] [shell] a] b\x1b[0m\n\x1b[0m\n" =
    some { level := .warn, source := "shell", message := "a] b\x1b[0m\n" } := by
  decide

/-- What stands in the place of the number and in that of the name belongs to
the level of the entry, whatever its source is. -/
theorem level_of_heading {entry : Entry} {number : Nat} {label rest : String}
    (width : label.length = levelWidth) (same : entry.text = heading number label ++ rest) :
    entry.level.colour = number ∧ entry.level.label = label := by
  have lists := congrArg String.toList same
  rw [toList_text, String.toList_append, toList_heading, field] at lists
  simp only [List.append_assoc, List.cons_append] at lists
  have numbers := toDigits_append_inj (by decide) (List.append_cancel_left lists)
  refine ⟨numbers.1, ?_⟩
  -- Only the width tells where the name ends, since it may contain any character here.
  have behind := (List.cons.inj numbers.2).2
  have widths : entry.level.label.toList.length = label.toList.length := by
    rw [String.length_toList, String.length_toList, width, Level.length_label]
  exact String.toList_inj.mp (List.append_inj_left behind widths)

end Entry

/-! ## Lines that were written -/

theorem text_entry (record : Record) : Pieces.text record.line = record.entry.text :=
  text_line record

/-- A source has no closing bracket that the target does not have. -/
theorem not_mem_source {record : Record} (plain : ']' ∉ record.target.toList) :
    ']' ∉ record.entry.source.toList :=
  fun listed => plain ((origin_isPrefix record.target).subset listed)

/-- The logger shows the record, and the kernel refuses no piece of its line. -/
structure GoesOut (record : Record) (script : Script) (state : State) : Prop where
  admitted : state.threshold.admits record.level = true
  taken : ∀ index < record.line.length, ¬ script.RefusesWrite index

theorem written_submit {record : Record} {script : Script} {state : State}
    (goesOut : GoesOut record script state) :
    written (submit record ⟨.scripted script, state⟩).events = encode record.entry.text := by
  have asked : isEnabled record.level ⟨.scripted script, state⟩ =
      ⟨.finished (state.threshold.admits record.level), [], ⟨.scripted script, state⟩⟩ := rfl
  rw [submit, Run.bind_of_ran asked, Step.after_nil, goesOut.admitted, if_pos rfl,
    Terminal.print_of_taken script state goesOut.taken, ← text_entry]
  dsimp only
  exact Terminal.written_of_taken goesOut.taken

/-- Entries whose sources have no closing bracket differ where their lines do. -/
theorem Entry.text_inj {first second : Entry} (plain : ']' ∉ first.source.toList)
    (alsoPlain : ']' ∉ second.source.toList) : first.text = second.text ↔ first = second := by
  constructor
  · intro same
    have read : ofText? first.text = some first := ofText?_eq_some_iff_text.mpr ⟨rfl, plain⟩
    have alsoRead : ofText? first.text = some second :=
      ofText?_eq_some_iff_text.mpr ⟨same, alsoPlain⟩
    exact Option.some.inj (read.symm.trans alsoRead)
  · exact congrArg text

/-- A line that goes out tells the level, the source and the message of its
record, whatever the message is made of.  Number and name at its front always
tell the same level. -/
theorem written_line_tells_record :
    (∀ (record : Record) (script : Script) (state : State), GoesOut record script state →
      written (submit record ⟨.scripted script, state⟩).events = encode record.entry.text) ∧
    (∀ (text : String) (entry : Entry),
      Entry.ofText? text = some entry ↔ text = entry.text ∧ ']' ∉ entry.source.toList) ∧
    (∀ (first second : Record) (script otherScript : Script) (state otherState : State),
      GoesOut first script state → GoesOut second otherScript otherState →
      ']' ∉ first.target.toList → ']' ∉ second.target.toList →
      (written (submit first ⟨.scripted script, state⟩).events =
          written (submit second ⟨.scripted otherScript, otherState⟩).events ↔
        first.level = second.level ∧ origin first.target = origin second.target ∧
          Pieces.text first.message = Pieces.text second.message)) ∧
    ∀ (record : Record) (number : Nat) (label rest : String), label.length = levelWidth →
      record.entry.text = Entry.heading number label ++ rest →
      ∀ level : Level, (level.colour = number ↔ level = record.level) ∧
        (level.label = label ↔ level = record.level) := by
  refine ⟨fun record script state => written_submit,
    fun text entry => Entry.ofText?_eq_some_iff_text, ?_, ?_⟩
  · intro first second script otherScript state otherState goesOut alsoGoesOut plain alsoPlain
    rw [written_submit goesOut, written_submit alsoGoesOut]
    calc
      encode first.entry.text = encode second.entry.text ↔
          first.entry.text = second.entry.text := ⟨encode_injective, congrArg encode⟩
      _ ↔ first.entry = second.entry :=
        Entry.text_inj (not_mem_source plain) (not_mem_source alsoPlain)
      _ ↔ first.level = second.level ∧ origin first.target = origin second.target ∧
          Pieces.text first.message = Pieces.text second.message :=
        iff_of_eq (Entry.mk.injEq ..)
  · intro record number label rest width same level
    rcases Entry.level_of_heading width same with ⟨rfl, rfl⟩
    exact ⟨Level.colour_inj, Level.label_inj⟩

/-- Two records of one program with a message that ends the line and begins
another one: the lines are the same, and they still tell the level. -/
theorem line_with_another_inside :
    let message : Pieces := ["a", "\x1b[0m\n\x1b[31m[ERROR] [b] lost"]
    let first : Record := { level := .info, target := "shell::main", message }
    let second : Record := { level := .info, target := "shell::jobs", message }
    let script : Script := {}
    let otherScript : Script := { write := [2] }
    let state : State := { installed := true, threshold := .upTo .info }
    let otherState : State := { installed := true, threshold := .upTo .trace }
    let rest := "] [shell] a\x1b[0m\n\x1b[31m[ERROR] [b] lost\x1b[0m\n"
    GoesOut first script state ∧ GoesOut second otherScript otherState ∧
      ']' ∉ first.target.toList ∧ ']' ∉ second.target.toList ∧
      written (submit first ⟨.scripted script, state⟩).events =
        written (submit second ⟨.scripted otherScript, otherState⟩).events ∧
      "INFO ".length = levelWidth ∧ first.entry.text = Entry.heading 34 "INFO " ++ rest ∧
      Level.colour .info = 34 ∧ Level.label .info = "INFO " := by
  intro message first second script otherScript state otherState rest
  rcases written_line_tells_record with ⟨_, _, tells, levels⟩
  have goesOut : GoesOut first script state := ⟨by decide, by decide⟩
  have alsoGoesOut : GoesOut second otherScript otherState := ⟨by decide, by decide⟩
  have plain : ']' ∉ first.target.toList := by decide
  have alsoPlain : ']' ∉ second.target.toList := by decide
  have width : "INFO ".length = levelWidth := by decide
  have same : first.entry.text = Entry.heading 34 "INFO " ++ rest := by decide
  have level := levels first 34 "INFO " rest width same .info
  have told := tells first second script otherScript state otherState goesOut alsoGoesOut plain
    alsoPlain
  exact ⟨goesOut, alsoGoesOut, plain, alsoPlain, told.mpr ⟨rfl, by decide, rfl⟩, width, same,
    level.1.mpr rfl, level.2.mpr rfl⟩

end Log
end Userland
