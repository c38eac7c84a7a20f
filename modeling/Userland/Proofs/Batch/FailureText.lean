import Userland.Batch.Failure
import Userland.Proofs.Output.Written
import Userland.Proofs.Text.Quoting

/-!
# Reading the texts of a failure back

The text for users shows the program unescaped, so a program may contain all
that stands around it: backticks, brackets, and a whole ending of its own with
another number.  The text can be read back nevertheless, from its end: the last
digits are those of the index, since a blank stands in front of them, and what
is left between two fixed parts is the program.

`ofMessage?` reads in this way, and it accepts the texts of failures and no
others.

The text for developers quotes the program, and so it stands on one line.  Which
characters beyond the control characters are shown by their number does not
matter to it: `Describes` allows any choice, and whatever text describes a
failure describes no other one.
-/

namespace Userland
namespace Batch
namespace Failure

open Text

/-- What stands in front of the program. -/
def opening : List Char := "failed to exec `".toList

/-- What stands between the program and the index. -/
def separator : List Char := "` (entry ".toList

/-- What stands behind the index. -/
def closing : List Char := ")".toList

/-- The failure that a text tells, read from the end of the text. -/
def ofMessage? (text : String) : Option Failure := do
  let inner ← text.toList.dropPrefix? opening
  let front ← inner.dropSuffix? closing
  let program ← (front.rdropWhile Char.isDigit).dropSuffix? separator
  let index ← natural? (front.rtakeWhile Char.isDigit)
  return { index, program := String.ofList program }

theorem text_message (failure : Failure) :
    Pieces.text failure.message =
      "failed to exec `" ++ failure.program ++ "` (entry " ++ toString failure.index ++ ")" := by
  simp only [message, Pieces.natural, Pieces.text, List.cons_append, List.nil_append,
    String.join_cons, String.join_nil, String.append_empty, String.append_assoc]
  rfl

theorem toList_text_message (failure : Failure) :
    (Pieces.text failure.message).toList = opening ++ (failure.program.toList ++ separator ++
      Nat.toDigits 10 failure.index ++ closing) := by
  rw [text_message, String.toList_append, String.toList_append, String.toList_append,
    String.toList_append, Nat.toString_eq_repr, Nat.toList_repr]
  change opening ++ failure.program.toList ++ separator ++ _ ++ closing = _
  simp only [List.append_assoc]

/-- The separator ends in a blank, so no digit of a program is taken for one of
the index. -/
theorem rdropWhile_separator (program : List Char) :
    (program ++ separator).rdropWhile Char.isDigit = program ++ separator := by
  have blank : program ++ separator = program ++ "` (entry".toList ++ [' '] := by
    rw [List.append_assoc]
    rfl
  rw [blank]
  exact List.rdropWhile_concat_neg _ _ _ (by decide)

/-- What a text has to be for a failure to be read from it. -/
theorem ofMessage?_eq_some {text : String} {failure : Failure} :
    ofMessage? text = some failure ↔ ∃ front,
      text.toList = opening ++ (front ++ closing) ∧
      front.rdropWhile Char.isDigit = failure.program.toList ++ separator ∧
      front.rtakeWhile Char.isDigit = Nat.toDigits 10 failure.index := by
  simp only [ofMessage?, Option.bind_eq_bind, Option.bind_eq_some_iff, dropPrefix?_eq_some,
    dropSuffix?_eq_some, natural?_eq_some, Option.pure_def, Option.some.injEq]
  constructor
  · rintro ⟨inner, start, front, ended, program, dropped, index, taken, rfl⟩
    refine ⟨front, ?_, ?_, taken⟩
    · rw [start, ended]
    · rw [dropped, String.toList_ofList]
  · rintro ⟨front, start, dropped, taken⟩
    refine ⟨front ++ closing, start, front, rfl, failure.program.toList, dropped, failure.index,
      taken, ?_⟩
    rw [String.ofList_toList]

/-- The texts of failures are read back, and no others. -/
theorem ofMessage?_eq_some_iff_text {text : String} {failure : Failure} :
    ofMessage? text = some failure ↔ text = Pieces.text failure.message := by
  rw [ofMessage?_eq_some, ← String.toList_inj, toList_text_message]
  constructor
  · rintro ⟨front, start, dropped, taken⟩
    rw [start, ← dropped, ← taken, List.rdropWhile_append_rtakeWhile]
  · intro same
    have ended := rdropWhile_separator failure.program.toList
    exact ⟨_, same, rdropWhile_append_toDigits failure.index ended,
      rtakeWhile_append_toDigits failure.index ended⟩

/-- The text for users tells the place and the program, whatever characters the
program is made of: the text is read back, and two failures with the same text
are the same. -/
theorem message_tells_failure :
    (∀ failure : Failure, Pieces.text failure.message =
      "failed to exec `" ++ failure.program ++ "` (entry " ++ toString failure.index ++ ")") ∧
    (∀ (text : String) (failure : Failure),
      ofMessage? text = some failure ↔ text = Pieces.text failure.message) ∧
    ∀ first second : Failure, Pieces.text first.message = Pieces.text second.message ↔
      first.index = second.index ∧ first.program = second.program := by
  refine ⟨text_message, fun text failure => ofMessage?_eq_some_iff_text, ?_⟩
  intro first second
  constructor
  · intro same
    have read : ofMessage? (Pieces.text first.message) = some first :=
      ofMessage?_eq_some_iff_text.mpr rfl
    have alsoRead : ofMessage? (Pieces.text first.message) = some second :=
      ofMessage?_eq_some_iff_text.mpr same
    cases Option.some.inj (read.symm.trans alsoRead)
    exact ⟨rfl, rfl⟩
  · rintro ⟨sameIndex, sameProgram⟩
    rw [text_message, text_message, sameIndex, sameProgram]

/-- A program that ends like a text of its own: the index behind it counts. -/
example : ofMessage? "failed to exec `x` (entry 3)` (entry 12)" =
    some { index := 12, program := "x` (entry 3)" } := by
  decide

/-! ## The text for developers -/

/-- The index and a quoted program within their fixed text. -/
def description (index : Nat) (quoted : String) : String :=
  "LaunchError \x7b index: " ++ toString index ++ ", program: " ++ quoted ++ " \x7d"

/-- The text names the index and quotes the program, whichever of the codes are
used for it. -/
def Describes (text : String) (failure : Failure) : Prop :=
  ∃ quoted, Quotes failure.program quoted ∧ text = description failure.index quoted

/-- What stands in front of the index in the text for developers. -/
def descriptionFront : List Char := "LaunchError \x7b index: ".toList

/-- What stands between the comma behind the index and the quoted program. -/
def descriptionField : List Char := " program: ".toList

/-- What stands behind the program. -/
def descriptionBack : List Char := " \x7d".toList

theorem describe_eq_description (failure : Failure) :
    failure.describe = description failure.index (quote failure.program) := by
  have digits : Pieces.text (Pieces.natural failure.index) = toString failure.index :=
    Pieces.text_singleton _
  unfold describe description
  rw [digits]

theorem describes_describe (failure : Failure) : Describes failure.describe failure :=
  ⟨quote failure.program, quotes_quote failure.program, describe_eq_description failure⟩

theorem toList_description (index : Nat) (quoted : String) :
    (description index quoted).toList =
      descriptionFront ++ (Nat.toDigits 10 index ++
        ',' :: (descriptionField ++ (quoted.toList ++ descriptionBack))) := by
  unfold description
  rw [String.toList_append, String.toList_append, String.toList_append, String.toList_append,
    Nat.toString_eq_repr, Nat.toList_repr]
  change descriptionFront ++ _ ++ (',' :: descriptionField) ++ _ ++ descriptionBack = _
  simp only [List.append_assoc, List.cons_append]

theorem eq_iff {first second : Failure} :
    first = second ↔ first.index = second.index ∧ first.program = second.program := by
  cases first
  cases second
  exact iff_of_eq (mk.injEq ..)

theorem Describes.unique {text : String} {first second : Failure}
    (describes : Describes text first) (alsoDescribes : Describes text second) :
    first = second := by
  rcases describes with ⟨quoted, quotes, written⟩
  rcases alsoDescribes with ⟨alsoQuoted, alsoQuotes, alsoWritten⟩
  have lists := congrArg String.toList (written.symm.trans alsoWritten)
  rw [toList_description, toList_description] at lists
  rcases toDigits_append_inj (by decide) (List.append_cancel_left lists) with ⟨index, behind⟩
  have sameQuoted : quoted = alsoQuoted := by
    apply String.toList_inj.mp
    exact List.append_cancel_right (List.append_cancel_left behind)
  rw [← sameQuoted] at alsoQuotes
  exact eq_iff.mpr ⟨index, quotes.unique alsoQuotes⟩

theorem Describes.not_isControl {text : String} {failure : Failure}
    (describes : Describes text failure) :
    ∀ character ∈ text.toList, isControl character = false := by
  rcases describes with ⟨quoted, quotes, rfl⟩
  rw [toList_description, List.forall_mem_append, List.forall_mem_append, List.forall_mem_cons,
    List.forall_mem_append, List.forall_mem_append]
  have digits : ∀ digit ∈ Nat.toDigits 10 failure.index, isControl digit = false :=
    fun _ => not_isControl_of_mem_toDigits (by decide) (by decide)
  exact ⟨not_isControl_of_all (by decide), digits, by decide, not_isControl_of_all (by decide),
    quotes.not_isControl, not_isControl_of_all (by decide)⟩

/-- The text for developers stands on one line and tells the place and the
program.  This holds for every choice of codes, and the choice that is made is
one of them. -/
theorem description_tells_failure :
    (∀ failure : Failure, Describes failure.describe failure) ∧
    (∀ (text : String) (failure : Failure), Describes text failure →
      ∀ character ∈ text.toList, isControl character = false) ∧
    (∀ (text : String) (first second : Failure), Describes text first → Describes text second →
      first = second) ∧
    (∀ failure : Failure, ∀ character ∈ failure.describe.toList, isControl character = false) ∧
    ∀ first second : Failure, first.describe = second.describe ↔
      first.index = second.index ∧ first.program = second.program := by
  refine ⟨describes_describe, fun text failure => Describes.not_isControl,
    fun text first second => Describes.unique,
    fun failure => (describes_describe failure).not_isControl, ?_⟩
  intro first second
  rw [← eq_iff]
  constructor
  · intro same
    have describes : Describes first.describe second := by
      rw [same]
      exact describes_describe second
    exact (describes_describe first).unique describes
  · exact congrArg describe

/-- A letter with an accent may be shown by its number.  The text is then another
one and describes the same failure; a backslash with an `n` behind it is not
taken for the end of a line. -/
theorem accented_description_tells_failure :
    let failure : Failure := { index := 7, program := "\\né" }
    let misread : Failure := { index := 7, program := "\né" }
    let text := "LaunchError \x7b index: 7, program: \"\\\\n\\u\x7be9\x7d\" \x7d"
    Describes text failure ∧ text ≠ failure.describe ∧
      (∀ character ∈ text.toList, isControl character = false) ∧ ¬ Describes text misread := by
  intro failure misread text
  have shows : Shows ['\\', 'n', 'é'] (['\\', '\\'] ++ (['n'] ++ (numbered 'é' ++ []))) :=
    .cons (.marked (by decide)) (.cons (.itself (by decide) (by decide))
      (.cons (.numbered (by decide)) .nil))
  have program : failure.program.toList = ['\\', 'n', 'é'] := by decide
  rw [← program] at shows
  have describes : Describes text failure :=
    ⟨"\"\\\\n\\u\x7be9\x7d\"", ⟨_, shows, by decide⟩, by decide⟩
  rcases description_tells_failure with ⟨_, oneLine, unique, _, _⟩
  refine ⟨describes, by decide +kernel, oneLine text failure describes, ?_⟩
  intro read
  have different : failure ≠ misread := by decide
  exact different (unique text failure misread describes read)

end Failure
end Batch
end Userland
