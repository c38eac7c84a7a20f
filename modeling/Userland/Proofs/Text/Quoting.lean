import Userland.Proofs.Text.Reading
import Userland.Text.Quoted

/-!
# Quoted text can be read back

A character has codes of different lengths in a quoted text, and the codes stand
one behind the other with nothing in between.  They can be told apart since a
code that is not the character itself begins with a backslash, and the character
behind the backslash says how far it goes: after `u` up to the closing brace,
else no further.  The backslash and the double quote are always behind another
backslash, so the quote that ends the text is not taken for one of its own.

`Code` leaves open which characters are shown by their number, apart from the
control characters, of which there is none in any quoted text.  Nothing here
depends on the table of `Unseen`, or on the version of it.
-/

namespace Userland
namespace Text

/-! ## Hexadecimal digits -/

/-- The number that a digit stands for; the letters begin at ten. -/
def digitValue (digit : Char) : Nat :=
  if digit.isDigit then digit.toNat - 48 else digit.toNat - 87

theorem digitValue_digitChar : ∀ number < 16, digitValue (Nat.digitChar number) = number := by
  decide

/-- The number with these hexadecimal digits. -/
def hexadecimalValue (digits : List Char) : Nat :=
  digits.foldl (fun value digit => 16 * value + digitValue digit) 0

theorem hexadecimalValue_toDigits (number : Nat) :
    hexadecimalValue (Nat.toDigits 16 number) = number := by
  induction number using Nat.strongRecOn with
  | _ number inductionHypothesis =>
      rcases Nat.lt_or_ge number 16 with single | several
      · rw [Nat.toDigits_of_lt_base single, hexadecimalValue, List.foldl_cons, List.foldl_nil,
          digitValue_digitChar number single, Nat.mul_zero, Nat.zero_add]
      · have front := inductionHypothesis (number / 16) (by omega)
        have last := digitValue_digitChar (number % 16) (by omega)
        rw [hexadecimalValue] at front
        rw [Nat.toDigits_of_base_le (by decide) several, hexadecimalValue, List.foldl_append,
          front, List.foldl_cons, List.foldl_nil, last]
        exact Nat.div_add_mod number 16

theorem exists_of_mem_toDigits {base number : Nat} (several : 1 < base) {digit : Char}
    (listed : digit ∈ Nat.toDigits base number) : ∃ value < base, Nat.digitChar value = digit := by
  induction number using Nat.strongRecOn with
  | _ number inductionHypothesis =>
      have positive : 0 < base := by omega
      rcases Nat.lt_or_ge number base with single | more
      · rw [Nat.toDigits_of_lt_base single, List.mem_singleton] at listed
        exact ⟨number, single, listed.symm⟩
      · rw [Nat.toDigits_of_base_le several more, List.mem_append, List.mem_singleton] at listed
        rcases listed with front | last
        · have smaller : number / base < number := Nat.div_lt_self (by omega) several
          exact inductionHypothesis (number / base) smaller front
        · exact ⟨number % base, Nat.mod_lt number positive, last.symm⟩

/-- A list is looked through, so that it need not be known how many characters
there are altogether. -/
theorem not_isControl_of_all {text : List Char} (printable : text.all (!isControl ·) = true) :
    ∀ character ∈ text, isControl character = false := by
  intro character listed
  have shown := List.all_eq_true.mp printable character listed
  rwa [Bool.not_eq_true'] at shown

theorem not_isControl_digitChar : ∀ value < 16, isControl (Nat.digitChar value) = false := by
  decide

theorem not_isControl_of_mem_toDigits {base number : Nat} (several : 1 < base) (few : base ≤ 16)
    {digit : Char} (listed : digit ∈ Nat.toDigits base number) : isControl digit = false := by
  rcases exists_of_mem_toDigits several listed with ⟨value, bound, rfl⟩
  exact not_isControl_digitChar value (by omega)

theorem digitChar_ne_brace : ∀ value < 16, decide (Nat.digitChar value ≠ '\x7d') = true := by
  decide

/-! ## Codes -/

/-- The characters with a mark of their own, and the marks. -/
def marks : List (Char × Char) :=
  [('"', '"'), ('\\', '\\'), ('\n', 'n'), ('\t', 't'), ('\r', 'r'), ('\x00', '0')]

/-- The ways in which a character may be shown in a quoted text. -/
inductive Code : Char → List Char → Prop
  | marked {character mark : Char} (listed : (character, mark) ∈ marks) :
    Code character ['\\', mark]
  | numbered {character : Char} (unmarked : character ∉ marks.map Prod.fst) :
    Code character (numbered character)
  | itself {character : Char} (unmarked : character ∉ marks.map Prod.fst)
    (ordinary : isControl character = false) : Code character [character]

/-- The escaping of quoted texts is one of the ways. -/
theorem code_escape (character : Char) : Code character (escape character) := by
  unfold escape
  -- The first six tests of `escape` are those of the marks, in the same order.
  by_cases listed : character ∈ marks.map Prod.fst
  · simp only [marks, List.map_cons, List.map_nil, List.mem_cons, List.not_mem_nil, or_false]
      at listed
    rcases listed with rfl | rfl | rfl | rfl | rfl | rfl <;> exact .marked (by decide)
  · have others := listed
    simp only [marks, List.map_cons, List.map_nil, List.mem_cons, List.not_mem_nil, or_false,
      not_or] at others
    rcases others with ⟨quote, backslash, newline, tab, carriage, zero⟩
    rw [if_neg quote, if_neg backslash, if_neg newline, if_neg tab, if_neg carriage, if_neg zero]
    cases control : isControl character with
    | true => exact .numbered listed
    | false =>
        cases Unseen.contains character with
        | true => exact .numbered listed
        | false => exact .itself listed control

/-- What a backslash and the text behind it stand for, and what follows. -/
def escaped? : List Char → Option (Char × List Char)
  | [] => none
  | letter :: rest =>
    if letter = 'u' then
      some (Char.ofNat (hexadecimalValue (rest.tail.takeWhile (· ≠ '\x7d'))),
        (rest.tail.dropWhile (· ≠ '\x7d')).tail)
    else (marks.find? fun mark => mark.2 = letter).map fun mark => (mark.1, rest)

/-- The character that is shown first, and what follows its code. -/
def next? : List Char → Option (Char × List Char)
  | [] => none
  | character :: rest => if character = '\\' then escaped? rest else some (character, rest)

/-- A code tells its character and where it ends, whatever follows. -/
theorem Code.next?_append {character : Char} {code : List Char} (shown : Code character code)
    (rest : List Char) : next? (code ++ rest) = some (character, rest) := by
  cases shown with
  | marked listed =>
      simp only [marks, List.mem_cons, Prod.mk.injEq, List.not_mem_nil, or_false] at listed
      rcases listed with ⟨rfl, rfl⟩ | ⟨rfl, rfl⟩ | ⟨rfl, rfl⟩ | ⟨rfl, rfl⟩ | ⟨rfl, rfl⟩ | ⟨rfl, rfl⟩
        <;> rfl
  | numbered unmarked =>
      have digits : ∀ digit ∈ Nat.toDigits 16 character.toNat, decide (digit ≠ '\x7d') = true := by
        intro digit listed
        rcases exists_of_mem_toDigits (by decide) listed with ⟨value, bound, rfl⟩
        exact digitChar_ne_brace value bound
      have read : next? (Text.numbered character ++ rest) =
          escaped? ('u' :: '\x7b' :: (Nat.toDigits 16 character.toNat ++ '\x7d' :: rest)) := by
        rw [Text.numbered, List.append_assoc, List.append_assoc]
        rfl
      rw [read, escaped?, if_pos rfl, List.tail_cons, takeWhile_append_mark digits (by decide),
        dropWhile_append_mark digits (by decide), hexadecimalValue_toDigits, Char.ofNat_toNat,
        List.tail_cons]
  | itself unmarked ordinary =>
      have other : character ≠ '\\' := by
        rintro rfl
        exact unmarked (by decide)
      exact if_neg other

theorem Code.not_isControl {character : Char} {code : List Char} (shown : Code character code) :
    ∀ part ∈ code, isControl part = false := by
  cases shown with
  | marked listed =>
      have printable : ∀ mark ∈ marks.map Prod.snd, isControl mark = false :=
        not_isControl_of_all (by decide)
      refine List.forall_mem_cons.mpr ⟨by decide, List.forall_mem_singleton.mpr ?_⟩
      exact printable _ (List.mem_map_of_mem listed)
  | numbered unmarked =>
      rw [Text.numbered, List.forall_mem_append, List.forall_mem_append]
      refine ⟨⟨not_isControl_of_all (by decide), ?_⟩, not_isControl_of_all (by decide)⟩
      exact fun _ => not_isControl_of_mem_toDigits (by decide) (by decide)
  | itself unmarked ordinary => exact List.forall_mem_singleton.mpr ordinary

/-! ## Texts -/

/-- The codes of characters, one behind the other. -/
inductive Shows : List Char → List Char → Prop
  | nil : Shows [] []
  | cons {character : Char} {code rest shown : List Char} (first : Code character code)
    (others : Shows rest shown) : Shows (character :: rest) (code ++ shown)

theorem shows_flatMap_escape (text : List Char) : Shows text (text.flatMap escape) := by
  induction text with
  | nil => exact .nil
  | cons character rest inductionHypothesis =>
      rw [List.flatMap_cons]
      exact .cons (code_escape character) inductionHypothesis

/-- There is a first character to be read, unless there is nothing at all. -/
theorem Shows.cases_next? {text shown : List Char} (shows : Shows text shown) :
    text = [] ∧ next? shown = none ∨ ∃ character rest others,
      text = character :: rest ∧ next? shown = some (character, others) ∧ Shows rest others := by
  cases shows with
  | nil => exact .inl ⟨rfl, rfl⟩
  | cons first others => exact .inr ⟨_, _, _, rfl, first.next?_append _, others⟩

theorem Shows.unique {first second shown : List Char} (shows : Shows first shown)
    (alsoShows : Shows second shown) : first = second := by
  -- The codes are the same, so the same character is read from the front of both.
  induction shows generalizing second with
  | nil =>
      rcases alsoShows.cases_next? with ⟨nothing, _⟩ | ⟨_, _, _, _, read, _⟩
      · exact nothing.symm
      · exact absurd read.symm (Option.some_ne_none _)
  | @cons character code rest shown code others inductionHypothesis =>
      have read := code.next?_append shown
      rcases alsoShows.cases_next? with ⟨_, none⟩ | ⟨other, tail, behind, rfl, alsoRead, shows⟩
      · exact absurd (read.symm.trans none) (Option.some_ne_none _)
      · cases Option.some.inj (read.symm.trans alsoRead)
        rw [inductionHypothesis shows]

theorem Shows.not_isControl {text shown : List Char} (shows : Shows text shown) :
    ∀ part ∈ shown, isControl part = false := by
  induction shows with
  | nil => exact List.forall_mem_nil _
  | cons first others inductionHypothesis =>
      exact List.forall_mem_append.mpr ⟨first.not_isControl, inductionHypothesis⟩

/-- A text between double quotes, each of its characters shown by a code. -/
def Quotes (text quoted : String) : Prop :=
  ∃ shown, Shows text.toList shown ∧ quoted.toList = '"' :: shown ++ ['"']

theorem quotes_quote (text : String) : Quotes text (quote text) := by
  refine ⟨_, shows_flatMap_escape text.toList, ?_⟩
  rw [quote, String.toList_ofList]

namespace Quotes

variable {first second text quoted : String}

theorem unique (quotes : Quotes first quoted) (alsoQuotes : Quotes second quoted) :
    first = second := by
  rcases quotes with ⟨shown, shows, written⟩
  rcases alsoQuotes with ⟨alsoShown, alsoShows, alsoWritten⟩
  have behind : shown ++ ['"'] = alsoShown ++ ['"'] :=
    (List.cons.inj (written.symm.trans alsoWritten)).2
  rw [← List.append_cancel_right behind] at alsoShows
  exact String.toList_inj.mp (shows.unique alsoShows)

theorem not_isControl (quotes : Quotes text quoted) :
    ∀ character ∈ quoted.toList, isControl character = false := by
  rcases quotes with ⟨shown, shows, written⟩
  rw [written, List.cons_append]
  have mark : isControl '"' = false := by decide
  refine List.forall_mem_cons.mpr ⟨mark, List.forall_mem_append.mpr ⟨shows.not_isControl, ?_⟩⟩
  exact List.forall_mem_singleton.mpr mark

end Quotes
end Text
end Userland
