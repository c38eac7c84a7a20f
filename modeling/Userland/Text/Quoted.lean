import Userland.Text.Unseen

/-!
# Quoted text

A quoted text stands between double quotes.  The double quote and the backslash
get a backslash in front; newline, tab, carriage return and zero have a letter
or digit of their own behind a backslash; every other control character and
every character of `Unseen` is shown by its number in braces, in lower-case
hexadecimal.  All other characters stand for themselves, the single quote
included.  Control characters are recognised before the table is asked, so no
property of the table is needed to know that a quoted text holds none.
-/

namespace Userland
namespace Text

/-- The control characters: those below the blank, and the block from delete to
the last control of the second half. -/
def isControl (character : Char) : Bool :=
  character.toNat < 0x20 || (0x7F ≤ character.toNat && character.toNat ≤ 0x9F)

/-- A character shown by its number. -/
def numbered (character : Char) : List Char :=
  ['\\', 'u', '\x7b'] ++ Nat.toDigits 16 character.toNat ++ ['\x7d']

/-- The characters that stand for one character inside double quotes. -/
def escape (character : Char) : List Char :=
  if character = '"' then ['\\', '"']
  else if character = '\\' then ['\\', '\\']
  else if character = '\n' then ['\\', 'n']
  else if character = '\t' then ['\\', 't']
  else if character = '\r' then ['\\', 'r']
  else if character = '\x00' then ['\\', '0']
  else if isControl character || Unseen.contains character then numbered character
  else [character]

/-- A text between double quotes, each of its characters escaped. -/
def quote (text : String) : String :=
  String.ofList ('"' :: text.toList.flatMap escape ++ ['"'])

end Text
end Userland
