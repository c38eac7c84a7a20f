import Userland.Limits
import Userland.Text.Utf8

/-!
# Texts that end with a zero byte

The kernel is given the address of a text and finds its end by looking for a
zero byte.  A `Terminated` text is what such an address can stand for: content
without a zero, followed by one zero.  The invariant is a field, so the end of
a terminated text is never ambiguous.

The kernel does not look further than `Limits.maxTextLength` bytes plus the
zero.  `kernelRead?` is that bounded search.  `Terminated.marshal?` accepts the
texts that survive it and refuses all others before the kernel is entered.
Nothing is assumed about the bytes behind the final zero.
-/

namespace Userland
namespace Text

/-- Bytes without a zero, understood to be followed by one zero byte. -/
structure Terminated where
  content : List UInt8
  zero_not_mem : (0 : UInt8) ∉ content
  deriving DecidableEq

namespace Terminated

/-- The bytes in memory, final zero included. -/
def bytes (terminated : Terminated) : List UInt8 :=
  terminated.content ++ [0]

/-- A text of any length, refused only when it contains a zero byte. -/
def ofText? (text : String) : Option Terminated :=
  if zeroFree : (0 : UInt8) ∉ encode text then some ⟨encode text, zeroFree⟩ else none

/-- A text in the form that the kernel reads whole: refused when it contains a
zero byte or has more bytes than the kernel looks at. -/
def marshal? (text : String) : Option Terminated :=
  if Limits.maxTextLength < (encode text).length then none else ofText? text

/-- The content read as a text. -/
def text? (terminated : Terminated) : Option String :=
  decode? terminated.content

theorem content_of_ofText? {text : String} {terminated : Terminated}
    (accepted : ofText? text = some terminated) : terminated.content = encode text := by
  unfold ofText? at accepted
  split at accepted
  · cases accepted
    rfl
  · cases accepted

theorem ofText?_of_marshal? {text : String} {terminated : Terminated}
    (accepted : marshal? text = some terminated) : ofText? text = some terminated := by
  unfold marshal? at accepted
  split at accepted
  · cases accepted
  · exact accepted

/-- A text is refused exactly for a zero byte or for its length in bytes. -/
theorem marshal?_eq_none_iff (text : String) :
    marshal? text = none ↔
      (0 : UInt8) ∈ encode text ∨ Limits.maxTextLength < (encode text).length := by
  unfold marshal? ofText?
  split
  · simp_all
  · split <;> simp_all

end Terminated

/-- The kernel's search for the end of a text.  It looks at no more than
`Limits.maxTextLength` bytes and the one behind them, and answers the bytes
before the first zero among these, or nothing when there is none. -/
def kernelRead? (memory : List UInt8) : Option (List UInt8) :=
  let window := memory.take (Limits.maxTextLength + 1)
  if (0 : UInt8) ∈ window then some (window.takeWhile (· ≠ 0)) else none

end Text
end Userland
