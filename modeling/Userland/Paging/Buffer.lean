/-!
# Buffers with an expected content

A test of paging fills a buffer with words that are computed from their indices,
visits indices in some order and compares what it reads with what it wrote.
`firstMismatch?_fill` says that a buffer which keeps its content passes in every
order.
-/

namespace Userland
namespace Paging

/-- A buffer in which every word is the one expected at its index. -/
def fill (size : Nat) (expected : Nat → UInt64) : Vector UInt64 size :=
  Vector.ofFn fun index => expected index

/-- The first visited index whose word is not the expected one. -/
def firstMismatch? {size : Nat} (buffer : Vector UInt64 size) (expected : Nat → UInt64)
    (order : List (Fin size)) : Option (Fin size) :=
  order.find? fun index => buffer.get index ≠ expected index

@[simp] theorem get_fill (size : Nat) (expected : Nat → UInt64) (index : Fin size) :
    (fill size expected).get index = expected index := by
  calc
    (fill size expected).get index = (fill size expected)[index.val] := rfl
    _ = expected index := by simp [fill]

/-- A buffer that keeps what was written passes in every order. -/
@[simp] theorem firstMismatch?_fill (size : Nat) (expected : Nat → UInt64)
    (order : List (Fin size)) : firstMismatch? (fill size expected) expected order = none := by
  simp [firstMismatch?]

/-- The content of the walk in order: every word is its own index. -/
def ownIndex (index : Nat) : UInt64 :=
  UInt64.ofNat index

/-- A word made from an index by multiplication and exclusive or, both within
the machine word. -/
def scatter (index : UInt64) : UInt64 :=
  (index * 0x9E3779B9) ^^^ 0x5A5A

/-- The content of the walk out of order. -/
def scattered (index : Nat) : UInt64 :=
  scatter (UInt64.ofNat index)

end Paging
end Userland
