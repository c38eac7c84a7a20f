/-!
# Text as bytes

The kernel knows bytes only.  `encode` lists the UTF-8 bytes of a text and
`decode?` reads such a list back.  Lengths that the kernel limits are lengths of
`encode`, never numbers of characters.
-/

namespace Userland
namespace Text

/-- The UTF-8 bytes of a text. -/
def encode (text : String) : List UInt8 :=
  text.toByteArray.data.toList

/-- The text whose UTF-8 bytes these are, if there is one. -/
def decode? (bytes : List UInt8) : Option String :=
  String.fromUTF8? ⟨bytes.toArray⟩

@[simp] theorem encode_append (first second : String) :
    encode (first ++ second) = encode first ++ encode second := by
  simp [encode, String.toByteArray_append]

/-- Different texts have different bytes. -/
theorem encode_injective {first second : String} (same : encode first = encode second) :
    first = second := by
  apply String.toByteArray_inj.mp
  apply ByteArray.ext
  exact Array.toList_inj.mp same

/-- Reading back the bytes of a text gives the text. -/
@[simp] theorem decode?_encode (text : String) : decode? (encode text) = some text := by
  have bytes : (⟨(encode text).toArray⟩ : ByteArray) = text.toByteArray := by
    simp [encode]
  unfold decode? String.fromUTF8?
  rw [bytes, dif_pos text.isValidUTF8]
  rfl

end Text
end Userland
