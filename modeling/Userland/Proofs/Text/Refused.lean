import Mathlib.Data.List.TakeWhile
import Userland.Text.Arguments

/-!
# Texts that are refused

A text is refused for one of two reasons that can be told from the text itself:
it has a zero character, or it has more bytes than the kernel reads.  Nothing
here speaks of marshalling; that marshalling refuses exactly these texts, and
hands over all others unchanged, is what the lemmas say.

`Terminated.ofText` is total.  It is the text as the kernel finds it behind an
address, so on a text with a zero character it stops early.  No refused text is
ever handed over, and on the others it is the whole text.
-/

namespace Userland
namespace Text

/-- A text that the library does not hand to the kernel. -/
def Refused (text : String) : Prop :=
  '\x00' ∈ text.toList ∨ Limits.maxTextLength < text.utf8ByteSize

instance (text : String) : Decidable (Refused text) :=
  inferInstanceAs (Decidable (_ ∨ _))

/-! ## The zero byte stands for the zero character only -/

private theorem ofNat_eq_zero_iff (number : Nat) : UInt8.ofNat number = 0 ↔ number % 256 = 0 := by
  rw [← UInt8.toNat_inj, UInt8.toNat_ofNat]
  rfl

/-- Every other character has bytes that start with a bit pattern of their own,
and none of these is zero. -/
theorem zero_mem_utf8EncodeChar_iff (character : Char) :
    (0 : UInt8) ∈ String.utf8EncodeChar character ↔ character = '\x00' := by
  constructor
  · intro member
    apply Char.ext
    apply UInt32.toNat_inj.mp
    show character.val.toNat = 0
    simp only [String.utf8EncodeChar] at member
    split at member
    · have zero := (ofNat_eq_zero_iff _).mp (List.mem_singleton.mp member).symm
      omega
    -- Two, three and four bytes: the mark of each byte is too large for zero.
    · split at member
      · simp only [List.mem_cons, List.not_mem_nil, or_false] at member
        rcases member with byte | byte <;>
          have zero := (ofNat_eq_zero_iff _).mp byte.symm <;> omega
      · split at member <;> simp only [List.mem_cons, List.not_mem_nil, or_false] at member
        · rcases member with byte | byte | byte <;>
            have zero := (ofNat_eq_zero_iff _).mp byte.symm <;> omega
        · rcases member with byte | byte | byte | byte <;>
            have zero := (ofNat_eq_zero_iff _).mp byte.symm <;> omega
  · rintro rfl
    decide

/-- The bytes of a text are those of its characters, in order. -/
theorem encode_eq_flatMap (text : String) :
    encode text = text.toList.flatMap String.utf8EncodeChar := by
  rw [encode, ← String.utf8Encode_toList]
  simp [List.utf8Encode]

/-- A text has a zero byte exactly when it has a zero character. -/
theorem zero_mem_encode_iff (text : String) : (0 : UInt8) ∈ encode text ↔ '\x00' ∈ text.toList := by
  rw [encode_eq_flatMap, List.mem_flatMap]
  constructor
  · rintro ⟨character, listed, member⟩
    rw [(zero_mem_utf8EncodeChar_iff character).mp member] at listed
    exact listed
  · intro listed
    exact ⟨'\x00', listed, (zero_mem_utf8EncodeChar_iff _).mpr rfl⟩

/-! ## Marshalling refuses these texts and no others -/

namespace Terminated

/-- The text as the kernel finds it: its bytes up to the first zero. -/
def ofText (text : String) : Terminated where
  content := (encode text).takeWhile (· ≠ 0)
  zero_not_mem := by
    intro member
    have different := List.mem_takeWhile_imp member
    simp at different

/-- A text without a zero byte is found whole. -/
theorem content_ofText {text : String} (zeroFree : (0 : UInt8) ∉ encode text) :
    (ofText text).content = encode text := by
  apply List.takeWhile_eq_self_iff.mpr
  intro byte member
  exact decide_eq_true fun zero => zeroFree (zero ▸ member)

theorem ofText?_of_zeroFree {text : String} (zeroFree : (0 : UInt8) ∉ encode text) :
    ofText? text = some (ofText text) := by
  rw [ofText?, dif_pos zeroFree]
  congr 1
  rw [Terminated.mk.injEq]
  exact (content_ofText zeroFree).symm

theorem marshal?_of_refused {text : String} (refused : Refused text) : marshal? text = none := by
  apply (marshal?_eq_none_iff text).mpr
  rcases refused with zero | long
  · exact Or.inl ((zero_mem_encode_iff text).mpr zero)
  · exact Or.inr long

/-- What is not refused is handed over whole. -/
theorem marshal?_of_accepted {text : String} (accepted : ¬ Refused text) :
    marshal? text = some (ofText text) := by
  have zeroFree : (0 : UInt8) ∉ encode text := fun zero =>
    accepted (Or.inl ((zero_mem_encode_iff text).mp zero))
  have short : ¬ Limits.maxTextLength < (encode text).length := fun long =>
    accepted (Or.inr long)
  rw [marshal?, if_neg short]
  exact ofText?_of_zeroFree zeroFree

end Terminated

namespace Arguments

/-- The arguments as the kernel finds them. -/
def ofTexts (texts : List String) : Arguments where
  strings := texts.map Terminated.ofText

@[simp] theorem count_ofTexts (texts : List String) : (ofTexts texts).count = texts.length := by
  simp [ofTexts, count]

/-- One refused text is enough, wherever it stands. -/
theorem marshal?_of_refused {texts : List String} (refused : ∃ text ∈ texts, Refused text) :
    marshal? texts = none := by
  induction texts with
  | nil =>
      rcases refused with ⟨text, listed, -⟩
      cases listed
  | cons text rest inductionHypothesis =>
      rw [marshal?_cons]
      by_cases first : Refused text
      · rw [Terminated.marshal?_of_refused first]
        rfl
      · have later : ∃ other ∈ rest, Refused other := by
          rcases refused with ⟨other, listed, otherRefused⟩
          rcases List.mem_cons.mp listed with same | listed
          · exact absurd (same ▸ otherRefused) first
          · exact ⟨other, listed, otherRefused⟩
        rw [inductionHypothesis later]
        cases Terminated.marshal? text <;> rfl

/-- Without a refused text all of them are handed over whole, in their order. -/
theorem marshal?_of_accepted {texts : List String} (accepted : ∀ text ∈ texts, ¬ Refused text) :
    marshal? texts = some (ofTexts texts) := by
  induction texts with
  | nil => rfl
  | cons text rest inductionHypothesis =>
      have first := Terminated.marshal?_of_accepted (accepted text List.mem_cons_self)
      have others := inductionHypothesis fun other listed =>
        accepted other (List.mem_cons_of_mem text listed)
      rw [marshal?_cons, first, others]
      rfl

end Arguments

end Text
end Userland
