/-!
# Byte strings

Everything that crosses a wire, enters a hash or lies in a file is a list of
bytes. Lists keep the reasoning simple: splitting, padding and concatenation
are the list operations, with the list lemmas.

Identifiers are text on one side and bytes on the other; `ofString` writes
their UTF-8 form and `toString?` reads it back, refusing anything else.
-/

namespace HomePairing

abbrev Bytes := List UInt8

namespace Bytes

def ofString (text : String) : Bytes :=
  text.toUTF8.data.toList

/-- The text that these bytes are the UTF-8 form of, if there is one. -/
def toString? (bytes : Bytes) : Option String :=
  String.fromUTF8? ⟨bytes.toArray⟩

/-- Reading the UTF-8 form of a text gives the text back. -/
@[simp] theorem toString?_ofString (text : String) :
    toString? (ofString text) = some text := by
  have h : (⟨(ofString text).toArray⟩ : ByteArray) = text.toByteArray := rfl
  unfold toString? String.fromUTF8?
  rw [h, dif_pos text.isValidUTF8]
  rfl

/-- Position-wise exclusive or, as long as the shorter operand. -/
def xor (a b : Bytes) : Bytes :=
  List.zipWith (· ^^^ ·) a b

/-- Zero bytes in front, up to `width` bytes; a longer string is kept whole. -/
def padLeft (width : Nat) (bytes : Bytes) : Bytes :=
  List.replicate (width - bytes.length) 0 ++ bytes

@[simp] theorem length_xor (a b : Bytes) :
    (xor a b).length = min a.length b.length := by
  simp [xor]

/-- Masking twice with the same bytes gives back what was masked. -/
theorem xor_xor_cancel {a b : Bytes} (h : a.length ≤ b.length) :
    xor (xor a b) b = a := by
  induction a generalizing b with
  | nil => rfl
  | cons x a ih =>
    cases b with
    | nil => simp at h
    | cons y b =>
      have hx : x ^^^ y ^^^ y = x := by
        rw [UInt8.xor_assoc, UInt8.xor_self, UInt8.xor_zero]
      have ht : xor (xor a b) b = a := ih (by simpa using h)
      simpa [xor, hx] using ht

theorem length_padLeft (width : Nat) (bytes : Bytes) :
    (padLeft width bytes).length = max width bytes.length := by
  simp [padLeft]; omega

end Bytes

end HomePairing
