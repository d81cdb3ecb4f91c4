import ClassLiterals.Proofs.Class.RoundTrip

/-!
# The payload of a code attribute

The numbers in the payload of a code attribute say where it ends: the size of the code array, the
number of its handlers, the number of its attributes and the size of each. So code is found in front
of whatever follows its payload, the beginning of a payload is no payload, and bytes are read as
some code only if they start with the payload of that code.

Main result: `decode_selfDelimiting`.
-/

namespace ClassLiterals
namespace Code

/-- **A payload ends where it says.**  Code whose sizes and counts fit is read from its payload,
whatever follows; a payload that is cut short is a read beyond the end of the bytes; and bytes that
are read as code start with its payload. -/
theorem decode_selfDelimiting :
    (∀ c : Code, c.WellFormed → ∀ more, decode (c.encode ++ more) = .ok c) ∧
      (∀ c : Code, c.WellFormed → ∀ n < c.encode.length, ∃ offset requested remaining,
        decode (c.encode.take n) = .error (.outOfBounds offset requested remaining) ∧
          offset + remaining = n ∧ remaining < requested) ∧
      ∀ bs c, decode bs = .ok c → c.WellFormed ∧ c.encode <+: bs := by
  refine ⟨fun c hc more => ?_, fun c hc n hn => ?_, fun bs c h => ?_⟩
  · exact reads_read.decode_eq_ok_iff.2 ⟨hc, List.prefix_append _ _⟩
  · exact reads_read.decode_take hc hn
  · exact reads_read.decode_eq_ok_iff.1 h

/-- Code with two handlers, an attribute without payload and one whose payload looks like code. -/
def guarded : Code :=
  ⟨2, 1, [0x12, 0x07, 0xB1], [⟨0, 2, 2, 0⟩, ⟨0, 3, 2, 9⟩], [⟨4, []⟩, ⟨5, [0x00, 0x01, 0x12]⟩]⟩

theorem wellFormed_guarded : guarded.WellFormed :=
  ⟨by decide, by decide, ⟨by decide, by decide⟩⟩

/-- The code is read from its payload with two more bytes, not from the payload without its last
byte, and the payload stands in front of the bytes that the code was read from. -/
theorem decode_selfDelimiting_guarded :
    guarded.WellFormed ∧ decode (guarded.encode ++ [0xFF, 0x00]) = .ok guarded ∧
      (∃ offset requested remaining,
        decode (guarded.encode.take 45) = .error (.outOfBounds offset requested remaining) ∧
          offset + remaining = 45 ∧ remaining < requested) ∧
      guarded.encode <+: guarded.encode ++ [0xFF, 0x00] := by
  have hread : decode (guarded.encode ++ [0xFF, 0x00]) = .ok guarded :=
    decode_selfDelimiting.1 guarded wellFormed_guarded [0xFF, 0x00]
  refine ⟨wellFormed_guarded, hread, ?_, (decode_selfDelimiting.2.2 _ _ hread).2⟩
  exact decode_selfDelimiting.2.1 guarded wellFormed_guarded 45 (by decide)

end Code
end ClassLiterals
