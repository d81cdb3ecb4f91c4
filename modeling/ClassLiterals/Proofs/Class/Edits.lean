import ClassLiterals.Proofs.Class.RoundTrip
import ClassLiterals.Proofs.Pool.Update

/-!
# Class files with changed texts

The texts of a class file can be changed any number of times. Requests that fail, for an index that
names no text or for a text that is too long, change nothing. Whatever the requests, a class file
that was read stays well-formed: it can be written, and read again as what it is.

Main result: `parse_inverts_toBytes`.
-/

namespace ClassLiterals
namespace ClassFile

/-- The class file after requests for new texts, one after the other. -/
def requestTexts (c : ClassFile) (edits : List (UInt16 × String)) : ClassFile :=
  { c with pool := c.pool.requests edits }

theorem WellFormed.requestTexts {c : ClassFile} (hc : c.WellFormed)
    (edits : List (UInt16 × String)) : (c.requestTexts edits).WellFormed :=
  hc.withPool (hc.pool.requests edits)

/-- **Reading undoes writing on every well-formed class file.**  Those are the class files that can
be read, and they stay well-formed whatever texts are requested. So what can be read is what
well-formed class files are written as. -/
theorem parse_inverts_toBytes :
    (∀ c : ClassFile, c.WellFormed → parse c.toBytes = .ok c) ∧
      (∀ bs c, parse bs = .ok c → c.WellFormed) ∧
      (∀ c : ClassFile, c.WellFormed → ∀ edits, (c.requestTexts edits).WellFormed) ∧
      ∀ bs, (∃ c, parse bs = .ok c) ↔ ∃ c : ClassFile, c.WellFormed ∧ c.toBytes = bs := by
  refine ⟨fun c hc => parse_toBytes hc, fun bs c h => (parse_eq_ok_iff.1 h).1,
    fun c hc edits => hc.requestTexts edits, fun bs => ?_⟩
  constructor
  · rintro ⟨c, h⟩
    exact ⟨c, (parse_eq_ok_iff.1 h).1, (parse_eq_ok_iff.1 h).2.symm⟩
  · rintro ⟨c, hc, rfl⟩
    exact ⟨c, parse_toBytes hc⟩

/-- The class file `oddities` after a new text for an entry whose bytes were no modified UTF-8, and
after requests that fail: for no entry, for second slots and for constants that are no text. -/
def editedOddities : ClassFile :=
  oddities.requestTexts [(1, "Grüße\x00"), (0, "a"), (4, "b"), (5, "c"), (7, "d"), (9, "e")]

theorem parse_inverts_toBytes_oddities :
    editedOddities.pool.text? 1 = some "Grüße\x00" ∧ editedOddities.WellFormed ∧
      parse editedOddities.toBytes = .ok editedOddities ∧
      ∃ c, parse editedOddities.toBytes = .ok c := by
  obtain ⟨hparse, hread, hedits, hiff⟩ := parse_inverts_toBytes
  have hwf : editedOddities.WellFormed :=
    hedits oddities (hread odditiesBytes oddities (by decide +kernel)) _
  exact ⟨by decide +kernel, hwf, hparse _ hwf, (hiff _).2 ⟨_, hwf, rfl⟩⟩

end ClassFile
end ClassLiterals
