import ClassLiterals.Visibility
import Mathlib.Data.List.TakeWhile
import Mathlib.Tactic.Common

/-!
# White space around texts

White space at the ends of a text never changes what a filter decides. For visible texts this is so
by design, as the filter trims a text before it looks at it. Whether a text is translatable also
depends on its letters and on its being a run of placeholder signs, and those are looked for in the
whole text. There the law holds because white space has no letters and a run of placeholder signs
has none either: among the texts with a letter there is no such run, so that only the letters count.

Main results: `trim_padded`, `isTranslatable_eq` and `decisions_padded`.
-/

namespace ClassLiterals

/-! ## Members of ranges -/

namespace Unicode

theorem Ranges.exists_of_covers {ranges : Ranges} {n : Nat} (h : ranges.covers n = true) :
    ∃ r ∈ ranges, r.1 ≤ n ∧ n ≤ r.2 := by
  induction ranges with
  | nil => cases h
  | cons r rest ih =>
    obtain ⟨first, last⟩ := r
    simp only [covers] at h
    split_ifs at h with hfirst hlast
    · exact ⟨(first, last), List.mem_cons_self, Nat.le_of_not_lt hfirst, hlast⟩
    · obtain ⟨r, hr, hn⟩ := ih h
      exact ⟨r, List.mem_cons_of_mem _ hr, hn⟩

/-- What holds of every code point in the ranges, one by one, holds of what the ranges cover. -/
theorem Ranges.of_covers {ranges : Ranges} {P : Nat → Bool}
    (hP : (ranges.all fun r => (List.range' r.1 (r.2 + 1 - r.1)).all P) = true) {n : Nat}
    (h : ranges.covers n = true) : P n = true := by
  obtain ⟨r, hr, hfirst, hlast⟩ := exists_of_covers h
  have hrange := List.all_eq_true.1 hP r hr
  exact List.all_eq_true.1 hrange n (List.mem_range'_1.2 ⟨hfirst, by omega⟩)

theorem isAlphabetic_of_isBlank {n : Nat} (h : isBlank n = true) : isAlphabetic n = false := by
  have := Ranges.of_covers (P := fun n => !isAlphabetic n) (by decide +kernel) h
  simpa using this

theorem isWord_of_isBlank {n : Nat} (h : isBlank n = true) : isWord n = false := by
  have := Ranges.of_covers (P := fun n => !isWord n) (by decide +kernel) h
  simpa using this

/-- The printing characters of ASCII are no white space. -/
theorem isBlank_of_printing {n : Nat} (hfirst : 0x20 < n) (hlast : n < 0x7F) :
    isBlank n = false := by
  rw [Bool.eq_false_iff]
  intro h
  have := Ranges.of_covers (P := fun n => n ≤ 0x20 || 0x7F ≤ n) (by decide +kernel) h
  simp only [Bool.or_eq_true, decide_eq_true_eq] at this
  omega

end Unicode

/-! ## Texts -/

namespace Text

variable {u t v : List Char}

theorem trim_append_left (hu : ∀ c ∈ u, trim.blank c = true) (t : List Char) :
    trim (u ++ t) = trim t := by
  rw [trim, trim, List.dropWhile_append_of_pos hu]

theorem trim_append_right (t : List Char) (hv : ∀ c ∈ v, trim.blank c = true) :
    trim (t ++ v) = trim t := by
  rw [trim, trim, List.dropWhile_append]
  split
  · -- the text is white space itself, and nothing is left
    rename_i hempty
    rw [List.isEmpty_iff.1 hempty, List.dropWhile_eq_nil_iff.2 hv]
  · rw [List.reverse_append, List.dropWhile_append_of_pos fun c hc => hv c (List.mem_reverse.1 hc)]

theorem trim_padded (hu : ∀ c ∈ u, trim.blank c = true) (hv : ∀ c ∈ v, trim.blank c = true) :
    trim (u ++ t ++ v) = trim t := by
  rw [trim_append_right _ hv, trim_append_left hu]

/-- Whether the text ends with a character that is no white space. -/
def EndsSolid (text : List Char) : Prop := ∃ front c, text = front ++ [c] ∧ trim.blank c = false

theorem EndsSolid.append (hv : EndsSolid v) (u : List Char) : EndsSolid (u ++ v) := by
  obtain ⟨front, c, rfl, hc⟩ := hv
  exact ⟨u ++ front, c, (List.append_assoc u front [c]).symm, hc⟩

theorem endsSolid_concat {c : Char} (hc : trim.blank c = false) (u : List Char) :
    EndsSolid (u ++ [c]) := ⟨u, c, rfl, hc⟩

/-- A text that neither starts nor ends with white space stays as it is. -/
theorem trim_eq_self {c : Char} (hc : trim.blank c = false) (h : EndsSolid (c :: t)) :
    trim (c :: t) = c :: t := by
  obtain ⟨front, d, hfront, hd⟩ := h
  rw [trim, List.dropWhile_cons_of_neg (by simp [hc]), hfront, List.reverse_append,
    List.reverse_singleton, List.singleton_append, List.dropWhile_cons_of_neg (by simp [hd])]
  simp

theorem hasLetter_of_blank (hu : ∀ c ∈ u, trim.blank c = true) : hasLetter u = false := by
  rw [hasLetter, List.any_eq_false]
  intro c hc
  rw [Unicode.isAlphabetic_of_isBlank (hu c hc)]
  simp

theorem hasLetter_padded (hu : ∀ c ∈ u, trim.blank c = true) (hv : ∀ c ∈ v, trim.blank c = true) :
    hasLetter (u ++ t ++ v) = hasLetter t := by
  have hou := hasLetter_of_blank hu
  have hov := hasLetter_of_blank hv
  simp only [hasLetter, List.any_append] at hou hov ⊢
  rw [hou, hov, Bool.false_or, Bool.or_false]

/-- The placeholder signs are no letters. -/
theorem hasLetter_of_isPlaceholderRun (h : isPlaceholderRun t = true) : hasLetter t = false := by
  rw [isPlaceholderRun, Bool.and_eq_true, List.all_eq_true] at h
  rw [hasLetter, List.any_eq_false]
  intro c hc
  have hsign := h.2 c hc
  simp only [Bool.or_eq_true, decide_eq_true_eq] at hsign
  rcases hsign with (rfl | rfl) | rfl <;> decide

end Text

/-! ## Filters -/

namespace VisibilityFilter

/-- A text with a letter is no run of placeholder signs, so a translatable text is a visible one
with a letter. -/
theorem isTranslatable_eq (f : VisibilityFilter) (text : String) :
    f.isTranslatable text = (f.isVisible text && Text.hasLetter text.toList) := by
  rw [isTranslatable]
  cases hrun : Text.isPlaceholderRun text.toList with
  | false => rw [Bool.not_false, Bool.and_true]
  | true => rw [Text.hasLetter_of_isPlaceholderRun hrun, Bool.and_false, Bool.false_and]

/-- White space around a text, of any kind and length, does not change whether the text is visible
or whether it is translatable. -/
theorem decisions_padded (f : VisibilityFilter) (u t v : String)
    (hu : ∀ c ∈ u.toList, Unicode.isBlank c.toNat = true)
    (hv : ∀ c ∈ v.toList, Unicode.isBlank c.toNat = true) :
    f.isVisible (u ++ t ++ v) = f.isVisible t ∧
      f.isTranslatable (u ++ t ++ v) = f.isTranslatable t := by
  have hvisible : f.isVisible (u ++ t ++ v) = f.isVisible t := by
    rw [isVisible, isVisible, String.toList_append, String.toList_append, Text.trim_padded hu hv]
  refine ⟨hvisible, ?_⟩
  rw [isTranslatable_eq, isTranslatable_eq, hvisible, String.toList_append, String.toList_append,
    Text.hasLetter_padded hu hv]

/-- Between an ideographic space and a line feed, a run of placeholder signs is no such run any
more. Still it is as visible, and as little worth translating, as it is alone. -/
theorem decisions_padded_placeholders :
    Text.isPlaceholderRun "\u3000%\x7b\x7d\n".toList = false ∧
      (⟨2, [.char '!']⟩ : VisibilityFilter).isVisible
        ("\u3000" ++ "%\x7b\x7d" ++ "\n") = true ∧
      (⟨2, [.char '!']⟩ : VisibilityFilter).isTranslatable
        ("\u3000" ++ "%\x7b\x7d" ++ "\n") = false := by
  have h := decisions_padded ⟨2, [.char '!']⟩ "\u3000" "%\x7b\x7d" "\n"
    (List.all_eq_true.1 (by decide)) (List.all_eq_true.1 (by decide))
  exact ⟨by decide, h.1.trans (by decide), h.2.trans (by decide)⟩

end VisibilityFilter

end ClassLiterals
