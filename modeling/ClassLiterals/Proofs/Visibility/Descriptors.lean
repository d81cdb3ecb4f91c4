import ClassLiterals.Proofs.Pattern.Matching
import ClassLiterals.Proofs.Rewrite.Narrowing
import ClassLiterals.Proofs.Visibility.WhiteSpace

/-!
# Descriptors are hidden

A class file is full of descriptors, the texts by which it refers to types: descriptors of methods
and arrays, descriptors of classes, and names of classes in their internal form. They are given here
by a grammar. Four of the technical forms are made for them, and every text of the grammar has one
of these forms, whatever its length and however many types it consists of. So no filter with
exclusions makes a descriptor visible.

The grammar and the forms follow each other part by part: the form of a part accepts what the
grammar derives for it. A filter looks at a text without the white space at its ends. A descriptor
has none there, as the characters of names are no white space, so it is seen as a whole.

Main results: `accepts_of_fieldType`, `matches_of_descriptor` and `descriptors_hidden`.
-/

namespace ClassLiterals

/-! ## The grammar -/

/-- The letters of the base types. -/
def baseLetters : List Char := ['B', 'C', 'D', 'F', 'I', 'J', 'S', 'Z']

/-- Whether a segment of the internal name of a class may go on with the character. -/
def isSegmentChar (c : Char) : Bool := Unicode.isWord c.toNat || c = '$'

/-- Whether a segment of the internal name of a class may start with the character. -/
def isSegmentStart (c : Char) : Bool := c.isAlpha || c = '_' || c = '$'

theorem isSegmentStart_iff {c : Char} : isSegmentStart c = true ↔
    ((65 ≤ c.toNat ∧ c.toNat ≤ 90 ∨ 97 ≤ c.toNat ∧ c.toNat ≤ 122) ∨ c = '_') ∨ c = '$' := by
  simp only [isSegmentStart, Char.isAlpha, Char.isUpper, Char.isLower, Bool.or_eq_true,
    Bool.and_eq_true, decide_eq_true_eq]
  rfl

/-- The descriptors of types that are no arrays. -/
inductive ElementType : List Char → Prop where
  | base {c : Char} (hc : c ∈ baseLetters) : ElementType [c]
  | object {name : List Char} (hname : name ≠ []) (hchars : ∀ c ∈ name, c ≠ ';') :
    ElementType ('L' :: (name ++ [';']))

/-- The descriptors of types: the type of the elements after a bracket for each dimension. -/
inductive FieldType : List Char → Prop where
  | dimensions (n : Nat) {element : List Char} (h : ElementType element) :
    FieldType (List.replicate n '[' ++ element)

/-- A segment of the internal name of a class. -/
inductive NameSegment : List Char → Prop where
  | name {c : Char} {rest : List Char} (hc : isSegmentStart c = true)
    (hrest : ∀ d ∈ rest, isSegmentChar d = true) : NameSegment (c :: rest)

/-- The texts by which a class file refers to types. -/
inductive Descriptor : List Char → Prop where
  | method {params : List (List Char)} {result : List Char} (hparams : ∀ t ∈ params, FieldType t)
    (hresult : result = ['V'] ∨ FieldType result) :
    Descriptor ('(' :: (params.flatten ++ ')' :: result))
  | array {n : Nat} {element : List Char} (hn : 0 < n) (h : ElementType element) :
    Descriptor (List.replicate n '[' ++ element)
  /-- A class whose name consists of characters of words, dollar signs and slashes. -/
  | plainClass {name : List Char} (hname : name ≠ [])
    (hchars : ∀ c ∈ name, isSegmentChar c = true ∨ c = '/') :
    Descriptor ('L' :: (name ++ [';']))
  | internalName {segments : List (List Char)} (hlength : 2 ≤ segments.length)
    (hsegments : ∀ s ∈ segments, NameSegment s) :
    Descriptor (['/'].intercalate segments)

/-- A separator and an item for each one after the first. -/
theorem intercalate_cons (sep first : List Char) (others : List (List Char)) :
    sep.intercalate (first :: others) = first ++ (others.map (sep ++ ·)).flatten := by
  induction others generalizing first with
  | nil => simp
  | cons second others ih =>
    rw [List.intercalate_cons_cons, ih, List.map_cons, List.flatten_cons, List.append_assoc,
      List.append_assoc]

/-! ## The forms -/

namespace Pattern

/-- The letters of the base types. -/
def baseSet : CharSet :=
  ['C', 'D', 'F', 'I', 'J', 'S', 'Z'].foldl (fun s c => s.union (.single c)) (.single 'B')

/-- The characters that a segment of a name starts with. -/
def segmentStartSet : CharSet :=
  (((CharSet.range 65 90).union (.range 97 122)).union (.single '_')).union (.single '$')

/-- The characters that a segment of a name goes on with. -/
def segmentSet : CharSet := (CharSet.property .word).union (.single '$')

/-- The characters in the name of a class without unusual signs. -/
def classSet : CharSet := ((CharSet.property .word).union (.single '/')).union (.single '$')

/-- The form of the descriptor of a type that is no array. -/
def elementType : Pattern :=
  alt (chars baseSet)
    (seq (char 'L') (seq (times 1 none (chars (.compl (.single ';')))) (char ';')))

/-- The form of the descriptor of a type. -/
def fieldType : Pattern := seq (times 0 none (char '[')) elementType

/-- The form of a segment of an internal name. -/
def segmentForm : Pattern := seq (chars segmentStartSet) (times 0 none (chars segmentSet))

/-- The form of method descriptors. -/
def methodForm : Pattern :=
  seq (boundary .textStart) (seq (char '(') (seq (times 0 none fieldType) (seq (char ')')
    (seq (alt (char 'V') fieldType) (boundary .textEnd)))))

/-- The form of class descriptors. -/
def classForm : Pattern :=
  seq (boundary .textStart) (seq (char 'L') (seq (times 1 none (chars classSet))
    (seq (char ';') (boundary .textEnd))))

/-- The form of array descriptors. -/
def arrayForm : Pattern :=
  seq (boundary .textStart) (seq (times 1 none (char '['))
    (seq elementType (boundary .textEnd)))

/-- The form of internal names. -/
def internalNameForm : Pattern :=
  seq (boundary .textStart) (seq (chars segmentStartSet) (seq (times 0 none (chars segmentSet))
    (seq (times 1 none (seq (char '/') segmentForm)) (boundary .textEnd))))

/-- The forms that are made for descriptors. -/
def descriptorForms : List Pattern := [methodForm, classForm, arrayForm, internalNameForm]

theorem descriptorForms_subset : descriptorForms ⊆ VisibilityFilter.technicalPatterns := by
  decide +kernel

/-! ## Members of the sets -/

theorem range_contains {first last : Nat} {c : Char} :
    (CharSet.range first last).contains c = true ↔ first ≤ c.toNat ∧ c.toNat ≤ last := by
  rw [CharSet.contains, CharSet.covers, Bool.and_eq_true, decide_eq_true_eq, decide_eq_true_eq]

@[simp]
theorem single_contains {c d : Char} : (CharSet.single c).contains d = true ↔ d = c := by
  rw [CharSet.single, range_contains, ← Nat.le_antisymm_iff, Char.toNat_inj, eq_comm]

@[simp]
theorem union_contains {a b : CharSet} {c : Char} :
    (a.union b).contains c = true ↔ a.contains c = true ∨ b.contains c = true := by
  rw [← Bool.or_eq_true]
  rfl

@[simp]
theorem compl_contains {a : CharSet} {c : Char} :
    a.compl.contains c = true ↔ ¬ a.contains c = true := by
  rw [Bool.not_eq_true, ← Bool.not_eq_true']
  rfl

@[simp]
theorem word_contains {c : Char} :
    (CharSet.property .word).contains c = true ↔ Unicode.isWord c.toNat = true := Iff.rfl

theorem baseSet_contains {c : Char} : baseSet.contains c = true ↔ c ∈ baseLetters := by
  simp [baseSet, baseLetters, or_assoc]

theorem segmentStartSet_contains {c : Char} :
    segmentStartSet.contains c = true ↔ isSegmentStart c = true := by
  simp only [segmentStartSet, union_contains, single_contains, range_contains, isSegmentStart_iff]

theorem segmentSet_contains {c : Char} : segmentSet.contains c = true ↔ isSegmentChar c = true := by
  simp [segmentSet, isSegmentChar]

theorem classSet_contains {c : Char} :
    classSet.contains c = true ↔ isSegmentChar c = true ∨ c = '/' := by
  simp [classSet, isSegmentChar, or_right_comm]

/-! ## Acceptance -/

variable {text : List Char}

theorem accepts_char (c : Char) : (char c).Accepts [c] :=
  accepts_chars (single_contains.2 rfl)

theorem accepts_replicate (c : Char) {least n : Nat} (h : least ≤ n) :
    (times least none (char c)).Accepts (List.replicate n c) := by
  refine accepts_times_chars ?_ (by rwa [List.length_replicate])
  intro d hd
  rw [List.eq_of_mem_replicate hd]
  exact single_contains.2 rfl

theorem accepts_of_elementType (h : ElementType text) : elementType.Accepts text := by
  cases h with
  | base hc => exact accepts_alt_left (accepts_chars (baseSet_contains.2 hc))
  | object hname hchars =>
    refine accepts_alt_right (accepts_seq (accepts_char 'L') (accepts_seq ?_ (accepts_char ';')))
    refine accepts_times_chars ?_ (List.length_pos_iff.2 hname)
    intro c hc
    rw [compl_contains, single_contains]
    exact hchars c hc

theorem accepts_of_fieldType (h : FieldType text) : fieldType.Accepts text := by
  cases h with
  | dimensions n h =>
    exact accepts_seq (accepts_replicate '[' (Nat.zero_le n)) (accepts_of_elementType h)

theorem accepts_of_nameSegment (h : NameSegment text) : segmentForm.Accepts text := by
  cases h with
  | name hc hrest =>
    exact accepts_seq (accepts_chars (segmentStartSet_contains.2 hc))
      (accepts_times_chars (fun d hd => segmentSet_contains.2 (hrest d hd)) (Nat.zero_le _))

theorem methodForm_matches {params : List (List Char)} {result : List Char}
    (hparams : ∀ t ∈ params, FieldType t) (hresult : result = ['V'] ∨ FieldType result) :
    methodForm.Matches none ('(' :: (params.flatten ++ ')' :: result)) none := by
  have haccepts : (alt (char 'V') fieldType).Accepts result := by
    rcases hresult with rfl | hresult
    · exact accepts_alt_left (accepts_char 'V')
    · exact accepts_alt_right (accepts_of_fieldType hresult)
  have hend := acceptsEnd_seq (accepts_char ')') (acceptsEnd_of_accepts haccepts)
  refine matches_textStart_seq (acceptsEnd_seq (accepts_char '(') (acceptsEnd_seq ?_ hend))
  exact accepts_times (fun t ht => accepts_of_fieldType (hparams t ht)) (Nat.zero_le _)

theorem arrayForm_matches {n : Nat} {element : List Char} (hn : 0 < n) (h : ElementType element) :
    arrayForm.Matches none (List.replicate n '[' ++ element) none :=
  matches_textStart_seq
    (acceptsEnd_seq (accepts_replicate '[' hn) (acceptsEnd_of_accepts (accepts_of_elementType h)))

theorem classForm_matches {name : List Char} (hname : name ≠ [])
    (hchars : ∀ c ∈ name, isSegmentChar c = true ∨ c = '/') :
    classForm.Matches none ('L' :: (name ++ [';'])) none := by
  have hend := acceptsEnd_of_accepts (accepts_char ';')
  refine matches_textStart_seq (acceptsEnd_seq (accepts_char 'L') (acceptsEnd_seq ?_ hend))
  exact accepts_times_chars (fun c hc => classSet_contains.2 (hchars c hc))
    (List.length_pos_iff.2 hname)

theorem internalNameForm_matches {first : List Char} {others : List (List Char)}
    (hfirst : NameSegment first) (hlength : 1 ≤ others.length)
    (hothers : ∀ s ∈ others, NameSegment s) :
    internalNameForm.Matches none (['/'].intercalate (first :: others)) none := by
  have haccepts : ∀ t ∈ others.map (['/'] ++ ·), (seq (char '/') segmentForm).Accepts t := by
    intro t ht
    obtain ⟨other, hother, rfl⟩ := List.mem_map.1 ht
    exact accepts_seq (accepts_char '/') (accepts_of_nameSegment (hothers other hother))
  have hcount : 1 ≤ (others.map (['/'] ++ ·)).length := by rwa [List.length_map]
  have hend := acceptsEnd_of_accepts (accepts_times haccepts hcount)
  rw [intercalate_cons]
  -- the form has the first segment in two parts
  cases hfirst with
  | @name c rest hc hrest =>
    rw [List.cons_append]
    refine matches_textStart_seq (acceptsEnd_seq (accepts_chars (segmentStartSet_contains.2 hc))
      (acceptsEnd_seq ?_ hend))
    exact accepts_times_chars (fun d hd => segmentSet_contains.2 (hrest d hd)) (Nat.zero_le _)

/-- Every descriptor has one of the forms that are made for them. -/
theorem matches_of_descriptor (h : Descriptor text) :
    ∃ p ∈ descriptorForms, p.Matches none text none := by
  cases h with
  | method hparams hresult =>
    exact ⟨methodForm, by simp [descriptorForms], methodForm_matches hparams hresult⟩
  | array hn h => exact ⟨arrayForm, by simp [descriptorForms], arrayForm_matches hn h⟩
  | plainClass hname hchars =>
    exact ⟨classForm, by simp [descriptorForms], classForm_matches hname hchars⟩
  | @internalName segments hlength hsegments =>
    obtain ⟨first, others, rfl⟩ := List.exists_cons_of_length_pos (by omega : 0 < segments.length)
    obtain ⟨hfirst, hothers⟩ := List.forall_mem_cons.1 hsegments
    exact ⟨internalNameForm, by simp [descriptorForms],
      internalNameForm_matches hfirst (by simpa using hlength) hothers⟩

theorem ordered_of_mem_descriptorForms {p : Pattern} (h : p ∈ descriptorForms) : p.Ordered := by
  simp only [descriptorForms, List.mem_cons, List.not_mem_nil, or_false] at h
  rcases h with rfl | rfl | rfl | rfl <;>
    simp [methodForm, classForm, arrayForm, internalNameForm, fieldType, elementType, segmentForm,
      char, Ordered]

end Pattern

/-! ## Hidden texts -/

namespace Text

variable {text : List Char}

theorem blank_of_isSegmentChar {c : Char} (h : isSegmentChar c = true) : trim.blank c = false := by
  rw [isSegmentChar, Bool.or_eq_true, decide_eq_true_eq] at h
  rcases h with h | rfl
  · rw [Bool.eq_false_iff]
    intro hblank
    rw [Unicode.isWord_of_isBlank hblank] at h
    cases h
  · decide

theorem blank_of_isSegmentStart {c : Char} (h : isSegmentStart c = true) :
    trim.blank c = false := by
  rcases isSegmentStart_iff.1 h with (h | rfl) | rfl
  · exact Unicode.isBlank_of_printing (by omega) (by omega)
  · decide
  · decide

theorem blank_of_mem_baseLetters {c : Char} (h : c ∈ baseLetters) : trim.blank c = false := by
  have hprinting : ∀ c ∈ baseLetters, 0x20 < c.toNat ∧ c.toNat < 0x7F := by
    simp [baseLetters]
  exact Unicode.isBlank_of_printing (hprinting c h).1 (hprinting c h).2

theorem endsSolid_of_elementType (h : ElementType text) : EndsSolid text := by
  cases h with
  | base hc => exact endsSolid_concat (blank_of_mem_baseLetters hc) []
  | @object name hname hchars => exact endsSolid_concat (by decide) ('L' :: name)

theorem endsSolid_of_nameSegment (h : NameSegment text) : EndsSolid text := by
  cases h with
  | @name c rest hc hrest =>
    rcases List.eq_nil_or_concat' rest with rfl | ⟨front, d, rfl⟩
    · exact endsSolid_concat (blank_of_isSegmentStart hc) []
    · exact endsSolid_concat (blank_of_isSegmentChar (hrest d (by simp))) (c :: front)

theorem trim_of_descriptor (h : Descriptor text) : trim text = text := by
  cases h with
  | @method params result hparams hresult =>
    refine trim_eq_self (by decide) ?_
    have hend : EndsSolid result := by
      rcases hresult with rfl | ⟨n, h⟩
      · exact endsSolid_concat (by decide) []
      · exact (endsSolid_of_elementType h).append _
    exact ((hend.append [')']).append params.flatten).append ['(']
  | @array n element hn h =>
    obtain ⟨m, rfl⟩ := Nat.exists_eq_add_of_lt hn
    rw [Nat.zero_add, List.replicate_succ, List.cons_append]
    exact trim_eq_self (by decide)
      ((endsSolid_of_elementType h).append ('[' :: List.replicate m '['))
  | @plainClass name hname hchars =>
    exact trim_eq_self (by decide) (endsSolid_concat (by decide) ('L' :: name))
  | @internalName segments hlength hsegments =>
    obtain ⟨first, others, rfl⟩ := List.exists_cons_of_length_pos (by omega : 0 < segments.length)
    obtain ⟨hfirst, hothers⟩ := List.forall_mem_cons.1 hsegments
    -- the last segment is not the first one, so the text ends as the last one does
    rcases List.eq_nil_or_concat' others with rfl | ⟨front, last, rfl⟩
    · simp at hlength
    · have hlast := endsSolid_of_nameSegment (hothers last (by simp))
      rw [intercalate_cons, List.map_append, List.flatten_append, List.map_singleton,
        List.flatten_singleton]
      cases hfirst with
      | @name c rest hc hrest =>
        exact trim_eq_self (blank_of_isSegmentStart hc)
          (((hlast.append ['/']).append _).append (c :: rest))

end Text

namespace VisibilityFilter

/-- A descriptor is hidden by every filter with exclusions. -/
theorem descriptors_hidden {minLength : Nat} {exclusions : List String} {f : VisibilityFilter}
    (h : ofExclusions minLength exclusions = .ok f) {text : String}
    (hdescriptor : Descriptor text.toList) :
    f.isVisible text = false ∧ f.isTranslatable text = false := by
  have hvisible : f.isVisible text = false := by
    obtain ⟨p, hp, hmatch⟩ := Pattern.matches_of_descriptor hdescriptor
    have hsearch := Pattern.search_of_matches (Pattern.ordered_of_mem_descriptorForms hp) hmatch
    have hrejected : p ∈ f.rejected := by
      rw [eq_of_ofExclusions h]
      exact List.mem_append_left _ (Pattern.descriptorForms_subset hp)
    rw [isVisible, Text.trim_of_descriptor hdescriptor, List.any_eq_true.2 ⟨p, hrejected, hsearch⟩,
      Bool.not_true, Bool.and_false]
  exact ⟨hvisible, by rw [isTranslatable_eq, hvisible, Bool.false_and]⟩

/-- A method that takes an array and an object of a class whose name is full of signs. -/
theorem descriptors_hidden_method :
    (⟨2, technicalPatterns ++ []⟩ : VisibilityFilter).isVisible "([[ILa(\n[);)V" = false := by
  have htext : "([[ILa(\n[);)V".toList =
      '(' :: (["[[I".toList, "La(\n[);".toList].flatten ++ ')' :: ['V']) := by decide
  have hint : FieldType "[[I".toList := .dimensions 2 (.base (by decide))
  have hobject : FieldType "La(\n[);".toList :=
    .dimensions 0 (@ElementType.object "a(\n[)".toList (by decide) (by simp))
  have hdescriptor : Descriptor "([[ILa(\n[);)V".toList := by
    rw [htext]
    exact .method (List.forall_mem_cons.2 ⟨hint, List.forall_mem_singleton.2 hobject⟩) (.inl rfl)
  have hfilter : ofExclusions 2 [] = .ok ⟨2, technicalPatterns ++ []⟩ := rfl
  exact (descriptors_hidden hfilter hdescriptor).1

end VisibilityFilter

end ClassLiterals
