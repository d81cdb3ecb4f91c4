import ClassLiterals.Batch
import ClassLiterals.Proofs.Batch.Aggregation
import ClassLiterals.Proofs.Rewrite.Structure

/-!
# The order of files

A scan of many classes finds the same texts whatever order the classes come in, and classes that
cannot be read do not disturb it, wherever they stand. Only the order in which the files of a text
are named follows the order of the classes. The failures are the classes that cannot be read, each
in its place and with its own reason.

Main results: `BatchScan.ofEntries_eq`, `BatchScan.mem_translatableTexts_iff` and
`BatchScan.findings_insensitive_to_order`.
-/

namespace ClassLiterals

/-! ## One class -/

namespace ClassEntry

/-- Whether the class can be read. -/
def isReadable (e : ClassEntry) : Bool := (ClassFile.parse e.bytes).isOk

/-- The candidates of the class with its name; none when it cannot be read. -/
def findings (f : VisibilityFilter) (e : ClassEntry) : List Finding :=
  match ClassFile.parse e.bytes with
  | .ok c => (c.candidates f).map fun x => (e.name, x)
  | .error _ => []

/-- The name of the class with the reason why it cannot be read. -/
def failure? (e : ClassEntry) : Option (String × FormatError) :=
  match ClassFile.parse e.bytes with
  | .ok _ => none
  | .error err => some (e.name, err)

variable {f : VisibilityFilter} {e : ClassEntry}

theorem findings_of_not_isReadable (h : e.isReadable = false) : e.findings f = [] := by
  unfold isReadable at h
  unfold findings
  cases hparse : ClassFile.parse e.bytes with
  | error err => rfl
  | ok c => simp [hparse, Except.isOk, Except.toBool] at h

/-- A class counts as read or as failed. -/
theorem isReadable_or_failure? (e : ClassEntry) :
    (e.isReadable = true ∧ e.failure? = none) ∨
      (e.isReadable = false ∧ ∃ failure, e.failure? = some failure) := by
  unfold isReadable failure?
  cases ClassFile.parse e.bytes with
  | error err => exact .inr ⟨rfl, _, rfl⟩
  | ok c => exact .inl ⟨rfl, rfl⟩

end ClassEntry

/-! ## All classes -/

namespace BatchScan

variable {f : VisibilityFilter} {es es' : List ClassEntry} {text : String}

/-- The findings of all classes, in order. -/
def findings (f : VisibilityFilter) (es : List ClassEntry) : List Finding :=
  es.flatMap (ClassEntry.findings f)

/-- One more class adds its findings, or its failure. -/
theorem step_eq (f : VisibilityFilter) (s : BatchScan) (e : ClassEntry) :
    step f s e =
      { catalogue := s.catalogue.collect (e.findings f)
        scanned := s.scanned + if e.isReadable then 1 else 0
        failures := e.failure?.toList ++ s.failures } := by
  unfold step ClassEntry.findings ClassEntry.isReadable ClassEntry.failure?
  cases ClassFile.parse e.bytes with
  | error err => rfl
  | ok c =>
    simp only [Catalogue.add_eq_collect]
    rfl

theorem foldl_step_eq (f : VisibilityFilter) (s : BatchScan) (es : List ClassEntry) :
    es.foldl (step f) s =
      { catalogue := s.catalogue.collect (findings f es)
        scanned := s.scanned + (es.filter ClassEntry.isReadable).length
        failures := (es.filterMap ClassEntry.failure?).reverse ++ s.failures } := by
  induction es generalizing s with
  | nil => rfl
  | cons e es ih =>
    rw [List.foldl_cons, ih, step_eq, findings, findings, List.flatMap_cons,
      Catalogue.collect_append]
    rcases e.isReadable_or_failure? with ⟨hread, hnone⟩ | ⟨hread, failure, hsome⟩
    · simp [hread, hnone, Nat.add_comm, Nat.add_left_comm]
    · simp [hread, hsome]

/-- A scan collects the findings of all classes, counts those that can be read, and lists the
failures of the others in order. -/
theorem ofEntries_eq (f : VisibilityFilter) (es : List ClassEntry) :
    ofEntries f es =
      { catalogue := ({} : Catalogue).collect (findings f es)
        scanned := (es.filter ClassEntry.isReadable).length
        failures := es.filterMap ClassEntry.failure? } := by
  rw [ofEntries, foldl_step_eq]
  simp

/-! ## The texts of a scan -/

/-- The entry holds a class that can be read and has a candidate with the text. -/
def HasText (f : VisibilityFilter) (text : String) (e : ClassEntry) : Prop :=
  ∃ c, ClassFile.parse e.bytes = .ok c ∧ ∃ x ∈ c.candidates f, x.text = text

theorem hasText_iff {e : ClassEntry} :
    HasText f text e ↔ ∃ x ∈ e.findings f, x.2.text = text := by
  unfold HasText ClassEntry.findings
  cases ClassFile.parse e.bytes with
  | error err => simp
  | ok c => simp

/-- The translatable texts of a scan are those among the texts of all candidates. -/
theorem mem_translatableTexts_iff :
    text ∈ (ofEntries f es).catalogue.translatableTexts f ↔
      f.isTranslatable text = true ∧ ∃ e ∈ es, HasText f text e := by
  have hfound : (∃ x ∈ findings f es, x.2.text = text) ↔ ∃ e ∈ es, HasText f text e := by
    simp only [findings, List.mem_flatMap, hasText_iff]
    constructor
    · rintro ⟨x, ⟨e, he, hx⟩, htext⟩
      exact ⟨e, he, x, hx, htext⟩
    · rintro ⟨e, he, x, hx, htext⟩
      exact ⟨x, ⟨e, he, hx⟩, htext⟩
  rw [ofEntries_eq, Catalogue.mem_translatableTexts_iff (Catalogue.keyed_collect _),
    Catalogue.get?_collect]
  split_ifs with h
  · simp [hfound.1 h]
  · simp [mt hfound.2 h]

/-! ## Scans that find the same -/

/-- Classes that cannot be read have no findings. -/
theorem findings_filter_isReadable (f : VisibilityFilter) (es : List ClassEntry) :
    findings f (es.filter ClassEntry.isReadable) = findings f es := by
  unfold findings
  induction es with
  | nil => rfl
  | cons e es ih =>
    rw [List.flatMap_cons, ← ih]
    cases hread : e.isReadable with
    | true => rw [List.filter_cons_of_pos hread, List.flatMap_cons]
    | false =>
      rw [List.filter_cons_of_neg (by simp [hread]), ClassEntry.findings_of_not_isReadable hread,
        List.nil_append]

/-- The two scans found the same. -/
structure SameFindings (s s' : BatchScan) : Prop where
  scanned : s.scanned = s'.scanned
  /-- The listings show the same texts in the same order, with the same kinds and counts. -/
  listing : s.catalogue.sorted.map (fun e => (e.text, e.kind, e.occurrences)) =
    s'.catalogue.sorted.map fun e => (e.text, e.kind, e.occurrences)
  /-- A text is in neither catalogue, or in both with the same files, in some order. -/
  files : ∀ text, Option.Rel (fun e e' => e.files.Perm e'.files) (s.catalogue.get? text)
    (s'.catalogue.get? text)
  /-- Any filter finds the same texts translatable, in the same order. -/
  translatable : ∀ g, s.catalogue.translatableTexts g = s'.catalogue.translatableTexts g

/-- Scans find the same when the classes that can be read are the same in any order. -/
theorem sameFindings_of_perm
    (h : (es.filter ClassEntry.isReadable).Perm (es'.filter ClassEntry.isReadable)) :
    SameFindings (ofEntries f es) (ofEntries f es') := by
  have hfindings : (findings f es).Perm (findings f es') := by
    rw [← findings_filter_isReadable f es, ← findings_filter_isReadable f es']
    exact h.flatMap_right _
  have hmem : ∀ text, (∃ x ∈ findings f es, x.2.text = text) ↔
      ∃ x ∈ findings f es', x.2.text = text := by
    intro text
    simp only [hfindings.mem_iff]
  have hget : ∀ text,
      ((({} : Catalogue).collect (findings f es)).get? text).map CatalogueEntry.summary =
        ((({} : Catalogue).collect (findings f es')).get? text).map CatalogueEntry.summary := by
    intro text
    rw [Catalogue.get?_collect, Catalogue.get?_collect]
    simp only [hmem]
    split_ifs
    · simp only [Option.map_some, CatalogueEntry.summary, CatalogueEntry.text_collect,
        CatalogueEntry.kind_collect, CatalogueEntry.occurrences_collect_eq_of_perm hfindings]
    · rfl
  have hlisting := Catalogue.map_summary_sorted_eq (Catalogue.keyed_collect (findings f es))
    (Catalogue.keyed_collect (findings f es')) hget
  rw [ofEntries_eq, ofEntries_eq]
  refine ⟨h.length_eq, hlisting, ?_, ?_⟩
  · intro text
    simp only [Catalogue.get?_collect, hmem]
    split_ifs
    · exact .some (CatalogueEntry.files_collect_perm hfindings text)
    · exact .none
  · intro g
    rw [Catalogue.translatableTexts_eq, Catalogue.translatableTexts_eq, hlisting]

/-- Every class is counted once. -/
theorem length_filter_isReadable_add (es : List ClassEntry) :
    (es.filter ClassEntry.isReadable).length + (es.filterMap ClassEntry.failure?).length =
      es.length := by
  induction es with
  | nil => rfl
  | cons e es ih =>
    rcases e.isReadable_or_failure? with ⟨hread, hnone⟩ | ⟨hread, failure, hsome⟩
    · simp only [List.filter_cons, List.filterMap_cons, hread, hnone, if_true, List.length_cons]
      omega
    · simp only [List.filter_cons, List.filterMap_cons, hread, hsome, List.length_cons]
      simp only [Bool.false_eq_true, if_false]
      omega

/-- **A scan finds the same in every order of the classes, and without those that cannot be read.**
Two lists of classes have the same findings when one is a permutation of the other, or differs from
it by classes that cannot be read, wherever these stand. Every class is scanned or fails, and the
failures are the classes that cannot be read, in order and with the reasons. -/
theorem findings_insensitive_to_order (f : VisibilityFilter) (es : List ClassEntry) :
    (∀ es', es.Perm es' → SameFindings (ofEntries f es) (ofEntries f es')) ∧
      (∀ es', es.filter ClassEntry.isReadable = es'.filter ClassEntry.isReadable →
        SameFindings (ofEntries f es) (ofEntries f es')) ∧
      (ofEntries f es).scanned + (ofEntries f es).failures.length = es.length ∧
      (ofEntries f es).failures = es.filterMap fun e =>
        match ClassFile.parse e.bytes with
        | .ok _ => none
        | .error err => some (e.name, err) := by
  refine ⟨fun es' h => ?_, fun es' h => ?_, ?_, ?_⟩
  · exact sameFindings_of_perm (h.filter _)
  · exact sameFindings_of_perm (h ▸ List.Perm.refl _)
  · rw [ofEntries_eq]
    exact length_filter_isReadable_add es
  · rw [ofEntries_eq]
    rfl

/-- Two classes with the same texts, and a file without any bytes. -/
def greetings : List ClassEntry :=
  [⟨"A", ClassFile.greeting.toBytes⟩, ⟨"Empty", []⟩, ⟨"B", ClassFile.greeting.toBytes⟩]

theorem findings_insensitive_to_order_greetings :
    greetings.Perm greetings.reverse ∧
      SameFindings (ofEntries ⟨2, []⟩ greetings) (ofEntries ⟨2, []⟩ greetings.reverse) ∧
      greetings.filter ClassEntry.isReadable =
        (greetings.eraseIdx 1).filter ClassEntry.isReadable ∧
      SameFindings (ofEntries ⟨2, []⟩ greetings) (ofEntries ⟨2, []⟩ (greetings.eraseIdx 1)) := by
  obtain ⟨hperm, hreadable, -, -⟩ := findings_insensitive_to_order ⟨2, []⟩ greetings
  have hreverse : greetings.Perm greetings.reverse := greetings.reverse_perm.symm
  have hfilter : greetings.filter ClassEntry.isReadable =
      (greetings.eraseIdx 1).filter ClassEntry.isReadable := by decide +kernel
  exact ⟨hreverse, hperm _ hreverse, hfilter, hreadable _ hfilter⟩

end BatchScan
end ClassLiterals
