import ClassLiterals.Rewrite
import ClassLiterals.Proofs.Class.RoundTrip
import ClassLiterals.Proofs.Pool.Update
import ClassLiterals.Proofs.Rewrite.Candidates

/-!
# What a rewrite changes

A rewrite of a class that can be read never fails, and what it writes can be read: it is the class
with another pool. The slots of that pool are those of the class, except that an entry that some
method loads as a visible text, that the class does not use otherwise, and for whose text the
dictionary has another one that fits, has that other text.

Main results: `rewriteClass_of_parse`, and `RewrittenPool` for the change of the pool.
-/

namespace ClassLiterals

open ClassFile

/-! ## What becomes of a candidate -/

theorem Pool.entryFor_of_text? {p : Pool} {i : UInt16} {text : String} (h : p.text? i = some text)
    (new : String) : p.entryFor i new =
      if Utf8.Fits new then .ok (Utf8.encoded new)
      else .error (.textTooLong (ModifiedUtf8.encode new).length) := by
  obtain ⟨entry, hentry, -⟩ := text?_eq_some_iff.1 h
  rw [entryFor, hentry]
  split_ifs with hfits
  · simp only [Utf8.ofText_of_fits hfits]
  · simp only [Utf8.ofText_of_not_fits hfits]

namespace Candidate

variable {d : Dictionary} {p : Pool} {x : Candidate}

theorem replacement?_eq_some_iff {new : String} :
    x.replacement? d = some new ↔ d x.text = some new ∧ new ≠ x.text := by
  rw [replacement?, Option.filter_eq_some_iff]
  simp

/-- A candidate whose index names its text never fails. -/
theorem fate_eq (h : p.text? x.textIndex = some x.text) : x.fate d p =
    match x.replacement? d with
    | none => .kept
    | some new =>
      if x.shared then .shared
      else if Utf8.Fits new then .replaced new
      else .tooLong (ModifiedUtf8.encode new).length := by
  rw [fate]
  cases x.replacement? d with
  | none => rfl
  | some new =>
    dsimp only
    split_ifs with hshared hfits
    · rfl
    · simp only [Pool.entryFor_of_text? h, if_pos hfits]
    · simp only [Pool.entryFor_of_text? h, if_neg hfits]

theorem fate_ne_failed (h : p.text? x.textIndex = some x.text) (e : PoolError) :
    x.fate d p ≠ .failed e := by
  rw [fate_eq h]
  cases x.replacement? d with
  | none => simp
  | some new =>
    dsimp only
    split_ifs <;> simp

theorem fate_eq_replaced_iff (h : p.text? x.textIndex = some x.text) {new : String} :
    x.fate d p = .replaced new ↔
      (d x.text = some new ∧ new ≠ x.text) ∧ x.shared = false ∧ Utf8.Fits new := by
  rw [fate_eq h, ← replacement?_eq_some_iff]
  cases x.replacement? d with
  | none => simp
  | some text =>
    dsimp only
    split_ifs with hshared hfits
    · simp [hshared]
    · constructor
      · intro heq
        cases heq
        exact ⟨rfl, by simpa using hshared, hfits⟩
      · rintro ⟨heq, -, -⟩
        cases heq
        rfl
    · simp only [false_iff]
      rintro ⟨heq, -, hnew⟩
      cases heq
      exact hfits hnew

end Candidate

/-! ## All candidates -/

namespace Applied

variable {d : Dictionary} {p : Pool} {xs : List Candidate}

/-- The replacements among the fates of the candidates. -/
def replacements (d : Dictionary) (p : Pool) (xs : List Candidate) : List Replacement :=
  (fates d p xs).filterMap replacementOf?

theorem mem_replacements {r : Replacement} :
    r ∈ replacements d p xs ↔
      ∃ x ∈ xs, x.fate d p = .replaced r.new ∧ x.textIndex = r.textIndex ∧ x.text = r.old := by
  rw [replacements, fates, List.filterMap_map, List.mem_filterMap]
  refine exists_congr fun x => and_congr_right fun _ => ?_
  rw [Function.comp_apply]
  cases hfate : x.fate d p with
  | replaced new =>
    cases r
    simp only [replacementOf?, Option.some.injEq, Replacement.mk.injEq, Fate.replaced.injEq]
    tauto
  | _ => simp [replacementOf?]

/-- The replacements name entries in the order of the candidates. -/
theorem map_textIndex_replacements_sublist (d : Dictionary) (p : Pool) (xs : List Candidate) :
    ((replacements d p xs).map Replacement.textIndex).Sublist (xs.map Candidate.textIndex) := by
  induction xs with
  | nil => exact List.Sublist.refl []
  | cons x xs ih =>
    rw [replacements, fates, List.map_cons, List.filterMap_cons, List.map_cons]
    cases x.fate d p with
    | replaced new => exact ih.cons_cons x.textIndex
    | _ => exact ih.cons x.textIndex

/-- When the candidates have the texts of their entries, nothing fails, and the outcome is that of
the replacements. -/
theorem failure_ofCandidates (h : ∀ x ∈ xs, p.text? x.textIndex = some x.text) :
    (ofCandidates d p xs).failure = none := by
  rw [ofCandidates, List.findSome?_eq_none_iff]
  intro y hy
  obtain ⟨x, hx, rfl⟩ := List.mem_map.1 hy
  cases hfate : x.fate d p with
  | failed e => exact absurd hfate (Candidate.fate_ne_failed (h x hx) e)
  | _ => rfl

/-- All candidates are worked on when none of them fails. -/
theorem takeWhile_fates_eq_self_iff :
    (fates d p xs).takeWhile (fun y => (failureOf? y).isNone) = fates d p xs ↔
      (ofCandidates d p xs).failure = none := by
  rw [List.takeWhile_eq_self_iff, ofCandidates, List.findSome?_eq_none_iff]
  simp only [Option.isNone_iff_eq_none]

theorem replacements_ofCandidates (h : ∀ x ∈ xs, p.text? x.textIndex = some x.text) :
    (ofCandidates d p xs).report.replacements = replacements d p xs := by
  have hall := takeWhile_fates_eq_self_iff.2 (failure_ofCandidates (d := d) h)
  rw [ofCandidates]
  simp only [hall]
  rfl

theorem pool_ofCandidates (h : ∀ x ∈ xs, p.text? x.textIndex = some x.text) :
    (ofCandidates d p xs).pool = (replacements d p xs).foldl replaceIn p := by
  rw [← replacements_ofCandidates h]
  rfl

/-! ## The changed pool -/

variable {r : Replacement} {rs : List Replacement} {i : UInt16} {text : String}

theorem replaceIn_of_fits (h : p.text? r.textIndex = some text) (hfits : Utf8.Fits r.new) :
    replaceIn p r = p.setSlot r.textIndex (.utf8 (.encoded r.new)) := by
  rw [replaceIn, Pool.entryFor_of_text? h, if_pos hfits]

/-- One replacement leaves all other slots as they are. -/
theorem slot?_replaceIn_of_ne (hi : i ≠ r.textIndex) :
    (replaceIn p r).slot? i = p.slot? i := by
  rw [replaceIn]
  cases hget : p.get? r.textIndex with
  | none => simp only [Pool.entryFor, hget]
  | some k =>
    cases p.entryFor r.textIndex r.new with
    | error e => rfl
    | ok entry => exact Pool.slot?_setSlot_of_ne (Pool.ne_zero_of_get? hget) hi _

/-- One replacement keeps a well-formed pool well-formed. -/
theorem wellFormed_replaceIn (hp : p.WellFormed) (h : p.text? r.textIndex = some text)
    (hfits : Utf8.Fits r.new) : (replaceIn p r).WellFormed := by
  obtain ⟨entry, hentry, -⟩ := Pool.text?_eq_some_iff.1 h
  rw [replaceIn_of_fits h hfits]
  exact hp.setSlot hentry (Utf8.wellFormed_encoded hfits)

theorem slot?_foldl_replaceIn_of_notMem (hi : i ∉ rs.map Replacement.textIndex) :
    (rs.foldl replaceIn p).slot? i = p.slot? i := by
  induction rs generalizing p with
  | nil => rfl
  | cons r rs ih =>
    rw [List.map_cons, List.mem_cons, not_or] at hi
    rw [List.foldl_cons, ih hi.2, slot?_replaceIn_of_ne hi.1]

/-- Replacements of different text entries of `p`, each with a text that fits. -/
structure Admissible (p : Pool) (rs : List Replacement) : Prop where
  nodup : (rs.map Replacement.textIndex).Nodup
  text?_eq : ∀ r ∈ rs, p.text? r.textIndex = some r.old
  fits : ∀ r ∈ rs, Utf8.Fits r.new

namespace Admissible

/-- The entry that a replacement is for. -/
theorem exists_entry (h : Admissible p rs) (hr : r ∈ rs) :
    ∃ entry, p.get? r.textIndex = some (.utf8 entry) ∧ entry.text = r.old :=
  Pool.text?_eq_some_iff.1 (h.text?_eq r hr)

theorem notMem (h : Admissible p (r :: rs)) : r.textIndex ∉ rs.map Replacement.textIndex :=
  (List.nodup_cons.1 h.nodup).1

/-- The first replacement leaves the entries of the other ones as they are. -/
theorem slot?_replaceIn (h : Admissible p (r :: rs)) {s : Replacement} (hs : s ∈ rs) :
    (replaceIn p r).slot? s.textIndex = p.slot? s.textIndex :=
  slot?_replaceIn_of_ne fun heq => h.notMem (List.mem_map.2 ⟨s, hs, heq⟩)

theorem replaceIn_eq (h : Admissible p (r :: rs)) :
    replaceIn p r = p.setSlot r.textIndex (.utf8 (.encoded r.new)) :=
  replaceIn_of_fits (h.text?_eq r List.mem_cons_self) (h.fits r List.mem_cons_self)

/-- After the first replacement the other ones are as admissible as before. -/
theorem tail (h : Admissible p (r :: rs)) : Admissible (replaceIn p r) rs where
  nodup := (List.nodup_cons.1 h.nodup).2
  text?_eq s hs := by
    rw [Pool.text?_congr (h.slot?_replaceIn hs)]
    exact h.text?_eq s (List.mem_cons_of_mem r hs)
  fits s hs := h.fits s (List.mem_cons_of_mem r hs)

end Admissible

/-- Admissible replacements are all made. -/
theorem Admissible.get?_foldl_replaceIn (h : Admissible p rs) (hr : r ∈ rs) :
    (rs.foldl replaceIn p).get? r.textIndex = some (.utf8 (.encoded r.new)) := by
  induction rs generalizing p with
  | nil => exact absurd hr List.not_mem_nil
  | cons s rs ih =>
    rcases List.mem_cons.1 hr with rfl | hr
    · obtain ⟨entry, hentry, -⟩ := h.exists_entry List.mem_cons_self
      rw [List.foldl_cons, Pool.get?_eq_some_iff, slot?_foldl_replaceIn_of_notMem h.notMem,
        h.replaceIn_eq]
      exact ⟨Pool.slot?_setSlot_self (Pool.get?_eq_some_iff.1 hentry).1 _, by simp⟩
    · exact ih h.tail hr

theorem Admissible.wellFormed_foldl_replaceIn (h : Admissible p rs) (hp : p.WellFormed) :
    (rs.foldl replaceIn p).WellFormed := by
  induction rs generalizing p with
  | nil => exact hp
  | cons r rs ih =>
    have hr : p.text? r.textIndex = some r.old := h.text?_eq r List.mem_cons_self
    exact ih h.tail (wellFormed_replaceIn hp hr (h.fits r List.mem_cons_self))

theorem foldl_replaceIn_spec (hp : p.WellFormed) (h : Admissible p rs) :
    (rs.foldl replaceIn p).WellFormed ∧
      ∀ r ∈ rs, (rs.foldl replaceIn p).get? r.textIndex = some (.utf8 (.encoded r.new)) :=
  ⟨h.wellFormed_foldl_replaceIn hp, fun _ hr => h.get?_foldl_replaceIn hr⟩

end Applied

/-! ## Classes -/

namespace ClassFile

variable {f : VisibilityFilter} {d : Dictionary} {c : ClassFile} {bs : Bytes}

/-- A rewrite gives the entry at `i` the text `new`. -/
structure Rewrites (f : VisibilityFilter) (d : Dictionary) (c : ClassFile) (i : UInt16)
    (new : String) : Prop where
  /-- Some method loads the entry, its text is visible and has another text in the dictionary. -/
  loaded : ∃ l ∈ c.loads, l.textIndex = i ∧ f.isVisible l.text = true ∧ d l.text = some new ∧
    new ≠ l.text
  unshared : i ∉ c.structuralIndices
  fits : Utf8.Fits new

/-- `p` is the pool of `c` after a rewrite. -/
structure RewrittenPool (f : VisibilityFilter) (d : Dictionary) (c : ClassFile) (p : Pool) :
    Prop where
  changed {i : UInt16} {new : String} (h : c.Rewrites f d i new) :
    p.get? i = some (.utf8 (.encoded new))
  kept {i : UInt16} (h : ∀ new, ¬ c.Rewrites f d i new) : p.slot? i = c.pool.slot? i

/-- What is rewritten is a text entry. -/
theorem Rewrites.text?_ne_none {i : UInt16} {new : String} (h : c.Rewrites f d i new) :
    c.pool.text? i ≠ none := by
  obtain ⟨l, hl, rfl, -⟩ := h.loaded
  rw [text?_of_mem_loads hl]
  exact Option.some_ne_none _

namespace RewrittenPool

variable {p : Pool} {i : UInt16}

theorem slot?_of_structural (h : c.RewrittenPool f d p) (hi : i ∈ c.structuralIndices) :
    p.slot? i = c.pool.slot? i :=
  h.kept fun _ hrewrites => hrewrites.unshared hi

theorem slot?_of_text?_eq_none (h : c.RewrittenPool f d p) (hi : c.pool.text? i = none) :
    p.slot? i = c.pool.slot? i :=
  h.kept fun _ hrewrites => hrewrites.text?_ne_none hi

theorem text?_of_rewrites {new : String} (h : c.RewrittenPool f d p)
    (hnew : c.Rewrites f d i new) : p.text? i = some new := by
  rw [Pool.text?, h.changed hnew]
  rfl

theorem text?_of_not_rewrites (h : c.RewrittenPool f d p) (hi : ¬ ∃ new, c.Rewrites f d i new) :
    p.text? i = c.pool.text? i :=
  Pool.text?_congr (h.kept (not_exists.1 hi))

/-- The entries with another text are those that are rewritten. -/
theorem text?_ne_iff (h : c.RewrittenPool f d p) :
    p.text? i ≠ c.pool.text? i ↔ ∃ new, c.Rewrites f d i new := by
  constructor
  · intro hne
    by_contra hnot
    exact hne (h.text?_of_not_rewrites hnot)
  · rintro ⟨new, hnew⟩ heq
    obtain ⟨l, hl, rfl, -, -, hne⟩ := hnew.loaded
    rw [h.text?_of_rewrites hnew, text?_of_mem_loads hl] at heq
    exact hne (Option.some.inj heq)

end RewrittenPool

theorem text?_of_mem_candidates {x : Candidate} (hx : x ∈ c.candidates f) :
    c.pool.text? x.textIndex = some x.text := by
  obtain ⟨l, hl, -, hindex, htext, -⟩ := exists_load_of_mem_candidates hx
  rw [← hindex, ← htext]
  exact text?_of_mem_loads hl

/-- The replacements are what the rewrite does. -/
theorem rewrites_iff {i : UInt16} {new : String} :
    c.Rewrites f d i new ↔
      ∃ r ∈ Applied.replacements d c.pool (c.candidates f), r.textIndex = i ∧ r.new = new := by
  constructor
  · rintro ⟨⟨l, hl, rfl, hvisible, hd, hne⟩, hunshared, hfits⟩
    obtain ⟨x, hx, hindex⟩ := exists_mem_candidates hl hvisible
    obtain ⟨k, hk, -, hkindex, hktext, hshared⟩ := exists_load_of_mem_candidates hx
    have htext : x.text = l.text :=
      hktext.symm.trans (text_eq_of_mem_loads hk hl (hkindex.trans hindex))
    have hx' : x.shared = false := by
      rw [← Bool.not_eq_true, hshared, hkindex, hindex]
      exact hunshared
    refine ⟨⟨l.textIndex, l.text, new⟩, Applied.mem_replacements.2 ⟨x, hx, ?_, hindex, htext⟩, rfl,
      rfl⟩
    rw [Candidate.fate_eq_replaced_iff (text?_of_mem_candidates hx), htext]
    exact ⟨⟨hd, hne⟩, hx', hfits⟩
  · rintro ⟨r, hr, rfl, rfl⟩
    obtain ⟨x, hx, hfate, hindex, -⟩ := Applied.mem_replacements.1 hr
    obtain ⟨l, hl, hvisible, hlindex, hltext, hshared⟩ := exists_load_of_mem_candidates hx
    obtain ⟨⟨hd, hne⟩, hx', hfits⟩ :=
      (Candidate.fate_eq_replaced_iff (text?_of_mem_candidates hx)).1 hfate
    rw [← hltext] at hd hne
    refine ⟨⟨l, hl, hlindex.trans hindex, hvisible, hd, hne⟩, ?_, hfits⟩
    rw [← hindex, ← hlindex, ← hshared, hx']
    exact Bool.false_ne_true

/-! ### The replacements of a rewrite -/

theorem admissible_replacements (f : VisibilityFilter) (d : Dictionary) (c : ClassFile) :
    Applied.Admissible c.pool (Applied.replacements d c.pool (c.candidates f)) where
  nodup := (candidates_summarise f c).nodup.sublist
    (Applied.map_textIndex_replacements_sublist d _ _)
  text?_eq r hr := by
    obtain ⟨x, hx, -, hindex, hold⟩ := Applied.mem_replacements.1 hr
    rw [← hindex, ← hold]
    exact text?_of_mem_candidates hx
  fits r hr := (rewrites_iff.2 ⟨r, hr, rfl, rfl⟩).fits

/-- The replacements make a well-formed pool, changed as the rewrite says. -/
theorem rewrittenPool_replacements (hc : c.WellFormed) :
    ((Applied.replacements d c.pool (c.candidates f)).foldl Applied.replaceIn c.pool).WellFormed ∧
      c.RewrittenPool f d
        ((Applied.replacements d c.pool (c.candidates f)).foldl Applied.replaceIn c.pool) := by
  obtain ⟨hwf, hget⟩ := Applied.foldl_replaceIn_spec hc.pool (admissible_replacements f d c)
  refine ⟨hwf, ⟨fun hrewrites => ?_, fun hi => ?_⟩⟩
  · obtain ⟨r, hr, rfl, rfl⟩ := rewrites_iff.1 hrewrites
    exact hget r hr
  · refine Applied.slot?_foldl_replaceIn_of_notMem fun hmem => ?_
    obtain ⟨r, hr, rfl⟩ := List.mem_map.1 hmem
    exact hi r.new (rewrites_iff.2 ⟨r, hr, rfl, rfl⟩)

/-- A rewrite of a class that can be read succeeds. It reports the replacements, and writes the
class with the pool that they make. -/
theorem exists_rewriteClass_eq (h : parse bs = .ok c) (f : VisibilityFilter) (d : Dictionary) :
    ∃ r, rewriteClass f d bs = .ok r ∧
      r.report.replacements = Applied.replacements d c.pool (c.candidates f) ∧
      r.bytes = { c with
        pool := (Applied.replacements d c.pool (c.candidates f)).foldl Applied.replaceIn
          c.pool }.toBytes := by
  have hxs : ∀ x ∈ c.candidates f, c.pool.text? x.textIndex = some x.text :=
    fun x hx => text?_of_mem_candidates hx
  rw [rewriteClass, h]
  dsimp only
  rw [Applied.failure_ofCandidates hxs]
  refine ⟨_, rfl, Applied.replacements_ofCandidates hxs, ?_⟩
  dsimp only
  rw [RewriteReport.isModified, Applied.pool_ofCandidates hxs,
    Applied.replacements_ofCandidates hxs]
  split_ifs with hmodified
  · rfl
  · -- Nothing is replaced: the pool and the bytes are those of the class.
    have hnil : Applied.replacements d c.pool (c.candidates f) = [] := by simpa using hmodified
    rw [hnil]
    exact (parse_eq_ok_iff.1 h).2

/-- What a rewrite writes is read as the class with the pool that the reported replacements make. -/
theorem parse_rewriteClass (h : parse bs = .ok c) (f : VisibilityFilter) (d : Dictionary) :
    ∃ r, rewriteClass f d bs = .ok r ∧ Applied.Admissible c.pool r.report.replacements ∧
      parse r.bytes =
        .ok { c with pool := r.report.replacements.foldl Applied.replaceIn c.pool } ∧
      c.RewrittenPool f d (r.report.replacements.foldl Applied.replaceIn c.pool) := by
  have hc : c.WellFormed := (parse_eq_ok_iff.1 h).1
  obtain ⟨hwf, hpool⟩ := rewrittenPool_replacements (f := f) (d := d) hc
  obtain ⟨r, hr, hreport, hbytes⟩ := exists_rewriteClass_eq h f d
  rw [← hreport] at hwf hpool hbytes
  refine ⟨r, hr, ?_, ?_, hpool⟩
  · rw [hreport]
    exact admissible_replacements f d c
  · rw [hbytes]
    exact parse_toBytes (hc.withPool hwf)

/-- A rewrite of a class that can be read gives the class with a rewritten pool. -/
theorem rewriteClass_of_parse (h : parse bs = .ok c) (f : VisibilityFilter) (d : Dictionary) :
    ∃ r p, rewriteClass f d bs = .ok r ∧ parse r.bytes = .ok { c with pool := p } ∧
      c.RewrittenPool f d p := by
  obtain ⟨r, hr, -, hparse, hpool⟩ := parse_rewriteClass h f d
  exact ⟨r, _, hr, hparse, hpool⟩

end ClassFile
end ClassLiterals
