import ClassLiterals.Proofs.Rewrite.Splicing

/-!
# How a rewrite parts its candidates

The candidates are given their texts one after the other, each in the pool that the replacements
before it have left. A replacement can only fail for an entry that is no text entry, and
replacements leave text entries what they are. So what becomes of a candidate can be told from the
pool at the start, and since candidates are text entries, nothing fails.

The candidates with another text in the dictionary are parted into those that are shared, those
whose replacements are too long, and those that are replaced.

Main results: `ofCandidates_eq_foldl` and `rewriteClass_parts_candidates`.
-/

namespace ClassLiterals

open ClassFile

theorem Pool.get?_of_entryFor {p : Pool} {i : UInt16} {text : String} {entry : Utf8}
    (h : p.entryFor i text = .ok entry) : ∃ old, p.get? i = some (.utf8 old) := by
  rw [entryFor] at h
  split at h
  · exact ⟨_, ‹_›⟩
  · cases h
  · cases h

/-! ## One candidate after the other -/

namespace Applied

variable {d : Dictionary} {p : Pool} {xs : List Candidate} {x : Candidate} {done : Applied}

/-- Nothing done yet. -/
def start (p : Pool) : Applied := ⟨p, {}, [], none⟩

/-- Gives one more candidate its text, in the pool as it is by then, unless the work has ended. -/
def step (d : Dictionary) (done : Applied) (x : Candidate) : Applied :=
  if done.failure.isSome then done
  else
    match x.replacement? d with
    | none => done
    | some new =>
      if x.shared then
        { done with
          report := { done.report with
            skippedShared := done.report.skippedShared ++ [x.textIndex] } }
      else
        match done.pool.setText x.textIndex new with
        | .ok pool =>
          { done with
            pool
            report := { done.report with
              replacements := done.report.replacements ++ [⟨x.textIndex, x.text, new⟩] } }
        | .error (.textTooLong size) =>
          { done with
            report := { done.report with tooLong := done.report.tooLong ++ [x.textIndex] }
            warnings := done.warnings ++ [.replacementTooLong x.textIndex size x.text] }
        | .error e => { done with failure := some e }

/-- What is done when a candidate has met its fate. -/
def meet (done : Applied) (y : Candidate × Fate) : Applied where
  pool := (replacementOf? y).toList.foldl replaceIn done.pool
  report :=
    { replacements := done.report.replacements ++ (replacementOf? y).toList
      skippedShared := done.report.skippedShared ++ (sharedOf? y).toList
      tooLong := done.report.tooLong ++ (tooLongOf? y).toList.map (·.1) }
  warnings := done.warnings ++ (tooLongOf? y).toList.map (·.2)
  failure := failureOf? y

theorem step_eq_meet (h : done.failure = none) :
    step d done x = done.meet (x, x.fate d done.pool) := by
  rw [step, if_neg (by simp [h]), Candidate.fate]
  cases x.replacement? d with
  | none => simp [meet, replacementOf?, sharedOf?, tooLongOf?, failureOf?, ← h]
  | some new =>
    dsimp only
    by_cases hshared : x.shared = true
    · rw [if_pos hshared, if_pos hshared]
      simp [meet, replacementOf?, sharedOf?, tooLongOf?, failureOf?, h]
    · rw [if_neg hshared, if_neg hshared, Pool.setText]
      cases hentry : done.pool.entryFor x.textIndex new with
      | ok entry =>
        have hreplace : replaceIn done.pool ⟨x.textIndex, x.text, new⟩ =
            done.pool.setSlot x.textIndex (.utf8 entry) := by
          simp only [replaceIn, hentry]
        simp [meet, replacementOf?, sharedOf?, tooLongOf?, failureOf?, h, hreplace]
      | error e =>
        cases e <;> simp [meet, replacementOf?, sharedOf?, tooLongOf?, failureOf?, h]

/-! ### The fates do not depend on what was replaced -/

/-- A replacement makes no entry one of another kind. -/
theorem entryFor_replaceIn (p : Pool) (r : Replacement) (i : UInt16) (text : String) :
    (replaceIn p r).entryFor i text = p.entryFor i text := by
  rw [replaceIn]
  cases hentry : p.entryFor r.textIndex r.new with
  | error e => rfl
  | ok entry =>
    -- The replaced entry is a text entry before and after; the other slots stay as they are.
    obtain ⟨old, hold⟩ := Pool.get?_of_entryFor hentry
    have hslot := (Pool.get?_eq_some_iff.1 hold).1
    dsimp only
    by_cases hi : i = r.textIndex
    · have hnew : (p.setSlot i (.utf8 entry)).get? i = some (.utf8 entry) := by
        rw [Pool.get?_eq_some_iff, hi]
        exact ⟨Pool.slot?_setSlot_self hslot _, by simp⟩
      rw [← hi] at hold ⊢
      rw [Pool.entryFor, Pool.entryFor, hnew, hold]
    · have hother : (p.setSlot r.textIndex (.utf8 entry)).get? i = p.get? i :=
        Pool.get?_congr (Pool.slot?_setSlot_of_ne (Pool.ne_zero_of_get? hold) hi _)
      rw [Pool.entryFor, Pool.entryFor, hother]

theorem entryFor_foldl_replaceIn (p : Pool) (rs : List Replacement) (i : UInt16) (text : String) :
    (rs.foldl replaceIn p).entryFor i text = p.entryFor i text := by
  induction rs generalizing p with
  | nil => rfl
  | cons r rs ih => rw [List.foldl_cons, ih, entryFor_replaceIn]

theorem fate_congr {q : Pool}
    (h : ∀ i text, q.entryFor i text = p.entryFor i text) : x.fate d q = x.fate d p := by
  rw [Candidate.fate, Candidate.fate]
  simp only [h]

/-- A fate is nothing else than a failure when it is one. -/
theorem eq_none_of_failed {y : Candidate × Fate} {e : PoolError} (h : failureOf? y = some e) :
    replacementOf? y = none ∧ sharedOf? y = none ∧ tooLongOf? y = none := by
  obtain ⟨x, fate⟩ := y
  cases fate with
  | failed e => exact ⟨rfl, rfl, rfl⟩
  | _ => cases h

theorem fates_concat (d : Dictionary) (p : Pool) (xs : List Candidate) (x : Candidate) :
    fates d p (xs ++ [x]) = fates d p xs ++ [(x, x.fate d p)] :=
  List.map_append

/-- After a failure, one more candidate makes no difference. -/
theorem ofCandidates_concat_of_failed (h : (ofCandidates d p xs).failure ≠ none) (x : Candidate) :
    ofCandidates d p (xs ++ [x]) = ofCandidates d p xs := by
  have hshort : ((fates d p xs).takeWhile fun y => (failureOf? y).isNone).length ≠
      (fates d p xs).length := by
    intro hlen
    exact h (takeWhile_fates_eq_self_iff.1 ((List.takeWhile_prefix _).eq_of_length hlen))
  have hfailure : (fates d p (xs ++ [x])).findSome? failureOf? =
      (fates d p xs).findSome? failureOf? := by
    rw [fates_concat, List.findSome?_append]
    exact Option.or_of_isSome (Option.isSome_iff_ne_none.2 h)
  rw [ofCandidates, ofCandidates]
  simp only [hfailure]
  simp only [fates_concat, List.takeWhile_append, if_neg hshort]

/-- As long as nothing has failed, one more candidate meets its fate. -/
theorem ofCandidates_concat (h : (ofCandidates d p xs).failure = none) (x : Candidate) :
    ofCandidates d p (xs ++ [x]) = (ofCandidates d p xs).meet (x, x.fate d p) := by
  have hall := takeWhile_fates_eq_self_iff.2 h
  -- The candidates that are worked on are those from before, and the new one unless it fails.
  have hdone : ∀ {β : Type} (g : Candidate × Fate → Option β),
      (∀ e, failureOf? (x, x.fate d p) = some e → g (x, x.fate d p) = none) →
        ((fates d p (xs ++ [x])).takeWhile fun y => (failureOf? y).isNone).filterMap g =
          (fates d p xs).filterMap g ++ (g (x, x.fate d p)).toList := by
    intro β g hg
    rw [fates_concat, List.takeWhile_append, if_pos (congrArg List.length hall),
      List.filterMap_append]
    cases hfailure : failureOf? (x, x.fate d p) with
    | none =>
      rw [List.takeWhile_cons_of_pos (by rw [hfailure]; rfl), List.takeWhile_nil]
      cases hnew : g (x, x.fate d p) <;> simp [hnew]
    | some e =>
      rw [List.takeWhile_cons_of_neg (by rw [hfailure]; exact Bool.false_ne_true), hg e hfailure]
      rfl
  have hfailure : (fates d p (xs ++ [x])).findSome? failureOf? = failureOf? (x, x.fate d p) := by
    rw [fates_concat, List.findSome?_append, List.findSome?_singleton]
    exact congrArg (Option.or · _) h
  rw [ofCandidates, hfailure]
  simp only [hdone replacementOf? fun e he => (eq_none_of_failed he).1,
    hdone sharedOf? fun e he => (eq_none_of_failed he).2.1,
    hdone tooLongOf? fun e he => (eq_none_of_failed he).2.2]
  rw [ofCandidates, meet]
  simp only [hall, List.foldl_append, List.map_append]

/-- **Fates are met one after the other.**  To tell what becomes of the candidates from the pool at
the start is to give them their texts in turn, each in the pool that is there by then. -/
theorem ofCandidates_eq_foldl (d : Dictionary) (p : Pool) (xs : List Candidate) :
    ofCandidates d p xs = xs.foldl (step d) (start p) := by
  induction xs using List.reverseRecOn with
  | nil => rfl
  | append_singleton xs x ih =>
    rw [List.foldl_append, List.foldl_cons, List.foldl_nil, ← ih]
    by_cases hfailure : (ofCandidates d p xs).failure = none
    · have hfate : x.fate d (ofCandidates d p xs).pool = x.fate d p :=
        fate_congr (entryFor_foldl_replaceIn p _)
      rw [ofCandidates_concat hfailure, step_eq_meet hfailure, hfate]
    · rw [ofCandidates_concat_of_failed hfailure, step,
        if_pos (Option.isSome_iff_ne_none.2 hfailure)]

end Applied

/-! ## The report -/

namespace RewriteReport

variable {d : Dictionary} {xs : List Candidate} {r : RewriteReport}

/-- The entries in a report. -/
def entries (r : RewriteReport) : List UInt16 :=
  r.skippedShared ++ r.tooLong ++ r.replacements.map Replacement.textIndex

/-- The report parts the candidates whose texts have other texts in the dictionary, in their order:
each of them is skipped because it is shared, or its replacement is too long, or it is replaced. -/
inductive Splits (d : Dictionary) : List Candidate → RewriteReport → Prop where
  | nil : Splits d [] {}
  | kept {x xs r} (hkept : ∀ new, d x.text = some new → new = x.text) (hrest : Splits d xs r) :
      Splits d (x :: xs) r
  | shared {x xs r new} (hd : d x.text = some new) (hne : new ≠ x.text) (hshared : x.shared = true)
      (hrest : Splits d xs r) :
      Splits d (x :: xs) { r with skippedShared := x.textIndex :: r.skippedShared }
  | tooLong {x xs r new} (hd : d x.text = some new) (hne : new ≠ x.text)
      (hshared : x.shared = false) (hsize : 65535 < (ModifiedUtf8.encode new).length)
      (hrest : Splits d xs r) :
      Splits d (x :: xs) { r with tooLong := x.textIndex :: r.tooLong }
  | replaced {x xs r new} (hd : d x.text = some new) (hne : new ≠ x.text)
      (hshared : x.shared = false) (hsize : (ModifiedUtf8.encode new).length ≤ 65535)
      (hrest : Splits d xs r) :
      Splits d (x :: xs)
        { r with replacements := ⟨x.textIndex, x.text, new⟩ :: r.replacements }

/-- Whether the dictionary has another text for a candidate. -/
def isTranslated (d : Dictionary) (x : Candidate) : Bool := (x.replacement? d).isSome

theorem isTranslated_of_ne {x : Candidate} {new : String} (hd : d x.text = some new)
    (hne : new ≠ x.text) : isTranslated d x = true := by
  rw [isTranslated, Candidate.replacement?_eq_some_iff.2 ⟨hd, hne⟩]
  rfl

theorem isTranslated_of_kept {x : Candidate} (h : ∀ new, d x.text = some new → new = x.text) :
    isTranslated d x = false := by
  rw [isTranslated, Option.isSome_eq_false_iff, Option.isNone_iff_eq_none,
    Option.eq_none_iff_forall_ne_some]
  intro new hnew
  obtain ⟨hd, hne⟩ := Candidate.replacement?_eq_some_iff.1 hnew
  exact hne (h new hd)

/-- Every candidate with another text has one place in the report, and no other candidate has. -/
theorem Splits.perm (h : Splits d xs r) :
    r.entries.Perm ((xs.filter (isTranslated d)).map Candidate.textIndex) := by
  induction h with
  | nil => exact List.Perm.refl []
  | kept hkept _ ih =>
    rw [List.filter_cons_of_neg (by rw [isTranslated_of_kept hkept]; exact Bool.false_ne_true)]
    exact ih
  | shared hd hne _ _ ih =>
    rw [List.filter_cons_of_pos (isTranslated_of_ne hd hne), List.map_cons]
    exact ih.cons _
  | @tooLong x xs r new hd hne _ _ _ ih =>
    rw [List.filter_cons_of_pos (isTranslated_of_ne hd hne), List.map_cons]
    refine List.Perm.trans ?_ (ih.cons _)
    rw [entries, entries, List.append_assoc, List.append_assoc, List.cons_append]
    exact List.perm_middle
  | @replaced x xs r new hd hne _ _ _ ih =>
    rw [List.filter_cons_of_pos (isTranslated_of_ne hd hne), List.map_cons]
    refine List.Perm.trans ?_ (ih.cons _)
    exact List.perm_middle

end RewriteReport

namespace Applied

variable {d : Dictionary} {p : Pool} {xs : List Candidate}

/-- The report on candidates that meet their fates. -/
def reportOf (ys : List (Candidate × Fate)) : RewriteReport where
  replacements := ys.filterMap replacementOf?
  skippedShared := ys.filterMap sharedOf?
  tooLong := (ys.filterMap tooLongOf?).map (·.1)

theorem report_ofCandidates (h : (ofCandidates d p xs).failure = none) :
    (ofCandidates d p xs).report = reportOf (fates d p xs) := by
  have hall := takeWhile_fates_eq_self_iff.2 h
  rw [ofCandidates, reportOf]
  simp only [hall]

theorem splits_reportOf_fates (h : ∀ x ∈ xs, p.text? x.textIndex = some x.text) :
    RewriteReport.Splits d xs (reportOf (fates d p xs)) := by
  induction xs with
  | nil => exact .nil
  | cons x xs ih =>
    have hrest := ih fun y hy => h y (List.mem_cons_of_mem x hy)
    have hfate := Candidate.fate_eq (d := d) (h x List.mem_cons_self)
    rw [fates, List.map_cons, hfate]
    cases hnew : x.replacement? d with
    | none =>
      refine .kept ?_ hrest
      intro new hd
      by_contra hne
      have hsome := Candidate.replacement?_eq_some_iff.2 ⟨hd, hne⟩
      rw [hnew] at hsome
      cases hsome
    | some new =>
      obtain ⟨hd, hne⟩ := Candidate.replacement?_eq_some_iff.1 hnew
      dsimp only
      split_ifs with hshared hfits
      · exact .shared hd hne hshared hrest
      · exact .replaced hd hne (Bool.eq_false_of_not_eq_true hshared) hfits hrest
      · exact .tooLong hd hne (Bool.eq_false_of_not_eq_true hshared) (Nat.lt_of_not_le hfits) hrest

end Applied

/-! ## Classes -/

namespace ClassFile

variable {f : VisibilityFilter} {d : Dictionary} {c : ClassFile}

/-- What is done to the candidates of a class parts them, and changes the texts of those that are
replaced and nothing else. -/
structure PartsCandidates (f : VisibilityFilter) (d : Dictionary) (c : ClassFile) (done : Applied) :
    Prop where
  /-- It is done in turn, each candidate in the pool that is there by then. -/
  inTurn : done = (c.candidates f).foldl (Applied.step d) (Applied.start c.pool)
  completed : done.failure = none
  splits : RewriteReport.Splits d (c.candidates f) done.report
  /-- Every candidate with another text has one place in the report. -/
  perm : done.report.entries.Perm
    (((c.candidates f).filter (RewriteReport.isTranslated d)).map Candidate.textIndex)
  nodup : done.report.entries.Nodup
  replaced : ∀ r ∈ done.report.replacements,
    done.pool.slot? r.textIndex = some (.utf8 (.encoded r.new))
  skipped : ∀ i ∈ done.report.skippedShared ++ done.report.tooLong,
    done.pool.slot? i = c.pool.slot? i
  others : ∀ i, i ∉ done.report.entries → done.pool.slot? i = c.pool.slot? i
  size : done.pool.slots.size = c.pool.slots.size

theorem partsCandidates_ofCandidates (f : VisibilityFilter) (d : Dictionary) (c : ClassFile) :
    PartsCandidates f d c (Applied.ofCandidates d c.pool (c.candidates f)) := by
  have htexts : ∀ x ∈ c.candidates f, c.pool.text? x.textIndex = some x.text :=
    fun x hx => text?_of_mem_candidates hx
  have hcompleted := Applied.failure_ofCandidates (d := d) htexts
  have hsplits : RewriteReport.Splits d (c.candidates f)
      (Applied.ofCandidates d c.pool (c.candidates f)).report := by
    rw [Applied.report_ofCandidates hcompleted]
    exact Applied.splits_reportOf_fates htexts
  have hnodup : (Applied.ofCandidates d c.pool (c.candidates f)).report.entries.Nodup := by
    refine hsplits.perm.nodup_iff.2 ?_
    exact (candidates_summarise f c).nodup.sublist (List.filter_sublist.map _)
  have hadmissible := admissible_replacements f d c
  have hkept : ∀ i, i ∉ (Applied.ofCandidates d c.pool (c.candidates f)).report.replacements.map
      Replacement.textIndex →
        (Applied.ofCandidates d c.pool (c.candidates f)).pool.slot? i = c.pool.slot? i :=
    fun i hi => Applied.slot?_foldl_replaceIn_of_notMem hi
  refine
    { inTurn := Applied.ofCandidates_eq_foldl d c.pool (c.candidates f)
      completed := hcompleted
      splits := hsplits
      perm := hsplits.perm
      nodup := hnodup
      replaced := ?_
      skipped := ?_
      others := ?_
      size := ?_ }
  · intro r hr
    rw [Applied.replacements_ofCandidates htexts] at hr
    rw [Applied.pool_ofCandidates htexts]
    exact (Pool.get?_eq_some_iff.1 (hadmissible.get?_foldl_replaceIn hr)).1
  · intro i hi
    refine hkept i ?_
    intro hmem
    exact (List.nodup_append.1 hnodup).2.2 i hi i hmem rfl
  · intro i hi
    refine hkept i ?_
    intro hmem
    exact hi (List.mem_append_right _ hmem)
  · rw [Applied.pool_ofCandidates htexts]
    exact hadmissible.size_foldl_replaceIn

/-- A class is refused for what makes its bytes unreadable and for nothing else. -/
theorem rewriteClass_eq_error_iff {bs : Bytes} {e : ClassError} :
    rewriteClass f d bs = .error e ↔ ∃ e', parse bs = .error e' ∧ e = .format e' := by
  cases hparse : parse bs with
  | error e' =>
    rw [rewriteClass, hparse]
    constructor
    · intro h
      cases h
      exact ⟨e', rfl, rfl⟩
    · rintro ⟨_, h, rfl⟩
      cases h
      rfl
  | ok c =>
    have hcompleted := (partsCandidates_ofCandidates f d c).completed
    rw [rewriteClass, hparse]
    dsimp only
    rw [hcompleted]
    constructor
    · intro h
      cases h
    · rintro ⟨_, h, -⟩
      cases h

end ClassFile
end ClassLiterals
