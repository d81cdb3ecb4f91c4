import Mathlib
import ClassLiterals.Glossary

/-!
# Translating in batches

A translator may do anything: give texts in any number, or fail, and answer one call like this and
the next one like that. Still no text gets the translation of another text, and none is lost. The
texts are cut into batches from the front, and every batch is one call. An answer is used if it has
one text for each text of its batch, and then place by place; otherwise the texts of the batch stand
for themselves. A text that occurs several times has the translation of its last place.

* **Batches.**  `chunks` loses nothing, keeps the order, and fills every batch but the last one
  (`cutsInto_chunks`).
* **Runs.**  One batch puts its texts with their translations into the table (`step_eq`), and so a
  run puts in those of all batches, one after the other (`foldl_step_eq`).
* **Places.**  The text at place `p` is text `p % size` of batch `p / size`, and what is put in for
  it comes from there (`getElem?_entries`).
* **Calls.**  A translator that notes its calls notes every batch once, in order
  (`run_translateAllM_noted`).

Main results: `aligned_translateAll` and `translateAll_keeps_places`.
-/

namespace ClassLiterals
namespace TranslationRun

/-! ## Batches -/

section Batches

variable {α β : Type} {size : Nat}

@[simp] theorem chunks_nil (size : Nat) : chunks size ([] : List α) = [] := by
  unfold chunks chunks.go
  rfl

theorem chunks_go_eq_append (size : Nat) : (xs : List α) → (done : List (List α)) →
    chunks.go size xs done = done.reverse ++ chunks size xs
  | [], done => by
    rw [chunks_nil, List.append_nil]
    unfold chunks.go
    rfl
  | x :: rest, done => by
    have hshort : (rest.drop size).length < (x :: rest).length := by simp
    have hfirst : chunks size (x :: rest) =
        chunks.go size (rest.drop size) [x :: rest.take size] := by
      rw [chunks]
      conv_lhs => unfold chunks.go
    rw [hfirst, chunks_go_eq_append size (rest.drop size)]
    conv_lhs => unfold chunks.go
    rw [chunks_go_eq_append size (rest.drop size)]
    simp
  termination_by xs => xs.length

theorem chunks_cons (size : Nat) (x : α) (rest : List α) :
    chunks size (x :: rest) = (x :: rest.take size) :: chunks size (rest.drop size) := by
  rw [chunks]
  unfold chunks.go
  rw [chunks_go_eq_append]
  rfl

/-- Induction along the batches of a list: what holds after the first batch holds before it. -/
theorem chunks_induction {motive : List α → Prop} (size : Nat) (nil : motive [])
    (cons : ∀ x rest, motive (rest.drop size) → motive (x :: rest)) : ∀ xs, motive xs
  | [] => nil
  | x :: rest => by
    have hshort : (rest.drop size).length < (x :: rest).length := by simp
    exact cons x rest (chunks_induction size nil cons (rest.drop size))
  termination_by xs => xs.length

/-- Cutting a list into batches loses nothing and keeps the order. -/
theorem flatten_chunks (size : Nat) (xs : List α) : (chunks size xs).flatten = xs := by
  induction xs using chunks_induction size with
  | nil => simp
  | cons x rest ih =>
    rw [chunks_cons, List.flatten_cons, ih, List.cons_append, List.take_append_drop]

theorem length_chunks (size : Nat) (xs : List α) :
    (chunks size xs).length = xs.length ⌈/⌉ (size + 1) := by
  rw [Nat.ceilDiv_eq_add_pred_div]
  induction xs using chunks_induction size with
  | nil => simp [Nat.div_eq_of_lt]
  | cons x rest ih =>
    rw [chunks_cons, List.length_cons, ih, List.length_drop, List.length_cons]
    by_cases h : size ≤ rest.length
    · have hsum : rest.length + 1 + (size + 1) - 1 =
          rest.length - size + (size + 1) - 1 + (size + 1) := by
        omega
      rw [hsum, Nat.add_div_right _ (Nat.succ_pos size)]
    · have hlast : rest.length - size + (size + 1) - 1 = size := by omega
      have hsum : rest.length + 1 + (size + 1) - 1 = rest.length + (size + 1) := by omega
      rw [hlast, hsum, Nat.add_div_right _ (Nat.succ_pos size), Nat.div_eq_of_lt (by omega),
        Nat.div_eq_of_lt (by omega)]

theorem ne_nil_of_mem_chunks {xs batch : List α} (h : batch ∈ chunks size xs) : batch ≠ [] := by
  induction xs using chunks_induction size with
  | nil => simp at h
  | cons x rest ih =>
    rw [chunks_cons] at h
    rcases List.mem_cons.1 h with rfl | h
    · exact List.cons_ne_nil _ _
    · exact ih h

theorem length_le_of_mem_chunks {xs batch : List α} (h : batch ∈ chunks size xs) :
    batch.length ≤ size + 1 := by
  induction xs using chunks_induction size with
  | nil => simp at h
  | cons x rest ih =>
    rw [chunks_cons] at h
    rcases List.mem_cons.1 h with rfl | h
    · simp
    · exact ih h

theorem length_of_mem_dropLast_chunks {xs batch : List α} (h : batch ∈ (chunks size xs).dropLast) :
    batch.length = size + 1 := by
  induction xs using chunks_induction size with
  | nil => simp at h
  | cons x rest ih =>
    rw [chunks_cons] at h
    cases hrest : rest.drop size with
    | nil => simp [hrest] at h
    | cons y later =>
      -- More texts follow, so this batch is full.
      have hmore : size < rest.length := by
        by_contra hle
        rw [List.drop_eq_nil_of_le (by omega)] at hrest
        cases hrest
      rw [hrest] at h ih
      rw [chunks_cons, List.dropLast_cons_cons, ← chunks_cons] at h
      rcases List.mem_cons.1 h with rfl | h
      · simp only [List.length_cons, List.length_take]
        omega
      · exact ih h

/-- What is made of the batches, as many values of each as it has elements, has at place `p` what is
made of batch `p / (size + 1)` at place `p % (size + 1)`. -/
theorem getElem?_flatMap_zipIdx_chunks (size : Nat) (f : List α × Nat → List β)
    (hf : ∀ batch k, (f (batch, k)).length = batch.length) (xs : List α) (first p : Nat) :
    (((chunks size xs).zipIdx first).flatMap f)[p]? =
      ((chunks size xs)[p / (size + 1)]?).bind fun batch =>
        (f (batch, first + p / (size + 1)))[p % (size + 1)]? := by
  induction xs using chunks_induction size generalizing first p with
  | nil => simp
  | cons x rest ih =>
    have hlen : (x :: rest.take size).length = min size rest.length + 1 := by simp
    rw [chunks_cons, List.zipIdx_cons, List.flatMap_cons, List.getElem?_append, hf, hlen, ih]
    by_cases hp : p < size + 1
    · -- The place is in the first batch, or there are no others.
      rw [Nat.div_eq_of_lt hp, Nat.mod_eq_of_lt hp]
      simp only [List.getElem?_cons_zero, Option.bind_some, Nat.add_zero]
      split_ifs with hin
      · rfl
      · have hdrop : rest.drop size = [] := List.drop_eq_nil_of_le (by omega)
        rw [hdrop, chunks_nil, List.getElem?_nil, Option.bind_none,
          List.getElem?_eq_none (by rw [hf, hlen]; omega)]
    · by_cases hrest : size ≤ rest.length
      · obtain ⟨q, rfl⟩ : ∃ q, p = q + (size + 1) := ⟨p - (size + 1), by omega⟩
        rw [min_eq_left hrest, if_neg hp, Nat.add_sub_cancel,
          Nat.add_div_right _ (Nat.succ_pos size), Nat.add_mod_right, List.getElem?_cons_succ,
          Nat.succ_eq_add_one, Nat.add_assoc, Nat.add_comm 1]
      · have hdrop : rest.drop size = [] := List.drop_eq_nil_of_le (by omega)
        have hbatch : p / (size + 1) ≠ 0 := by
          rw [Ne, Nat.div_eq_zero_iff_lt (Nat.succ_pos size)]
          exact hp
        obtain ⟨k, hk⟩ := Nat.exists_eq_succ_of_ne_zero hbatch
        rw [hdrop, chunks_nil, if_neg (by omega), hk]
        simp

/-- The element at place `p` is element `p % (size + 1)` of batch `p / (size + 1)`. -/
theorem getElem?_eq_bind_chunks (size : Nat) (xs : List α) (p : Nat) :
    xs[p]? = ((chunks size xs)[p / (size + 1)]?).bind fun batch => batch[p % (size + 1)]? := by
  have h := getElem?_flatMap_zipIdx_chunks size (Prod.fst : List α × Nat → List α)
    (fun _ _ => rfl) xs 0 p
  have hflat : (chunks size xs).zipIdx.flatMap Prod.fst = xs := by
    rw [List.flatMap_def, List.zipIdx_map_fst, flatten_chunks]
  rwa [hflat] at h

end Batches

/-- `batches` are the texts in order, cut into pieces of `size`. -/
structure CutsInto (size : Nat) (texts : List String) (batches : List (List String)) : Prop where
  flatten_eq : batches.flatten = texts
  length_eq : batches.length = texts.length ⌈/⌉ size
  ne_nil : ∀ batch ∈ batches, batch ≠ []
  length_le : ∀ batch ∈ batches, batch.length ≤ size
  /-- Every batch but the last one is full. -/
  full : ∀ batch ∈ batches.dropLast, batch.length = size
  /-- Where the text at a place stands. -/
  place : ∀ p, texts[p]? = (batches[p / size]?).bind fun batch => batch[p % size]?

theorem cutsInto_chunks (size : Nat) (texts : List String) :
    CutsInto (size + 1) texts (chunks size texts) where
  flatten_eq := flatten_chunks size texts
  length_eq := length_chunks size texts
  ne_nil _ h := ne_nil_of_mem_chunks h
  length_le _ h := length_le_of_mem_chunks h
  full _ h := length_of_mem_dropLast_chunks h
  place := getElem?_eq_bind_chunks size texts

/-! ## Runs -/

variable {t : Translator} {batch : List String} {call : Nat}

/-- The call fails: it gives an error, or not one text for each text of the batch. -/
def failed (t : Translator) : List String × Nat → Bool
  | (batch, call) =>
    match t call batch with
    | .ok texts => texts.length != batch.length
    | .error _ => true

/-- The texts of a batch with what the run takes for their translations. -/
def pairs (t : Translator) : List String × Nat → List (String × String)
  | (batch, call) =>
    match answer t call batch with
    | .ok texts => batch.zip texts
    | .error _ => batch.zip batch

theorem answer_of_failed (h : failed t (batch, call) = true) :
    ∃ e, answer t call batch = .error e := by
  unfold failed at h
  unfold answer
  cases hanswer : t call batch with
  | error e => exact ⟨e, rfl⟩
  | ok texts =>
    have hlen : texts.length ≠ batch.length := by simpa [hanswer] using h
    exact ⟨_, if_neg hlen⟩

theorem answer_of_length_eq {texts : List String} (h : t call batch = .ok texts)
    (hlen : texts.length = batch.length) : answer t call batch = .ok texts := by
  unfold answer
  simp [h, hlen]

theorem exists_of_not_failed (h : failed t (batch, call) = false) :
    ∃ texts, t call batch = .ok texts ∧ texts.length = batch.length := by
  unfold failed at h
  cases hanswer : t call batch with
  | error e => simp [hanswer] at h
  | ok texts => exact ⟨texts, rfl, by simpa [hanswer] using h⟩

theorem pairs_of_failed (h : failed t (batch, call) = true) :
    pairs t (batch, call) = batch.zip batch := by
  obtain ⟨e, he⟩ := answer_of_failed h
  simp [pairs, he]

theorem pairs_of_length_eq {texts : List String} (h : t call batch = .ok texts)
    (hlen : texts.length = batch.length) : pairs t (batch, call) = batch.zip texts := by
  simp [pairs, answer_of_length_eq h hlen]

theorem pairs_congr {t' : Translator} (h : t' call = t call) :
    pairs t' (batch, call) = pairs t (batch, call) := by
  simp [pairs, answer, h]

theorem map_fst_pairs (t : Translator) (batch : List String) (call : Nat) :
    (pairs t (batch, call)).map Prod.fst = batch := by
  cases hfailed : failed t (batch, call) with
  | true =>
    rw [pairs_of_failed hfailed]
    exact List.map_fst_zip (Nat.le_refl _)
  | false =>
    obtain ⟨texts, htexts, hlen⟩ := exists_of_not_failed hfailed
    rw [pairs_of_length_eq htexts hlen]
    exact List.map_fst_zip (Nat.le_of_eq hlen.symm)

/-- One batch puts its texts into the table, and counts as a batch, and as a failed one if its call
fails. -/
theorem step_eq (t : Translator) (run : TranslationRun) (batch : List String) :
    (step t run batch).translations =
        run.translations.insertMany (pairs t (batch, run.batches)) ∧
      (step t run batch).batches = run.batches + 1 ∧
      (step t run batch).failedBatches =
        run.failedBatches + if failed t (batch, run.batches) then 1 else 0 := by
  unfold step pairs
  cases hfailed : failed t (batch, run.batches) with
  | true =>
    obtain ⟨e, he⟩ := answer_of_failed hfailed
    simp [he]
  | false =>
    obtain ⟨texts, htexts, hlen⟩ := exists_of_not_failed hfailed
    simp [answer_of_length_eq htexts hlen]

theorem foldl_step_eq (t : Translator) (run : TranslationRun) (batches : List (List String)) :
    (batches.foldl (step t) run).translations =
        run.translations.insertMany ((batches.zipIdx run.batches).flatMap (pairs t)) ∧
      (batches.foldl (step t) run).batches = run.batches + batches.length ∧
      (batches.foldl (step t) run).failedBatches =
        run.failedBatches + (batches.zipIdx run.batches).countP (failed t) := by
  induction batches generalizing run with
  | nil => simp
  | cons batch batches ih =>
    obtain ⟨htranslations, hbatches, hfailed⟩ := step_eq t run batch
    obtain ⟨ihtranslations, ihbatches, ihfailed⟩ := ih (step t run batch)
    rw [hbatches] at ihtranslations ihbatches ihfailed
    rw [List.foldl_cons, List.zipIdx_cons, List.flatMap_cons, List.countP_cons, List.length_cons,
      Std.HashMap.insertMany_append, ← htranslations]
    refine ⟨ihtranslations, ?_, ?_⟩
    · rw [ihbatches]
      omega
    · rw [ihfailed, hfailed]
      omega

/-! ## Places -/

variable {texts : List String} {text : String} {p : Nat}

/-- `text` stands at place `p` and at no later place. -/
def IsLast (texts : List String) (p : Nat) (text : String) : Prop :=
  texts[p]? = some text ∧ ∀ q, p < q → texts[q]? ≠ some text

theorem exists_isLast (h : text ∈ texts) : ∃ p, IsLast texts p text := by
  induction texts with
  | nil => exact absurd h List.not_mem_nil
  | cons head rest ih =>
    by_cases hrest : text ∈ rest
    · obtain ⟨p, hp, hlater⟩ := ih hrest
      refine ⟨p + 1, by simpa using hp, ?_⟩
      intro q hq
      obtain ⟨r, rfl⟩ : ∃ r, q = r + 1 := ⟨q - 1, by omega⟩
      simpa using hlater r (by omega)
    · have hhead : text = head := (List.mem_cons.1 h).resolve_right hrest
      refine ⟨0, by simp [hhead], ?_⟩
      intro q hq hget
      obtain ⟨r, rfl⟩ : ∃ r, q = r + 1 := ⟨q - 1, by omega⟩
      exact hrest (List.mem_of_getElem? (by simpa using hget))

theorem isLast_of_nodup (h : texts.Nodup) (hp : texts[p]? = some text) : IsLast texts p text := by
  refine ⟨hp, ?_⟩
  intro q hq hget
  obtain ⟨hlt, -⟩ := List.getElem?_eq_some_iff.1 hp
  have heq : p = q := (List.getElem?_inj hlt h).1 (hp.trans hget.symm)
  omega

/-- The last of several entries for a text counts. -/
theorem getElem?_insertMany_of_isLast {entries : List (String × String)} {new : String}
    (m : Glossary) (hlast : IsLast (entries.map Prod.fst) p text)
    (hp : entries[p]? = some (text, new)) : (m.insertMany entries)[text]? = some new := by
  obtain ⟨-, hlater⟩ := hlast
  induction entries generalizing m p with
  | nil => simp at hp
  | cons entry rest ih =>
    cases p with
    | zero =>
      have hentry : entry = (text, new) := by simpa using hp
      have hrest : (rest.map Prod.fst).contains text = false := by
        rw [← Bool.not_eq_true, List.contains_iff_mem]
        intro hmem
        obtain ⟨q, hq⟩ := List.getElem?_of_mem hmem
        exact hlater (q + 1) (Nat.succ_pos q) (by simpa using hq)
      rw [hentry, Std.HashMap.insertMany_cons,
        Std.HashMap.getElem?_insertMany_list_of_contains_eq_false hrest,
        Std.HashMap.getElem?_insert_self]
    | succ p =>
      obtain ⟨key, value⟩ := entry
      rw [Std.HashMap.insertMany_cons]
      refine ih _ (by simpa using hp) ?_
      intro q hq
      simpa using hlater (q + 1) (by omega)

/-- All texts with what a run takes for their translations, in order. -/
def entries (t : Translator) (size : Nat) (texts : List String) : List (String × String) :=
  (chunks size texts).zipIdx.flatMap (pairs t)

theorem map_fst_entries (t : Translator) (size : Nat) (texts : List String) :
    (entries t size texts).map Prod.fst = texts := by
  have hpairs : ∀ x : List String × Nat, (pairs t x).map Prod.fst = x.1 :=
    fun x => map_fst_pairs t x.1 x.2
  unfold entries
  rw [List.map_flatMap]
  simp only [hpairs]
  rw [List.flatMap_def, List.zipIdx_map_fst, flatten_chunks]

/-- What is taken for the translation of the text at place `p` comes from the answer to call
`p / (size + 1)`. -/
theorem getElem?_entries (t : Translator) (size : Nat) (texts : List String) (p : Nat) :
    (entries t size texts)[p]? = ((chunks size texts)[p / (size + 1)]?).bind fun batch =>
      (pairs t (batch, p / (size + 1)))[p % (size + 1)]? := by
  have hlength : ∀ batch k, (pairs t (batch, k)).length = batch.length := by
    intro batch k
    rw [← List.length_map Prod.fst, map_fst_pairs]
  unfold entries
  rw [getElem?_flatMap_zipIdx_chunks size _ hlength, Nat.zero_add]

theorem translations_translateAll (t : Translator) (size : Nat) (texts : List String) :
    (translateAll t (size + 1) texts).translations =
      (∅ : Glossary).insertMany (entries t size texts) := by
  have h := (foldl_step_eq t {} (chunks size texts)).1
  exact h

theorem mem_translations_iff (t : Translator) (size : Nat) (texts : List String) (text : String) :
    text ∈ (translateAll t (size + 1) texts).translations ↔ text ∈ texts := by
  rw [translations_translateAll, Std.HashMap.mem_insertMany_list, map_fst_entries,
    List.contains_iff_mem]
  simp

/-- A text has the translation of its last place. -/
theorem getElem?_translations {new : String} (hlast : IsLast texts p text)
    {size : Nat} (hbatch : (chunks size texts)[p / (size + 1)]? = some batch)
    (hpair : (pairs t (batch, p / (size + 1)))[p % (size + 1)]? = some (text, new)) :
    (translateAll t (size + 1) texts).translations[text]? = some new := by
  have hentries : IsLast ((entries t size texts).map Prod.fst) p text := by
    rw [map_fst_entries]
    exact hlast
  have hentry : (entries t size texts)[p]? = some (text, new) := by
    rw [getElem?_entries, hbatch]
    exact hpair
  rw [translations_translateAll]
  exact getElem?_insertMany_of_isLast ∅ hentries hentry

/-- What a run makes of the texts, whatever the translator does. -/
structure Aligned (t : Translator) (size : Nat) (texts : List String)
    (batches : List (List String)) (run : TranslationRun) : Prop where
  batches_eq : run.batches = batches.length
  failedBatches_eq : run.failedBatches = batches.zipIdx.countP (failed t)
  /-- The texts are translated, and nothing else is. -/
  mem_iff : ∀ text, text ∈ run.translations ↔ text ∈ texts
  /-- A text whose last place is in a batch with an answer has what stands there in the answer. -/
  answered : ∀ p text batch answers, IsLast texts p text → batches[p / size]? = some batch →
    t (p / size) batch = .ok answers → answers.length = batch.length →
      run.translations[text]? = answers[p % size]?
  /-- A text whose last place is in a batch without an answer stands for itself. -/
  unanswered : ∀ p text batch, IsLast texts p text → batches[p / size]? = some batch →
    failed t (batch, p / size) = true → run.translations[text]? = some text

theorem aligned_translateAll (t : Translator) (size : Nat) (texts : List String) :
    Aligned t (size + 1) texts (chunks size texts) (translateAll t (size + 1) texts) := by
  obtain ⟨-, hbatches, hfailed⟩ := foldl_step_eq t {} (chunks size texts)
  have hplace : ∀ p text batch, IsLast texts p text →
      (chunks size texts)[p / (size + 1)]? = some batch →
        batch[p % (size + 1)]? = some text := by
    intro p text batch hlast hbatch
    have h := hlast.1
    rwa [getElem?_eq_bind_chunks size, hbatch] at h
  refine ⟨?_, ?_, mem_translations_iff t size texts, ?_, ?_⟩
  · exact hbatches.trans (Nat.zero_add _)
  · exact hfailed.trans (Nat.zero_add _)
  · intro p text batch answers hlast hbatch hanswers hlen
    have htext := hplace p text batch hlast hbatch
    obtain ⟨hlt, -⟩ := List.getElem?_eq_some_iff.1 htext
    have hnew : answers[p % (size + 1)]? = some (answers.get ⟨p % (size + 1), hlen ▸ hlt⟩) :=
      List.getElem?_eq_getElem (hlen ▸ hlt)
    rw [hnew]
    refine getElem?_translations hlast hbatch ?_
    rw [pairs_of_length_eq hanswers hlen, List.getElem?_zip_eq_some]
    exact ⟨htext, hnew⟩
  · intro p text batch hlast hbatch hfail
    have htext := hplace p text batch hlast hbatch
    refine getElem?_translations hlast hbatch ?_
    rw [pairs_of_failed hfail, List.getElem?_zip_eq_some]
    exact ⟨htext, htext⟩

/-! ## Other answers to one call -/

theorem exists_batch_of_getElem? (size : Nat) (hp : texts[p]? = some text) :
    ∃ batch, (chunks size texts)[p / (size + 1)]? = some batch ∧
      batch[p % (size + 1)]? = some text := by
  rw [getElem?_eq_bind_chunks size] at hp
  exact Option.bind_eq_some_iff.1 hp

theorem exists_pair {j : Nat} (t : Translator) (call : Nat) (hj : batch[j]? = some text) :
    ∃ new, (pairs t (batch, call))[j]? = some (text, new) := by
  rw [← map_fst_pairs t batch call, List.getElem?_map] at hj
  obtain ⟨⟨key, new⟩, hpair, rfl⟩ := Option.map_eq_some_iff.1 hj
  exact ⟨new, hpair⟩

/-- The answer to a call makes a difference to the texts of its batch alone. -/
theorem getElem?_translations_congr {t' : Translator} {size k : Nat}
    (hother : ∀ j, j ≠ k → t' j = t j) (hbatch : (chunks size texts)[k]? = some batch)
    (htext : text ∉ batch) :
    (translateAll t' (size + 1) texts).translations[text]? =
      (translateAll t (size + 1) texts).translations[text]? := by
  by_cases hmem : text ∈ texts
  · obtain ⟨p, hlast⟩ := exists_isLast hmem
    obtain ⟨own, hown, hplace⟩ := exists_batch_of_getElem? size hlast.1
    have hcall : p / (size + 1) ≠ k := by
      rintro rfl
      rw [hbatch] at hown
      cases hown
      exact htext (List.mem_of_getElem? hplace)
    obtain ⟨new, hnew⟩ := exists_pair t (p / (size + 1)) hplace
    have hnew' : (pairs t' (own, p / (size + 1)))[p % (size + 1)]? = some (text, new) := by
      rwa [pairs_congr (hother _ hcall)]
    rw [getElem?_translations hlast hown hnew, getElem?_translations hlast hown hnew']
  · have hnone : ∀ u : Translator,
        (translateAll u (size + 1) texts).translations[text]? = none := by
      intro u
      refine Std.HashMap.getElem?_eq_none ?_
      rw [mem_translations_iff]
      exact hmem
    rw [hnone t, hnone t']

/-! ## Calls -/

section Calls

variable {m : Type → Type} [Monad m]

/-- A translator whose answers may have effects. -/
abbrev EffectfulTranslator (m : Type → Type) :=
  (call : Nat) → (texts : List String) → m (Except TranslateError (List String))

/-- The run after another batch: one call, and the answer is taken as by `step`. -/
def stepM (t : EffectfulTranslator m) (run : TranslationRun) (batch : List String) :
    m TranslationRun := do
  let reply ← t run.batches batch
  return step (fun _ _ => reply) run batch

/-- Translates the texts by a translator with effects. -/
def translateAllM (t : EffectfulTranslator m) (batchSize : Nat) (texts : List String) :
    m TranslationRun := do
  let run ← (chunks (batchSize - 1) texts).foldlM (stepM t) {}
  return { run with warnings := run.warnings.reverse }

/-- The translator that notes its calls: the batch and the number of each, in order. -/
def noted (t : Translator) : EffectfulTranslator (StateM (List (List String × Nat))) :=
  fun call batch => do
    modify (· ++ [(batch, call)])
    return t call batch

theorem run_foldlM_stepM_noted (t : Translator) (run : TranslationRun)
    (batches : List (List String)) (calls : List (List String × Nat)) :
    (batches.foldlM (stepM (noted t)) run).run calls =
      (batches.foldl (step t) run, calls ++ batches.zipIdx run.batches) := by
  induction batches generalizing run calls with
  | nil =>
    rw [List.zipIdx_nil, List.append_nil]
    rfl
  | cons batch batches ih =>
    have hbatches : (step t run batch).batches = run.batches + 1 := (step_eq t run batch).2.1
    have hcall : (stepM (noted t) run batch).run calls =
        (step t run batch, calls ++ [(batch, run.batches)]) := rfl
    rw [List.foldlM_cons, StateT.run_bind, hcall]
    have hrest := ih (step t run batch) (calls ++ [(batch, run.batches)])
    rw [hbatches, List.append_assoc] at hrest
    exact hrest

/-- A run calls the translator once for every batch, in order, and for nothing else. -/
theorem run_translateAllM_noted (t : Translator) (batchSize : Nat) (texts : List String) :
    (translateAllM (noted t) batchSize texts).run [] =
      (translateAll t batchSize texts, (chunks (batchSize - 1) texts).zipIdx) := by
  have h := run_foldlM_stepM_noted t {} (chunks (batchSize - 1) texts) []
  unfold translateAllM
  rw [StateT.run_bind, h]
  rfl

end Calls

/-- **No text is lost or mixed up in batches.**  For every translator, every size of the batches and
all texts, repeated or not, the calls are the batches that the texts are cut into, the translations
are those of the texts, and every text has what stands in its last place in the answer to its batch,
or itself where there is no answer. When the texts differ, a failed call leaves its own texts alone,
and what it might have been answered with makes no difference to the other ones. -/
theorem translateAll_keeps_places (t : Translator) (batchSize : Nat) (texts : List String) :
    let size := max batchSize 1
    let batches := chunks (batchSize - 1) texts
    let run := translateAll t batchSize texts
    CutsInto size texts batches ∧
      (translateAllM (noted t) batchSize texts).run [] = (run, batches.zipIdx) ∧
      Aligned t size texts batches run ∧
      (texts.Nodup → ∀ k batch, batches[k]? = some batch → failed t (batch, k) = true →
        (∀ text ∈ batch, run.translations[text]? = some text) ∧
        ∀ t', (∀ j, j ≠ k → t' j = t j) → ∀ text, text ∉ batch →
          (translateAll t' batchSize texts).translations[text]? = run.translations[text]?) := by
  intro size batches run
  -- A size of zero counts as one.
  have hsize : size = batchSize - 1 + 1 := by
    show max batchSize 1 = batchSize - 1 + 1
    omega
  have haligned : Aligned t size texts batches run := by
    rw [hsize]
    exact aligned_translateAll t (batchSize - 1) texts
  have hcut : CutsInto size texts batches := by
    rw [hsize]
    exact cutsInto_chunks (batchSize - 1) texts
  refine ⟨hcut, run_translateAllM_noted t batchSize texts, haligned, ?_⟩
  intro hnodup k batch hbatch hfail
  refine ⟨?_, ?_⟩
  · intro text htext
    obtain ⟨j, hj⟩ := List.getElem?_of_mem htext
    have hjsize : j < size := by
      have hlt := (List.getElem?_eq_some_iff.1 hj).1
      have hle := hcut.length_le batch (List.mem_of_getElem? hbatch)
      omega
    have hk : (k * size + j) / size = k := by
      rw [Nat.mul_comm, Nat.mul_add_div (by omega), Nat.div_eq_of_lt hjsize, Nat.add_zero]
    have hplace : texts[k * size + j]? = some text := by
      rw [hcut.place, hk, Nat.mul_comm, Nat.mul_add_mod, Nat.mod_eq_of_lt hjsize, hbatch]
      exact hj
    refine haligned.unanswered _ text batch (isLast_of_nodup hnodup hplace) ?_ ?_
    · rw [hk]
      exact hbatch
    · rw [hk]
      exact hfail
  · intro t' hother text htext
    exact getElem?_translations_congr hother hbatch htext

/-- The translator that answers call 1 with one text, and every other call in full. -/
def patchy : Translator := fun call texts =>
  if call = 1 then .ok (texts.take 1) else .ok (texts.map (· ++ "!"))

/-- Five texts, in batches of two. -/
def letters : List String := ["a", "b", "c", "d", "e"]

/-- The second of three calls fails, and its texts stand for themselves; the others have their own
answers. -/
theorem translateAll_keeps_places_patchy :
    letters.Nodup ∧ (chunks 1 letters)[1]? = some ["c", "d"] ∧
      failed patchy (["c", "d"], 1) = true ∧ (translateAll patchy 2 letters).failedBatches = 1 ∧
      (translateAll patchy 2 letters).translations["b"]? = some "b!" ∧
      (translateAll patchy 2 letters).translations["d"]? = some "d" ∧
      (translateAll patchy 2 letters).translations["e"]? = some "e!" := by
  obtain ⟨-, -, haligned, hfailed⟩ := translateAll_keeps_places patchy 2 letters
  have hnodup : letters.Nodup := by decide
  have hchunks : chunks (2 - 1) letters = [["a", "b"], ["c", "d"], ["e"]] := by
    simp [letters, chunks_cons]
  have hbatch : (chunks (2 - 1) letters)[1]? = some ["c", "d"] := by
    rw [hchunks]
    rfl
  have hfail : failed patchy (["c", "d"], 1) = true := rfl
  refine ⟨hnodup, hbatch, hfail, ?_, ?_, ?_, ?_⟩
  · rw [haligned.failedBatches_eq, hchunks]
    decide
  · have hlast : IsLast letters 1 "b" := isLast_of_nodup hnodup rfl
    exact haligned.answered 1 "b" ["a", "b"] ["a!", "b!"] hlast (by rw [hchunks]; rfl) (by decide)
      rfl
  · exact (hfailed hnodup 1 ["c", "d"] hbatch hfail).1 "d" (by decide)
  · have hlast : IsLast letters 4 "e" := isLast_of_nodup hnodup rfl
    exact haligned.answered 4 "e" ["e"] ["e!"] hlast (by rw [hchunks]; rfl) (by decide) rfl

end TranslationRun
end ClassLiterals
