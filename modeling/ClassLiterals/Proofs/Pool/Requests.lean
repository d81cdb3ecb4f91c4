import ClassLiterals.Proofs.Class.RoundTrip
import ClassLiterals.Proofs.Pool.Update

/-!
# Requests for new texts

A pool that was read may get requests for new texts, each with an index and a text, in any number
and whether they can be met or not. After all of them the pool keeps the rules of a pool that was
just read: it has the same slots but for its texts, the second slots stand where they stood, and the
bytes of every text entry encode its text. So the next request is answered by the same rules, too.

* **Layout.**  A wide constant is followed by its second slot, and there are no other second slots
  (`Layout.getElem?_succ_of_wide`, `Layout.exists_wide_of_unusable`).
* **Answers.**  A request is met exactly when the index names a text entry and the text fits; every
  other request changes nothing, and its failure says why (`answers`).
* **Runs.**  One request changes one text at most (`changesTexts_request`), and so any number of
  them changes texts only (`changesTexts_requests`).

Main result: `requests_keep_rules`.
-/

namespace ClassLiterals

/-! ## The layout, place by place -/

namespace Constant

variable {cs : List Constant} {n : Nat} {c : Constant}

theorem Layout.getElem?_succ_of_wide (h : Layout cs) (hn : cs[n]? = some c)
    (hc : c.isWide = true) : cs[n + 1]? = some .unusable := by
  induction h generalizing n with
  | nil => simp at hn
  | @narrow d rest hd hne hrest ih =>
    cases n with
    | zero =>
      simp only [List.getElem?_cons_zero, Option.some.injEq] at hn
      subst hn
      simp [hd] at hc
    | succ n => exact ih (by simpa using hn)
  | @wide d rest hd hrest ih =>
    match n with
    | 0 => rfl
    | 1 =>
      cases hn
      cases hc
    | n + 2 => exact ih (by simpa using hn)

theorem Layout.exists_wide_of_unusable (h : Layout cs) (hn : cs[n]? = some .unusable) :
    ∃ m d, n = m + 1 ∧ cs[m]? = some d ∧ d.isWide = true := by
  induction h generalizing n with
  | nil => simp at hn
  | @narrow d rest hd hne hrest ih =>
    cases n with
    | zero => exact absurd (by simpa using hn) hne
    | succ n =>
      obtain ⟨m, k, rfl, hm, hk⟩ := ih (by simpa using hn)
      exact ⟨m + 1, k, rfl, by simpa using hm, hk⟩
  | @wide d rest hd hrest ih =>
    match n with
    | 0 =>
      cases hn
      cases hd
    | 1 => exact ⟨0, d, rfl, rfl, hd⟩
    | n + 2 =>
      obtain ⟨m, k, rfl, hm, hk⟩ := ih (by simpa using hn)
      exact ⟨m + 2, k, rfl, by simpa using hm, hk⟩

end Constant

namespace Pool

variable {p q : Pool} {i : UInt16} {text : String}

/-! ## The rules of a pool -/

/-- The rules that a pool keeps, as long as only its texts change. -/
structure KeepsRules (p : Pool) : Prop where
  /-- A wide constant is followed by its second slot. -/
  second_slot : ∀ (n : Nat) c, p.slots[n]? = some c → c.isWide = true →
    p.slots[n + 1]? = some .unusable
  /-- There are no other second slots. -/
  wide_before : ∀ n : Nat, p.slots[n]? = some .unusable →
    ∃ m c, n = m + 1 ∧ p.slots[m]? = some c ∧ c.isWide = true
  /-- The bytes of a text entry can be counted, and encode its text. -/
  texts : ∀ (n : Nat) (entry : Utf8), p.slots[n]? = some (.utf8 entry) →
    entry.bytes.length ≤ 65535 ∧ entry.text = ModifiedUtf8.decode entry.bytes
  /-- The entries stand in the order of their indices. -/
  entries_sorted : (p.entries.map Prod.fst).Pairwise (· < ·)
  /-- They are the constants that are found under their indices. -/
  mem_entries : ∀ i c, (i, c) ∈ p.entries ↔ p.get? i = some c

theorem WellFormed.entries_sorted (hp : p.WellFormed) :
    (p.entries.map Prod.fst).Pairwise (· < ·) := by
  have hplaces : (p.slots.toList.zipIdx 1).Pairwise fun a b => a.2 < b.2 := by
    rw [← List.pairwise_map, List.zipIdx_map_snd]
    exact List.pairwise_lt_range'
  have hbound : ∀ a ∈ p.slots.toList.zipIdx 1, a.2 ≤ maxSlots := by
    intro a ha
    have := (List.mem_zipIdx ha).2.1
    have := hp.size_le
    rw [Array.length_toList] at *
    omega
  rw [entries, List.pairwise_map, List.pairwise_filterMap]
  refine hplaces.imp_of_mem fun {a b} ha hb hab => ?_
  intro x hx y hy
  dsimp only at hx hy
  split_ifs at hx hy
  cases hx
  cases hy
  have := hbound b hb
  simp only [maxSlots] at this
  rw [UInt16.lt_iff_toNat_lt, UInt16.toNat_ofNat_of_lt' (by change _ < 2 ^ 16; omega),
    UInt16.toNat_ofNat_of_lt' (by change _ < 2 ^ 16; omega)]
  exact hab

theorem WellFormed.keepsRules (hp : p.WellFormed) : p.KeepsRules where
  second_slot n c hn hc := by
    rw [← Array.getElem?_toList] at hn ⊢
    exact hp.layout.getElem?_succ_of_wide hn hc
  wide_before n hn := by
    rw [← Array.getElem?_toList] at hn
    obtain ⟨m, c, hm, hslot, hc⟩ := hp.layout.exists_wide_of_unusable hn
    rw [Array.getElem?_toList] at hslot
    exact ⟨m, c, hm, hslot, hc⟩
  texts n entry hn := by
    rw [← Array.getElem?_toList] at hn
    have hwf := hp.constants _ (List.mem_of_getElem? hn)
    exact ⟨hwf.size_le, hwf.text_eq⟩
  entries_sorted := hp.entries_sorted
  mem_entries i c := mem_entries_iff hp

/-! ## Answers to requests -/

/-- How a request for `text` as the text of the entry at `i` is answered. -/
structure Answers (p : Pool) (i : UInt16) (text : String) : Prop where
  /-- It is met exactly for a text entry and a text that fits. -/
  met_iff : (∃ q, p.setText i text = .ok q) ↔
    (∃ entry, p.slot? i = some (.utf8 entry)) ∧ (ModifiedUtf8.encode text).length ≤ 65535
  /-- Then the entry has the text, and every other slot is as before. -/
  of_met : ∀ q, p.setText i text = .ok q →
    p.request (i, text) = q ∧ q.text? i = some text ∧ q.slots.size = p.slots.size ∧
      ∀ j, j ≠ i → q.slot? j = p.slot? j
  /-- The index is bad when it is zero, beyond the end or that of a second slot. -/
  badIndex_iff : ∀ j, p.setText i text = .error (.badIndex j) ↔
    j = i ∧ (i = 0 ∨ p.slots.size < i.toNat ∨ p.slot? i = some .unusable)
  /-- The constant is not the expected one when it is of another kind. -/
  unexpected_iff : ∀ kind c, p.setText i text = .error (.unexpectedConstant kind c) ↔
    kind = .utf8 ∧ p.slot? i = some c ∧ c ≠ .unusable ∧ c.kind? ≠ some .utf8
  /-- The text of a text entry is too long when its bytes cannot be counted. -/
  tooLong_iff : ∀ n, p.setText i text = .error (.textTooLong n) ↔
    n = (ModifiedUtf8.encode text).length ∧ 65535 < n ∧ ∃ entry, p.slot? i = some (.utf8 entry)
  /-- A failure leaves the whole pool as it is. -/
  of_failed : ∀ e, p.setText i text = .error e → p.request (i, text) = p

theorem request_of_ok (h : p.setText i text = .ok q) : p.request (i, text) = q := by
  simp only [request, h]

theorem request_of_error {e : PoolError} (h : p.setText i text = .error e) :
    p.request (i, text) = p := by
  simp only [request, h]

/-- A request that is met changes the slot of its index. -/
theorem slot?_of_setText (h : p.setText i text = .ok q) (j : UInt16) :
    q.slot? j = if j = i then some (.utf8 (.encoded text)) else p.slot? j := by
  obtain ⟨⟨entry, hentry⟩, -, rfl⟩ := setText_eq_ok_iff.1 h
  have hi : i ≠ 0 := by
    rintro rfl
    simp [slot?] at hentry
  split_ifs with hj
  · rw [hj]
    exact slot?_setSlot_self hentry _
  · exact slot?_setSlot_of_ne hi hj _

theorem answers (p : Pool) (i : UInt16) (text : String) : p.Answers i text where
  met_iff := by
    simp only [setText_eq_ok_iff]
    constructor
    · rintro ⟨q, hentry, hfits, -⟩
      exact ⟨hentry, hfits⟩
    · rintro ⟨hentry, hfits⟩
      exact ⟨_, hentry, hfits, rfl⟩
  of_met q hq := by
    have hslot := slot?_of_setText hq
    refine ⟨request_of_ok hq, ?_, ?_, ?_⟩
    · have hself := hslot i
      rw [if_pos rfl] at hself
      rw [text?, get?, hself]
      rfl
    · obtain ⟨-, -, rfl⟩ := setText_eq_ok_iff.1 hq
      exact size_setSlot _
    · intro j hj
      rw [hslot j, if_neg hj]
  badIndex_iff j := by
    rw [setText_eq_badIndex_iff, slot?_eq_none_iff, or_assoc]
  unexpected_iff kind c := setText_eq_unexpected_iff
  tooLong_iff n := by
    rw [setText_eq_tooLong_iff, Utf8.Fits, Nat.not_le]
    constructor
    · rintro ⟨rfl, hlong, hentry⟩
      exact ⟨rfl, hlong, hentry⟩
    · rintro ⟨rfl, hlong, hentry⟩
      exact ⟨rfl, hlong, hentry⟩
  of_failed e he := request_of_error he

/-! ## Runs of requests -/

/-- `q` is `p` with other texts. -/
structure ChangesTexts (p q : Pool) : Prop where
  size_eq : q.slots.size = p.slots.size
  /-- A slot that is no text entry is as before. -/
  others : ∀ i, (∀ entry, p.slot? i ≠ some (.utf8 entry)) → q.slot? i = p.slot? i
  /-- A text entry is a text entry still. -/
  texts : ∀ i entry, p.slot? i = some (.utf8 entry) → ∃ entry', q.slot? i = some (.utf8 entry')

theorem ChangesTexts.refl (p : Pool) : p.ChangesTexts p :=
  ⟨rfl, fun _ _ => rfl, fun _ entry h => ⟨entry, h⟩⟩

theorem ChangesTexts.trans {r : Pool} (h : p.ChangesTexts q) (h' : q.ChangesTexts r) :
    p.ChangesTexts r where
  size_eq := h'.size_eq.trans h.size_eq
  others i hi := by
    have hq : q.slot? i = p.slot? i := h.others i hi
    rw [h'.others i (by rwa [hq]), hq]
  texts i entry hi := by
    obtain ⟨entry', hentry'⟩ := h.texts i entry hi
    exact h'.texts i entry' hentry'

/-- One request changes texts only, whether it is met or not. -/
theorem changesTexts_request (p : Pool) (edit : UInt16 × String) :
    p.ChangesTexts (p.request edit) := by
  obtain ⟨i, text⟩ := edit
  cases h : p.setText i text with
  | error e =>
    rw [request_of_error h]
    exact .refl p
  | ok q =>
    rw [request_of_ok h]
    obtain ⟨entry, hentry⟩ := (setText_eq_ok_iff.1 h).1
    refine ⟨((answers p i text).of_met q h).2.2.1, fun j hj => ?_, fun j old hj => ?_⟩
    · have hji : j ≠ i := by
        rintro rfl
        exact hj entry hentry
      rw [slot?_of_setText h, if_neg hji]
    · rw [slot?_of_setText h]
      split_ifs
      · exact ⟨_, rfl⟩
      · exact ⟨old, hj⟩

theorem changesTexts_requests (p : Pool) (edits : List (UInt16 × String)) :
    p.ChangesTexts (p.requests edits) := by
  induction edits generalizing p with
  | nil => exact .refl p
  | cons edit edits ih => exact (changesTexts_request p edit).trans (ih (p.request edit))

/-- **Whatever texts are requested, a pool keeps its rules.**  After any requests for new texts in a
class file that was read, only texts have changed, the rules of a pool hold, and the next request is
answered by the slot of its index and the size of its text. -/
theorem requests_keep_rules {bs : Bytes} {c : ClassFile} (h : ClassFile.parse bs = .ok c)
    (edits : List (UInt16 × String)) :
    c.pool.ChangesTexts (c.pool.requests edits) ∧ (c.pool.requests edits).KeepsRules ∧
      ∀ i text, (c.pool.requests edits).Answers i text := by
  have hc : c.WellFormed := (ClassFile.parse_eq_ok_iff.1 h).1
  have hrun : (c.pool.requests edits).WellFormed := hc.pool.requests edits
  exact ⟨changesTexts_requests c.pool edits, hrun.keepsRules, answers _⟩

/-- A request for an entry whose bytes were no modified UTF-8, and requests that fail: for no entry,
for second slots, for constants that are no text and for an index beyond the end. -/
def mixedEdits : List (UInt16 × String) :=
  [(1, "Grüße\x00"), (0, "a"), (4, "b"), (5, "c"), (8, "d"), (9, "e"), (10, "f")]

theorem requests_keep_rules_oddities :
    ClassFile.parse ClassFile.odditiesBytes = .ok ClassFile.oddities ∧
      (ClassFile.oddities.pool.requests mixedEdits).text? 1 = some "Grüße\x00" ∧
      ClassFile.oddities.pool.ChangesTexts (ClassFile.oddities.pool.requests mixedEdits) ∧
      (ClassFile.oddities.pool.requests mixedEdits).KeepsRules ∧
      ∀ i text, (ClassFile.oddities.pool.requests mixedEdits).Answers i text := by
  have hparse : ClassFile.parse ClassFile.odditiesBytes = .ok ClassFile.oddities := by
    decide +kernel
  exact ⟨hparse, by decide +kernel, requests_keep_rules hparse mixedEdits⟩

end Pool
end ClassLiterals
