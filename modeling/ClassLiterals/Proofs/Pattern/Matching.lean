import ClassLiterals.Pattern.Basic
import Mathlib.Data.List.Basic
import Mathlib.Tactic.Common

/-!
# What patterns match

A pattern is read here as a condition on a text that stands between two characters:
`p.Matches before text after` says what the pattern means by recursion on the pattern, without a
word about how a match is found. The matcher reads a text character by character and keeps what is
left to match. The two agree: `search` finds a pattern exactly in the texts with a part that the
pattern matches.

The step from one to the other is that of a derivative. A match of a text `c :: text` goes on, after
`c`, as a match of `text` by one of the patterns in `after`. The case to think about is a
repetition: some of its rounds may match nothing before one of them reads `c`. They make up for
rounds that are still asked for, so that a repetition must not ask for more rounds than it allows.

Most patterns look at no neighbours but the ends of the text. For them, `Accepts` and `AcceptsEnd`
say what they match, and lemmas put matches together from the matches of parts.

Main results: `matchesEmpty_iff`, `matches_cons_iff`, `search_iff` and `search_of_matches`.
-/

namespace ClassLiterals.Pattern

/-! ## Conditions on texts at a place -/

/-- A condition on a text that may also look at the character before the text and the one after it,
which are missing at the ends. -/
abbrev Reading := Option Char → List Char → Option Char → Prop

namespace Reading

variable {M N : Reading} {before after : Option Char} {c : Char} {text : List Char}

/-- The text is in two parts, the first one as `M` asks for and the second one as `N` does. -/
def Seq (M N : Reading) : Reading := fun before text after =>
  ∃ u v, text = u ++ v ∧ M before u (v.head?.or after) ∧ N (u.getLast?.or before) v after

/-- The text is in `n` parts, each as `M` asks for. -/
def Rounds (M : Reading) : Nat → Reading
  | 0 => fun _ text _ => text = []
  | n + 1 => M.Seq (Rounds M n)

/-- Any text. -/
def anything : Reading := fun _ _ _ => True

/-- What `M` asks for after the character `c`, which follows `before`. -/
def rest (M : Reading) (before : Option Char) (c : Char) : Reading := fun _ text after =>
  M before (c :: text) after

theorem seq_nil_iff : M.Seq N before [] after ↔ M before [] after ∧ N before [] after := by
  constructor
  · rintro ⟨u, v, h, hM, hN⟩
    obtain ⟨rfl, rfl⟩ := List.append_eq_nil_iff.1 h.symm
    exact ⟨hM, hN⟩
  · rintro ⟨hM, hN⟩
    exact ⟨[], [], rfl, hM, hN⟩

/-- The character before what follows `c :: text`. -/
theorem last_cons (c : Char) (text : List Char) (before : Option Char) :
    (c :: text).getLast?.or before = text.getLast?.or (some c) := by
  rw [List.getLast?_cons, Option.some_or, Option.or_some]

/-- The first character is read by the second part, if the first one is empty, or else by the first
one. -/
theorem seq_cons_iff : M.Seq N before (c :: text) after ↔
    (M before [] (some c) ∧ N before (c :: text) after) ∨
      (M.rest before c).Seq N (some c) text after := by
  constructor
  · rintro ⟨u, v, h, hM, hN⟩
    cases u with
    | nil =>
      obtain rfl := h
      exact .inl ⟨hM, hN⟩
    | cons d u =>
      obtain ⟨rfl, rfl⟩ := List.cons.inj h
      exact .inr ⟨u, v, rfl, hM, last_cons c u before ▸ hN⟩
  · rintro (⟨hM, hN⟩ | ⟨u, v, rfl, hM, hN⟩)
    · exact ⟨[], c :: text, rfl, hM, hN⟩
    · exact ⟨c :: u, v, rfl, hM, (last_cons c u before).symm ▸ hN⟩

/-- A choice for the first part is a choice between sequences. -/
theorem seq_exists_left {α : Type} {P : α → Prop} {F : α → Reading} :
    Seq (fun before text after => ∃ a, P a ∧ F a before text after) N before text after ↔
      ∃ a, P a ∧ (F a).Seq N before text after := by
  constructor
  · rintro ⟨u, v, h, ⟨a, ha, hF⟩, hN⟩
    exact ⟨a, ha, u, v, h, hF, hN⟩
  · rintro ⟨a, ha, u, v, h, hF, hN⟩
    exact ⟨u, v, h, ⟨a, ha, hF⟩, hN⟩

/-- A choice for the second part is a choice between sequences. -/
theorem seq_exists_right {α : Type} {P : α → Prop} {F : α → Reading} :
    M.Seq (fun before text after => ∃ a, P a ∧ F a before text after) before text after ↔
      ∃ a, P a ∧ M.Seq (F a) before text after := by
  constructor
  · rintro ⟨u, v, h, hM, a, ha, hF⟩
    exact ⟨a, ha, u, v, h, hM, hF⟩
  · rintro ⟨a, ha, u, v, h, hM, hF⟩
    exact ⟨u, v, h, hM, a, ha, hF⟩

theorem seq_congr_left {K : Reading} (h : ∀ text after, M before text after ↔ K before text after) :
    M.Seq N before text after ↔ K.Seq N before text after := by
  unfold Seq
  simp only [h]

theorem rounds_nil_iff {n : Nat} :
    M.Rounds n before [] after ↔ n = 0 ∨ M before [] after := by
  induction n with
  | zero => simp [Rounds]
  | succ n ih =>
    rw [Rounds, seq_nil_iff, ih]
    constructor
    · rintro ⟨hM, -⟩
      exact .inr hM
    · rintro (h | hM)
      · cases h
      · exact ⟨hM, .inr hM⟩

/-- Some round reads the first character, and `k` rounds follow it. If it is not the first round,
the ones before it are empty. -/
theorem rounds_cons_iff {n : Nat} : M.Rounds n before (c :: text) after ↔
    ∃ k, (k < n ∧ (k + 1 = n ∨ M before [] (some c))) ∧
      (M.rest before c).Seq (M.Rounds k) (some c) text after := by
  induction n with
  | zero => simp [Rounds]
  | succ n ih =>
    rw [Rounds, seq_cons_iff, ih]
    constructor
    · rintro (⟨hM, k, ⟨hk, -⟩, hrest⟩ | hrest)
      · exact ⟨k, ⟨Nat.lt_succ_of_lt hk, .inr hM⟩, hrest⟩
      · exact ⟨n, ⟨Nat.lt_succ_self n, .inl rfl⟩, hrest⟩
    · rintro ⟨k, ⟨hk, hempty⟩, hrest⟩
      rcases Nat.lt_succ_iff_lt_or_eq.1 hk with hk | rfl
      · have hM := hempty.resolve_left (by omega)
        exact .inl ⟨hM, k, ⟨hk, .inr hM⟩, hrest⟩
      · exact .inr hrest

end Reading

/-! ## Meaning -/

/-- Whether the pattern matches the text between two characters. -/
def Matches : Pattern → Reading
  | empty => fun _ text _ => text = []
  | chars s => fun _ text _ => ∃ c, s.contains c = true ∧ text = [c]
  | boundary b => fun before text after => text = [] ∧ b.holds before after = true
  | seq p q => p.Matches.Seq q.Matches
  | alt p q => fun before text after => p.Matches before text after ∨ q.Matches before text after
  | times least most p => fun before text after =>
    ∃ n, (least ≤ n ∧ ∀ m ∈ most, n ≤ m) ∧ p.Matches.Rounds n before text after

/-- No repetition asks for more rounds than it allows. -/
def Ordered : Pattern → Prop
  | empty | chars _ | boundary _ => True
  | seq p q | alt p q => p.Ordered ∧ q.Ordered
  | times least most p => (∀ m ∈ most, least ≤ m) ∧ p.Ordered

variable {p q : Pattern} {before after : Option Char} {c : Char} {text : List Char}

theorem matches_seq_iff :
    (seq p q).Matches before text after ↔ p.Matches.Seq q.Matches before text after := Iff.rfl

theorem matches_alt_iff :
    (alt p q).Matches before text after ↔
      p.Matches before text after ∨ q.Matches before text after :=
  Iff.rfl

theorem matches_times_iff {least : Nat} {most : Option Nat} :
    (times least most p).Matches before text after ↔
      ∃ n, (least ≤ n ∧ ∀ m ∈ most, n ≤ m) ∧ p.Matches.Rounds n before text after := Iff.rfl

/-! ## One character after the other -/

theorem matchesEmpty_iff (h : p.Ordered) :
    p.matchesEmpty before after = true ↔ p.Matches before [] after := by
  induction p with
  | empty => simp [matchesEmpty, Matches]
  | chars s => simp [matchesEmpty, Matches]
  | boundary b => simp [matchesEmpty, Matches]
  | seq p q ihp ihq =>
    rw [matchesEmpty, Bool.and_eq_true, ihp h.1, ihq h.2, matches_seq_iff, Reading.seq_nil_iff]
  | alt p q ihp ihq => rw [matchesEmpty, Bool.or_eq_true, ihp h.1, ihq h.2, matches_alt_iff]
  | times least most p ih =>
    rw [matchesEmpty, Bool.or_eq_true, beq_iff_eq, ih h.2, matches_times_iff]
    simp only [Reading.rounds_nil_iff]
    constructor
    · intro hempty
      exact ⟨least, ⟨Nat.le_refl least, h.1⟩, hempty⟩
    · rintro ⟨n, ⟨hle, -⟩, rfl | hempty⟩
      · exact .inl (Nat.le_zero.1 hle)
      · exact .inr hempty

theorem matches_andThen_iff :
    (p.andThen q).Matches before text after ↔ p.Matches.Seq q.Matches before text after := by
  unfold andThen
  split
  · constructor
    · intro h
      exact ⟨[], text, rfl, rfl, h⟩
    · rintro ⟨u, v, rfl, rfl, h⟩
      exact h
  · rfl

theorem Ordered.andThen (hp : p.Ordered) (hq : q.Ordered) : (p.andThen q).Ordered := by
  unfold Pattern.andThen
  split
  · exact hq
  · exact ⟨hp, hq⟩

/-- What is left of a sequence when its first part reads the character. -/
theorem seq_rest_iff {qs : List Pattern} {M N : Reading}
    (h : ∀ text after, M before (c :: text) after ↔ ∃ q ∈ qs, q.Matches (some c) text after) :
    (M.rest before c).Seq N (some c) text after ↔
      ∃ q ∈ qs, q.Matches.Seq N (some c) text after := by
  rw [Reading.seq_congr_left
    (K := fun before text after => ∃ q, q ∈ qs ∧ q.Matches before text after) h,
    Reading.seq_exists_left]

theorem exists_andThen_iff {qs : List Pattern} :
    (∃ q ∈ qs.map (·.andThen p), q.Matches before text after) ↔
      ∃ q ∈ qs, q.Matches.Seq p.Matches before text after := by
  simp only [List.mem_map, exists_exists_and_eq_and, matches_andThen_iff]

/-- The rounds that may follow the one that reads a character. `empty` tells whether there may be
empty rounds before it. -/
theorem rounds_left_iff {least : Nat} {most : Option Nat} {empty : Bool} {F : Nat → Prop}
    (horder : ∀ m ∈ most, least ≤ m) (hmost : most ≠ some 0) :
    (∃ n, (least ≤ n ∧ ∀ m ∈ most, n ≤ m) ∧ ∃ k, (k < n ∧ (k + 1 = n ∨ empty = true)) ∧ F k) ↔
      ∃ k, ((if empty then 0 else least - 1) ≤ k ∧ ∀ m ∈ most.map (· - 1), k ≤ m) ∧ F k := by
  simp only [Option.mem_def, Option.map_eq_some_iff, forall_exists_index, and_imp,
    forall_apply_eq_imp_iff₂] at horder ⊢
  constructor
  · rintro ⟨n, ⟨hleast, hn⟩, k, ⟨hk, hrounds⟩, hF⟩
    refine ⟨k, ⟨?_, ?_⟩, hF⟩
    · split
      · exact Nat.zero_le k
      · rcases hrounds with rfl | hempty
        · omega
        · contradiction
    · intro m hm
      have := hn m hm
      omega
  · rintro ⟨k, ⟨hleast, hk⟩, hF⟩
    have hbound : ∀ m, most = some m → k + 1 ≤ m := by
      intro m hm
      have := hk m hm
      have : m ≠ 0 := by
        rintro rfl
        exact hmost hm
      omega
    cases empty with
    | false =>
      simp only [Bool.false_eq_true, if_false] at hleast
      exact ⟨k + 1, ⟨by omega, hbound⟩, k, ⟨Nat.lt_succ_self k, .inl rfl⟩, hF⟩
    | true =>
      refine ⟨max least (k + 1), ⟨Nat.le_max_left _ _, ?_⟩, k, ⟨by omega, .inr rfl⟩, hF⟩
      intro m hm
      exact Nat.max_le.2 ⟨horder m hm, hbound m hm⟩

theorem after_times {least : Nat} {most : Option Nat} (hmost : most ≠ some 0) :
    (times least most p).after before c = (p.after before c).map (·.andThen
      (times (if p.matchesEmpty before (some c) then 0 else least - 1) (most.map (· - 1)) p)) := by
  rw [Pattern.after]
  exact hmost

/-- A match goes on after its first character as a match of what is left of the pattern. -/
theorem matches_cons_iff (h : p.Ordered) :
    p.Matches before (c :: text) after ↔ ∃ q ∈ p.after before c, q.Matches (some c) text after := by
  induction p generalizing text after with
  | empty => simp [Matches, Pattern.after]
  | chars s =>
    simp only [Matches, Pattern.after]
    split <;> simp_all [Matches]
  | boundary b => simp [Matches, Pattern.after]
  | seq p q ihp ihq =>
    rw [matches_seq_iff, Reading.seq_cons_iff, seq_rest_iff fun text after => ihp h.1, ihq h.2,
      ← matchesEmpty_iff h.1, ← exists_andThen_iff, Pattern.after]
    simp only [List.mem_append, or_and_right, exists_or]
    split <;> simp_all [or_comm]
  | alt p q ihp ihq =>
    rw [matches_alt_iff, ihp h.1, ihq h.2, Pattern.after]
    simp only [List.mem_append, or_and_right, exists_or]
  | times least most p ih =>
    rw [matches_times_iff]
    simp only [Reading.rounds_cons_iff, ← matchesEmpty_iff h.2]
    by_cases hmost : most = some 0
    · simp [hmost, Pattern.after]
    · rw [rounds_left_iff h.1 hmost, ← Reading.seq_exists_right, after_times hmost]
      rw [exists_andThen_iff]
      exact seq_rest_iff fun text after => ih h.2

theorem ordered_of_mem_after (h : p.Ordered) (hq : q ∈ p.after before c) : q.Ordered := by
  induction p generalizing q with
  | empty => cases hq
  | chars s =>
    rw [Pattern.after] at hq
    split at hq
    · rw [List.mem_singleton.1 hq]
      trivial
    · cases hq
  | boundary b => cases hq
  | seq p p' ih ih' =>
    rw [Pattern.after, List.mem_append, List.mem_map] at hq
    rcases hq with ⟨q, hq, rfl⟩ | hq
    · exact (ih h.1 hq).andThen h.2
    · split at hq
      · exact ih' h.2 hq
      · cases hq
  | alt p p' ih ih' =>
    rw [Pattern.after, List.mem_append] at hq
    exact hq.elim (ih h.1) (ih' h.2)
  | times least most p ih =>
    by_cases hmost : most = some 0
    · rw [hmost, Pattern.after] at hq
      cases hq
    · rw [after_times hmost] at hq
      obtain ⟨r, hr, rfl⟩ := List.mem_map.1 hq
      refine (ih h.2 hr).andThen ⟨?_, h.2⟩
      intro m hm
      obtain ⟨n, hn, rfl⟩ := Option.map_eq_some_iff.1 hm
      have hleast := h.1 n hn
      split <;> omega

/-! ## Parts of a text -/

/-- The pattern matches what the text starts with. -/
def MatchesFront (p : Pattern) : Reading := p.Matches.Seq .anything

/-- The pattern matches a part of the text. -/
def MatchesPart (p : Pattern) : Reading := Reading.anything.Seq p.MatchesFront

theorem matchesFront_nil_iff : p.MatchesFront before [] after ↔ p.Matches before [] after := by
  rw [MatchesFront, Reading.seq_nil_iff]
  exact and_iff_left trivial

theorem matchesFront_cons_iff (h : p.Ordered) : p.MatchesFront before (c :: text) after ↔
    p.Matches before [] (some c) ∨ ∃ q ∈ p.after before c, q.MatchesFront (some c) text after := by
  rw [MatchesFront, Reading.seq_cons_iff, seq_rest_iff fun text after => matches_cons_iff h]
  exact or_congr_left (and_iff_left trivial)

theorem matchesPart_nil_iff : p.MatchesPart before [] after ↔ p.MatchesFront before [] after := by
  rw [MatchesPart, Reading.seq_nil_iff]
  exact and_iff_right trivial

theorem matchesPart_cons_iff : p.MatchesPart before (c :: text) after ↔
    p.MatchesFront before (c :: text) after ∨ p.MatchesPart (some c) text after := by
  rw [MatchesPart, Reading.seq_cons_iff]
  exact or_congr_left (and_iff_right trivial)

/-- What becomes of attempts at the end of the text. -/
theorem exists_matchesFront_nil_iff {qs : List Pattern} (h : ∀ q ∈ qs, q.Ordered) :
    (∃ q ∈ qs, q.MatchesFront before [] none) ↔ qs.any (·.matchesEmpty before none) = true := by
  rw [List.any_eq_true]
  refine exists_congr fun q => and_congr_right fun hq => ?_
  rw [matchesFront_nil_iff, matchesEmpty_iff (h q hq)]

/-- What becomes of attempts when a character is read. -/
theorem exists_matchesFront_cons_iff {qs : List Pattern} (h : ∀ q ∈ qs, q.Ordered) :
    (∃ q ∈ qs, q.MatchesFront before (c :: text) after) ↔
      qs.any (·.matchesEmpty before (some c)) = true ∨
        ∃ q ∈ qs.flatMap (·.after before c), q.MatchesFront (some c) text after := by
  rw [List.any_eq_true]
  constructor
  · rintro ⟨q, hq, hfront⟩
    rcases (matchesFront_cons_iff (h q hq)).1 hfront with hempty | ⟨r, hr, hrest⟩
    · exact .inl ⟨q, hq, (matchesEmpty_iff (h q hq)).2 hempty⟩
    · exact .inr ⟨r, List.mem_flatMap.2 ⟨q, hq, hr⟩, hrest⟩
  · rintro (⟨q, hq, hempty⟩ | ⟨r, hr, hrest⟩)
    · exact ⟨q, hq,
        (matchesFront_cons_iff (h q hq)).2 (.inl ((matchesEmpty_iff (h q hq)).1 hempty))⟩
    · obtain ⟨q, hq, hr⟩ := List.mem_flatMap.1 hr
      exact ⟨q, hq, (matchesFront_cons_iff (h q hq)).2 (.inr ⟨r, hr, hrest⟩)⟩

/-- One of the attempts that are under way succeeds, or one that is still to come. -/
theorem searchFrom_iff {live : List Pattern} (hp : p.Ordered) (hlive : ∀ q ∈ live, q.Ordered) :
    p.searchFrom before live text = true ↔
      (∃ q ∈ live, q.MatchesFront before text none) ∨ p.MatchesPart before text none := by
  induction text generalizing before live with
  | nil =>
    rw [searchFrom, ← exists_matchesFront_nil_iff (List.forall_mem_cons.2 ⟨hp, hlive⟩),
      matchesPart_nil_iff]
    simp only [List.mem_cons, exists_eq_or_imp, or_comm]
  | cons c text ih =>
    have hordered : ∀ q ∈ p :: live, q.Ordered := List.forall_mem_cons.2 ⟨hp, hlive⟩
    rw [searchFrom, Bool.or_eq_true, ih ?ordered]
    case ordered =>
      intro r hr
      obtain ⟨q, hq, hr⟩ := List.mem_flatMap.1 (mem_distinct.1 hr)
      exact ordered_of_mem_after (hordered q hq) hr
    simp only [mem_distinct]
    rw [← or_assoc, ← exists_matchesFront_cons_iff hordered, matchesPart_cons_iff, ← or_assoc]
    simp only [List.mem_cons, exists_eq_or_imp, or_comm]

/-- Searching finds a pattern exactly in the texts with a part that the pattern matches. -/
theorem search_iff (h : p.Ordered) : p.search text = true ↔
    ∃ u v w, text = u ++ (v ++ w) ∧ p.Matches u.getLast? v w.head? := by
  rw [search, searchFrom_iff h (by simp)]
  constructor
  · rintro (⟨q, hq, -⟩ | ⟨u, _, rfl, -, v, w, rfl, hmatch, -⟩)
    · cases hq
    · rw [Option.or_none, Option.or_none] at hmatch
      exact ⟨u, v, w, rfl, hmatch⟩
  · rintro ⟨u, v, w, rfl, hmatch⟩
    refine .inr ⟨u, v ++ w, rfl, trivial, v, w, rfl, ?_, trivial⟩
    rwa [Option.or_none, Option.or_none]

/-! ## Patterns for whole texts -/

/-- Whether the pattern matches the text wherever it stands. -/
def Accepts (p : Pattern) (text : List Char) : Prop :=
  ∀ before after, p.Matches before text after

/-- Whether the pattern matches the text wherever it stands at the end. -/
def AcceptsEnd (p : Pattern) (text : List Char) : Prop :=
  ∀ before, p.Matches before text none

section Accepts

variable {s : CharSet} {least : Nat} {u v : List Char}

theorem accepts_chars (h : s.contains c = true) : (chars s).Accepts [c] :=
  fun _ _ => ⟨c, h, rfl⟩

theorem accepts_seq (hp : p.Accepts u) (hq : q.Accepts v) : (seq p q).Accepts (u ++ v) :=
  fun _ _ => ⟨u, v, rfl, hp _ _, hq _ _⟩

theorem accepts_alt_left (h : p.Accepts text) : (alt p q).Accepts text :=
  fun _ _ => .inl (h _ _)

theorem accepts_alt_right (h : q.Accepts text) : (alt p q).Accepts text :=
  fun _ _ => .inr (h _ _)

theorem accepts_times {texts : List (List Char)} (h : ∀ t ∈ texts, p.Accepts t)
    (hleast : least ≤ texts.length) : (times least none p).Accepts texts.flatten := by
  have hrounds : ∀ before after, p.Matches.Rounds texts.length before texts.flatten after := by
    clear hleast
    induction texts with
    | nil => exact fun _ _ => rfl
    | cons t texts ih =>
      obtain ⟨ht, htexts⟩ := List.forall_mem_cons.1 h
      exact fun _ _ => ⟨t, texts.flatten, List.flatten_cons, ht _ _, ih htexts _ _⟩
  intro before after
  exact ⟨texts.length, ⟨hleast, by simp⟩, hrounds before after⟩

theorem accepts_times_chars (h : ∀ c ∈ text, s.contains c = true) (hleast : least ≤ text.length) :
    (times least none (chars s)).Accepts text := by
  have hflatten : (text.map fun c => [c]).flatten = text := by
    rw [← List.flatMap_def, List.flatMap_singleton']
  rw [← hflatten]
  refine accepts_times ?_ (by rwa [List.length_map])
  intro t ht
  obtain ⟨c, hc, rfl⟩ := List.mem_map.1 ht
  exact accepts_chars (h c hc)

theorem acceptsEnd_textEnd : (boundary .textEnd).AcceptsEnd [] :=
  fun _ => ⟨rfl, rfl⟩

theorem acceptsEnd_seq (hp : p.Accepts u) (hq : q.AcceptsEnd v) : (seq p q).AcceptsEnd (u ++ v) :=
  fun _ => ⟨u, v, rfl, by rw [Option.or_none]; exact hp _ _, hq _⟩

theorem acceptsEnd_of_accepts (h : p.Accepts text) :
    (seq p (boundary .textEnd)).AcceptsEnd text := by
  have hend := acceptsEnd_seq h acceptsEnd_textEnd
  rwa [List.append_nil] at hend

/-- A pattern that is tied to both ends of the text. -/
theorem matches_textStart_seq (h : p.AcceptsEnd text) :
    (seq (boundary .textStart) p).Matches none text none :=
  ⟨[], text, rfl, ⟨rfl, rfl⟩, h none⟩

theorem search_of_matches (hp : p.Ordered) (h : p.Matches none text none) : p.search text = true :=
  (search_iff hp).2 ⟨[], text, [], by simp, h⟩

end Accepts

end ClassLiterals.Pattern
