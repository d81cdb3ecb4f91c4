import ClassLiterals.Bytes.Cursor
import ClassLiterals.Proofs.Bytes.BigEndian

/-!
# What decoders read

A format says which bytes stand for which values. A decoder *reads* a format when it behaves as the
format asks for on every input: it takes the bytes of a value whatever follows them, it takes
nothing else, it runs out of bytes when the bytes of a value are cut short, and bytes after the end
of the input do not mend any other error.

Each combinator of decoders has its counterpart among formats, so what a decoder reads follows from
how it is put together. Main results: `Reads.bind`, `Reads.repeated`, and the formats of the
primitive decoders.

Often the only question is how one value is read. A decoder *takes* bytes for a value when it reads
them as that value, whatever follows. Main results on it: `Takes.bind` and `Takes.repeated`.
-/

namespace ClassLiterals

/-- Which bytes stand for which values. -/
abbrev Format (α : Type) := α → Bytes → Prop

/-- The format in which the valid values stand as their encodings. -/
def Format.of {α : Type} (valid : α → Prop) (encode : α → Bytes) : Format α :=
  fun a bs => valid a ∧ bs = encode a

namespace Decoder

variable {α β : Type} {d : Decoder α} {F G : Format α}

/-- The decoder reads the values of the format and nothing else. -/
structure Reads (d : Decoder α) (F : Format α) : Prop where
  /-- What was read is the bytes of the value. -/
  sound {c c' : Cursor} {a : α} (h : d c = .ok (a, c')) :
    ∃ bs, F a bs ∧ c.rest = bs ++ c'.rest ∧ c'.position = c.position + bs.length
  /-- The bytes of a value are read, whatever follows them. -/
  complete {a : α} {bs : Bytes} (h : F a bs) (position : Nat) (rest : Bytes) :
    d ⟨position, bs ++ rest⟩ = .ok (a, ⟨position + bs.length, rest⟩)
  /-- When the end of the bytes of a value is missing, the decoder notices that it is. -/
  truncated {a : α} {front back : Bytes} (h : F a (front ++ back)) (hback : back ≠ [])
    (position : Nat) :
    ∃ offset requested remaining,
      d ⟨position, front⟩ = .error (.outOfBounds offset requested remaining) ∧
        offset + remaining = position + front.length ∧ remaining < requested
  /-- An error that is not about missing bytes stays when there are more bytes. -/
  refused {c : Cursor} {e : FormatError} (h : d c = .error e)
    (he : ∀ offset requested remaining, e ≠ .outOfBounds offset requested remaining)
    (more : Bytes) : d ⟨c.position, c.rest ++ more⟩ = .error e

/-! ## Combinators -/

/-- Equal formats are read alike. -/
theorem Reads.congr (h : Reads d F) (hFG : ∀ a bs, F a bs ↔ G a bs) : Reads d G := by
  have : F = G := funext fun a => funext fun bs => propext (hFG a bs)
  rwa [this] at h

theorem Reads.pure (a : α) : Reads (pure a : Decoder α) fun b bs => b = a ∧ bs = [] where
  sound h := by
    cases h
    exact ⟨[], ⟨rfl, rfl⟩, rfl, rfl⟩
  complete := by
    rintro _ _ ⟨rfl, rfl⟩ position rest
    rfl
  truncated := by
    rintro _ front back ⟨-, h⟩ hback
    exact absurd (List.append_eq_nil_iff.1 h).2 hback
  refused h := nomatch h

/-- A decoder that always fails reads nothing. -/
theorem Reads.fail (e : FormatError) : Reads (fail e : Decoder α) fun _ _ => False where
  sound h := nomatch h
  complete h := h.elim
  truncated h := h.elim
  refused h _ _ := h

theorem bind_apply (d : Decoder α) (f : α → Decoder β) (c : Cursor) :
    (d >>= f) c = match d c with
      | .ok (a, c') => f a c'
      | .error e => .error e := by
  show Except.bind (d c) _ = _
  cases d c <;> rfl

/-- What two decoders in a row have read, the first of them has read a part of. -/
theorem bind_eq_ok_iff {f : α → Decoder β} {c : Cursor} {r : β × Cursor} :
    (d >>= f) c = .ok r ↔ ∃ a c₁, d c = .ok (a, c₁) ∧ f a c₁ = .ok r := by
  rw [bind_apply]
  cases hd : d c with
  | error e => simp
  | ok p =>
    obtain ⟨a, c₁⟩ := p
    constructor
    · intro h
      exact ⟨a, c₁, rfl, h⟩
    · rintro ⟨_, _, heq, h⟩
      cases heq
      exact h

/-- Two decoders in a row fail where the first of them does, or where the second one does after it.
-/
theorem bind_eq_error_iff {f : α → Decoder β} {c : Cursor} {e : FormatError} :
    (d >>= f) c = .error e ↔
      d c = .error e ∨ ∃ a c₁, d c = .ok (a, c₁) ∧ f a c₁ = .error e := by
  rw [bind_apply]
  cases d c with
  | error e' => simp
  | ok p =>
    obtain ⟨a, c₁⟩ := p
    constructor
    · intro h
      exact .inr ⟨a, c₁, rfl, h⟩
    · rintro (h | ⟨_, _, heq, h⟩)
      · cases h
      · cases heq
        exact h

/-- A decoder that goes on with what it has read reads the bytes of the one value followed by those
of the other. -/
theorem Reads.bind {f : α → Decoder β} {H : α → Format β} (hd : Reads d F)
    (hf : ∀ a, Reads (f a) (H a)) :
    Reads (d >>= f) fun b bs => ∃ a bs₁ bs₂, F a bs₁ ∧ bs = bs₁ ++ bs₂ ∧ H a b bs₂ where
  sound {c c' b} h := by
    rw [bind_apply] at h
    cases hc : d c with
    | error e => simp [hc] at h
    | ok r =>
      obtain ⟨a, c₁⟩ := r
      rw [hc] at h
      obtain ⟨bs₁, h₁, hrest₁, hpos₁⟩ := hd.sound hc
      obtain ⟨bs₂, h₂, hrest₂, hpos₂⟩ := (hf a).sound h
      refine ⟨bs₁ ++ bs₂, ⟨a, bs₁, bs₂, h₁, rfl, h₂⟩, ?_, ?_⟩
      · rw [hrest₁, hrest₂, List.append_assoc]
      · rw [hpos₂, hpos₁, List.length_append, Nat.add_assoc]
  complete := by
    rintro b _ ⟨a, bs₁, bs₂, h₁, rfl, h₂⟩ position rest
    rw [bind_apply, List.append_assoc, hd.complete h₁]
    simp only
    rw [(hf a).complete h₂, List.length_append, Nat.add_assoc]
  truncated := by
    rintro b front back ⟨a, bs₁, bs₂, h₁, hsplit, h₂⟩ hback position
    -- The cut is in the second part, or in the first one before its end.
    have hcut : (∃ mid, front = bs₁ ++ mid ∧ bs₂ = mid ++ back) ∨
        ∃ mid, bs₁ = front ++ mid ∧ mid ≠ [] := by
      rcases List.append_eq_append_iff.1 hsplit with ⟨mid, hbs₁, hback'⟩ | ⟨mid, hfront, hbs₂⟩
      · cases mid with
        | nil => exact .inl ⟨[], by simpa using hbs₁.symm, by simpa using hback'.symm⟩
        | cons x mid => exact .inr ⟨x :: mid, hbs₁, by simp⟩
      · exact .inl ⟨mid, hfront, hbs₂⟩
    rcases hcut with ⟨mid, rfl, rfl⟩ | ⟨mid, rfl, hmid⟩
    · obtain ⟨offset, requested, remaining, he, hsum, hlt⟩ :=
        (hf a).truncated h₂ hback (position + bs₁.length)
      refine ⟨offset, requested, remaining, ?_, ?_, hlt⟩
      · rw [bind_apply, hd.complete h₁]
        exact he
      · rw [hsum, List.length_append, Nat.add_assoc]
    · obtain ⟨offset, requested, remaining, he, hsum, hlt⟩ := hd.truncated h₁ hmid position
      exact ⟨offset, requested, remaining, by rw [bind_apply, he], hsum, hlt⟩
  refused {c e} h he more := by
    rw [bind_apply] at h ⊢
    cases hc : d c with
    | error e' =>
      rw [hc] at h
      cases h
      rw [hd.refused hc he]
    | ok r =>
      obtain ⟨a, c₁⟩ := r
      rw [hc] at h
      obtain ⟨bs₁, h₁, hrest, hpos⟩ := hd.sound hc
      rw [hrest, List.append_assoc, hd.complete h₁]
      simp only
      rw [← hpos]
      exact (hf a).refused h he more

/-- Applying a function to what was read. -/
theorem Reads.map (f : α → β) (hd : Reads d F) :
    Reads (f <$> d) fun b bs => ∃ a, F a bs ∧ b = f a := by
  have hbind : f <$> d = d >>= fun a => Pure.pure (f a) := (bind_pure_comp f d).symm
  rw [hbind]
  exact (hd.bind fun a => Reads.pure (f a)).congr fun b bs => by simp

/-- A format in which all values are valid. -/
theorem Reads.of_all {encode : α → Bytes} (hd : Reads d fun a bs => bs = encode a) :
    Reads d (.of (fun _ => True) encode) :=
  hd.congr fun _ _ => (and_iff_right trivial).symm

/-- Reads two values, one after the other. -/
def pair (d : Decoder α) (d' : Decoder β) : Decoder (α × β) :=
  d >>= fun a => d' >>= fun b => Pure.pure (a, b)

theorem Reads.pair {d' : Decoder β} {valid : α → Prop} {encode : α → Bytes} {valid' : β → Prop}
    {encode' : β → Bytes} (hd : Reads d (.of valid encode)) (hd' : Reads d' (.of valid' encode')) :
    Reads (pair d d')
      (.of (fun p => valid p.1 ∧ valid' p.2) fun p => encode p.1 ++ encode' p.2) := by
  refine (hd.bind fun a => hd'.bind fun b => Reads.pure (a, b)).congr fun p bs => ?_
  constructor
  · rintro ⟨a, _, _, ⟨ha, rfl⟩, rfl, b, _, _, ⟨hb, rfl⟩, rfl, rfl, rfl⟩
    exact ⟨⟨ha, hb⟩, by rw [List.append_nil]⟩
  · rintro ⟨⟨ha, hb⟩, rfl⟩
    exact ⟨p.1, _, _, ⟨ha, rfl⟩, rfl, p.2, _, [], ⟨hb, rfl⟩, (List.append_nil _).symm, rfl, rfl⟩

/-- Values made of what was read, and taken apart again by `g`. -/
theorem Reads.map_of {valid : α → Prop} {encode : α → Bytes} (hd : Reads d (.of valid encode))
    (f : α → β) (g : β → α) (hgf : ∀ a, g (f a) = a) (hfg : ∀ b, f (g b) = b) :
    Reads (f <$> d) (.of (fun b => valid (g b)) fun b => encode (g b)) := by
  refine (hd.map f).congr fun b bs => ?_
  constructor
  · rintro ⟨a, ⟨ha, rfl⟩, rfl⟩
    rw [Format.of, hgf]
    exact ⟨ha, rfl⟩
  · rintro ⟨hb, rfl⟩
    exact ⟨g b, ⟨hb, rfl⟩, (hfg b).symm⟩

/-- A decoder that hands out the bytes it took as well. -/
theorem Reads.withBytes (hd : Reads d F) :
    Reads (withBytes d) fun p bs => F p.1 bs ∧ p.2 = bs where
  sound {c c' p} h := by
    rw [Decoder.withBytes] at h
    cases hc : d c with
    | error e => simp [hc] at h
    | ok r =>
      obtain ⟨a, c₁⟩ := r
      rw [hc] at h
      cases h
      obtain ⟨bs, hF, hrest, hpos⟩ := hd.sound hc
      refine ⟨bs, ⟨hF, ?_⟩, hrest, hpos⟩
      simp [hrest, hpos]
  complete := by
    rintro ⟨a, raw⟩ bs ⟨hF, rfl⟩ position rest
    rw [Decoder.withBytes, hd.complete hF]
    simp
  truncated := by
    rintro ⟨a, raw⟩ front back ⟨hF, -⟩ hback position
    obtain ⟨offset, requested, remaining, he, hsum, hlt⟩ := hd.truncated hF hback position
    exact ⟨offset, requested, remaining, by rw [Decoder.withBytes, he], hsum, hlt⟩
  refused {c e} h he more := by
    rw [Decoder.withBytes] at h ⊢
    cases hc : d c with
    | error e' =>
      rw [hc] at h
      cases h
      rw [hd.refused hc he]
    | ok r => simp [hc] at h

/-! ## Repetition -/

theorem repeated_go_zero (done : List α) : repeated.go d 0 done = Pure.pure done.reverse := rfl

theorem repeated_go_succ (n : Nat) (done : List α) :
    repeated.go d (n + 1) done = d >>= fun a => repeated.go d n (a :: done) := by
  funext c
  rw [bind_apply]
  rfl

theorem Reads.repeated_go {valid : α → Prop} {encode : α → Bytes}
    (hd : Reads d (.of valid encode)) (n : Nat) (done : List α) :
    Reads (repeated.go d n done) fun as bs =>
      ∃ new, as = done.reverse ++ new ∧ new.length = n ∧ (∀ a ∈ new, valid a) ∧
        bs = new.flatMap encode := by
  induction n generalizing done with
  | zero =>
    rw [repeated_go_zero]
    refine (Reads.pure done.reverse).congr fun as bs => ?_
    constructor
    · rintro ⟨rfl, rfl⟩
      exact ⟨[], by simp⟩
    · rintro ⟨new, rfl, hlen, -, rfl⟩
      rw [List.eq_nil_of_length_eq_zero hlen]
      simp
  | succ n ih =>
    rw [repeated_go_succ]
    refine (hd.bind fun a => ih (a :: done)).congr fun as bs => ?_
    constructor
    · rintro ⟨a, _, _, ⟨ha, rfl⟩, rfl, new, rfl, hlen, hvalid, rfl⟩
      exact ⟨a :: new, by simp, by simp [hlen], by simpa using ⟨ha, hvalid⟩, by simp⟩
    · rintro ⟨new, rfl, hlen, hvalid, rfl⟩
      cases new with
      | nil => simp at hlen
      | cons a new =>
        simp only [List.length_cons, Nat.add_right_cancel_iff] at hlen
        simp only [List.mem_cons, forall_eq_or_imp] at hvalid
        exact ⟨a, _, _, ⟨hvalid.1, rfl⟩, List.flatMap_cons, new, by simp, hlen, hvalid.2, rfl⟩

/-- A decoder repeated `n` times reads lists of `n` values. -/
theorem Reads.repeated {valid : α → Prop} {encode : α → Bytes} (hd : Reads d (.of valid encode))
    (n : Nat) :
    Reads (repeated n d) fun as bs =>
      as.length = n ∧ (∀ a ∈ as, valid a) ∧ bs = as.flatMap encode :=
  (hd.repeated_go n []).congr fun as bs => by simp

/-! ## Primitive decoders -/

/-- Bytes stand for themselves. -/
theorem reads_bytes (n : Nat) : Reads (bytes n) fun a bs => bs = a ∧ a.length = n where
  sound {c c' a} h := by
    simp only [bytes] at h
    split at h
    · rename_i hn
      rw [Bytes.hasAtLeast_iff] at hn
      cases h
      exact ⟨c.rest.take n, ⟨rfl, List.length_take_of_le hn⟩, (List.take_append_drop n _).symm,
        by rw [List.length_take_of_le hn]⟩
    · simp at h
  complete := by
    rintro a _ ⟨rfl, rfl⟩ position rest
    simp [bytes]
  truncated := by
    rintro a front back ⟨rfl, hlen⟩ hback position
    have hpos : 0 < back.length := List.length_pos_iff.2 hback
    rw [List.length_append] at hlen
    have hshort : ¬ Bytes.hasAtLeast front n = true := by
      rw [Bytes.hasAtLeast_iff]
      omega
    refine ⟨position, n, front.length, ?_, rfl, by omega⟩
    rw [bytes, if_neg hshort]
    rfl
  refused {c e} h he more := by
    simp only [bytes] at h
    split at h
    · simp at h
    · cases h
      exact absurd rfl (he _ _ _)

theorem reads_number (width : Nat) :
    Reads (number width) fun n bs => bs.length = width ∧ n = bs.toNat := by
  refine ((reads_bytes width).map Bytes.toNat).congr fun n bs => ?_
  constructor
  · rintro ⟨a, ⟨rfl, hlen⟩, rfl⟩
    exact ⟨hlen, rfl⟩
  · rintro ⟨hlen, rfl⟩
    exact ⟨bs, ⟨rfl, hlen⟩, rfl⟩

theorem reads_u1 : Reads u1 fun v bs => bs = [v] := by
  refine ((reads_number 1).map UInt8.ofNat).congr fun v bs => ?_
  constructor
  · rintro ⟨n, ⟨hlen, rfl⟩, rfl⟩
    obtain ⟨b, rfl⟩ := List.length_eq_one_iff.1 hlen
    simp [Bytes.toNat]
  · rintro rfl
    exact ⟨_, ⟨rfl, rfl⟩, by simp [Bytes.toNat]⟩

theorem reads_u2 : Reads u2 fun v bs => bs = Bytes.ofUInt16 v := by
  refine ((reads_number 2).map UInt16.ofNat).congr fun v bs => ?_
  constructor
  · rintro ⟨n, ⟨hlen, rfl⟩, rfl⟩
    exact (Bytes.ofUInt16_toNat hlen).symm
  · rintro rfl
    exact ⟨_, ⟨Bytes.length_ofUInt16 v, rfl⟩, (Bytes.uint16_toNat_ofUInt16 v).symm⟩

theorem reads_u4 : Reads u4 fun v bs => bs = Bytes.ofUInt32 v := by
  refine ((reads_number 4).map UInt32.ofNat).congr fun v bs => ?_
  constructor
  · rintro ⟨n, ⟨hlen, rfl⟩, rfl⟩
    exact (Bytes.ofUInt32_toNat hlen).symm
  · rintro rfl
    exact ⟨_, ⟨Bytes.length_ofUInt32 v, rfl⟩, (Bytes.uint32_toNat_ofUInt32 v).symm⟩

/-! ## Counted lists and measured bytes -/

/-- Reads bytes that follow their number. -/
def measured : Decoder Bytes := u4 >>= fun size => bytes size.toNat

/-- Bytes after their number. -/
def encodeMeasured (a : Bytes) : Bytes := Bytes.ofUInt32 (UInt32.ofNat a.length) ++ a

theorem reads_measured : Reads measured (.of (fun a => a.length < 2 ^ 32) encodeMeasured) := by
  refine (reads_u4.bind fun size => reads_bytes size.toNat).congr fun a bs => ?_
  constructor
  · rintro ⟨size, _, _, rfl, rfl, rfl, hlen⟩
    rw [Format.of, encodeMeasured, hlen, UInt32.ofNat_toNat]
    exact ⟨size.toNat_lt, rfl⟩
  · rintro ⟨hlt, rfl⟩
    exact ⟨_, _, _, rfl, rfl, rfl, (UInt32.toNat_ofNat_of_lt' hlt).symm⟩

/-- Reads a list that follows its length. -/
def counted (d : Decoder α) : Decoder (List α) := u2 >>= fun count => Decoder.repeated count.toNat d

/-- The bytes of a list after its length. -/
def encodeCounted (encode : α → Bytes) (as : List α) : Bytes :=
  Bytes.ofUInt16 (UInt16.ofNat as.length) ++ as.flatMap encode

/-- A list of valid values that can be counted in sixteen bits. -/
structure Countable (valid : α → Prop) (as : List α) : Prop where
  length_le : as.length ≤ 65535
  valid : ∀ a ∈ as, valid a

theorem Reads.counted {valid : α → Prop} {encode : α → Bytes} (hd : Reads d (.of valid encode)) :
    Reads (counted d) (.of (Countable valid) (encodeCounted encode)) := by
  refine (reads_u2.bind fun count => hd.repeated count.toNat).congr fun as bs => ?_
  constructor
  · rintro ⟨count, _, _, rfl, rfl, hlen, hvalid, rfl⟩
    have hcount : UInt16.ofNat as.length = count := by rw [hlen, UInt16.ofNat_toNat]
    have hle : as.length ≤ 65535 := by
      rw [hlen]
      exact Nat.le_of_lt_succ count.toNat_lt
    exact ⟨⟨hle, hvalid⟩, by rw [encodeCounted, hcount]⟩
  · rintro ⟨⟨hle, hvalid⟩, rfl⟩
    have hcount : (UInt16.ofNat as.length).toNat = as.length :=
      UInt16.toNat_ofNat_of_lt' (Nat.lt_succ_of_le hle)
    exact ⟨_, _, _, rfl, rfl, hcount.symm, hvalid, rfl⟩

/-! ## Taking bytes -/

variable {a : α} {b : β} {bs bs' : Bytes}

/-- The decoder takes the bytes for the value, whatever follows them. -/
def Takes (d : Decoder α) (a : α) (bs : Bytes) : Prop :=
  ∀ position rest, d ⟨position, bs ++ rest⟩ = .ok (a, ⟨position + bs.length, rest⟩)

theorem Reads.takes {F : Format α} (h : Reads d F) (hF : F a bs) : Takes d a bs :=
  fun position rest => h.complete hF position rest

theorem Takes.pure (a : α) : Takes (pure a) a [] :=
  fun _ _ => rfl

theorem Takes.bind {f : α → Decoder β} (hd : Takes d a bs) (hf : Takes (f a) b bs') :
    Takes (d >>= f) b (bs ++ bs') := by
  intro position rest
  rw [bind_apply, List.append_assoc, hd]
  simp only
  rw [hf, List.length_append, Nat.add_assoc]

/-- Nothing is taken any more. -/
theorem Takes.last {f : α → Decoder β} (hd : Takes d a bs) (hf : Takes (f a) b []) :
    Takes (d >>= f) b bs := by
  have h := hd.bind hf
  rwa [List.append_nil] at h

theorem Takes.decode (h : Takes d a bs) : d.decode bs = .ok a := by
  have hread := h 0 []
  rw [List.append_nil] at hread
  rw [Decoder.decode, Cursor.atStart, hread]
  rfl

theorem Takes.repeated_go {xs : List β} {f : β → α} {g : β → Bytes}
    (h : ∀ x ∈ xs, Takes d (f x) (g x)) (done : List α) :
    Takes (repeated.go d xs.length done) (done.reverse ++ xs.map f) (xs.flatMap g) := by
  induction xs generalizing done with
  | nil =>
    rw [List.map_nil, List.append_nil]
    exact Takes.pure done.reverse
  | cons x xs ih =>
    have hx : Takes d (f x) (g x) := h x List.mem_cons_self
    have hxs := ih (fun y hy => h y (List.mem_cons_of_mem x hy)) (f x :: done)
    rw [List.reverse_cons, List.append_assoc] at hxs
    rw [List.length_cons, repeated_go_succ, List.flatMap_cons]
    exact hx.bind hxs

theorem Takes.repeated {xs : List β} {f : β → α} {g : β → Bytes}
    (h : ∀ x ∈ xs, Takes d (f x) (g x)) : Takes (repeated xs.length d) (xs.map f) (xs.flatMap g) :=
  Takes.repeated_go h []

theorem takes_u1 (v : UInt8) : Takes u1 v [v] := reads_u1.takes rfl

theorem takes_u2 (v : UInt16) : Takes u2 v (Bytes.ofUInt16 v) := reads_u2.takes rfl

theorem takes_bytes {n : Nat} (h : bs.length = n) : Takes (bytes n) bs bs :=
  (reads_bytes n).takes ⟨rfl, h⟩

/-- A count of two bytes, and what comes after it. -/
theorem Takes.afterCount {n : Nat} {f : UInt16 → Decoder β} (hn : n ≤ 65535)
    (hf : ∀ count : UInt16, count.toNat = n → Takes (f count) b bs) :
    Takes (u2 >>= f) b (Bytes.ofUInt16 (UInt16.ofNat n) ++ bs) :=
  (takes_u2 _).bind (hf _ (UInt16.toNat_ofNat_of_lt' (Nat.lt_succ_of_le hn)))

/-- A count of one byte, and what comes after it. -/
theorem Takes.afterShortCount {n : Nat} {f : UInt8 → Decoder β} (hn : n ≤ 255)
    (hf : ∀ count : UInt8, count.toNat = n → Takes (f count) b bs) :
    Takes (u1 >>= f) b (UInt8.ofNat n :: bs) :=
  (takes_u1 _).bind (hf _ (UInt8.toNat_ofNat_of_lt' (Nat.lt_succ_of_le hn)))

/-! ## Reading from the front of a byte string -/

section Decode

variable {valid : α → Prop} {encode : α → Bytes}

/-- What stands at the front of a byte string is read; what comes after it does not matter. -/
theorem Reads.decode_eq_ok_iff (h : Reads d (.of valid encode)) {bs : Bytes} {a : α} :
    d.decode bs = .ok a ↔ valid a ∧ encode a <+: bs := by
  rw [Decoder.decode]
  constructor
  · intro hdecode
    cases hread : d (.atStart bs) with
    | error e =>
      rw [hread] at hdecode
      cases hdecode
    | ok r =>
      obtain ⟨a', c'⟩ := r
      rw [hread] at hdecode
      cases hdecode
      obtain ⟨used, ⟨hvalid, rfl⟩, hrest, -⟩ := h.sound hread
      exact ⟨hvalid, c'.rest, hrest.symm⟩
  · rintro ⟨hvalid, rest, rfl⟩
    rw [Cursor.atStart, h.complete ⟨hvalid, rfl⟩]
    rfl

/-- A value that is cut short is noticed, and so is where the bytes end. -/
theorem Reads.decode_take (h : Reads d (.of valid encode)) {a : α} (ha : valid a) {n : Nat}
    (hn : n < (encode a).length) :
    ∃ offset requested remaining,
      d.decode ((encode a).take n) = .error (.outOfBounds offset requested remaining) ∧
        offset + remaining = n ∧ remaining < requested := by
  have hwhole : Format.of valid encode a ((encode a).take n ++ (encode a).drop n) := by
    rw [List.take_append_drop]
    exact ⟨ha, rfl⟩
  have hback : (encode a).drop n ≠ [] := by
    rw [ne_eq, List.drop_eq_nil_iff]
    omega
  obtain ⟨offset, requested, remaining, hread, hsum, hlt⟩ := h.truncated hwhole hback 0
  refine ⟨offset, requested, remaining, ?_, ?_, hlt⟩
  · rw [Decoder.decode, Cursor.atStart, hread]
    rfl
  · rw [hsum, Nat.zero_add, List.length_take_of_le (Nat.le_of_lt hn)]

end Decode

end Decoder
end ClassLiterals
