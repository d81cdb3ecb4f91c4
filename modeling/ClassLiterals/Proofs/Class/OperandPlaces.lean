import ClassLiterals.Proofs.Class.OperandReading

/-!
# Where the operands of an attribute stand

The readers of operands go through a payload from its front, whatever is nested in it, and never
turn back. So each operand but the name is the number that two bytes of the payload spell, the
places of these bytes follow one another, and there are no more operands than the payload has room
for. Bytes behind what was read make no difference.

A reader is compared with one that may go deeper, because more bytes mean more depth: what the first
one finds, the second one takes from the same bytes, whatever follows them. As every level of
nesting takes a byte at least, the depth never runs out.

Main result: `operands_local`.
-/

namespace ClassLiterals

/-! ## Numbers in a byte string -/

namespace Bytes

/-- The number that two bytes spell, the first of them at position `p`. -/
def uint16At (bs : Bytes) (p : Nat) : UInt16 := UInt16.ofNat (bs.slice p (p + 2)).toNat

/-- The numbers stand in the byte string, each in two bytes of its own and behind the one before. -/
def Holds (bs : Bytes) (is : List UInt16) : Prop :=
  ∃ places : List Nat, places.Pairwise (fun p q => p + 2 ≤ q) ∧
    (∀ p ∈ places, p + 2 ≤ bs.length) ∧ is = places.map bs.uint16At

section Holds

variable {bs cs : Bytes} {is js : List UInt16}

theorem uint16At_append_of_le {p : Nat} (h : p + 2 ≤ bs.length) :
    (bs ++ cs).uint16At p = bs.uint16At p := by
  have hslice : (bs ++ cs).slice p (p + 2) = bs.slice p (p + 2) := by
    rw [slice, slice, List.drop_append_of_le_length (by omega), List.take_append_of_le_length]
    rw [List.length_drop]
    omega
  rw [uint16At, uint16At, hslice]

theorem uint16At_append_add (p : Nat) : (bs ++ cs).uint16At (bs.length + p) = cs.uint16At p := by
  have hslice : (bs ++ cs).slice (bs.length + p) (bs.length + p + 2) = cs.slice p (p + 2) := by
    rw [slice, slice, Nat.add_sub_cancel_left, Nat.add_sub_cancel_left, List.drop_length_add_append]
  rw [uint16At, uint16At, hslice]

theorem holds_nil (bs : Bytes) : bs.Holds [] :=
  ⟨[], .nil, fun _ hp => absurd hp List.not_mem_nil, rfl⟩

theorem holds_ofUInt16 (i : UInt16) : (ofUInt16 i).Holds [i] := by
  have hslice : (ofUInt16 i).slice 0 (0 + 2) = ofUInt16 i := rfl
  refine ⟨[0], List.pairwise_singleton _ _, by simp, ?_⟩
  rw [List.map_singleton, uint16At, hslice, uint16_toNat_ofUInt16]

/-- The places in the second of two byte strings come after those in the first one. -/
theorem Holds.append (h : bs.Holds is) (h' : cs.Holds js) : (bs ++ cs).Holds (is ++ js) := by
  obtain ⟨ps, hps, hin, rfl⟩ := h
  obtain ⟨qs, hqs, hin', rfl⟩ := h'
  refine ⟨ps ++ qs.map (bs.length + ·), ?_, ?_, ?_⟩
  · rw [List.pairwise_append]
    refine ⟨hps, hqs.map _ fun p q hpq => by omega, ?_⟩
    intro p hp q hq
    obtain ⟨q, -, rfl⟩ := List.mem_map.1 hq
    have := hin p hp
    omega
  · intro p hp
    rw [List.length_append]
    rcases List.mem_append.1 hp with hp | hp
    · have := hin p hp
      omega
    · obtain ⟨q, hq, rfl⟩ := List.mem_map.1 hp
      have := hin' q hq
      omega
  · rw [List.map_append, List.map_map]
    congr 1
    · exact List.map_congr_left fun p hp => (uint16At_append_of_le (hin p hp)).symm
    · exact List.map_congr_left fun q _ => (uint16At_append_add q).symm

/-- Bytes in front of the numbers. -/
theorem Holds.behind (bs : Bytes) (h : cs.Holds js) : (bs ++ cs).Holds js :=
  (holds_nil bs).append h

/-- Bytes behind the numbers. -/
theorem Holds.before (h : bs.Holds is) (cs : Bytes) : (bs ++ cs).Holds is := by
  have happend := h.append (holds_nil cs)
  rwa [List.append_nil] at happend

theorem two_mul_length_le_of_pairwise {places : List Nat} {start stop : Nat}
    (h : places.Pairwise fun p q => p + 2 ≤ q) (hstart : ∀ p ∈ places, start ≤ p)
    (hstop : ∀ p ∈ places, p + 2 ≤ stop) (hle : start ≤ stop) :
    start + 2 * places.length ≤ stop := by
  induction places generalizing start with
  | nil => exact hle
  | cons p places ih =>
    rw [List.pairwise_cons] at h
    have hp : p + 2 ≤ stop := hstop p List.mem_cons_self
    have hfirst : start ≤ p := hstart p List.mem_cons_self
    have hrest := ih h.2 h.1 (fun q hq => hstop q (List.mem_cons_of_mem p hq)) hp
    rw [List.length_cons]
    omega

/-- Each number takes two bytes. -/
theorem Holds.two_mul_length_le (h : bs.Holds is) : 2 * is.length ≤ bs.length := by
  obtain ⟨places, hapart, hin, rfl⟩ := h
  have hle := two_mul_length_le_of_pairwise hapart (fun p _ => p.zero_le) hin bs.length.zero_le
  rwa [List.length_map, Nat.zero_add] at *

end Holds

end Bytes

/-! ## Readers that go deeper -/

namespace Operands

open Decoder

section Tracks

variable {α β : Type} {size : Nat}

/-- What `d` reads where at most `size` bytes are left is what the format says of the bytes it
reads, and `d'` takes it from these bytes, whatever follows them. -/
def Tracks (size : Nat) (d d' : Decoder α) (F : Format α) : Prop :=
  ∀ c a c', c.rest.length ≤ size → d c = .ok (a, c') →
    ∃ bs, c.rest = bs ++ c'.rest ∧ F a bs ∧ Takes d' a bs

theorem Tracks.of_reads {d : Decoder α} {F : Format α} (h : Reads d F) : Tracks size d d F := by
  intro c a c' _ hread
  obtain ⟨bs, hF, hrest, -⟩ := h.sound hread
  exact ⟨bs, hrest, hF, h.takes hF⟩

theorem Tracks.imp {d d' : Decoder α} {F G : Format α} (h : Tracks size d d' F)
    (hFG : ∀ a bs, F a bs → G a bs) : Tracks size d d' G := by
  intro c a c' hsize hread
  obtain ⟨bs, hrest, hF, htakes⟩ := h c a c' hsize hread
  exact ⟨bs, hrest, hFG a bs hF, htakes⟩

theorem Tracks.mono {d d' : Decoder α} {F : Format α} {size' : Nat} (h : Tracks size d d' F)
    (hle : size' ≤ size) : Tracks size' d d' F :=
  fun c a c' hsize hread => h c a c' (hsize.trans hle) hread

/-- What is read second is read from what the first value leaves. -/
theorem Tracks.bind {d d' : Decoder α} {f f' : α → Decoder β} {F : Format α} {G : α → Format β}
    {H : Format β} (hd : Tracks size d d' F)
    (hf : ∀ a bs, F a bs → bs.length ≤ size → Tracks (size - bs.length) (f a) (f' a) (G a))
    (hH : ∀ a b bs bs', F a bs → G a b bs' → H b (bs ++ bs')) :
    Tracks size (d >>= f) (d' >>= f') H := by
  intro c b c' hsize hread
  obtain ⟨a, c₁, ha, hb⟩ := bind_eq_ok_iff.1 hread
  obtain ⟨bs, hrest, hF, htakes⟩ := hd c a c₁ hsize ha
  rw [hrest, List.length_append] at hsize
  have hleft : c₁.rest.length ≤ size - bs.length := by omega
  obtain ⟨bs', hrest', hG, htakes'⟩ := hf a bs hF (by omega) c₁ b c' hleft hb
  refine ⟨bs ++ bs', ?_, hH a b bs bs' hF hG, htakes.bind htakes'⟩
  rw [hrest, hrest', List.append_assoc]

/-- Any bytes stand for any value. -/
abbrev anything : Format α := fun _ _ => True

/-- A value comes first that does not matter. -/
theorem Tracks.discard {e e' : Decoder α} {f f' : α → Decoder β} {F : Format α}
    (he : Tracks size e e' F) (hf : ∀ a, Tracks size (f a) (f' a) anything) :
    Tracks size (e >>= f) (e' >>= f') anything :=
  he.bind (fun a _ _ _ => (hf a).mono (Nat.sub_le _ _)) fun _ _ _ _ _ _ => trivial

/-- The operands are those in `front` and then numbers that stand in the bytes. -/
def Adds (front : List UInt16) : Format (List UInt16) :=
  fun is bs => ∃ back, is = front ++ back ∧ bs.Holds back

/-- The operands of the front of a byte string are found in front of more bytes as well. -/
theorem Tracks.decode {d d' : Decoder (List UInt16)} {front is : List UInt16} {bs : Bytes}
    (h : Tracks bs.length d d' (Adds front)) (hdecode : d.decode bs = .ok is) (more : Bytes) :
    d'.decode (bs ++ more) = .ok is ∧ Adds front is bs := by
  rw [Decoder.decode] at hdecode ⊢
  cases hread : d (.atStart bs) with
  | error e =>
    rw [hread] at hdecode
    cases hdecode
  | ok r =>
    obtain ⟨is', c⟩ := r
    rw [hread] at hdecode
    cases hdecode
    obtain ⟨used, hused, ⟨back, hfront, hback⟩, htakes⟩ := h _ _ _ (Nat.le_refl _) hread
    change bs = used ++ c.rest at hused
    subst hused
    constructor
    · rw [Cursor.atStart, List.append_assoc, htakes]
      rfl
    · exact ⟨back, hfront, hback.before c.rest⟩

variable {e e' : Decoder α} {f f' : α → Decoder (List UInt16)} {F : Format α}
  {d d' : Decoder (List UInt16)} {g g' : List UInt16 → Decoder (List UInt16)}
  {front : List UInt16}

/-- A value without operands comes first. -/
theorem Tracks.skip (he : Tracks size e e' F) (hf : ∀ a, Tracks size (f a) (f' a) (Adds front)) :
    Tracks size (e >>= f) (e' >>= f') (Adds front) := by
  refine he.bind (fun a _ _ _ => (hf a).mono (Nat.sub_le _ _)) ?_
  rintro a _ bs bs' - ⟨back, rfl, hback⟩
  exact ⟨back, rfl, hback.behind bs⟩

/-- Operands come first, which go to the end of the front. -/
theorem Tracks.collect (hd : Tracks size d d' (Adds []))
    (hg : ∀ is, Tracks size (g is) (g' is) (Adds (front ++ is))) :
    Tracks size (d >>= g) (d' >>= g') (Adds front) := by
  refine hd.bind (fun is _ _ _ => (hg is).mono (Nat.sub_le _ _)) ?_
  rintro is _ bs bs' ⟨_, rfl, his⟩ ⟨back, rfl, hback⟩
  exact ⟨is ++ back, List.append_assoc _ _ _, his.append hback⟩

theorem tracks_pure (is : List UInt16) : Tracks size (pure is) (pure is) (Adds is) := by
  intro c _ c' _ h
  cases h
  exact ⟨[], rfl, ⟨[], (List.append_nil is).symm, Bytes.holds_nil []⟩, Takes.pure is⟩

theorem tracks_u1 : Tracks size u1 u1 fun v bs => bs = [v] := .of_reads reads_u1

theorem tracks_u2 : Tracks size u2 u2 fun v bs => bs = Bytes.ofUInt16 v := .of_reads reads_u2

theorem tracks_bytes (n : Nat) :
    Tracks size (bytes n) (bytes n) fun a bs => bs = a ∧ a.length = n :=
  .of_reads (reads_bytes n)

theorem tracks_textIndex : Tracks size textIndex textIndex (Adds []) := by
  refine tracks_u2.bind (fun i _ _ _ => tracks_pure _) ?_
  rintro i _ bs bs' rfl ⟨back, rfl, hback⟩
  by_cases hi : i = 0
  · rw [if_pos hi]
    exact ⟨back, rfl, hback.behind _⟩
  · rw [if_neg hi]
    exact ⟨i :: back, rfl, (Bytes.holds_ofUInt16 i).append hback⟩

theorem Tracks.repeated_go (hd : Tracks size d d' (Adds [])) (n : Nat) (done : List (List UInt16)) :
    Tracks size (repeated.go d n done) (repeated.go d' n done) fun iss bs =>
      ∃ new, iss = done.reverse ++ new ∧ bs.Holds new.flatten := by
  induction n generalizing done with
  | zero =>
    intro c _ c' _ h
    cases h
    exact ⟨[], rfl, ⟨[], (List.append_nil _).symm, Bytes.holds_nil []⟩, Takes.pure _⟩
  | succ n ih =>
    rw [repeated_go_succ, repeated_go_succ]
    refine hd.bind (fun is _ _ _ => (ih (is :: done)).mono (Nat.sub_le _ _)) ?_
    rintro is _ bs bs' ⟨_, rfl, his⟩ ⟨new, rfl, hnew⟩
    refine ⟨is :: new, by simp, ?_⟩
    rw [List.flatten_cons]
    exact his.append hnew

/-- Parts in a row have their operands in a row. -/
theorem Tracks.several (hd : Tracks size d d' (Adds [])) (n : Nat) :
    Tracks size (several n d) (several n d') (Adds []) := by
  refine (hd.repeated_go n []).bind (fun iss _ _ _ => tracks_pure (join iss)) ?_
  rintro iss _ bs bs' ⟨_, rfl, hiss⟩ ⟨back, rfl, hback⟩
  rw [join_eq_flatten]
  exact ⟨iss.flatten ++ back, rfl, hiss.append hback⟩

/-- A count and as many parts. -/
theorem Tracks.counted (hd : Tracks size d d' (Adds [])) :
    Tracks size (u2 >>= fun count => Operands.several count.toNat d)
      (u2 >>= fun count => Operands.several count.toNat d') (Adds []) :=
  tracks_u2.skip fun count => hd.several count.toNat

/-! ### Annotations -/

section Annotations

variable {value value' : Decoder (List UInt16)}

theorem Tracks.annotationOperands (h : Tracks size value value' (Adds [])) :
    Tracks size (annotationOperands value) (annotationOperands value') (Adds []) := by
  refine tracks_textIndex.collect fun type => ?_
  refine tracks_u2.skip fun count => ?_
  refine Tracks.collect (Tracks.several ?_ _) fun elements => tracks_pure _
  exact tracks_textIndex.collect fun name => h.collect fun operands => tracks_pure _

/-- What comes after the tag of a value, if `value` reads the values inside. -/
def taggedValue (value : Decoder (List UInt16)) (tag : UInt8) : Decoder (List UInt16) :=
  match Char.ofNat tag.toNat with
  | 's' | 'c' => textIndex
  | 'B' | 'C' | 'D' | 'F' | 'I' | 'J' | 'S' | 'Z' => do
    let _ ← u2
    return []
  | 'e' => do
    let type ← textIndex
    let name ← textIndex
    return type ++ name
  | '@' => Operands.annotationOperands value
  | '[' => do
    let count ← u2
    several count.toNat value
  | _ => fail (.unknownValueTag tag)

theorem elementValue_succ (depth : Nat) :
    elementValue (depth + 1) = u1 >>= taggedValue (elementValue depth) := rfl

theorem Tracks.taggedValue (h : Tracks size value value' (Adds [])) (tag : UInt8) :
    Tracks size (taggedValue value tag) (taggedValue value' tag) (Adds []) := by
  have hnumber : Tracks size (u2 >>= fun _ => pure []) (u2 >>= fun _ => pure []) (Adds []) :=
    tracks_u2.skip fun _ => tracks_pure []
  have henum : Tracks size (textIndex >>= fun type => textIndex >>= fun name => pure (type ++ name))
      (textIndex >>= fun type => textIndex >>= fun name => pure (type ++ name)) (Adds []) :=
    tracks_textIndex.collect fun type => tracks_textIndex.collect fun name => tracks_pure _
  unfold Operands.taggedValue
  split
  case h_1 | h_2 => exact tracks_textIndex
  case h_11 => exact henum
  case h_12 => exact h.annotationOperands
  case h_13 => exact h.counted
  case h_14 => exact (Tracks.of_reads (Reads.fail _)).imp fun _ _ h => h.elim
  all_goals exact hnumber

/-- A reader that may go deeper finds the same in a value. The first reader may go as deep as there
are bytes. -/
theorem tracks_elementValue {depth depth' : Nat} (hsize : size ≤ depth) (hdepth : depth ≤ depth') :
    Tracks size (elementValue depth) (elementValue depth') (Adds []) := by
  induction depth generalizing size depth' with
  | zero =>
    -- Without a byte there is no tag.
    intro c is c' hleft hread
    obtain ⟨tag, c₁, htag, -⟩ := bind_eq_ok_iff.1 hread
    obtain ⟨_, rfl, hrest, -⟩ := reads_u1.sound htag
    rw [hrest, List.length_append, List.length_singleton] at hleft
    omega
  | succ depth ih =>
    obtain ⟨d, rfl⟩ : ∃ d, depth' = d + 1 := ⟨depth' - 1, by omega⟩
    rw [elementValue_succ, elementValue_succ]
    refine tracks_u1.bind (G := fun _ => Adds []) ?_ ?_
    · rintro tag _ rfl -
      exact Tracks.taggedValue (ih (by rw [List.length_singleton]; omega) (by omega)) tag
    · rintro tag is _ bs rfl ⟨_, rfl, his⟩
      exact ⟨is, rfl, his.behind [tag]⟩

theorem tracks_typeTarget : Tracks size typeTarget typeTarget anything := by
  have hskip : ∀ n, Tracks size (bytes n >>= fun _ => pure ()) (bytes n >>= fun _ => pure ())
      anything := fun n => (tracks_bytes n).discard fun _ =>
    (Tracks.of_reads (Reads.pure ())).imp fun _ _ _ => trivial
  refine tracks_u1.discard fun target => ?_
  dsimp only
  split_ifs
  · exact hskip 1
  · exact hskip 2
  · exact hskip 0
  · exact tracks_u2.discard fun rows => hskip _
  · exact hskip 3
  · exact (Tracks.of_reads (Reads.fail _)).discard hskip

theorem Tracks.typeAnnotationOperands (h : Tracks size value value' (Adds [])) :
    Tracks size (typeAnnotationOperands value) (typeAnnotationOperands value') (Adds []) := by
  refine tracks_typeTarget.skip fun _ => ?_
  refine tracks_u1.skip fun steps => ?_
  exact (tracks_bytes _).skip fun _ => h.annotationOperands

end Annotations

/-! ### Attributes inside attributes -/

section Nested

variable {nested nested' : Attribute → Except FormatError (List UInt16)}

/-- The operands of an attribute are its name and numbers that stand in its payload. -/
def NamedBy (a : Attribute) (is : List UInt16) : Prop :=
  ∃ back, is = a.nameIndex :: back ∧ a.payload.Holds back

theorem NamedBy.holds_encode {a : Attribute} {is : List UInt16} (h : NamedBy a is) :
    a.encode.Holds is := by
  obtain ⟨back, rfl, hback⟩ := h
  rw [Attribute.encode, List.append_assoc]
  exact (Bytes.holds_ofUInt16 a.nameIndex).append (hback.behind _)

/-- The operands that `nested` gives to the attribute are given by `nested'` as well. -/
def TracksInside (nested nested' : Attribute → Except FormatError (List UInt16)) (a : Attribute) :
    Prop :=
  ∀ is, nested a = .ok is → nested' a = .ok is ∧ NamedBy a is

theorem length_payload_lt (a : Attribute) : a.payload.length < a.encode.length := by
  rw [Attribute.encode, List.length_append, List.length_append, Bytes.length_ofUInt16]
  omega

theorem length_payload_lt_encode_code {c : Code} {a : Attribute} (ha : a ∈ c.attributes) :
    a.payload.length < c.encode.length := by
  have hsub : a.encode.Sublist (c.attributes.flatMap Attribute.encode) := by
    rw [List.flatMap_def]
    exact List.sublist_flatten_of_mem (List.mem_map_of_mem ha)
  have hle : a.encode.length ≤ c.encode.length := by
    refine hsub.length_le.trans ?_
    simp only [Code.encode, Attribute.encodeList, List.length_append]
    omega
  exact (length_payload_lt a).trans_le hle

theorem tracks_attribute (h : ∀ a, a.payload.length < size → TracksInside nested nested' a) :
    Tracks size (Attribute.read >>= fun a c => (nested a).map (·, c))
      (Attribute.read >>= fun a c => (nested' a).map (·, c)) (Adds []) := by
  intro c is c' hsize hread
  obtain ⟨a, c₁, ha, his⟩ := bind_eq_ok_iff.1 hread
  obtain ⟨_, ⟨hvalid, rfl⟩, hrest, -⟩ := Attribute.reads_read.sound ha
  have hlt : a.payload.length < size := by
    have := length_payload_lt a
    rw [hrest, List.length_append] at hsize
    omega
  cases hnested : nested a with
  | error e =>
    rw [hnested] at his
    cases his
  | ok js =>
    rw [hnested] at his
    cases his
    obtain ⟨hsame, hnamed⟩ := h a hlt is hnested
    refine ⟨a.encode, hrest, ⟨is, rfl, hnamed.holds_encode⟩, ?_⟩
    refine Takes.last (Attribute.reads_read.takes ⟨hvalid, rfl⟩) fun position rest => ?_
    rw [hsame]
    rfl

theorem tracks_nestedAttributes (h : ∀ a, a.payload.length < size → TracksInside nested nested' a) :
    Tracks size (nestedAttributes nested) (nestedAttributes nested') (Adds []) :=
  (tracks_attribute h).counted

theorem mapM_of_tracksInside {as : List Attribute} {iss : List (List UInt16)}
    (h : ∀ a ∈ as, TracksInside nested nested' a) (hiss : as.mapM nested = .ok iss) :
    as.mapM nested' = .ok iss ∧ Bytes.Holds (as.flatMap Attribute.encode) iss.flatten := by
  induction as generalizing iss with
  | nil =>
    cases hiss
    exact ⟨rfl, Bytes.holds_nil _⟩
  | cons a as ih =>
    obtain ⟨is, rest, ha, hrest, rfl⟩ := mapM_cons_eq_ok_iff.1 hiss
    obtain ⟨hsame, hnamed⟩ := h a List.mem_cons_self is ha
    obtain ⟨hothers, hholds⟩ := ih (fun b hb => h b (List.mem_cons_of_mem a hb)) hrest
    refine ⟨mapM_cons_eq_ok_iff.2 ⟨is, rest, hsame, hothers, rfl⟩, ?_⟩
    rw [List.flatMap_cons, List.flatten_cons]
    exact hnamed.holds_encode.append hholds

theorem tracks_code {value value' : Decoder (List UInt16)}
    (h : ∀ a, a.payload.length < size → TracksInside nested nested' a) :
    Tracks size (payload .code value nested) (payload .code value' nested') (Adds []) := by
  intro c is c' hsize hread
  obtain ⟨code, c₁, hcode, his⟩ := bind_eq_ok_iff.1 hread
  obtain ⟨_, ⟨hvalid, rfl⟩, hrest, -⟩ := Code.reads_read.sound hcode
  have hinside : ∀ a ∈ code.attributes, TracksInside nested nested' a := by
    intro a ha
    have hlt := length_payload_lt_encode_code ha
    rw [hrest, List.length_append] at hsize
    exact h a (by omega)
  cases hiss : code.attributes.mapM nested with
  | error e =>
    rw [hiss] at his
    cases his
  | ok iss =>
    rw [hiss] at his
    cases his
    obtain ⟨hsame, hholds⟩ := mapM_of_tracksInside hinside hiss
    refine ⟨code.encode, hrest, ⟨join iss, rfl, ?_⟩, ?_⟩
    · rw [join_eq_flatten, Code.encode, Attribute.encodeList]
      exact (hholds.behind _).behind _
    · refine Takes.last (Code.reads_read.takes ⟨hvalid, rfl⟩) fun position rest => ?_
      rw [hsame]
      rfl

/-- Whatever the layout of a payload: if values and the attributes inside are found by the second
reader as well, so are the operands of the whole. -/
theorem tracks_payload (layout : AttributeLayout) {value value' : Decoder (List UInt16)}
    (hvalue : Tracks size value value' (Adds []))
    (hnested : ∀ a, a.payload.length < size → TracksInside nested nested' a) :
    Tracks size (payload layout value nested) (payload layout value' nested') (Adds []) := by
  cases layout with
  | singleText => exact tracks_textIndex
  | innerClasses =>
    refine Tracks.counted ((tracks_bytes 4).skip fun _ => ?_)
    exact tracks_textIndex.collect fun name => tracks_u2.skip fun _ => tracks_pure _
  | localVariables =>
    refine Tracks.counted ((tracks_bytes 4).skip fun _ => ?_)
    refine tracks_textIndex.collect fun name => tracks_textIndex.collect fun type => ?_
    exact tracks_u2.skip fun _ => tracks_pure _
  | methodParameters =>
    refine tracks_u1.skip fun count => Tracks.several ?_ _
    exact tracks_textIndex.collect fun name => tracks_u2.skip fun _ => tracks_pure _
  | annotations => exact hvalue.annotationOperands.counted
  | parameterAnnotations =>
    exact tracks_u1.skip fun parameters => hvalue.annotationOperands.counted.several _
  | typeAnnotations => exact hvalue.typeAnnotationOperands.counted
  | elementValue => exact hvalue
  | record =>
    refine Tracks.counted ?_
    refine tracks_textIndex.collect fun name => tracks_textIndex.collect fun descriptor => ?_
    exact (tracks_nestedAttributes hnested).collect fun operands => tracks_pure _
  | code => exact tracks_code hnested
  | plain => exact tracks_pure []

end Nested

end Tracks

/-! ## Attributes -/

/-- The operands of an attribute stand in its payload, and a reader that may go deeper finds them in
a longer payload as well. The induction is on the depth; that it is more than the payload has bytes
is kept, because an attribute inside another one is shorter. -/
theorem ofAttribute_append {p : Pool} {depth depth' : Nat} {a : Attribute} {is : List UInt16}
    {more : Bytes} (h : ofAttribute p depth a = .ok is) (hdepth : a.payload.length < depth)
    (hdepth' : a.payload.length + more.length < depth') :
    ofAttribute p depth' ⟨a.nameIndex, a.payload ++ more⟩ = .ok is ∧ NamedBy a is := by
  induction depth generalizing depth' a is more with
  | zero => omega
  | succ depth ih =>
    obtain ⟨d, rfl⟩ : ∃ d, depth' = d + 1 := ⟨depth' - 1, by omega⟩
    have hnested : ∀ b : Attribute, b.payload.length < a.payload.length →
        TracksInside (ofAttribute p depth) (ofAttribute p d) b := by
      intro b hb js hjs
      have hsame : ofAttribute p d ⟨b.nameIndex, b.payload ++ []⟩ = .ok js ∧ NamedBy b js :=
        ih hjs (by omega) (by rw [List.length_nil]; omega)
      rwa [List.append_nil] at hsame
    have hle : a.payload.length ≤ (a.payload ++ more).length := by simp
    have htracks := tracks_payload (.ofName ((p.text? a.nameIndex).getD ""))
      (tracks_elementValue (Nat.le_refl _) hle) hnested
    rw [ofAttribute_succ] at h ⊢
    dsimp only
    cases hdecode : (payload (.ofName ((p.text? a.nameIndex).getD ""))
        (elementValue a.payload.length) (ofAttribute p depth)).decode a.payload with
    | error e =>
      rw [hdecode] at h
      cases h
    | ok back =>
      rw [hdecode] at h
      cases h
      obtain ⟨hmore, ⟨_, rfl, hback⟩⟩ := htracks.decode hdecode more
      rw [hmore]
      exact ⟨rfl, back, rfl, hback⟩

end Operands

/-! ## The operands of an attribute -/

namespace Attribute

/-- What the operands of an attribute depend on, and where they come from. -/
structure OperandsLocal (p : Pool) (a : Attribute) (is : List UInt16) : Prop where
  head : is.head? = some a.nameIndex
  /-- All but the name are numbers in the payload, in two bytes each and one behind the other. -/
  places : a.payload.Holds is.tail
  length_le : is.length ≤ 1 + a.payload.length / 2
  /-- Bytes at the end of the payload make no difference. -/
  extended (more : Bytes) : (⟨a.nameIndex, a.payload ++ more⟩ : Attribute).operands p = .ok is
  /-- Nor do the texts of a pool anywhere else than at the operands. -/
  otherPool (q : Pool) (hq : ∀ i ∈ is, q.text? i = p.text? i) : a.operands q = .ok is

/-- **Operands are found where they stand.**  However deeply attributes and values are nested, the
operands that are found are the name and numbers at increasing places of the payload; more bytes
after the payload and another pool with the same texts at the operands give the same operands. -/
theorem operands_local {p : Pool} {a : Attribute} {is : List UInt16} (h : a.operands p = .ok is) :
    OperandsLocal p a is := by
  have happend : ∀ more : Bytes,
      (⟨a.nameIndex, a.payload ++ more⟩ : Attribute).operands p = .ok is ∧
        Operands.NamedBy a is := by
    intro more
    refine Operands.ofAttribute_append h (Nat.lt_succ_self _) ?_
    rw [List.length_append]
    exact Nat.lt_succ_self _
  obtain ⟨back, rfl, hback⟩ := (happend []).2
  have hlength := hback.two_mul_length_le
  refine ⟨rfl, hback, ?_, fun more => (happend more).1, fun q hq => operands_congr h hq⟩
  rw [List.length_cons]
  omega

/-- The operands of a code attribute, those of the attributes and annotations inside included. -/
theorem operands_local_annotatedCode :
    AttributeTree.annotatedCode.toAttribute.operands AttributeTree.annotatedPool =
        .ok [1, 2, 5, 6, 6, 3, 7, 8, 9, 7, 8, 7, 9, 4] ∧
      OperandsLocal AttributeTree.annotatedPool AttributeTree.annotatedCode.toAttribute
        [1, 2, 5, 6, 6, 3, 7, 8, 9, 7, 8, 7, 9, 4] := by
  have h : AttributeTree.annotatedCode.toAttribute.operands AttributeTree.annotatedPool =
      .ok [1, 2, 5, 6, 6, 3, 7, 8, 9, 7, 8, 7, 9, 4] := by decide +kernel
  exact ⟨h, operands_local h⟩

end Attribute
end ClassLiterals
