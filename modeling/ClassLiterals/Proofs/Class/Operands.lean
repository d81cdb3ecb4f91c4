import ClassLiterals.Class.Operands
import ClassLiterals.Proofs.Bytes.Reading

/-!
# Operands of attributes

The operands of an attribute start with its own name. Those of a `Code` attribute hold the names of
the attributes inside it, but only when the operands of every one of these can be read: one that
cannot be read makes the whole attribute unreadable.

A pool matters to the operands by the texts at the operands alone.

Main results: `nameIndex_mem_of_operands`, `nameIndex_mem_operands_of_code` and `operands_congr`.
-/

namespace ClassLiterals

namespace Operands

variable {p : Pool} {depth : Nat} {a : Attribute}

theorem join_eq_flatten : (iss : List (List UInt16)) → join iss = iss.flatten
  | [] => rfl
  | [is] => by simp [join]
  | is :: js :: rest => by
    rw [join, join_eq_flatten (js :: rest)]
    · exact List.flatten_cons.symm
    · exact List.cons_ne_nil js rest

theorem mapM_cons_eq_ok_iff {f : Attribute → Except FormatError (List UInt16)}
    {as : List Attribute} {iss : List (List UInt16)} :
    (a :: as).mapM f = .ok iss ↔
      ∃ is rest, f a = .ok is ∧ as.mapM f = .ok rest ∧ iss = is :: rest := by
  rw [List.mapM_cons]
  cases ha : f a with
  | error e => simp [bind, Except.bind]
  | ok is =>
    cases has : as.mapM f with
    | error e => simp [bind, Except.bind]
    | ok rest => simp [bind, Except.bind, pure, Except.pure, eq_comm]

theorem exists_of_mapM_eq_ok {f : Attribute → Except FormatError (List UInt16)}
    {as : List Attribute} {iss : List (List UInt16)} (h : as.mapM f = .ok iss) (ha : a ∈ as) :
    ∃ is ∈ iss, f a = .ok is := by
  induction as generalizing iss with
  | nil => exact absurd ha List.not_mem_nil
  | cons b as ih =>
    obtain ⟨is, rest, hb, hrest, rfl⟩ := mapM_cons_eq_ok_iff.1 h
    rcases List.mem_cons.1 ha with rfl | ha
    · exact ⟨is, List.mem_cons_self, hb⟩
    · obtain ⟨js, hjs, hfa⟩ := ih hrest ha
      exact ⟨js, List.mem_cons_of_mem _ hjs, hfa⟩

/-- The operands of an attribute are its name and those of its payload. -/
theorem ofAttribute_succ (p : Pool) (depth : Nat) (a : Attribute) :
    ofAttribute p (depth + 1) a =
      ((payload (.ofName ((p.text? a.nameIndex).getD "")) (elementValue a.payload.length)
        (ofAttribute p depth)).decode a.payload).map (a.nameIndex :: ·) := by
  rw [ofAttribute]
  rfl

theorem nameIndex_mem_of_ofAttribute {is : List UInt16} (h : ofAttribute p depth a = .ok is) :
    a.nameIndex ∈ is := by
  cases depth with
  | zero =>
    cases h
    exact List.mem_singleton_self _
  | succ depth =>
    rw [ofAttribute_succ] at h
    cases hpayload : (payload (.ofName ((p.text? a.nameIndex).getD ""))
      (elementValue a.payload.length) (ofAttribute p depth)).decode a.payload with
    | error e =>
      rw [hpayload] at h
      cases h
    | ok rest =>
      rw [hpayload] at h
      cases h
      exact List.mem_cons_self

/-- The payload of a `Code` attribute has the operands of the attributes inside. -/
theorem decode_payload_code (value : Decoder (List UInt16))
    (nested : Attribute → Except FormatError (List UInt16)) (bs : Bytes) :
    (payload .code value nested).decode bs =
      (Code.decode bs).bind fun code => (code.attributes.mapM nested).map join := by
  rw [Code.decode, Decoder.decode, Decoder.decode, payload, Decoder.bind_apply]
  cases Code.read (.atStart bs) with
  | error e => rfl
  | ok r =>
    obtain ⟨code, rest⟩ := r
    dsimp only
    rw [Decoder.bind_apply]
    change _ = (code.attributes.mapM nested).map join
    cases code.attributes.mapM nested with
    | error e => rfl
    | ok iss => rfl

end Operands

namespace Attribute

variable {p : Pool} {a : Attribute} {is : List UInt16}

theorem nameIndex_mem_of_operands (h : a.operands p = .ok is) : a.nameIndex ∈ is :=
  Operands.nameIndex_mem_of_ofAttribute h

/-- The operands of a `Code` attribute hold the names of the attributes inside. -/
theorem nameIndex_mem_operands_of_code {code : Code} {n : Attribute}
    (hname : p.text? a.nameIndex = some "Code") (hcode : Code.decode a.payload = .ok code)
    (hn : n ∈ code.attributes) (h : a.operands p = .ok is) : n.nameIndex ∈ is := by
  have hlayout : AttributeLayout.ofName ((some "Code").getD "") = .code := by decide
  rw [operands, Operands.ofAttribute_succ, hname, hlayout, Operands.decode_payload_code,
    hcode] at h
  change (Except.map Operands.join _).map _ = _ at h
  cases hnested : code.attributes.mapM (Operands.ofAttribute p a.payload.length) with
  | error e =>
    rw [hnested] at h
    cases h
  | ok iss =>
    rw [hnested] at h
    cases h
    obtain ⟨js, hjs, hfn⟩ := Operands.exists_of_mapM_eq_ok hnested hn
    rw [Operands.join_eq_flatten]
    exact List.mem_cons_of_mem _
      (List.mem_flatten.2 ⟨js, hjs, Operands.nameIndex_mem_of_ofAttribute hfn⟩)

end Attribute

/-! ## Operands in another pool

Which indices are operands depends on the pool through the names of attributes alone, and these
names are operands themselves. So a pool with the same texts at the operands gives the same
operands.
-/

namespace Operands

/-- Operands that `x` gives are given by `y` as well, if all of them satisfy `S`. -/
def Carries (S : UInt16 → Prop) (x y : Except FormatError (List UInt16)) : Prop :=
  ∀ is, x = .ok is → (∀ i ∈ is, S i) → y = .ok is

/-- What `d` reads is read by `d'` as well, from the same bytes, if all operands satisfy `S`. -/
def Follows (S : UInt16 → Prop) (d d' : Decoder (List UInt16)) : Prop :=
  ∀ c is c', d c = .ok (is, c') → (∀ i ∈ is, S i) → d' c = .ok (is, c')

section Follows

variable {α : Type} {S : UInt16 → Prop} {d d' : Decoder (List UInt16)}
  {nested nested' : Attribute → Except FormatError (List UInt16)}

theorem Follows.refl (d : Decoder (List UInt16)) : Follows S d d := by
  intro c is c' h _
  exact h

/-- Both go on from the same value. -/
theorem Follows.bind (e : Decoder α) {f f' : α → Decoder (List UInt16)}
    (h : ∀ a, Follows S (f a) (f' a)) : Follows S (e >>= f) (e >>= f') := by
  intro c is c' hread hall
  obtain ⟨a, c₁, he, hf⟩ := Decoder.bind_eq_ok_iff.1 hread
  exact Decoder.bind_eq_ok_iff.2 ⟨a, c₁, he, h a c₁ is c' hf hall⟩

/-- Both put the same operands in front. -/
theorem Follows.prepend (h : Follows S d d') (front : List UInt16) :
    Follows S (d >>= fun is => pure (front ++ is)) (d' >>= fun is => pure (front ++ is)) := by
  intro c is c' hread hall
  obtain ⟨back, c₁, hd, hpure⟩ := Decoder.bind_eq_ok_iff.1 hread
  cases hpure
  have hback : ∀ i ∈ back, S i := fun i hi => hall i (List.mem_append_right _ hi)
  exact Decoder.bind_eq_ok_iff.2 ⟨back, c', h c back c' hd hback, rfl⟩

theorem mem_of_repeated_go {n : Nat} {done iss : List (List UInt16)} {c c' : Cursor}
    (h : Decoder.repeated.go d n done c = .ok (iss, c')) {is : List UInt16} (his : is ∈ done) :
    is ∈ iss := by
  induction n generalizing done c with
  | zero =>
    cases h
    exact List.mem_reverse.2 his
  | succ n ih =>
    rw [Decoder.repeated_go_succ] at h
    obtain ⟨js, c₁, -, hgo⟩ := Decoder.bind_eq_ok_iff.1 h
    exact ih hgo (List.mem_cons_of_mem js his)

theorem repeated_go_of_follows (hd : Follows S d d') {n : Nat} {done iss : List (List UInt16)}
    {c c' : Cursor} (h : Decoder.repeated.go d n done c = .ok (iss, c'))
    (hall : ∀ is ∈ iss, ∀ i ∈ is, S i) : Decoder.repeated.go d' n done c = .ok (iss, c') := by
  induction n generalizing done c with
  | zero => exact h
  | succ n ih =>
    rw [Decoder.repeated_go_succ] at h ⊢
    obtain ⟨is, c₁, his, hgo⟩ := Decoder.bind_eq_ok_iff.1 h
    have hmem : is ∈ iss := mem_of_repeated_go hgo List.mem_cons_self
    exact Decoder.bind_eq_ok_iff.2 ⟨is, c₁, hd c is c₁ his (hall is hmem), ih hgo⟩

theorem forall_of_forall_mem_join {iss : List (List UInt16)} (h : ∀ i ∈ join iss, S i) :
    ∀ is ∈ iss, ∀ i ∈ is, S i := by
  intro is his i hi
  rw [join_eq_flatten] at h
  exact h i (List.mem_flatten.2 ⟨is, his, hi⟩)

theorem Follows.several (h : Follows S d d') (n : Nat) :
    Follows S (several n d) (several n d') := by
  intro c is c' hread hall
  obtain ⟨iss, c₁, hiss, hpure⟩ := Decoder.bind_eq_ok_iff.1 hread
  cases hpure
  have hiss' := repeated_go_of_follows h hiss (forall_of_forall_mem_join hall)
  exact Decoder.bind_eq_ok_iff.2 ⟨iss, c', hiss', rfl⟩

theorem mapM_of_carries (h : ∀ a, Carries S (nested a) (nested' a)) {as : List Attribute}
    {iss : List (List UInt16)} (hiss : as.mapM nested = .ok iss)
    (hall : ∀ is ∈ iss, ∀ i ∈ is, S i) : as.mapM nested' = .ok iss := by
  induction as generalizing iss with
  | nil => exact hiss
  | cons a as ih =>
    obtain ⟨is, rest, ha, hrest, rfl⟩ := mapM_cons_eq_ok_iff.1 hiss
    have hfirst := h a is ha (hall is List.mem_cons_self)
    have hothers := ih hrest fun js hjs => hall js (List.mem_cons_of_mem _ hjs)
    exact mapM_cons_eq_ok_iff.2 ⟨is, rest, hfirst, hothers, rfl⟩

/-- Only attributes inside records and code make a difference. -/
theorem follows_payload (layout : AttributeLayout) (value : Decoder (List UInt16))
    (h : ∀ a, Carries S (nested a) (nested' a)) :
    Follows S (payload layout value nested) (payload layout value nested') := by
  cases layout with
  | record =>
    refine Follows.bind _ fun count => Follows.several ?_ _
    refine Follows.bind _ fun name => Follows.bind _ fun descriptor => ?_
    refine Follows.prepend (Follows.bind _ fun count => Follows.several ?_ _) _
    refine Follows.bind _ fun a => ?_
    intro c is c' hread hall
    cases ha : nested a with
    | error err => simp [ha, Except.map] at hread
    | ok js =>
      rw [ha] at hread
      cases hread
      rw [h a is ha hall]
      rfl
  | code =>
    refine Follows.bind _ fun code => ?_
    intro c is c' hread hall
    rw [Decoder.bind_apply] at hread ⊢
    cases hiss : code.attributes.mapM nested with
    | error err =>
      rw [hiss] at hread
      cases hread
    | ok iss =>
      rw [hiss] at hread
      cases hread
      rw [mapM_of_carries h hiss (forall_of_forall_mem_join hall)]
      rfl
  | _ => exact Follows.refl _

end Follows

theorem carries_ofAttribute {p q : Pool} (depth : Nat) (a : Attribute) :
    Carries (fun i => q.text? i = p.text? i) (ofAttribute p depth a) (ofAttribute q depth a) := by
  induction depth generalizing a with
  | zero =>
    intro is h _
    exact h
  | succ depth ih =>
    intro is h hall
    have hname : q.text? a.nameIndex = p.text? a.nameIndex :=
      hall _ (nameIndex_mem_of_ofAttribute h)
    rw [ofAttribute_succ, Decoder.decode] at h ⊢
    rw [hname]
    cases hread : payload (.ofName ((p.text? a.nameIndex).getD ""))
        (elementValue a.payload.length) (ofAttribute p depth) (.atStart a.payload) with
    | error err =>
      rw [hread] at h
      cases h
    | ok r =>
      obtain ⟨rest, c⟩ := r
      rw [hread] at h
      cases h
      have hrest := follows_payload _ _ ih _ rest c hread fun i hi =>
        hall i (List.mem_cons_of_mem _ hi)
      rw [hrest]
      rfl

end Operands

/-- A pool with the same texts at the operands of an attribute gives it the same operands. -/
theorem Attribute.operands_congr {p q : Pool} {a : Attribute} {is : List UInt16}
    (h : a.operands p = .ok is) (hsame : ∀ i ∈ is, q.text? i = p.text? i) :
    a.operands q = .ok is :=
  Operands.carries_ofAttribute _ a is h hsame

end ClassLiterals
