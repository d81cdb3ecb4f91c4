import ClassLiterals.Proofs.Class.RoundTrip

/-!
# Class files cut short and class files with more bytes

A class file ends where its own counts say that it ends. So no class file is the beginning of
another one: bytes after the end of a class file are found and counted, and a class file whose end
is missing is a read beyond the end of the bytes. All other violations of the format are found
before the end of the bytes is reached, so what comes after does not matter.

The reader itself never reports bytes after the end; which errors it gives at all is told, one
combinator of decoders after the other, by `FailsWith`.

Main result: `parse_prefixStable`.
-/

namespace ClassLiterals

/-! ## The errors of decoders -/

namespace Decoder

variable {α β : Type} {d : Decoder α} {P : FormatError → Prop}

/-- The decoder fails for causes with the property `P` only. -/
def FailsWith (d : Decoder α) (P : FormatError → Prop) : Prop :=
  ∀ c e, d c = .error e → P e

theorem FailsWith.pure (a : α) : FailsWith (pure a : Decoder α) P :=
  fun _ _ h => nomatch h

theorem FailsWith.fail {e : FormatError} (he : P e) : FailsWith (fail e : Decoder α) P := by
  intro c e' h
  cases h
  exact he

theorem FailsWith.bind {f : α → Decoder β} (hd : FailsWith d P) (hf : ∀ a, FailsWith (f a) P) :
    FailsWith (d >>= f) P := by
  intro c e h
  rcases bind_eq_error_iff.1 h with hfail | ⟨a, c₁, -, hpassed⟩
  · exact hd c e hfail
  · exact hf a c₁ e hpassed

theorem FailsWith.withBytes (hd : FailsWith d P) : FailsWith (withBytes d) P := by
  intro c e h
  rw [Decoder.withBytes] at h
  cases hc : d c with
  | error e' =>
    rw [hc] at h
    cases h
    exact hd c _ hc
  | ok r => simp [hc] at h

theorem FailsWith.repeated (hd : FailsWith d P) (n : Nat) : FailsWith (repeated n d) P := by
  have hgo : ∀ done : List α, FailsWith (repeated.go d n done) P := by
    induction n with
    | zero =>
      intro done
      rw [repeated_go_zero]
      exact .pure _
    | succ n ih =>
      intro done
      rw [repeated_go_succ]
      exact hd.bind fun a => ih (a :: done)
  exact hgo []

/-- An error that the first of two decoders in a row cannot give is one of the second, after what
the first one has read. -/
theorem FailsWith.passed {f : α → Decoder β} {c : Cursor} {e : FormatError} (hd : FailsWith d P)
    (h : (d >>= f) c = .error e) (he : ¬ P e) :
    ∃ a c₁, d c = .ok (a, c₁) ∧ f a c₁ = .error e := by
  rcases bind_eq_error_iff.1 h with hfail | hpassed
  · exact absurd (hd c e hfail) he
  · exact hpassed

/-! The primitive decoders fail for want of bytes only. -/

section Primitive

variable (hP : ∀ offset requested remaining, P (.outOfBounds offset requested remaining))
include hP

theorem failsWith_bytes (n : Nat) : FailsWith (bytes n) P := by
  intro c e h
  rw [bytes] at h
  split at h
  · cases h
  · cases h
    exact hP _ _ _

theorem failsWith_u1 : FailsWith u1 P :=
  ((failsWith_bytes hP 1).bind fun _ => .pure _).bind fun _ => .pure _

theorem failsWith_u2 : FailsWith u2 P :=
  ((failsWith_bytes hP 2).bind fun _ => .pure _).bind fun _ => .pure _

theorem failsWith_u4 : FailsWith u4 P :=
  ((failsWith_bytes hP 4).bind fun _ => .pure _).bind fun _ => .pure _

end Primitive

end Decoder

open Decoder

/-! ## Readers that can only run out of bytes -/

/-- Reads what stands before the pool of a class file: the magic number and the two versions. -/
def ClassFile.readHeader : Decoder (UInt16 × UInt16) := do
  readMagic
  let minorVersion ← u2
  let majorVersion ← u2
  return (minorVersion, majorVersion)

/-- Reads what follows the pool of a class file. -/
def ClassFile.readAfterPool (minorVersion majorVersion : UInt16) (pool : Pool) :
    Decoder ClassFile := do
  let flags ← u2
  let thisClass ← u2
  let superClass ← u2
  let interfaces ← counted u2
  let fields ← counted Member.read
  let methods ← counted Member.read
  let attributes ← Attribute.readList
  return { minorVersion, majorVersion, pool, flags := ⟨flags⟩, thisClass, superClass, interfaces,
           fields, methods, attributes }

section WantOfBytes

variable {P : FormatError → Prop}
variable (hP : ∀ offset requested remaining, P (.outOfBounds offset requested remaining))
include hP

theorem Constant.failsWith_readWide : FailsWith readWide P :=
  (failsWith_u4 hP).bind fun _ => (failsWith_u4 hP).bind fun _ => .pure _

theorem Constant.failsWith_readPayload (kind : Kind) : FailsWith (readPayload kind) P := by
  have hu2 : FailsWith u2 P := failsWith_u2 hP
  have hu4 : FailsWith u4 P := failsWith_u4 hP
  have hwide : FailsWith readWide P := failsWith_readWide hP
  have hpair : ∀ make : UInt16 → UInt16 → Constant,
      FailsWith (u2 >>= fun i => u2 >>= fun j => pure (make i j)) P :=
    fun _ => hu2.bind fun _ => hu2.bind fun _ => .pure _
  cases kind with
  | utf8 => exact hu2.bind fun _ => (failsWith_bytes hP _).bind fun _ => .pure _
  | integer => exact hu4.bind fun _ => .pure _
  | float => exact hu4.bind fun _ => .pure _
  | long => exact hwide.bind fun _ => .pure _
  | double => exact hwide.bind fun _ => .pure _
  | classRef => exact hu2.bind fun _ => .pure _
  | string => exact hu2.bind fun _ => .pure _
  | fieldRef => exact hpair _
  | methodRef => exact hpair _
  | interfaceMethodRef => exact hpair _
  | nameAndType => exact hpair _
  | methodHandle => exact (failsWith_u1 hP).bind fun _ => hu2.bind fun _ => .pure _
  | methodType => exact hu2.bind fun _ => .pure _
  | invokeDynamic => exact hpair _

theorem Attribute.failsWith_readList : FailsWith readList P := by
  have hread : FailsWith Attribute.read P :=
    (failsWith_u2 hP).bind fun _ => (failsWith_u4 hP).bind fun _ =>
      (failsWith_bytes hP _).bind fun _ => .pure _
  exact (failsWith_u2 hP).bind fun _ => hread.repeated _

theorem Member.failsWith_read : FailsWith Member.read P := by
  have hu2 : FailsWith u2 P := failsWith_u2 hP
  refine FailsWith.bind (FailsWith.withBytes ?_) fun _ => .pure _
  exact hu2.bind fun _ => hu2.bind fun _ => hu2.bind fun _ =>
    (Attribute.failsWith_readList hP).bind fun _ => .pure _

theorem ClassFile.failsWith_readHeader
    (hmagic : ∀ found : UInt32, found ≠ magic → P (.badMagic found)) : FailsWith readHeader P := by
  have hu2 : FailsWith u2 P := failsWith_u2 hP
  refine FailsWith.bind ((failsWith_u4 hP).bind fun found => ?_) fun _ =>
    hu2.bind fun _ => hu2.bind fun _ => .pure _
  by_cases h : found = magic
  · rw [if_pos h]
    exact .pure _
  · rw [if_neg h]
    exact .fail (hmagic found h)

theorem ClassFile.failsWith_readAfterPool (minorVersion majorVersion : UInt16) (pool : Pool) :
    FailsWith (readAfterPool minorVersion majorVersion pool) P := by
  have hu2 : FailsWith u2 P := failsWith_u2 hP
  have hmembers : FailsWith (counted Member.read) P :=
    hu2.bind fun _ => (Member.failsWith_read hP).repeated _
  exact hu2.bind fun _ => hu2.bind fun _ => hu2.bind fun _ =>
    (hu2.bind fun _ => hu2.repeated _).bind fun _ => hmembers.bind fun _ => hmembers.bind fun _ =>
    (Attribute.failsWith_readList hP).bind fun _ => .pure _

end WantOfBytes

/-! ## The errors of the reader of class files -/

/-- The causes for which the beginning of bytes is no class file. -/
inductive FormatError.OfRead : FormatError → Prop where
  | badMagic {found : UInt32} (h : found ≠ ClassFile.magic) : OfRead (.badMagic found)
  | badPoolCount : OfRead (.badPoolCount 0)
  | unknownTag {tag : UInt8} {index : UInt16} (h : Constant.Kind.ofTag? tag = none) :
      OfRead (.unknownTag tag index)
  | noSecondSlot {index : UInt16} : OfRead (.noSecondSlot index)
  | outOfBounds {offset requested remaining : Nat} :
      OfRead (.outOfBounds offset requested remaining)

/-- The causes for which bytes are no class file. -/
inductive FormatError.OfParse : FormatError → Prop where
  | read {e : FormatError} (h : e.OfRead) : OfParse e
  | trailingBytes {count : Nat} (h : 0 < count) : OfParse (.trailingBytes count)

section Errors

open FormatError (OfRead)

theorem failsWith_readU2 : FailsWith u2 OfRead := failsWith_u2 fun _ _ _ => .outOfBounds

theorem Constant.failsWith_read (index : UInt16) : FailsWith (read index) OfRead := by
  refine (failsWith_u1 fun _ _ _ => .outOfBounds).bind fun tag => ?_
  cases htag : Kind.ofTag? tag with
  | none => exact .fail (.unknownTag htag)
  | some kind => exact failsWith_readPayload (fun _ _ _ => .outOfBounds) kind

theorem Pool.failsWith_readSlots (left : Nat) (index : UInt16) (done : Array Constant) :
    FailsWith (readSlots left index done) OfRead := by
  induction left using Nat.strong_induction_on generalizing index done with
  | _ left ih =>
    cases left with
    | zero =>
      rw [readSlots_zero]
      exact .pure _
    | succ left =>
      rw [readSlots_succ]
      refine (Constant.failsWith_read index).bind fun c => ?_
      by_cases hwide : c.isWide = true
      · simp only [hwide, if_true]
        cases left with
        | zero => exact .fail .noSecondSlot
        | succ left => exact ih left (by omega) (index + 2) _
      · simp only [hwide]
        exact ih left (by omega) (index + 1) _

theorem Pool.failsWith_read : FailsWith Pool.read OfRead := by
  refine failsWith_readU2.bind fun count => ?_
  by_cases hcount : count = 0
  · rw [if_pos hcount, hcount]
    exact .fail .badPoolCount
  · rw [if_neg hcount]
    exact (failsWith_readSlots _ _ _).bind fun _ => .pure _

theorem ClassFile.read_eq_readHeader : read = readHeader >>= fun versions =>
    Pool.read >>= fun pool => readAfterPool versions.1 versions.2 pool := by
  simp only [read, readHeader, readAfterPool, counted, bind_assoc, pure_bind]

theorem ClassFile.failsWith_read : FailsWith read OfRead := by
  have hheader : FailsWith readHeader OfRead :=
    failsWith_readHeader (fun _ _ _ => .outOfBounds) fun _ h => .badMagic h
  rw [read_eq_readHeader]
  exact hheader.bind fun _ => Pool.failsWith_read.bind fun _ =>
    failsWith_readAfterPool (fun _ _ _ => .outOfBounds) _ _ _

end Errors

/-! ## More and fewer bytes -/

namespace ClassFile

variable {bs : Bytes} {c : ClassFile} {e : FormatError}

theorem parse_of_read_error (h : read (.atStart bs) = .error e) : parse bs = .error e := by
  rw [parse_eq, h]

/-- What the reader leaves over decides between a class file and bytes after its end. -/
theorem parse_of_read_ok {position : Nat} {rest : Bytes}
    (h : read (.atStart bs) = .ok (c, ⟨position, rest⟩)) :
    parse bs = if rest = [] then .ok c else .error (.trailingBytes rest.length) := by
  rw [parse_eq, h]
  cases rest with
  | nil => rfl
  | cons b rest => rfl

/-- The reader reads a class file and leaves the rest over, however long the rest is, or it fails
for one of its causes. -/
theorem read_cases (bs : Bytes) :
    (∃ c position rest, ∀ more, read (.atStart (bs ++ more)) = .ok (c, ⟨position, rest ++ more⟩)) ∨
      ∃ e, e.OfRead ∧ read (.atStart bs) = .error e := by
  cases h : read (.atStart bs) with
  | error e => exact .inr ⟨e, failsWith_read _ _ h, rfl⟩
  | ok r =>
    obtain ⟨c, c'⟩ := r
    obtain ⟨used, hused, hbs, -⟩ := reads_read.sound h
    change bs = used ++ c'.rest at hbs
    refine .inl ⟨c, 0 + used.length, c'.rest, fun more => ?_⟩
    rw [hbs, List.append_assoc]
    exact reads_read.complete hused 0 (c'.rest ++ more)

/-- How the outcome of reading `bs` changes when bytes are added at the end or taken away there. -/
structure PrefixStable (bs : Bytes) : Prop where
  /-- Bytes after a class file are counted. -/
  extended (c : ClassFile) (h : parse bs = .ok c) (more : Bytes) (hmore : more ≠ []) :
    parse (bs ++ more) = .error (.trailingBytes more.length)
  /-- A class file that is cut short ends in a read beyond the end of the bytes. -/
  shortened (c : ClassFile) (h : parse bs = .ok c) (n : Nat) (hn : n < bs.length) :
    ∃ offset requested remaining,
      parse (bs.take n) = .error (.outOfBounds offset requested remaining) ∧
        offset + remaining = n ∧ remaining < requested
  /-- More bytes after the end add up. -/
  trailing (count : Nat) (h : parse bs = .error (.trailingBytes count)) (more : Bytes) :
    parse (bs ++ more) = .error (.trailingBytes (count + more.length))
  /-- Any error that is not about the number of bytes stays. -/
  refused (e : FormatError) (h : parse bs = .error e)
    (hbounds : ∀ offset requested remaining, e ≠ .outOfBounds offset requested remaining)
    (htrailing : ∀ count, e ≠ .trailingBytes count) (more : Bytes) :
    parse (bs ++ more) = .error e
  /-- No other errors than these arise. -/
  causes (e : FormatError) (h : parse bs = .error e) : e.OfParse

/-- The reader runs out of bytes when the end of a class file is missing. -/
theorem parse_take_of_parse (h : parse bs = .ok c) {n : Nat} (hn : n < bs.length) :
    ∃ offset requested remaining,
      parse (bs.take n) = .error (.outOfBounds offset requested remaining) ∧
        offset + remaining = n ∧ remaining < requested := by
  have hwhole : Format.of WellFormed toBytes c (bs.take n ++ bs.drop n) := by
    rw [List.take_append_drop]
    exact parse_eq_ok_iff.1 h
  have hback : bs.drop n ≠ [] := by
    rw [ne_eq, List.drop_eq_nil_iff]
    omega
  obtain ⟨offset, requested, remaining, hread, hsum, hlt⟩ := reads_read.truncated hwhole hback 0
  refine ⟨offset, requested, remaining, parse_of_read_error hread, ?_, hlt⟩
  rw [hsum, Nat.zero_add, List.length_take_of_le (by omega)]

/-- **Reading is prefix-free and stable under more bytes.** -/
theorem parse_prefixStable (bs : Bytes) : PrefixStable bs := by
  rcases read_cases bs with ⟨c₀, position, rest, hread⟩ | ⟨e₀, he₀, hread⟩
  case inl =>
    have hmore : ∀ more, parse (bs ++ more) =
        if rest ++ more = [] then .ok c₀ else .error (.trailingBytes (rest ++ more).length) :=
      fun more => parse_of_read_ok (hread more)
    have hbs : parse bs = if rest = [] then .ok c₀ else .error (.trailingBytes rest.length) := by
      simpa using hmore []
    refine ⟨?_, fun c h n hn => parse_take_of_parse h hn, ?_, ?_, ?_⟩
    · intro c h more hne
      rw [hbs] at h
      split_ifs at h with hrest
      rw [hmore, hrest, List.nil_append, if_neg hne]
    · intro count h more
      rw [hbs] at h
      split_ifs at h with hrest
      cases h
      rw [hmore, if_neg (by simp [hrest]), List.length_append]
    · intro e h hbounds htrailing
      rw [hbs] at h
      split_ifs at h with hrest
      cases h
      exact absurd rfl (htrailing _)
    · intro e h
      rw [hbs] at h
      split_ifs at h with hrest
      cases h
      exact .trailingBytes (List.length_pos_iff.2 hrest)
  case inr =>
    have hbs : parse bs = .error e₀ := parse_of_read_error hread
    refine ⟨?_, fun c h n hn => parse_take_of_parse h hn, ?_, ?_, ?_⟩
    · intro c h
      rw [hbs] at h
      cases h
    · intro count h
      rw [hbs] at h
      cases h
      cases he₀
    · intro e h hbounds htrailing more
      rw [hbs] at h
      cases h
      exact parse_of_read_error (reads_read.refused hread hbounds more)
    · intro e h
      rw [hbs] at h
      cases h
      exact .read he₀

/-- The bytes of `oddities` with more bytes and with fewer, and bytes that start with another
number. -/
theorem parse_prefixStable_oddities :
    parse (odditiesBytes ++ [0, 0]) = .error (.trailingBytes 2) ∧
      parse (odditiesBytes ++ [0, 0] ++ [7]) = .error (.trailingBytes 3) ∧
      (∃ offset requested remaining,
        parse (odditiesBytes.take 30) = .error (.outOfBounds offset requested remaining) ∧
          offset + remaining = 30 ∧ remaining < requested) ∧
      parse ([0xCA, 0xFE, 0xBA, 0xBF] ++ [0]) = .error (.badMagic 0xCAFEBABF) := by
  have hodd : parse odditiesBytes = .ok oddities := by decide +kernel
  have hmagic : parse [0xCA, 0xFE, 0xBA, 0xBF] = .error (.badMagic 0xCAFEBABF) := by
    decide +kernel
  have hmore : parse (odditiesBytes ++ [0, 0]) = .error (.trailingBytes 2) :=
    (parse_prefixStable odditiesBytes).extended oddities hodd [0, 0] (by decide)
  exact ⟨hmore, (parse_prefixStable _).trailing 2 hmore [7],
    (parse_prefixStable odditiesBytes).shortened oddities hodd 30 (by decide),
    (parse_prefixStable _).refused _ hmagic (by simp) (by simp) [0]⟩

end ClassFile
end ClassLiterals
