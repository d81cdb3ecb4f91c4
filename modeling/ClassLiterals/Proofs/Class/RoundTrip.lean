import ClassLiterals.Class.Codec
import ClassLiterals.Proofs.Pool.Codec

/-!
# Reading and writing class files

The reader of class files accepts exactly the bytes that well-formed class files are written as, and
gives the class file that was written. So bytes that are a class file come back byte for byte when
it is written, whatever its texts, numbers and attributes hold; and a class file with other texts,
as long as it is well-formed, can be read again.

Main results: `parse_eq_ok_iff` and `toBytes_of_parse`.
-/

namespace ClassLiterals

open Decoder

/-! ## Attributes -/

namespace Attribute

/-- An attribute whose payload can be measured in thirty-two bits. -/
def WellFormed (a : Attribute) : Prop := a.payload.length < 2 ^ 32

instance (a : Attribute) : Decidable a.WellFormed := inferInstanceAs (Decidable (_ < _))

theorem reads_read : Reads Attribute.read (.of WellFormed encode) := by
  have hread : Attribute.read = (fun p => ⟨p.1, p.2⟩) <$> pair u2 measured := by
    simp only [Attribute.read, pair, measured, map_eq_pure_bind, bind_assoc, pure_bind]
  rw [hread]
  refine ((reads_u2.of_all.pair reads_measured).map_of _
    (fun a => (a.nameIndex, a.payload)) (fun _ => rfl) fun _ => rfl).congr fun a bs => ?_
  rw [Format.of, Format.of, encode, encodeMeasured, List.append_assoc, true_and]
  rfl

theorem reads_readList : Reads readList (.of (Countable WellFormed) encodeList) :=
  reads_read.counted

end Attribute

/-! ## Code attributes -/

theorem Handler.reads_read : Reads Handler.read (.of (fun _ => True) Handler.encode) := by
  have hread : Handler.read =
      (fun p => ⟨p.1, p.2.1, p.2.2.1, p.2.2.2⟩) <$> pair u2 (pair u2 (pair u2 u2)) := by
    simp only [Handler.read, pair, map_eq_pure_bind, bind_assoc, pure_bind]
  rw [hread]
  refine ((reads_u2.of_all.pair (reads_u2.of_all.pair (reads_u2.of_all.pair
    reads_u2.of_all))).map_of _ (fun h => (h.startPc, h.endPc, h.handlerPc, h.catchType))
    (fun _ => rfl) fun _ => rfl).congr fun h bs => ?_
  simp only [Format.of, encode, List.append_assoc, and_true]

namespace Code

/-- Code whose bytes can be measured and whose lists can be counted. -/
structure WellFormed (c : Code) : Prop where
  bytecode : c.bytecode.length < 2 ^ 32
  handlers : c.handlers.length ≤ 65535
  attributes : Countable Attribute.WellFormed c.attributes

theorem reads_read : Reads Code.read (.of WellFormed encode) := by
  have hread : Code.read = (fun p => ⟨p.1, p.2.1, p.2.2.1, p.2.2.2.1, p.2.2.2.2⟩) <$>
      pair u2 (pair u2 (pair measured (pair (counted Handler.read) Attribute.readList))) := by
    simp only [Code.read, pair, measured, counted, map_eq_pure_bind, bind_assoc, pure_bind]
  rw [hread]
  refine ((reads_u2.of_all.pair (reads_u2.of_all.pair (reads_measured.pair
    (Handler.reads_read.counted.pair Attribute.reads_readList)))).map_of _
    (fun c => (c.maxStack, c.maxLocals, c.bytecode, c.handlers, c.attributes)) (fun _ => rfl)
    fun _ => rfl).congr fun c bs => ?_
  constructor
  · rintro ⟨⟨-, -, hbytecode, hhandlers, hattributes⟩, rfl⟩
    refine ⟨⟨hbytecode, hhandlers.length_le, hattributes⟩, ?_⟩
    simp only [encode, encodeMeasured, encodeCounted, List.append_assoc]
  · rintro ⟨hwf, rfl⟩
    refine ⟨⟨trivial, trivial, hwf.bytecode, ⟨hwf.handlers, fun _ _ => trivial⟩,
      hwf.attributes⟩, ?_⟩
    simp only [encode, encodeMeasured, encodeCounted, List.append_assoc]

end Code

/-! ## Members -/

namespace Member

/-- A member whose bytes are those of its parts. -/
structure WellFormed (m : Member) : Prop where
  attributes : Countable Attribute.WellFormed m.attributes
  raw_eq : m.raw = encodeParts m.flags m.nameIndex m.descriptorIndex m.attributes

theorem reads_read : Reads Member.read (.of WellFormed raw) := by
  have hread : Member.read =
      (fun q => ⟨q.1.1, q.1.2.1, q.1.2.2.1, q.1.2.2.2, q.2⟩) <$> withBytes
        ((fun p => (⟨p.1⟩, p.2)) <$> pair u2 (pair u2 (pair u2 Attribute.readList))) := by
    simp only [Member.read, pair, map_eq_pure_bind, bind_assoc, pure_bind]
  rw [hread]
  refine (((reads_u2.of_all.pair (reads_u2.of_all.pair (reads_u2.of_all.pair
    Attribute.reads_readList))).map_of _ (fun p => (p.1.bits, p.2)) (fun _ => rfl)
    fun _ => rfl).withBytes.map _).congr fun m bs => ?_
  constructor
  · rintro ⟨⟨⟨flags, nameIndex, descriptorIndex, attributes⟩, raw⟩,
      ⟨⟨⟨-, -, -, hattributes⟩, hbs⟩, hraw⟩, rfl⟩
    dsimp only at hraw hbs hattributes
    refine ⟨⟨hattributes, ?_⟩, hraw.symm⟩
    rw [hraw, hbs, encodeParts, List.append_assoc, List.append_assoc]
  · rintro ⟨⟨hattributes, hraw⟩, rfl⟩
    refine ⟨((m.flags, m.nameIndex, m.descriptorIndex, m.attributes), m.raw),
      ⟨⟨⟨trivial, trivial, trivial, hattributes⟩, ?_⟩, rfl⟩, rfl⟩
    rw [hraw, encodeParts, List.append_assoc, List.append_assoc]

end Member

/-! ## Class files -/

namespace ClassFile

/-- A class file whose lists can be counted and whose parts are well-formed. -/
structure WellFormed (c : ClassFile) : Prop where
  pool : c.pool.WellFormed
  interfaces : c.interfaces.length ≤ 65535
  fields : Countable Member.WellFormed c.fields
  methods : Countable Member.WellFormed c.methods
  attributes : Countable Attribute.WellFormed c.attributes

theorem WellFormed.withPool {c : ClassFile} {p : Pool} (hc : c.WellFormed) (hp : p.WellFormed) :
    ({ c with pool := p } : ClassFile).WellFormed :=
  ⟨hp, hc.interfaces, hc.fields, hc.methods, hc.attributes⟩

theorem reads_readMagic : Reads readMagic fun _ bs => bs = Bytes.ofUInt32 magic := by
  have hcheck : ∀ found : UInt32,
      Reads (if found = magic then pure () else fail (.badMagic found) : Decoder Unit)
        fun _ bs => found = magic ∧ bs = [] := by
    intro found
    by_cases h : found = magic
    · rw [if_pos h]
      exact (Reads.pure ()).congr fun _ bs => by simp [h]
    · rw [if_neg h]
      exact (Reads.fail _).congr fun _ bs => by simp [h]
  refine (reads_u4.bind hcheck).congr fun _ bs => ?_
  constructor
  · rintro ⟨_, _, _, rfl, rfl, rfl, rfl⟩
    rw [List.append_nil]
  · rintro rfl
    exact ⟨magic, _, [], rfl, (List.append_nil _).symm, rfl, rfl⟩

/-- The parts of a class file in the order of its bytes, the magic number apart. -/
abbrev Parts := UInt16 × UInt16 × Pool × UInt16 × UInt16 × UInt16 × List UInt16 × List Member ×
  List Member × List Attribute

/-- The parts of a class file. -/
def parts (c : ClassFile) : Parts :=
  (c.minorVersion, c.majorVersion, c.pool, c.flags.bits, c.thisClass, c.superClass, c.interfaces,
    c.fields, c.methods, c.attributes)

/-- The class file with the given parts. -/
def ofParts : Parts → ClassFile
  | (minorVersion, majorVersion, pool, flags, thisClass, superClass, interfaces, fields, methods,
      attributes) =>
    ⟨minorVersion, majorVersion, pool, ⟨flags⟩, thisClass, superClass, interfaces, fields, methods,
      attributes⟩

/-- Reads the parts of a class file. -/
def readParts : Decoder Parts :=
  pair u2 <| pair u2 <| pair Pool.read <| pair u2 <| pair u2 <| pair u2 <| pair (counted u2) <|
    pair (counted Member.read) <| pair (counted Member.read) Attribute.readList

theorem read_eq_readParts : read = readMagic >>= fun _ => ofParts <$> readParts := by
  simp only [read, readParts, counted, pair, ofParts, map_eq_pure_bind, bind_assoc, pure_bind]

theorem reads_read : Reads read (.of WellFormed toBytes) := by
  have hparts := reads_u2.of_all.pair <| reads_u2.of_all.pair <| Pool.reads_read.pair <|
    reads_u2.of_all.pair <| reads_u2.of_all.pair <| reads_u2.of_all.pair <|
    reads_u2.of_all.counted.pair <| Member.reads_read.counted.pair <|
    Member.reads_read.counted.pair Attribute.reads_readList
  rw [read_eq_readParts]
  refine (reads_readMagic.bind fun _ =>
    hparts.map_of ofParts parts (fun _ => rfl) fun _ => rfl).congr fun c bs => ?_
  constructor
  · rintro ⟨_, _, _, rfl, rfl,
      ⟨-, -, hpool, -, -, -, hinterfaces, hfields, hmethods, hattributes⟩, rfl⟩
    refine ⟨⟨hpool, hinterfaces.length_le, hfields, hmethods, hattributes⟩, ?_⟩
    simp only [toBytes, parts, encodeCounted, List.append_assoc]
  · rintro ⟨hwf, rfl⟩
    refine ⟨(), _, _, rfl, ?_, ⟨trivial, trivial, hwf.pool, trivial, trivial, trivial,
      ⟨hwf.interfaces, fun _ _ => trivial⟩, hwf.fields, hwf.methods, hwf.attributes⟩, rfl⟩
    simp only [toBytes, parts, encodeCounted, List.append_assoc]

/-! ## Whole files -/

theorem parse_eq (bs : Bytes) : parse bs = match read (.atStart bs) with
    | .ok (c, rest) => if rest.isAtEnd then .ok c else .error (.trailingBytes rest.remaining)
    | .error e => .error e := by
  rw [parse, decode, bind_apply]
  cases read (.atStart bs) with
  | error e => rfl
  | ok r =>
    obtain ⟨c, rest⟩ := r
    simp only [bind_apply, endOfBytes]
    by_cases h : rest.isAtEnd = true
    · simp only [h, if_true]
      rfl
    · simp only [h]
      rfl

/-- **Reading accepts exactly what writing produces.**  Bytes are a class file when they are what a
well-formed class file is written as, and that class file is what they are read as. -/
theorem parse_eq_ok_iff {bs : Bytes} {c : ClassFile} :
    parse bs = .ok c ↔ c.WellFormed ∧ bs = c.toBytes := by
  rw [parse_eq]
  constructor
  · intro h
    cases hread : read (.atStart bs) with
    | error e => simp [hread] at h
    | ok r =>
      obtain ⟨c', rest⟩ := r
      simp only [hread] at h
      split at h
      · rename_i hend
        cases h
        obtain ⟨used, ⟨hwf, rfl⟩, hrest, -⟩ := reads_read.sound hread
        have hnil : rest.rest = [] := List.isEmpty_iff.1 hend
        rw [hnil, List.append_nil] at hrest
        exact ⟨hwf, hrest⟩
      · simp at h
  · rintro ⟨hwf, rfl⟩
    have hread : read (.atStart c.toBytes) = .ok (c, ⟨0 + c.toBytes.length, []⟩) := by
      have h := reads_read.complete ⟨hwf, rfl⟩ 0 []
      rwa [List.append_nil] at h
    rw [hread]
    rfl

theorem parse_toBytes {c : ClassFile} (h : c.WellFormed) : parse c.toBytes = .ok c :=
  parse_eq_ok_iff.2 ⟨h, rfl⟩

/-- **Byte-exact round trip.**  A class file that was read is written as the bytes it was read
from. -/
theorem toBytes_of_parse {bs : Bytes} {c : ClassFile} (h : parse bs = .ok c) : c.toBytes = bs :=
  (parse_eq_ok_iff.1 h).2.symm

/-- A class file with a text that is no modified UTF-8, a number that is none, wide constants of
both kinds, a name with a type, flags without a name, and an attribute `Code` that holds no code. -/
def oddities : ClassFile where
  minorVersion := 0
  majorVersion := 52
  pool := ⟨#[.utf8 (.ofBytes [0xC0, 0x00, 0xED, 0xA0, 0x80, 0xFF]), .float 0x7FC00001,
    .long ⟨0, 7⟩, .unusable, .classRef 1, .utf8 (.ofBytes [0x43, 0x6F, 0x64, 0x65]),
    .nameAndType 6 1, .double ⟨0x3FF80000, 0⟩, .unusable]⟩
  flags := ⟨0xFFFF⟩
  thisClass := 5
  superClass := 0
  interfaces := []
  fields := [⟨⟨0x0002⟩, 1, 1, [⟨6, [0x00]⟩],
    [0x00, 0x02, 0x00, 0x01, 0x00, 0x01, 0x00, 0x01, 0x00, 0x06, 0x00, 0x00, 0x00, 0x01, 0x00]⟩]
  methods := []
  attributes := [⟨6, [0x01, 0x02]⟩]

/-- The bytes of `oddities`. -/
def odditiesBytes : Bytes :=
  [0xCA, 0xFE, 0xBA, 0xBE, 0x00, 0x00, 0x00, 0x34, 0x00, 0x0A,
   0x01, 0x00, 0x06, 0xC0, 0x00, 0xED, 0xA0, 0x80, 0xFF, 0x04, 0x7F, 0xC0, 0x00, 0x01,
   0x05, 0x00, 0x00, 0x00, 0x00, 0x00, 0x00, 0x00, 0x07, 0x07, 0x00, 0x01,
   0x01, 0x00, 0x04, 0x43, 0x6F, 0x64, 0x65, 0x0C, 0x00, 0x06, 0x00, 0x01,
   0x06, 0x3F, 0xF8, 0x00, 0x00, 0x00, 0x00, 0x00, 0x00,
   0xFF, 0xFF, 0x00, 0x05, 0x00, 0x00, 0x00, 0x00, 0x00, 0x01,
   0x00, 0x02, 0x00, 0x01, 0x00, 0x01, 0x00, 0x01, 0x00, 0x06, 0x00, 0x00, 0x00, 0x01, 0x00,
   0x00, 0x00, 0x00, 0x01, 0x00, 0x06, 0x00, 0x00, 0x00, 0x02, 0x01, 0x02]

theorem toBytes_of_parse_oddities :
    parse odditiesBytes = .ok oddities ∧ oddities.toBytes = odditiesBytes :=
  ⟨by decide +kernel, toBytes_of_parse (by decide +kernel)⟩

end ClassFile
end ClassLiterals
