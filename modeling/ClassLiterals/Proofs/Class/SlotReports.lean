import ClassLiterals.Proofs.Pool.Indexing

/-!
# The slots of a class file's pool

The pool of a class file stands behind the magic number and the versions, and all that comes after
it can only run out of bytes. So an error that names an index of the pool is one of its reader, and
what `Pool.CountsSlots` says about that reader holds for class files as well: a pool has the slots
that its bytes state, and an error names the slot behind those that are filled.

Main result: `parse_indexes_slots`.
-/

namespace ClassLiterals

open Decoder

namespace ClassFile

open FormatError (not_namesIndex_outOfBounds)

variable {bs : Bytes} {e : FormatError}

/-- What stands before the pool of a class file. -/
def header (minorVersion majorVersion : UInt16) : Bytes :=
  Bytes.ofUInt32 magic ++ Bytes.ofUInt16 minorVersion ++ Bytes.ofUInt16 majorVersion

@[simp] theorem length_header (minorVersion majorVersion : UInt16) :
    (header minorVersion majorVersion).length = 8 := by
  simp [header]

theorem reads_readHeader :
    Reads readHeader fun versions bs => bs = header versions.1 versions.2 := by
  refine (reads_readMagic.bind fun _ => reads_u2.bind fun minorVersion =>
    reads_u2.bind fun majorVersion => Reads.pure (minorVersion, majorVersion)).congr
    fun versions bs => ?_
  constructor
  · rintro ⟨_, _, _, rfl, rfl, minorVersion, _, _, rfl, rfl, majorVersion, _, _, rfl, rfl, rfl, rfl⟩
    simp only [header, List.append_assoc, List.append_nil]
  · rintro rfl
    refine ⟨(), _, _, rfl, ?_, versions.1, _, _, rfl, rfl, versions.2, _, [], rfl,
      (List.append_nil _).symm, rfl, rfl⟩
    rw [header, List.append_assoc]

/-- An error that names an index is one of the pool, also when a whole class file is read. -/
theorem parse_eq_error_iff (he : e.NamesIndex) : parse bs = .error e ↔
    ∃ minorVersion majorVersion rest, bs = header minorVersion majorVersion ++ rest ∧
      Pool.read ⟨8, rest⟩ = .error e := by
  have hheader : FailsWith readHeader fun e => ¬ e.NamesIndex :=
    failsWith_readHeader not_namesIndex_outOfBounds fun _ _ => nofun
  have hafter (versions : UInt16 × UInt16) (pool : Pool) :
      FailsWith (readAfterPool versions.1 versions.2 pool) fun e => ¬ e.NamesIndex :=
    failsWith_readAfterPool not_namesIndex_outOfBounds _ _ _
  constructor
  · intro h
    rcases read_cases bs with ⟨c, position, rest, hread⟩ | ⟨e', -, hread⟩
    · -- Bytes after the end of a class file are no matter of the pool.
      have hread := hread []
      rw [List.append_nil] at hread
      rw [parse_of_read_ok hread] at h
      split_ifs at h
      cases h
      cases he
    · rw [parse_of_read_error hread] at h
      cases h
      rw [read_eq_readHeader] at hread
      obtain ⟨versions, c₁, hversions, hread⟩ := hheader.passed hread (not_not_intro he)
      obtain ⟨_, rfl, hrest, hpos⟩ := reads_readHeader.sound hversions
      have hc₁ : c₁ = ⟨8, c₁.rest⟩ := by
        rw [length_header] at hpos
        exact congrArg (Cursor.mk · c₁.rest) hpos
      refine ⟨versions.1, versions.2, c₁.rest, hrest, ?_⟩
      rcases bind_eq_error_iff.1 hread with hpool | ⟨pool, c₂, -, hread⟩
      · rwa [hc₁] at hpool
      · exact absurd he (hafter versions pool c₂ _ hread)
  · rintro ⟨minorVersion, majorVersion, rest, rfl, hpool⟩
    have hversions : readHeader (.atStart (header minorVersion majorVersion ++ rest)) =
        .ok ((minorVersion, majorVersion), ⟨8, rest⟩) := by
      have h := reads_readHeader.complete (a := (minorVersion, majorVersion)) rfl 0 rest
      rwa [length_header] at h
    refine parse_of_read_error ?_
    rw [read_eq_readHeader]
    refine bind_eq_error_iff.2 (.inr ⟨_, _, hversions, ?_⟩)
    exact bind_eq_error_iff.2 (.inl hpool)

theorem exists_header_of_parse {c : ClassFile} (h : parse bs = .ok c) :
    ∃ minorVersion majorVersion,
      header minorVersion majorVersion ++ Bytes.ofUInt16 c.pool.count <+: bs ∧
        c.pool.slots.size + 1 = c.pool.count.toNat := by
  obtain ⟨hc, rfl⟩ := parse_eq_ok_iff.1 h
  refine ⟨c.minorVersion, c.majorVersion, ?_, (Pool.toNat_count hc.pool.size_le).symm⟩
  simp only [toBytes, header, Pool.encode, List.append_assoc, List.prefix_append_right_inj,
    List.prefix_append]

/-- What the outcome of reading a class file says about the slots of its pool. -/
structure ReportsSlots (bs : Bytes) : Prop where
  /-- A pool that was read has one slot less than its bytes state, and so many it states itself. -/
  filled (c : ClassFile) (h : parse bs = .ok c) : ∃ minorVersion majorVersion,
    header minorVersion majorVersion ++ Bytes.ofUInt16 c.pool.count <+: bs ∧
      c.pool.slots.size + 1 = c.pool.count.toNat
  /-- An unknown tag is reported with the index of the slot after those filled. -/
  unknownTag_iff (tag : UInt8) (index : UInt16) :
    parse bs = .error (.unknownTag tag index) ↔ ∃ minorVersion majorVersion rest,
      bs = header minorVersion majorVersion ++ rest ∧ Pool.HasBadTag rest tag index
  /-- So is a wide constant without a second slot. -/
  noSecondSlot_iff (index : UInt16) :
    parse bs = .error (.noSecondSlot index) ↔ ∃ minorVersion majorVersion rest,
      bs = header minorVersion majorVersion ++ rest ∧ Pool.LacksSecondSlot rest index

/-- **The index of a pool is right, and never too large.**  Wherever a pool is read, no sum of
indices exceeds sixteen bits, the index of a constant is one more than the number of slots before
it, the pool gets the slots that its bytes state, and errors name the slot that they are about; and
so it is when the pool is that of a class file. -/
theorem parse_indexes_slots (bs : Bytes) :
    (∀ position, Pool.CountsSlots ⟨position, bs⟩) ∧ ReportsSlots bs := by
  refine ⟨fun position => Pool.countsSlots _, ?_, ?_, ?_⟩
  · intro c h
    exact exists_header_of_parse h
  · intro tag index
    rw [parse_eq_error_iff .unknownTag]
    simp only [Pool.read_eq_unknownTag_iff]
  · intro index
    rw [parse_eq_error_iff .noSecondSlot]
    simp only [Pool.read_eq_noSecondSlot_iff]

open Constant in
/-- In a pool with as many slots as the format allows, a wide constant is refused in the last one.
In a small pool a tag is unknown behind a wide constant and another one. -/
theorem parse_indexes_slots_crowded :
    parse (header 0 52 ++ (Bytes.ofUInt16 65535 ++
        ((List.replicate 65533 (.integer 0)).flatMap encode ++ (encode (.long ⟨0, 7⟩) ++ [])))) =
      .error (.noSecondSlot 65534) ∧
    parse (header 0 52 ++ (Bytes.ofUInt16 9 ++
        ([.long ⟨0, 7⟩, .integer 1].flatMap encode ++ 2 :: [0]))) =
      .error (.unknownTag 2 4) := by
  constructor
  · refine ((parse_indexes_slots _).2.noSecondSlot_iff 65534).2 ⟨0, 52, _, rfl, ?_⟩
    refine ⟨65535, _, _, [], rfl, ?_, ⟨by decide, trivial⟩, rfl, ?_, rfl⟩
    · intro k hk
      rw [List.eq_of_mem_replicate hk]
      exact ⟨by decide, trivial⟩
    · rw [slotTotal_replicate]
      rfl
  · refine ((parse_indexes_slots _).2.unknownTag_iff 2 4).2 ⟨0, 52, _, rfl, ?_⟩
    refine ⟨9, _, [0], rfl, ?_, rfl, rfl, by decide⟩
    intro k hk
    fin_cases hk <;> exact ⟨by decide, trivial⟩

end ClassFile
end ClassLiterals
