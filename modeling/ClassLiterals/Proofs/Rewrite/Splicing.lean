import ClassLiterals.Proofs.Bytes.Splicing
import ClassLiterals.Proofs.Rewrite.Structure

/-!
# Rewriting as splicing

A rewrite writes the whole class anew, but what it writes differs little from what was read: at the
text entry of each replacement that it reports there are the length and the bytes of the new text in
the place of the old length and the old bytes. Everything else is copied, byte for byte.

Main result: `rewriteClass_splices`.
-/

namespace ClassLiterals

/-! ## Where the slots of a pool stand -/

namespace Pool

variable {p : Pool} {i : UInt16}

/-- The position of a slot of the pool in the bytes of a class file: before the pool there are the
magic number, the two versions and the pool count. Slot `i` of the format has place `i - 1`. -/
def offset (p : Pool) (place : Nat) : Nat :=
  10 + ((p.slots.toList.take place).flatMap Constant.encode).length

theorem offset_succ {place : Nat} {k : Constant} (h : p.slots.toList[place]? = some k) :
    p.offset (place + 1) = p.offset place + k.encode.length := by
  rw [offset, offset, List.take_add_one, h, Option.toList_some, List.flatMap_append,
    List.length_append, List.flatMap_singleton, Nat.add_assoc]

theorem offset_mono {m n : Nat} (h : m ≤ n) : p.offset m ≤ p.offset n := by
  obtain ⟨k, rfl⟩ := Nat.exists_eq_add_of_le h
  rw [offset, offset, List.take_add, List.flatMap_append, List.length_append]
  omega

/-- The place of an index that names a constant. -/
theorem getElem?_of_get? {k : Constant} (h : p.get? i = some k) :
    p.slots.toList[i.toNat - 1]? = some k := by
  have hslot := (get?_eq_some_iff.1 h).1
  rwa [slot?, if_neg (ne_zero_of_get? h), ← Array.getElem?_toList] at hslot

/-- The bytes of the text entry at an index. Other indices have none. -/
def payload (p : Pool) (index : UInt16) : Bytes :=
  match p.get? index with
  | some (.utf8 entry) => entry.bytes
  | _ => []

theorem payload_of_get? {entry : Utf8} (h : p.get? i = some (.utf8 entry)) :
    p.payload i = entry.bytes := by
  rw [payload, h]

/-- What a replacement does to the bytes of a class file. The tag of the entry stays; the two bytes
of its length and its payload become those of the new text. -/
def edit (p : Pool) (r : Replacement) : Bytes.Edit where
  start := p.offset (r.textIndex.toNat - 1) + 1
  stop := p.offset (r.textIndex.toNat - 1) + 1 + (2 + (p.payload r.textIndex).length)
  bytes :=
    Bytes.ofUInt16 (UInt16.ofNat (ModifiedUtf8.encode r.new).length) ++ ModifiedUtf8.encode r.new

variable {r s : Replacement} {old old' : Utf8}

/-- The edit ends where the next slot starts. -/
theorem stop_edit (hr : p.get? r.textIndex = some (.utf8 old)) :
    (p.edit r).stop = p.offset (r.textIndex.toNat - 1 + 1) := by
  rw [offset_succ (getElem?_of_get? hr), edit, payload_of_get? hr, Constant.encode,
    List.length_cons, List.length_append, Bytes.length_ofUInt16]
  dsimp only
  omega

/-- The edit ends before the pool does. -/
theorem stop_edit_le (hr : p.get? r.textIndex = some (.utf8 old)) :
    (p.edit r).stop ≤ 10 + (p.slots.toList.flatMap Constant.encode).length := by
  have hlt := (List.getElem?_eq_some_iff.1 (getElem?_of_get? hr)).1
  rw [stop_edit hr]
  refine (offset_mono (Nat.succ_le_of_lt hlt)).trans ?_
  rw [offset, List.take_length]

/-- The edit changes no byte of another slot. -/
theorem edit_outside (hr : p.get? r.textIndex = some (.utf8 old)) {place : Nat} {k : Constant}
    (hk : p.slots.toList[place]? = some k) (hne : r.textIndex.toNat - 1 ≠ place) :
    (p.edit r).stop ≤ p.offset place ∨ p.offset place + k.encode.length ≤ (p.edit r).start := by
  rw [stop_edit hr, ← offset_succ hk]
  rcases Nat.lt_or_gt_of_ne hne with h | h
  · exact .inl (offset_mono h)
  · exact .inr ((offset_mono h).trans (Nat.le_succ _))

/-- The edits of different entries are apart. -/
theorem apart_edit (hr : p.get? r.textIndex = some (.utf8 old))
    (hs : p.get? s.textIndex = some (.utf8 old')) (hne : r.textIndex ≠ s.textIndex) :
    (p.edit r).Apart (p.edit s) := by
  have hplace : s.textIndex.toNat - 1 ≠ r.textIndex.toNat - 1 := by
    have hr0 : r.textIndex.toNat ≠ 0 := fun h => ne_zero_of_get? hr (UInt16.toNat_inj.1 h)
    have hs0 : s.textIndex.toNat ≠ 0 := fun h => ne_zero_of_get? hs (UInt16.toNat_inj.1 h)
    have hne' : r.textIndex.toNat ≠ s.textIndex.toNat := fun h => hne (UInt16.toNat_inj.1 h)
    omega
  rcases edit_outside hs (getElem?_of_get? hr) hplace with h | h
  · exact .inr (h.trans (Nat.le_succ _))
  · left
    rwa [stop_edit hr, offset_succ (getElem?_of_get? hr)]

/-- An edit makes the bytes longer by as much as the new payload is longer than the old one. -/
theorem growth_edit (p : Pool) (r : Replacement) : (p.edit r).growth =
    (ModifiedUtf8.encode r.new).length - (p.payload r.textIndex).length := by
  rw [Bytes.Edit.growth, edit]
  dsimp only
  rw [List.length_append, Bytes.length_ofUInt16]
  omega

end Pool

/-! ## Pools after replacements -/

namespace Applied.Admissible

variable {p : Pool} {rs : List Replacement} {r : Replacement}

theorem size_foldl_replaceIn (h : Admissible p rs) :
    (rs.foldl replaceIn p).slots.size = p.slots.size := by
  induction rs generalizing p with
  | nil => rfl
  | cons r rs ih => rw [List.foldl_cons, ih h.tail, h.replaceIn_eq, Pool.size_setSlot]

/-- The slots that no replacement is for stay. -/
theorem getElem?_foldl_replaceIn (h : Admissible p rs) {place : Nat}
    (hplace : ∀ r ∈ rs, r.textIndex.toNat - 1 ≠ place) :
    (rs.foldl replaceIn p).slots[place]? = p.slots[place]? := by
  induction rs generalizing p with
  | nil => rfl
  | cons r rs ih =>
    rw [List.forall_mem_cons] at hplace
    rw [List.foldl_cons, ih h.tail hplace.2, h.replaceIn_eq, Pool.setSlot,
      Array.getElem?_setIfInBounds_ne hplace.1]

theorem exists_of_mem_edits (h : Admissible p rs) {e : Bytes.Edit} (he : e ∈ rs.map p.edit) :
    ∃ r ∈ rs, ∃ old, p.get? r.textIndex = some (.utf8 old) ∧ p.edit r = e := by
  obtain ⟨r, hr, rfl⟩ := List.mem_map.1 he
  obtain ⟨old, hold, -⟩ := h.exists_entry hr
  exact ⟨r, hr, old, hold, rfl⟩

/-- The edits of the other replacements are apart from the edit of one of them. -/
theorem apart_of_mem (h : Admissible p rs) (hr : r ∈ rs) :
    ∀ e ∈ rs.map p.edit, e = p.edit r ∨ (p.edit r).Apart e := by
  intro e he
  obtain ⟨s, hs, old', hold', rfl⟩ := h.exists_of_mem_edits he
  by_cases heq : s.textIndex = r.textIndex
  · left
    rw [List.inj_on_of_nodup_map h.nodup hs hr heq]
  · obtain ⟨old, hold, -⟩ := h.exists_entry hr
    exact .inr (Pool.apart_edit hold hold' (Ne.symm heq))

/-- No edit is for the tag of an entry. -/
theorem not_covers_offset (h : Admissible p rs) {place : Nat} {k : Constant}
    (hk : p.slots.toList[place]? = some k) (hne : k.encode ≠ []) :
    ∀ e ∈ rs.map p.edit, ¬ e.Covers (p.offset place) := by
  intro e he hcovers
  obtain ⟨s, -, old, hold, rfl⟩ := h.exists_of_mem_edits he
  have hpos := List.length_pos_iff.2 hne
  unfold Bytes.Edit.Covers at hcovers
  by_cases hplace : s.textIndex.toNat - 1 = place
  · rw [← hplace, Pool.edit] at hcovers
    dsimp only at hcovers
    omega
  · have := Pool.edit_outside hold hk hplace
    omega

/-- **One slot.**  The edits turn the bytes of a slot into those of the slot after the
replacements. -/
theorem spliceFrom_slot (hp : p.WellFormed) (h : Admissible p rs) {place : Nat} {k k' : Constant}
    (hk : p.slots.toList[place]? = some k)
    (hk' : (rs.foldl replaceIn p).slots.toList[place]? = some k') :
    Bytes.spliceFrom (rs.map p.edit) (p.offset place) k.encode = k'.encode := by
  by_cases hplace : ∃ r ∈ rs, r.textIndex.toNat - 1 = place
  · -- The slot is replaced: its tag stays, and the edit is for all that follows the tag.
    obtain ⟨r, hr, rfl⟩ := hplace
    obtain ⟨old, hold, -⟩ := h.exists_entry hr
    obtain rfl : k = .utf8 old := by
      rw [Pool.getElem?_of_get? hold] at hk
      exact (Option.some.inj hk).symm
    obtain rfl : k' = .utf8 (.encoded r.new) := by
      rw [Pool.getElem?_of_get? ((foldl_replaceIn_spec hp h).2 r hr)] at hk'
      exact (Option.some.inj hk').symm
    have htag := h.not_covers_offset hk (List.cons_ne_nil _ _)
    have hlen : (p.edit r).start + (Bytes.ofUInt16 (UInt16.ofNat old.bytes.length) ++
        old.bytes).length = (p.edit r).stop := by
      rw [List.length_append, Bytes.length_ofUInt16, Pool.edit, Pool.payload_of_get? hold]
    have hrest := Bytes.spliceFrom_of_replaced (List.mem_map_of_mem hr) (h.apart_of_mem hr)
      (List.ne_nil_of_length_pos (by
        rw [List.length_append, Bytes.length_ofUInt16]
        omega)) hlen
    rw [Constant.encode, Bytes.spliceFrom, Bytes.spliceByte_of_not_covers htag]
    exact congrArg _ hrest
  · have hplace : ∀ s ∈ rs, s.textIndex.toNat - 1 ≠ place :=
      fun s hs heq => hplace ⟨s, hs, heq⟩
    have hkeep : k' = k := by
      rw [Array.getElem?_toList, h.getElem?_foldl_replaceIn hplace, ← Array.getElem?_toList,
        hk] at hk'
      exact (Option.some.inj hk').symm
    rw [hkeep]
    refine Bytes.spliceFrom_of_outside fun e he => ?_
    obtain ⟨s, hs, old, hold, rfl⟩ := h.exists_of_mem_edits he
    exact Pool.edit_outside hold hk (hplace s hs)

end Applied.Admissible

/-! ## Class files -/

namespace ClassFile

open Applied

variable {c : ClassFile} {rs : List Replacement} {r : Replacement}

/-- The bytes of a class file before the slots of its pool. -/
def bytesBeforeSlots (c : ClassFile) : Bytes :=
  Bytes.ofUInt32 magic ++ Bytes.ofUInt16 c.minorVersion ++ Bytes.ofUInt16 c.majorVersion ++
    Bytes.ofUInt16 c.pool.count

/-- The bytes of a class file after its pool. -/
def bytesAfterPool (c : ClassFile) : Bytes :=
  Bytes.ofUInt16 c.flags.bits ++ Bytes.ofUInt16 c.thisClass ++ Bytes.ofUInt16 c.superClass ++
    Bytes.ofUInt16 (UInt16.ofNat c.interfaces.length) ++ c.interfaces.flatMap Bytes.ofUInt16 ++
    Bytes.ofUInt16 (UInt16.ofNat c.fields.length) ++ c.fields.flatMap Member.raw ++
    Bytes.ofUInt16 (UInt16.ofNat c.methods.length) ++ c.methods.flatMap Member.raw ++
    Attribute.encodeList c.attributes

theorem toBytes_eq_append (c : ClassFile) : c.toBytes =
    c.bytesBeforeSlots ++ (c.pool.slots.toList.flatMap Constant.encode ++ c.bytesAfterPool) := by
  simp only [toBytes, Pool.encode, bytesBeforeSlots, bytesAfterPool, List.append_assoc]

theorem length_bytesBeforeSlots (c : ClassFile) : c.bytesBeforeSlots.length = 10 := by
  simp only [bytesBeforeSlots, List.length_append, Bytes.length_ofUInt32, Bytes.length_ofUInt16]

/-- A slot stands at its position. -/
theorem slice_offset {place : Nat} {k : Constant} (hk : c.pool.slots.toList[place]? = some k) :
    c.toBytes.slice (c.pool.offset place) (c.pool.offset (place + 1)) = k.encode := by
  obtain ⟨hlt, rfl⟩ := List.getElem?_eq_some_iff.1 hk
  have hslots : c.pool.slots.toList.flatMap Constant.encode =
      (c.pool.slots.toList.take place).flatMap Constant.encode ++
        (c.pool.slots.toList[place].encode ++
          (c.pool.slots.toList.drop (place + 1)).flatMap Constant.encode) := by
    rw [← List.flatMap_cons, ← List.flatMap_append, ← List.drop_eq_getElem_cons hlt,
      List.take_append_drop]
  have hoffset : c.pool.offset place =
      (c.bytesBeforeSlots ++ (c.pool.slots.toList.take place).flatMap Constant.encode).length := by
    rw [List.length_append, length_bytesBeforeSlots, Pool.offset]
  rw [Pool.offset_succ hk, toBytes_eq_append, hslots, hoffset, List.append_assoc,
    List.append_assoc, ← List.append_assoc]
  exact Bytes.slice_append_append _ _ _

/-- **Replacements as edits.**  A class file with other texts is written as the bytes that it was
written as before, after the edits of the replacements. -/
theorem toBytes_foldl_replaceIn (hc : c.WellFormed) (h : Admissible c.pool rs) :
    ({ c with pool := rs.foldl replaceIn c.pool } : ClassFile).toBytes =
      c.toBytes.splice (rs.map c.pool.edit) := by
  have hsize := h.size_foldl_replaceIn
  have hbefore : ({ c with pool := rs.foldl replaceIn c.pool } : ClassFile).bytesBeforeSlots =
      c.bytesBeforeSlots := by
    rw [bytesBeforeSlots, bytesBeforeSlots, Pool.count, Pool.count, hsize]
  have hslots : Bytes.spliceFrom (rs.map c.pool.edit) 10
      (c.pool.slots.toList.flatMap Constant.encode) =
      (rs.foldl replaceIn c.pool).slots.toList.flatMap Constant.encode :=
    Bytes.spliceFrom_flatMap (by simpa using hsize) fun place k k' hk hk' =>
      h.spliceFrom_slot hc.pool hk hk'
  have hstart : ∀ e ∈ rs.map c.pool.edit, 10 ≤ e.start := by
    intro e he
    obtain ⟨r, -, rfl⟩ := List.mem_map.1 he
    rw [Pool.edit, Pool.offset]
    dsimp only
    omega
  have hstop : ∀ e ∈ rs.map c.pool.edit,
      e.stop ≤ 10 + (c.pool.slots.toList.flatMap Constant.encode).length := by
    intro e he
    obtain ⟨r, -, old, hold, rfl⟩ := h.exists_of_mem_edits he
    exact Pool.stop_edit_le hold
  rw [toBytes_eq_append, toBytes_eq_append, hbefore, Bytes.splice, Bytes.spliceFrom_append,
    Bytes.spliceFrom_append, Nat.zero_add, length_bytesBeforeSlots, hslots]
  congr 1
  · refine (Bytes.spliceFrom_of_outside fun e he => .inr ?_).symm
    rw [Nat.zero_add, length_bytesBeforeSlots]
    exact hstart e he
  · congr 1
    exact (Bytes.spliceFrom_of_outside fun e he => .inl (hstop e he)).symm

/-- The replacement `r` is one of the text entry `old`, and its edit is for the length and the
payload of this entry. -/
structure Replaces (c : ClassFile) (bs : Bytes) (r : Replacement) (old : Utf8) : Prop where
  entry : c.pool.get? r.textIndex = some (.utf8 old)
  old_eq : r.old = ModifiedUtf8.decode old.bytes
  /-- The entry stands at the position of its slot. Its first byte, the tag, is not edited. -/
  bytes_eq : bs.slice (c.pool.offset (r.textIndex.toNat - 1)) (c.pool.edit r).stop =
    Constant.Kind.utf8.tag :: (Bytes.ofUInt16 (UInt16.ofNat old.bytes.length) ++ old.bytes)
  size_le : old.bytes.length ≤ Utf8.maxSize
  fits : Utf8.Fits r.new

/-- `out` are the bytes `bs` of the class file `c` but for the texts of some replacements. -/
structure Splices (c : ClassFile) (rs : List Replacement) (bs out : Bytes) : Prop where
  bytes_eq : out = bs.splice (rs.map c.pool.edit)
  replaces : ∀ r ∈ rs, ∃ old, c.Replaces bs r old
  nodup : (rs.map Replacement.textIndex).Nodup
  /-- No byte is edited twice. -/
  apart : (rs.map c.pool.edit).Pairwise Bytes.Edit.Apart
  /-- The pool has as many slots as before, and states the same count. -/
  pool : ∃ p, parse out = .ok { c with pool := p } ∧ p.slots.size = c.pool.slots.size ∧
    p.count = c.pool.count
  length_eq : (out.length : Int) = bs.length +
    (rs.map fun r =>
      ((ModifiedUtf8.encode r.new).length : Int) - (c.pool.payload r.textIndex).length).sum

theorem replaces_of_mem (hc : c.WellFormed) (h : Admissible c.pool rs) (hr : r ∈ rs) :
    ∃ old, c.Replaces c.toBytes r old := by
  obtain ⟨old, hold, htext⟩ := h.exists_entry hr
  have hplace := Pool.getElem?_of_get? hold
  have hwf : old.WellFormed := hc.pool.constants _ (List.mem_of_getElem? hplace)
  refine ⟨old, hold, ?_, ?_, hwf.size_le, h.fits r hr⟩
  · rw [← htext, hwf.text_eq]
  · rw [Pool.stop_edit hold, slice_offset hplace]
    rfl

theorem pairwise_apart (h : Admissible c.pool rs) :
    (rs.map c.pool.edit).Pairwise Bytes.Edit.Apart := by
  have hnodup : rs.Pairwise fun r s => r.textIndex ≠ s.textIndex := List.pairwise_map.1 h.nodup
  refine List.pairwise_map.2 (hnodup.imp_of_mem fun hr hs hne => ?_)
  obtain ⟨old, hold, -⟩ := h.exists_entry hr
  obtain ⟨old', hold', -⟩ := h.exists_entry hs
  exact Pool.apart_edit hold hold' hne

theorem length_splice_edits (h : Admissible c.pool rs) :
    ((c.toBytes.splice (rs.map c.pool.edit)).length : Int) = c.toBytes.length +
      (rs.map fun r =>
        ((ModifiedUtf8.encode r.new).length : Int) - (c.pool.payload r.textIndex).length).sum := by
  have hbounds : ∀ e ∈ rs.map c.pool.edit, e.start < e.stop ∧ e.stop ≤ c.toBytes.length := by
    intro e he
    obtain ⟨r, -, old, hold, rfl⟩ := h.exists_of_mem_edits he
    constructor
    · rw [Pool.edit]
      dsimp only
      omega
    · have hstop := Pool.stop_edit_le hold
      rw [toBytes_eq_append, List.length_append, length_bytesBeforeSlots, List.length_append]
      omega
  have hgrowth : Bytes.Edit.growth ∘ c.pool.edit = fun r =>
      ((ModifiedUtf8.encode r.new).length : Int) - (c.pool.payload r.textIndex).length :=
    funext c.pool.growth_edit
  rw [Bytes.length_splice hbounds (pairwise_apart h), List.map_map, hgrowth]

/-- **A rewrite splices texts.**  What it writes are the bytes that it read, in which every
replacement that it reports has put the length and the bytes of its new text in the place of the
old ones. The replacements are of different entries, each of which had the old text. -/
theorem rewriteClass_splices {bs : Bytes} (h : parse bs = .ok c) (f : VisibilityFilter)
    (d : Dictionary) :
    ∃ r, rewriteClass f d bs = .ok r ∧ c.Splices r.report.replacements bs r.bytes := by
  obtain ⟨r, hr, hreport, hbytes⟩ := exists_rewriteClass_eq h f d
  obtain ⟨hc, rfl⟩ := parse_eq_ok_iff.1 h
  have hadmissible := admissible_replacements f d c
  rw [← hreport] at hadmissible hbytes
  have hsplice : r.bytes = c.toBytes.splice (r.report.replacements.map c.pool.edit) := by
    rw [hbytes, toBytes_foldl_replaceIn hc hadmissible]
  have hwf := (foldl_replaceIn_spec hc.pool hadmissible).1
  have hsize := hadmissible.size_foldl_replaceIn
  refine ⟨r, hr, hsplice, fun s hs => replaces_of_mem hc hadmissible hs, hadmissible.nodup,
    pairwise_apart hadmissible, ⟨_, ?_, hsize, ?_⟩, ?_⟩
  · rw [hbytes]
    exact parse_toBytes (hc.withPool hwf)
  · rw [Pool.count, Pool.count, hsize]
  · rw [hsplice]
    exact length_splice_edits hadmissible

/-- In `greeting` the text of entry 6 becomes another one, four bytes longer. -/
theorem rewriteClass_splices_greeting :
    parse greeting.toBytes = .ok greeting ∧
      ∃ r, rewriteClass ⟨2, []⟩ french greeting.toBytes = .ok r ∧
        r.report.replacements = [⟨6, "Hello there", "Bonjour à tous"⟩] ∧
        greeting.Splices r.report.replacements greeting.toBytes r.bytes := by
  have hparse : parse greeting.toBytes = .ok greeting := by decide +kernel
  have hreport : (rewriteClass ⟨2, []⟩ french greeting.toBytes).toOption.map
      (·.report.replacements) = some [⟨6, "Hello there", "Bonjour à tous"⟩] := by decide +kernel
  obtain ⟨r, hr, hsplices⟩ := rewriteClass_splices hparse ⟨2, []⟩ french
  rw [hr] at hreport
  exact ⟨hparse, r, hr, Option.some.inj hreport, hsplices⟩

end ClassFile
end ClassLiterals
