import ClassLiterals.Bytes.Item
import ClassLiterals.Proofs.Bytes.Reading

/-!
# Items that are read back

A reader that is asked for the kinds of the items in a buffer, in their order, gives the items back
and stands at the end of the buffer. When the end of the buffer is missing, it gives back the items
that are there as a whole. The first one that is not is refused: the answer tells where it begins,
how large it is and how much of it is there, and the reader stays where it begins and can be asked
for something smaller.

* **One request.**  `ask_of_fits` and `ask_of_not_fits`: a reader that looks before it moves. It
  answers what a decoder gives (`ask_eq`).
* **Several requests.**  `askAll_append` and `askAll_items`, by induction on the items.
* **The cut.**  `exists_cut`: which item a missing end begins in.

Main result: `ofItems_readBack`.
-/

namespace ClassLiterals

open Decoder

/-! ## Items and their bytes -/

namespace Item

/-- The number of bytes that items take. -/
def totalSize (items : List Item) : Nat := (items.map fun item => item.kind.size).sum

@[simp] theorem totalSize_nil : totalSize [] = 0 := rfl

@[simp] theorem totalSize_cons (item : Item) (items : List Item) :
    totalSize (item :: items) = item.kind.size + totalSize items := by
  simp [totalSize]

@[simp] theorem length_encode (item : Item) : item.encode.length = item.kind.size := by
  cases item with
  | u1 value => rfl
  | u2 value => exact Bytes.length_ofUInt16 value
  | u4 value => exact Bytes.length_ofUInt32 value
  | float bits => exact Bytes.length_ofUInt32 bits
  | bytes value => rfl

theorem length_flatMap_encode (items : List Item) :
    (items.flatMap encode).length = totalSize items := by
  induction items with
  | nil => rfl
  | cons item items ih =>
    rw [List.flatMap_cons, List.length_append, ih, length_encode, totalSize_cons]

/-- The bytes of an item spell the item. -/
theorem ofBytes_encode (item : Item) : item.kind.ofBytes item.encode = item := by
  cases item with
  | u1 value => simp [kind, encode, Kind.ofBytes, Bytes.toNat]
  | u2 value => exact congrArg Item.u2 (Bytes.uint16_toNat_ofUInt16 value)
  | u4 value => exact congrArg Item.u4 (Bytes.uint32_toNat_ofUInt32 value)
  | float bits => exact congrArg Item.float (Bytes.uint32_toNat_ofUInt32 bits)
  | bytes value => rfl

/-- A decoder of items takes their bytes and looks at what they spell. -/
theorem Kind.read_eq (kind : Kind) : kind.read = kind.ofBytes <$> Decoder.bytes kind.size := by
  cases kind with
  | bytes count => rfl
  | _ => simp only [Kind.read, Kind.ofBytes, Kind.size, Decoder.u1, Decoder.u2, Decoder.u4, number,
      map_eq_pure_bind, bind_assoc, pure_bind]

namespace Reader

/-! ## What readers do to their place -/

variable {α β : Type}

theorem run_bind (d : Reader α) (f : α → Reader β) (c : Cursor) :
    (d >>= f).run c = match d.run c with
      | (.ok a, c') => (f a).run c'
      | (.error e, c') => (.error e, c') := by
  simp only [bind, ExceptT.bind, ExceptT.mk, StateT.bind, ExceptT.bindCont, ExceptT.run]
  obtain ⟨r, c'⟩ := d c
  cases r <;> rfl

/-- Looking whether bytes are there does not move the reader. -/
theorem run_ensure (n : Nat) (c : Cursor) :
    (ensure n).run c = if c.rest.hasAtLeast n then (.ok (), c)
      else (.error (.outOfBounds c.position n c.remaining), c) := by
  have hget : (get : Reader Cursor).run c = (.ok c, c) := rfl
  rw [ensure, run_bind, hget]
  by_cases h : c.rest.hasAtLeast n = true
  · simp only [h, if_true]
    rfl
  · simp only [h]
    rfl

theorem run_advance (n : Nat) (c : Cursor) :
    (advance n).run c = (.ok (c.rest.take n), ⟨c.position + n, c.rest.drop n⟩) := rfl

/-! ## One request -/

variable {kind : Kind} {c : Cursor}

/-- An item that is there as a whole is given, and the reader moves behind it. -/
theorem ask_of_fits (h : kind.size ≤ c.rest.length) :
    ask kind c = (.ok (kind.ofBytes (c.rest.take kind.size)),
      ⟨c.position + kind.size, c.rest.drop kind.size⟩) := by
  rw [ask, item, run_bind, run_ensure, if_pos ((Bytes.hasAtLeast_iff _ _).2 h)]
  simp only
  rw [run_bind, run_advance]
  rfl

/-- An item that is not there as a whole is refused, and the reader stays. -/
theorem ask_of_not_fits (h : c.rest.length < kind.size) :
    ask kind c = (.error (.outOfBounds c.position kind.size c.rest.length), c) := by
  have hfits : ¬ c.rest.hasAtLeast kind.size = true := by
    rw [Bytes.hasAtLeast_iff]
    omega
  rw [ask, item, run_bind, run_ensure, if_neg hfits]
  rfl

/-- A reader answers what a decoder gives, and stays where it is when the decoder fails. -/
theorem ask_eq (kind : Kind) (c : Cursor) :
    ask kind c = match kind.read c with
      | .ok (item, c') => (.ok item, c')
      | .error e => (.error e, c) := by
  rw [kind.read_eq, map_eq_pure_bind, bind_apply, Decoder.bytes]
  by_cases h : kind.size ≤ c.rest.length
  · rw [ask_of_fits h, if_pos ((Bytes.hasAtLeast_iff _ _).2 h)]
    rfl
  · rw [ask_of_not_fits (Nat.lt_of_not_le h), if_neg (mt (Bytes.hasAtLeast_iff _ _).1 h)]
    rfl

/-- An item is read from its bytes. -/
theorem ask_item (item : Item) (position : Nat) (rest : Bytes) :
    ask item.kind ⟨position, item.encode ++ rest⟩ =
      (.ok item, ⟨position + item.kind.size, rest⟩) := by
  have hsize : item.encode.length = item.kind.size := item.length_encode
  rw [ask_of_fits (by simp), ← hsize, List.take_left, List.drop_left, item.ofBytes_encode]

/-! ## Several requests -/

theorem askAll_append (kinds later : List Kind) (c : Cursor) :
    askAll (kinds ++ later) c = ((askAll kinds c).1 ++ (askAll later (askAll kinds c).2).1,
      (askAll later (askAll kinds c).2).2) := by
  induction kinds generalizing c with
  | nil => rfl
  | cons kind kinds ih => simp only [List.cons_append, askAll, ih]

/-- Items are read from their bytes, whatever follows. -/
theorem askAll_items (items : List Item) (position : Nat) (rest : Bytes) :
    askAll (items.map Item.kind) ⟨position, items.flatMap Item.encode ++ rest⟩ =
      (items.map .ok, ⟨position + totalSize items, rest⟩) := by
  induction items generalizing position with
  | nil => rfl
  | cons item items ih =>
    rw [List.flatMap_cons, List.append_assoc]
    simp only [List.map_cons, askAll, ask_item, ih]
    rw [totalSize_cons, Nat.add_assoc]

end Reader

/-! ## The cut -/

/-- A missing end begins in one of the items. -/
theorem exists_cut {items : List Item} {n : Nat} (h : n < totalSize items) :
    ∃ before item after, items = before ++ item :: after ∧ totalSize before ≤ n ∧
      n < totalSize before + item.kind.size := by
  induction items generalizing n with
  | nil => simp at h
  | cons item items ih =>
    rw [totalSize_cons] at h
    by_cases hn : n < item.kind.size
    · exact ⟨[], item, items, rfl, Nat.zero_le _, by simpa using hn⟩
    · obtain ⟨before, next, after, rfl, hle, hlt⟩ : ∃ before next after,
          items = before ++ next :: after ∧ totalSize before ≤ n - item.kind.size ∧
            n - item.kind.size < totalSize before + next.kind.size := ih (by omega)
      refine ⟨item :: before, next, after, rfl, ?_, ?_⟩
      · rw [totalSize_cons]
        omega
      · rw [totalSize_cons]
        omega

/-- The place after items that `bs` starts with. -/
def placeAfter (bs : Bytes) (items : List Item) : Cursor :=
  ⟨totalSize items, bs.drop (totalSize items)⟩

end Item

theorem Writer.toBytes_foldl_put (w : Writer) (items : List Item) :
    (items.foldl put w).toBytes = w.toBytes ++ items.flatMap Item.encode := by
  induction items generalizing w with
  | nil => simp
  | cons item items ih =>
    rw [List.foldl_cons, ih, List.flatMap_cons, ← List.append_assoc]
    simp [put, toBytes]

/-- A writer has the bytes of its items, one item after the other. -/
theorem Writer.toBytes_ofItems (items : List Item) :
    (ofItems items).toBytes = items.flatMap Item.encode := by
  rw [ofItems, toBytes_foldl_put]
  rfl

theorem Writer.size_ofItems (items : List Item) : (ofItems items).size = Item.totalSize items := by
  rw [← Item.length_flatMap_encode, ← toBytes_ofItems, toBytes, Array.length_toList, size]

namespace Item.Reader

/-- How a reader of `bs` answers when `bs` is the bytes of the items `before` and an incomplete
`item`. -/
structure RefusesAfter (bs : Bytes) (before : List Item) (item : Item) : Prop where
  /-- All of the bytes of the items before it are there. -/
  before_fits : totalSize before ≤ bs.length
  /-- Not all of its own bytes are there. -/
  not_fits : bs.length < totalSize before + item.kind.size
  /-- The items before it are given. It is refused, and what is asked for later is answered as if it
  had never been asked for. -/
  answers (later : List Kind) :
    askAll (before.map Item.kind ++ item.kind :: later) (.atStart bs) =
      (before.map .ok ++
        .error (.outOfBounds (totalSize before) item.kind.size (bs.length - totalSize before)) ::
          (askAll later (placeAfter bs before)).1,
        (askAll later (placeAfter bs before)).2)
  /-- What is not larger than the bytes that are left is given, from where the refused item begins.
  -/
  smaller (kind : Kind) (hkind : kind.size ≤ bs.length - totalSize before) :
    ask kind (placeAfter bs before) =
      (.ok (kind.ofBytes ((bs.drop (totalSize before)).take kind.size)),
        ⟨totalSize before + kind.size, bs.drop (totalSize before + kind.size)⟩)

/-- How a reader answers about items in a buffer. -/
structure ReadBack (items : List Item) : Prop where
  /-- It gives what decoders give. -/
  decodes (kind : Kind) (c : Cursor) : ask kind c = match kind.read c with
    | .ok (item, c') => (.ok item, c')
    | .error e => (.error e, c)
  /-- It gives the items back, and then no bytes are left. -/
  whole : askAll (items.map Item.kind) (.atStart (Writer.ofItems items).toBytes) =
    (items.map .ok, ⟨(Writer.ofItems items).size, []⟩)
  /-- When the end of the buffer is missing, it refuses the item in which the missing end begins. -/
  cut (n : Nat) (hn : n < (Writer.ofItems items).size) :
    ∃ before item after, items = before ++ item :: after ∧
      RefusesAfter ((Writer.ofItems items).toBytes.take n) before item

theorem refusesAfter {bs rest : Bytes} {before : List Item} {item : Item}
    (hbs : bs = before.flatMap Item.encode ++ rest) (hrest : rest.length < item.kind.size) :
    RefusesAfter bs before item := by
  have hbefore : (before.flatMap Item.encode).length = totalSize before :=
    length_flatMap_encode before
  have hlen : bs.length = totalSize before + rest.length := by
    rw [hbs, List.length_append, hbefore]
  have hplace : placeAfter bs before = ⟨totalSize before, rest⟩ := by
    rw [placeAfter, hbs, ← hbefore, List.drop_left]
  have hgiven : askAll (before.map Item.kind) (.atStart bs) =
      (before.map .ok, placeAfter bs before) := by
    rw [hplace, Cursor.atStart, hbs, askAll_items, Nat.zero_add]
  refine ⟨by omega, by omega, fun later => ?_, fun kind hkind => ?_⟩
  · have hrefused : ask item.kind (placeAfter bs before) =
        (.error (.outOfBounds (totalSize before) item.kind.size (bs.length - totalSize before)),
          placeAfter bs before) := by
      rw [hplace, ask_of_not_fits hrest, hlen, Nat.add_sub_cancel_left]
    rw [askAll_append, hgiven]
    simp only [askAll, hrefused]
  · have hfits : kind.size ≤ (placeAfter bs before).rest.length := by
      rw [hplace]
      change kind.size ≤ rest.length
      omega
    rw [ask_of_fits hfits, placeAfter, List.drop_drop]

/-- **A reader mirrors the writer.**  The items that were written are read back, and when the end of
the bytes is missing, so are those that are there as a whole; the first one that is not is refused
with its place and its size, and the reader can go on from there. -/
theorem ofItems_readBack (items : List Item) : ReadBack items where
  decodes kind c := ask_eq kind c
  whole := by
    have h := askAll_items items 0 []
    rw [List.append_nil, Nat.zero_add] at h
    rw [Writer.toBytes_ofItems, Writer.size_ofItems]
    exact h
  cut n hn := by
    rw [Writer.size_ofItems] at hn
    obtain ⟨before, item, after, rfl, hle, hlt⟩ := exists_cut hn
    refine ⟨before, item, after, rfl, ?_⟩
    -- All bytes of the items before are there, and of the item too few.
    rw [Writer.toBytes_ofItems, List.flatMap_append, List.take_append,
      length_flatMap_encode, List.take_of_length_le (by rwa [length_flatMap_encode])]
    refine refusesAfter rfl ?_
    rw [List.length_take]
    omega

/-- A buffer that ends in the middle of its fourth item: three are given, the fourth is refused, and
a smaller one is read from where it begins. -/
example :
    askAll [.u1, .u2, .u4, .float, .u2, .u1] (.atStart [1, 2, 3, 4, 5, 6, 7, 0xC0, 0x00]) =
      ([.ok (.u1 1), .ok (.u2 0x0203), .ok (.u4 0x04050607), .error (.outOfBounds 7 4 2),
        .ok (.u2 0xC000), .error (.outOfBounds 9 1 0)], ⟨9, []⟩) := by
  decide

end Item.Reader
end ClassLiterals
