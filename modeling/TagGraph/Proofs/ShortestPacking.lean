import TagGraph.Proofs.PackedReading

/-!
What is packed cannot be said in fewer bytes. A length that is read from so many bytes is one for
which no longer header is written, and the items of a list or record take what they take by
themselves, so no bytes that are unpacked to a document are fewer than those it is packed to.
-/

namespace TagGraph.Packed

open Document

theorem foldl_lt (start : Nat) (bytes : List UInt8) :
    bytes.foldl (fun value byte => 256 * value + byte.toNat) start <
      (start + 1) * 256 ^ bytes.length := by
  induction bytes generalizing start with
  | nil => simp
  | cons byte bytes ih =>
    have hbyte : 256 * start + byte.toNat + 1 ≤ 256 * (start + 1) := by
      have := byte.toNat_lt
      omega
    calc _ < (256 * start + byte.toNat + 1) * 256 ^ bytes.length := ih _
      _ ≤ 256 * (start + 1) * 256 ^ bytes.length := Nat.mul_le_mul_right _ hbyte
      _ = (start + 1) * 256 ^ (bytes.length + 1) := by ring

theorem lt_of_length? {count value : Nat} {bytes rest : List UInt8}
    (h : length? count bytes = some (value, rest)) :
    value < 256 ^ count ∧ bytes.length = count + rest.length := by
  unfold length? at h
  split at h
  · next hcount =>
    obtain ⟨rfl, rfl⟩ := Prod.mk.inj (Option.some.inj h)
    constructor
    · have hlt := foldl_lt 0 (bytes.take count)
      rwa [Nat.zero_add, Nat.one_mul, List.length_take, Nat.min_eq_left hcount] at hlt
    · rw [List.length_drop]
      omega
  · cases h

/-- The header that is written for a shape. -/
def header : Shape → List UInt8
  | .null => [0xc0]
  | .flag false => [0xc2]
  | .flag true => [0xc3]
  | .text size => textHeader size
  | .list length => listHeader length
  | .record length => recordHeader length

theorem length_textHeader (size : Nat) : (textHeader size).length =
    if size < 32 then 1 else if size < 256 then 2 else if size < 65536 then 3 else 5 := by
  unfold textHeader
  split_ifs <;> simp

theorem length_listHeader (length : Nat) : (listHeader length).length =
    if length < 16 then 1 else if length < 65536 then 3 else 5 := by
  unfold listHeader
  split_ifs <;> simp

theorem length_recordHeader (length : Nat) : (recordHeader length).length =
    if length < 16 then 1 else if length < 65536 then 3 else 5 := by
  unfold recordHeader
  split_ifs <;> simp

theorem length_textHeader_le {count size : Nat} (hcount : count = 1 ∨ count = 2 ∨ count = 4)
    (h : size < 256 ^ count) : (textHeader size).length ≤ count + 1 := by
  rw [length_textHeader]
  rcases hcount with rfl | rfl | rfl <;> split_ifs <;> omega

theorem length_listHeader_le {count length : Nat} (hcount : count = 2 ∨ count = 4)
    (h : length < 256 ^ count) : (listHeader length).length ≤ count + 1 := by
  rw [length_listHeader]
  rcases hcount with rfl | rfl <;> split_ifs <;> omega

theorem length_recordHeader_le {count length : Nat} (hcount : count = 2 ∨ count = 4)
    (h : length < 256 ^ count) : (recordHeader length).length ≤ count + 1 := by
  rw [length_recordHeader]
  rcases hcount with rfl | rfl <;> split_ifs <;> omega

/-- Whatever shape is found, its header takes no more than was read: one byte, and those of `bytes`
that are not left. -/
def Covered (bytes : List UInt8) (outcome : Option (Shape × List UInt8)) : Prop :=
  ∀ shape rest, outcome = some (shape, rest) →
    (header shape).length + rest.length ≤ bytes.length + 1

section covered

variable {bytes : List UInt8}

theorem Covered.ite {condition : Prop} [Decidable condition]
    {outcome other : Option (Shape × List UInt8)} (h : condition → Covered bytes outcome)
    (hother : Covered bytes other) : Covered bytes (if condition then outcome else other) := by
  split
  · next hcondition => exact h hcondition
  · exact hother

theorem covered_none : Covered bytes none := nofun

theorem covered_one {shape : Shape} (h : (header shape).length = 1) :
    Covered bytes (some (shape, bytes)) := by
  rintro _ _ ⟨⟩
  omega

theorem covered_length? (make : Nat → Shape) {count : Nat}
    (hmake : ∀ size < 256 ^ count, (header (make size)).length ≤ count + 1) :
    Covered bytes ((length? count bytes).map fun (size, after) => (make size, after)) := by
  intro shape rest h
  obtain ⟨⟨size, after⟩, hlength, heq⟩ := Option.map_eq_some_iff.mp h
  obtain ⟨rfl, rfl⟩ := Prod.mk.inj heq
  obtain ⟨hsize, hbytes⟩ := lt_of_length? hlength
  have hheader := hmake size hsize
  omega

theorem covered_shape? (byte : UInt8) (bytes : List UInt8) :
    Covered bytes (shape? (byte :: bytes)) := by
  rw [shape?]
  refine .ite (fun _ => covered_one rfl) ?_
  refine .ite (fun _ => covered_one rfl) ?_
  refine .ite (fun _ => covered_one rfl) ?_
  refine .ite (fun _ => covered_length? .text fun _ => length_textHeader_le (by decide)) ?_
  refine .ite (fun _ => covered_length? .text fun _ => length_textHeader_le (by decide)) ?_
  refine .ite (fun _ => covered_length? .text fun _ => length_textHeader_le (by decide)) ?_
  refine .ite (fun _ => covered_length? .list fun _ => length_listHeader_le (by decide)) ?_
  refine .ite (fun _ => covered_length? .list fun _ => length_listHeader_le (by decide)) ?_
  refine .ite (fun _ => covered_length? .record fun _ => length_recordHeader_le (by decide)) ?_
  refine .ite (fun _ => covered_length? .record fun _ => length_recordHeader_le (by decide)) ?_
  refine .ite (fun hbyte => covered_one ?_) ?_
  · have hsize : byte.toNat < 0xc0 := hbyte.2
    rw [header, length_textHeader, if_pos (by omega)]
  refine .ite (fun hbyte => covered_one ?_) ?_
  · have hsize : byte.toNat < 0xa0 := hbyte.2
    rw [header, length_listHeader, if_pos (by omega)]
  refine .ite (fun hbyte => covered_one ?_) covered_none
  have hsize : byte.toNat < 0x90 := hbyte.2
  rw [header, length_recordHeader, if_pos (by omega)]

end covered

/-- No header is shorter than the one that is written for what it announces. -/
theorem length_header_le {bytes rest : List UInt8} {shape : Shape}
    (h : shape? bytes = some (shape, rest)) :
    (header shape).length + rest.length ≤ bytes.length := by
  cases bytes with
  | nil => cases h
  | cons byte bytes => exact covered_shape? byte bytes shape rest h

theorem length_of_textOfSize? {size : Nat} {bytes rest : List UInt8} {value : String}
    (h : textOfSize? size bytes = some (value, rest)) :
    value.utf8ByteSize = size ∧ bytes.length = size + rest.length := by
  unfold textOfSize? at h
  split at h
  · next hsize =>
    obtain ⟨value', hvalue, heq⟩ := Option.map_eq_some_iff.mp h
    obtain ⟨rfl, rfl⟩ := Prod.mk.inj heq
    unfold String.fromUTF8? at hvalue
    split at hvalue
    · cases hvalue
      have hbytes : (String.fromUTF8 ⟨(bytes.take size).toArray⟩ ‹_›).utf8ByteSize =
          (bytes.take size).length := rfl
      rw [hbytes, List.length_take, List.length_drop]
      omega
    · cases hvalue
  · cases h

theorem length_of_items? {α : Type} {item? : List UInt8 → Option (α × List UInt8)} {size : α → Nat}
    (hitem : ∀ {bytes item rest}, item? bytes = some (item, rest) →
      size item + rest.length ≤ bytes.length) {count : Nat} {bytes rest : List UInt8}
    {items : List α} (h : items? item? count bytes = some (items, rest)) :
    items.length = count ∧ (items.map size).sum + rest.length ≤ bytes.length := by
  induction count generalizing bytes items with
  | zero =>
    cases h
    exact ⟨rfl, by simp⟩
  | succ count ih =>
    simp only [items?, bind, Option.bind_eq_some_iff, Prod.exists] at h
    obtain ⟨item, middle, hfirst, others, after, hothers, heq⟩ := h
    cases heq
    have hsize := hitem hfirst
    obtain ⟨hlength, hsizes⟩ := ih hothers
    refine ⟨by rw [List.length_cons, hlength], ?_⟩
    rw [List.map_cons, List.sum_cons]
    omega

theorem length_packItems (items : List (Document Empty)) :
    (packItems items).length = (items.map fun item => (pack item).length).sum := by
  induction items with
  | nil => rfl
  | cons item items ih => rw [packItems, List.length_append, ih, List.map_cons, List.sum_cons]

theorem length_packFields (fields : List (String × Document Empty)) : (packFields fields).length =
    (fields.map fun field => (packText field.1).length + (pack field.2).length).sum := by
  induction fields with
  | nil => rfl
  | cons field fields ih =>
    rw [packFields, List.length_append, List.length_append, ih, List.map_cons, List.sum_cons]

theorem length_packText (value : String) : (packText value).length =
    (textHeader value.utf8ByteSize).length + value.utf8ByteSize :=
  List.length_append

theorem length_packText_le {bytes rest : List UInt8} {value : String}
    (h : text? bytes = some (value, rest)) :
    (packText value).length + rest.length ≤ bytes.length := by
  unfold text? at h
  split at h
  · next size after hshape =>
    have hheader : (textHeader size).length + after.length ≤ bytes.length :=
      length_header_le hshape
    obtain ⟨rfl, hlength⟩ := length_of_textOfSize? h
    rw [length_packText]
    omega
  · cases h

/-- Nothing that is unpacked to a document is shorter than what that document is packed to. -/
theorem length_pack_le {depth : Nat} {bytes rest : List UInt8} {document : Document Empty}
    (h : unpackWithin? depth bytes = some (document, rest)) :
    (pack document).length + rest.length ≤ bytes.length := by
  induction depth generalizing bytes rest document with
  | zero => cases h
  | succ depth ih =>
    have hfield : ∀ {bytes field rest}, field? (unpackWithin? depth) bytes = some (field, rest) →
        (packText field.1).length + (pack field.2).length + rest.length ≤ bytes.length := by
      intro bytes field rest hread
      simp only [field?, bind, Option.bind_eq_some_iff, Prod.exists] at hread
      obtain ⟨name, middle, hname, value, after, hvalue, heq⟩ := hread
      cases heq
      have hsize := length_packText_le hname
      have hsizes := ih hvalue
      dsimp only
      omega
    rw [unpackWithin?] at h
    split at h
    · cases h
    · next hshape =>
      cases h
      exact length_header_le hshape
    · next value _ hshape =>
      cases h
      have hheader := length_header_le hshape
      cases value <;> exact hheader
    · next size after hshape =>
      obtain ⟨⟨value, last⟩, hvalue, heq⟩ := Option.map_eq_some_iff.mp h
      cases heq
      have hheader : (textHeader size).length + after.length ≤ bytes.length :=
        length_header_le hshape
      obtain ⟨rfl, hlength⟩ := length_of_textOfSize? hvalue
      rw [pack, length_packText]
      omega
    · next length after hshape =>
      obtain ⟨⟨items, last⟩, hitems, heq⟩ := Option.map_eq_some_iff.mp h
      cases heq
      have hheader : (listHeader length).length + after.length ≤ bytes.length :=
        length_header_le hshape
      obtain ⟨rfl, hsizes⟩ := length_of_items? ih hitems
      rw [pack, List.length_append, length_packItems]
      omega
    · next length after hshape =>
      obtain ⟨⟨fields, last⟩, hfields, heq⟩ := Option.map_eq_some_iff.mp h
      cases heq
      have hheader : (recordHeader length).length + after.length ≤ bytes.length :=
        length_header_le hshape
      obtain ⟨rfl, hsizes⟩ := length_of_items? hfield hfields
      rw [pack, List.length_append, length_packFields]
      omega

theorem length_pack_le_of_unpack? {bytes : List UInt8} {document : Document Empty}
    (h : unpack? bytes = some document) : (pack document).length ≤ bytes.length := by
  unfold unpack? at h
  split at h
  · next hread =>
    cases h
    exact length_pack_le hread
  · cases h

end TagGraph.Packed
