import Mathlib.Tactic.IntervalCases
import Mathlib.Tactic.Ring
import TagGraph.Packed
import TagGraph.Proofs.ByteOrder
import TagGraph.Proofs.DocumentSizes

/-!
What is packed can be unpacked. A header says the size of what it announces, at whichever of its
widths it is written, and the bytes of a text are those of no other text. So a document of which no
size is too large for a header is read as it was, and what follows it is left.
-/

namespace TagGraph.Packed

open Document

/-- The sizes that a header can say, of texts as of lists and records. It has four bytes for them at
most, which lose the first digits of a larger one. -/
def Announced (size : Nat) : Prop := size < 2 ^ 32

instance : DecidablePred Announced := fun size => inferInstanceAs (Decidable (size < 2 ^ 32))

section lengths

theorem bigEndian_succ (count value : Nat) : bigEndian (count + 1) value =
    UInt8.ofNat (value / 256 ^ count) :: bigEndian count value := rfl

@[simp]
theorem length_bigEndian (count value : Nat) : (bigEndian count value).length = count := by
  induction count with
  | zero => rfl
  | succ count ih => rw [bigEndian_succ, List.length_cons, ih]

theorem foldl_bigEndian (start count value : Nat) :
    (bigEndian count value).foldl (fun value byte => 256 * value + byte.toNat) start =
      start * 256 ^ count + value % 256 ^ count := by
  induction count generalizing start with
  | zero => rw [Nat.pow_zero, Nat.mod_one, Nat.mul_one]; rfl
  | succ count ih =>
    have hbyte : (UInt8.ofNat (value / 256 ^ count)).toNat = value / 256 ^ count % 256 :=
      UInt8.toNat_ofNat'
    rw [bigEndian_succ, List.foldl_cons, ih, hbyte, Nat.mod_pow_succ, Nat.pow_succ]
    ring

theorem ofBigEndian_bigEndian {count value : Nat} (h : value < 256 ^ count) :
    ofBigEndian (bigEndian count value) = value := by
  rw [ofBigEndian, foldl_bigEndian, Nat.zero_mul, Nat.zero_add, Nat.mod_eq_of_lt h]

theorem length?_bigEndian {count value : Nat} (h : value < 256 ^ count) (rest : List UInt8) :
    length? count (bigEndian count value ++ rest) = some (value, rest) := by
  have hcount : count ≤ (bigEndian count value ++ rest).length := by simp
  rw [length?, if_pos hcount, List.take_left' (length_bigEndian _ _),
    List.drop_left' (length_bigEndian _ _), ofBigEndian_bigEndian h]

end lengths

section headers

variable {size : Nat} (rest : List UInt8)

theorem shape?_textHeader (h : Announced size) :
    shape? (textHeader size ++ rest) = some (.text size, rest) := by
  unfold Announced at h
  unfold textHeader
  split
  · interval_cases size <;> rfl
  split
  · have hsize : size < 256 ^ 1 := by omega
    simp [shape?, length?_bigEndian hsize]
  split
  · have hsize : size < 256 ^ 2 := by omega
    simp [shape?, length?_bigEndian hsize]
  · have hsize : size < 256 ^ 4 := by omega
    simp [shape?, length?_bigEndian hsize]

theorem shape?_listHeader (h : Announced size) :
    shape? (listHeader size ++ rest) = some (.list size, rest) := by
  unfold Announced at h
  unfold listHeader
  split
  · interval_cases size <;> rfl
  split
  · have hsize : size < 256 ^ 2 := by omega
    simp [shape?, length?_bigEndian hsize]
  · have hsize : size < 256 ^ 4 := by omega
    simp [shape?, length?_bigEndian hsize]

theorem shape?_recordHeader (h : Announced size) :
    shape? (recordHeader size ++ rest) = some (.record size, rest) := by
  unfold Announced at h
  unfold recordHeader
  split
  · interval_cases size <;> rfl
  split
  · have hsize : size < 256 ^ 2 := by omega
    simp [shape?, length?_bigEndian hsize]
  · have hsize : size < 256 ^ 4 := by omega
    simp [shape?, length?_bigEndian hsize]

end headers

section texts

/-- The bytes of a text are read as that text. -/
theorem textOfSize?_toUTF8 (value : String) (rest : List UInt8) :
    textOfSize? value.utf8ByteSize (value.toUTF8.data.toList ++ rest) = some (value, rest) := by
  have hlength : value.toUTF8.data.toList.length = value.utf8ByteSize := rfl
  have hbytes : String.fromUTF8? ⟨value.toUTF8.data.toList.toArray⟩ = some value := by
    rw [Array.toArray_toList]
    exact dif_pos value.isValidUTF8
  have hsize : value.utf8ByteSize ≤ (value.toUTF8.data.toList ++ rest).length := by
    rw [List.length_append, hlength]
    exact Nat.le_add_right _ _
  rw [textOfSize?, if_pos hsize, List.take_left' hlength, List.drop_left' hlength, hbytes]
  rfl

theorem text?_packText {value : String} (h : TextFits Announced value) (rest : List UInt8) :
    text? (packText value ++ rest) = some (value, rest) := by
  rw [text?, packText, List.append_assoc, shape?_textHeader _ h]
  exact textOfSize?_toUTF8 value rest

end texts

section documents

variable {item? : List UInt8 → Option (Document Empty × List UInt8)}

theorem items?_packItems {items : List (Document Empty)}
    (h : ∀ item ∈ items, ∀ rest, item? (pack item ++ rest) = some (item, rest))
    (rest : List UInt8) :
    items? item? items.length (packItems items ++ rest) = some (items, rest) := by
  induction items with
  | nil => rfl
  | cons item items ih =>
    obtain ⟨hitem, hitems⟩ := List.forall_mem_cons.mp h
    rw [packItems, List.append_assoc, List.length_cons, items?, hitem]
    simp [ih hitems]

theorem items?_packFields {fields : List (String × Document Empty)}
    (h : ∀ field ∈ fields, TextFits Announced field.1 ∧
      ∀ rest, item? (pack field.2 ++ rest) = some (field.2, rest)) (rest : List UInt8) :
    items? (field? item?) fields.length (packFields fields ++ rest) = some (fields, rest) := by
  induction fields with
  | nil => rfl
  | cons field fields ih =>
    obtain ⟨⟨hname, hvalue⟩, hfields⟩ := List.forall_mem_cons.mp h
    have hfield : field? item? (packText field.1 ++ pack field.2 ++
        (packFields fields ++ rest)) = some (field, packFields fields ++ rest) := by
      rw [field?, List.append_assoc, text?_packText hname]
      simp [hvalue]
    rw [packFields, List.append_assoc, List.length_cons, items?, hfield]
    simp [ih hfields]

/-- A document whose sizes can be announced is unpacked to what it was, up to where it ends. -/
theorem unpackWithin?_pack {depth : Nat} {document : Document Empty}
    (h : document.Within Announced depth) (rest : List UInt8) :
    unpackWithin? depth (pack document ++ rest) = some (document, rest) := by
  induction depth generalizing document rest with
  | zero => exact h.elim
  | succ depth ih =>
    cases document with
    | null => rfl
    | flag value => cases value <;> rfl
    | number value => exact h.elim
    | text value =>
      rw [unpackWithin?, pack, packText, List.append_assoc, shape?_textHeader _ h]
      simp only [textOfSize?_toUTF8, Option.map_some]
    | list items =>
      obtain ⟨hlength, hitems⟩ := h
      rw [unpackWithin?, pack, List.append_assoc, shape?_listHeader _ hlength]
      simp [items?_packItems fun item hmem => ih (hitems item hmem)]
    | record fields =>
      obtain ⟨hlength, hfields⟩ := h
      rw [unpackWithin?, pack, List.append_assoc, shape?_recordHeader _ hlength]
      simp [items?_packFields fun field hmem => (hfields field hmem).imp_right fun h => ih h]

theorem unpack?_pack {document : Document Empty} (h : document.Within Announced nestingLimit) :
    unpack? (pack document) = some document := by
  have hread := unpackWithin?_pack h []
  rw [List.append_nil] at hread
  rw [unpack?, hread]

end documents

section overflow

variable {count depth : Nat} {rest : List UInt8}

/-- A text of as many letters. -/
def letters (count : Nat) : String := String.ofList (List.replicate count 'a')

theorem packText_letters (count : Nat) :
    packText (letters count) = textHeader count ++ List.replicate count 0x61 := by
  have hbytes : bytes (letters count) = List.replicate count 0x61 := by
    rw [bytes_eq, letters, String.toList_ofList, List.flatMap_replicate]
    exact List.flatten_replicate_singleton
  have hsize : (letters count).utf8ByteSize = count := by
    have hlength := congrArg List.length hbytes
    rwa [List.length_replicate] at hlength
  rw [packText, hsize]
  exact congrArg (textHeader count ++ ·) hbytes

/-- In a header of zeros the digits of the size have overflown. The text is taken to be empty, and
its letters for what comes after it. -/
theorem unpackWithin?_letters (depth : Nat) (rest : List UInt8) (hcount : 0 < count)
    (hheader : textHeader count = [0xdb, 0, 0, 0, 0]) : ∃ more,
      unpackWithin? (depth + 1) (packText (letters count) ++ rest) =
        some (.text "", 0x61 :: more) := by
  obtain ⟨count, rfl⟩ := Nat.exists_eq_add_one.mpr hcount
  have hshape : ∀ bytes, shape? ([0xdb, 0, 0, 0, 0] ++ bytes) = some (.text 0, bytes) := fun _ => by
    simp [shape?, length?, ofBigEndian]
  have htext : ∀ bytes, textOfSize? 0 bytes = some ("", bytes) := textOfSize?_toUTF8 ""
  refine ⟨List.replicate count 0x61 ++ rest, ?_⟩
  rw [packText_letters, hheader, List.replicate_succ, List.append_assoc, unpackWithin?, hshape]
  simp only [htext, Option.map_some, List.cons_append]

theorem items?_eq_none {α : Type} {item? : List UInt8 → Option (α × List UInt8)} (count : Nat)
    (h : item? rest = none) : items? item? (count + 1) rest = none := by
  rw [items?, h]
  rfl

theorem unpackWithin?_list_eq_none (hcount : Announced count)
    (h : items? (unpackWithin? depth) count rest = none) :
    unpackWithin? (depth + 1) (listHeader count ++ rest) = none := by
  rw [unpackWithin?, shape?_listHeader rest hcount]
  simp only [h, Option.map_none]

theorem unpackWithin?_record_eq_none (hcount : Announced count)
    (h : items? (field? (unpackWithin? depth)) count rest = none) :
    unpackWithin? (depth + 1) (recordHeader count ++ rest) = none := by
  rw [unpackWithin?, shape?_recordHeader rest hcount]
  simp only [h, Option.map_none]

theorem field?_packText {value? : List UInt8 → Option (Document Empty × List UInt8)} {name : String}
    (hname : TextFits Announced name) (rest : List UInt8) : field? value? (packText name ++ rest) =
      (value? rest).map fun (value, after) => ((name, value), after) := by
  rw [field?, text?_packText hname, Option.map_eq_bind]
  rfl

end overflow

end TagGraph.Packed
