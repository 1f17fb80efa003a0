import TagGraph.Position
import TagGraph.SourceLine
import Mathlib.Data.List.Induction

/-!
Places said of the characters before them, and not of the steps that led there: the bytes that they
take, the newlines among them, and what comes after the last newline. An offset that is counted so
lies at the edge of a character, so the bytes between two of them are whole characters.
-/

namespace TagGraph

/-- The number of bytes that characters take in a text. -/
def byteSize (chars : List Char) : Nat := (String.ofList chars).utf8ByteSize

theorem byteSize_toList (text : String) : byteSize text.toList = text.utf8ByteSize := by
  rw [byteSize, String.ofList_toList]

theorem byteSize_append (front back : List Char) :
    byteSize (front ++ back) = byteSize front + byteSize back := by
  rw [byteSize, String.ofList_append, String.utf8ByteSize_append, byteSize, byteSize]

theorem byteSize_singleton (c : Char) : byteSize [c] = c.utf8Size := by
  rw [byteSize, ← String.singleton_eq_ofList, String.utf8ByteSize_singleton]

theorem byteSize_cons (c : Char) (rest : List Char) :
    byteSize (c :: rest) = c.utf8Size + byteSize rest := by
  rw [← List.singleton_append, byteSize_append, byteSize_singleton]

theorem byteSize_pos {chars : List Char} (h : chars ≠ []) : 0 < byteSize chars := by
  cases chars with
  | nil => exact absurd rfl h
  | cons c rest =>
    have hsize := c.utf8Size_pos
    rw [byteSize_cons]
    omega

namespace Position

/-- The place that these characters at the front of a text lead to. -/
def after (before : List Char) : Position :=
  ⟨byteSize before, 1 + before.count '\n', 1 + (before.reverse.takeWhile (· != '\n')).length⟩

theorem after_concat (before : List Char) (c : Char) :
    after (before ++ [c]) = (after before).advance c := by
  unfold advance
  split
  · next hnewline => simp [after, byteSize_append, byteSize_singleton, hnewline, Nat.add_assoc]
  · next hother =>
    simp [after, byteSize_append, byteSize_singleton, hother, Nat.add_comm]

theorem advanceBy_start (before : List Char) : start.advanceBy before = after before := by
  induction before using List.reverseRecOn with
  | nil => rfl
  | append_singleton before c ih => rw [advanceBy_append, ih, after_concat]; rfl

theorem advanceBy_after (before text : List Char) :
    (after before).advanceBy text = after (before ++ text) := by
  rw [← advanceBy_start, ← advanceBy_append, advanceBy_start]

end Position

/-- The bytes of a text from one offset to another are these characters, and both offsets are edges
of characters, so that the text can be cut there. -/
structure Sliced (source : String) (start stop : Nat) (chars : List Char) : Prop where
  start_le_stop : start ≤ stop
  start_isValid : String.Pos.Raw.IsValid source ⟨start⟩
  stop_isValid : String.Pos.Raw.IsValid source ⟨stop⟩
  bytes_eq : source.toByteArray.extract start stop = (String.ofList chars).toByteArray

namespace Sliced

variable {source : String} {before chars rest : List Char}

theorem isValid (h : source.toList = before ++ rest) :
    String.Pos.Raw.IsValid source ⟨byteSize before⟩ := by
  refine String.Pos.Raw.isValid_iff_exists_append.mpr
    ⟨String.ofList before, String.ofList rest, ?_, rfl⟩
  rw [← String.ofList_append, ← h, String.ofList_toList]

theorem of_toList_eq (h : source.toList = before ++ (chars ++ rest)) :
    Sliced source (byteSize before) (byteSize before + byteSize chars) chars where
  start_le_stop := Nat.le_add_right _ _
  start_isValid := isValid h
  stop_isValid := by
    rw [← byteSize_append]
    apply isValid
    rw [h, List.append_assoc]
  bytes_eq := by
    have hsource : source = String.ofList before ++ String.ofList chars ++ String.ofList rest := by
      rw [← String.ofList_append, ← String.ofList_append, List.append_assoc, ← h,
        String.ofList_toList]
    have hbefore : byteSize before = (String.ofList before).toByteArray.size := rfl
    have hchars : byteSize chars = (String.ofList chars).toByteArray.size := rfl
    rw [hsource, String.toByteArray_append, String.toByteArray_append, ByteArray.extract_append,
      ByteArray.extract_append_eq_right hbefore (congrArg₂ (· + ·) hbefore hchars),
      ByteArray.size_append, ← hbefore, ← hchars, Nat.sub_self,
      Nat.sub_eq_zero_of_le (Nat.le_add_right _ _), ByteArray.extract_same, ByteArray.append_empty]

end Sliced

end TagGraph
