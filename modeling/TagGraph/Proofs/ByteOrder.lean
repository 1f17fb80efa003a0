import TagGraph.LabelSet

/-!
Texts in the order of their bytes. In UTF-8 a greater character begins with a greater byte, or first
differs in a greater one, and no character is the beginning of another; so comparing the bytes of
two texts comes to the same as comparing their code points.
-/

namespace TagGraph

/-- The bytes of a text in UTF-8. -/
def bytes (text : String) : List UInt8 := text.toUTF8.data.toList

theorem bytes_eq (text : String) : bytes text = text.toList.flatMap String.utf8EncodeChar := by
  have hencoded : text.toByteArray = text.toList.utf8Encode := by
    rw [← String.toByteArray_ofList, String.ofList_toList]
  rw [bytes, String.toUTF8_eq_toByteArray, hencoded, List.utf8Encode, List.data_toByteArray]

theorem ofNat_cons_lt {a b : Nat} {front back : List UInt8} (hle : a ≤ b) (hbound : b < 256)
    (h : a = b → front < back) : UInt8.ofNat a :: front < UInt8.ofNat b :: back := by
  refine List.cons_lt_cons_iff.mpr ?_
  rcases Nat.lt_or_eq_of_le hle with hlt | heq
  · refine Or.inl (UInt8.lt_iff_toNat_lt.mpr ?_)
    rw [UInt8.toNat_ofNat', UInt8.toNat_ofNat', Nat.mod_eq_of_lt hbound,
      Nat.mod_eq_of_lt (Nat.lt_trans hlt hbound)]
    exact hlt
  · exact Or.inr ⟨congrArg UInt8.ofNat heq, h heq⟩

/-- The bytes of a character tell it from a greater one before either comes to its end. -/
theorem utf8EncodeChar_append_lt {c d : Char} (h : c < d) (front back : List UInt8) :
    String.utf8EncodeChar c ++ front < String.utf8EncodeChar d ++ back := by
  have hlt : c.val.toNat < d.val.toNat := h
  have hbound : d.val.toNat < 0x110000 := by
    rcases d.valid with hlow | ⟨-, hhigh⟩
    · omega
    · exact hhigh
  unfold String.utf8EncodeChar
  generalize c.val.toNat = v at hlt
  generalize d.val.toNat = w at hlt hbound
  dsimp only
  -- A code of more bytes begins with a greater byte; codes of the same length are told apart by
  -- the first digit in which the code points differ.
  split
  · (repeat' split) <;> exact ofNat_cons_lt (by omega) (by omega) (by omega)
  split
  · rw [if_neg (by omega)]
    split
    · exact ofNat_cons_lt (by omega) (by omega) fun hfirst =>
        ofNat_cons_lt (by omega) (by omega) (by omega)
    · split <;> exact ofNat_cons_lt (by omega) (by omega) (by omega)
  split
  · rw [if_neg (by omega), if_neg (by omega)]
    split
    · exact ofNat_cons_lt (by omega) (by omega) fun hfirst =>
        ofNat_cons_lt (by omega) (by omega) fun hsecond =>
          ofNat_cons_lt (by omega) (by omega) (by omega)
    · exact ofNat_cons_lt (by omega) (by omega) (by omega)
  · rw [if_neg (by omega), if_neg (by omega), if_neg (by omega)]
    exact ofNat_cons_lt (by omega) (by omega) fun hfirst =>
      ofNat_cons_lt (by omega) (by omega) fun hsecond =>
        ofNat_cons_lt (by omega) (by omega) fun hthird =>
          ofNat_cons_lt (by omega) (by omega) (by omega)

theorem flatMap_utf8EncodeChar_lt {left right : List Char} (h : left < right) :
    left.flatMap String.utf8EncodeChar < right.flatMap String.utf8EncodeChar := by
  induction left generalizing right with
  | nil =>
    cases right with
    | nil => exact absurd h (List.lt_irrefl [])
    | cons d right =>
      rw [List.flatMap_nil, List.flatMap_cons]
      cases hcode : String.utf8EncodeChar d with
      | nil => exact absurd hcode String.utf8EncodeChar_ne_nil
      | cons byte rest => exact List.nil_lt_cons _ _
  | cons c left ih =>
    cases right with
    | nil => exact absurd h (List.not_lt_nil _)
    | cons d right =>
      rw [List.flatMap_cons, List.flatMap_cons]
      rcases List.cons_lt_cons_iff.mp h with hlt | ⟨rfl, hrest⟩
      · exact utf8EncodeChar_append_lt hlt _ _
      · exact List.append_left_lt (ih hrest)

/-- Texts have the order of their bytes. -/
theorem bytes_lt_iff {left right : String} : bytes left < bytes right ↔ left < right := by
  have hmono : ∀ {left right : String}, left < right → bytes left < bytes right := by
    intro left right h
    rw [bytes_eq, bytes_eq]
    exact flatMap_utf8EncodeChar_lt h
  refine ⟨fun h => ?_, hmono⟩
  by_cases hlt : left < right
  · exact hlt
  · by_cases heq : left = right
    · rw [heq] at h
      exact absurd h (List.lt_irrefl _)
    · have hgt : right < left := LabelSet.lt_of_not_lt_of_ne hlt heq
      exact absurd (hmono hgt) (List.lt_asymm h)

end TagGraph
