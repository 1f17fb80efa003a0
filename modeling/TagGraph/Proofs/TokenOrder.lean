import TagGraph.Proofs.Segmentation

/-!
The tokens of a text stand in the order of the lines and columns at which they begin. Every token
but the last takes a character, and each character moves the place on, so no two tokens begin at the
same line and column: a line and a column name one token at most.
-/

namespace TagGraph

namespace Position

/-- The place is further up, or further left on the same line. -/
def Precedes (position other : Position) : Prop :=
  position.line < other.line ∨ position.line = other.line ∧ position.column < other.column

theorem Precedes.trans {first second third : Position} (h : first.Precedes second)
    (h' : second.Precedes third) : first.Precedes third := by
  unfold Precedes at *
  omega

/-- A place that comes before another one has not both its line and its column. -/
theorem Precedes.ne {position other : Position} (h : position.Precedes other) :
    ¬(position.line = other.line ∧ position.column = other.column) := by
  unfold Precedes at h
  omega

theorem precedes_advance (position : Position) (c : Char) :
    position.Precedes (position.advance c) := by
  unfold Precedes advance
  split
  · exact Or.inl (Nat.lt_succ_self _)
  · exact Or.inr ⟨rfl, Nat.lt_succ_self _⟩

theorem precedes_advanceBy (position : Position) {text : List Char} (h : text ≠ []) :
    position.Precedes (position.advanceBy text) := by
  induction text generalizing position with
  | nil => exact absurd rfl h
  | cons c rest ih =>
    have hfirst := position.precedes_advance c
    by_cases hrest : rest = []
    · subst hrest
      exact hfirst
    · exact hfirst.trans (ih (position.advance c) hrest)

end Position

namespace Cursor

/-- Every token that is read begins at the cursor or after it. -/
theorem exists_advanceBy_of_mem {reserved : List String} {cursor : Cursor} {token : Token}
    (h : token ∈ (cursor.tokens reserved).1.toList) :
    ∃ text, token.position = cursor.position.advanceBy text := by
  fun_induction tokens reserved cursor with
  | case1 cursor hplain _ stream final heq ih =>
    obtain ⟨hplace, hposition⟩ := position_next reserved cursor
    rcases List.mem_cons.mp h with rfl | hmem
    · exact ⟨_, hplace⟩
    · rw [heq] at ih
      obtain ⟨text, htext⟩ := ih hmem
      rw [hposition, ← Position.advanceBy_append] at htext
      exact ⟨_, htext⟩
  | case2 cursor _ =>
    obtain rfl := List.mem_singleton.mp h
    exact ⟨_, (position_next reserved cursor).1⟩

theorem pairwise_precedes (reserved : List String) (cursor : Cursor) :
    (cursor.tokens reserved).1.toList.Pairwise
      fun token other => token.position.Precedes other.position := by
  fun_induction tokens reserved cursor with
  | case1 cursor hplain _ stream final heq ih =>
    obtain ⟨hplace, hposition⟩ := position_next reserved cursor
    rw [heq] at ih
    refine List.pairwise_cons.mpr ⟨?_, ih⟩
    intro other hmem
    obtain ⟨text, htext⟩ := exists_advanceBy_of_mem (by rw [heq]; exact hmem)
    rw [hposition, Segment.chars, Position.advanceBy_append, ← hplace,
      ← Position.advanceBy_append] at htext
    rw [htext]
    apply Position.precedes_advanceBy
    simp [(piece_segment hplain).raw_ne_nil]
  | case2 cursor _ => exact List.pairwise_singleton _ _

end Cursor

/-- A line and a column name at most one token of a text. -/
theorem TokenStream.index_unique {source : String} {before after : List Token}
    {found other : Token} {index : Nat}
    (hsplit : (ofSource source).toList = before ++ found :: after)
    (hother : (ofSource source).toList[index]? = some other)
    (hline : other.position.line = found.position.line)
    (hcolumn : other.position.column = found.position.column) : index = before.length := by
  have hordered := Cursor.pairwise_precedes Keyword.reserved ⟨source.toList, .start⟩
  rw [← ofSource_eq, hsplit, List.pairwise_append] at hordered
  obtain ⟨-, hafter, hbefore⟩ := hordered
  rw [hsplit] at hother
  rcases Nat.lt_trichotomy index before.length with hlt | heq | hgt
  · rw [List.getElem?_append_left hlt] at hother
    have hprecedes := hbefore other (List.mem_of_getElem? hother) found List.mem_cons_self
    exact absurd ⟨hline, hcolumn⟩ hprecedes.ne
  · exact heq
  · obtain ⟨step, rfl⟩ := Nat.exists_eq_add_of_lt hgt
    rw [Nat.add_assoc, List.getElem?_append_right (Nat.le_add_right _ _), Nat.add_sub_cancel_left,
      List.getElem?_cons_succ] at hother
    have hprecedes := List.rel_of_pairwise_cons hafter (List.mem_of_getElem? hother)
    exact absurd ⟨hline.symm, hcolumn.symm⟩ hprecedes.ne

/-- A text is cut in one way at the token that begins at a line and a column. -/
theorem TokenStream.split_unique {source : String} {before before' after after' : List Token}
    {found found' : Token} (hsplit : (ofSource source).toList = before ++ found :: after)
    (hsplit' : (ofSource source).toList = before' ++ found' :: after')
    (hline : found'.position.line = found.position.line)
    (hcolumn : found'.position.column = found.position.column) :
    before' = before ∧ found' = found := by
  have hother : (ofSource source).toList[before'.length]? = some found' := by simp [hsplit']
  have hindex := index_unique hsplit hother hline hcolumn
  obtain ⟨hbefore, hrest⟩ := List.append_inj (hsplit'.symm.trans hsplit) hindex
  exact ⟨hbefore, (List.cons.inj hrest).1⟩

end TagGraph
