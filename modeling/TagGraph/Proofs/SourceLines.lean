import TagGraph.Proofs.Places
import Mathlib.Data.List.DropRight

/-!
The lines of a text. A place lies on the line whose number is one more than the newlines before it:
what comes between the last newline before the place and the first one after it is the piece with
that number when the text is split at its newlines. Both ends of a line are places to cut the text.
-/

namespace TagGraph.SourceLine

/-- What comes after the last newline. -/
def ending (before : List Char) : List Char := (before.reverse.takeWhile (· != '\n')).reverse

/-- What comes before the first newline. -/
def beginning (rest : List Char) : List Char := rest.takeWhile (· != '\n')

/-- The lines of a text, without the newlines between them. -/
def lines (text : List Char) : List (List Char) := text.splitOn '\n'

/-- The line around a place, without the carriage returns that end it. -/
def around (before rest : List Char) : List Char := dropReturns (ending before ++ beginning rest)

theorem newline_not_mem_beginning (rest : List Char) : '\n' ∉ beginning rest := by
  intro hmem
  have hline := List.all_eq_true.mp List.all_takeWhile '\n' hmem
  exact absurd hline (by simp)

theorem newline_not_mem_ending (before : List Char) : '\n' ∉ ending before := by
  rw [ending, List.mem_reverse]
  exact newline_not_mem_beginning before.reverse

/-- Before the last line there are whole lines, or there is nothing. -/
theorem exists_above (before : List Char) :
    ∃ above, before = above ++ ending before ∧ (above = [] ∨ ∃ lines, above = lines ++ ['\n']) := by
  refine ⟨(before.reverse.dropWhile (· != '\n')).reverse, ?_, ?_⟩
  · rw [ending, ← List.reverse_append, List.takeWhile_append_dropWhile, List.reverse_reverse]
  · cases habove : before.reverse.dropWhile (· != '\n') with
    | nil => exact Or.inl rfl
    | cons c rest =>
      have hnewline := List.head_dropWhile_not (· != '\n') (l := before.reverse) (by simp [habove])
      simp only [habove, List.head_cons, bne_eq_false_iff_eq] at hnewline
      exact Or.inr ⟨rest.reverse, by rw [hnewline, List.reverse_cons]⟩

theorem exists_below (rest : List Char) : ∃ below, rest = beginning rest ++ below :=
  ⟨_, List.takeWhile_append_dropWhile.symm⟩

theorem byteSize_eq_foldr (chars : List Char) :
    byteSize chars = chars.foldr (fun c size => c.utf8Size + size) 0 := by
  induction chars with
  | nil => rfl
  | cons c rest ih => rw [byteSize_cons, ih, List.foldr_cons]

theorem cut?_byteSize (before after : List Char) :
    cut? (byteSize before) (before ++ after) = some (before, after) := by
  rw [byteSize_eq_foldr, cut?_append]

theorem cut?_of_le {text : List Char} {offset : Nat} (h : byteSize text ≤ offset) :
    cut? offset text = some (text, []) := by
  induction text generalizing offset with
  | nil => rfl
  | cons c rest ih =>
    have hsize := c.utf8Size_pos
    rw [byteSize_cons] at h
    rw [cut?, if_neg (by omega), if_neg (by omega), ih (by omega)]
    rfl

theorem byteSize_of_cut? {text before after : List Char} {offset : Nat}
    (h : cut? offset text = some (before, after)) (hle : offset ≤ byteSize text) :
    byteSize before = offset := by
  induction text generalizing offset before with
  | nil =>
    obtain ⟨rfl, rfl⟩ := Prod.mk.inj (Option.some.inj h)
    exact (Nat.le_zero.mp hle).symm
  | cons c rest ih =>
    rw [byteSize_cons] at hle
    rw [cut?] at h
    split at h
    · next hzero =>
      obtain ⟨rfl, rfl⟩ := Prod.mk.inj (Option.some.inj h)
      exact hzero.symm
    · split at h
      · cases h
      · obtain ⟨⟨front, back⟩, hcut, heq⟩ := Option.map_eq_some_iff.mp h
        obtain ⟨rfl, rfl⟩ := Prod.mk.inj heq
        rw [byteSize_cons, ih hcut (by omega)]
        omega

theorem slice?_byteSize {source : String} {above line below : List Char}
    (h : source.toList = above ++ (line ++ below)) :
    slice? source (byteSize above) (byteSize above + byteSize line) = some line := by
  have htotal := congrArg byteSize h
  rw [byteSize_toList, byteSize_append, byteSize_append] at htotal
  rw [slice?, if_pos (by omega), h, cut?_byteSize, Nat.add_sub_cancel_left]
  simp only [Option.bind_eq_bind, Option.bind_some, cut?_byteSize]
  rfl

theorem firstNewline?_eq (rest : List Char) :
    (firstNewline? rest).elim (byteSize rest) id = byteSize (beginning rest) := by
  induction rest with
  | nil => rfl
  | cons c rest ih =>
    rw [firstNewline?, beginning, List.takeWhile_cons]
    by_cases hnewline : c = '\n'
    · rw [if_pos hnewline, if_neg (by simp [hnewline])]
      rfl
    · rw [if_neg hnewline, if_pos (by simp [hnewline]), byteSize_cons, byteSize_cons,
        ← beginning, ← ih]
      cases firstNewline? rest <;> rfl

theorem lastNewline?_of_not_mem {last : List Char} (h : '\n' ∉ last) :
    lastNewline? last = none := by
  induction last with
  | nil => rfl
  | cons c rest ih =>
    obtain ⟨hne, hrest⟩ := not_or.mp (mt List.mem_cons.mpr h)
    rw [lastNewline?, ih hrest]
    exact if_neg (Ne.symm hne)

theorem lastNewline?_append {last : List Char} (h : '\n' ∉ last) (whole : List Char) :
    lastNewline? (whole ++ '\n' :: last) = some (byteSize whole) := by
  induction whole with
  | nil =>
    rw [List.nil_append, lastNewline?, lastNewline?_of_not_mem h]
    rfl
  | cons c whole ih => rw [List.cons_append, lastNewline?, ih, byteSize_cons]

theorem lastNewline?_eq (before : List Char) :
    (lastNewline? before).elim 0 (· + 1) + byteSize (ending before) = byteSize before := by
  have hlast := newline_not_mem_ending before
  obtain ⟨above, hbefore, habove⟩ := exists_above before
  generalize ending before = last at hbefore hlast ⊢
  rcases habove with rfl | ⟨whole, rfl⟩
  · rw [hbefore, List.nil_append, lastNewline?_of_not_mem hlast]
    exact Nat.zero_add _
  · have hnewline : byteSize ['\n'] = 1 := rfl
    rw [hbefore, List.append_assoc, List.singleton_append, lastNewline?_append hlast,
      ← List.singleton_append, byteSize_append, byteSize_append, hnewline, ← Nat.add_assoc]
    rfl

/-- At a place between two characters the slice is the line around it. -/
theorem at?_byteSize {source : String} {before rest : List Char}
    (h : source.toList = before ++ rest) :
    at? source (byteSize before) = some (String.ofList (around before rest)) := by
  obtain ⟨above, hbefore, -⟩ := exists_above before
  obtain ⟨below, hrest⟩ := exists_below rest
  have hsource : source.toList = above ++ ((ending before ++ beginning rest) ++ below) := by
    rw [h, ← List.append_assoc, ← List.append_assoc, ← hbefore, List.append_assoc, ← hrest]
  have htotal := congrArg byteSize h
  rw [byteSize_toList, byteSize_append] at htotal
  have hoffset : min (byteSize before) source.utf8ByteSize = byteSize before := by omega
  have hfirst : (lastNewline? before).elim 0 (· + 1) = byteSize above := by
    have hends := lastNewline?_eq before
    have hsize := congrArg byteSize hbefore
    rw [byteSize_append] at hsize
    omega
  have hlast : (firstNewline? rest).elim source.utf8ByteSize (byteSize before + ·) =
      byteSize above + byteSize (ending before ++ beginning rest) := by
    have hbegins := firstNewline?_eq rest
    have hsize := congrArg byteSize hbefore
    rw [byteSize_append] at hsize
    rw [byteSize_append, ← hbegins, htotal]
    cases firstNewline? rest with
    | none => simp only [Option.elim_none]; omega
    | some index => simp only [Option.elim_some, id]; omega
  rw [at?, hoffset, h, cut?_byteSize]
  simp only [Option.bind_eq_bind, Option.bind_some]
  rw [hfirst, hlast, slice?_byteSize hsource]
  rfl

/-- Nothing but the first cut can fail, and the rest of the text behind it tells the line. -/
theorem at?_eq_map (source : String) (offset : Nat) : at? source offset =
    (cut? offset source.toList).map fun (before, after) => String.ofList (around before after) := by
  rcases Nat.lt_or_ge source.utf8ByteSize offset with hbeyond | hle
  · have hwhole : source.toList = source.toList ++ [] := (List.append_nil _).symm
    have hend := at?_byteSize hwhole
    rw [byteSize_toList] at hend
    rw [cut?_of_le (by rw [byteSize_toList]; exact hbeyond.le), at?, Nat.min_eq_right hbeyond.le]
    rwa [at?, Nat.min_self] at hend
  · cases hcut : cut? offset source.toList with
    | none => rw [at?, Nat.min_eq_left hle, hcut]; rfl
    | some cut =>
      obtain ⟨before, after⟩ := cut
      have hsource := (append_of_cut? hcut).symm
      rw [← byteSize_of_cut? hcut (by rwa [byteSize_toList]), at?_byteSize hsource]
      rfl

/-- The line around a place can be cut out of the text. -/
theorem exists_sliced_line {source : String} {before rest : List Char}
    (h : source.toList = before ++ rest) : ∃ start stop,
      Sliced source start stop (ending before ++ beginning rest) ∧
        start ≤ byteSize before ∧ byteSize before ≤ stop := by
  obtain ⟨above, hbefore, -⟩ := exists_above before
  obtain ⟨below, hrest⟩ := exists_below rest
  have hsize := congrArg byteSize hbefore
  rw [byteSize_append] at hsize
  have hsource : source.toList = above ++ ((ending before ++ beginning rest) ++ below) := by
    rw [h, ← List.append_assoc, ← List.append_assoc, ← hbefore, List.append_assoc, ← hrest]
  refine ⟨_, _, Sliced.of_toList_eq hsource, ?_, ?_⟩
  · omega
  · rw [byteSize_append]
    omega

end TagGraph.SourceLine
