import TagGraph.Proofs.Segmentation
import TagGraph.Proofs.SourceLines
import TagGraph.Reader
import Mathlib.Data.List.Chain

/-!
Runs of a reader. Whether it is asked for one token or for all that are left, it is as if it were
asked for single tokens a number of times. After each of them the reader stands exactly behind the
characters that it has taken, and every token that it has given out says where its first character
stands. So all offsets at which the text is cut lie at the edges of characters.
-/

namespace TagGraph

/-- What a reader is asked for: the next token, or all that are left. -/
inductive Reader.Call
  | next
  | drain

namespace Reader

def answer (reader : Reader) : Call → List Token × Reader
  | .next => ([reader.next.1], reader.next.2)
  | .drain => reader.drain

/-- All tokens given out for the calls, and the reader after them. -/
def answers (reader : Reader) : List Call → List Token × Reader
  | [] => ([], reader)
  | call :: calls =>
    let (others, final) := (reader.answer call).2.answers calls
    ((reader.answer call).1 ++ others, final)

/-- So many tokens, one by one. -/
def pull (reader : Reader) : Nat → List Token × Reader
  | 0 => ([], reader)
  | count + 1 =>
    ((reader.pull count).1 ++ [(reader.pull count).2.next.1], (reader.pull count).2.next.2)

variable {reader : Reader}

theorem pull_add (reader : Reader) (count more : Nat) : reader.pull (count + more) =
    ((reader.pull count).1 ++ ((reader.pull count).2.pull more).1,
      ((reader.pull count).2.pull more).2) := by
  induction more with
  | zero => simp [pull]
  | succ more ih => rw [← Nat.add_assoc, pull, ih, pull, List.append_assoc]

theorem next_of_unfinished (h : reader.finished? = none) : reader.next =
    ((reader.cursor.next reader.reserved).1,
      ⟨reader.reserved, (reader.cursor.next reader.reserved).2,
        some (reader.cursor.next reader.reserved).1⟩) := by
  simp [next, h]

theorem drain_of_unfinished (h : reader.finished? = none) : reader.drain =
    ((reader.cursor.tokens reader.reserved).1.toList,
      ⟨reader.reserved, (reader.cursor.tokens reader.reserved).2,
        some (reader.cursor.tokens reader.reserved).1.last⟩) := by
  simp [drain, h]

theorem finished?_eq_some {token : Token} (h : reader.finished? = some token) :
    reader.current? = some token ∧ token.isTerminal = true := by
  simpa [finished?, Option.filter_eq_some_iff] using h

theorem unfinished_of_next (h : reader.next.1.isTerminal = false) : reader.finished? = none := by
  cases hfinished : reader.finished? with
  | none => rfl
  | some token =>
    rw [next_of_finished hfinished, (finished?_eq_some hfinished).2] at h
    cases h

/-- A terminal token is all that is left once it comes next. -/
theorem drain_of_isTerminal (h : reader.next.1.isTerminal = true) :
    reader.drain = ([reader.next.1], reader.next.2) := by
  cases hfinished : reader.finished? with
  | some token => rw [next_of_finished hfinished, drain_of_finished hfinished]
  | none =>
    rw [next_of_unfinished hfinished] at h ⊢
    rw [drain_of_unfinished hfinished, Cursor.tokens, dif_neg (by simp [h])]
    rfl

theorem drain_of_not_isTerminal (h : reader.next.1.isTerminal = false) :
    reader.drain = (reader.next.1 :: reader.next.2.drain.1, reader.next.2.drain.2) := by
  have hfinished := unfinished_of_next h
  rw [next_of_unfinished hfinished] at h ⊢
  have hafter : (⟨reader.reserved, (reader.cursor.next reader.reserved).2,
      some (reader.cursor.next reader.reserved).1⟩ : Reader).finished? = none := by
    simp [finished?, Option.filter, h]
  rw [drain_of_unfinished hfinished, drain_of_unfinished hafter, Cursor.tokens, dif_pos h]
  rfl

theorem exists_drain_eq_pull (reader : Reader) : ∃ count, reader.drain = reader.pull count := by
  induction hlength : reader.cursor.rest.length using Nat.strongRecOn generalizing reader with
  | ind length ih =>
    cases hterminal : reader.next.1.isTerminal with
    | true => exact ⟨1, drain_of_isTerminal hterminal⟩
    | false =>
      have hfinished := unfinished_of_next hterminal
      have hshort : reader.next.2.cursor.rest.length < length := by
        rw [next_of_unfinished hfinished] at hterminal ⊢
        exact hlength ▸ Cursor.length_next_lt reader.reserved reader.cursor hterminal
      obtain ⟨count, hcount⟩ := ih _ hshort reader.next.2 rfl
      refine ⟨1 + count, ?_⟩
      rw [drain_of_not_isTerminal hterminal, pull_add, hcount]
      rfl

/-- Whatever the calls are, single tokens could have been asked for instead. -/
theorem exists_answers_eq_pull (reader : Reader) (calls : List Call) :
    ∃ count, reader.answers calls = reader.pull count := by
  induction calls generalizing reader with
  | nil => exact ⟨0, rfl⟩
  | cons call calls ih =>
    obtain ⟨more, hmore⟩ := ih (reader.answer call).2
    have hfirst : ∃ count, reader.answer call = reader.pull count := by
      cases call with
      | next => exact ⟨1, rfl⟩
      | drain => exact exists_drain_eq_pull reader
    obtain ⟨count, hcount⟩ := hfirst
    refine ⟨count + more, ?_⟩
    rw [pull_add, answers, hmore, hcount]

end Reader

/-- A string token holds what stands between its delimiters, up to the first one that closes it. -/
theorem Piece.exists_delimiter {reserved : List String} {raw rest : List Char}
    {content : Token.Kind × String} (h : Piece reserved raw rest content)
    (hkind : content.1 = .string) : ∃ delimiter : StringLiteral.Delimiter,
      raw = delimiter.chars ++ content.2.toList ++ delimiter.chars ∧
        OpenedBy delimiter (raw ++ rest) ∧ ClosedFirst delimiter content.2.toList rest := by
  cases h with
  | @string delimiter content _ hopens hclosed =>
    rw [String.toList_ofList]
    exact ⟨delimiter, rfl, hopens, hclosed⟩
  | _ => cases hkind

namespace Segment

/-- The byte offset at which the characters of the token end. -/
def stop (segment : Segment) : Nat := segment.token.position.offset + byteSize segment.raw

/-- The characters of the token stand between others in the source, and the token says where. They
begin with no gap. The end of the input is read from no characters, where none are left. -/
structure StandsAt (reserved : List String) (source : String) (before rest : List Char)
    (segment : Segment) : Prop where
  toList_eq : source.toList = before ++ (segment.raw ++ rest)
  position_eq : segment.token.position = .after before
  not_begins : ∀ c ∈ segment.raw.head?, ¬Trivia.Begins c
  reads : Piece reserved segment.raw rest segment.token.content ∨
    FaultyPiece segment.raw rest segment.token.content ∨
      segment.token.kind = .endOfInput ∧ segment.raw = [] ∧ rest = []

/-- A token that is not terminal takes some bytes, and the one after it begins where they end or
further on. A terminal token is followed by itself. -/
def LeadsTo (segment other : Segment) : Prop :=
  if segment.token.isTerminal then other = segment
  else segment.token.position.offset < segment.stop ∧ segment.stop ≤ other.token.position.offset

/-- The cuts that are made on account of a token: around its characters, around the content of a
string, and around the line on which it begins. -/
structure CutFrom (source : String) (segment : Segment) : Prop where
  raw : Sliced source segment.token.position.offset segment.stop segment.raw
  content : segment.token.kind = .string → ∃ delimiter : StringLiteral.Delimiter,
    segment.raw = delimiter.chars ++ segment.token.text.toList ++ delimiter.chars ∧
      Sliced source (segment.token.position.offset + byteSize delimiter.chars)
        (segment.stop - byteSize delimiter.chars) segment.token.text.toList
  line : ∃ start stop line, Sliced source start stop line ∧
    start ≤ segment.token.position.offset ∧ segment.token.position.offset ≤ stop ∧ '\n' ∉ line ∧
      SourceLine.at? source segment.token.position.offset =
        some (String.ofList (line.rdropWhile (· == '\r')))

variable {reserved : List String} {source : String} {before rest : List Char} {segment : Segment}

namespace StandsAt

/-- What is read as a token that is not terminal is a piece of the text. -/
theorem piece (h : segment.StandsAt reserved source before rest)
    (hplain : segment.token.isTerminal = false) :
    Piece reserved segment.raw rest segment.token.content := by
  rcases h.reads with hpiece | hfault | ⟨hkind, -, -⟩
  · exact hpiece
  · rw [hfault.isTerminal] at hplain
    cases hplain
  · simp [Token.isTerminal, Token.isEndOfInput, hkind] at hplain

theorem raw_ne_nil (h : segment.StandsAt reserved source before rest)
    (hplain : segment.token.isTerminal = false) : segment.raw ≠ [] :=
  (h.piece hplain).raw_ne_nil

theorem start_lt_stop (h : segment.StandsAt reserved source before rest)
    (hplain : segment.token.isTerminal = false) :
    segment.token.position.offset < segment.stop := by
  have hsize := byteSize_pos (h.raw_ne_nil hplain)
  unfold stop
  omega

theorem exists_delimiter (h : segment.StandsAt reserved source before rest)
    (hkind : segment.token.kind = .string) : ∃ delimiter : StringLiteral.Delimiter,
      segment.raw = delimiter.chars ++ segment.token.text.toList ++ delimiter.chars ∧
        OpenedBy delimiter (segment.raw ++ rest) ∧
          ClosedFirst delimiter segment.token.text.toList rest := by
  have hplain : segment.token.isTerminal = false := by
    simp [Token.isTerminal, Token.isEndOfInput, Token.isError, hkind]
  exact (h.piece hplain).exists_delimiter hkind

theorem cutFrom (h : segment.StandsAt reserved source before rest) :
    segment.CutFrom source where
  raw := by
    rw [stop, h.position_eq]
    exact .of_toList_eq h.toList_eq
  content hkind := by
    obtain ⟨delimiter, hraw, -⟩ := h.exists_delimiter hkind
    refine ⟨delimiter, hraw, ?_⟩
    have hstart : segment.token.position.offset + byteSize delimiter.chars =
        byteSize (before ++ delimiter.chars) := by rw [h.position_eq, byteSize_append]; rfl
    have hstop : segment.stop - byteSize delimiter.chars =
        byteSize (before ++ delimiter.chars) + byteSize segment.token.text.toList := by
      rw [stop, hraw, byteSize_append, byteSize_append, ← hstart]
      omega
    rw [hstart, hstop]
    have hsource : source.toList = (before ++ delimiter.chars) ++
        (segment.token.text.toList ++ (delimiter.chars ++ rest)) := by
      rw [h.toList_eq, hraw]
      simp
    exact .of_toList_eq hsource
  line := by
    obtain ⟨start, stop, hline, hstart, hstop⟩ := SourceLine.exists_sliced_line h.toList_eq
    rw [h.position_eq]
    refine ⟨start, stop, _, hline, hstart, hstop, ?_, SourceLine.at?_byteSize h.toList_eq⟩
    rw [List.mem_append, not_or]
    exact ⟨SourceLine.newline_not_mem_ending _, SourceLine.newline_not_mem_beginning _⟩

end StandsAt

end Segment

namespace Cursor

theorem not_begins_segment (reserved : List String) (cursor : Cursor) :
    ∀ c ∈ (cursor.segment reserved).raw.head?, ¬Trivia.Begins c := by
  have hgap := longestGap_segment reserved cursor
  intro c hmem
  obtain ⟨others, hraw⟩ := List.head?_eq_some_iff.mp hmem
  rw [hraw, List.cons_append] at hgap
  exact (longestGap_cons_iff.mp hgap).2

/-- A token is read from a piece of the text, from a faulty one, or from nothing at the end. -/
theorem segment_reads (reserved : List String) (cursor : Cursor) :
    Piece reserved (cursor.segment reserved).raw (cursor.next reserved).2.rest
        (cursor.segment reserved).token.content ∨
      FaultyPiece (cursor.segment reserved).raw (cursor.next reserved).2.rest
        (cursor.segment reserved).token.content ∨
      (cursor.segment reserved).token.kind = .endOfInput ∧ (cursor.segment reserved).raw = [] ∧
        (cursor.next reserved).2.rest = [] := by
  rw [token_segment]
  unfold segment next
  split
  · next gap hsplit => exact Or.inr (Or.inr (by simp [hsplit, readAt, Token.endOfInput]))
  · next gap c rest hsplit =>
    simp only [hsplit, readAt]
    rcases Lexeme.fits_scan reserved c rest with hpiece | hfault
    · exact Or.inl hpiece
    · exact Or.inr (Or.inl hfault)

end Cursor

/-- The reader has given out the tokens of the segments, and stands behind all that it has read. -/
structure Reader.HasGiven (reserved : List String) (source : String) (segments : List Segment)
    (reader : Reader) : Prop where
  reserved_eq : reader.reserved = reserved
  current_eq : reader.current? = segments.getLast?.map Segment.token
  standsAfter : ∃ consumed, source.toList = consumed ++ reader.cursor.rest ∧
    reader.position = .after consumed
  stop_le : ∀ segment ∈ segments.getLast?, segment.stop ≤ reader.position.offset
  standsAt : ∀ segment ∈ segments, ∃ before rest, segment.StandsAt reserved source before rest
  leadsTo : segments.IsChain Segment.LeadsTo

namespace Reader.HasGiven

variable {reserved : List String} {source : String} {segments : List Segment} {reader : Reader}

theorem ofText (words : List String) (source : String) :
    HasGiven (words.map Unicode.uppercase) source [] (Reader.ofText words source) where
  reserved_eq := rfl
  current_eq := rfl
  standsAfter := ⟨[], rfl, rfl⟩
  stop_le := nofun
  standsAt := nofun
  leadsTo := .nil

/-- A finished reader gives out its last token again. -/
theorem next_of_finished (h : HasGiven reserved source segments reader) {token : Token}
    (hfinished : reader.finished? = some token) : ∃ segment, reader.next.1 = segment.token ∧
      HasGiven reserved source (segments ++ [segment]) reader.next.2 := by
  obtain ⟨hcurrent, hterminal⟩ := finished?_eq_some hfinished
  rw [h.current_eq, Option.map_eq_some_iff] at hcurrent
  obtain ⟨segment, hlast, rfl⟩ := hcurrent
  rw [Reader.next_of_finished hfinished]
  refine ⟨segment, rfl, h.reserved_eq, ?_, h.standsAfter, ?_, ?_, ?_⟩
  · rw [h.current_eq, hlast, List.getLast?_concat]
  · rw [List.getLast?_concat, ← hlast]
    exact h.stop_le
  · rw [List.forall_mem_append, List.forall_mem_singleton]
    exact ⟨h.standsAt, h.standsAt segment (List.mem_of_getLast? hlast)⟩
  · refine List.isChain_append.mpr ⟨h.leadsTo, .singleton _, ?_⟩
    rintro last hmem other ⟨⟩
    obtain rfl : segment = last := Option.some.inj (hlast.symm.trans hmem)
    rw [Segment.LeadsTo, if_pos hterminal]

/-- A reader that is not finished reads one segment more. -/
theorem next_of_unfinished (h : HasGiven reserved source segments reader)
    (hfinished : reader.finished? = none) : ∃ segment, reader.next.1 = segment.token ∧
      HasGiven reserved source (segments ++ [segment]) reader.next.2 := by
  obtain ⟨consumed, hsource, hposition⟩ := h.standsAfter
  have happend := Cursor.segment_append reserved reader.cursor
  obtain ⟨hplace, hafter⟩ := Cursor.position_next reserved reader.cursor
  have hreads := Cursor.segment_reads reserved reader.cursor
  have hbegins := Cursor.not_begins_segment reserved reader.cursor
  rw [← Cursor.token_segment] at hplace
  rw [Reader.next_of_unfinished hfinished, h.reserved_eq, ← Cursor.token_segment]
  generalize reader.cursor.segment reserved = segment at happend hplace hafter hreads hbegins ⊢
  rw [Reader.position] at hposition
  rw [hposition, Position.advanceBy_after] at hplace hafter
  have hstands : segment.StandsAt reserved source (consumed ++ segment.gap)
      (reader.cursor.next reserved).2.rest :=
    ⟨by rw [hsource, ← happend, List.append_assoc], hplace, hbegins, hreads⟩
  refine ⟨segment, rfl, rfl, ?_, ⟨consumed ++ segment.chars, ?_, hafter⟩, ?_, ?_, ?_⟩
  · rw [List.getLast?_concat, Option.map_some]
  · rw [hsource, ← happend, Segment.chars, List.append_assoc, List.append_assoc]
  · rw [List.getLast?_concat]
    rintro last ⟨⟩
    rw [Reader.position, hafter, Segment.stop, hplace, Segment.chars, ← List.append_assoc]
    exact (byteSize_append _ _).ge
  · rw [List.forall_mem_append, List.forall_mem_singleton]
    exact ⟨h.standsAt, _, _, hstands⟩
  · refine List.isChain_append.mpr ⟨h.leadsTo, .singleton _, ?_⟩
    rintro last hlast other ⟨⟩
    have hplain : last.token.isTerminal = false := by
      rw [finished?, h.current_eq, Option.mem_def.mp hlast] at hfinished
      simpa [Option.filter] using hfinished
    obtain ⟨before, rest, hlaststands⟩ := h.standsAt last (List.mem_of_getLast? hlast)
    have hstop := h.stop_le last hlast
    rw [Segment.LeadsTo, hplain, if_neg (by decide), hplace]
    refine ⟨hlaststands.start_lt_stop hplain, hstop.trans ?_⟩
    rw [Reader.position, hposition]
    exact (Nat.le_add_right _ _).trans (byteSize_append _ _).ge

theorem pull (h : HasGiven reserved source segments reader) (count : Nat) :
    ∃ more, (reader.pull count).1 = Segment.tokens more ∧
      HasGiven reserved source (segments ++ more) (reader.pull count).2 := by
  induction count with
  | zero => exact ⟨[], rfl, by rw [List.append_nil]; exact h⟩
  | succ count ih =>
    obtain ⟨more, hgiven, hmore⟩ := ih
    have hnext : ∃ segment, (reader.pull count).2.next.1 = segment.token ∧
        HasGiven reserved source (segments ++ more ++ [segment]) (reader.pull count).2.next.2 := by
      cases hfinished : (reader.pull count).2.finished? with
      | none => exact hmore.next_of_unfinished hfinished
      | some token => exact hmore.next_of_finished hfinished
    obtain ⟨segment, htoken, hsegment⟩ := hnext
    refine ⟨more ++ [segment], ?_, by rw [← List.append_assoc]; exact hsegment⟩
    rw [Reader.pull, hgiven, htoken, Segment.tokens, Segment.tokens, List.map_append]
    rfl

end Reader.HasGiven

/-- Every token that a reader gives out was read from characters that stand in the text. -/
theorem Reader.exists_standsAt {words : List String} {source : String} {calls : List Call}
    {token : Token} (h : token ∈ ((Reader.ofText words source).answers calls).1) :
    ∃ (segment : Segment) (before rest : List Char), segment.token = token ∧
      segment.StandsAt (words.map Unicode.uppercase) source before rest := by
  obtain ⟨count, hcount⟩ := exists_answers_eq_pull (Reader.ofText words source) calls
  obtain ⟨segments, hgiven, hsegments⟩ := (HasGiven.ofText words source).pull count
  rw [hcount, hgiven] at h
  obtain ⟨segment, hmem, htoken⟩ := List.mem_map.mp h
  obtain ⟨before, rest, hstands⟩ := hsegments.standsAt segment hmem
  exact ⟨segment, before, rest, htoken, hstands⟩

/-- Whatever a reader has been asked for, it stands at the place that the characters before it make,
and so does every token that it has given out. Tokens follow each other without overlap, up to a
terminal one. Wherever the text is cut, that is done at the edges of characters. -/
theorem Reader.answers_exact (words : List String) (source : String) (calls : List Call) :
    (∃ consumed, source.toList =
        consumed ++ ((Reader.ofText words source).answers calls).2.cursor.rest ∧
      ((Reader.ofText words source).answers calls).2.position = .after consumed) ∧
    (∃ segments, ((Reader.ofText words source).answers calls).1 = Segment.tokens segments ∧
      segments.IsChain Segment.LeadsTo ∧
      ∀ segment ∈ segments, segment.CutFrom source ∧ ∃ before rest,
        segment.StandsAt (words.map Unicode.uppercase) source before rest) ∧
    ∀ passed left, source.toList = passed ++ left →
      Sliced source (Position.after passed).offset source.utf8ByteSize left := by
  obtain ⟨count, hcount⟩ := exists_answers_eq_pull (Reader.ofText words source) calls
  obtain ⟨segments, hgiven, hsegments⟩ := (HasGiven.ofText words source).pull count
  rw [hcount]
  refine ⟨hsegments.standsAfter, ⟨segments, hgiven, hsegments.leadsTo, ?_⟩, ?_⟩
  · intro segment hmem
    obtain ⟨before, rest, hstands⟩ := hsegments.standsAt segment hmem
    exact ⟨hstands.cutFrom, before, rest, hstands⟩
  · intro passed left hsource
    have hwhole : source.toList = passed ++ (left ++ []) := by rw [hsource, List.append_nil]
    have hsliced := Sliced.of_toList_eq hwhole
    rw [← byteSize_append, ← hsource, byteSize_toList] at hsliced
    exact hsliced

end TagGraph
