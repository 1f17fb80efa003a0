import TagGraph.Proofs.Writing

/-!
A text cut into segments: each token with the gap before it and the characters that it was read
from. Of what follows a token only the first character matters, and only where it would make the
token longer. So segments stay what they are when the text after them is cut off at a gap, or when
something that begins with a gap takes its place.
-/

namespace TagGraph

/-- Whitespace, or the sign at which a comment begins. -/
def Trivia.Begins (c : Char) : Prop := Unicode.isWhitespace c = true ∨ c = '#'

theorem Identifier.isPart_of_isDigit {c : Char} (h : c.isDigit = true) : isPart c = true := by
  have hascii : c.toNat < 0x80 := by
    simp only [Char.isDigit, Bool.and_eq_true, decide_eq_true_eq] at h
    have hlast : c.toNat ≤ 57 := h.2
    omega
  simp [isPart, Unicode.isNumeric, hascii, h]

namespace Trivia.Begins

variable {c : Char}

theorem not_isPart (h : Begins c) : Identifier.isPart c = false := by
  rcases h with hspace | rfl
  · obtain ⟨hletter, hnumeral⟩ := Unicode.not_alphanumeric_of_isWhitespace hspace
    have hunderscore : c ≠ '_' := by
      rintro rfl
      revert hspace
      decide
    simp [Identifier.isPart, hletter, hnumeral, hunderscore]
  · decide

theorem not_isStart (h : Begins c) : Identifier.isStart c = false := by
  cases hstart : Identifier.isStart c with
  | false => rfl
  | true => simpa [h.not_isPart] using Identifier.isPart_of_isStart hstart

theorem not_isDigit (h : Begins c) : c.isDigit = false := by
  cases hdigit : c.isDigit with
  | false => rfl
  | true => simpa [h.not_isPart] using Identifier.isPart_of_isDigit hdigit

theorem not_quote (h : Begins c) : c ≠ '"' := by
  rintro rfl
  rcases h with hspace | hsign
  · revert hspace
    decide
  · cases hsign

end Trivia.Begins

namespace Gap

variable {gap rest rest' : List Char} {c : Char}

/-- A gap stays one before any text, unless it is ended by the end of the text alone. -/
theorem congr (h : Gap gap rest) (hrest : rest = [] → rest' = []) : Gap gap rest' := by
  induction h with
  | nil => exact .nil
  | space hspace _ ih => exact .space hspace (ih hrest)
  | comment hbody _ ih => exact .comment hbody (ih hrest)
  | lastComment hbody =>
    obtain rfl := hrest rfl
    exact .lastComment hbody

theorem begins (h : Gap (c :: gap) rest) : Trivia.Begins c := by
  cases h with
  | space hspace _ => exact Or.inl hspace
  | comment _ _ => exact Or.inr rfl
  | lastComment _ => exact Or.inr rfl

/-- A newline ends whatever gap it comes after. -/
theorem concat_newline (h : Gap gap rest) (after : List Char) : Gap (gap ++ ['\n']) after := by
  induction h with
  | nil => exact .space (by decide) .nil
  | space hspace _ ih => exact .space hspace ih
  | comment hbody _ ih =>
    rw [List.cons_append, List.append_assoc, List.cons_append]
    exact .comment hbody ih
  | lastComment hbody => exact .comment hbody .nil

/-- The gap at the front of a text goes on with the gap at the front of what is left. -/
theorem split_append (h : Gap gap rest) : Trivia.split (gap ++ rest) =
    (gap ++ (Trivia.split rest).1, (Trivia.split rest).2) := by
  induction h with
  | nil => rfl
  | space hspace _ ih => rw [List.cons_append, split_space hspace, ih, List.cons_append]
  | comment hbody _ ih =>
    rw [List.cons_append, List.append_assoc, List.cons_append, split_number_sign,
      split_comment hbody, ih, List.cons_append, List.append_assoc, List.cons_append]
  | lastComment hbody =>
    rw [List.append_nil, split_number_sign, split_lastComment hbody]
    exact congrArg (·, []) (List.append_nil _).symm

end Gap

/-- A gap is as long as it can be when the next character begins no gap. -/
theorem longestGap_cons_iff {gap rest : List Char} {c : Char} :
    LongestGap gap (c :: rest) ↔ Gap gap (c :: rest) ∧ ¬Trivia.Begins c := by
  constructor
  · intro h
    have hsplit := congrArg Prod.snd (longestGap_iff.mp h)
    obtain ⟨hspace, hsign⟩ := Trivia.head_after_splitFrom hsplit
    exact ⟨h.isGap, by simp [Trivia.Begins, hspace, hsign]⟩
  · rintro ⟨hgap, hbegins⟩
    obtain ⟨hspace, hsign⟩ := not_or.mp hbegins
    have hstop : Trivia.split (c :: rest) = ([], c :: rest) := by
      simp [Trivia.split, Trivia.splitFrom, hspace, hsign]
    rw [longestGap_iff, hgap.split_append, hstop, List.append_nil]

theorem LongestGap.of_nil {gap : List Char} (h : Gap gap []) : LongestGap gap [] := by
  rw [longestGap_iff, h.split_append]
  exact congrArg (·, []) (List.append_nil gap)

/-- After a token one text can stand in for another if it begins as that one does, or with a gap,
or if there is nothing of it. -/
def StandsIn (rest' rest : List Char) : Prop :=
  ∀ c ∈ rest'.head?, c ∈ rest.head? ∨ Trivia.Begins c

theorem StandsIn.of_append (front back : List Char) : StandsIn front (front ++ back) := by
  intro c hmem
  cases front with
  | nil => cases hmem
  | cons d front => exact Or.inl hmem

theorem StandsIn.of_gap {gap rest : List Char} (h : Gap gap rest) (hempty : gap = [] → rest = [])
    (other : List Char) : StandsIn (gap ++ rest) other := by
  intro c hmem
  cases gap with
  | nil =>
    obtain rfl := hempty rfl
    cases hmem
  | cons d gap =>
    obtain rfl : d = c := Option.some.inj hmem
    exact Or.inr h.begins

theorem StandsIn.append {rest rest' : List Char} (h : StandsIn rest' rest) (front : List Char) :
    StandsIn (front ++ rest') (front ++ rest) := by
  cases front with
  | nil => exact h
  | cons d front => exact fun c hmem => Or.inl hmem

/-- Where a string is closed does not depend on what comes after. -/
theorem ClosedFirst.congr {delimiter : StringLiteral.Delimiter} {content rest : List Char}
    (h : ClosedFirst delimiter content rest) (rest' : List Char) :
    ClosedFirst delimiter content rest' := by
  refine ⟨h.written, ?_⟩
  intro front back heq hfront
  by_contra hshort
  have hprefix : front ++ delimiter.chars <+: content ++ delimiter.chars := by
    refine List.prefix_of_prefix_length_le ⟨back, heq⟩ (List.prefix_append _ _) ?_
    simp only [List.length_append]
    omega
  obtain ⟨between, hbetween⟩ := hprefix
  refine hshort (h.first front (between ++ rest) ?_ hfront)
  rw [← List.append_assoc, hbetween]

/-- The content of a string in single quotes does not begin with a quote. -/
theorem ClosedFirst.head_ne_quote {content rest : List Char} {c : Char}
    (h : ClosedFirst .single (c :: content) rest) : c ≠ '"' := by
  rintro rfl
  have hlength := h.first [] (content ++ ('"' :: rest)) (by simp [StringLiteral.Delimiter.chars])
    .nil
  simp at hlength

theorem OpenedBy.congr {delimiter : StringLiteral.Delimiter} {content rest rest' : List Char}
    (h : OpenedBy delimiter (delimiter.chars ++ content ++ delimiter.chars ++ rest))
    (hclosed : ClosedFirst delimiter content rest) (hrest : StandsIn rest' rest) :
    OpenedBy delimiter (delimiter.chars ++ content ++ delimiter.chars ++ rest') := by
  cases delimiter with
  | triple => simp [OpenedBy, StringLiteral.Delimiter.chars]
  | single =>
    refine ⟨fun hsame => (by cases hsame), fun htriple => ?_⟩
    cases content with
    | cons c content =>
      obtain ⟨after, hafter⟩ := htriple
      have hquote : '"' = c := (List.cons.inj (List.cons.inj hafter).2).1
      exact absurd hquote.symm hclosed.head_ne_quote
    | nil =>
      obtain ⟨after, hafter⟩ := htriple
      obtain rfl : '"' :: after = rest' := (List.cons.inj (List.cons.inj hafter).2).2
      rcases hrest '"' rfl with hhead | hbegins
      · obtain ⟨others, rfl⟩ := List.head?_eq_some_iff.mp hhead
        exact h.mpr ⟨others, rfl⟩
      · exact absurd rfl hbegins.not_quote

namespace Piece

variable {reserved : List String} {raw rest rest' gap : List Char}
  {content : Token.Kind × String}

theorem raw_ne_nil (h : Piece reserved raw rest content) : raw ≠ [] := by
  cases h with
  | integer hsome _ _ => exact hsome
  | identifier _ _ _ _ => exact List.cons_ne_nil _ _
  | keyword _ _ _ _ => exact List.cons_ne_nil _ _
  | @string delimiter _ _ _ _ => cases delimiter <;> simp [StringLiteral.Delimiter.chars]
  | operator _ => exact List.cons_ne_nil _ _

/-- A piece is the same one before any text that can stand in for what followed it. -/
theorem congr (h : Piece reserved raw rest content) (hrest : StandsIn rest' rest) :
    Piece reserved raw rest' content := by
  have hnext : (∀ d ∈ rest.head?, Identifier.isPart d = false) →
      ∀ d ∈ rest'.head?, Identifier.isPart d = false := by
    intro hpart d hmem
    rcases hrest d hmem with hhead | hbegins
    · exact hpart d hhead
    · exact hbegins.not_isPart
  cases h with
  | integer hsome hdigits hafter =>
    refine .integer hsome hdigits ?_
    intro c hmem
    rcases hrest c hmem with hhead | hbegins
    · exact hafter c hhead
    · exact ⟨hbegins.not_isDigit, hbegins.not_isStart⟩
  | identifier hstart hothers hafter hfree =>
    exact .identifier hstart hothers (hnext hafter) hfree
  | keyword hstart hothers hafter hreserved =>
    exact .keyword hstart hothers (hnext hafter) hreserved
  | string hopens hclosed =>
    exact .string (hopens.congr hclosed hrest) (hclosed.congr rest')
  | operator hoperator => exact .operator hoperator

theorem not_begins {c : Char} (h : Piece reserved (c :: raw) rest content) :
    ¬Trivia.Begins c := by
  intro hbegins
  generalize hall : c :: raw = all at h
  cases h with
  | integer _ hdigits _ =>
    subst hall
    simpa [hbegins.not_isDigit] using hdigits c List.mem_cons_self
  | identifier hstart _ _ _ =>
    obtain ⟨rfl, -⟩ := List.cons.inj hall
    simp [hbegins.not_isStart] at hstart
  | keyword hstart _ _ _ =>
    obtain ⟨rfl, -⟩ := List.cons.inj hall
    simp [hbegins.not_isStart] at hstart
  | @string delimiter content _ _ _ =>
    obtain ⟨others, hchars⟩ := delimiter.exists_chars
    rw [hchars] at hall
    exact hbegins.not_quote (List.cons.inj hall).1
  | operator hoperator =>
    obtain ⟨rfl, -⟩ := List.cons.inj hall
    obtain ⟨-, -, -, hspace, hsign⟩ := Lexeme.operator_apart hoperator
    rcases hbegins with hbegins | hbegins
    · simp [hspace] at hbegins
    · exact hsign hbegins

/-- Every gap before a piece is as long as it can be. -/
theorem longestGap (h : Piece reserved raw rest content) (hgap : Gap gap (raw ++ rest)) :
    LongestGap gap (raw ++ rest) := by
  obtain ⟨c, others, rfl⟩ := List.exists_cons_of_ne_nil h.raw_ne_nil
  exact longestGap_cons_iff.mpr ⟨hgap, h.not_begins⟩

end Piece

/-- A token with the gap before it and the characters that it was read from. -/
structure Segment where
  gap : List Char
  raw : List Char
  token : Token
deriving DecidableEq

namespace Segment

def chars (segment : Segment) : List Char := segment.gap ++ segment.raw

/-- The text that segments make up. -/
def text (segments : List Segment) : List Char := segments.flatMap chars

def tokens (segments : List Segment) : List Token := segments.map token

@[simp]
theorem text_nil : text [] = [] := rfl

@[simp]
theorem text_cons (segment : Segment) (others : List Segment) :
    text (segment :: others) = segment.gap ++ (segment.raw ++ text others) := by
  simp [text, chars]

@[simp]
theorem text_append (front back : List Segment) : text (front ++ back) = text front ++ text back :=
  List.flatMap_append

end Segment

open Segment (text)

/-- Segments in which a text from some position on begins, and the text that is left after them. -/
inductive Segmented (reserved : List String) : Position → List Segment → List Char → Prop
  | nil {position : Position} {rest : List Char} : Segmented reserved position [] rest
  | cons {position : Position} {segment : Segment} {others : List Segment} {rest : List Char}
      (hgap : LongestGap segment.gap (segment.raw ++ (text others ++ rest)))
      (hpiece : Piece reserved segment.raw (text others ++ rest) segment.token.content)
      (hplace : segment.token.position = position.advanceBy segment.gap)
      (hothers : Segmented reserved (position.advanceBy segment.chars) others rest) :
      Segmented reserved position (segment :: others) rest

namespace Segmented

variable {reserved : List String} {position : Position} {segments front back : List Segment}
  {rest rest' : List Char}

theorem congr (h : Segmented reserved position segments rest) (hrest : StandsIn rest' rest) :
    Segmented reserved position segments rest' := by
  induction h with
  | nil => exact .nil
  | @cons position segment others rest hgap hpiece hplace _ ih =>
    have hpiece' := hpiece.congr (hrest.append (text others))
    have hgap' : Gap segment.gap (segment.raw ++ (text others ++ rest')) :=
      hgap.isGap.congr fun hnil => absurd (List.append_eq_nil_iff.mp hnil).1 hpiece.raw_ne_nil
    exact .cons (hpiece'.longestGap hgap') hpiece' hplace (ih hrest)

theorem append_iff : Segmented reserved position (front ++ back) rest ↔
    Segmented reserved position front (text back ++ rest) ∧
      Segmented reserved (position.advanceBy (text front)) back rest := by
  induction front generalizing position with
  | nil => exact ⟨fun h => ⟨.nil, h⟩, fun h => h.2⟩
  | cons segment others ih =>
    have hadvance : position.advanceBy (text (segment :: others)) =
        (position.advanceBy segment.chars).advanceBy (text others) := by
      rw [Segment.text_cons, Segment.chars, Position.advanceBy_append, Position.advanceBy_append,
        Position.advanceBy_append]
    have htext : text (others ++ back) ++ rest = text others ++ (text back ++ rest) := by
      rw [Segment.text_append, List.append_assoc]
    constructor
    · intro h
      rw [List.cons_append] at h
      cases h with
      | cons hgap hpiece hplace hothers =>
        obtain ⟨hfront, hback⟩ := ih.mp hothers
        rw [htext] at hgap hpiece
        exact ⟨.cons hgap hpiece hplace hfront, hadvance ▸ hback⟩
    · rintro ⟨hfront, hback⟩
      cases hfront with
      | cons hgap hpiece hplace hothers =>
        rw [← htext] at hgap hpiece
        rw [hadvance] at hback
        exact .cons hgap hpiece hplace (ih.mpr ⟨hothers, hback⟩)

end Segmented

namespace Cursor

variable {reserved : List String}

/-- Reading on after a gap is reading what follows it. -/
theorem next_of_gap {gap rest : List Char} (hgap : Gap gap rest) (position : Position) :
    (⟨gap ++ rest, position⟩ : Cursor).next reserved =
      (⟨rest, position.advanceBy gap⟩ : Cursor).next reserved := by
  simp only [next, hgap.split_append, Position.advanceBy_append]

theorem next_of_piece {gap raw rest : List Char} {content : Token.Kind × String}
    (hgap : LongestGap gap (raw ++ rest)) (hpiece : Piece reserved raw rest content)
    (position : Position) : (⟨gap ++ (raw ++ rest), position⟩ : Cursor).next reserved =
      (⟨content.1, content.2, position.advanceBy gap⟩,
        ⟨rest, position.advanceBy (gap ++ raw)⟩) := by
  obtain ⟨c, after, hraw, hscan⟩ := Lexeme.scan_of_piece hpiece
  have hsplit := longestGap_iff.mp hgap
  simp only [next, hsplit]
  rw [hraw, readAt, hscan, Position.advanceBy_append]

theorem tokens_congr {cursor cursor' : Cursor}
    (h : cursor.next reserved = cursor'.next reserved) :
    cursor.tokens reserved = cursor'.tokens reserved := by
  rw [tokens.eq_1 reserved cursor, tokens.eq_1 reserved cursor']
  simp only [h]

/-- Reading a text gives the tokens of its segments, and goes on after them. -/
theorem tokens_of_segmented {position : Position} {segments : List Segment} {rest : List Char}
    (h : Segmented reserved position segments rest) :
    (⟨text segments ++ rest, position⟩ : Cursor).tokens reserved =
      let (stream, final) :=
        (⟨rest, position.advanceBy (text segments)⟩ : Cursor).tokens reserved
      (⟨Segment.tokens segments ++ stream.body, stream.last⟩, final) := by
  induction h with
  | nil => rfl
  | @cons position segment others rest hgap hpiece hplace _ ih =>
    have hnext := next_of_piece hgap hpiece position
    have htoken : (⟨segment.token.content.1, segment.token.content.2,
        position.advanceBy segment.gap⟩ : Token) = segment.token := by
      rw [← hplace]
      rfl
    rw [htoken] at hnext
    have hplain : segment.token.isTerminal = false := hpiece.not_isTerminal
    rw [Segment.text_cons, List.append_assoc, List.append_assoc, tokens]
    simp only [hnext, hplain, dite_true]
    rw [← Segment.chars, ih, Segment.chars, ← Position.advanceBy_append, List.append_assoc]
    rfl

/-- The next token with the gap before it and what it is read from; the end of a text is read from
nothing. -/
def segment (reserved : List String) (cursor : Cursor) : Segment :=
  match Trivia.split cursor.rest with
  | (gap, []) => ⟨gap, [], (cursor.next reserved).1⟩
  | (gap, c :: rest) => ⟨gap, (Lexeme.scan reserved c rest).raw, (cursor.next reserved).1⟩

/-- The segments of all tokens before the terminal one. -/
def segments (reserved : List String) (cursor : Cursor) : List Segment :=
  if h : (cursor.next reserved).1.isTerminal = false then
    have := length_next_lt reserved cursor h
    cursor.segment reserved :: (cursor.next reserved).2.segments reserved
  else []
termination_by cursor.rest.length

theorem token_segment (reserved : List String) (cursor : Cursor) :
    (cursor.segment reserved).token = (cursor.next reserved).1 := by
  unfold segment
  split <;> rfl

theorem segment_append (reserved : List String) (cursor : Cursor) :
    (cursor.segment reserved).gap ++
      ((cursor.segment reserved).raw ++ (cursor.next reserved).2.rest) = cursor.rest := by
  have happend := Trivia.split_append cursor.rest
  unfold segment next
  split
  · next gap hsplit => simpa [hsplit, readAt] using happend
  · next gap c rest hsplit => simpa [hsplit, readAt, Lexeme.scan_append] using happend

theorem gap_segment (reserved : List String) (cursor : Cursor) :
    (cursor.segment reserved).gap = (Trivia.split cursor.rest).1 := by
  unfold segment
  split <;> simp [*]

theorem longestGap_segment (reserved : List String) (cursor : Cursor) :
    LongestGap (cursor.segment reserved).gap
      ((cursor.segment reserved).raw ++ (cursor.next reserved).2.rest) := by
  rw [longestGap_iff, segment_append, gap_segment]
  have happend := (Trivia.split_append cursor.rest).trans (segment_append reserved cursor).symm
  rw [gap_segment] at happend
  exact Prod.ext rfl (List.append_cancel_left happend)

theorem position_next (reserved : List String) (cursor : Cursor) :
    (cursor.next reserved).1.position =
        cursor.position.advanceBy (cursor.segment reserved).gap ∧
      (cursor.next reserved).2.position =
        cursor.position.advanceBy (cursor.segment reserved).chars := by
  unfold segment next
  split
  · next gap hsplit => simp [hsplit, readAt, Token.endOfInput, Segment.chars]
  · next gap c rest hsplit =>
    simp [hsplit, readAt, Segment.chars, Position.advanceBy_append]

theorem piece_segment {reserved : List String} {cursor : Cursor}
    (h : (cursor.next reserved).1.isTerminal = false) :
    Piece reserved (cursor.segment reserved).raw (cursor.next reserved).2.rest
      (cursor.next reserved).1.content := by
  revert h
  unfold segment next
  split
  · next gap hsplit =>
    intro h
    simp [hsplit, readAt, Token.endOfInput, Token.isTerminal, Token.isEndOfInput] at h
  · next gap c rest hsplit =>
    intro h
    simp only [hsplit, readAt] at h ⊢
    rcases Lexeme.fits_scan reserved c rest with hpiece | hfault
    · exact hpiece
    · rw [hfault.isTerminal] at h
      cases h

/-- The segments of a text, what is left of it after them, and the terminal token read from that. -/
theorem exists_segmented (reserved : List String) (cursor : Cursor) : ∃ left,
    cursor.rest = text (cursor.segments reserved) ++ left ∧
      Segmented reserved cursor.position (cursor.segments reserved) left ∧
        Segment.tokens (cursor.segments reserved) = (cursor.tokens reserved).1.body ∧
          (cursor.tokens reserved).1.last = ((⟨left, cursor.position.advanceBy
            (text (cursor.segments reserved))⟩ : Cursor).next reserved).1 := by
  fun_induction segments reserved cursor with
  | case1 cursor hplain _ ih =>
    obtain ⟨left, hrest, hsegmented, htokens, hlast⟩ := ih
    obtain ⟨hplace, hposition⟩ := position_next reserved cursor
    have hgap := longestGap_segment reserved cursor
    have hpiece := piece_segment hplain
    have happend := segment_append reserved cursor
    rw [hrest] at hgap hpiece happend
    rw [← token_segment] at hpiece hplace
    rw [hposition] at hsegmented hlast
    rw [tokens, dif_pos hplain]
    refine ⟨left, ?_, .cons hgap hpiece hplace hsegmented, ?_, ?_⟩
    · rw [← happend, Segment.text_cons, List.append_assoc, List.append_assoc]
    · exact congrArg₂ List.cons (token_segment reserved cursor) htokens
    · rw [Segment.text_cons, ← List.append_assoc, ← Segment.chars, Position.advanceBy_append]
      exact hlast
  | case2 cursor hterminal =>
    rw [tokens, dif_neg hterminal]
    exact ⟨cursor.rest, rfl, .nil, rfl, rfl⟩

/-- Where the end of the input is read nothing is left but a gap. -/
theorem gap_of_endOfInput {cursor : Cursor}
    (h : (cursor.next reserved).1.isEndOfInput = true) : Gap cursor.rest [] := by
  have happend := Trivia.split_append cursor.rest
  have hgap := Gap.of_split cursor.rest
  revert h
  unfold next
  cases hafter : (Trivia.split cursor.rest).2 with
  | nil =>
    rw [hafter, List.append_nil] at happend
    rw [hafter, happend] at hgap
    exact fun _ => hgap
  | cons c rest =>
    intro h
    rw [readAt, Token.isEndOfInput, beq_iff_eq] at h
    exact absurd h (Lexeme.scan_kind_ne_endOfInput reserved c rest)

end Cursor

/-- The segments of the tokens of a source text. -/
def Segment.ofSource (source : String) : List Segment :=
  (⟨source.toList, .start⟩ : Cursor).segments Keyword.reserved

namespace TokenStream

/-- A text that ends well is its segments with a gap after them. -/
theorem exists_segments {source : String} (h : (ofSource source).last.isEndOfInput = true) :
    ∃ gap, source.toList = text (Segment.ofSource source) ++ gap ∧ Gap gap [] ∧
      Segmented Keyword.reserved .start (Segment.ofSource source) gap ∧
        Segment.tokens (Segment.ofSource source) = (ofSource source).body := by
  obtain ⟨gap, hsource, hsegmented, htokens, hlast⟩ :=
    Cursor.exists_segmented Keyword.reserved ⟨source.toList, .start⟩
  rw [ofSource_eq, hlast] at h
  rw [ofSource_eq]
  exact ⟨gap, hsource, Cursor.gap_of_endOfInput h, hsegmented, htokens⟩

end TokenStream

end TagGraph
