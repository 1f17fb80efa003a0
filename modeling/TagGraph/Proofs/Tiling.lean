import TagGraph.Proofs.LexicalGrammar

/-!
The tokens of a text are its only tiling. Each scanner reads exactly the piece that the text begins
with: it takes no more than the piece, for that is as long as it can be, and no less, for what comes
next would go on with it. So a text has one first piece, and the rest of its tiling follows suit.
-/

namespace TagGraph

namespace Gap

theorem split_comment {body rest : List Char} (hbody : '\n' ∉ body) :
    Trivia.splitFrom true (body ++ '\n' :: rest) =
      (body ++ '\n' :: (Trivia.split rest).1, (Trivia.split rest).2) := by
  induction body with
  | nil => rfl
  | cons c body ih =>
    obtain ⟨hc, hbody⟩ := List.ne_and_not_mem_of_not_mem_cons hbody
    have hcomment : (c != '\n') = true := by simpa using hc.symm
    rw [List.cons_append, Trivia.splitFrom, hcomment, ih hbody]
    rfl

theorem split_lastComment {body : List Char} (hbody : '\n' ∉ body) :
    Trivia.splitFrom true body = (body, []) := by
  induction body with
  | nil => rfl
  | cons c body ih =>
    obtain ⟨hc, hbody⟩ := List.ne_and_not_mem_of_not_mem_cons hbody
    have hcomment : (c != '\n') = true := by simpa using hc.symm
    rw [Trivia.splitFrom, hcomment, ih hbody]

theorem split_number_sign (rest : List Char) : Trivia.split ('#' :: rest) =
    ('#' :: (Trivia.splitFrom true rest).1, (Trivia.splitFrom true rest).2) := rfl

theorem split_space {c : Char} (hspace : Unicode.isWhitespace c = true) (rest : List Char) :
    Trivia.split (c :: rest) = (c :: (Trivia.split rest).1, (Trivia.split rest).2) := by
  have hsign : (c == '#') = false := by
    rw [beq_eq_false_iff_ne]
    intro heq
    subst heq
    revert hspace
    decide
  simp [Trivia.split, Trivia.splitFrom, hspace, hsign]

/-- No gap at the front of a text is longer than the one that is split off. -/
theorem length_le {gap rest : List Char} (h : Gap gap rest) :
    gap.length ≤ (Trivia.split (gap ++ rest)).1.length := by
  induction h with
  | nil => exact Nat.zero_le _
  | space hspace _ ih =>
    rw [List.cons_append, split_space hspace]
    exact Nat.succ_le_succ ih
  | @comment body gap rest hbody _ ih =>
    rw [List.cons_append, List.append_assoc, List.cons_append, split_number_sign,
      split_comment hbody]
    simp only [List.length_cons, List.length_append]
    omega
  | @lastComment body hbody =>
    apply Nat.le_of_eq
    rw [List.append_nil, split_number_sign, split_lastComment hbody]

theorem of_split (text : List Char) : Gap (Trivia.split text).1 (Trivia.split text).2 := by
  induction hlength : text.length using Nat.strongRecOn generalizing text with
  | ind n ih =>
    cases text with
    | nil => exact .nil
    | cons c rest =>
      rw [List.length_cons] at hlength
      by_cases hspace : Unicode.isWhitespace c = true
      · rw [split_space hspace]
        exact .space hspace (ih rest.length (by omega) rest rfl)
      by_cases hsign : c = '#'
      · subst hsign
        rw [split_number_sign]
        by_cases hnewline : '\n' ∈ rest
        · obtain ⟨body, after, rfl, hbody⟩ := List.eq_append_cons_of_mem hnewline
          rw [split_comment hbody]
          simp only [List.length_append, List.length_cons] at hlength
          exact .comment hbody (ih after.length (by omega) after rfl)
        · rw [split_lastComment hnewline]
          exact .lastComment hnewline
      · have hstop : Trivia.split (c :: rest) = ([], c :: rest) := by
          simp [Trivia.split, Trivia.splitFrom, hspace, hsign]
        rw [hstop]
        exact .nil

end Gap

/-- The gap that is split off is the longest one, and the only one that is. -/
theorem longestGap_iff {gap rest : List Char} :
    LongestGap gap rest ↔ Trivia.split (gap ++ rest) = (gap, rest) := by
  constructor
  · intro h
    have hlength := h.longest _ _ (Trivia.split_append (gap ++ rest)) (Gap.of_split _)
    have hsame := Nat.le_antisymm h.isGap.length_le hlength
    obtain ⟨hgap, hrest⟩ := List.append_inj (Trivia.split_append (gap ++ rest)) hsame.symm
    exact Prod.ext hgap hrest
  · intro h
    have hgap := Gap.of_split (gap ++ rest)
    rw [h] at hgap
    refine ⟨hgap, ?_⟩
    intro gap' rest' heq hgap'
    have hlength := hgap'.length_le
    rw [heq, h] at hlength
    exact hlength

theorem longestGap_split (text : List Char) :
    LongestGap (Trivia.split text).1 (Trivia.split text).2 := by
  rw [longestGap_iff, Trivia.split_append]

namespace StringLiteral

theorem Delimiter.exists_chars (delimiter : Delimiter) :
    ∃ others, delimiter.chars = '"' :: others := by
  cases delimiter with
  | single => exact ⟨[], rfl⟩
  | triple => exact ⟨['"', '"'], rfl⟩

theorem split?_of_prefix {delimiter : Delimiter} {text : List Char}
    (h : delimiter.chars <+: text) :
    split? delimiter text = some ([], text.drop delimiter.chars.length) := by
  cases text with
  | nil =>
    obtain ⟨others, hchars⟩ := delimiter.exists_chars
    rw [hchars, List.prefix_nil] at h
    cases h
  | cons c rest =>
    unfold split?
    exact if_pos (List.isPrefixOf_iff_prefix.mpr h)

theorem split?_plain {delimiter : Delimiter} {c : Char} {rest : List Char}
    (h : ¬delimiter.chars <+: c :: rest) (hc : c ≠ '\\') : split? delimiter (c :: rest) =
      (split? delimiter rest).map fun (content, after) => (c :: content, after) := by
  have hopen : ¬delimiter.chars.isPrefixOf (c :: rest) = true :=
    fun hclose => h (List.isPrefixOf_iff_prefix.mp hclose)
  rw [split?.eq_def]
  simp only [if_neg hopen, if_neg hc]

theorem split?_escaped (delimiter : Delimiter) (c : Char) (rest : List Char) :
    split? delimiter ('\\' :: c :: rest) =
      (split? delimiter rest).map fun (content, after) => ('\\' :: c :: content, after) := by
  have hopen : ¬delimiter.chars.isPrefixOf ('\\' :: c :: rest) = true := by
    obtain ⟨others, hchars⟩ := delimiter.exists_chars
    simp [hchars]
  rw [split?, if_neg hopen, if_pos rfl]

/-- A delimiter that is not escaped closes the string, there or before. -/
theorem exists_split? {delimiter : Delimiter} {front : List Char} (hfront : Written front)
    (back : List Char) : ∃ content after,
      split? delimiter (front ++ delimiter.chars ++ back) = some (content, after) ∧
        content.length ≤ front.length := by
  induction hfront with
  | nil => exact ⟨_, _, split?_of_prefix ⟨back, rfl⟩, Nat.zero_le _⟩
  | @plain c rest hc hrest ih =>
    by_cases hclose : delimiter.chars <+: c :: (rest ++ delimiter.chars ++ back)
    · exact ⟨_, _, split?_of_prefix hclose, Nat.zero_le _⟩
    · obtain ⟨content, after, hsplit, hlength⟩ := ih
      refine ⟨c :: content, after, ?_, Nat.succ_le_succ hlength⟩
      rw [List.cons_append, List.cons_append, split?_plain hclose hc, hsplit]
      rfl
  | @escaped c rest hrest ih =>
    obtain ⟨content, after, hsplit, hlength⟩ := ih
    refine ⟨'\\' :: c :: content, after, ?_, Nat.succ_le_succ (Nat.succ_le_succ hlength)⟩
    rw [List.cons_append, List.cons_append, List.cons_append, List.cons_append, split?_escaped,
      hsplit]
    rfl

theorem written_of_split? {delimiter : Delimiter} {text content after : List Char}
    (h : split? delimiter text = some (content, after)) : Written content := by
  fun_induction split? delimiter text generalizing content after with
  | case1 => cases h
  | case2 c rest hclose =>
    obtain ⟨rfl, -⟩ := Prod.mk.inj (Option.some.inj h)
    exact .nil
  | case3 => cases h
  | case4 escaped tail _ ih =>
    obtain ⟨⟨front, back⟩, hsplit, heq⟩ := Option.map_eq_some_iff.mp h
    obtain ⟨rfl, -⟩ := Prod.mk.inj heq
    exact .escaped (ih hsplit)
  | case5 c rest _ hc ih =>
    obtain ⟨⟨front, back⟩, hsplit, heq⟩ := Option.map_eq_some_iff.mp h
    obtain ⟨rfl, -⟩ := Prod.mk.inj heq
    exact .plain hc (ih hsplit)

theorem closedFirst_iff {delimiter : Delimiter} {content after : List Char} :
    ClosedFirst delimiter content after ↔
      split? delimiter (content ++ delimiter.chars ++ after) = some (content, after) := by
  constructor
  · intro h
    obtain ⟨content', after', hsplit, hlength⟩ := @exists_split? delimiter _ h.written after
    have happend := append_of_split? hsplit
    have hfirst := h.first content' after' happend (written_of_split? hsplit)
    have hsame := Nat.le_antisymm hlength hfirst
    rw [List.append_assoc, List.append_assoc] at happend
    obtain ⟨rfl, hrest⟩ := List.append_inj happend hsame
    obtain rfl := List.append_cancel_left hrest
    exact hsplit
  · intro h
    refine ⟨written_of_split? h, ?_⟩
    intro front back heq hfront
    obtain ⟨content', after', hsplit, hlength⟩ := exists_split? hfront back
    rw [heq, h] at hsplit
    obtain ⟨rfl, -⟩ := Prod.mk.inj (Option.some.inj hsplit)
    exact hlength

theorem split?_eq_none_iff {delimiter : Delimiter} {text : List Char} :
    split? delimiter text = none ↔
      ∀ front back, front ++ delimiter.chars ++ back = text → ¬Written front := by
  constructor
  · intro h front back heq hfront
    obtain ⟨content, after, hsplit, -⟩ := @exists_split? delimiter _ hfront back
    rw [heq, h] at hsplit
    cases hsplit
  · intro h
    cases hsplit : split? delimiter text with
    | none => rfl
    | some parts =>
      exact absurd (written_of_split? hsplit) (h parts.1 parts.2 (append_of_split? hsplit))

end StringLiteral

/-- A run of characters of one sort ends where a character of another sort comes. -/
theorem takeWhile_append_eq {p : Char → Bool} {raw rest : List Char}
    (hraw : ∀ c ∈ raw, p c = true) (hrest : ∀ c ∈ rest.head?, p c = false) :
    (raw ++ rest).takeWhile p = raw ∧ (raw ++ rest).dropWhile p = rest := by
  rw [List.takeWhile_append_of_pos hraw, List.dropWhile_append_of_pos hraw]
  cases rest with
  | nil => simp
  | cons c rest =>
    have hc : p c = false := hrest c rfl
    simp [hc]

theorem head_dropWhile {p : Char → Bool} {text : List Char} :
    ∀ c ∈ (text.dropWhile p).head?, p c = false := by
  intro c hmem
  have hhead := List.head?_dropWhile_not p text
  rw [Option.mem_def.mp hmem] at hhead
  simpa using hhead

namespace Lexeme

theorem number_eq {digits rest : List Char} (hdigits : ∀ c ∈ digits, c.isDigit = true)
    (hrest : ∀ c ∈ rest.head?, c.isDigit = false) :
    number (digits ++ rest) = numberEnding digits rest := by
  obtain ⟨htake, hdrop⟩ := takeWhile_append_eq hdigits hrest
  rw [number, htake, hdrop]

theorem word_eq (reserved : List String) {raw rest : List Char}
    (hraw : ∀ c ∈ raw, Identifier.isPart c = true)
    (hrest : ∀ c ∈ rest.head?, Identifier.isPart c = false) :
    word reserved (raw ++ rest) = named reserved raw rest := by
  obtain ⟨htake, hdrop⟩ := takeWhile_append_eq hraw hrest
  rw [word, htake, hdrop]

theorem named_of_free {reserved : List String} {raw : List Char}
    (h : Unicode.uppercase (String.ofList raw) ∉ reserved) (rest : List Char) :
    named reserved raw rest = verbatim .identifier raw rest :=
  if_neg fun hmem => h (List.contains_iff_mem.mp hmem)

theorem named_of_reserved {reserved : List String} {raw : List Char}
    (h : Unicode.uppercase (String.ofList raw) ∈ reserved) (rest : List Char) :
    named reserved raw rest = ⟨.keyword, Unicode.uppercase (String.ofList raw), raw, rest⟩ :=
  if_pos (List.contains_iff_mem.mpr h)

theorem numberEnding_of_not_isStart {digits rest : List Char}
    (h : ∀ c ∈ rest.head?, Identifier.isStart c = false) :
    numberEnding digits rest = verbatim .integer digits rest := by
  cases rest with
  | nil => rfl
  | cons c rest =>
    have hc : Identifier.isStart c = false := h c rfl
    simp [numberEnding, hc]

theorem isDigit_eq_false_of_isStart {c : Char} (h : Identifier.isStart c = true) :
    c.isDigit = false := by
  cases hdigit : c.isDigit with
  | false => rfl
  | true => simp [Identifier.not_isStart_of_isDigit hdigit] at h

theorem scan_digit (reserved : List String) {c : Char} (h : c.isDigit = true) (rest : List Char) :
    scan reserved c rest = number (c :: rest) := by
  simp [scan, h]

theorem scan_start (reserved : List String) {c : Char} (h : Identifier.isStart c = true)
    (rest : List Char) : scan reserved c rest = word reserved (c :: rest) := by
  simp [scan, h, isDigit_eq_false_of_isStart h]

theorem scan_quote (reserved : List String) (rest : List Char) :
    scan reserved '"' rest = quoted rest := by
  have hdigit : ('"' : Char).isDigit = false := by decide
  have hstart : Identifier.isStart '"' = false := by decide
  simp [scan, hdigit, hstart]

/-- An operator neither is a digit or a quote nor starts a name, and begins no gap. -/
theorem operator_apart {c : Char} (h : c ∈ operators) : c.isDigit = false ∧
    Identifier.isStart c = false ∧ c ≠ '"' ∧ Unicode.isWhitespace c = false ∧ c ≠ '#' := by
  have hall : operators.all (fun c => decide (c.isDigit = false ∧ Identifier.isStart c = false ∧
      c ≠ '"' ∧ Unicode.isWhitespace c = false ∧ c ≠ '#')) = true := by decide
  exact of_decide_eq_true (List.all_eq_true.mp hall c h)

theorem scan_operator (reserved : List String) {c : Char} (h : c ∈ operators) (rest : List Char) :
    scan reserved c rest = verbatim .operator [c] rest := by
  obtain ⟨hdigit, hstart, hquote, -⟩ := operator_apart h
  simp [scan, hdigit, hstart, hquote, h]

theorem scan_unexpected (reserved : List String) {c : Char} (hdigit : c.isDigit = false)
    (hstart : Identifier.isStart c = false) (hquote : c ≠ '"') (hoperator : c ∉ operators)
    (rest : List Char) : scan reserved c rest = faulty (.unexpected c) [c] rest := by
  simp [scan, hdigit, hstart, hquote, hoperator]

theorem quoted_of_openedBy {delimiter : StringLiteral.Delimiter} {inner : List Char}
    (h : OpenedBy delimiter (delimiter.chars ++ inner)) :
    ∃ text, delimiter.chars ++ inner = '"' :: text ∧ quoted text = delimited delimiter inner := by
  cases delimiter with
  | single =>
    refine ⟨inner, rfl, ?_⟩
    have hopening : StringLiteral.Delimiter.opening inner = .single := by
      unfold StringLiteral.Delimiter.opening
      split
      · exact absurd (h.mpr (by simp [StringLiteral.Delimiter.chars])) (by decide)
      · rfl
    rw [quoted, hopening]
  | triple => exact ⟨'"' :: '"' :: inner, rfl, rfl⟩

theorem exists_openedBy (text : List Char) : ∃ delimiter inner,
    '"' :: text = delimiter.chars ++ inner ∧ OpenedBy delimiter (delimiter.chars ++ inner) ∧
      quoted text = delimited delimiter inner := by
  cases hopening : StringLiteral.Delimiter.opening text with
  | triple =>
    unfold StringLiteral.Delimiter.opening at hopening
    split at hopening
    · exact ⟨.triple, _, rfl, by simp [OpenedBy, StringLiteral.Delimiter.chars], rfl⟩
    · cases hopening
  | single =>
    refine ⟨.single, text, rfl, ?_, by rw [quoted, hopening]⟩
    constructor
    · intro h
      cases h
    · intro h
      obtain ⟨others, hothers⟩ := h
      obtain rfl := (List.cons.inj hothers).2
      cases hopening

/-- The piece at the front of a text is what scanning it gives. -/
theorem scan_of_piece {reserved : List String} {raw rest : List Char}
    {content : Token.Kind × String} (h : Piece reserved raw rest content) :
    ∃ c after, raw ++ rest = c :: after ∧
      scan reserved c after = ⟨content.1, content.2, raw, rest⟩ := by
  cases h with
  | integer hsome hdigits hnext =>
    obtain ⟨c, others, rfl⟩ := List.exists_cons_of_ne_nil hsome
    refine ⟨c, others ++ rest, rfl, ?_⟩
    rw [scan_digit reserved (hdigits c List.mem_cons_self), ← List.cons_append,
      number_eq hdigits fun d hd => (hnext d hd).1,
      numberEnding_of_not_isStart fun d hd => (hnext d hd).2]
    rfl
  | @identifier c others _ hstart hothers hnext hfree =>
    refine ⟨c, others ++ rest, rfl, ?_⟩
    have hall : ∀ d ∈ c :: others, Identifier.isPart d = true :=
      List.forall_mem_cons.mpr ⟨Identifier.isPart_of_isStart hstart, hothers⟩
    rw [scan_start reserved hstart, ← List.cons_append, word_eq reserved hall hnext,
      named_of_free hfree]
    rfl
  | @keyword c others _ hstart hothers hnext hreserved =>
    refine ⟨c, others ++ rest, rfl, ?_⟩
    have hall : ∀ d ∈ c :: others, Identifier.isPart d = true :=
      List.forall_mem_cons.mpr ⟨Identifier.isPart_of_isStart hstart, hothers⟩
    rw [scan_start reserved hstart, ← List.cons_append, word_eq reserved hall hnext,
      named_of_reserved hreserved]
  | @string delimiter inside _ hopens hclosed =>
    rw [List.append_assoc, List.append_assoc] at hopens
    obtain ⟨text, htext, hquoted⟩ := quoted_of_openedBy hopens
    refine ⟨'"', text, ?_, ?_⟩
    · rw [← htext, List.append_assoc, List.append_assoc]
    · rw [scan_quote, hquoted, delimited, ← List.append_assoc,
        StringLiteral.closedFirst_iff.mp hclosed]
  | operator hoperator => exact ⟨_, rest, rfl, scan_operator reserved hoperator rest⟩

theorem scan_of_faultyPiece (reserved : List String) {raw rest : List Char}
    {content : Token.Kind × String} (h : FaultyPiece raw rest content) :
    ∃ c after, raw ++ rest = c :: after ∧
      scan reserved c after = ⟨content.1, content.2, raw, rest⟩ := by
  cases h with
  | @number digits _ d hsome hdigits hstart =>
    obtain ⟨c, others, rfl⟩ := List.exists_cons_of_ne_nil hsome
    refine ⟨c, others ++ d :: rest, by simp, ?_⟩
    rw [scan_digit reserved (hdigits c List.mem_cons_self), ← List.cons_append,
      number_eq hdigits (by simp [isDigit_eq_false_of_isStart hstart]), numberEnding, if_pos hstart]
    rfl
  | string hopens hopen =>
    obtain ⟨text, htext, hquoted⟩ := quoted_of_openedBy hopens
    refine ⟨'"', text, by rw [List.append_nil, htext], ?_⟩
    rw [scan_quote, hquoted, delimited, StringLiteral.split?_eq_none_iff.mpr hopen]
    rfl
  | unexpected hdigit hstart hquote hoperator =>
    exact ⟨_, rest, rfl, scan_unexpected reserved hdigit hstart hquote hoperator rest⟩

/-- A lexeme that is a piece of the text, or else a faulty one. -/
def Fits (reserved : List String) (lexeme : Lexeme) : Prop :=
  Piece reserved lexeme.raw lexeme.rest (lexeme.kind, lexeme.text) ∨
    FaultyPiece lexeme.raw lexeme.rest (lexeme.kind, lexeme.text)

theorem fits_number (reserved : List String) {c : Char} (h : c.isDigit = true)
    (rest : List Char) : Fits reserved (number (c :: rest)) := by
  have hsome : (c :: rest).takeWhile Char.isDigit ≠ [] := by simp [h]
  have hdigits : ∀ d ∈ (c :: rest).takeWhile Char.isDigit, d.isDigit = true :=
    List.all_eq_true.mp List.all_takeWhile
  have hnext : ∀ d ∈ ((c :: rest).dropWhile Char.isDigit).head?, d.isDigit = false := head_dropWhile
  rw [number]
  generalize (c :: rest).takeWhile Char.isDigit = digits at hsome hdigits
  generalize (c :: rest).dropWhile Char.isDigit = after at hnext
  cases after with
  | nil => exact Or.inl (.integer hsome hdigits nofun)
  | cons d after =>
    by_cases hstart : Identifier.isStart d = true
    · rw [numberEnding, if_pos hstart]
      exact Or.inr (.number hsome hdigits hstart)
    · rw [numberEnding, if_neg hstart]
      rw [Bool.not_eq_true] at hstart
      refine Or.inl (.integer hsome hdigits ?_)
      intro e hmem
      obtain rfl : d = e := Option.some.inj hmem
      exact ⟨hnext d rfl, hstart⟩

theorem fits_word (reserved : List String) {c : Char} (h : Identifier.isStart c = true)
    (rest : List Char) : Fits reserved (word reserved (c :: rest)) := by
  have hraw : (c :: rest).takeWhile Identifier.isPart =
      c :: rest.takeWhile Identifier.isPart := by simp [Identifier.isPart_of_isStart h]
  have hothers : ∀ d ∈ rest.takeWhile Identifier.isPart, Identifier.isPart d = true :=
    List.all_eq_true.mp List.all_takeWhile
  have hnext : ∀ d ∈ ((c :: rest).dropWhile Identifier.isPart).head?,
      Identifier.isPart d = false := head_dropWhile
  rw [word, hraw]
  by_cases hreserved :
      Unicode.uppercase (String.ofList (c :: rest.takeWhile Identifier.isPart)) ∈ reserved
  · rw [named_of_reserved hreserved]
    exact Or.inl (.keyword h hothers hnext hreserved)
  · rw [named_of_free hreserved]
    exact Or.inl (.identifier h hothers hnext hreserved)

theorem fits_delimited (reserved : List String) {delimiter : StringLiteral.Delimiter}
    {inner : List Char} (h : OpenedBy delimiter (delimiter.chars ++ inner)) :
    Fits reserved (delimited delimiter inner) := by
  unfold delimited
  cases hsplit : StringLiteral.split? delimiter inner with
  | none => exact Or.inr (.string h (StringLiteral.split?_eq_none_iff.mp hsplit))
  | some parts =>
    obtain ⟨content, after⟩ := parts
    rw [← StringLiteral.append_of_split? hsplit] at h hsplit
    refine Or.inl (.string ?_ (StringLiteral.closedFirst_iff.mpr hsplit))
    rw [List.append_assoc, List.append_assoc, ← List.append_assoc content]
    exact h

/-- Scanning a text reads the piece that it begins with, be that a token or a fault. -/
theorem fits_scan (reserved : List String) (c : Char) (rest : List Char) :
    Fits reserved (scan reserved c rest) := by
  by_cases hdigit : c.isDigit = true
  · rw [scan_digit reserved hdigit]
    exact fits_number reserved hdigit rest
  by_cases hstart : Identifier.isStart c = true
  · rw [scan_start reserved hstart]
    exact fits_word reserved hstart rest
  by_cases hquote : c = '"'
  · obtain ⟨delimiter, inner, -, hopened, hquoted⟩ := exists_openedBy rest
    rw [hquote, scan_quote, hquoted]
    exact fits_delimited reserved hopened
  by_cases hoperator : c ∈ operators
  · rw [scan_operator reserved hoperator]
    exact Or.inl (.operator hoperator)
  · rw [Bool.not_eq_true] at hdigit hstart
    rw [scan_unexpected reserved hdigit hstart hquote hoperator]
    exact Or.inr (.unexpected hdigit hstart hquote hoperator)

end Lexeme

theorem Piece.not_isTerminal {reserved : List String} {raw rest : List Char} {token : Token}
    (h : Piece reserved raw rest token.content) : token.isTerminal = false := by
  obtain ⟨kind, text, position⟩ := token
  cases h <;> rfl

theorem FaultyPiece.isTerminal {raw rest : List Char} {token : Token}
    (h : FaultyPiece raw rest token.content) : token.isTerminal = true := by
  obtain ⟨kind, text, position⟩ := token
  cases h <;> rfl

namespace Cursor

theorem toList_of_isTerminal {reserved : List String} {cursor : Cursor}
    (h : (cursor.next reserved).1.isTerminal = true) :
    (cursor.tokens reserved).1.toList = [(cursor.next reserved).1] := by
  rw [tokens, dif_neg (by simp [h])]
  rfl

theorem toList_of_not_isTerminal {reserved : List String} {cursor : Cursor}
    (h : (cursor.next reserved).1.isTerminal = false) :
    (cursor.tokens reserved).1.toList =
      (cursor.next reserved).1 :: ((cursor.next reserved).2.tokens reserved).1.toList := by
  rw [tokens, dif_pos h]
  rfl

theorem next_of_nil {gap : List Char} (hgap : LongestGap gap []) (reserved : List String)
    (position : Position) :
    ∃ start, ((⟨gap, position⟩ : Cursor).next reserved).1 = Token.endOfInput start := by
  have hsplit := longestGap_iff.mp hgap
  rw [List.append_nil] at hsplit
  simp only [next, hsplit]
  exact ⟨_, rfl⟩

theorem next_of_scan {reserved : List String} {gap raw rest after : List Char} {c : Char}
    {content : Token.Kind × String} (hgap : LongestGap gap (raw ++ rest))
    (hraw : raw ++ rest = c :: after)
    (hscan : Lexeme.scan reserved c after = ⟨content.1, content.2, raw, rest⟩)
    (position : Position) :
    ((⟨gap ++ (raw ++ rest), position⟩ : Cursor).next reserved).1.content = content ∧
      ∃ left, ((⟨gap ++ (raw ++ rest), position⟩ : Cursor).next reserved).2 = ⟨rest, left⟩ := by
  have hsplit := longestGap_iff.mp hgap
  simp only [next, hsplit]
  rw [hraw, readAt, hscan]
  exact ⟨rfl, _, rfl⟩

/-- Where a text is tiled, reading it gives the pieces of the tiling. -/
theorem contents_of_tiling {reserved : List String} {text : List Char}
    {contents : List (Token.Kind × String)} (h : Tiling reserved text contents)
    (position : Position) :
    ((⟨text, position⟩ : Cursor).tokens reserved).1.toList.map Token.content = contents := by
  induction h generalizing position with
  | done hgap =>
    obtain ⟨start, hnext⟩ := next_of_nil hgap reserved position
    rw [toList_of_isTerminal (hnext ▸ rfl), hnext]
    rfl
  | fault hgap hfault =>
    obtain ⟨c, after, hraw, hscan⟩ := Lexeme.scan_of_faultyPiece reserved hfault
    have hnext := (next_of_scan hgap hraw hscan position).1
    rw [toList_of_isTerminal (FaultyPiece.isTerminal (hnext ▸ hfault)), List.map_cons, hnext]
    rfl
  | token hgap hpiece _ ih =>
    obtain ⟨c, after, hraw, hscan⟩ := Lexeme.scan_of_piece hpiece
    obtain ⟨hnext, left, hrest⟩ := next_of_scan hgap hraw hscan position
    rw [toList_of_not_isTerminal (Piece.not_isTerminal (hnext ▸ hpiece)), List.map_cons, hnext,
      hrest, ih left]

/-- Every text has a tiling. -/
theorem exists_tiling (reserved : List String) (text : List Char) :
    ∃ contents, Tiling reserved text contents := by
  induction hlength : text.length using Nat.strongRecOn generalizing text with
  | ind n ih =>
    have hgap := longestGap_split text
    have happend := Trivia.split_append text
    generalize Trivia.split text = parts at hgap happend
    obtain ⟨gap, left⟩ := parts
    subst happend
    cases left with
    | nil =>
      rw [List.append_nil]
      exact ⟨_, .done hgap⟩
    | cons c after =>
      have hraw := Lexeme.scan_append reserved c after
      have hshorter := Lexeme.length_scan_rest_lt reserved c after
      simp only [List.length_append] at hlength
      rw [← hraw] at hgap ⊢
      rcases Lexeme.fits_scan reserved c after with hpiece | hfault
      · obtain ⟨others, hothers⟩ := ih _ (by omega) (Lexeme.scan reserved c after).rest rfl
        exact ⟨_, .token hgap hpiece hothers⟩
      · exact ⟨_, .fault hgap hfault⟩

end Cursor

/-- The tokens of a text are its one and only tiling. -/
theorem tiling_iff_eq_contents (words : List String) (source : String)
    (contents : List (Token.Kind × String)) :
    Tiling (words.map Unicode.uppercase) source.toList contents ↔
      contents = (TokenStream.ofText words source).toList.map Token.content := by
  constructor
  · intro h
    exact (Cursor.contents_of_tiling h .start).symm
  · intro h
    obtain ⟨contents', htiling⟩ := Cursor.exists_tiling (words.map Unicode.uppercase) source.toList
    have hcontents := Cursor.contents_of_tiling htiling .start
    rw [h]
    exact hcontents ▸ htiling

end TagGraph
