import TagGraph.Proofs.ReaderRuns
import TagGraph.TokenValue

/-!
The content of a string literal in units: a character that is no backslash, or a backslash with the
character after it. A content falls into units in one way, and it is closed at the first delimiter
that is made of units of its own. So what the scanner takes for content is read back unit by unit,
and a backslash before every quote and every backslash lets any text be written as a literal.
-/

namespace TagGraph

namespace StringLiteral

/-- A character that stands for itself, or one that a backslash stands before. -/
inductive ContentUnit
  | plain (c : Char) (hc : c ≠ '\\')
  | escaped (c : Char)
deriving DecidableEq

namespace ContentUnit

/-- A double quote that no backslash stands before. -/
def quote : ContentUnit := .plain '"' (by decide)

def chars : ContentUnit → List Char
  | plain c _ => [c]
  | escaped c => ['\\', c]

/-- An `n`, `t` or `r` after a backslash is a newline, a tab or a carriage return. -/
def value : ContentUnit → Char
  | plain c _ => c
  | escaped 'n' => '\n'
  | escaped 't' => '\t'
  | escaped 'r' => '\r'
  | escaped c => c

/-- The content that units make up. -/
def text (units : List ContentUnit) : List Char := units.flatMap chars

/-- The unit that a character of a value is written as. -/
def ofChar (c : Char) : ContentUnit :=
  if h : c = '"' ∨ c = '\\' then .escaped c else .plain c (not_or.mp h).2

variable {units units' : List ContentUnit}

@[simp]
theorem text_nil : text [] = [] := rfl

@[simp]
theorem text_plain (c : Char) (hc : c ≠ '\\') (units : List ContentUnit) :
    text (.plain c hc :: units) = c :: text units := rfl

@[simp]
theorem text_escaped (c : Char) (units : List ContentUnit) :
    text (.escaped c :: units) = '\\' :: c :: text units := rfl

@[simp]
theorem text_append (front back : List ContentUnit) :
    text (front ++ back) = text front ++ text back := List.flatMap_append

@[simp]
theorem text_replicate_quote (count : Nat) :
    text (List.replicate count quote) = List.replicate count '"' := by
  induction count with
  | zero => rfl
  | succ count ih => rw [List.replicate_succ, quote, text_plain, ← quote, ih, List.replicate_succ]

theorem text_ne_nil (h : units ≠ []) : text units ≠ [] := by
  cases units with
  | nil => exact absurd rfl h
  | cons unit units => cases unit <;> exact List.cons_ne_nil _ _

theorem written_text (units : List ContentUnit) : Written (text units) := by
  induction units with
  | nil => exact .nil
  | cons unit units ih =>
    cases unit with
    | plain c hc => exact .plain hc ih
    | escaped c => exact .escaped ih

theorem exists_text_eq {content : List Char} (h : Written content) :
    ∃ units, text units = content := by
  induction h with
  | nil => exact ⟨[], rfl⟩
  | @plain c rest hc _ ih =>
    obtain ⟨units, rfl⟩ := ih
    exact ⟨.plain c hc :: units, rfl⟩
  | @escaped c rest _ ih =>
    obtain ⟨units, rfl⟩ := ih
    exact ⟨.escaped c :: units, rfl⟩

/-- The first character tells whether a unit is escaped, so there is one way to split a content. -/
theorem text_injective (h : text units = text units') : units = units' := by
  induction units generalizing units' with
  | nil =>
    cases units' with
    | nil => rfl
    | cons unit' units' => exact absurd h.symm (text_ne_nil (List.cons_ne_nil _ _))
  | cons unit units ih =>
    cases units' with
    | nil => exact absurd h (text_ne_nil (List.cons_ne_nil _ _))
    | cons unit' units' =>
      cases unit with
      | plain c hc =>
        cases unit' with
        | plain c' hc' =>
          obtain ⟨rfl, hothers⟩ := List.cons.inj h
          rw [ih hothers]
        | escaped c' => exact absurd (List.cons.inj h).1 hc
      | escaped c =>
        cases unit' with
        | plain c' hc' => exact absurd (List.cons.inj h).1.symm hc'
        | escaped c' =>
          obtain ⟨rfl, hothers⟩ := List.cons.inj (List.cons.inj h).2
          rw [ih hothers]

/-- Quotes at the front of a content, and after it, are quotes among its units. -/
theorem replicate_quote_prefix {count more : Nat} {others : List Char}
    (h : List.replicate count '"' <+: text units ++ others) (hle : count ≤ units.length + more) :
    List.replicate count quote <+: units ++ List.replicate more quote := by
  induction count generalizing units with
  | zero => exact List.nil_prefix
  | succ count ih =>
    cases units with
    | nil =>
      rw [List.length_nil, Nat.zero_add] at hle
      rw [List.nil_append]
      exact ⟨List.replicate (more - (count + 1)) quote, by
        rw [List.replicate_append_replicate, Nat.add_sub_cancel' hle]⟩
    | cons unit units =>
      rw [List.length_cons] at hle
      rw [List.replicate_succ] at h ⊢
      cases unit with
      | plain c hc =>
        obtain ⟨rfl, hothers⟩ := List.cons_prefix_cons.mp h
        exact List.cons_prefix_cons.mpr ⟨rfl, ih hothers (by omega)⟩
      | escaped c => exact absurd (List.cons_prefix_cons.mp h).1 (by decide)

theorem value_escaped (c : Char) : (escaped c).value = escapeValue c := by
  unfold value escapeValue
  split <;> simp_all

theorem value_ofChar (c : Char) : (ofChar c).value = c := by
  unfold ofChar
  split
  · next h => rcases h with rfl | rfl <;> rfl
  · rfl

theorem ofChar_ne_quote (c : Char) : ofChar c ≠ quote := by
  unfold ofChar
  split
  · exact nofun
  · next h =>
    intro heq
    exact h (Or.inl (plain.inj heq))

end ContentUnit

open ContentUnit (text)

def Delimiter.size (delimiter : Delimiter) : Nat := delimiter.chars.length

theorem Delimiter.chars_eq (delimiter : Delimiter) :
    delimiter.chars = List.replicate delimiter.size '"' := by
  cases delimiter <;> rfl

theorem Delimiter.size_pos (delimiter : Delimiter) : 0 < delimiter.size := by
  cases delimiter <;> decide

variable {delimiter : Delimiter} {units : List ContentUnit} {content rest : List Char}

/-- As many plain quotes as opened the literal come together nowhere in its content, nor do the last
ones of it with those of the delimiter, unless they are all of the delimiter. -/
theorem not_infix_of_closedFirst (h : ClosedFirst delimiter (text units) rest) :
    ¬List.replicate delimiter.size ContentUnit.quote <:+:
      units ++ List.replicate (delimiter.size - 1) ContentUnit.quote := by
  rintro ⟨front, back, heq⟩
  have hsizes := congrArg List.length heq
  have hpos := delimiter.size_pos
  simp only [List.length_append, List.length_replicate] at hsizes
  have hshort : front.length < units.length := by omega
  obtain ⟨more, rfl⟩ : front <+: units := by
    rw [List.append_assoc] at heq
    exact List.prefix_of_prefix_length_le ⟨_, heq⟩ (List.prefix_append units _) hshort.le
  have hmore : more ≠ [] := by
    rintro rfl
    simp at hshort
  -- The quotes close the literal where they come first, and that is too early.
  have hchars : delimiter.chars = List.replicate (delimiter.size - 1) '"' ++ ['"'] := by
    rw [delimiter.chars_eq, ← List.replicate_succ', Nat.sub_add_cancel hpos]
  have htext := congrArg text heq
  rw [ContentUnit.text_append, ContentUnit.text_append, ContentUnit.text_append (front ++ more),
    ContentUnit.text_replicate_quote, ContentUnit.text_replicate_quote,
    ← delimiter.chars_eq] at htext
  have hlength := h.first (text front) (text back ++ ('"' :: rest))
    (by rw [← List.append_assoc, htext, hchars]; simp) (ContentUnit.written_text front)
  have hlonger := List.length_pos_iff.mpr (ContentUnit.text_ne_nil hmore)
  rw [ContentUnit.text_append, List.length_append] at hlength
  omega

theorem split?_text (h : ¬List.replicate delimiter.size ContentUnit.quote <:+:
      units ++ List.replicate (delimiter.size - 1) ContentUnit.quote) (rest : List Char) :
    split? delimiter (text units ++ delimiter.chars ++ rest) = some (text units, rest) := by
  induction units with
  | nil =>
    rw [ContentUnit.text_nil, List.nil_append, split?_of_prefix (List.prefix_append _ _),
      List.drop_left]
  | cons unit units ih =>
    have hothers := ih fun hinfix => h (List.infix_cons hinfix)
    cases unit with
    | plain c hc =>
      have hopen : ¬delimiter.chars <+: c :: (text units ++ delimiter.chars ++ rest) := by
        intro hprefix
        rw [delimiter.chars_eq, List.append_assoc, ← List.cons_append] at hprefix
        refine h (ContentUnit.replicate_quote_prefix hprefix ?_).isInfix
        rw [List.length_cons]
        omega
      rw [ContentUnit.text_plain, List.cons_append, List.cons_append, split?_plain hopen hc,
        hothers]
      rfl
    | escaped c =>
      rw [ContentUnit.text_escaped, List.cons_append, List.cons_append, List.cons_append,
        List.cons_append, split?_escaped, hothers]
      rfl

/-- The content is closed where as many plain quotes as opened it come together first. -/
theorem closedFirst_text_iff : ClosedFirst delimiter (text units) rest ↔
    ¬List.replicate delimiter.size ContentUnit.quote <:+:
      units ++ List.replicate (delimiter.size - 1) ContentUnit.quote :=
  ⟨not_infix_of_closedFirst, fun h => closedFirst_iff.mpr (split?_text h rest)⟩

/-- Resolving escapes, with an ending of one's own for a backslash that nothing follows. -/
def unescapeOr (ending : List Char) : List Char → List Char
  | [] => []
  | '\\' :: escaped :: rest => escapeValue escaped :: unescapeOr ending rest
  | ['\\'] => ending
  | c :: rest => c :: unescapeOr ending rest

theorem unescapeOr_backslash (content : List Char) :
    unescapeOr ['\\'] content = unescape content := by
  fun_induction unescapeOr ['\\'] content with
  | case1 => rfl
  | case2 escaped rest ih => rw [unescape, ih]
  | case3 => rfl
  | case4 c rest hpair _ ih => rw [unescape.eq_3 _ _ hpair, ih]

/-- Of a content that falls into units that ending is never reached. -/
theorem unescapeOr_text (ending : List Char) (units : List ContentUnit) :
    unescapeOr ending (text units) = units.map ContentUnit.value := by
  induction units with
  | nil => rfl
  | cons unit units ih =>
    cases unit with
    | plain c hc =>
      have hpair : ∀ escaped rest, c = '\\' → text units = escaped :: rest → False :=
        fun _ _ hbackslash _ => hc hbackslash
      rw [ContentUnit.text_plain, unescapeOr.eq_4 _ _ _ hpair fun hbackslash _ => hc hbackslash, ih]
      rfl
    | escaped c =>
      rw [ContentUnit.text_escaped, unescapeOr, ih, List.map_cons, ContentUnit.value_escaped]

theorem unescape_text (units : List ContentUnit) :
    unescape (text units) = units.map ContentUnit.value := by
  rw [← unescapeOr_backslash, unescapeOr_text]

/-- A value as the content of a literal: a backslash comes before each quote and each backslash. -/
def escape (value : List Char) : List Char :=
  value.flatMap fun c => if c = '"' ∨ c = '\\' then ['\\', c] else [c]

/-- The literal that a value is written as. -/
def literal (delimiter : Delimiter) (value : List Char) : List Char :=
  delimiter.chars ++ escape value ++ delimiter.chars

theorem escape_eq_text (value : List Char) : escape value = text (value.map .ofChar) := by
  rw [text, List.flatMap_map]
  refine List.flatMap_congr ?_
  intro c _
  unfold ContentUnit.ofChar
  split <;> rfl

theorem unescape_escape (value : List Char) : unescape (escape value) = value := by
  rw [escape_eq_text, unescape_text, List.map_map]
  exact List.map_id'' ContentUnit.value_ofChar value

/-- No plain quote is left in an escaped value that could close the literal. -/
theorem closedFirst_escape (delimiter : Delimiter) (value rest : List Char) :
    ClosedFirst delimiter (escape value) rest := by
  rw [escape_eq_text, closedFirst_text_iff]
  intro hinfix
  have hfree : ContentUnit.quote ∉ value.map .ofChar := by
    intro hmem
    obtain ⟨c, -, hc⟩ := List.mem_map.mp hmem
    exact ContentUnit.ofChar_ne_quote c hc
  have hcount := hinfix.sublist.count_le ContentUnit.quote
  rw [List.count_append, List.count_eq_zero_of_not_mem hfree, List.count_replicate_self,
    List.count_replicate_self] at hcount
  have hpos := delimiter.size_pos
  omega

end StringLiteral

open StringLiteral

variable {delimiter : Delimiter} {content rest : List Char}

theorem OpenedBy.of_closedFirst (hclosed : ClosedFirst delimiter content rest)
    (hrest : ∀ c ∈ rest.head?, c ≠ '"') :
    OpenedBy delimiter (delimiter.chars ++ content ++ delimiter.chars ++ rest) := by
  cases delimiter with
  | triple => simp [OpenedBy, Delimiter.chars]
  | single =>
    refine ⟨fun hsame => (by cases hsame), ?_⟩
    rintro ⟨after, hafter⟩
    cases content with
    | nil =>
      obtain rfl : '"' :: after = rest := (List.cons.inj (List.cons.inj hafter).2).2
      exact absurd rfl (hrest '"' rfl)
    | cons c content =>
      exact absurd (List.cons.inj (List.cons.inj hafter).2).1.symm hclosed.head_ne_quote

namespace Reader

/-- Every value can be written as a literal, and what is read first of a text that the literal
begins is that value, with all that comes after it left. -/
theorem next_literal (words : List String) (delimiter : Delimiter) (value after : String)
    (hafter : ∀ c ∈ after.toList.head?, c ≠ '"') :
    let token : Token := ⟨.string, String.ofList (escape value.toList), .start⟩
    let reader := ofText words (String.ofList (literal delimiter value.toList ++ after.toList))
    reader.next.1 = token ∧ token.stringValue? = some value ∧
      reader.next.2.cursor = ⟨after.toList, .after (literal delimiter value.toList)⟩ := by
  intro token reader
  have hclosed := closedFirst_escape delimiter value.toList after.toList
  have hpiece : Piece (words.map Unicode.uppercase) (literal delimiter value.toList) after.toList
      token.content := .string (.of_closedFirst hclosed hafter) hclosed
  have hnext := Cursor.next_of_piece (hpiece.longestGap .nil) hpiece .start
  rw [List.nil_append, List.nil_append, Position.advanceBy_start (literal _ _)] at hnext
  have hcursor : reader.cursor = ⟨literal delimiter value.toList ++ after.toList, .start⟩ := by
    rw [← String.toList_ofList (l := literal delimiter value.toList ++ after.toList)]
    rfl
  rw [@next_of_unfinished reader rfl, hcursor]
  refine ⟨congrArg Prod.fst hnext, ?_, congrArg Prod.snd hnext⟩
  rw [Token.stringValue?, String.toList_ofList, unescape_escape, String.ofList_toList]

/-- Quotes at both ends of the value, and a backslash before the last one of them. -/
theorem next_literal_quotes :
    (∀ c ∈ "tag".toList.head?, c ≠ '"') ∧
      let reader := ofText ["tag"] "\"\"\"\\\"a\\\\\\\"\"\"\"tag"
      reader.next.1 = ⟨.string, "\\\"a\\\\\\\"", .start⟩ ∧
        reader.next.1.stringValue? = some "\"a\\\"" ∧
          reader.next.2.cursor = ⟨"tag".toList, 13, 1, 14⟩ := by
  have hafter : ∀ c ∈ "tag".toList.head?, c ≠ '"' := by
    rintro _ ⟨⟩
    decide
  have hescape : String.ofList (escape "\"a\\\"".toList) = "\\\"a\\\\\\\"" := by decide
  have htext : String.ofList (literal .triple "\"a\\\"".toList ++ "tag".toList) =
      "\"\"\"\\\"a\\\\\\\"\"\"\"tag" := by decide
  have hplace : Position.after (literal .triple "\"a\\\"".toList) = ⟨13, 1, 14⟩ := by decide
  have hread := next_literal ["tag"] .triple "\"a\\\"" "tag" hafter
  rw [hescape, htext, hplace] at hread
  obtain ⟨htoken, hvalue, hcursor⟩ := hread
  refine ⟨hafter, htoken, ?_, hcursor⟩
  rw [htoken]
  exact hvalue

/-- The text of a string token falls into units in one way. Between its delimiters no plain quotes
come together that would have closed it before, and its value is that of the units one by one. So it
makes no difference what a backslash at the end of a content would be read as. -/
theorem string_token_units (words : List String) (source : String) (calls : List Call)
    (token : Token) (hmem : token ∈ ((ofText words source).answers calls).1)
    (hkind : token.kind = .string) : ∃ delimiter before rest units,
      source.toList =
        before ++ (delimiter.chars ++ token.text.toList ++ delimiter.chars ++ rest) ∧
      token.position = .after before ∧
      OpenedBy delimiter (delimiter.chars ++ token.text.toList ++ delimiter.chars ++ rest) ∧
      (∀ units', ContentUnit.text units' = token.text.toList ↔ units' = units) ∧
      (delimiter = .single → ContentUnit.quote ∉ units) ∧
      (delimiter = .triple → ¬List.replicate 3 ContentUnit.quote <:+: units) ∧
      token.stringValue? = some (String.ofList (units.map ContentUnit.value)) ∧
      ∀ ending, unescapeOr ending token.text.toList = unescape token.text.toList := by
  obtain ⟨count, hcount⟩ := exists_answers_eq_pull (ofText words source) calls
  obtain ⟨segments, hgiven, hsegments⟩ := (HasGiven.ofText words source).pull count
  rw [hcount, hgiven] at hmem
  obtain ⟨segment, hsegment, rfl⟩ := List.mem_map.mp hmem
  obtain ⟨before, rest, hstands⟩ := hsegments.standsAt segment hsegment
  obtain ⟨delimiter, hraw, hopens, hclosed⟩ := hstands.exists_delimiter hkind
  obtain ⟨units, htext⟩ := ContentUnit.exists_text_eq hclosed.written
  rw [← htext] at hclosed
  have hopen := closedFirst_text_iff.mp hclosed
  have hsource := hstands.toList_eq
  rw [hraw] at hsource hopens
  refine ⟨delimiter, before, rest, units, hsource, hstands.position_eq, hopens, ?_, ?_, ?_, ?_, ?_⟩
  · intro units'
    rw [← htext]
    exact ⟨ContentUnit.text_injective, congrArg ContentUnit.text⟩
  · rintro rfl hquote
    obtain ⟨front, back, rfl⟩ := List.append_of_mem hquote
    exact hopen ⟨front, back, by simp [Delimiter.size, Delimiter.chars]⟩
  · rintro rfl hquotes
    exact hopen (List.infix_append_of_infix_left hquotes)
  · rw [Token.stringValue?, hkind, ← htext, unescape_text]
  · intro ending
    rw [← htext, unescapeOr_text, unescape_text]

/-- Three quotes that do not close the literal, since the first of them is escaped, and then one of
each escape. -/
theorem string_token_units_escaped_quote :
    ⟨.string, "a\\\"\"\"b\\n\\t\\r\\x\\\\", .start⟩ ∈ ((ofText []
        "\"\"\"a\\\"\"\"b\\n\\t\\r\\x\\\\\"\"\"").answers [.next]).1 ∧
      ∃ units, (∀ units', ContentUnit.text units' = "a\\\"\"\"b\\n\\t\\r\\x\\\\".toList ↔
          units' = units) ∧
        String.ofList (units.map ContentUnit.value) = "a\"\"\"b\n\t\rx\\" := by
  have hmem : ⟨.string, "a\\\"\"\"b\\n\\t\\r\\x\\\\", .start⟩ ∈ ((ofText []
      "\"\"\"a\\\"\"\"b\\n\\t\\r\\x\\\\\"\"\"").answers [.next]).1 := by decide +kernel
  obtain ⟨-, -, -, units, -, -, -, hunits, -, -, hvalue, -⟩ :=
    string_token_units [] _ [.next] _ hmem rfl
  exact ⟨hmem, units, hunits, (Option.some.inj hvalue).symm⟩

end Reader

end TagGraph
