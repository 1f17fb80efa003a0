import TagGraph.Proofs.ProgramRecognition
import TagGraph.Proofs.Tiling

/-!
Tokens and the text that they are written as. Writable tokens with a space before each are read back
as those tokens. The other way round, what is read as a keyword, an operator or a name is writable,
so of a text that was read a part can be written again and be continued.
-/

namespace TagGraph

open TagGraph.Parser

namespace Unicode

theorem CodeRange.covers_eq_false_of_apart {left right : List CodeRange} {code : Nat}
    (h : ∀ space ∈ left, ∀ range ∈ right, range.last < space.first ∨ space.last < range.first)
    (hleft : covers left code = true) : covers right code = false := by
  cases hright : covers right code with
  | false => rfl
  | true =>
    obtain ⟨space, hmem, hfirst, hlast⟩ := covers_eq_true_iff.mp hleft
    obtain ⟨range, hmem', hfirst', hlast'⟩ := covers_eq_true_iff.mp hright
    have hapart := h space hmem range hmem'
    omega

theorem letters_apart_from_spaces : ∀ space ∈ whitespaceRanges, ∀ letters ∈ alphabeticRanges,
    letters.last < space.first ∨ space.last < letters.first := by
  decide +kernel

theorem numerals_apart_from_spaces : ∀ space ∈ whitespaceRanges, ∀ numerals ∈ numericRanges,
    numerals.last < space.first ∨ space.last < numerals.first := by
  decide +kernel

theorem ascii_alphanumeric_apart_from_spaces : ∀ code < 0x80,
    isWhitespace (Char.ofNat code) = true → (Char.ofNat code).isAlphanum = false := by
  decide

/-- Whitespace is neither alphabetic nor numeric. -/
theorem not_alphanumeric_of_isWhitespace {c : Char} (h : isWhitespace c = true) :
    isAlphabetic c = false ∧ isNumeric c = false := by
  unfold isAlphabetic isNumeric
  split
  · next hascii =>
    have hapart := ascii_alphanumeric_apart_from_spaces c.toNat hascii
    rw [Char.ofNat_toNat] at hapart
    simpa [Char.isAlphanum] using hapart h
  · exact ⟨CodeRange.covers_eq_false_of_apart letters_apart_from_spaces h,
      CodeRange.covers_eq_false_of_apart numerals_apart_from_spaces h⟩

theorem isWhitespace_eq_false_of_isAlphabetic {c : Char} (h : isAlphabetic c = true) :
    isWhitespace c = false := by
  cases hspace : isWhitespace c with
  | false => rfl
  | true => simp [(not_alphanumeric_of_isWhitespace hspace).1] at h

end Unicode

theorem Identifier.not_gap_of_isStart {c : Char} (h : isStart c = true) :
    Unicode.isWhitespace c = false ∧ c ≠ '#' := by
  constructor
  · simp only [isStart, Bool.or_eq_true, beq_iff_eq] at h
    rcases h with h | rfl
    · exact Unicode.isWhitespace_eq_false_of_isAlphabetic h
    · decide
  · intro heq
    subst heq
    revert h
    decide

theorem Keyword.text_shape (word : Keyword) : ∃ c others, word.text.toList = c :: others ∧
    Identifier.isStart c = true ∧ ∀ d ∈ others, Identifier.isPart d = true := by
  cases word <;> exact ⟨_, _, rfl, by decide, List.all_eq_true.mp (by decide)⟩

theorem Keyword.uppercase_text (word : Keyword) : Unicode.uppercase word.text = word.text := by
  cases word <;> decide

theorem Keyword.text_mem_reserved (word : Keyword) : word.text ∈ reserved :=
  List.mem_map_of_mem (mem_all word)

theorem Keyword.reserved_uppercase : reserved.map Unicode.uppercase = reserved := by
  rw [reserved, List.map_map]
  exact List.map_congr_left fun word _ => uppercase_text word

/-- A single space is all of a gap before a character that begins no gap. -/
theorem longestGap_space {c : Char} (rest : List Char) (hspace : Unicode.isWhitespace c = false)
    (hsign : c ≠ '#') : LongestGap [' '] (c :: rest) := by
  have hblank : Unicode.isWhitespace ' ' = true := by decide
  rw [longestGap_iff, List.singleton_append, Gap.split_space hblank]
  simp [Trivia.split, Trivia.splitFrom, hspace, hsign]

theorem TokenStream.ofSource_eq (source : String) : ofSource source =
    ((⟨source.toList, .start⟩ : Cursor).tokens Keyword.reserved).1 := by
  rw [ofSource, ofText, Keyword.reserved_uppercase, Cursor.ofText]

/-- What tiles a text is what is read of it. -/
theorem TokenStream.sameContents_of_tiling {source : String} {tokens : List Token}
    (h : Tiling Keyword.reserved source.toList
      (tokens.map Token.content ++ [(.endOfInput, "")])) :
    SameContents (ofSource source).body tokens ∧ (ofSource source).last.isEndOfInput = true := by
  have hcontents := Cursor.contents_of_tiling h .start
  rw [← ofSource_eq, toList, List.map_append, List.map_singleton] at hcontents
  obtain ⟨hbody, hlast⟩ := List.append_inj' hcontents rfl
  refine ⟨hbody, ?_⟩
  have hkind : (ofSource source).last.kind = .endOfInput :=
    congrArg Prod.fst (List.cons.inj hlast).1
  rw [Token.isEndOfInput, hkind]
  rfl

namespace Token

/-- A text in which a space stands before each token. -/
def write (tokens : List Token) : List Char :=
  tokens.flatMap fun token => ' ' :: token.text.toList

theorem write_cons (token : Token) (rest : List Token) :
    write (token :: rest) = ' ' :: (token.text.toList ++ write rest) := by
  simp [write]

/-- What is written after a token neither is a digit nor goes on with a name. -/
theorem head_write (tokens : List Token) : ∀ c ∈ (write tokens).head?, c = ' ' := by
  cases tokens with
  | nil => simp [write]
  | cons token rest => simp [write_cons]

/-- A writable token is the piece of text that it is written as, before a space or the end. -/
theorem Writable.piece {token : Token} (h : token.Writable) {rest : List Char}
    (hrest : ∀ c ∈ rest.head?, c = ' ') : ∃ c others, token.text.toList = c :: others ∧
      Unicode.isWhitespace c = false ∧ c ≠ '#' ∧
        Piece Keyword.reserved (c :: others) rest token.content := by
  have hnext : ∀ c ∈ rest.head?, Identifier.isPart c = false := by
    intro c hmem
    rw [hrest c hmem]
    decide
  obtain ⟨kind, text, position⟩ := token
  cases h with
  | keyword word hword =>
    obtain ⟨rfl, rfl⟩ := isKeyword_iff.mp hword
    obtain ⟨c, others, htext, hstart, hothers⟩ := word.text_shape
    obtain ⟨hspace, hsign⟩ := Identifier.not_gap_of_isStart hstart
    refine ⟨c, others, htext, hspace, hsign, ?_⟩
    have hword : String.ofList (c :: others) = word.text := by rw [← htext, String.ofList_toList]
    have hpiece := @Piece.keyword Keyword.reserved _ _ _ hstart hothers hnext
      (by rw [hword, word.uppercase_text]; exact word.text_mem_reserved)
    rw [hword, word.uppercase_text] at hpiece
    exact hpiece
  | @operator symbol hsymbol hoperator =>
    obtain ⟨rfl, rfl, -⟩ := isOperator_iff.mp hoperator
    have htext : symbol.toString = String.ofList [symbol] := String.singleton_eq_ofList
    obtain ⟨-, -, -, hspace, hsign⟩ := Lexeme.operator_apart hsymbol
    rw [htext]
    exact ⟨symbol, [], String.toList_ofList, hspace, hsign, .operator hsymbol⟩
  | name hkind hname =>
    obtain rfl : kind = .identifier := hkind
    obtain ⟨⟨c, others, htext, hstart, hothers⟩, hfree⟩ := hname
    obtain ⟨hspace, hsign⟩ := Identifier.not_gap_of_isStart hstart
    refine ⟨c, others, htext, hspace, hsign, ?_⟩
    have hword : String.ofList (c :: others) = text := by rw [← htext, String.ofList_toList]
    have hpiece := @Piece.identifier Keyword.reserved _ _ _ hstart hothers hnext
      (by rw [hword]; exact hfree)
    rw [hword] at hpiece
    exact hpiece

/-- Writable tokens tile the text that they are written as. -/
theorem tiling_write {tokens : List Token} (h : ∀ token ∈ tokens, token.Writable) :
    Tiling Keyword.reserved (write tokens) (tokens.map content ++ [(.endOfInput, "")]) := by
  induction tokens with
  | nil => exact .done (longestGap_iff.mpr rfl)
  | cons token rest ih =>
    obtain ⟨htoken, hrest⟩ := List.forall_mem_cons.mp h
    obtain ⟨c, others, htext, hspace, hsign, hpiece⟩ := htoken.piece (head_write rest)
    rw [write_cons, htext]
    exact .token (longestGap_space _ hspace hsign) hpiece (ih hrest)

/-- What the tokens are written as is read as those tokens and nothing more. -/
theorem read_write {tokens : List Token} (h : ∀ token ∈ tokens, token.Writable) :
    SameContents (TokenStream.ofSource (String.ofList (write tokens))).body tokens ∧
      (TokenStream.ofSource (String.ofList (write tokens))).last.isEndOfInput = true := by
  apply TokenStream.sameContents_of_tiling
  rw [String.toList_ofList]
  exact tiling_write h

theorem Writable.of_piece {token : Token} {raw rest : List Char}
    (h : Piece Keyword.reserved raw rest token.content) (hinteger : token.kind ≠ .integer)
    (hstring : token.kind ≠ .string) : token.Writable := by
  obtain ⟨kind, text, position⟩ := token
  generalize hcontent : Token.content ⟨kind, text, position⟩ = pair at h
  obtain ⟨rfl, rfl⟩ := Prod.mk.inj hcontent
  cases h with
  | integer => exact absurd rfl hinteger
  | string => exact absurd rfl hstring
  | identifier hstart hothers _ hfree =>
    exact .name rfl ⟨⟨_, _, String.toList_ofList, hstart, hothers⟩, hfree⟩
  | keyword _ _ _ hreserved =>
    obtain ⟨word, -, hword⟩ := List.mem_map.mp hreserved
    exact .keyword word (isKeyword_iff.mpr ⟨rfl, hword.symm⟩)
  | @operator c _ hoperator =>
    have hsize : Lexeme.operators.all (·.utf8Size = 1) = true := by decide
    have hbyte : c.utf8Size = 1 := of_decide_eq_true (List.all_eq_true.mp hsize c hoperator)
    exact .operator hoperator (isOperator_iff.mpr ⟨rfl, String.singleton_eq_ofList.symm, hbyte⟩)

end Token

theorem Tiling.exists_piece {reserved : List String} {text : List Char}
    {contents : List (Token.Kind × String)} (h : Tiling reserved text contents) {token : Token}
    (hmem : token.content ∈ contents) (hterminal : token.isTerminal = false) :
    ∃ raw rest, Piece reserved raw rest token.content := by
  induction h with
  | done _ =>
    have hkind : token.kind = .endOfInput := congrArg Prod.fst (List.mem_singleton.mp hmem)
    simp [Token.isTerminal, Token.isEndOfInput, hkind] at hterminal
  | fault _ hfault =>
    rw [← List.mem_singleton.mp hmem] at hfault
    simp [hfault.isTerminal] at hterminal
  | token _ hpiece _ ih =>
    rcases List.mem_cons.mp hmem with hhead | hrest
    · exact ⟨_, _, hhead ▸ hpiece⟩
    · exact ih hrest

/-- Only numbers and strings of the tokens of a text are not writable. -/
theorem TokenStream.writable_of_mem_body {source : String} {token : Token}
    (hmem : token ∈ (ofSource source).body) (hinteger : token.kind ≠ .integer)
    (hstring : token.kind ≠ .string) : token.Writable := by
  have hterminal := Cursor.not_isTerminal_of_mem_body _ _ token hmem
  obtain ⟨contents, htiling⟩ := Cursor.exists_tiling Keyword.reserved source.toList
  have hcontents := Cursor.contents_of_tiling htiling .start
  have hmem' : token.content ∈ contents := by
    rw [← hcontents, ← ofSource_eq]
    exact List.mem_map_of_mem (List.mem_append_left _ hmem)
  obtain ⟨raw, rest, hpiece⟩ := htiling.exists_piece hmem' hterminal
  exact .of_piece hpiece hinteger hstring

theorem Program.run_complete {tokens : List Token} {declarations : List Declaration}
    (h : RepeatPhrase DeclarationPhrase tokens declarations) :
    parser.run tokens = (.ok declarations, []) := by
  have hrun := parser_recognizes.complete h (ends_nil _)
  rw [List.append_nil] at hrun
  exact hrun

theorem Program.run_sound {tokens : List Token} {declarations : List Declaration}
    (h : parser.run tokens = (.ok declarations, [])) :
    RepeatPhrase DeclarationPhrase tokens declarations := by
  apply parser_recognizes.sound
  rw [List.append_nil]
  exact h

theorem Program.run_of_sameContents {tokens tokens' : List Token} {declarations : List Declaration}
    (h : parser.run tokens = (.ok declarations, [])) (hsame : SameContents tokens tokens') :
    parser.run tokens' = (.ok declarations, []) := by
  have hrun := @parser_local tokens [] tokens' [] (.ok declarations) (by rw [List.append_nil, h])
    hsame rfl
  rw [List.append_nil] at hrun
  exact hrun

theorem compile_of_tiling {source : String} {tokens : List Token}
    {declarations : List Declaration}
    (h : Tiling Keyword.reserved source.toList (tokens.map Token.content ++ [(.endOfInput, "")]))
    (hread : RepeatPhrase DeclarationPhrase tokens declarations) :
    compile source = .ok (Model.ofDeclarations declarations) := by
  obtain ⟨hbody, hlast⟩ := TokenStream.sameContents_of_tiling h
  have hrun := Program.run_of_sameContents (Program.run_complete hread) hbody.symm
  exact compile_eq_ok_iff_run.mpr ⟨hlast, declarations, hrun, rfl⟩

/-- A program of writable tokens compiles when it is written down. -/
theorem compile_write {tokens : List Token} {declarations : List Declaration}
    (hwritable : ∀ token ∈ tokens, token.Writable)
    (h : RepeatPhrase DeclarationPhrase tokens declarations) :
    compile (String.ofList (Token.write tokens)) = .ok (Model.ofDeclarations declarations) := by
  refine compile_of_tiling ?_ h
  rw [String.toList_ofList]
  exact Token.tiling_write hwritable

end TagGraph
