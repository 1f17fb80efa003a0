import TagGraph.TokenStream

/-!
What it means for a list of tokens to tile a text. Gaps and pieces of text alternate, each gap as
long as it can be, and every piece is a token of its kind because of its characters and of what
comes right after it. Nothing here says how a tiling is found, or that there is only one.
-/

namespace TagGraph

/-- Whitespace and comments. A comment that no newline ends must be the last thing in the text. -/
inductive Gap : List Char → List Char → Prop
  | nil {rest : List Char} : Gap [] rest
  | space {c : Char} {gap rest : List Char} (hspace : Unicode.isWhitespace c = true)
      (hgap : Gap gap rest) : Gap (c :: gap) rest
  | comment {body gap rest : List Char} (hbody : '\n' ∉ body) (hgap : Gap gap rest) :
      Gap ('#' :: (body ++ '\n' :: gap)) rest
  | lastComment {body : List Char} (hbody : '\n' ∉ body) : Gap ('#' :: body) []

/-- A gap before the rest of a text that no longer one can take the place of. -/
structure LongestGap (gap rest : List Char) : Prop where
  isGap : Gap gap rest
  longest : ∀ gap' rest', gap' ++ rest' = gap ++ rest → Gap gap' rest' → gap'.length ≤ gap.length

/-- The inside of a string, up to a point at which no backslash waits for its character. -/
inductive Written : List Char → Prop
  | nil : Written []
  | plain {c : Char} {rest : List Char} (hc : c ≠ '\\') (hrest : Written rest) :
      Written (c :: rest)
  | escaped {c : Char} {rest : List Char} (hrest : Written rest) : Written ('\\' :: c :: rest)

/-- The content of a string ends at the first delimiter that is not escaped. -/
structure ClosedFirst (delimiter : StringLiteral.Delimiter) (content rest : List Char) : Prop where
  written : Written content
  first : ∀ front back, front ++ delimiter.chars ++ back = content ++ delimiter.chars ++ rest →
    Written front → content.length ≤ front.length

/-- A string has three quotes for its delimiter exactly when three quotes open it. -/
def OpenedBy (delimiter : StringLiteral.Delimiter) (text : List Char) : Prop :=
  delimiter = .triple ↔ ['"', '"', '"'] <+: text

/-- The raw text of a token, what follows it, and its kind and text. -/
inductive Piece (reserved : List String) : List Char → List Char → Token.Kind × String → Prop
  | integer {raw rest : List Char} (hsome : raw ≠ []) (hdigits : ∀ c ∈ raw, c.isDigit = true)
      (hnext : ∀ c ∈ rest.head?, c.isDigit = false ∧ Identifier.isStart c = false) :
      Piece reserved raw rest (.integer, String.ofList raw)
  | identifier {c : Char} {others rest : List Char} (hstart : Identifier.isStart c = true)
      (hothers : ∀ d ∈ others, Identifier.isPart d = true)
      (hnext : ∀ d ∈ rest.head?, Identifier.isPart d = false)
      (hfree : Unicode.uppercase (String.ofList (c :: others)) ∉ reserved) :
      Piece reserved (c :: others) rest (.identifier, String.ofList (c :: others))
  | keyword {c : Char} {others rest : List Char} (hstart : Identifier.isStart c = true)
      (hothers : ∀ d ∈ others, Identifier.isPart d = true)
      (hnext : ∀ d ∈ rest.head?, Identifier.isPart d = false)
      (hreserved : Unicode.uppercase (String.ofList (c :: others)) ∈ reserved) :
      Piece reserved (c :: others) rest (.keyword, Unicode.uppercase (String.ofList (c :: others)))
  | string {delimiter : StringLiteral.Delimiter} {content rest : List Char}
      (hopens : OpenedBy delimiter (delimiter.chars ++ content ++ delimiter.chars ++ rest))
      (hclosed : ClosedFirst delimiter content rest) :
      Piece reserved (delimiter.chars ++ content ++ delimiter.chars) rest
        (.string, String.ofList content)
  | operator {c : Char} {rest : List Char} (hoperator : c ∈ Lexeme.operators) :
      Piece reserved [c] rest (.operator, String.ofList [c])

/-- Characters that are no token, in the same terms; what follows them is not read. -/
inductive FaultyPiece : List Char → List Char → Token.Kind × String → Prop
  | number {digits rest : List Char} {c : Char} (hsome : digits ≠ [])
      (hdigits : ∀ d ∈ digits, d.isDigit = true) (hstart : Identifier.isStart c = true) :
      FaultyPiece (digits ++ [c]) rest
        (.error LexicalFault.invalidNumber.message, String.ofList (digits ++ [c]))
  | string {delimiter : StringLiteral.Delimiter} {text : List Char}
      (hopens : OpenedBy delimiter (delimiter.chars ++ text))
      (hopen : ∀ front back, front ++ delimiter.chars ++ back = text → ¬Written front) :
      FaultyPiece (delimiter.chars ++ text) []
        (.error LexicalFault.unterminatedString.message, String.ofList (delimiter.chars ++ text))
  | unexpected {c : Char} {rest : List Char} (hdigit : c.isDigit = false)
      (hstart : Identifier.isStart c = false) (hquote : c ≠ '"')
      (hoperator : c ∉ Lexeme.operators) :
      FaultyPiece [c] rest (.error (LexicalFault.unexpected c).message, String.ofList [c])

/-- The kinds and texts of the tokens of a text: pieces with gaps before them, and at the end of
the text one token more that says so, or at the first characters that are no token one for those. -/
inductive Tiling (reserved : List String) : List Char → List (Token.Kind × String) → Prop
  | done {gap : List Char} (hgap : LongestGap gap []) : Tiling reserved gap [(.endOfInput, "")]
  | fault {gap raw rest : List Char} {content : Token.Kind × String}
      (hgap : LongestGap gap (raw ++ rest)) (hfault : FaultyPiece raw rest content) :
      Tiling reserved (gap ++ (raw ++ rest)) [content]
  | token {gap raw rest : List Char} {content : Token.Kind × String}
      {others : List (Token.Kind × String)} (hgap : LongestGap gap (raw ++ rest))
      (hpiece : Piece reserved raw rest content) (hothers : Tiling reserved rest others) :
      Tiling reserved (gap ++ (raw ++ rest)) (content :: others)

end TagGraph
