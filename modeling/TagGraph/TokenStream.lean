import TagGraph.Trivia
import TagGraph.Lexeme

/-!
Cutting a text into tokens. A cursor holds what is still to be read and where that begins. Every
token but the last consumes a character, so the tokens of a text are finitely many: the body of the
stream, which holds no terminal token, and one terminal token after it.
-/

namespace TagGraph

structure Cursor where
  rest : List Char
  position : Position

structure TokenStream where
  body : List Token
  last : Token

def TokenStream.toList (stream : TokenStream) : List Token := stream.body ++ [stream.last]

namespace Cursor

def ofText (text : List Char) : Cursor := ⟨text, .start⟩

/-- Reads the token that begins at `start`, when the gap before it has been passed over. -/
def readAt (reserved : List String) (start : Position) : List Char → Token × Cursor
  | [] => (Token.endOfInput start, ⟨[], start⟩)
  | c :: rest =>
    let lexeme := Lexeme.scan reserved c rest
    (⟨lexeme.kind, lexeme.text, start⟩, ⟨lexeme.rest, start.advanceBy lexeme.raw⟩)

def next (reserved : List String) (cursor : Cursor) : Token × Cursor :=
  readAt reserved (cursor.position.advanceBy (Trivia.split cursor.rest).1)
    (Trivia.split cursor.rest).2

theorem length_split_le (text : List Char) : (Trivia.split text).2.length ≤ text.length := by
  have hlength := congrArg List.length (Trivia.split_append text)
  simp only [List.length_append] at hlength
  omega

/-- A token that is not terminal takes at least one character. -/
theorem length_next_lt (reserved : List String) (cursor : Cursor)
    (h : (cursor.next reserved).1.isTerminal = false) :
    (cursor.next reserved).2.rest.length < cursor.rest.length := by
  have hgap := length_split_le cursor.rest
  revert h
  unfold next
  cases hafter : (Trivia.split cursor.rest).2 with
  | nil =>
    intro h
    exact absurd h (by simp [readAt, Token.endOfInput, Token.isTerminal, Token.isEndOfInput])
  | cons c rest =>
    intro _
    rw [hafter] at hgap
    exact Nat.lt_of_lt_of_le (Lexeme.length_scan_rest_lt reserved c rest) hgap

/-- All tokens from here on, and where reading ends. -/
def tokens (reserved : List String) (cursor : Cursor) : TokenStream × Cursor :=
  if h : (cursor.next reserved).1.isTerminal = false then
    have := length_next_lt reserved cursor h
    let (stream, final) := (cursor.next reserved).2.tokens reserved
    (⟨(cursor.next reserved).1 :: stream.body, stream.last⟩, final)
  else (⟨[], (cursor.next reserved).1⟩, (cursor.next reserved).2)
termination_by cursor.rest.length

theorem last_isTerminal (reserved : List String) (cursor : Cursor) :
    (cursor.tokens reserved).1.last.isTerminal = true := by
  fun_induction tokens reserved cursor with
  | case1 cursor h _ stream final heq ih => simpa [heq] using ih
  | case2 cursor h => simpa using h

theorem not_isTerminal_of_mem_body (reserved : List String) (cursor : Cursor) (token : Token)
    (h : token ∈ (cursor.tokens reserved).1.body) : token.isTerminal = false := by
  fun_induction tokens reserved cursor with
  | case1 cursor hnext _ stream final heq ih =>
    rcases List.mem_cons.mp h with rfl | hmem
    · exact hnext
    · exact ih (by simpa [heq] using hmem)
  | case2 cursor hnext => simp at h

end Cursor

/-- Reserved words may be given in any case. -/
def TokenStream.ofText (words : List String) (text : String) : TokenStream :=
  ((Cursor.ofText text.toList).tokens (words.map Unicode.uppercase)).1

end TagGraph
