import TagGraph.Identifier
import TagGraph.StringLiteral
import TagGraph.Token
import TagGraph.Unicode.Uppercase

/-!
Lexemes: one token's worth of characters at the front of a text that starts with no gap. Each is
read as far as it goes. What was read and what is left make up the text, and something is always
read, so a stream of lexemes comes to an end.
-/

namespace TagGraph

/-- Why the characters at the front of a text are no token. -/
inductive LexicalFault
  | invalidNumber
  | unterminatedString
  | unexpected (c : Char)
deriving DecidableEq

def LexicalFault.message : LexicalFault → String
  | invalidNumber => "invalid character in number"
  | unterminatedString => "unexpected end of input in a string"
  | unexpected c => s!"unexpected character '{c}'"

/-- `raw` is what was read, and `text` what the token keeps of it. -/
structure Lexeme where
  kind : Token.Kind
  text : String
  raw : List Char
  rest : List Char

namespace Lexeme

def operators : List Char := ['.', ',', '*', '=', '(', ')', ':']

def verbatim (kind : Token.Kind) (raw rest : List Char) : Lexeme :=
  ⟨kind, String.ofList raw, raw, rest⟩

def faulty (fault : LexicalFault) (raw rest : List Char) : Lexeme :=
  verbatim (.error fault.message) raw rest

/-- Digits run into a name at once are a fault, which takes in the first character of the name. -/
def numberEnding (digits : List Char) : List Char → Lexeme
  | [] => verbatim .integer digits []
  | c :: rest =>
    if Identifier.isStart c then faulty .invalidNumber (digits ++ [c]) rest
    else verbatim .integer digits (c :: rest)

def number (text : List Char) : Lexeme :=
  numberEnding (text.takeWhile Char.isDigit) (text.dropWhile Char.isDigit)

/-- A name is a keyword if it is reserved once it is put in capitals. -/
def named (reserved : List String) (raw rest : List Char) : Lexeme :=
  if reserved.contains (Unicode.uppercase (String.ofList raw)) then
    ⟨.keyword, Unicode.uppercase (String.ofList raw), raw, rest⟩
  else verbatim .identifier raw rest

def word (reserved : List String) (text : List Char) : Lexeme :=
  named reserved (text.takeWhile Identifier.isPart) (text.dropWhile Identifier.isPart)

def delimited (delimiter : StringLiteral.Delimiter) (text : List Char) : Lexeme :=
  match StringLiteral.split? delimiter text with
  | some (content, rest) =>
    ⟨.string, String.ofList content, delimiter.chars ++ content ++ delimiter.chars, rest⟩
  | none => faulty .unterminatedString (delimiter.chars ++ text) []

/-- Reads a string literal whose first quote stands before `text`. -/
def quoted (text : List Char) : Lexeme :=
  match StringLiteral.Delimiter.opening text with
  | .single => delimited .single text
  | .triple => delimited .triple (text.drop 2)

/-- The reserved words are expected in capitals. -/
def scan (reserved : List String) (c : Char) (rest : List Char) : Lexeme :=
  if c.isDigit then number (c :: rest)
  else if Identifier.isStart c then word reserved (c :: rest)
  else if c = '"' then quoted rest
  else if operators.contains c then verbatim .operator [c] rest
  else faulty (.unexpected c) [c] rest

theorem number_append (text : List Char) : (number text).raw ++ (number text).rest = text := by
  have hsplit := List.takeWhile_append_dropWhile (p := Char.isDigit) (l := text)
  unfold number numberEnding
  split
  · next h => simpa [verbatim, h] using hsplit
  · next c rest h =>
    split <;> simpa [faulty, verbatim, h] using hsplit

theorem word_append (reserved : List String) (text : List Char) :
    (word reserved text).raw ++ (word reserved text).rest = text := by
  unfold word named
  split <;> exact List.takeWhile_append_dropWhile

theorem delimited_append (delimiter : StringLiteral.Delimiter) (text : List Char) :
    (delimited delimiter text).raw ++ (delimited delimiter text).rest =
      delimiter.chars ++ text := by
  unfold delimited
  split
  · next h => simp [← StringLiteral.append_of_split? h]
  · simp [faulty, verbatim]

theorem quoted_append (text : List Char) :
    (quoted text).raw ++ (quoted text).rest = '"' :: text := by
  unfold quoted StringLiteral.Delimiter.opening
  split
  · exact delimited_append .single text
  · next h =>
    split at h
    · exact delimited_append .triple _
    · nomatch h

theorem scan_append (reserved : List String) (c : Char) (rest : List Char) :
    (scan reserved c rest).raw ++ (scan reserved c rest).rest = c :: rest := by
  unfold scan
  split
  · exact number_append _
  split
  · exact word_append _ _
  split
  · next h => exact h ▸ quoted_append rest
  split <;> rfl

theorem delimited_raw_ne_nil (delimiter : StringLiteral.Delimiter) (text : List Char) :
    (delimited delimiter text).raw ≠ [] := by
  unfold delimited
  split <;> cases delimiter <;> simp [faulty, verbatim, StringLiteral.Delimiter.chars]

theorem scan_raw_ne_nil (reserved : List String) (c : Char) (rest : List Char) :
    (scan reserved c rest).raw ≠ [] := by
  unfold scan
  split
  · next hdigit =>
    unfold number numberEnding
    split
    · simp [verbatim, hdigit]
    · split <;> simp [faulty, verbatim, hdigit]
  split
  · next hstart =>
    have hpart := Identifier.isPart_of_isStart hstart
    unfold word named
    split <;> simp [verbatim, hpart]
  split
  · unfold quoted
    split <;> exact delimited_raw_ne_nil _ _
  split <;> simp [faulty, verbatim]

theorem length_scan_rest_lt (reserved : List String) (c : Char) (rest : List Char) :
    (scan reserved c rest).rest.length < (c :: rest).length := by
  have hlength := congrArg List.length (scan_append reserved c rest)
  have hraw := List.length_pos_iff.mpr (scan_raw_ne_nil reserved c rest)
  simp only [List.length_append] at hlength
  omega

/-- A lexeme never ends the input. -/
theorem scan_kind_ne_endOfInput (reserved : List String) (c : Char) (rest : List Char) :
    (scan reserved c rest).kind ≠ .endOfInput := by
  unfold scan number numberEnding word named quoted delimited faulty verbatim
  split
  · split
    · simp
    · split <;> simp
  split
  · split <;> simp
  split
  · split <;> split <;> simp
  split <;> simp

end Lexeme

end TagGraph
