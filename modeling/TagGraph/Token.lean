import TagGraph.Position
import TagGraph.Keyword

/-!
Tokens: the words of a source text, each with the place where it starts. The text of a keyword is in
capitals; that of a string is what stands between its delimiters, as it was written. Reading stops
at a token that is terminal, which is either the end of the input or an error.
-/

namespace TagGraph

inductive Token.Kind
  | endOfInput
  | error (message : String)
  | identifier
  | keyword
  | integer
  | string
  | operator
deriving DecidableEq

structure Token where
  kind : Token.Kind
  text : String
  position : Position
deriving DecidableEq

namespace Token

namespace Kind

def name : Kind → String
  | endOfInput => "end of input"
  | error _ => "error"
  | identifier => "identifier"
  | keyword => "keyword"
  | integer => "integer"
  | string => "string"
  | operator => "operator"

/-- Two errors are alike, whatever their messages. -/
def alike : Kind → Kind → Bool
  | error _, error _ => true
  | left, right => left == right

end Kind

def endOfInput (position : Position) : Token := ⟨.endOfInput, "", position⟩

/-- Kind and text, which is all that tells two tokens apart when their places do not matter. -/
def content (token : Token) : Kind × String := (token.kind, token.text)

def isEndOfInput (token : Token) : Bool := token.kind == .endOfInput

def isError (token : Token) : Bool :=
  match token.kind with
  | .error _ => true
  | _ => false

def isTerminal (token : Token) : Bool := token.isEndOfInput || token.isError

def isWord (token : Token) (word : String) : Bool :=
  token.kind == .keyword && token.text == word

def isKeyword (token : Token) (keyword : Keyword) : Bool := token.isWord keyword.text

/-- Operators are single bytes, so no other character is ever one. -/
def isOperator (token : Token) (symbol : Char) : Bool :=
  token.kind == .operator && token.text == symbol.toString && symbol.utf8Size == 1

def describe (token : Token) : String :=
  match token.kind with
  | .endOfInput => token.kind.name
  | .error message => s!"{token.kind.name} ({message})"
  | kind => s!"{kind.name} '{token.text}'"

end Token

end TagGraph
