import TagGraph.Token
import TagGraph.Decimal
import TagGraph.StringLiteral

/-!
What literals stand for: the number that an integer denotes, and the text of a string once its
escapes are resolved. Tokens of other kinds stand for no value.
-/

namespace TagGraph.Token

def integerValue? (token : Token) : Option Int :=
  match token.kind with
  | .integer => Decimal.value? token.text
  | _ => none

def stringValue? (token : Token) : Option String :=
  match token.kind with
  | .string => some (String.ofList (StringLiteral.unescape token.text.toList))
  | _ => none

end TagGraph.Token
