import TagGraph.Token

/-!
Why a token cannot stand where it stands. Most often something else was expected there; a wildcard
that is joined to another condition and a clause that a world has already are refused by name.
-/

namespace TagGraph

/-- What a name is given to. -/
inductive NameRole
  | concept
  | tag
  | slot
  | world
  | rootObject
  | objectAlias
deriving DecidableEq

inductive Expectation
  | keyword (word : Keyword)
  | operator (symbol : Char)
  | name (role : NameRole)
  | declaration
  | action
  | address
deriving DecidableEq

inductive SyntaxFault
  | expected (what : Expectation)
  | wildcardNotAlone (wildcard : Keyword)
  | repeatedClause (clause : Keyword) (world : String)
deriving DecidableEq

def NameRole.text : NameRole → String
  | concept => "concept name"
  | tag => "tag name"
  | slot => "slot name"
  | world => "world name"
  | rootObject => "root object name"
  | objectAlias => "object alias"

def Expectation.text : Expectation → String
  | keyword word => word.text
  | operator symbol => s!"'{symbol}'"
  | name role => role.text
  | declaration => "keyword CONCEPT, WHERE or WORLD"
  | action => "action NOTHING, SET, UNSET or BIND"
  | address => "THIS, ROOT, OTHER or slot name"

/-- Only a fault of expectation names the token that was found instead. -/
def SyntaxFault.message (found : Token) : SyntaxFault → String
  | expected what => s!"expected {what.text}, found {found.describe}"
  | wildcardNotAlone wildcard => s!"{wildcard.text} must be the only condition"
  | repeatedClause clause world => s!"duplicate {clause.text} clause in world '{world}'"

end TagGraph
