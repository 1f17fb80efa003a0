import TagGraph.Model
import TagGraph.Parser

/-!
Concepts: `CONCEPT` name, and then clauses `TAG` names and `SLOT` names in any number and order. The
sets of a concept are all that its clauses name, so neither order nor repetition matters.
-/

namespace TagGraph

inductive Concept.Clause
  | tags (names : List String)
  | slots (names : List String)

namespace Concept.Clause

def tagNames : Clause → List String
  | tags names => names
  | slots _ => []

def slotNames : Clause → List String
  | tags _ => []
  | slots names => names

/-- The rest of a clause that the token opens. -/
def opened? (token : Token) : Option (Parser Clause) :=
  if token.isKeyword .TAG then some (tags <$> Parser.commaSeparated (Parser.name .tag))
  else if token.isKeyword .SLOT then some (slots <$> Parser.commaSeparated (Parser.name .slot))
  else none

end Concept.Clause

namespace Concept

def ofClauses (name : String) (clauses : List Clause) : Concept :=
  ⟨name, LabelSet.ofList (clauses.flatMap Clause.tagNames),
    LabelSet.ofList (clauses.flatMap Clause.slotNames)⟩

/-- What follows the keyword. -/
def parser : Parser Concept := do
  let name ← Parser.name .concept
  let clauses ← Parser.many Clause.opened?
  return ofClauses name clauses

end Concept

end TagGraph
