import TagGraph.Model
import TagGraph.Parser

/-!
Worlds: `WORLD` name, and then clauses in any order, each at most once: `ROOT` name, `OBJECT` with
objects, and `BIND` with bindings. An object is a concept with or without a name of its own; a
binding leads from one slot path `TO` another.
-/

namespace TagGraph

inductive World.Clause
  | root (name : String)
  | objects (items : List WorldObject)
  | bindings (items : List Binding)

def WorldObject.parser : Parser WorldObject := do
  let concept ← Parser.name .concept
  let givenName ← Parser.optional fun token =>
    if token.isKeyword .AS then some (Parser.name .objectAlias) else none
  return ⟨concept, givenName⟩

def SlotPath.parser : Parser SlotPath := do
  let object ← Parser.name .objectAlias
  Parser.operator '.'
  let slot ← Parser.name .slot
  return ⟨object, slot⟩

def Binding.parser : Parser Binding := do
  let source ← SlotPath.parser
  Parser.keyword .TO
  let target ← SlotPath.parser
  return ⟨source, target⟩

namespace World.Clause

def keyword : Clause → Keyword
  | root _ => .ROOT
  | objects _ => .OBJECT
  | bindings _ => .BIND

def rootName? : Clause → Option String
  | root name => some name
  | _ => none

def objectItems : Clause → List WorldObject
  | objects items => items
  | _ => []

def bindingItems : Clause → List Binding
  | bindings items => items
  | _ => []

/-- The keyword of a clause that the token opens, and the rest of that clause. -/
def opened? (token : Token) : Option (Keyword × Parser Clause) :=
  if token.isKeyword .ROOT then some (.ROOT, root <$> Parser.name .rootObject)
  else if token.isKeyword .OBJECT then
    some (.OBJECT, objects <$> Parser.commaSeparated WorldObject.parser)
  else if token.isKeyword .BIND then some (.BIND, bindings <$> Parser.commaSeparated Binding.parser)
  else none

/-- A clause whose keyword has been seen is refused at that keyword. -/
def step (world : String) (seen : List Keyword) (token : Token) : Parser.Step Clause :=
  match opened? token with
  | none => .stop
  | some (clause, item) =>
    if seen.contains clause then .reject (.repeatedClause clause world) else .take item

def list (world : String) : Parser (List Clause) :=
  Parser.repeated (step world) (fun seen clause => clause.keyword :: seen) []

end World.Clause

namespace World

def ofClauses (name : String) (clauses : List Clause) : World :=
  ⟨name, clauses.findSome? Clause.rootName?, clauses.flatMap Clause.objectItems,
    clauses.flatMap Clause.bindingItems⟩

/-- What follows the keyword. -/
def parser : Parser World := do
  let name ← Parser.name .world
  let clauses ← Clause.list name
  return ofClauses name clauses

end World

end TagGraph
