import TagGraph.Model
import TagGraph.Parser

/-!
Actuators: `WHERE`, perhaps `ROOT`, conditions, perhaps `ON` with conditions on a partner, `DO` and
actions. Conditions are a wildcard that stands alone, or predicates joined by `AND`. An action may
begin with `IN` and the object that it is done to; without one it is done to this object.
-/

namespace TagGraph

/-- A slot after a dot. -/
def Address.slotParser : Parser (Option String) :=
  Parser.optional fun token => if token.isOperator '.' then some (Parser.name .slot) else none

/-- An object by its context, with or without a slot, or by a slot of the `implied` context. -/
def Address.parser (implied : Context) : Parser Address :=
  Parser.require .address fun token =>
    if token.isKeyword .THIS then some (Address.mk .this <$> slotParser)
    else if token.isKeyword .ROOT then some (Address.mk .root <$> slotParser)
    else if token.isKeyword .OTHER then some (Address.mk .other <$> slotParser)
    else if token.kind = .identifier then some (pure ⟨implied, some token.text⟩)
    else none

/-- `NOT` perhaps, and a tag, with the slot to look through before a dot. -/
def TagPredicate.parser : Parser TagPredicate := do
  let isNegated ← Parser.accept .NOT
  let first ← Parser.name .tag
  let second ← Parser.optional fun token =>
    if token.isOperator '.' then some (Parser.name .tag) else none
  let condition :=
    match second with
    | some tag => (TagPredicate.ofTag tag).inSlot first
    | none => TagPredicate.ofTag first
  return if isNegated then condition.negate else condition

namespace Predicate

def joined : Parser (List Predicate) :=
  Parser.separatedBy (·.isKeyword .AND) (tagSet <$> TagPredicate.parser)

def loneWildcard (wildcard : Keyword) : Parser (List Predicate) := do
  if ← Parser.nextIs (·.isKeyword .AND) then Parser.fail (.wildcardNotAlone wildcard)
  else return [any]

def conditions (wildcards : List Keyword) : Parser (List Predicate) :=
  Parser.branch (fun token => (wildcards.find? token.isKeyword).map loneWildcard) joined

end Predicate

namespace Action

/-- The rest of a change to the subject that the token opens. -/
def change? (subject : Address) (token : Token) : Option (Parser Action) :=
  if token.isKeyword .SET then
    some do return tags ⟨← Parser.commaSeparated (Parser.name .tag), false, subject⟩
  else if token.isKeyword .UNSET then
    some do return tags ⟨← Parser.commaSeparated (Parser.name .tag), true, subject⟩
  else if token.isKeyword .BIND then
    some do
      let slot ← Parser.name .slot
      Parser.keyword .TO
      let target ← Address.parser subject.context
      return bind ⟨slot, target, subject⟩
  else none

/-- `IN` may name no object, and then this object is meant. -/
def subject : Parser Address := do
  if ← Parser.nextIs fun token => (change? Address.this token).isSome then return Address.this
  else Address.parser .this

def opened? (token : Token) : Option (Parser Action) :=
  if token.isKeyword .NOTHING then some (pure nothing)
  else if token.isKeyword .IN then
    some do
      let object ← subject
      Parser.require .action (change? object)
  else change? Address.this token

end Action

/-- What follows the keyword. -/
def Actuator.parser : Parser Actuator := do
  let isRoot ← Parser.accept .ROOT
  let conditions ← Predicate.conditions [.ALL]
  let otherConditions ← Parser.optional fun token =>
    if token.isKeyword .ON then some (Predicate.conditions [.ANY, .ALL]) else none
  Parser.keyword .DO
  let first ← Parser.require .action Action.opened?
  let others ← Parser.many Action.opened?
  return ⟨isRoot, conditions, otherConditions, first :: others⟩

end TagGraph
