import TagGraph.OnDemand
import TagGraph.WordPosition

/-!
The grammar on demand. Every loop decides by the current token whether there is another round, and
none of them is bounded. What has been read of a world is kept as a draft, with a note of the
clauses that it has. Each declaration is recorded when it is over, and the outcome at the end. When
lines and columns are counted in words, a text that is too long for them has no outcome.
-/

namespace TagGraph

namespace Routine

def conceptRound (concept : Concept) : Routine (Concept ⊕ Concept) := do
  if ← accept (·.isKeyword .TAG) then
    let tags ← names .tag
    return .inl { concept with tags := tags.foldl LabelSet.insert concept.tags }
  else if ← accept (·.isKeyword .SLOT) then
    let slots ← names .slot
    return .inl { concept with slots := slots.foldl LabelSet.insert concept.slots }
  else return .inr concept

/-- What follows the keyword. -/
def conceptRest : Routine Concept := do
  let name ← name .concept
  loop conceptRound ⟨name, .empty, .empty⟩

def concept : Routine Concept :=
  recorded .concept do
    keyword .CONCEPT
    conceptRest

def slot : Routine (Option String) := optional (·.isOperator '.') (name .slot)

def address (implied : Context) : Routine Address := do
  if ← accept (·.isKeyword .THIS) then return ⟨.this, ← slot⟩
  else if ← accept (·.isKeyword .ROOT) then return ⟨.root, ← slot⟩
  else if ← accept (·.isKeyword .OTHER) then return ⟨.other, ← slot⟩
  else if ← sees (·.kind = .identifier) then return ⟨implied, some (← name .slot)⟩
  else throw (.expected .address)

def predicate : Routine Predicate := do
  let isNegated ← accept (·.isKeyword .NOT)
  let first ← name .tag
  let second ← optional (·.isOperator '.') (name .tag)
  let condition :=
    match second with
    | some tag => (TagPredicate.ofTag tag).inSlot first
    | none => TagPredicate.ofTag first
  return .tagSet (if isNegated then condition.negate else condition)

def predicateRound : List Predicate → Routine (List Predicate ⊕ List Predicate) :=
  separatedRound (·.isKeyword .AND) predicate

def predicates (wildcards : List Keyword) : Routine (List Predicate) := do
  match wildcards.find? (← current).isKeyword with
  | some wildcard =>
    advance
    if ← sees (·.isKeyword .AND) then throw (.wildcardNotAlone wildcard)
    else return [.any]
  | none => loop predicateRound [← predicate]

/-- Whether an action can be done to a subject that has been named. -/
def opensChange (token : Token) : Bool := [Keyword.SET, .UNSET, .BIND].any token.isKeyword

def opensAction (token : Token) : Bool :=
  [Keyword.NOTHING, .IN, .SET, .UNSET, .BIND].any token.isKeyword

def subject : Routine Address := do
  if ← accept (·.isKeyword .IN) then
    if ← sees opensChange then return .this
    else address .this
  else return .this

def change (subject : Address) : Routine Action := do
  if ← sees (fun token => token.isKeyword .SET || token.isKeyword .UNSET) then
    let isUnset ← sees (·.isKeyword .UNSET)
    advance
    return .tags ⟨← names .tag, isUnset, subject⟩
  else if ← accept (·.isKeyword .BIND) then
    let slot ← name .slot
    keyword .TO
    return .bind ⟨slot, ← address subject.context, subject⟩
  else throw (.expected .action)

def action : Routine Action := do
  if ← accept (·.isKeyword .NOTHING) then return .nothing
  else change (← subject)

def actionRound (actions : List Action) : Routine (List Action ⊕ List Action) := do
  if ← sees opensAction then return .inl (actions ++ [← action])
  else return .inr actions

/-- What follows the keyword. -/
def actuatorRest : Routine Actuator := do
  let isRoot ← accept (·.isKeyword .ROOT)
  let conditions ← predicates [.ALL]
  let otherConditions ← optional (·.isKeyword .ON) (predicates [.ANY, .ALL])
  keyword .DO
  let actions ← loop actionRound [← action]
  return ⟨isRoot, conditions, otherConditions, actions⟩

def actuator : Routine Actuator :=
  recorded .actuator do
    keyword .WHERE
    actuatorRest

def worldObject : Routine WorldObject := do
  let concept ← name .concept
  return ⟨concept, ← optional (·.isKeyword .AS) (name .objectAlias)⟩

def slotPath : Routine SlotPath := do
  let object ← name .objectAlias
  operator '.'
  return ⟨object, ← name .slot⟩

def binding : Routine Binding := do
  let source ← slotPath
  keyword .TO
  return ⟨source, ← slotPath⟩

end Routine

/-- A world of which some clauses have been read. -/
structure World.Draft where
  world : World
  hasObjects : Bool
  hasBindings : Bool

namespace Routine

def worldRound (draft : World.Draft) : Routine (World.Draft ⊕ World) := do
  if ← sees (·.isKeyword .ROOT) then
    if draft.world.root.isSome then throw (.repeatedClause .ROOT draft.world.name)
    else
      advance
      let root ← name .rootObject
      return .inl { draft with world := { draft.world with root := some root } }
  else if ← sees (·.isKeyword .OBJECT) then
    if draft.hasObjects then throw (.repeatedClause .OBJECT draft.world.name)
    else
      advance
      let objects ← loop (listedRound worldObject) draft.world.objects
      return .inl
        { draft with world := { draft.world with objects := objects }, hasObjects := true }
  else if ← sees (·.isKeyword .BIND) then
    if draft.hasBindings then throw (.repeatedClause .BIND draft.world.name)
    else
      advance
      let bindings ← loop (listedRound binding) draft.world.bindings
      return .inl
        { draft with world := { draft.world with bindings := bindings }, hasBindings := true }
  else return .inr draft.world

/-- What follows the keyword. -/
def worldRest : Routine World := do
  let name ← name .world
  loop worldRound ⟨⟨name, none, [], []⟩, false, false⟩

def world : Routine World :=
  recorded .world do
    keyword .WORLD
    worldRest

def declarationRound (model : Model) : Routine (Model ⊕ Model) := do
  if ← sees Token.isEndOfInput then return .inr model
  else if ← sees (·.isKeyword .CONCEPT) then
    return .inl { model with concepts := model.concepts ++ [← concept] }
  else if ← sees (·.isKeyword .WHERE) then
    return .inl { model with actuators := model.actuators ++ [← actuator] }
  else if ← sees (·.isKeyword .WORLD) then
    return .inl { model with worlds := model.worlds ++ [← world] }
  else throw (.expected .declaration)

def model : Routine Model := loop declarationRound ⟨[], [], []⟩

/-- What compiling comes to, if it comes to an end, and the pass with which it ends. -/
def compile (options : Options) (source : String) :
    Option (Except Diagnostic Model × Pass) := do
  let (result, pass) ← model.run (Pass.start options.recordsTokens source)
  let outcome := result.mapError fun fault =>
    options.locate (Diagnostic.ofFault source fault pass.current)
  return (outcome, pass.record (Event.outcome options outcome))

end Routine

/-- The characters that the reader of the pass has gone over. -/
def Pass.passed (source : String) (pass : Pass) : List Char :=
  source.toList.take (source.length - pass.reader.cursor.rest.length)

/-- Compiling with counts in words, which stops without a result where one of them overflows. -/
def compileInWords (options : Options) (source : String) : Option (Except Diagnostic Model) := do
  let (outcome, pass) ← Routine.compile options source
  let _ ← WordPosition.start.advanceBy? (pass.passed source)
  return outcome

end TagGraph
