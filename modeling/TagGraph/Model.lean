import TagGraph.LabelSet

/-!
What a source text declares. Concepts are templates of objects with tags and slots; actuators are
the rules that rewrite a graph of objects; worlds say how such a graph begins. A slot is a named
link from one object to another. Nothing here asks whether the names that are used are declared.
-/

namespace TagGraph

structure Concept where
  name : String
  tags : LabelSet
  slots : LabelSet
deriving DecidableEq, Inhabited

/-- Holds of an object that has all the tags, or none of them when negated. With a slot it speaks of
the object that is linked there. -/
structure TagPredicate where
  tags : List String
  isNegated : Bool
  slot : Option String
deriving DecidableEq

inductive Predicate
  | any
  | tagSet (condition : TagPredicate)
deriving DecidableEq

/-- The object that matched a rule, the root of the world, or the partner of an interaction. -/
inductive Context
  | this
  | root
  | other
deriving DecidableEq, Inhabited

/-- An object that is reached from a context, through one of its slots if one is given. -/
structure Address where
  context : Context
  slot : Option String
deriving DecidableEq, Inhabited

structure TagsAction where
  tags : List String
  isUnset : Bool
  subject : Address
deriving DecidableEq, Inhabited

/-- Links a slot of the subject to the target. -/
structure BindAction where
  slot : String
  target : Address
  subject : Address
deriving DecidableEq, Inhabited

inductive Action
  | nothing
  | tags (change : TagsAction)
  | bind (link : BindAction)
deriving DecidableEq

/-- A rule that has conditions on a partner is an interaction. -/
structure Actuator where
  isRoot : Bool
  conditions : List Predicate
  otherConditions : Option (List Predicate)
  actions : List Action
deriving DecidableEq

structure WorldObject where
  concept : String
  givenName : Option String
deriving DecidableEq

structure SlotPath where
  object : String
  slot : String
deriving DecidableEq

structure Binding where
  source : SlotPath
  target : SlotPath
deriving DecidableEq

structure World where
  name : String
  root : Option String
  objects : List WorldObject
  bindings : List Binding
deriving DecidableEq, Inhabited

structure Model where
  concepts : List Concept
  actuators : List Actuator
  worlds : List World
deriving DecidableEq, Inhabited

namespace TagPredicate

def unconditional : TagPredicate := ⟨[], false, none⟩

instance : Inhabited TagPredicate := ⟨unconditional⟩

def ofTag (tag : String) : TagPredicate := ⟨[tag], false, none⟩

def negate (condition : TagPredicate) : TagPredicate :=
  { condition with isNegated := !condition.isNegated }

def inSlot (condition : TagPredicate) (slot : String) : TagPredicate :=
  { condition with slot := some slot }

end TagPredicate

def Predicate.tagSet? : Predicate → Option TagPredicate
  | any => none
  | tagSet condition => some condition

def Context.render : Context → String
  | this => "this"
  | root => "root"
  | other => "other"

/-- The object that a rule matched, which is meant wherever no other object is named. -/
def Address.this : Address := ⟨.this, none⟩

def Actuator.isInteractive (actuator : Actuator) : Bool := actuator.otherConditions.isSome

def SlotPath.render (path : SlotPath) : String := s!"{path.object}.{path.slot}"

namespace Model

def empty : Model := ⟨[], [], []⟩

def isEmpty (model : Model) : Bool :=
  model.concepts.isEmpty && model.actuators.isEmpty && model.worlds.isEmpty

/-- Of two concepts with one name the first is found. -/
def concept? (model : Model) (name : String) : Option Concept :=
  model.concepts.find? (·.name == name)

/-- Of two worlds with one name the first is found. -/
def world? (model : Model) (name : String) : Option World :=
  model.worlds.find? (·.name == name)

def append (left right : Model) : Model :=
  ⟨left.concepts ++ right.concepts, left.actuators ++ right.actuators, left.worlds ++ right.worlds⟩

end Model

end TagGraph
