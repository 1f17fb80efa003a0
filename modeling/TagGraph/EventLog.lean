import TagGraph.Compilation

/-!
The events that are recorded of a pass over a source text: a token that has come to be looked at, a
declaration that has been read, and how the pass ended. An event shows as a message with fields, at
a level by which the record can be thinned out.
-/

namespace TagGraph

inductive Event
  | token (value : Token)
  | parsed (declaration : Declaration)
  | compiled (source : String) (model : Model)
  | failed (source : String) (diagnostic : Diagnostic)

inductive Event.Level
  | trace
  | debug
  | info
deriving DecidableEq

inductive Event.Field
  | text (value : String)
  | number (value : Nat)
  | flag (value : Bool)

namespace Event

def Level.rank : Level → Nat
  | trace => 0
  | debug => 1
  | info => 2

def level : Event → Level
  | token _ => .trace
  | parsed _ => .trace
  | compiled _ _ => .debug
  | failed _ _ => .debug

def message : Event → String
  | token _ => "token"
  | parsed (.concept _) => "parsed concept"
  | parsed (.actuator _) => "parsed actuator"
  | parsed (.world _) => "parsed world"
  | compiled _ _ => "compiled model"
  | failed _ _ => "compile failed"

def fields : Event → List (String × Field)
  | token value =>
    [("kind", .text value.kind.name), ("text", .text value.text),
     ("line", .number value.position.line), ("column", .number value.position.column)]
  | parsed (.concept concept) =>
    [("concept", .text concept.name), ("tags", .number concept.tags.size),
     ("slots", .number concept.slots.size)]
  | parsed (.actuator actuator) =>
    [("is_root", .flag actuator.isRoot), ("conditions", .number actuator.conditions.length),
     ("interactive", .flag actuator.isInteractive), ("actions", .number actuator.actions.length)]
  | parsed (.world world) =>
    [("world", .text world.name), ("objects", .number world.objects.length),
     ("bindings", .number world.bindings.length)]
  | compiled source model =>
    [("source", .text source), ("concepts", .number model.concepts.length),
     ("actuators", .number model.actuators.length), ("worlds", .number model.worlds.length)]
  | failed source diagnostic =>
    [("source", .text source), ("error", .text diagnostic.render)]

def isToken : Event → Bool
  | token _ => true
  | _ => false

/-- A pass that ended, whichever way. -/
def outcome (options : Options) : Except Diagnostic Model → Event
  | .ok model => compiled options.sourceLabel model
  | .error diagnostic => failed options.sourceLabel diagnostic

end Event

namespace EventLog

/-- The events that are at least as weighty as the given level. -/
def atLevel (level : Event.Level) (events : List Event) : List Event :=
  events.filter fun event => level.rank ≤ event.level.rank

end EventLog

end TagGraph
