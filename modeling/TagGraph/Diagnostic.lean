import TagGraph.SourceLine
import TagGraph.SyntaxFault

/-!
What is reported of a text that cannot be read: the reason, the place, and the line on which that
place lies. A diagnostic is lexical when the token at fault is itself an error, and then it carries
that token's message; otherwise it is syntactic. It may be told where the text came from.
-/

namespace TagGraph

/-- Where a text came from, and a line and column in it. -/
structure Location where
  source : Option String
  place : Option (Nat × Nat)
deriving DecidableEq

inductive Diagnostic.Kind
  | lexical
  | syntactic
deriving DecidableEq

structure Diagnostic where
  kind : Diagnostic.Kind
  message : String
  line : Nat
  column : Nat
  sourceLine : String
  location : Option Location
deriving DecidableEq

namespace Location

def unknown : Location := ⟨none, none⟩

instance : Inhabited Location := ⟨unknown⟩

def withSource (location : Location) (source : String) : Location :=
  { location with source := some source }

def withPlace (location : Location) (line column : Nat) : Location :=
  { location with place := some (line, column) }

/-- A place is of no use without its source, so it is left out then. -/
def render (location : Location) : String :=
  match location.source, location.place with
  | none, _ => ""
  | some source, none => s!"at {source}"
  | some source, some (line, column) => s!"at {source}:{line}:{column}"

end Location

namespace Diagnostic

def Kind.name : Kind → String
  | lexical => "lexical"
  | syntactic => "syntax"

def withLocation (diagnostic : Diagnostic) (location : Location) : Diagnostic :=
  { diagnostic with location := some location }

def render (diagnostic : Diagnostic) : String :=
  s!"{diagnostic.kind.name} error at {diagnostic.line}:{diagnostic.column}: " ++
    s!"{diagnostic.message}\n  | {diagnostic.sourceLine}"

def report (diagnostic : Diagnostic) : String :=
  match diagnostic.location.bind Location.source with
  | some source => s!"{source}: {diagnostic.render}"
  | none => diagnostic.render

def atToken (text : String) (kind : Kind) (message : String) (found : Token) : Diagnostic :=
  ⟨kind, message, found.position.line, found.position.column,
    (SourceLine.at? text found.position.offset).getD "", none⟩

/-- The diagnostic for a fault at a token of the text. -/
def ofFault (text : String) (fault : SyntaxFault) (found : Token) : Diagnostic :=
  match fault, found.kind with
  | .expected _, .error message => atToken text .lexical message found
  | _, _ => atToken text .syntactic (fault.message found) found

end Diagnostic

end TagGraph
