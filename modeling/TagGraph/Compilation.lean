import TagGraph.Declaration
import TagGraph.Diagnostic

/-!
From a source text to the model that it declares, or to the diagnostic for its first fault. There is
no partial result. Options name the source for diagnostics and ask for tokens to be recorded; the
latter changes only the record of the pass, never its result.
-/

namespace TagGraph

structure Options where
  sourceName : Option String
  recordsTokens : Bool
deriving DecidableEq

namespace Options

def standard : Options := ⟨none, false⟩

def named (sourceName : String) : Options := ⟨some sourceName, false⟩

def verbose : Options := ⟨none, true⟩

def withSourceName (options : Options) (sourceName : String) : Options :=
  { options with sourceName := some sourceName }

def withTokens (options : Options) (recordsTokens : Bool) : Options :=
  { options with recordsTokens := recordsTokens }

/-- The name of the source, or a stand-in where it has none. -/
def sourceLabel (options : Options) : String := options.sourceName.getD "<input>"

/-- With a named source, a diagnostic is told its location. -/
def locate (options : Options) (diagnostic : Diagnostic) : Diagnostic :=
  match options.sourceName with
  | some source =>
    diagnostic.withLocation ⟨some source, some (diagnostic.line, diagnostic.column)⟩
  | none => diagnostic

end Options

namespace TokenStream

def ofSource (source : String) : TokenStream := ofText Keyword.reserved source

/-- The token at which the rest of the body begins, or the last one if nothing is left of it. -/
def lookahead (stream : TokenStream) (rest : List Token) : Token := rest.head?.getD stream.last

end TokenStream

def compileWith (options : Options) (source : String) : Except Diagnostic Model :=
  let stream := TokenStream.ofSource source
  let reading := Reading.ofStream stream
  match reading.fault? with
  | some (fault, rest) =>
    .error (options.locate (Diagnostic.ofFault source fault (stream.lookahead rest)))
  | none => .ok (Model.ofDeclarations reading.declarations)

def compile (source : String) : Except Diagnostic Model := compileWith Options.standard source

instance : DecidableEq (Except Diagnostic Model)
  | .ok left, .ok right => decidable_of_iff (left = right) (by simp)
  | .error left, .error right => decidable_of_iff (left = right) (by simp)
  | .ok _, .error _ => .isFalse (by simp)
  | .error _, .ok _ => .isFalse (by simp)

end TagGraph
