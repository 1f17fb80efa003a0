import TagGraph.ActuatorGrammar
import TagGraph.ConceptGrammar
import TagGraph.TokenStream
import TagGraph.WorldGrammar

/-!
A source text is a sequence of declarations, each opened by its keyword. Reading it stops at the
first token that cannot go on. What is kept of a reading are the declarations that were completed,
each with the tokens that were left after it, and the fault that stopped the reading if one did.
-/

namespace TagGraph

inductive Declaration
  | concept (value : Concept)
  | actuator (value : Actuator)
  | world (value : World)

/-- The body of a stream that is left at the fault; when none is, the last token is at fault. -/
structure Reading where
  completed : List (Declaration × List Token)
  fault? : Option (SyntaxFault × List Token)

namespace Declaration

def concept? : Declaration → Option Concept
  | concept value => some value
  | _ => none

def actuator? : Declaration → Option Actuator
  | actuator value => some value
  | _ => none

def world? : Declaration → Option World
  | world value => some value
  | _ => none

/-- The rest of a declaration that the token opens. -/
def opened? (token : Token) : Option (Parser Declaration) :=
  if token.isKeyword .CONCEPT then some (concept <$> Concept.parser)
  else if token.isKeyword .WHERE then some (actuator <$> Actuator.parser)
  else if token.isKeyword .WORLD then some (world <$> World.parser)
  else none

end Declaration

namespace Reading

def ofTokens : List Token → Reading
  | [] => ⟨[], none⟩
  | token :: rest =>
    match Declaration.opened? token with
    | none => ⟨[], some (.expected .declaration, token :: rest)⟩
    | some item =>
      let outcome := item.run rest
      have : (item.run rest).2.length ≤ rest.length := (item.run_suffix rest).length_le
      match outcome.1 with
      | .error fault => ⟨[], some (fault, outcome.2)⟩
      | .ok declaration =>
        let others := ofTokens outcome.2
        ⟨(declaration, outcome.2) :: others.completed, others.fault?⟩
termination_by tokens => tokens.length

/-- Where the body ends well, an error token at the end still stands where a declaration might. -/
def ofStream (stream : TokenStream) : Reading :=
  let reading := ofTokens stream.body
  if reading.fault?.isNone && stream.last.isError then
    ⟨reading.completed, some (.expected .declaration, [])⟩
  else reading

def declarations (reading : Reading) : List Declaration := reading.completed.map Prod.fst

end Reading

def Model.ofDeclarations (declarations : List Declaration) : Model :=
  ⟨declarations.filterMap Declaration.concept?, declarations.filterMap Declaration.actuator?,
    declarations.filterMap Declaration.world?⟩

theorem Model.ofDeclarations_append (left right : List Declaration) :
    Model.ofDeclarations (left ++ right) =
      (Model.ofDeclarations left).append (Model.ofDeclarations right) := by
  simp [Model.ofDeclarations, Model.append]

end TagGraph
