import TagGraph.Compilation
import TagGraph.Proofs.ActuatorRecognition
import TagGraph.Proofs.ConceptRecognition
import TagGraph.Proofs.WorldRecognition

/-!
What compiles is what the grammar derives. Reading the body of a stream is one more parser: it reads
declarations for as long as one opens, and refuses whatever token is left then. An error at the end
of the stream stands where a declaration might, so it is refused as well.
-/

namespace TagGraph

open TagGraph.Parser

inductive DeclarationPhrase : Phrase Declaration
  | concept {tokens : List Token} {concept : Concept} (h : ConceptPhrase tokens concept) :
      DeclarationPhrase tokens (.concept concept)
  | actuator {tokens : List Token} {actuator : Actuator} (h : ActuatorPhrase tokens actuator) :
      DeclarationPhrase tokens (.actuator actuator)
  | world {tokens : List Token} {world : World} (h : WorldPhrase tokens world) :
      DeclarationPhrase tokens (.world world)

namespace Declaration

theorem phrase_iff_concept {key : Token} (hkey : key.isKeyword .CONCEPT = true)
    {tokens : List Token} {declaration : Declaration} :
    DeclarationPhrase (key :: tokens) declaration ↔
      ∃ value, ConceptPhrase (key :: tokens) value ∧ declaration = concept value := by
  constructor
  · intro hread
    cases hread with
    | concept h => exact ⟨_, h, rfl⟩
    | actuator h => cases h with | intro h => simp [Token.isKeyword_of_isKeyword h] at hkey
    | world h => cases h with | intro h => simp [Token.isKeyword_of_isKeyword h] at hkey
  · intro h
    obtain ⟨value, h, hdeclaration⟩ := h
    exact hdeclaration ▸ .concept h

theorem phrase_iff_actuator {key : Token} (hkey : key.isKeyword .WHERE = true)
    {tokens : List Token} {declaration : Declaration} :
    DeclarationPhrase (key :: tokens) declaration ↔
      ∃ value, ActuatorPhrase (key :: tokens) value ∧ declaration = actuator value := by
  constructor
  · intro hread
    cases hread with
    | concept h => cases h with | intro h => simp [Token.isKeyword_of_isKeyword h] at hkey
    | actuator h => exact ⟨_, h, rfl⟩
    | world h => cases h with | intro h => simp [Token.isKeyword_of_isKeyword h] at hkey
  · intro h
    obtain ⟨value, h, hdeclaration⟩ := h
    exact hdeclaration ▸ .actuator h

theorem phrase_iff_world {key : Token} (hkey : key.isKeyword .WORLD = true)
    {tokens : List Token} {declaration : Declaration} :
    DeclarationPhrase (key :: tokens) declaration ↔
      ∃ value, WorldPhrase (key :: tokens) value ∧ declaration = world value := by
  constructor
  · intro hread
    cases hread with
    | concept h => cases h with | intro h => simp [Token.isKeyword_of_isKeyword h] at hkey
    | actuator h => cases h with | intro h => simp [Token.isKeyword_of_isKeyword h] at hkey
    | world h => exact ⟨_, h, rfl⟩
  · intro h
    obtain ⟨value, h, hdeclaration⟩ := h
    exact hdeclaration ▸ .world h

/-- The tokens that go on with a declaration of some sort. -/
def Continues (token : Token) : Prop :=
  Concept.Continues token ∨ Actuator.Continues token ∨ World.Continues token

theorem opened?_recognizes : RecognizesTable opened? DeclarationPhrase Continues where
  items {token item} hitem := by
    unfold opened? at hitem
    split at hitem
    · next hkey =>
      exact Option.some.inj hitem ▸ ((Concept.parser_recognizes hkey).map concept).congr
        (fun _ _ => (phrase_iff_concept hkey).symm) fun _ => Or.inl
    split at hitem
    · next hkey =>
      exact Option.some.inj hitem ▸ ((Actuator.parser_recognizes hkey).map actuator).congr
        (fun _ _ => (phrase_iff_actuator hkey).symm) fun _ h => Or.inr (Or.inl h)
    split at hitem
    · next hkey =>
      exact Option.some.inj hitem ▸ ((World.parser_recognizes hkey).map world).congr
        (fun _ _ => (phrase_iff_world hkey).symm) fun _ h => Or.inr (Or.inr h)
    · cases hitem
  opens hread := by
    cases hread with
    | concept h => cases h with | intro h => simp [opened?, h]
    | actuator h => cases h with | intro h => simp [opened?, Token.isKeyword_of_isKeyword h]
    | world h => cases h with | intro h => simp [opened?, Token.isKeyword_of_isKeyword h]
  nonempty := nofun
  inhabited := by
    have hkey := Token.isKeyword_ofKeyword .CONCEPT
    obtain ⟨ending, value, hending, hread⟩ := (Concept.parser_recognizes hkey).inhabited
    refine ⟨Token.ofKeyword .CONCEPT :: ending, concept value, ?_, .concept hread⟩
    simpa [Token.writable_ofKeyword] using hending

/-- No keyword that opens a declaration goes on with one. -/
theorem opened?_of_continues {token : Token} (h : Continues token) : opened? token = none := by
  have hnone : ∀ word ∈ [Keyword.CONCEPT, .WHERE, .WORLD], token.isKeyword word = false := by
    intro word hword
    by_contra hkey
    rw [Bool.not_eq_false] at hkey
    simp only [List.mem_cons, List.not_mem_nil, or_false] at hword
    simp only [Continues, Concept.Continues, Concept.Clause.opened?, Actuator.Continues,
      Action.Continues, Action.opened?, Action.change?, World.Continues, World.ClauseContinues,
      World.Clause.opened?, Token.isKeyword_of_isKeyword hkey,
      Token.isOperator_of_isKeyword hkey] at h
    rcases hword with rfl | rfl | rfl <;> simp at h
  simp [opened?, hnone]

theorem opened?_local : LocalTable opened? where
  congr := .intro fun _ _ _ _ => rfl
  items token item hitem := by
    unfold opened? at hitem
    split at hitem
    · exact Option.some.inj hitem ▸ Concept.parser_local.map _
    split at hitem
    · exact Option.some.inj hitem ▸ Actuator.parser_local.map _
    split at hitem
    · exact Option.some.inj hitem ▸ World.parser_local.map _
    · cases hitem

end Declaration

namespace Program

/-- Refuses any token that is left. -/
def atEnd (declarations : List Declaration) : Parser (List Declaration) := do
  if ← Parser.nextIs fun _ => true then Parser.fail (.expected .declaration)
  else return declarations

/-- Declarations for as long as one opens, and nothing after them. -/
def parser : Parser (List Declaration) := Parser.many Declaration.opened? >>= atEnd

theorem run_atEnd_nil (declarations : List Declaration) :
    (atEnd declarations).run [] = (.ok declarations, []) := rfl

theorem run_atEnd_cons (declarations : List Declaration) (token : Token) (rest : List Token) :
    (atEnd declarations).run (token :: rest) =
      (.error (.expected .declaration), token :: rest) := rfl

theorem atEnd_recognizes (declarations : List Declaration) : Recognizes (atEnd declarations)
    (fun tokens values => tokens = [] ∧ values = declarations) fun _ => True where
  sound {read rest values} hrun := by
    cases htokens : read ++ rest with
    | nil =>
      obtain ⟨rfl, rfl⟩ := List.append_eq_nil_iff.mp htokens
      obtain ⟨hvalues, -⟩ := Prod.mk.inj hrun
      exact ⟨rfl, (Except.ok.inj hvalues).symm⟩
    | cons token after =>
      rw [htokens, run_atEnd_cons] at hrun
      cases hrun
  viable {read rest fault} hrun := by
    cases htokens : read ++ rest with
    | nil =>
      rw [htokens, run_atEnd_nil] at hrun
      cases hrun
    | cons token after =>
      rw [htokens, run_atEnd_cons, ← htokens] at hrun
      obtain ⟨-, hrest⟩ := Prod.mk.inj hrun
      exact ⟨[], declarations, by simp, by simpa using hrest, rfl⟩
  complete {read rest values} hread hends := by
    obtain ⟨rfl, rfl⟩ := hread
    cases rest with
    | nil => rfl
    | cons token rest => exact absurd trivial (ends_cons.mp hends)
  inhabited := ⟨[], declarations, by simp, rfl, rfl⟩

theorem parser_recognizes : Recognizes parser (RepeatPhrase DeclarationPhrase) fun _ => True := by
  have hmany := Declaration.opened?_recognizes.many Declaration.opened?_of_continues
  refine Recognizes.congr (hmany.bind atEnd_recognizes ?_ fun _ _ _ => trivial) ?_ fun _ => id
  · intro declarations token back values hback
    cases hback.1
  · intro tokens values
    constructor
    · intro h
      obtain ⟨front, back, declarations, htokens, hfront, hback, hvalues⟩ := h
      subst hback hvalues
      rw [htokens, List.append_nil]
      exact hfront
    · intro hread
      exact ⟨tokens, [], values, by simp, hread, rfl, rfl⟩

theorem parser_local : Local parser := by
  refine Declaration.opened?_local.many.bind fun declarations => ?_
  refine (local_nextIs (.intro fun _ _ _ _ => rfl)).bind fun isMore => ?_
  split
  · exact local_fail _
  · exact local_pure _

end Program

theorem Program.run_parser_of_ok {token : Token} {rest left : List Token}
    {item : Parser Declaration} {declaration : Declaration}
    (h : Declaration.opened? token = some item) (hitem : item.run rest = (.ok declaration, left)) :
    parser.run (token :: rest) =
      ((parser.run left).1.map (declaration :: ·), (parser.run left).2) := by
  cases hout : (Parser.many Declaration.opened?).run left with
  | mk result after =>
    have hmany := run_many_of_ok h hitem
    rw [hout] at hmany
    cases result with
    | error fault => rw [parser, run_bind_of_error hmany, run_bind_of_error hout]; rfl
    | ok values =>
      rw [parser, run_bind_of_ok hmany, run_bind_of_ok hout]
      cases after <;> rfl

/-- Both ways of reading a body agree. -/
theorem Reading.run_program (tokens : List Token) : Program.parser.run tokens =
    match (ofTokens tokens).fault? with
    | some (fault, rest) => (.error fault, rest)
    | none => (.ok (ofTokens tokens).declarations, []) := by
  fun_induction ofTokens tokens with
  | case1 => exact run_bind_of_ok (run_many_nil _) _
  | case2 token rest hopened => exact run_bind_of_ok (run_many_of_none hopened rest) _
  | case3 token rest item hopened outcome _ fault hfault =>
    exact run_bind_of_error (run_many_of_error hopened (Prod.ext hfault rfl)) _
  | case4 token rest item hopened outcome _ declaration hdeclaration others ih =>
    rw [Program.run_parser_of_ok hopened (Prod.ext hdeclaration rfl), ih]
    cases hfault : others.fault? with
    | none => simp [Except.map, declarations, others]
    | some fault => simp [Except.map]

/-- A model lists the declarations of a text by their sorts. -/
theorem modelPhrase_iff {tokens : List Token} {model : Model} : ModelPhrase tokens model ↔
    ∃ declarations, RepeatPhrase DeclarationPhrase tokens declarations ∧
      model = Model.ofDeclarations declarations := by
  constructor
  · intro hread
    induction hread with
    | nil => exact ⟨[], .nil, rfl⟩
    | concept hconcept _ ih =>
      obtain ⟨declarations, hrest, hmodel⟩ := ih
      refine ⟨_, .cons (.concept hconcept) hrest, ?_⟩
      cases hmodel
      rfl
    | actuator hactuator _ ih =>
      obtain ⟨declarations, hrest, hmodel⟩ := ih
      refine ⟨_, .cons (.actuator hactuator) hrest, ?_⟩
      cases hmodel
      rfl
    | world hworld _ ih =>
      obtain ⟨declarations, hrest, hmodel⟩ := ih
      refine ⟨_, .cons (.world hworld) hrest, ?_⟩
      cases hmodel
      rfl
  · intro h
    obtain ⟨declarations, hread, hmodel⟩ := h
    subst hmodel
    induction hread with
    | nil => exact .nil
    | cons hitem _ ih =>
      cases hitem with
      | concept hconcept => exact .concept hconcept ih
      | actuator hactuator => exact .actuator hactuator ih
      | world hworld => exact .world hworld ih

/-- What compiling comes to, by the reading of the body and the token after it. -/
theorem compile_eq (source : String) : compile source =
    match Program.parser.run (TokenStream.ofSource source).body with
    | (.error fault, rest) => .error
        (Diagnostic.ofFault source fault ((TokenStream.ofSource source).lookahead rest))
    | (.ok declarations, _) =>
      if (TokenStream.ofSource source).last.isError then
        .error (Diagnostic.ofFault source (.expected .declaration)
          (TokenStream.ofSource source).last)
      else .ok (Model.ofDeclarations declarations) := by
  rw [Reading.run_program, compile, compileWith]
  simp only [Reading.ofStream]
  cases hfault : (Reading.ofTokens (TokenStream.ofSource source).body).fault? with
  | some fault => simp [hfault, Options.locate, Options.standard]
  | none =>
    by_cases hlast : (TokenStream.ofSource source).last.isError = true
    · simp [hlast, Options.locate, Options.standard, TokenStream.lookahead]
    · simp [hfault, hlast]

theorem TokenStream.last_isEndOfInput_iff (words : List String) (text : String) :
    (ofText words text).last.isEndOfInput = true ↔ (ofText words text).last.isError = false := by
  have hterminal : (ofText words text).last.isTerminal = true := Cursor.last_isTerminal _ _
  cases hkind : (ofText words text).last.kind <;>
    simp_all [Token.isTerminal, Token.isEndOfInput, Token.isError]

theorem Program.run_parser_ok {tokens rest : List Token} {declarations : List Declaration}
    (h : parser.run tokens = (.ok declarations, rest)) : rest = [] := by
  rw [Reading.run_program] at h
  split at h
  · cases h
  · exact (Prod.mk.inj h).2.symm

theorem compile_eq_ok_iff_run {source : String} {model : Model} : compile source = .ok model ↔
    (TokenStream.ofSource source).last.isEndOfInput = true ∧ ∃ declarations,
      Program.parser.run (TokenStream.ofSource source).body = (.ok declarations, []) ∧
        model = Model.ofDeclarations declarations := by
  rw [compile_eq, TokenStream.ofSource, TokenStream.last_isEndOfInput_iff]
  cases hrun : Program.parser.run (TokenStream.ofText Keyword.reserved source).body with
  | mk result rest =>
    cases result with
    | error fault => simp
    | ok declarations =>
      obtain rfl := Program.run_parser_ok hrun
      by_cases hlast : (TokenStream.ofText Keyword.reserved source).last.isError = true
      · simp [hlast]
      · simp [hlast, eq_comm]

/-- A text compiles to a model exactly when its tokens end well and derive that model. -/
theorem compile_eq_ok_iff_modelPhrase (source : String) (model : Model) :
    compile source = .ok model ↔ (TokenStream.ofSource source).last.isEndOfInput = true ∧
      ModelPhrase (TokenStream.ofSource source).body model := by
  rw [compile_eq_ok_iff_run, modelPhrase_iff]
  refine and_congr_right fun _ => exists_congr fun declarations => and_congr_left fun _ => ?_
  constructor
  · intro hrun
    apply Program.parser_recognizes.sound
    rw [List.append_nil]
    exact hrun
  · intro hread
    have hrun := Program.parser_recognizes.complete hread (ends_nil _)
    rw [List.append_nil] at hrun
    exact hrun

end TagGraph
