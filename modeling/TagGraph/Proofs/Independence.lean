import TagGraph.Proofs.Layout
import TagGraph.Proofs.OpeningKeywords

/-!
Declarations do not depend on each other. A program cut where its declarations are opened falls into
pieces that compile by themselves, each to a model of one declaration, and the model of the program
is put together from those in their order. Nothing but a gap comes before the first piece.
-/

namespace TagGraph

open Segment (text)

namespace SourceLine

/-- Cuts a text at each of the offsets, which must ascend, into what comes before the first of them
and a piece from every one to the next. -/
def cutAll? : List Nat → List Char → Option (List Char × List (List Char))
  | [], text => some (text, [])
  | offset :: offsets, text => do
    -- Later cuts are made first, so that every offset still counts from the front of the text.
    let (front, pieces) ← cutAll? offsets text
    let (before, piece) ← cut? offset front
    return (before, piece :: pieces)

theorem cutAll?_cons {offsets : List Nat} {text before piece : List Char}
    {pieces : List (List Char)} (h : cutAll? offsets text = some (before ++ piece, pieces)) :
    cutAll? ((Position.start.advanceBy before).offset :: offsets) text =
      some (before, piece :: pieces) := by
  have hcut : cut? (Position.start.advanceBy before).offset (before ++ piece) =
      some (before, piece) := by
    rw [Position.offset_advanceBy, Position.start, Nat.zero_add, cut?_append]
  simp [cutAll?, h, hcut]

end SourceLine

/-- The byte offsets at which the keywords stand that open declarations. -/
def openings (tokens : List Token) : List Nat :=
  (tokens.filter Token.opensDeclaration).map (·.position.offset)

/-- The model of a program is put together from the models of its declarations. -/
theorem Model.ofDeclarations_eq_foldr (declarations : List Declaration) :
    ofDeclarations declarations =
      (declarations.map fun declaration => ofDeclarations [declaration]).foldr append
        ⟨[], [], []⟩ := by
  induction declarations with
  | nil => rfl
  | cons declaration others ih =>
    rw [List.map_cons, List.foldr_cons, ← ih, ← ofDeclarations_append, List.singleton_append]

theorem openings_declaration {tokens : List Token} {declaration : Declaration}
    (h : DeclarationPhrase tokens declaration) (others : List Token) :
    ∃ key rest, tokens = key :: rest ∧
      openings (tokens ++ others) = key.position.offset :: openings others := by
  obtain ⟨key, rest, rfl, hkey, hrest⟩ := h.exists_key
  refine ⟨key, rest, rfl, ?_⟩
  have hopens : key.opensDeclaration = true := by
    rw [Token.opensDeclaration_of_isKeyword hkey, declaration.opensDeclaration_keyword]
  have hnone : rest.filter Token.opensDeclaration = [] := by
    simpa [List.filter_eq_nil_iff, OpensNone] using hrest
  simp [openings, hopens, hnone]

namespace Segmented

variable {reserved : List String} {position : Position} {segment : Segment}
  {others : List Segment} {rest gap : List Char}

/-- Without the gap before them segments can stand where their first token does. -/
theorem dropGap (h : Segmented reserved position (segment :: others) rest) :
    Segmented reserved segment.token.position ({ segment with gap := [] } :: others) rest := by
  cases h with
  | cons _ hpiece hplace hothers =>
    rw [Segment.chars, Position.advanceBy_append, ← hplace] at hothers
    exact .cons (hpiece.longestGap .nil) hpiece rfl hothers

theorem compile_declaration {declaration : Declaration}
    (h : Segmented Keyword.reserved position (segment :: others) gap) (hgap : Gap gap [])
    (hread : DeclarationPhrase (Segment.tokens (segment :: others)) declaration) :
    compile (String.ofList (segment.raw ++ (text others ++ gap))) =
      .ok (Model.ofDeclarations [declaration]) := by
  have htiling := h.dropGap.tiling hgap
  refine compile_of_tiling ?_ (.one hread)
  rw [String.toList_ofList]
  simpa [Segment.tokens] using htiling

/-- Cut where declarations are opened, segments fall into texts of one declaration each. -/
theorem cutAll?_openings (before : List Char) {segments : List Segment} {last : List Char}
    {declarations : List Declaration}
    (h : Segmented Keyword.reserved (Position.start.advanceBy before) segments last)
    (hlast : Gap last [])
    (hread : RepeatPhrase DeclarationPhrase (Segment.tokens segments) declarations) :
    ∃ gap pieces, text segments ++ last = gap ++ pieces.flatten ∧ Gap gap pieces.flatten ∧
      SourceLine.cutAll? (openings (Segment.tokens segments))
        (before ++ (text segments ++ last)) = some (before ++ gap, pieces) ∧
      pieces.map (fun piece => compile (String.ofList piece)) =
        declarations.map fun declaration => .ok (Model.ofDeclarations [declaration]) := by
  -- On the declarations: what they are written as joins the text before the next ones, since every
  -- offset counts from the front of the whole text.
  generalize htokens : Segment.tokens segments = tokens at hread
  induction hread generalizing before segments with
  | nil =>
    obtain rfl := List.map_eq_nil_iff.mp htokens
    exact ⟨last, [], by simp, hlast, rfl, rfl⟩
  | @cons front back declaration others hitem hothers ih =>
    obtain ⟨key, rest, hfront, hopenings⟩ := openings_declaration hitem back
    obtain ⟨these, those, rfl, hthese, hthose⟩ := List.map_eq_append_iff.mp htokens
    obtain ⟨segment, inner, rfl, hkey, -⟩ := List.map_eq_cons_iff.mp (hthese.trans hfront)
    obtain ⟨hone, hmore⟩ := append_iff.mp h
    rw [← Position.advanceBy_append] at hmore
    obtain ⟨gap, pieces, hafter, hgap, hcut, hpieces⟩ := ih _ hmore hthose
    rw [hafter] at hone hcut
    have hcompiles := (hone.congr (.of_append gap _)).compile_declaration
      (hgap.congr fun _ => rfl) (hthese ▸ hitem)
    cases hone with
    | cons hbefore _ hplace _ =>
      refine ⟨segment.gap, (segment.raw ++ (text inner ++ gap)) :: pieces, ?_, ?_, ?_, ?_⟩
      · simp [hafter]
      · simpa using hbefore.isGap
      · rw [hopenings, ← hkey, hplace, ← Position.advanceBy_append]
        apply SourceLine.cutAll?_cons
        simpa [hafter] using hcut
      · rw [List.map_cons, List.map_cons, hcompiles, hpieces]

end Segmented

/-- The declarations of one sort are as many as the keywords that open them. -/
theorem length_filterMap_declarations {α : Type} {tokens : List Token}
    {declarations : List Declaration} (h : RepeatPhrase DeclarationPhrase tokens declarations)
    {word : Keyword} (hword : word.opensDeclaration = true) (sort? : Declaration → Option α)
    (hsort : ∀ declaration, (sort? declaration).isSome = (declaration.keyword == word)) :
    tokens.countP (·.isKeyword word) = (declarations.filterMap sort?).length := by
  rw [countP_isKeyword h hword, List.length_filterMap_eq_countP]
  exact List.countP_congr fun declaration _ => by rw [hsort]

/-- A program has as many declarations of each sort as it has keywords that open them. Cut at those
keywords it falls into a gap and texts that compile to the declarations one by one. -/
theorem compile_cutAll? {source : String} {model : Model} (h : compile source = .ok model) :
    (TokenStream.ofSource source).toList.countP (·.isKeyword .CONCEPT) = model.concepts.length ∧
    (TokenStream.ofSource source).toList.countP (·.isKeyword .WHERE) = model.actuators.length ∧
    (TokenStream.ofSource source).toList.countP (·.isKeyword .WORLD) = model.worlds.length ∧
    ∃ gap pieces, ∃ parts : List Model,
      SourceLine.cutAll? (openings (TokenStream.ofSource source).toList) source.toList =
        some (gap, pieces) ∧ Gap gap pieces.flatten ∧
      pieces.map (fun piece => compile (String.ofList piece)) = parts.map .ok ∧
      (∀ part ∈ parts, part.concepts.length + part.actuators.length + part.worlds.length = 1) ∧
      model = parts.foldr Model.append ⟨[], [], []⟩ := by
  obtain ⟨hend, declarations, hrun, rfl⟩ := compile_eq_ok_iff_run.mp h
  have hread := Program.run_sound hrun
  have hlast : ∀ word, (TokenStream.ofSource source).last.isKeyword word = false := by
    intro word
    rw [Token.isEndOfInput, beq_iff_eq] at hend
    simp [Token.isKeyword, Token.isWord, hend]
  have hcount : ∀ word, (TokenStream.ofSource source).toList.countP (·.isKeyword word) =
      (TokenStream.ofSource source).body.countP (·.isKeyword word) := by
    intro word
    simp [TokenStream.toList, hlast]
  have hopenings : openings (TokenStream.ofSource source).toList =
      openings (TokenStream.ofSource source).body := by
    simp [openings, TokenStream.toList, Token.opensDeclaration, hlast]
  obtain ⟨left, hsource, hleft, hsegmented, htokens⟩ := TokenStream.exists_segments hend
  obtain ⟨gap, pieces, -, hgap, hcut, hcompiles⟩ :=
    Segmented.cutAll?_openings [] hsegmented hleft (htokens ▸ hread)
  rw [htokens, ← hsource, List.nil_append, List.nil_append] at hcut
  rw [hcount, hcount, hcount, hopenings]
  refine ⟨length_filterMap_declarations hread rfl _ ?_,
    length_filterMap_declarations hread rfl _ ?_,
    length_filterMap_declarations hread rfl _ ?_, gap, pieces,
    declarations.map fun declaration => Model.ofDeclarations [declaration], hcut, hgap, ?_, ?_,
    Model.ofDeclarations_eq_foldr declarations⟩
  · rintro (_ | _ | _) <;> rfl
  · rintro (_ | _ | _) <;> rfl
  · rintro (_ | _ | _) <;> rfl
  · rw [hcompiles, List.map_map]
    rfl
  · intro part hmem
    obtain ⟨declaration, -, rfl⟩ := List.mem_map.mp hmem
    cases declaration <;> rfl

/-- A comment may come before the first declaration. -/
theorem compile_cutAll?_joined_worlds :
    compile "#x\nWORLD v BIND a.b TO c.d WORLD w" =
        .ok ⟨[], [], [⟨"v", none, [], [⟨⟨"a", "b"⟩, ⟨"c", "d"⟩⟩]⟩, ⟨"w", none, [], []⟩]⟩ ∧
      ∃ parts : List Model,
        ["WORLD v BIND a.b TO c.d ".toList, "WORLD w".toList].map
          (fun piece => compile (String.ofList piece)) = parts.map .ok ∧
        (∀ part ∈ parts, part.concepts.length + part.actuators.length + part.worlds.length = 1) ∧
        ⟨[], [], [⟨"v", none, [], [⟨⟨"a", "b"⟩, ⟨"c", "d"⟩⟩]⟩, ⟨"w", none, [], []⟩]⟩ =
          parts.foldr Model.append ⟨[], [], []⟩ := by
  have hcompiles : compile "#x\nWORLD v BIND a.b TO c.d WORLD w" =
      .ok ⟨[], [], [⟨"v", none, [], [⟨⟨"a", "b"⟩, ⟨"c", "d"⟩⟩]⟩, ⟨"w", none, [], []⟩]⟩ := by
    decide +kernel
  have hcut : SourceLine.cutAll?
      (openings (TokenStream.ofSource "#x\nWORLD v BIND a.b TO c.d WORLD w").toList)
      "#x\nWORLD v BIND a.b TO c.d WORLD w".toList =
        some ("#x\n".toList, ["WORLD v BIND a.b TO c.d ".toList, "WORLD w".toList]) := by
    decide +kernel
  obtain ⟨-, -, -, gap, pieces, parts, hcut', -, hpieces, hone, hmodel⟩ := compile_cutAll? hcompiles
  rw [hcut] at hcut'
  obtain ⟨rfl, rfl⟩ := Prod.mk.inj (Option.some.inj hcut')
  exact ⟨hcompiles, parts, hpieces, hone, hmodel⟩

end TagGraph
