import TagGraph.Proofs.Refusal

/-!
Neither the layout of a text nor the case of its keywords matters. The pieces of a text that ends
well may be set out anew, with any gaps between them that are not empty, and a keyword may be any
word that is that keyword in capitals. The tokens stay the same but for their places, and so does
what the text compiles to.
-/

namespace TagGraph

open Segment (text)

/-- A word of the shape of a name. -/
def Identifier.IsWord (raw : List Char) : Prop :=
  ∃ c others, raw = c :: others ∧ isStart c = true ∧ ∀ d ∈ others, isPart d = true

/-- The piece as it stands, or for a keyword some word that is the same in capitals. -/
def Segment.SpelledAs (segment : Segment) (raw : List Char) : Prop :=
  raw = segment.raw ∨ segment.token.kind = .keyword ∧ Identifier.IsWord raw ∧
    Unicode.uppercase (String.ofList raw) = Unicode.uppercase (String.ofList segment.raw)

/-- The pieces in order, each with a gap after it that is not empty where another piece follows. -/
inductive Spaced : List Segment → List Char → Prop
  | nil : Spaced [] []
  | cons {segment : Segment} {others : List Segment} {raw gap rest : List Char}
      (hraw : segment.SpelledAs raw) (hgap : Gap gap rest) (hsome : others ≠ [] → gap ≠ [])
      (hrest : Spaced others rest) : Spaced (segment :: others) (raw ++ (gap ++ rest))

/-- A text in which the pieces are set out anew, with any gap before the first one. -/
def LaidOut (segments : List Segment) (source : List Char) : Prop :=
  ∃ gap rest, source = gap ++ rest ∧ Gap gap rest ∧ Spaced segments rest

/-- A keyword spelled in another case is a piece for the same token. -/
theorem Segment.SpelledAs.piece {reserved : List String} {segment : Segment}
    {raw rest rest' : List Char} (h : segment.SpelledAs raw)
    (hpiece : Piece reserved segment.raw rest segment.token.content)
    (hrest : ∀ other, StandsIn rest' other) : Piece reserved raw rest' segment.token.content := by
  rcases h with rfl | ⟨hkind, hword, hcapitals⟩
  · exact hpiece.congr (hrest rest)
  · obtain ⟨c, others, rfl, hstart, hothers⟩ := hword
    have hnext : ∀ d ∈ rest'.head?, Identifier.isPart d = false := by
      intro d hmem
      rcases hrest [] d hmem with hnone | hbegins
      · cases hnone
      · exact hbegins.not_isPart
    generalize hraw : segment.raw = written at hpiece hcapitals
    generalize hcontent : segment.token.content = content at hpiece
    have hreads : content.1 = .keyword := (congrArg Prod.fst hcontent).symm.trans hkind
    cases hpiece with
    | keyword _ _ _ hreserved =>
      rw [← hcapitals] at hreserved ⊢
      exact .keyword hstart hothers hnext hreserved
    | _ => cases hreads

theorem Segmented.tiling {reserved : List String} {position : Position} {segments : List Segment}
    {gap : List Char} (h : Segmented reserved position segments gap) (hgap : Gap gap []) :
    Tiling reserved (text segments ++ gap)
      ((Segment.tokens segments).map Token.content ++ [(.endOfInput, "")]) := by
  induction h with
  | nil => exact .done (.of_nil hgap)
  | cons hbefore hpiece _ _ ih =>
    rw [Segment.text_cons, List.append_assoc, List.append_assoc]
    exact .token hbefore hpiece (ih hgap)

/-- The pieces tile a text in the same way however they are set out. -/
theorem Spaced.tiling {reserved : List String} {position : Position} {segments : List Segment}
    {left gap rest : List Char} (h : Spaced segments rest) (hgap : Gap gap rest)
    (hsegmented : Segmented reserved position segments left) : Tiling reserved (gap ++ rest)
      ((Segment.tokens segments).map Token.content ++ [(.endOfInput, "")]) := by
  induction h generalizing position gap with
  | nil =>
    rw [List.append_nil]
    exact .done (.of_nil hgap)
  | @cons segment others raw after rest hraw hafter hsome hrest ih =>
    cases hsegmented with
    | cons _ hpiece _ hothers =>
      have hends : after = [] → rest = [] := by
        intro hnone
        cases hrest with
        | nil => rfl
        | cons _ _ _ _ => exact absurd hnone (hsome (List.cons_ne_nil _ _))
      have hpiece' := hraw.piece hpiece fun other => .of_gap hafter hends other
      exact .token (hpiece'.longestGap hgap) hpiece' (ih hafter hothers)

/-- Texts whose tokens only their places tell apart compile to the same model, or are refused for
the same reason. -/
theorem compile_of_sameContents {source source' : String}
    (h : SameContents (TokenStream.ofSource source).toList (TokenStream.ofSource source').toList) :
    (∃ model, compile source = .ok model ∧ compile source' = .ok model) ∨
    ∃ diagnostic diagnostic', compile source = .error diagnostic ∧
      compile source' = .error diagnostic' ∧ diagnostic'.kind = diagnostic.kind ∧
        diagnostic'.message = diagnostic.message := by
  cases hcompile : compile source with
  | ok model =>
    obtain ⟨hlast, declarations, hrun, hmodel⟩ := compile_eq_ok_iff_run.mp hcompile
    have hcontents := h
    rw [SameContents, TokenStream.toList, TokenStream.toList, List.map_append, List.map_append]
      at hcontents
    obtain ⟨hbody, hends⟩ := List.append_inj' hcontents rfl
    have hkind : (TokenStream.ofSource source).last.kind =
        (TokenStream.ofSource source').last.kind := congrArg Prod.fst (List.cons.inj hends).1
    refine Or.inl ⟨model, rfl, compile_eq_ok_iff_run.mpr ⟨?_, declarations, ?_, hmodel⟩⟩
    · rw [Token.isEndOfInput, hkind] at hlast
      exact hlast
    · exact Program.run_of_sameContents hrun hbody
  | error diagnostic =>
    obtain ⟨read, rest, fault, hrefused, rfl⟩ := exists_refused_of_error hcompile
    obtain ⟨after, hsplit⟩ := TokenStream.toList_eq_lookahead hrefused.body_eq
    rw [hsplit] at h
    obtain ⟨read', others, hsplit', hread, hothers⟩ := h.exists_append
    obtain ⟨found, after', rfl, hfound, -⟩ := hothers.exists_cons
    obtain ⟨rest', hrefused', hlookahead⟩ := hrefused.congr hsplit' hread hfound
    rw [← hlookahead] at hfound
    obtain ⟨hkind, hmessage⟩ := Diagnostic.ofFault_congr source' source fault hfound.symm
    exact Or.inr ⟨_, _, rfl, hrefused'.compile_eq, hkind, hmessage⟩

/-- Setting out the pieces of a text anew, with keywords in any case, changes no token but in its
place, nor the model that the text compiles to or the reason for which it does not. -/
theorem compile_of_laidOut {source source' : String}
    (hend : (TokenStream.ofSource source).last.isEndOfInput = true)
    (hlaid : LaidOut (Segment.ofSource source) source'.toList) :
    (TokenStream.ofSource source').toList.map Token.content =
        (TokenStream.ofSource source).toList.map Token.content ∧
      ((∃ model, compile source = .ok model ∧ compile source' = .ok model) ∨
      ∃ diagnostic diagnostic', compile source = .error diagnostic ∧
        compile source' = .error diagnostic' ∧ diagnostic'.kind = diagnostic.kind ∧
          diagnostic'.message = diagnostic.message) := by
  obtain ⟨last, hsource, hlast, hsegmented, -⟩ := TokenStream.exists_segments hend
  obtain ⟨gap, rest, hsource', hgap, hspaced⟩ := hlaid
  have hcontents := Cursor.contents_of_tiling (hsegmented.tiling hlast) .start
  have hcontents' := Cursor.contents_of_tiling (hspaced.tiling hgap hsegmented) .start
  rw [← hsource, ← TokenStream.ofSource_eq] at hcontents
  rw [← hsource', ← TokenStream.ofSource_eq] at hcontents'
  have hsame : SameContents (TokenStream.ofSource source).toList
      (TokenStream.ofSource source').toList := hcontents.trans hcontents'.symm
  exact ⟨hsame.symm, compile_of_sameContents hsame⟩

/-- A comment may end a text, and a long `s` in a keyword is an `S` in capitals. -/
theorem compile_of_laidOut_long_s :
    LaidOut (Segment.ofSource "CONCEPT a SLOT b") "\nconcept\ta \u017flot#x\nb#y".toList ∧
      (TokenStream.ofSource "\nconcept\ta \u017flot#x\nb#y").toList.map Token.content =
        (TokenStream.ofSource "CONCEPT a SLOT b").toList.map Token.content ∧
      ∃ model, compile "CONCEPT a SLOT b" = .ok model ∧
        compile "\nconcept\ta \u017flot#x\nb#y" = .ok model := by
  have hsegments : Segment.ofSource "CONCEPT a SLOT b" =
      [⟨[], "CONCEPT".toList, .keyword, "CONCEPT", 0, 1, 1⟩,
        ⟨[' '], ['a'], .identifier, "a", 8, 1, 9⟩,
        ⟨[' '], "SLOT".toList, .keyword, "SLOT", 10, 1, 11⟩,
        ⟨[' '], ['b'], .identifier, "b", 15, 1, 16⟩] := by decide +kernel
  have hconcept : Identifier.IsWord "concept".toList :=
    ⟨'c', "oncept".toList, by decide, by decide +kernel, List.all_eq_true.mp (by decide +kernel)⟩
  have hslot : Identifier.IsWord "\u017flot".toList :=
    ⟨'\u017f', "lot".toList, by decide, by decide +kernel, List.all_eq_true.mp (by decide +kernel)⟩
  have hspaced : Spaced (Segment.ofSource "CONCEPT a SLOT b")
      ("concept".toList ++ (['\t'] ++ (['a'] ++ ([' '] ++ ("\u017flot".toList ++
        ("#x\n".toList ++ (['b'] ++ ("#y".toList ++ [])))))))) := by
    rw [hsegments]
    refine .cons (.inr ⟨rfl, hconcept, by decide +kernel⟩) (.space (by decide) .nil) (by simp) ?_
    refine .cons (.inl rfl) (.space (by decide) .nil) (by simp) ?_
    refine .cons (.inr ⟨rfl, hslot, by decide +kernel⟩) ?_ (by simp) ?_
    · exact .comment (show '\n' ∉ ['x'] by decide) .nil
    · exact .cons (.inl rfl) (.lastComment (by decide)) nofun .nil
  have hlaid : LaidOut (Segment.ofSource "CONCEPT a SLOT b")
      "\nconcept\ta \u017flot#x\nb#y".toList :=
    ⟨['\n'], _, by decide +kernel, .space (by decide) .nil, hspaced⟩
  obtain ⟨hcontents, hmodel | ⟨diagnostic, _, herror, _⟩⟩ :=
    compile_of_laidOut (by decide +kernel) hlaid
  · exact ⟨hlaid, hcontents, hmodel⟩
  · have hcompiles : (compile "CONCEPT a SLOT b").isOk = true := by decide +kernel
    rw [herror] at hcompiles
    cases hcompiles

end TagGraph
