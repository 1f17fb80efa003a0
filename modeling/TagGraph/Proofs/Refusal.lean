import TagGraph.Proofs.FirstFault
import TagGraph.Proofs.TokenOrder

/-!
Where a text is refused, and why, is settled by its tokens up to the one that is refused. The parser
looks at none beyond that one, and of the places of tokens it makes no use but to report them. So a
text whose tokens begin in the same way is refused at the same token and for the same reason,
whatever the rest of it may be.
-/

namespace TagGraph

open TagGraph.Parser

/-- The program is refused at what is left of the body of the stream. Where the body is a program,
an error at the end of the stream is refused in place of a declaration. -/
inductive TokenStream.Refused (stream : TokenStream) :
    List Token → List Token → SyntaxFault → Prop
  | inBody {read rest : List Token} {fault : SyntaxFault} (hbody : stream.body = read ++ rest)
      (hrun : Program.parser.run (read ++ rest) = (.error fault, rest)) :
      Refused stream read rest fault
  | atEnd {read : List Token} {declarations : List Declaration} (hbody : stream.body = read)
      (hrun : Program.parser.run read = (.ok declarations, []))
      (hlast : stream.last.isError = true) : Refused stream read [] (.expected .declaration)

namespace TokenStream.Refused

variable {source source' : String} {read rest : List Token} {fault : SyntaxFault}

theorem body_eq {stream : TokenStream} (h : stream.Refused read rest fault) :
    stream.body = read ++ rest := by
  cases h with
  | inBody hbody _ => exact hbody
  | atEnd hbody _ _ => rw [hbody, List.append_nil]

theorem compile_eq (h : (ofSource source).Refused read rest fault) : compile source =
    .error (Diagnostic.ofFault source fault ((ofSource source).lookahead rest)) := by
  rw [TagGraph.compile_eq]
  cases h with
  | inBody hbody hrun => rw [hbody, hrun]
  | atEnd hbody hrun hlast =>
    rw [hbody, hrun]
    exact if_pos hlast

/-- Tokens that are alike up to the refused one are refused there as well. -/
theorem congr (h : (ofSource source).Refused read rest fault) {read' after : List Token}
    {found : Token} (hsplit : (ofSource source').toList = read' ++ found :: after)
    (hread : SameContents read read')
    (hfound : ((ofSource source).lookahead rest).content = found.content) :
    ∃ rest', (ofSource source').Refused read' rest' fault ∧
      (ofSource source').lookahead rest' = found := by
  have hterminal := Token.ofContent_isTerminal _ _ hfound
  cases rest with
  | nil =>
    -- A terminal token is refused, and that can only be the last one of the other text.
    have hend : (ofSource source').body = read' ∧ (ofSource source').last = found := by
      rcases toList_split hsplit with hend | ⟨rest', hbody⟩
      · exact hend
      · have hplain : found.isTerminal = false :=
          @isTerminal_of_mem_body source' _ (by simp [hbody])
        have hlast : found.isTerminal = true := hterminal ▸ last_isTerminal source
        rw [hlast] at hplain
        cases hplain
    obtain ⟨hbody', hlast'⟩ := hend
    refine ⟨[], ?_, hlast'⟩
    cases h with
    | inBody _ hrun =>
      exact .inBody (by rw [hbody', List.append_nil]) (Program.parser_local hrun hread rfl)
    | atEnd _ hrun herror =>
      refine .atEnd hbody' (Program.run_of_sameContents hrun hread) ?_
      rw [hlast', ← Token.ofContent_isError _ _ hfound]
      exact herror
  | cons token rest =>
    cases h with
    | inBody hbody hrun =>
      have hplain : token.isTerminal = false :=
        @isTerminal_of_mem_body source _ (by simp [hbody])
      rcases toList_split hsplit with ⟨-, hlast'⟩ | ⟨rest', hbody'⟩
      · have hlast : found.isTerminal = true := hlast' ▸ last_isTerminal source'
        rw [← hterminal] at hlast
        exact absurd (hlast.symm.trans hplain) (by simp)
      · have hnext : SameNext (token :: rest) (found :: rest') := congrArg some hfound
        exact ⟨found :: rest', .inBody hbody' (Program.parser_local hrun hread hnext), rfl⟩

end TokenStream.Refused

theorem exists_refused_of_error {source : String} {diagnostic : Diagnostic}
    (h : compile source = .error diagnostic) : ∃ read rest fault,
      (TokenStream.ofSource source).Refused read rest fault ∧ diagnostic =
        Diagnostic.ofFault source fault ((TokenStream.ofSource source).lookahead rest) := by
  obtain ⟨read, rest, fault, hbody, hdiagnostic, hrefused⟩ := exists_fault_of_error h
  refine ⟨read, rest, fault, ?_, hdiagnostic⟩
  rcases hrefused with hrun | ⟨rfl, rfl, hlast, declarations, hrun⟩
  · exact .inBody hbody hrun
  · rw [List.append_nil] at hbody
    exact .atEnd hbody hrun hlast

namespace Diagnostic

theorem line_ofFault (source : String) (fault : SyntaxFault) (found : Token) :
    (ofFault source fault found).line = found.position.line ∧
      (ofFault source fault found).column = found.position.column := by
  unfold ofFault
  split <;> exact ⟨rfl, rfl⟩

/-- What a diagnostic is told of its source leaves its place as it is. -/
theorem line_locate (options : Options) (diagnostic : Diagnostic) :
    (options.locate diagnostic).line = diagnostic.line ∧
      (options.locate diagnostic).column = diagnostic.column := by
  rw [Options.locate]
  split <;> exact ⟨rfl, rfl⟩

/-- The same fault found at the same token is reported alike in any text. -/
theorem ofFault_congr (source source' : String) (fault : SyntaxFault) {found found' : Token}
    (h : found.content = found'.content) :
    (ofFault source fault found).kind = (ofFault source' fault found').kind ∧
      (ofFault source fault found).message = (ofFault source' fault found').message := by
  obtain ⟨kind, text, position⟩ := found
  obtain ⟨kind', text', position'⟩ := found'
  obtain ⟨rfl, rfl⟩ := Prod.mk.inj h
  cases fault <;> cases kind <;> exact ⟨rfl, rfl⟩

end Diagnostic

/-- A text whose tokens are those of another one up to the token at which that one is refused is
refused there for the same reason, whatever comes after. -/
theorem compile_error_of_take_eq {source source' : String} {diagnostic : Diagnostic}
    {index : Nat} {found : Token} (herror : compile source = .error diagnostic)
    (hfound : (TokenStream.ofSource source).toList[index]? = some found)
    (hline : diagnostic.line = found.position.line)
    (hcolumn : diagnostic.column = found.position.column)
    (hagree : (TokenStream.ofSource source').toList.take (index + 1) =
      (TokenStream.ofSource source).toList.take (index + 1)) :
    ∃ diagnostic', compile source' = .error diagnostic' ∧ diagnostic'.kind = diagnostic.kind ∧
      diagnostic'.message = diagnostic.message ∧ diagnostic'.line = diagnostic.line ∧
        diagnostic'.column = diagnostic.column := by
  obtain ⟨read, rest, fault, hrefused, rfl⟩ := exists_refused_of_error herror
  obtain ⟨after, hsplit⟩ := TokenStream.toList_eq_lookahead hrefused.body_eq
  obtain ⟨hline', hcolumn'⟩ := Diagnostic.line_ofFault source fault
    ((TokenStream.ofSource source).lookahead rest)
  obtain rfl := TokenStream.index_unique hsplit hfound (hline.symm.trans hline')
    (hcolumn.symm.trans hcolumn')
  have htake : (TokenStream.ofSource source').toList.take (read.length + 1) =
      read ++ [(TokenStream.ofSource source).lookahead rest] := by
    rw [hagree, hsplit, List.take_length_add_append]
    rfl
  have hsplit' : (TokenStream.ofSource source').toList =
      read ++ (TokenStream.ofSource source).lookahead rest ::
        (TokenStream.ofSource source').toList.drop (read.length + 1) := by
    rw [← List.singleton_append, ← List.append_assoc, ← htake, List.take_append_drop]
  obtain ⟨rest', hrefused', hlookahead⟩ := hrefused.congr hsplit' rfl rfl
  obtain ⟨hkind, hmessage⟩ := Diagnostic.ofFault_congr source' source fault
    (congrArg Token.content hlookahead)
  obtain ⟨hline'', hcolumn''⟩ := Diagnostic.line_ofFault source' fault
    ((TokenStream.ofSource source').lookahead rest')
  rw [hlookahead] at hline'' hcolumn''
  exact ⟨_, hrefused'.compile_eq, hkind, hmessage, by rw [hline', hlookahead, hline''],
    by rw [hcolumn', hlookahead, hcolumn'']⟩

/-- An error further on, even one in the reading of tokens, leaves the first one as it is. -/
theorem compile_error_before_lexical_error :
    compile "WORLD w\nROOT a ROOT b" = .error ⟨.syntactic, "duplicate ROOT clause in world 'w'",
      2, 8, "ROOT a ROOT b", none⟩ ∧
    ∃ diagnostic, compile "WORLD w\nROOT a ROOT 9lives $" = .error diagnostic ∧
      diagnostic.kind = .syntactic ∧ diagnostic.message = "duplicate ROOT clause in world 'w'" ∧
        diagnostic.line = 2 ∧ diagnostic.column = 8 := by
  have herror : compile "WORLD w\nROOT a ROOT b" = .error ⟨.syntactic,
      "duplicate ROOT clause in world 'w'", 2, 8, "ROOT a ROOT b", none⟩ := by decide +kernel
  have hfound : (TokenStream.ofSource "WORLD w\nROOT a ROOT b").toList[4]? =
      some ⟨.keyword, "ROOT", 15, 2, 8⟩ := by decide +kernel
  have hagree : (TokenStream.ofSource "WORLD w\nROOT a ROOT 9lives $").toList.take 5 =
      (TokenStream.ofSource "WORLD w\nROOT a ROOT b").toList.take 5 := by decide +kernel
  exact ⟨herror, compile_error_of_take_eq herror hfound rfl rfl hagree⟩

end TagGraph
