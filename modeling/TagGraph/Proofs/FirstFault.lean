import TagGraph.Proofs.ProgramFaults
import TagGraph.Proofs.Writing

/-!
A diagnostic is for the first token with which a text cannot go on to be a program. What was read
before it is the beginning of one: it can be written down again and completed. With that token it is
not, since a parser that refuses a token refuses it whatever comes after.
-/

namespace TagGraph

open TagGraph.Parser

/-- Some text that compiles begins with these tokens, wherever they stand in it. -/
def Extendable (tokens : List Token) : Prop :=
  ∃ source model, compile source = .ok model ∧
    tokens.map Token.content <+: (TokenStream.ofSource source).toList.map Token.content

theorem Extendable.left {front back : List Token} (h : Extendable (front ++ back)) :
    Extendable front := by
  obtain ⟨source, model, hcompile, hprefix⟩ := h
  rw [List.map_append] at hprefix
  exact ⟨source, model, hcompile, (List.prefix_append _ _).trans hprefix⟩

/-- A diagnostic for a token after others. It passes on the message of an error token. For any other
token it says what was found, unless a wildcard or a clause that was read before is the reason. -/
structure Diagnostic.Reports (diagnostic : Diagnostic) (before : List Token) (found : Token) :
    Prop where
  line : diagnostic.line = found.position.line
  column : diagnostic.column = found.position.column
  lexical : ∀ message, found.kind = .error message →
    diagnostic.kind = .lexical ∧ diagnostic.message = message
  syntactic : found.isError = false → diagnostic.kind = .syntactic ∧
    ((∃ what, diagnostic.message = what ++ ", found " ++ found.describe) ∨
      (∃ word, JoinsWildcard word before found ∧
        diagnostic.message = word.text ++ " must be the only condition") ∨
      ∃ word world, RepeatsClause word world before found ∧
        diagnostic.message = "duplicate " ++ word.text ++ " clause in world '" ++ world ++ "'")

theorem Token.isError_iff {token : Token} :
    token.isError = true ↔ ∃ message, token.kind = .error message := by
  cases hkind : token.kind <;> simp [isError, hkind]

theorem extendable_of_viable {tokens : List Token} (hwritable : ∀ token ∈ tokens, token.Writable)
    (h : (RepeatPhrase DeclarationPhrase).Viable tokens) : Extendable tokens := by
  obtain ⟨ending, declarations, hending, hread⟩ := h
  have hall : ∀ token ∈ tokens ++ ending, token.Writable := by
    intro token hmem
    rcases List.mem_append.mp hmem with hmem | hmem
    · exact hwritable token hmem
    · exact hending token hmem
  refine ⟨_, _, compile_write hall hread, ?_⟩
  have hbody : SameContents _ (tokens ++ ending) := (Token.read_write hall).1
  rw [TokenStream.toList, List.map_append, hbody, List.map_append, List.append_assoc]
  exact List.prefix_append _ _

/-- Where the tokens of a text begin with others, the text has those that correspond to them. -/
theorem Extendable.exists_stream {before : List Token} {found : Token}
    (h : Extendable (before ++ [found])) : ∃ source declarations before' found' after,
      Program.parser.run (TokenStream.ofSource source).body = (.ok declarations, []) ∧
        (TokenStream.ofSource source).last.isEndOfInput = true ∧
          (TokenStream.ofSource source).toList = before' ++ found' :: after ∧
            SameContents before before' ∧ found.content = found'.content := by
  obtain ⟨source, model, hcompile, after, hafter⟩ := h
  obtain ⟨hlast, declarations, hrun, -⟩ := compile_eq_ok_iff_run.mp hcompile
  obtain ⟨front, back, hall, hfront, -⟩ := List.map_eq_append_iff.mp hafter.symm
  obtain ⟨before', others, rfl, hbefore, hothers⟩ := SameContents.exists_append hfront.symm
  obtain ⟨found', rest, rfl, hfound, hrest⟩ := SameContents.exists_cons hothers
  obtain rfl : rest = [] := List.length_eq_zero_iff.mp hrest.length_eq.symm
  refine ⟨source, declarations, before', found', back, hrun, hlast, ?_, hbefore, hfound⟩
  rw [hall, List.append_assoc, List.singleton_append]

namespace TokenStream

theorem toList_split {stream : TokenStream} {before after : List Token} {found : Token}
    (h : stream.toList = before ++ found :: after) :
    stream.body = before ∧ stream.last = found ∨ ∃ rest, stream.body = before ++ found :: rest := by
  rcases List.eq_nil_or_concat after with rfl | ⟨rest, last, rfl⟩
  · obtain ⟨hbody, hlast⟩ := List.append_inj' h rfl
    exact Or.inl ⟨hbody, (List.cons.inj hlast).1⟩
  · rw [List.concat_eq_append, ← List.cons_append, ← List.append_assoc] at h
    exact Or.inr ⟨rest, (List.append_inj' h rfl).1⟩

theorem isTerminal_of_mem_body {source : String} {token : Token}
    (h : token ∈ (ofSource source).body) : token.isTerminal = false :=
  Cursor.not_isTerminal_of_mem_body _ _ token h

theorem last_isTerminal (source : String) : (ofSource source).last.isTerminal = true :=
  Cursor.last_isTerminal _ _

end TokenStream

theorem Token.ofContent_isTerminal : OfContent isTerminal := .intro fun _ _ _ _ => rfl

theorem Token.ofContent_isError : OfContent isError := .intro fun _ _ _ _ => rfl

/-- A token that a program cannot go on with is refused whatever follows it. -/
theorem not_extendable_of_refused {read rest : List Token} {found : Token} {fault : SyntaxFault}
    (h : Program.parser.run (read ++ found :: rest) = (.error fault, found :: rest))
    (hfound : found.isTerminal = false) : ¬Extendable (read ++ [found]) := by
  intro hextends
  obtain ⟨source, declarations, read', found', after, hrun, hlast, hsplit, hread, hcontent⟩ :=
    hextends.exists_stream
  rcases TokenStream.toList_split hsplit with ⟨-, hfound'⟩ | ⟨rest', hbody⟩
  · have hterminal := TokenStream.last_isTerminal source
    rw [hfound', ← Token.ofContent_isTerminal _ _ hcontent, hfound] at hterminal
    cases hterminal
  · have hnext : SameNext (found :: rest) (found' :: rest') := congrArg some hcontent
    rw [hbody, Program.parser_local h hread hnext] at hrun
    cases hrun

/-- Tokens that a program cannot end with are none when the text ends after them. -/
theorem not_extendable_of_unended {read : List Token} {last : Token} {fault : SyntaxFault}
    (h : Program.parser.run read = (.error fault, [])) (hlast : last.isTerminal = true) :
    ¬Extendable (read ++ [last]) := by
  intro hextends
  obtain ⟨source, declarations, read', last', after, hrun, -, hsplit, hread, hcontent⟩ :=
    hextends.exists_stream
  rcases TokenStream.toList_split hsplit with ⟨hbody, -⟩ | ⟨rest', hbody⟩
  · rw [← List.append_nil read] at h
    have hrefused := Program.parser_local h hread (rfl : SameNext [] [])
    rw [hbody, ← List.append_nil read', hrefused] at hrun
    cases hrun
  · have hmem : last' ∈ (TokenStream.ofSource source).body := by simp [hbody]
    have hterminal := TokenStream.isTerminal_of_mem_body hmem
    rw [← Token.ofContent_isTerminal _ _ hcontent, hlast] at hterminal
    cases hterminal

theorem not_extendable_of_isError {read : List Token} {found : Token}
    (hfound : found.isError = true) : ¬Extendable (read ++ [found]) := by
  intro hextends
  obtain ⟨source, declarations, read', found', after, -, hlast, hsplit, -, hcontent⟩ :=
    hextends.exists_stream
  have herror : found'.isError = true := by
    rw [← Token.ofContent_isError _ _ hcontent, hfound]
  rcases TokenStream.toList_split hsplit with ⟨-, hfound'⟩ | ⟨rest', hbody⟩
  · have hnone := (TokenStream.last_isEndOfInput_iff Keyword.reserved source).mp hlast
    have hsame : (TokenStream.ofText Keyword.reserved source).last = found' := hfound'
    rw [hsame, herror] at hnone
    cases hnone
  · have hmem : found' ∈ (TokenStream.ofSource source).body := by simp [hbody]
    have hterminal := TokenStream.isTerminal_of_mem_body hmem
    simp [Token.isTerminal, herror] at hterminal

namespace Diagnostic

theorem reports_expected (source : String) (what : Expectation) (before : List Token)
    (found : Token) : (ofFault source (.expected what) found).Reports before found := by
  cases hkind : found.kind with
  | error message =>
    have hfault : ofFault source (.expected what) found =
        atToken source .lexical message found := by simp [ofFault, hkind]
    rw [hfault]
    refine ⟨rfl, rfl, ?_, ?_⟩
    · intro message' hmessage
      obtain rfl : message = message' := by simpa [hkind] using hmessage
      exact ⟨rfl, rfl⟩
    · intro hnone
      simp [Token.isError, hkind] at hnone
  | _ =>
    have hfault : ofFault source (.expected what) found =
        atToken source .syntactic (SyntaxFault.message found (.expected what)) found := by
      simp [ofFault, hkind]
    rw [hfault]
    refine ⟨rfl, rfl, ?_, ?_⟩
    · intro message hmessage
      simp [hkind] at hmessage
    · intro _
      exact ⟨rfl, Or.inl ⟨"expected " ++ what.text, rfl⟩⟩

theorem reports_of_caused (source : String) {before rest : List Token} {found : Token}
    {fault : SyntaxFault} (hcaused : Caused before rest fault)
    (hhead : ∀ token ∈ rest.head?, token = found) :
    (ofFault source fault found).Reports before found := by
  cases fault with
  | expected what => exact reports_expected source what before found
  | wildcardNotAlone word =>
    obtain ⟨token, hmem, hjoins⟩ := hcaused
    obtain rfl := hhead token hmem
    have hkind := Token.kind_of_isKeyword hjoins.2.1
    refine ⟨rfl, rfl, ?_, ?_⟩
    · intro message hmessage
      simp [hkind] at hmessage
    · intro _
      exact ⟨rfl, Or.inr (Or.inl ⟨word, hjoins, rfl⟩)⟩
  | repeatedClause word world =>
    obtain ⟨token, hmem, hrepeats⟩ := hcaused
    obtain rfl := hhead token hmem
    have hkind := Token.kind_of_isKeyword hrepeats.1
    refine ⟨rfl, rfl, ?_, ?_⟩
    · intro message hmessage
      simp [hkind] at hmessage
    · intro _
      exact ⟨rfl, Or.inr (Or.inr ⟨word, world, hrepeats, rfl⟩)⟩

end Diagnostic

/-- A text that does not compile is refused at a token of its body or at the last one. -/
theorem exists_fault_of_error {source : String} {diagnostic : Diagnostic}
    (h : compile source = .error diagnostic) : ∃ read rest fault,
      (TokenStream.ofSource source).body = read ++ rest ∧
        diagnostic =
            Diagnostic.ofFault source fault ((TokenStream.ofSource source).lookahead rest) ∧
          (Program.parser.run (read ++ rest) = (.error fault, rest) ∨
            rest = [] ∧ fault = .expected .declaration ∧
              (TokenStream.ofSource source).last.isError = true ∧
                ∃ declarations, Program.parser.run read = (.ok declarations, [])) := by
  rw [compile_eq] at h
  cases hrun : Program.parser.run (TokenStream.ofSource source).body with
  | mk result rest =>
    obtain ⟨read, hread⟩ := exists_read hrun
    rw [hrun] at h
    cases result with
    | error fault =>
      refine ⟨read, rest, fault, hread, (Except.error.inj h).symm, Or.inl ?_⟩
      rw [← hread, hrun]
    | ok declarations =>
      obtain rfl := Program.run_parser_ok hrun
      rw [List.append_nil] at hread
      by_cases hlast : (TokenStream.ofSource source).last.isError = true
      · simp only [hlast, if_true, Except.error.injEq] at h
        refine ⟨read, [], .expected .declaration, by simp [hread], h.symm, Or.inr ?_⟩
        exact ⟨rfl, rfl, hlast, declarations, by rw [← hread, hrun]⟩
      · simp [hlast] at h

theorem TokenStream.toList_eq_lookahead {stream : TokenStream} {read rest : List Token}
    (h : stream.body = read ++ rest) :
    ∃ after, stream.toList = read ++ stream.lookahead rest :: after := by
  rw [toList, h, List.append_assoc]
  cases rest with
  | nil => exact ⟨[], rfl⟩
  | cons token rest => exact ⟨rest ++ [stream.last], rfl⟩

/-- What the program of a text has read of it is the beginning of a program. -/
theorem extendable_of_run {source : String} {read rest : List Token}
    {result : Except SyntaxFault (List Declaration)}
    (hbody : (TokenStream.ofSource source).body = read ++ rest)
    (hrun : Program.parser.run (read ++ rest) = (result, rest)) : Extendable read := by
  apply extendable_of_viable
  · intro token hmem
    have hplain := Program.parser_accounts.plain hrun token hmem
    refine @TokenStream.writable_of_mem_body source _ ?_ hplain.1 hplain.2
    rw [hbody]
    exact List.mem_append_left _ hmem
  · cases result with
    | error fault => exact Program.parser_recognizes.viable hrun
    | ok declarations =>
      have hread := Program.parser_recognizes.sound hrun
      exact ⟨[], declarations, by simp, by simpa using hread⟩

theorem exists_first_fault {source : String} {diagnostic : Diagnostic}
    (h : compile source = .error diagnostic) : ∃ before found after,
      (TokenStream.ofSource source).toList = before ++ found :: after ∧
        Extendable before ∧ ¬Extendable (before ++ [found]) ∧ diagnostic.Reports before found := by
  obtain ⟨read, rest, fault, hbody, rfl, hrefused⟩ := exists_fault_of_error h
  obtain ⟨after, hsplit⟩ := TokenStream.toList_eq_lookahead hbody
  refine ⟨read, _, after, hsplit, ?_⟩
  rcases hrefused with hrun | ⟨rfl, rfl, hlast, declarations, hrun⟩
  · refine ⟨extendable_of_run hbody hrun, ?_, ?_⟩
    · cases rest with
      | nil =>
        rw [List.append_nil] at hrun
        exact not_extendable_of_unended hrun (TokenStream.last_isTerminal source)
      | cons found rest =>
        have hmem : found ∈ (TokenStream.ofSource source).body := by simp [hbody]
        exact not_extendable_of_refused hrun (TokenStream.isTerminal_of_mem_body hmem)
    · refine Diagnostic.reports_of_caused source (Program.parser_accounts.caused hrun) ?_
      intro token hmem
      rw [TokenStream.lookahead, Option.mem_def.mp hmem]
      rfl
  · refine ⟨?_, not_extendable_of_isError hlast, Diagnostic.reports_expected _ _ _ _⟩
    rw [← List.append_nil read] at hrun
    exact extendable_of_run hbody hrun

/-- Every diagnostic is for the first token with which the text stops being the beginning of one
that compiles. It is lexical just when that is the error token at the end. -/
theorem compile_error_at_first_fault {source : String} {diagnostic : Diagnostic}
    (h : compile source = .error diagnostic) :
    (∃ before found after, (TokenStream.ofSource source).toList = before ++ found :: after ∧
      Extendable before ∧ ¬Extendable (before ++ [found]) ∧ diagnostic.Reports before found) ∧
    (diagnostic.kind = .lexical ↔ (TokenStream.ofSource source).last.isError = true ∧
      Extendable (TokenStream.ofSource source).body) := by
  obtain ⟨before, found, after, hsplit, hbefore, hfound, hreports⟩ := exists_first_fault h
  refine ⟨⟨before, found, after, hsplit, hbefore, hfound, hreports⟩, ?_⟩
  rcases TokenStream.toList_split hsplit with ⟨hbody, hlast⟩ | ⟨rest, hbody⟩
  · rw [hbody, hlast]
    cases herror : found.isError with
    | false => simp [(hreports.syntactic herror).1]
    | true =>
      obtain ⟨message, hkind⟩ := Token.isError_iff.mp herror
      simp [(hreports.lexical message hkind).1, hbefore]
  · have hmem : found ∈ (TokenStream.ofSource source).body := by simp [hbody]
    have hterminal := TokenStream.isTerminal_of_mem_body hmem
    have herror : found.isError = false := by
      simp only [Token.isTerminal, Bool.or_eq_false_iff] at hterminal
      exact hterminal.2
    have hbody' : ¬Extendable (TokenStream.ofSource source).body := by
      intro hextends
      rw [hbody, ← List.singleton_append, ← List.append_assoc] at hextends
      exact hfound hextends.left
    simp [(hreports.syntactic herror).1, hbody']

/-- The `AND` after a wildcard is such a token. -/
theorem compile_error_at_joined_wildcard :
    compile "WHERE ALL AND x DO NOTHING" = .error ⟨.syntactic, "ALL must be the only condition",
      1, 11, "WHERE ALL AND x DO NOTHING", none⟩ ∧
    ∃ before found after,
      (TokenStream.ofSource "WHERE ALL AND x DO NOTHING").toList = before ++ found :: after ∧
        Extendable before ∧ ¬Extendable (before ++ [found]) ∧
          Diagnostic.Reports ⟨.syntactic, "ALL must be the only condition", 1, 11,
            "WHERE ALL AND x DO NOTHING", none⟩ before found := by
  have herror : compile "WHERE ALL AND x DO NOTHING" = .error ⟨.syntactic,
      "ALL must be the only condition", 1, 11, "WHERE ALL AND x DO NOTHING", none⟩ := by
    decide +kernel
  exact ⟨herror, (compile_error_at_first_fault herror).1⟩

end TagGraph
