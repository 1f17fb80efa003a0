import TagGraph.Proofs.OpeningKeywords
import TagGraph.Proofs.Refusal
import TagGraph.Proofs.SourceLines

/-!
Texts written one below the other. What is read of the text below differs from what is read of it
alone only in bytes and lines, which count on from the text above. A program goes on with the
declarations of another one, so models are joined, and an error below is the one of that text alone,
on a line further down.
-/

namespace TagGraph

open Segment (text)

namespace Position

/-- Where a place in a text comes to lie when the text is written below other lines. -/
def below (above : List Char) (position : Position) : Position :=
  ⟨(start.advanceBy above).offset + position.offset, above.count '\n' + position.line,
    position.column⟩

theorem advance_below (above : List Char) (position : Position) (c : Char) :
    (position.below above).advance c = (position.advance c).below above := by
  unfold advance below
  split <;> simp [Nat.add_assoc]

theorem advanceBy_below (above : List Char) (position : Position) (text : List Char) :
    (position.below above).advanceBy text = (position.advanceBy text).below above := by
  induction text generalizing position with
  | nil => rfl
  | cons c rest ih => rw [advanceBy_cons, advanceBy_cons, advance_below, ih]

theorem line_advanceBy (position : Position) (text : List Char) :
    (position.advanceBy text).line = position.line + text.count '\n' := by
  induction text generalizing position with
  | nil => rfl
  | cons c rest ih =>
    rw [advanceBy_cons, ih, List.count_cons]
    unfold advance
    split <;> simp_all +arith

/-- After complete lines a text begins. -/
theorem start_below_newline (lines : List Char) :
    start.below (lines ++ ['\n']) = start.advanceBy (lines ++ ['\n']) := by
  have hline := line_advanceBy start (lines ++ ['\n'])
  have hcolumn : (start.advanceBy (lines ++ ['\n'])).column = 1 := by
    rw [advanceBy_append]
    rfl
  rw [below, Nat.add_comm _ start.line, ← hline]
  exact congrArg (Position.mk _ _) hcolumn.symm

end Position

def Token.below (above : List Char) (token : Token) : Token :=
  { token with position := token.position.below above }

theorem Token.isTerminal_below (above : List Char) (token : Token) :
    (token.below above).isTerminal = token.isTerminal := rfl

theorem sameContents_below (above : List Char) (tokens : List Token) :
    SameContents tokens (tokens.map (Token.below above)) := by
  rw [SameContents, List.map_map]
  rfl

def Cursor.below (above : List Char) (cursor : Cursor) : Cursor :=
  { cursor with position := cursor.position.below above }

def TokenStream.below (above : List Char) (stream : TokenStream) : TokenStream :=
  ⟨stream.body.map (Token.below above), stream.last.below above⟩

/-- More tokens before those of the body. -/
def TokenStream.after (front : List Token) (stream : TokenStream) : TokenStream :=
  ⟨front ++ stream.body, stream.last⟩

namespace Cursor

theorem next_below (reserved : List String) (above : List Char) (cursor : Cursor) :
    (cursor.below above).next reserved =
      ((cursor.next reserved).1.below above, (cursor.next reserved).2.below above) := by
  unfold next
  simp only [below, Position.advanceBy_below]
  cases (Trivia.split cursor.rest).2 with
  | nil => rfl
  | cons c rest => simp [readAt, Token.below, Position.advanceBy_below]

/-- Reading does not depend on where a text stands, but for the places of its tokens. -/
theorem tokens_below (reserved : List String) (above : List Char) (cursor : Cursor) :
    ((cursor.below above).tokens reserved).1 = ((cursor.tokens reserved).1).below above := by
  fun_induction tokens reserved cursor with
  | case1 cursor hplain _ stream final heq ih =>
    rw [heq] at ih
    rw [tokens]
    simp only [next_below, Token.isTerminal_below, hplain, dite_true, ih]
    rfl
  | case2 cursor hterminal =>
    rw [tokens]
    simp only [next_below, Token.isTerminal_below, hterminal]
    rfl

/-- After the segments of a text, and a gap that goes on from them, reading begins anew. -/
theorem tokens_of_segmented_gap {reserved : List String} {position : Position}
    {segments : List Segment} {gap rest : List Char}
    (h : Segmented reserved position segments (gap ++ rest)) (hgap : Gap gap rest) :
    (⟨text segments ++ (gap ++ rest), position⟩ : Cursor).tokens reserved =
      let (stream, final) :=
        (⟨rest, position.advanceBy (text segments ++ gap)⟩ : Cursor).tokens reserved
      (⟨Segment.tokens segments ++ stream.body, stream.last⟩, final) := by
  rw [tokens_of_segmented h, tokens_congr (next_of_gap hgap _), ← Position.advanceBy_append]

end Cursor

namespace SourceLine

/-- A place in a text is where it was when another text is written before it. -/
theorem cut?_offset_below (above text : List Char) (position : Position) :
    cut? (position.below above).offset (above ++ text) =
      (cut? position.offset text).map fun (before, after) => (above ++ before, after) := by
  rw [Position.below, Position.offset_advanceBy, Position.start, Nat.zero_add]
  induction above with
  | nil => simp
  | cons c rest ih =>
    have hpos := Char.utf8Size_pos c
    simp only [List.foldr_cons, List.cons_append, cut?, Nat.add_assoc]
    rw [if_neg (by omega), if_neg (by omega), Nat.add_sub_cancel_left, ih, Option.map_map]
    rfl

/-- No line goes back beyond a newline. -/
theorem around_newline (lines before after : List Char) :
    around (lines ++ ['\n'] ++ before) after = around before after := by
  have hending : ending (lines ++ ['\n'] ++ before) = ending before := by
    rw [ending, List.reverse_append, List.reverse_append, List.takeWhile_append]
    split
    · next hall =>
      rw [List.reverse_singleton, List.singleton_append, List.takeWhile_cons_of_neg (by simp),
        List.append_nil, ending, (List.takeWhile_prefix _).eq_of_length hall]
    · rfl
  rw [around, hending, around]

theorem at?_below (first second : String) (position : Position) :
    at? (first ++ "\n" ++ second) (position.below (first.toList ++ ['\n'])).offset =
      at? second position.offset := by
  rw [at?_eq_map, String.toList_append, String.toList_append, show "\n".toList = ['\n'] from rfl,
    cut?_offset_below, Option.map_map, at?_eq_map]
  refine Option.map_congr fun cut _ => ?_
  exact congrArg String.ofList (around_newline first.toList cut.1 cut.2)

end SourceLine

namespace Diagnostic

theorem atToken_below (first second : String) (kind : Kind) (message : String) (found : Token) :
    atToken (first ++ "\n" ++ second) kind message (found.below (first.toList ++ ['\n'])) =
      { atToken second kind message found with
        line := found.position.line + 1 + first.toList.count '\n' } := by
  have hline : (found.position.below (first.toList ++ ['\n'])).line =
      found.position.line + 1 + first.toList.count '\n' := by
    simp +arith [Position.below]
  simp only [atToken, Token.below, SourceLine.at?_below, hline]
  rfl

/-- A fault in the text below is reported as it is in that text alone, further down. -/
theorem ofFault_below (first second : String) (fault : SyntaxFault) (found : Token) :
    ofFault (first ++ "\n" ++ second) fault (found.below (first.toList ++ ['\n'])) =
      { ofFault second fault found with
        line := (ofFault second fault found).line + 1 + first.toList.count '\n' } := by
  obtain ⟨kind, text, position⟩ := found
  cases fault <;> cases kind <;> exact atToken_below first second _ _ _

end Diagnostic

/-- Declarations are read alike whether or not others follow. -/
theorem Program.run_append {front back : List Token} {declarations : List Declaration}
    (h : RepeatPhrase DeclarationPhrase front declarations)
    (hback : ∀ token ∈ back.head?, token.opensDeclaration = true) : parser.run (front ++ back) =
      ((parser.run back).1.map (declarations ++ ·), (parser.run back).2) := by
  induction h with
  | nil =>
    rw [List.nil_append]
    refine Prod.ext ?_ rfl
    cases (parser.run back).1 <;> rfl
  | @cons front others declaration declarations hitem hothers ih =>
    have hends : Ends Declaration.Continues (others ++ back) := by
      apply Declaration.ends_of_opensDeclaration
      cases others with
      | nil => exact hback
      | cons token others =>
        exact fun first hmem => opensDeclaration_head hothers first hmem
    cases front with
    | nil => exact absurd hitem Declaration.opened?_recognizes.nonempty
    | cons token front =>
      obtain ⟨item, hopened⟩ :=
        Option.isSome_iff_exists.mp (Declaration.opened?_recognizes.opens hitem)
      have hread := (Declaration.opened?_recognizes.items hopened).complete hitem hends
      rw [List.cons_append, List.cons_append, List.append_assoc, run_parser_of_ok hopened hread, ih]
      cases (parser.run back).1 <;> rfl

namespace TokenStream

/-- The first token ends the text, well or not, or else it opens a declaration. -/
def StartsAfresh (stream : TokenStream) : Prop :=
  ∀ token ∈ stream.toList.head?, token.isTerminal = true ∨ token.opensDeclaration = true

instance (stream : TokenStream) : Decidable stream.StartsAfresh :=
  inferInstanceAs (Decidable (∀ token ∈ stream.toList.head?, _))

/-- Below a text that ends well, another one is read as it is read alone. -/
theorem ofSource_append_newline {first : String} (second : String)
    (hend : (ofSource first).last.isEndOfInput = true) : ofSource (first ++ "\n" ++ second) =
      ((ofSource second).below (first.toList ++ ['\n'])).after (ofSource first).body := by
  obtain ⟨gap, hfirst, hgap, hsegmented, htokens⟩ := exists_segments hend
  -- A comment that ran to the end of the text above is ended by the newline.
  have hnewline : Gap (gap ++ ['\n']) second.toList := hgap.concat_newline second.toList
  have hstands : StandsIn (gap ++ ['\n'] ++ second.toList) gap := .of_gap hnewline (by simp) gap
  have hlines : text (Segment.ofSource first) ++ (gap ++ ['\n']) = first.toList ++ ['\n'] := by
    rw [hfirst, List.append_assoc]
  have hread := Cursor.tokens_of_segmented_gap (hsegmented.congr hstands) hnewline
  rw [← List.append_assoc, hlines, ← Position.start_below_newline, htokens] at hread
  have hbelow := Cursor.tokens_below Keyword.reserved (first.toList ++ ['\n'])
    ⟨second.toList, .start⟩
  rw [ofSource_eq, String.toList_append, String.toList_append, ofSource_eq second, ← hbelow]
  exact congrArg Prod.fst hread

theorem lookahead_below (above : List Char) (stream : TokenStream) (front rest : List Token) :
    ((stream.below above).after front).lookahead (rest.map (Token.below above)) =
      (stream.lookahead rest).below above := by
  cases rest <;> rfl

/-- Where a program stands above, the text goes on with a declaration if it goes on at all. -/
theorem StartsAfresh.below {source : String} (h : (ofSource source).StartsAfresh)
    (above : List Char) :
    ∀ token ∈ ((ofSource source).below above).body.head?, token.opensDeclaration = true := by
  intro token hmem
  rw [TokenStream.below, List.head?_map] at hmem
  obtain ⟨original, horiginal, rfl⟩ := Option.map_eq_some_iff.mp hmem
  obtain ⟨rest, hbody⟩ := List.head?_eq_some_iff.mp horiginal
  have hplain : original.isTerminal = false :=
    isTerminal_of_mem_body (List.mem_of_mem_head? horiginal)
  rcases h original (by rw [toList, hbody]; rfl) with hterminal | hopens
  · rw [hplain] at hterminal
    cases hterminal
  · exact hopens

namespace Refused

variable {stream : TokenStream} {read rest : List Token} {fault : SyntaxFault}

theorem below (h : stream.Refused read rest fault) (above : List Char) :
    (stream.below above).Refused (read.map (Token.below above)) (rest.map (Token.below above))
      fault := by
  have hread := sameContents_below above read
  cases h with
  | inBody hbody hrun =>
    have hnext : SameNext rest (rest.map (Token.below above)) := by cases rest <;> rfl
    refine .inBody ?_ (Program.parser_local hrun hread hnext)
    rw [TokenStream.below, hbody, List.map_append]
  | atEnd hbody hrun hlast =>
    refine .atEnd ?_ (Program.run_of_sameContents hrun hread) hlast
    rw [TokenStream.below, hbody]

theorem after (h : stream.Refused read rest fault) {front : List Token}
    {declarations : List Declaration} (hfront : RepeatPhrase DeclarationPhrase front declarations)
    (hopens : ∀ token ∈ stream.body.head?, token.opensDeclaration = true) :
    (stream.after front).Refused (front ++ read) rest fault := by
  have hrunAppend := Program.run_append hfront hopens
  cases h with
  | inBody hbody hrun =>
    rw [hbody, hrun, ← List.append_assoc] at hrunAppend
    refine .inBody ?_ hrunAppend
    rw [TokenStream.after, hbody, List.append_assoc]
  | atEnd hbody hrun hlast =>
    rw [hbody, hrun] at hrunAppend
    refine .atEnd ?_ hrunAppend hlast
    rw [TokenStream.after, hbody]

end Refused

end TokenStream

/-- A program goes on with the declarations of the text below it, or with that text's error. -/
theorem compile_append_newline {first second : String} {model : Model}
    (hfirst : compile first = .ok model) (hsecond : (TokenStream.ofSource second).StartsAfresh) :
    (∀ other, compile second = .ok other →
      compile (first ++ "\n" ++ second) = .ok (model.append other)) ∧
    ∀ diagnostic, compile second = .error diagnostic → compile (first ++ "\n" ++ second) =
      .error { diagnostic with line := diagnostic.line + 1 + first.toList.count '\n' } := by
  obtain ⟨hend, declarations, hrun, rfl⟩ := compile_eq_ok_iff_run.mp hfirst
  have hwhole := TokenStream.ofSource_append_newline second hend
  have hread := Program.run_sound hrun
  generalize habove : first.toList ++ ['\n'] = above at hwhole
  have hopens := hsecond.below above
  constructor
  · intro other hother
    obtain ⟨hlast, others, hothers, rfl⟩ := compile_eq_ok_iff_run.mp hother
    have hbelow := Program.run_of_sameContents hothers (sameContents_below above _)
    refine compile_eq_ok_iff_run.mpr ⟨?_, declarations ++ others, ?_,
      (Model.ofDeclarations_append _ _).symm⟩
    · rw [hwhole]
      exact hlast
    · rw [hwhole, TokenStream.after, Program.run_append hread hopens, TokenStream.below, hbelow]
      rfl
  · intro diagnostic herror
    obtain ⟨read, rest, fault, hrefused, rfl⟩ := exists_refused_of_error herror
    have hrefused' := (hrefused.below above).after hread hopens
    rw [← hwhole] at hrefused'
    rw [hrefused'.compile_eq, hwhole, TokenStream.lookahead_below, ← habove,
      Diagnostic.ofFault_below]

/-- The newline ends a comment in which the program above stops. -/
theorem compile_append_newline_after_comment :
    compile "WORLD v OBJECT x #y" = .ok ⟨[], [], [⟨"v", none, [⟨"x", none⟩], []⟩]⟩ ∧
      compile ("WORLD v OBJECT x #y" ++ "\n" ++ "WORLD w") =
        .ok ⟨[], [], [⟨"v", none, [⟨"x", none⟩], []⟩, ⟨"w", none, [], []⟩]⟩ ∧
      compile ("WORLD v OBJECT x #y" ++ "\n" ++ "WORLD w\nROOT") = .error ⟨.syntactic,
        "expected root object name, found end of input", 3, 5, "ROOT", none⟩ := by
  have hfirst : compile "WORLD v OBJECT x #y" =
      .ok ⟨[], [], [⟨"v", none, [⟨"x", none⟩], []⟩]⟩ := by decide +kernel
  have hworld : compile "WORLD w" = .ok ⟨[], [], [⟨"w", none, [], []⟩]⟩ := by decide +kernel
  have herror : compile "WORLD w\nROOT" = .error ⟨.syntactic,
      "expected root object name, found end of input", 2, 5, "ROOT", none⟩ := by decide +kernel
  exact ⟨hfirst, (compile_append_newline hfirst (by decide +kernel)).1 _ hworld,
    (compile_append_newline hfirst (by decide +kernel)).2 _ herror⟩

end TagGraph
