import TagGraph.Proofs.Concatenation

/-!
The clauses of a concept or of a world in another order. A concept is told by the names that its
clauses list, in whatever order, number and grouping. A world is told by its clauses in any order;
but each of them comes once, and a second one is refused at its keyword.
-/

namespace TagGraph

open TagGraph.Parser

namespace Concept

/-- Clauses in another order, with the names of a clause in another order or repeated, and with a
clause split in two of its sort, in any number of steps and either way. -/
inductive Clause.Rearranged : List Clause → List Clause → Prop
  | order {clauses clauses' : List Clause} (h : clauses.Perm clauses') :
      Rearranged clauses clauses'
  | names {sort : List String → Clause} {names names' : List String} {others : List Clause}
      (hsort : sort = .tags ∨ sort = .slots) (h : ∀ name, name ∈ names ↔ name ∈ names') :
      Rearranged (sort names :: others) (sort names' :: others)
  | split {sort : List String → Clause} {left right : List String} {others : List Clause}
      (hsort : sort = .tags ∨ sort = .slots) :
      Rearranged (sort (left ++ right) :: others) (sort left :: sort right :: others)
  | symm {clauses clauses' : List Clause} (h : Rearranged clauses clauses') :
      Rearranged clauses' clauses
  | trans {clauses clauses' clauses'' : List Clause} (h : Rearranged clauses clauses')
      (h' : Rearranged clauses' clauses'') : Rearranged clauses clauses''

/-- The names of either sort stay the same ones. -/
theorem Clause.Rearranged.mem_flatMap {clauses clauses' : List Clause}
    (h : Rearranged clauses clauses') {get : Clause → List String}
    (hget : get = tagNames ∨ get = slotNames) (label : String) :
    label ∈ clauses.flatMap get ↔ label ∈ clauses'.flatMap get := by
  induction h with
  | order h => exact (h.flatMap_right get).mem_iff
  | names hsort h =>
    rcases hsort with rfl | rfl <;> rcases hget with rfl | rfl <;> simp [tagNames, slotNames, h]
  | split hsort =>
    rcases hsort with rfl | rfl <;> rcases hget with rfl | rfl <;> simp [tagNames, slotNames]
  | symm _ ih => exact ih.symm
  | trans _ _ ih ih' => exact ih.trans ih'

theorem Clause.Rearranged.ofClauses_eq {clauses clauses' : List Clause}
    (h : Rearranged clauses clauses') (name : String) :
    ofClauses name clauses = ofClauses name clauses' := by
  have hset : ∀ {get : Clause → List String}, get = tagNames ∨ get = slotNames →
      LabelSet.ofList (clauses.flatMap get) = LabelSet.ofList (clauses'.flatMap get) := by
    intro get hget
    refine LabelSet.eq_of_mem_iff fun label => ?_
    rw [LabelSet.mem_ofList, LabelSet.mem_ofList, h.mem_flatMap hget label]
  rw [ofClauses, hset (Or.inl rfl), hset (Or.inr rfl), ofClauses]

end Concept

namespace World

/-- Clauses with keywords that are not among those seen, nor among each other. -/
abbrev FreshPhrase : List Keyword → Phrase (List Clause) :=
  StatePhrase (fun seen clause => clause.keyword :: seen)
    (fun seen tokens clause => WorldClausePhrase tokens clause ∧ clause.keyword ∉ seen)

variable {rest : List Token} {clauses : List Clause}

/-- No clause goes on where another one is opened. -/
theorem ends_of_opened? {token : Token} {opened : Keyword × Parser Clause}
    (h : Clause.opened? token = some opened) (rest : List Token) :
    Ends ClauseContinues (token :: rest) := by
  refine ends_cons.mpr fun hcontinues => ?_
  cases (opened?_of_clauseContinues hcontinues).symm.trans h

/-- Clauses that are not all fresh are refused, at the latest at the last one of them. -/
theorem freshPhrase_or_error (world : String) (h : RepeatPhrase WorldClausePhrase rest clauses)
    (seen : List Keyword) (after : List Token) : FreshPhrase seen rest clauses ∨
      ∃ fault left, repeatRun (Clause.step world) (fun seen clause => clause.keyword :: seen) seen
        (rest ++ after) = (.error fault, left) := by
  -- On the clauses. What comes after the last one may go on with it, so it is never read to its
  -- end here; each of the others is ended by the keyword of the next one.
  induction h generalizing seen with
  | nil => exact Or.inl .nil
  | @cons front back clause others hclause hothers ih =>
    cases front with
    | nil => nomatch hclause
    | cons token front =>
      obtain ⟨item, hopened⟩ := exists_opened?_of_phrase hclause
      by_cases hseen : clause.keyword ∈ seen
      · have hreject : Clause.step world seen token =
            .reject (.repeatedClause clause.keyword world) :=
          step_eq_reject_iff.mpr ⟨_, item, hopened, hseen, rfl⟩
        exact Or.inr ⟨_, _, repeatRun_of_reject hreject⟩
      have htake : Clause.step world seen token = .take item :=
        step_eq_take_iff.mpr ⟨_, hopened, hseen⟩
      cases others with
      | nil =>
        cases hothers
        exact Or.inl (.cons ⟨hclause, hseen⟩ .nil)
      | cons next others =>
        have hends : Ends ClauseContinues (back ++ after) := by
          cases hothers with
          | @cons first _ _ _ hnext _ =>
            cases first with
            | nil => nomatch hnext
            | cons token' first =>
              obtain ⟨item', hopened'⟩ := exists_opened?_of_phrase hnext
              exact ends_of_opened? hopened' _
        have hread := (recognizes_of_opened? hopened).1.complete hclause hends
        rcases ih (clause.keyword :: seen) with hfresh | ⟨fault, left, herror⟩
        · exact Or.inl (.cons ⟨hclause, hseen⟩ hfresh)
        · refine Or.inr ⟨fault, left, ?_⟩
          rw [List.cons_append, List.cons_append, List.append_assoc, repeatRun_of_ok htake hread,
            herror]
          rfl

/-- After clauses that are fresh a second one of a kind is refused. -/
theorem run_list_of_repeats (world : String) (h : FreshPhrase [] rest clauses) {word : Keyword}
    (hword : word ∈ clauses.map Clause.keyword) {second : Token}
    (hsecond : second.isKeyword word = true) (after : List Token) :
    (Clause.list world).run (rest ++ second :: after) =
      (.error (.repeatedClause word world), second :: after) := by
  have hopened : ∃ item, Clause.opened? second = some (word, item) := by
    obtain ⟨clause, -, rfl⟩ := List.mem_map.mp hword
    cases clause <;> simp [Clause.opened?, Clause.keyword, Token.isKeyword_of_isKeyword hsecond]
  obtain ⟨item, hopened⟩ := hopened
  have hseen : word ∈ clauses.foldl (fun seen clause => clause.keyword :: seen) [] := by
    simpa using hword
  have hreject : Clause.step world _ second = .reject (.repeatedClause word world) :=
    step_eq_reject_iff.mpr ⟨word, item, hopened, hseen, rfl⟩
  change repeatRun _ _ _ _ = _
  rw [(recognizesStep_clause world).run_append h (ends_of_opened? hopened after),
    repeatRun_of_reject hreject]
  rfl

theorem DeclaredBy.perm {world : World} {clauses clauses' : List Clause}
    (h : world.DeclaredBy clauses) (hperm : clauses.Perm clauses') :
    world.DeclaredBy clauses' where
  once := (hperm.map Clause.keyword).nodup_iff.mp h.once
  root name := (h.root name).trans hperm.mem_iff
  objects := by simpa only [hperm.mem_iff] using h.objects
  bindings := by simpa only [hperm.mem_iff] using h.bindings

end World

/-- A world is read up to the clause that is refused. -/
theorem Program.run_world_error {key name : Token} (hkey : key.isKeyword .WORLD = true)
    (hname : name.kind = .identifier) {tokens left : List Token} {fault : SyntaxFault}
    (h : (World.Clause.list name.text).run tokens = (.error fault, left)) :
    parser.run (key :: name :: tokens) = (.error fault, left) := by
  have hopened : Declaration.opened? key = some (Declaration.world <$> World.parser) := by
    simp [Declaration.opened?, Token.isKeyword_of_isKeyword hkey]
  have hread : (Parser.name .world).run (name :: tokens) = (.ok name.text, tokens) :=
    (recognizes_name .world).complete (.intro hname) fun _ _ => id
  have hworld : World.parser.run (name :: tokens) = (.error fault, left) := by
    rw [World.parser, run_bind_of_ok hread, run_bind_of_error h]
  have hitem : (Declaration.world <$> World.parser).run (name :: tokens) =
      (.error fault, left) := by
    rw [run_map, hworld]
    rfl
  exact run_bind_of_error (run_many_of_error hopened hitem) _

section declarations

variable {front rest back : List Token} {key name : Token} {declarations : List Declaration}

theorem World.freshPhrase_of_declarations {clauses : List World.Clause}
    (h : RepeatPhrase DeclarationPhrase (front ++ key :: name :: (rest ++ back)) declarations)
    (hkey : key.isKeyword .WORLD = true) (hname : name.kind = .identifier)
    (hread : RepeatPhrase WorldClausePhrase rest clauses) : World.FreshPhrase [] rest clauses := by
  obtain ⟨left, right, -, -, hright⟩ :=
    exists_split_of_opens h (Token.opensDeclaration_head? hkey rfl _)
  refine (World.freshPhrase_or_error name.text hread [] back).resolve_right ?_
  rintro ⟨fault, left, herror⟩
  cases (Program.run_complete hright).symm.trans (Program.run_world_error hkey hname herror)

/-- A phrase for a declaration can take the place of another one for it. -/
theorem ModelPhrase.replace {phrase phrase' : List Token} {model : Model}
    {declaration : Declaration} (h : ModelPhrase (front ++ (phrase ++ back)) model)
    (hphrase : DeclarationPhrase phrase declaration)
    (hphrase' : DeclarationPhrase phrase' declaration)
    (hback : ∀ token ∈ back.head?, token.opensDeclaration = true) :
    ModelPhrase (front ++ (phrase' ++ back)) model := by
  obtain ⟨declarations, hread, rfl⟩ := modelPhrase_iff.mp h
  have hone : RepeatPhrase DeclarationPhrase phrase [declaration] := .one hphrase
  obtain ⟨left, others, rfl, hleft, hothers⟩ := exists_split_of_opens hread (by
    intro token hmem
    obtain ⟨key, rest, rfl, -⟩ := hphrase.exists_key
    exact opensDeclaration_head hone token hmem)
  obtain ⟨middle, right, rfl, hmiddle, hright⟩ := exists_split_of_opens hothers hback
  -- Tokens are the phrases of one list of declarations at most.
  have hsame := (Program.run_complete hmiddle).symm.trans (Program.run_complete hone)
  obtain rfl := Except.ok.inj (Prod.mk.inj hsame).1
  exact modelPhrase_iff.mpr ⟨_, hleft.append (.cons hphrase' hright), rfl⟩

end declarations

/-- Bodies of streams that differ in the places of tokens, in the clauses of a concept, which are
rearranged, or in the order of the clauses of a world; and bodies that are some such steps apart. -/
inductive Rearranged : List Token → List Token → Prop
  | places {tokens tokens' : List Token} (h : SameContents tokens tokens') :
      Rearranged tokens tokens'
  | concept {front rest rest' back : List Token} {key name : Token}
      {clauses clauses' : List Concept.Clause} (hkey : key.isKeyword .CONCEPT = true)
      (hname : name.kind = .identifier) (hread : RepeatPhrase ConceptClausePhrase rest clauses)
      (hread' : RepeatPhrase ConceptClausePhrase rest' clauses')
      (hclauses : Concept.Clause.Rearranged clauses clauses')
      (hback : ∀ token ∈ back.head?, token.opensDeclaration = true) :
      Rearranged (front ++ key :: name :: (rest ++ back)) (front ++ key :: name :: (rest' ++ back))
  | world {front rest rest' back : List Token} {key name : Token}
      {clauses clauses' : List World.Clause} (hkey : key.isKeyword .WORLD = true)
      (hname : name.kind = .identifier) (hread : RepeatPhrase WorldClausePhrase rest clauses)
      (hread' : RepeatPhrase WorldClausePhrase rest' clauses') (hclauses : clauses.Perm clauses')
      (hback : ∀ token ∈ back.head?, token.opensDeclaration = true) :
      Rearranged (front ++ key :: name :: (rest ++ back)) (front ++ key :: name :: (rest' ++ back))
  | trans {tokens tokens' tokens'' : List Token} (h : Rearranged tokens tokens')
      (h' : Rearranged tokens' tokens'') : Rearranged tokens tokens''

/-- Streams that end alike, with bodies that are rearranged. -/
structure TokenStream.Rearranged (stream stream' : TokenStream) : Prop where
  body : TagGraph.Rearranged stream.body stream'.body
  last : stream.last.content = stream'.last.content

/-- No step of a rearrangement changes the model. -/
theorem ModelPhrase.rearranged {tokens tokens' : List Token} {model : Model}
    (h : ModelPhrase tokens model) (hmoved : Rearranged tokens tokens') :
    ModelPhrase tokens' model := by
  induction hmoved with
  | places hsame =>
    obtain ⟨declarations, hread, rfl⟩ := modelPhrase_iff.mp h
    have hrun := Program.run_of_sameContents (Program.run_complete hread) hsame
    exact modelPhrase_iff.mpr ⟨declarations, Program.run_sound hrun, rfl⟩
  | concept hkey hname hread hread' hclauses hback =>
    have hphrase := Concept.phrase_ofClauses hkey hname hread
    have hphrase' := Concept.phrase_ofClauses hkey hname hread'
    rw [← hclauses.ofClauses_eq] at hphrase'
    exact h.replace (.concept hphrase) (.concept hphrase') hback
  | @world front rest rest' back key name clauses clauses' hkey hname hread hread' hclauses hback =>
    obtain ⟨declarations, hdeclarations, -⟩ := modelPhrase_iff.mp h
    have hfresh := World.freshPhrase_of_declarations hdeclarations hkey hname hread
    have hnodup := (World.statePhrase_clauses_iff.mp hfresh).2.1
    have hdeclared := World.ofClauses_declaredBy name.text hnodup
    have hphrase := WorldPhrase.intro hkey hname hread rfl hdeclared
    have hphrase' := WorldPhrase.intro hkey hname hread' rfl (hdeclared.perm hclauses)
    exact h.replace (.world hphrase) (.world hphrase') hback
  | trans _ _ ih ih' => exact ih' (ih h)

/-- What a program can go on with are tokens that it reads, with others after them. -/
theorem Extendable.exists_run {before : List Token} (h : Extendable before)
    (hplain : ∀ token ∈ before, token.isTerminal = false) :
    ∃ after declarations, Program.parser.run (before ++ after) = (.ok declarations, []) := by
  obtain ⟨source, model, hcompile, hprefix⟩ := h
  obtain ⟨-, declarations, hrun, -⟩ := compile_eq_ok_iff_run.mp hcompile
  rw [TokenStream.toList, List.map_append, List.map_singleton, List.prefix_concat_iff] at hprefix
  rcases hprefix with hall | ⟨after, hafter⟩
  · have hmem : (TokenStream.ofSource source).last.content ∈ before.map Token.content := by
      rw [hall]
      exact List.mem_concat_self
    obtain ⟨token, htoken, hcontent⟩ := List.mem_map.mp hmem
    have hterminal := TokenStream.last_isTerminal source
    rw [← Token.ofContent_isTerminal _ _ hcontent, hplain token htoken] at hterminal
    cases hterminal
  · obtain ⟨front, back, hbody, hfront, -⟩ := List.map_eq_append_iff.mp hafter.symm
    have hsame : SameContents (TokenStream.ofSource source).body (before ++ back) := by
      rw [SameContents, hbody, List.map_append, List.map_append, hfront]
    exact ⟨back, declarations, Program.run_of_sameContents hrun hsame⟩

theorem compile_of_rearranged {source source' : String} {model : Model}
    (h : compile source = .ok model)
    (hmoved : (TokenStream.ofSource source).Rearranged (TokenStream.ofSource source')) :
    compile source' = .ok model := by
  obtain ⟨hend, declarations, hrun, rfl⟩ := compile_eq_ok_iff_run.mp h
  have hmodel := modelPhrase_iff.mpr ⟨declarations, Program.run_sound hrun, rfl⟩
  obtain ⟨declarations', hread, hsame⟩ := modelPhrase_iff.mp (hmodel.rearranged hmoved.body)
  refine compile_eq_ok_iff_run.mpr ⟨?_, declarations', Program.run_complete hread, hsame⟩
  have hkind : (TokenStream.ofSource source).last.kind =
      (TokenStream.ofSource source').last.kind := congrArg Prod.fst hmoved.last
  rw [Token.isEndOfInput, ← hkind]
  exact hend

/-- A clause that a world has already is refused when nothing before it is. -/
theorem refused_of_repeats {source world : String} {before after : List Token} {second : Token}
    {word : Keyword} (hsplit : (TokenStream.ofSource source).toList = before ++ second :: after)
    (hrepeats : RepeatsClause word world before second) (hextends : Extendable before) :
    ∃ rest, (TokenStream.ofSource source).Refused before (second :: rest)
      (.repeatedClause word world) := by
  obtain ⟨hsecond, front, key, name, tokens, clauses, rfl, hkey, hname, rfl, hread, hword⟩ :=
    hrepeats
  have hkind := Token.kind_of_isKeyword hsecond
  obtain ⟨rest, hbody⟩ : ∃ rest, (TokenStream.ofSource source).body =
      front ++ key :: name :: tokens ++ second :: rest := by
    refine (TokenStream.toList_split hsplit).resolve_left ?_
    rintro ⟨-, hlast⟩
    have hterminal := TokenStream.last_isTerminal source
    simp [hlast, Token.isTerminal, Token.isEndOfInput, Token.isError, hkind] at hterminal
  have hplain : ∀ token ∈ front ++ key :: name :: tokens, token.isTerminal = false := by
    intro token hmem
    refine @TokenStream.isTerminal_of_mem_body source token ?_
    rw [hbody]
    exact List.mem_append_left _ hmem
  -- A program that begins in this way tells that the clauses before are read as they stand.
  obtain ⟨others, declarations, hrun⟩ := hextends.exists_run hplain
  rw [List.append_assoc, List.cons_append, List.cons_append] at hrun
  have hphrases := Program.run_sound hrun
  have hopens := Token.opensDeclaration_head? hkey rfl
  obtain ⟨left, right, -, hleft, -⟩ := exists_split_of_opens hphrases (hopens _)
  have hfresh := World.freshPhrase_of_declarations hphrases hkey hname hread
  have hlist := World.run_list_of_repeats name.text hfresh hword hsecond rest
  refine ⟨rest, .inBody hbody ?_⟩
  rw [List.append_assoc, List.cons_append, List.cons_append,
    Program.run_append hleft (hopens _), Program.run_world_error hkey hname hlist]
  rfl

/-- Clauses are read alike in any order, but for a second one of a kind in a world, which is
refused at its keyword wherever it comes. -/
theorem compile_clauses_in_any_order (source : String) :
    (∀ model source', compile source = .ok model →
      (TokenStream.ofSource source).Rearranged (TokenStream.ofSource source') →
        compile source' = .ok model) ∧
    ∀ before second after word world,
      (TokenStream.ofSource source).toList = before ++ second :: after →
        RepeatsClause word world before second → Extendable before →
          ∃ diagnostic, compile source = .error diagnostic ∧ diagnostic.kind = .syntactic ∧
            diagnostic.message = "duplicate " ++ word.text ++ " clause in world '" ++ world ++ "'" ∧
              diagnostic.line = second.position.line ∧
                diagnostic.column = second.position.column := by
  constructor
  · intro model source' hcompile hmoved
    exact compile_of_rearranged hcompile hmoved
  · intro before second after word world hsplit hrepeats hextends
    obtain ⟨rest, hrefused⟩ := refused_of_repeats hsplit hrepeats hextends
    exact ⟨_, hrefused.compile_eq, rfl, rfl, rfl, rfl⟩

/-- A list of tags split in two, the second part first, and a world that is given two roots. -/
theorem compile_clauses_in_any_order_split :
    (TokenStream.ofSource "CONCEPT c TAG a, b").Rearranged
        (TokenStream.ofSource "CONCEPT c TAG b TAG a") ∧
      compile "CONCEPT c TAG b TAG a" =
        .ok ⟨[⟨"c", LabelSet.ofList ["a", "b"], LabelSet.empty⟩], [], []⟩ ∧
      ∃ diagnostic, compile "WORLD w ROOT a ROOT b" = .error diagnostic ∧
        diagnostic.message = "duplicate ROOT clause in world 'w'" ∧
          diagnostic.line = 1 ∧ diagnostic.column = 16 := by
  have hcompile : compile "CONCEPT c TAG a, b" =
      .ok ⟨[⟨"c", LabelSet.ofList ["a", "b"], LabelSet.empty⟩], [], []⟩ := by decide +kernel
  have hmoved : (TokenStream.ofSource "CONCEPT c TAG a, b").Rearranged
      (TokenStream.ofSource "CONCEPT c TAG b TAG a") := by
    have hbody : (TokenStream.ofSource "CONCEPT c TAG a, b").body =
        [⟨.keyword, "CONCEPT", 0, 1, 1⟩, ⟨.identifier, "c", 8, 1, 9⟩, ⟨.keyword, "TAG", 10, 1, 11⟩,
          ⟨.identifier, "a", 14, 1, 15⟩, ⟨.operator, ",", 15, 1, 16⟩,
          ⟨.identifier, "b", 17, 1, 18⟩] := by decide +kernel
    have hbody' : (TokenStream.ofSource "CONCEPT c TAG b TAG a").body =
        [⟨.keyword, "CONCEPT", 0, 1, 1⟩, ⟨.identifier, "c", 8, 1, 9⟩, ⟨.keyword, "TAG", 10, 1, 11⟩,
          ⟨.identifier, "b", 14, 1, 15⟩, ⟨.keyword, "TAG", 16, 1, 17⟩,
          ⟨.identifier, "a", 20, 1, 21⟩] := by decide +kernel
    have hclauses : Concept.Clause.Rearranged [.tags ["a", "b"]] [.tags ["b"], .tags ["a"]] :=
      .trans (@Concept.Clause.Rearranged.split .tags ["a"] ["b"] [] (Or.inl rfl))
        (.order (.swap _ _ _))
    refine ⟨?_, by decide +kernel⟩
    rw [hbody, hbody']
    refine @Rearranged.concept [] [_, _, _, _] [_, _, _, _] [] _ _ _ _ (by decide) rfl
      (.one (.tags (by decide) ?_)) ?_ hclauses nofun
    · exact @ListPhrase.cons _ _ _ [_] [_] _ _ _ (.intro rfl) (by decide) (.one (.intro rfl))
    · exact @RepeatPhrase.cons _ _ [_, _] [_, _] _ _ (.tags (by decide) (.one (.intro rfl)))
        (.one (.tags (by decide) (.one (.intro rfl))))
  have hroot : compile "WORLD w ROOT a" = .ok ⟨[], [], [⟨"w", some "a", [], []⟩]⟩ := by
    decide +kernel
  obtain ⟨diagnostic, herror, -, hmessage, hline, hcolumn⟩ :=
    (compile_clauses_in_any_order "WORLD w ROOT a ROOT b").2
      [⟨.keyword, "WORLD", 0, 1, 1⟩, ⟨.identifier, "w", 6, 1, 7⟩, ⟨.keyword, "ROOT", 8, 1, 9⟩,
        ⟨.identifier, "a", 13, 1, 14⟩] ⟨.keyword, "ROOT", 15, 1, 16⟩
      [⟨.identifier, "b", 20, 1, 21⟩, .endOfInput ⟨21, 1, 22⟩] .ROOT "w" (by decide +kernel)
      ⟨by decide, [], _, _, [_, _], [.root "a"], rfl, by decide, rfl, rfl,
        .one (.root (by decide) rfl), by decide⟩
      ⟨_, _, hroot, by decide +kernel⟩
  exact ⟨hmoved, (compile_clauses_in_any_order _).1 _ _ hcompile hmoved, diagnostic, herror,
    hmessage, hline, hcolumn⟩

end TagGraph
