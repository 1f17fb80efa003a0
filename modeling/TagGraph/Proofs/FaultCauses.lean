import TagGraph.Proofs.Grammar
import TagGraph.Proofs.Lookahead

/-!
Why a parser refuses a token. A fault of expectation needs no reason beyond the token; the others
have one in what was read before it: a wildcard, or a clause of the same world. A parser accounts
for its faults by its construction, when each part does given what the parts before it have read.
-/

namespace TagGraph

variable {α β : Type}

/-- A token of a sort that phrases are made of. -/
def Token.Plain (token : Token) : Prop := token.kind ≠ .integer ∧ token.kind ≠ .string

theorem Token.plain_of_isKeyword {token : Token} {word : Keyword}
    (h : token.isKeyword word = true) : token.Plain := by
  simp_all [Plain, isKeyword, isWord]

theorem Token.plain_of_isOperator {token : Token} {symbol : Char}
    (h : token.isOperator symbol = true) : token.Plain := by
  simp_all [Plain, isOperator]

theorem Token.plain_of_identifier {token : Token} (h : token.kind = .identifier) : token.Plain := by
  simp [Plain, h]

/-- The token is an `AND` right after the wildcard. -/
def JoinsWildcard (word : Keyword) (before : List Token) (found : Token) : Prop :=
  word ∈ [Keyword.ANY, .ALL] ∧ found.isKeyword .AND = true ∧
    ∃ front wildcard, before = front ++ [wildcard] ∧ wildcard.isKeyword word = true

/-- The token is the keyword of a clause that the world being read has already. -/
def RepeatsClause (word : Keyword) (world : String) (before : List Token) (found : Token) : Prop :=
  found.isKeyword word = true ∧ ∃ front key name rest clauses,
    before = front ++ key :: name :: rest ∧ key.isKeyword .WORLD = true ∧
      name.kind = .identifier ∧ name.text = world ∧
        RepeatPhrase WorldClausePhrase rest clauses ∧ word ∈ clauses.map World.Clause.keyword

/-- What was read and what is left give a reason for the fault. -/
def Caused (before rest : List Token) : SyntaxFault → Prop
  | .expected _ => True
  | .wildcardNotAlone word => ∃ found ∈ rest.head?, JoinsWildcard word before found
  | .repeatedClause word world => ∃ found ∈ rest.head?, RepeatsClause word world before found

/-- What was read still earlier takes no reason away. -/
theorem Caused.append {before rest : List Token} {fault : SyntaxFault}
    (h : Caused before rest fault) (earlier : List Token) :
    Caused (earlier ++ before) rest fault := by
  cases fault with
  | expected what => trivial
  | wildcardNotAlone word =>
    obtain ⟨found, hmem, hword, hand, front, wildcard, rfl, hwildcard⟩ := h
    exact ⟨found, hmem, hword, hand, earlier ++ front, wildcard, by simp, hwildcard⟩
  | repeatedClause word world =>
    obtain ⟨found, hmem, hword, front, key, name, tokens, clauses, rfl, hworld⟩ := h
    exact ⟨found, hmem, hword, earlier ++ front, key, name, tokens, clauses, by simp, hworld⟩

namespace Parser

/-- After the tokens before it, the parser reads plain tokens and has a reason for each fault. -/
structure Accounts (before : List Token) (parser : Parser α) : Prop where
  plain : ∀ {read rest result}, parser.run (read ++ rest) = (result, rest) →
    ∀ token ∈ read, token.Plain
  caused : ∀ {read rest fault}, parser.run (read ++ rest) = (.error fault, rest) →
    Caused (before ++ read) rest fault

structure AccountsTable (choice? : Token → Option (Parser α)) : Prop where
  plain : ∀ {token item}, choice? token = some item → token.Plain
  items : ∀ {token item}, choice? token = some item → Accounts [token] item

theorem Accounts.mono {parser : Parser α} (h : Accounts [] parser) (before : List Token) :
    Accounts before parser :=
  ⟨h.plain, fun hrun => (h.caused hrun).append before⟩

/-- A parser that leaves everything only has to account for the fault that it makes at once. -/
theorem Accounts.of_unread {before : List Token} {parser : Parser α}
    (hunread : ∀ tokens, (parser.run tokens).2 = tokens)
    (hcaused : ∀ {rest fault}, parser.run rest = (.error fault, rest) → Caused before rest fault) :
    Accounts before parser := by
  have hread : ∀ {read rest result}, parser.run (read ++ rest) = (result, rest) → read = [] := by
    intro read rest result hrun
    have hrest := hunread (read ++ rest)
    rw [hrun] at hrest
    simpa using hrest.symm
  constructor
  · intro read rest result hrun token hmem
    rw [hread hrun] at hmem
    cases hmem
  · intro read rest fault hrun
    obtain rfl := hread hrun
    rw [List.append_nil]
    exact hcaused hrun

theorem accounts_pure (before : List Token) (value : α) :
    Accounts before (pure value : Parser α) :=
  Accounts.of_unread (fun _ => rfl) fun hrun => by cases hrun

theorem accounts_expected (before : List Token) (what : Expectation) :
    Accounts before (fail (.expected what) : Parser α) :=
  Accounts.of_unread (fun _ => rfl) fun hrun => by cases hrun; trivial

theorem accounts_nextIs (before : List Token) (described : Token → Bool) :
    Accounts before (nextIs described) :=
  Accounts.of_unread (fun _ => rfl) fun hrun => by cases hrun

theorem Accounts.bind {before : List Token} {first : Parser α} {next : α → Parser β}
    (hfirst : Accounts before first) (hnext : ∀ value, Accounts [] (next value)) :
    Accounts before (first >>= next) := by
  constructor
  · intro read rest result hrun token hmem
    rcases run_bind_cases hrun with ⟨fault, -, hout⟩ | ⟨front, back, value, rfl, hout, hrest⟩
    · exact hfirst.plain hout token hmem
    · rcases List.mem_append.mp hmem with hfront | hback
      · exact hfirst.plain hout token hfront
      · exact (hnext value).plain hrest token hback
  · intro read rest fault hrun
    rcases run_bind_cases hrun with ⟨fault', herror, hout⟩ | ⟨front, back, value, rfl, hout, hrest⟩
    · cases herror
      exact hfirst.caused hout
    · rw [← List.append_assoc]
      exact ((hnext value).caused hrest).append _

theorem Accounts.map {before : List Token} {item : Parser α} (h : Accounts before item)
    (f : α → β) : Accounts before (f <$> item) :=
  h.bind fun value => accounts_pure [] (f value)

theorem AccountsTable.branch {before : List Token} {choice? : Token → Option (Parser α)}
    {otherwise : Parser α} (htable : AccountsTable choice?)
    (hotherwise : Accounts before otherwise) : Accounts before (branch choice? otherwise) := by
  constructor
  · intro read rest result hrun token hmem
    rcases run_branch_cases hrun with ⟨first, front, item, rfl, hchoice, hitem⟩ | ⟨-, hother⟩
    · rcases List.mem_cons.mp hmem with rfl | hfront
      · exact htable.plain hchoice
      · exact (htable.items hchoice).plain hitem token hfront
    · exact hotherwise.plain hother token hmem
  · intro read rest fault hrun
    rcases run_branch_cases hrun with ⟨first, front, item, rfl, hchoice, hitem⟩ | ⟨-, hother⟩
    · exact ((htable.items hchoice).caused hitem).append before
    · exact hotherwise.caused hother

theorem AccountsTable.require {choice? : Token → Option (Parser α)}
    (htable : AccountsTable choice?) (what : Expectation) (before : List Token) :
    Accounts before (require what choice?) :=
  htable.branch (accounts_expected before what)

theorem AccountsTable.optional {choice? : Token → Option (Parser α)}
    (htable : AccountsTable choice?) (before : List Token) :
    Accounts before (optional choice?) := by
  refine AccountsTable.branch ⟨?_, ?_⟩ (accounts_pure before none)
  · intro token item hitem
    obtain ⟨inner, hinner, rfl⟩ := Option.map_eq_some_iff.mp hitem
    exact htable.plain hinner
  · intro token item hitem
    obtain ⟨inner, hinner, rfl⟩ := Option.map_eq_some_iff.mp hitem
    exact (htable.items hinner).map some

/-- The steps of a repetition account for what they take and refuse. What was read so far is tied
to the state by an invariant, so that a refusal can have its reason there. -/
structure AccountsStep {σ : Type} (before : List Token) (step : σ → Token → Step α)
    (move : σ → α → σ) (reached : σ → List Token → Prop) : Prop where
  plain : ∀ {state token item}, step state token = .take item → token.Plain
  items : ∀ {state token item}, step state token = .take item → Accounts [token] item
  moves : ∀ {state token item so front rest value}, reached state so →
    step state token = .take item → item.run (front ++ rest) = (.ok value, rest) →
      reached (move state value) (so ++ token :: front)
  rejects : ∀ {state token so rest fault}, reached state so → step state token = .reject fault →
    Caused (before ++ so) (token :: rest) fault

private theorem repeatRun_accounts {σ : Type} {before : List Token} {step : σ → Token → Step α}
    {move : σ → α → σ} {reached : σ → List Token → Prop}
    (h : AccountsStep before step move reached) (state : σ) (tokens : List Token) :
    ∀ so read, reached state so → tokens = read ++ (repeatRun step move state tokens).2 →
      (∀ token ∈ read, token.Plain) ∧
      ∀ fault, (repeatRun step move state tokens).1 = .error fault →
        Caused (before ++ (so ++ read)) (repeatRun step move state tokens).2 fault := by
  refine repeatRun_cases
    (motive := fun state tokens result rest => ∀ so read, reached state so →
      tokens = read ++ rest → (∀ token ∈ read, token.Plain) ∧
        ∀ fault, result = .error fault → Caused (before ++ (so ++ read)) rest fault)
    ?done ?stop ?reject ?failed ?taken state tokens
  case done =>
    intro state so read hso hsplit
    obtain ⟨rfl, -⟩ := List.append_eq_nil_iff.mp hsplit.symm
    exact ⟨by simp, fun fault hfault => by cases hfault⟩
  case stop =>
    intro state token rest hstop so read hso hsplit
    obtain rfl : read = [] := by simpa using hsplit
    exact ⟨by simp, fun fault hfault => by cases hfault⟩
  case reject =>
    intro state token rest fault hreject so read hso hsplit
    obtain rfl : read = [] := by simpa using hsplit
    refine ⟨by simp, fun fault' hfault => ?_⟩
    cases hfault
    rw [List.append_nil]
    exact h.rejects hso hreject
  case failed =>
    intro state token front rest item fault htake hitem so read hso hsplit
    rw [← List.cons_append] at hsplit
    obtain rfl := List.append_cancel_right hsplit
    refine ⟨List.forall_mem_cons.mpr ⟨h.plain htake, (h.items htake).plain hitem⟩, ?_⟩
    intro fault' hfault
    cases hfault
    rw [← List.append_assoc]
    exact ((h.items htake).caused hitem).append _
  case taken =>
    intro state token front back rest item value result htake hitem ih so read hso hsplit
    rw [← List.append_assoc, ← List.cons_append] at hsplit
    obtain rfl := List.append_cancel_right hsplit
    obtain ⟨hplain, hcaused⟩ := ih (so ++ token :: front) back (h.moves hso htake hitem) rfl
    refine ⟨?_, ?_⟩
    · intro other hmem
      rw [← List.cons_append] at hmem
      rcases List.mem_append.mp hmem with hfront | hback
      · rcases List.mem_cons.mp hfront with rfl | hfront
        · exact h.plain htake
        · exact (h.items htake).plain hitem other hfront
      · exact hplain other hback
    · intro fault hfault
      cases result with
      | ok others => cases hfault
      | error _ =>
        cases hfault
        have hreason := hcaused fault rfl
        rw [List.append_assoc] at hreason
        exact hreason

theorem AccountsStep.repeated {σ : Type} {before : List Token} {step : σ → Token → Step α}
    {move : σ → α → σ} {reached : σ → List Token → Prop}
    (h : AccountsStep before step move reached) {state : σ} (hstart : reached state []) :
    Accounts before (repeated step move state) := by
  constructor
  · intro read rest result hrun
    have haccounts := repeatRun_accounts h state (read ++ rest) [] read hstart
    rw [show repeatRun step move state (read ++ rest) = (result, rest) from hrun] at haccounts
    exact (haccounts rfl).1
  · intro read rest fault hrun
    have haccounts := repeatRun_accounts h state (read ++ rest) [] read hstart
    rw [show repeatRun step move state (read ++ rest) = (.error fault, rest) from hrun] at haccounts
    exact (haccounts rfl).2 fault rfl

theorem AccountsTable.many {choice? : Token → Option (Parser α)} (htable : AccountsTable choice?)
    (before : List Token) : Accounts before (many choice?) := by
  rw [many_eq]
  refine @AccountsStep.repeated _ _ before _ _ (fun _ _ => True) ⟨?_, ?_, ?_, ?_⟩ _ trivial
  · exact fun htake => htable.plain (Step.ofChoice_eq_take.mp htake)
  · exact fun htake => htable.items (Step.ofChoice_eq_take.mp htake)
  · exact fun _ _ _ => trivial
  · exact fun _ hreject => absurd hreject Step.ofChoice_ne_reject

theorem accountsTable_none : AccountsTable fun _ => (none : Option (Parser α)) where
  plain hitem := by cases hitem
  items hitem := by cases hitem

/-- A table is built up by one sort of tokens after the other. -/
theorem accountsTable_if {opens : Token → Prop} [DecidablePred opens] {item : Token → Parser α}
    {others : Token → Option (Parser α)} (hplain : ∀ {token}, opens token → token.Plain)
    (hitem : ∀ {token}, opens token → Accounts [token] (item token))
    (hothers : AccountsTable others) :
    AccountsTable fun token => if opens token then some (item token) else others token := by
  constructor
  · intro token inner hinner
    by_cases htoken : opens token
    · exact hplain htoken
    · exact hothers.plain ((if_neg htoken).symm.trans hinner)
  · intro token inner hinner
    by_cases htoken : opens token
    · have heq : item token = inner := Option.some.inj ((if_pos htoken).symm.trans hinner)
      exact heq ▸ hitem htoken
    · exact hothers.items ((if_neg htoken).symm.trans hinner)

theorem Accounts.opened {opens : Token → Bool} {item : Parser α} (hitem : Accounts [] item)
    (hopens : ∀ {token}, opens token = true → token.Plain) :
    AccountsTable fun token => if opens token then some item else none :=
  accountsTable_if hopens (fun _ => hitem.mono _) accountsTable_none

theorem Accounts.separatedBy {separates : Token → Bool} {item : Parser α}
    (hitem : Accounts [] item) (hseparates : ∀ {token}, separates token = true → token.Plain)
    (before : List Token) : Accounts before (separatedBy separates item) :=
  (hitem.mono before).bind fun _ =>
    ((hitem.opened hseparates).many []).bind fun _ => accounts_pure [] _

theorem Accounts.commaSeparated {item : Parser α} (hitem : Accounts [] item)
    (before : List Token) : Accounts before (commaSeparated item) :=
  hitem.separatedBy Token.plain_of_isOperator before

theorem accountsTable_pure {described : Token → Prop} [DecidablePred described] (tell : Token → α)
    (hplain : ∀ {token}, described token → token.Plain) :
    AccountsTable fun token =>
      if described token then some (pure (tell token) : Parser α) else none :=
  accountsTable_if hplain (fun _ => accounts_pure _ _) accountsTable_none

theorem accounts_name (role : NameRole) (before : List Token) : Accounts before (name role) :=
  (accountsTable_pure Token.text Token.plain_of_identifier).require _ before

theorem accounts_keyword (word : Keyword) (before : List Token) :
    Accounts before (keyword word) :=
  (accountsTable_pure (fun _ => ()) Token.plain_of_isKeyword).require _ before

theorem accounts_operator (symbol : Char) (before : List Token) :
    Accounts before (operator symbol) :=
  (accountsTable_pure (fun _ => ()) Token.plain_of_isOperator).require _ before

theorem accounts_accept (word : Keyword) (before : List Token) : Accounts before (accept word) :=
  (accountsTable_pure (fun _ => true) Token.plain_of_isKeyword).branch (accounts_pure before false)

end Parser

end TagGraph
