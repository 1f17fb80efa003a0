import TagGraph.Proofs.FaultCauses
import TagGraph.Proofs.ProgramRecognition

/-!
The readers of declarations account for their faults. A wildcard is refused company where it was the
token before, and a clause its repetition where the world has been read from its keyword on; all
other parts expect something.
-/

namespace TagGraph

open TagGraph.Parser

theorem Concept.parser_accounts : Accounts [] Concept.parser := by
  have htags : Accounts [] (Clause.tags <$> commaSeparated (Parser.name .tag)) :=
    ((accounts_name .tag []).commaSeparated []).map _
  have hslots : Accounts [] (Clause.slots <$> commaSeparated (Parser.name .slot)) :=
    ((accounts_name .slot []).commaSeparated []).map _
  have htable : AccountsTable Clause.opened? :=
    accountsTable_if Token.plain_of_isKeyword (fun _ => htags.mono _) (hslots.opened
      Token.plain_of_isKeyword)
  exact (accounts_name .concept []).bind fun _ => (htable.many []).bind fun _ => accounts_pure [] _

namespace Address

theorem slotParser_accounts : Accounts [] slotParser :=
  ((accounts_name .slot []).opened Token.plain_of_isOperator).optional []

theorem parser_accounts (implied : Context) : Accounts [] (parser implied) := by
  refine AccountsTable.require ?_ .address []
  refine accountsTable_if Token.plain_of_isKeyword (fun _ => (slotParser_accounts.map _).mono _) ?_
  refine accountsTable_if Token.plain_of_isKeyword (fun _ => (slotParser_accounts.map _).mono _) ?_
  refine accountsTable_if Token.plain_of_isKeyword (fun _ => (slotParser_accounts.map _).mono _) ?_
  exact accountsTable_pure (fun token => Address.mk implied (some token.text))
    Token.plain_of_identifier

end Address

namespace Predicate

theorem accounts_joined : Accounts [] joined := by
  have hitem : Accounts [] TagPredicate.parser :=
    (accounts_accept .NOT []).bind fun _ => (accounts_name .tag []).bind fun _ =>
      (((accounts_name .tag []).opened Token.plain_of_isOperator).optional []).bind fun _ =>
        accounts_pure [] _
  exact (hitem.map tagSet).separatedBy Token.plain_of_isKeyword []

theorem accounts_loneWildcard {wildcard : Keyword} (hword : wildcard ∈ [Keyword.ANY, .ALL])
    {token : Token} (htoken : token.isKeyword wildcard = true) :
    Accounts [token] (loneWildcard wildcard) := by
  refine Accounts.of_unread ?_ ?_
  · intro tokens
    rw [run_loneWildcard]
    split <;> rfl
  · intro rest fault hrun
    rw [run_loneWildcard] at hrun
    split at hrun
    · next hjoined =>
      obtain ⟨hfault, -⟩ := Prod.mk.inj hrun
      cases hfault
      cases rest with
      | nil => cases hjoined
      | cons found rest => exact ⟨found, rfl, hword, hjoined, [], token, rfl, htoken⟩
    · cases hrun

theorem accounts_conditions {wildcards : List Keyword}
    (hsub : ∀ word ∈ wildcards, word ∈ [Keyword.ANY, .ALL]) :
    Accounts [] (conditions wildcards) := by
  refine AccountsTable.branch ⟨?_, ?_⟩ accounts_joined
  · intro token item hitem
    obtain ⟨word, hfind, -⟩ := Option.map_eq_some_iff.mp hitem
    exact Token.plain_of_isKeyword (List.find?_some hfind)
  · intro token item hitem
    obtain ⟨word, hfind, rfl⟩ := Option.map_eq_some_iff.mp hitem
    exact accounts_loneWildcard (hsub word (List.mem_of_find?_eq_some hfind))
      (List.find?_some hfind)

end Predicate

namespace Action

theorem accounts_change? (subject : Address) : AccountsTable (change? subject) := by
  have hnames := (accounts_name .tag []).commaSeparated []
  refine accountsTable_if Token.plain_of_isKeyword
    (fun _ => (hnames.bind fun _ => accounts_pure [] _).mono _) ?_
  refine accountsTable_if Token.plain_of_isKeyword
    (fun _ => (hnames.bind fun _ => accounts_pure [] _).mono _) ?_
  refine Accounts.opened ?_ Token.plain_of_isKeyword
  exact (accounts_name .slot []).bind fun _ => (accounts_keyword .TO []).bind fun _ =>
    (Address.parser_accounts subject.context).bind fun _ => accounts_pure [] _

theorem accounts_opened? : AccountsTable opened? := by
  have hafter : Accounts [] afterIn :=
    (accounts_change? Address.this).branch ((Address.parser_accounts .this).bind fun object =>
      (accounts_change? object).require .action [])
  refine accountsTable_if Token.plain_of_isKeyword (fun _ => accounts_pure _ _) ?_
  refine accountsTable_if Token.plain_of_isKeyword (fun _ => ?_) (accounts_change? Address.this)
  rw [subject_bind_eq]
  exact hafter.mono _

end Action

theorem Actuator.parser_accounts : Accounts [] Actuator.parser := by
  have hconditions : Accounts [] (Predicate.conditions [.ALL]) :=
    Predicate.accounts_conditions (by simp)
  have hpartner : Accounts [] (Predicate.conditions [.ANY, .ALL]) :=
    Predicate.accounts_conditions (by simp)
  refine (accounts_accept .ROOT []).bind fun _ => hconditions.bind fun _ => ?_
  refine ((hpartner.opened Token.plain_of_isKeyword).optional []).bind fun _ => ?_
  refine (accounts_keyword .DO []).bind fun _ => ?_
  exact (Action.accounts_opened?.require .action []).bind fun _ =>
    (Action.accounts_opened?.many []).bind fun _ => accounts_pure [] _

namespace World

theorem accounts_object : Accounts [] WorldObject.parser :=
  (accounts_name .concept []).bind fun _ =>
    (((accounts_name .objectAlias []).opened Token.plain_of_isKeyword).optional []).bind fun _ =>
      accounts_pure [] _

theorem accounts_binding : Accounts [] Binding.parser := by
  have hpath : Accounts [] SlotPath.parser :=
    (accounts_name .objectAlias []).bind fun _ => (accounts_operator '.' []).bind fun _ =>
      (accounts_name .slot []).bind fun _ => accounts_pure [] _
  exact hpath.bind fun _ => (accounts_keyword .TO []).bind fun _ =>
    hpath.bind fun _ => accounts_pure [] _

theorem accounts_of_opened? {token : Token} {word : Keyword} {item : Parser Clause}
    (h : Clause.opened? token = some (word, item)) : Accounts [] item := by
  obtain ⟨-, ⟨-, rfl⟩ | ⟨-, rfl⟩ | ⟨-, rfl⟩⟩ := opened?_cases h
  · exact (accounts_name .rootObject []).map _
  · exact (accounts_object.commaSeparated []).map _
  · exact (accounts_binding.commaSeparated []).map _

/-- The keywords seen are those of the clauses that were read since the name of the world. -/
def Seen (seen : List Keyword) (read : List Token) : Prop :=
  ∃ clauses, RepeatPhrase WorldClausePhrase read clauses ∧
    ∀ word ∈ seen, word ∈ clauses.map Clause.keyword

theorem Seen.next {seen : List Keyword} {read tokens : List Token} {clause : Clause}
    (h : Seen seen read) (hclause : WorldClausePhrase tokens clause) :
    Seen (clause.keyword :: seen) (read ++ tokens) := by
  obtain ⟨clauses, hread, hseen⟩ := h
  refine ⟨clauses ++ [clause], hread.append (.one hclause), ?_⟩
  intro word hword
  rw [List.map_append, List.mem_append]
  rcases List.mem_cons.mp hword with rfl | hword
  · exact Or.inr List.mem_cons_self
  · exact Or.inl (hseen word hword)

theorem accountsStep_clause {key name : Token} (hkey : key.isKeyword .WORLD = true)
    (hname : name.kind = .identifier) : AccountsStep [key, name] (Clause.step name.text)
      (fun seen clause => clause.keyword :: seen) Seen := by
  refine ⟨?_, ?_, ?_, ?_⟩
  · intro seen token item htake
    obtain ⟨word, hopened, -⟩ := step_eq_take_iff.mp htake
    exact Token.plain_of_isKeyword (opened?_cases hopened).1
  · intro seen token item htake
    obtain ⟨word, hopened, -⟩ := step_eq_take_iff.mp htake
    exact (accounts_of_opened? hopened).mono [token]
  · intro seen token item read front rest clause hseen htake hitem
    obtain ⟨word, hopened, -⟩ := step_eq_take_iff.mp htake
    exact hseen.next ((recognizes_of_opened? hopened).1.sound hitem)
  · intro seen token read rest fault hseen hreject
    obtain ⟨clauses, hread, hkeywords⟩ := hseen
    obtain ⟨word, item, hopened, hword, rfl⟩ := step_eq_reject_iff.mp hreject
    exact ⟨token, rfl, (opened?_cases hopened).1, [], key, name, read, clauses, rfl, hkey, hname,
      rfl, hread, hkeywords word hword⟩

theorem parser_accounts {key : Token} (hkey : key.isKeyword .WORLD = true) :
    Accounts [key] World.parser := by
  have hlist : ∀ {name : Token}, name.kind = .identifier → Accounts [key, name] (do
      let clauses ← Clause.list name.text
      return ofClauses name.text clauses) := by
    intro name hname
    refine ((accountsStep_clause hkey hname).repeated ?_).bind fun _ => accounts_pure [] _
    exact ⟨[], .nil, by simp⟩
  constructor
  · intro read rest result hrun token hmem
    rcases run_bind_cases hrun with ⟨fault, -, hout⟩ | ⟨front, back, value, rfl, hout, hrest⟩
    · exact (accounts_name .world []).plain hout token hmem
    · cases (recognizes_name .world).sound hout with
      | intro hname =>
        rcases List.mem_cons.mp hmem with rfl | hback
        · exact Token.plain_of_identifier hname
        · exact (hlist hname).plain hrest token hback
  · intro read rest fault hrun
    rcases run_bind_cases hrun with ⟨fault', herror, hout⟩ | ⟨front, back, value, rfl, hout, hrest⟩
    · cases herror
      exact (accounts_name .world [key]).caused hout
    · cases (recognizes_name .world).sound hout with
      | intro hname => exact (hlist hname).caused hrest

end World

theorem Declaration.accounts_opened? : AccountsTable Declaration.opened? :=
  accountsTable_if Token.plain_of_isKeyword (fun _ => (Concept.parser_accounts.map _).mono _) <|
    accountsTable_if Token.plain_of_isKeyword (fun _ => (Actuator.parser_accounts.map _).mono _) <|
      accountsTable_if Token.plain_of_isKeyword (fun hkey => (World.parser_accounts hkey).map _)
        accountsTable_none

theorem Program.parser_accounts : Accounts [] Program.parser := by
  refine (Declaration.accounts_opened?.many []).bind fun declarations => ?_
  refine (accounts_nextIs [] _).bind fun isMore => ?_
  split
  · exact accounts_expected [] _
  · exact accounts_pure [] _

end TagGraph
