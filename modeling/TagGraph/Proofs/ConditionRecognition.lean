import TagGraph.ActuatorGrammar
import TagGraph.Proofs.Recognition

/-!
The reader of conditions recognizes condition phrases. A wildcard is read as a condition only where
no `AND` follows it, so it stands alone; other conditions are predicates with an `AND` between them.
-/

namespace TagGraph

open TagGraph.Parser

namespace TagPredicate

/-- The first name is the tag, unless a second one makes it the slot. -/
def ofParts (isNegated : Bool) (first : String) : Option String → TagPredicate
  | some tag => ⟨[tag], isNegated, some first⟩
  | none => ⟨[first], isNegated, none⟩

theorem parser_eq : parser = do
    let isNegated ← accept .NOT
    let first ← Parser.name .tag
    let second ← Parser.optional fun token =>
      if token.isOperator '.' then some (Parser.name .tag) else none
    return ofParts isNegated first second := by
  unfold parser
  congr 1
  funext isNegated
  congr 1
  funext first
  congr 1
  funext second
  cases isNegated <;> cases second <;> rfl

/-- A predicate begins with `NOT` or with a name. -/
theorem phrase_head {token : Token} {rest : List Token} {condition : TagPredicate}
    (h : TagPredicatePhrase (token :: rest) condition) :
    token.isKeyword .NOT = true ∨ token.kind = .identifier := by
  generalize hall : token :: rest = all at h
  cases h with
  | tag hnot htag =>
    cases hnot with
    | absent => exact Or.inr ((List.cons.inj hall).1 ▸ htag)
    | present hnot => exact Or.inl ((List.cons.inj hall).1 ▸ hnot)
  | slot hnot hslot _ _ =>
    cases hnot with
    | absent => exact Or.inr ((List.cons.inj hall).1 ▸ hslot)
    | present hnot => exact Or.inl ((List.cons.inj hall).1 ▸ hnot)

theorem not_phrase_nil {condition : TagPredicate} : ¬TagPredicatePhrase [] condition := by
  intro h
  generalize hall : [] = all at h
  cases h with
  | tag _ _ => simp at hall
  | slot _ _ _ _ => simp at hall

theorem parser_recognizes : Recognizes parser TagPredicatePhrase
    (fun token => token.isOperator '.' = true) := by
  have hslot : Recognizes (Parser.optional fun token =>
      if token.isOperator '.' then some (Parser.name .tag) else none) SlotPhrase
      (fun token => token.isOperator '.' = true) :=
    ((recognizes_name .tag).optional Token.writable_dot Token.isOperator_dot).mono
      fun _ h => h.resolve_left id
  rw [parser_eq]
  refine Recognizes.congr ((recognizes_accept .NOT).bind (fun isNegated =>
    (recognizes_name .tag).bind (fun first => hslot.map (ofParts isNegated first))
      (fun _ => id) (fun _ _ => False.elim)) ?_ ?_) ?_ fun _ => id
  · intro isNegated token back condition hback hnot
    rcases hback.head with ⟨front, first, ⟨hname⟩⟩ | ⟨first, hnil, -⟩
    · simp [Token.isKeyword_of_identifier hname] at hnot
    · cases hnil
  · intro isNegated condition hnil
    obtain ⟨first, hfirst, -⟩ := hnil.of_nil
    cases hfirst
  · intro tokens condition
    constructor
    · intro h
      obtain ⟨front, back, isNegated, rfl, hnot, front', back', first, rfl, ⟨hfirst⟩, second,
        hsecond, rfl⟩ := h
      cases hsecond with
      | none => exact .tag hnot hfirst
      | some hdot htag =>
        obtain ⟨htag⟩ := htag
        exact .slot hnot hfirst hdot htag
    · intro hread
      cases hread with
      | tag hnot htag => exact ⟨_, _, _, rfl, hnot, _, _, _, rfl, .intro htag, _, .none, rfl⟩
      | slot hnot hslot hdot htag =>
        exact ⟨_, _, _, rfl, hnot, [_], _, _, rfl, .intro hslot, _, .some hdot (.intro htag), rfl⟩

theorem parser_local : Local parser :=
  (local_accept .NOT).bind fun _ => (local_name .tag).bind fun _ =>
    ((local_name .tag).opened (.intro fun _ _ _ _ => rfl)).optional.bind fun _ => local_pure _

end TagPredicate

namespace Predicate

theorem joined_recognizes : Recognizes joined
    (fun tokens conditions => ∃ items,
      ListPhrase (·.isKeyword .AND) TagPredicatePhrase tokens items ∧
        conditions = items.map tagSet)
    (fun token => token.isOperator '.' = true ∨ token.isKeyword .AND = true) := by
  refine Recognizes.congr ((TagPredicate.parser_recognizes.map tagSet).separatedBy
    (Token.writable_ofKeyword .AND) (Token.isKeyword_ofKeyword .AND) fun hdot =>
      Token.isKeyword_of_isOperator hdot .AND) (fun _ _ => listPhrase_map_iff) fun _ => id

/-- Whether an `AND` follows decides if a wildcard stands alone; nothing else is read. -/
theorem run_loneWildcard (wildcard : Keyword) (tokens : List Token) :
    (loneWildcard wildcard).run tokens =
      if tokens.head?.any (·.isKeyword .AND) then (.error (.wildcardNotAlone wildcard), tokens)
      else (.ok [any], tokens) := by
  have hnext : (nextIs (·.isKeyword .AND)).run tokens =
      (.ok (tokens.head?.any (·.isKeyword .AND)), tokens) := rfl
  rw [loneWildcard, run_bind_of_ok hnext]
  split <;> rfl

theorem loneWildcard_recognizes (wildcard : Keyword) : Recognizes (loneWildcard wildcard)
    (fun tokens conditions => tokens = [] ∧ conditions = [any])
    (fun token => token.isKeyword .AND = true) where
  sound {read rest value} hrun := by
    rw [run_loneWildcard] at hrun
    split at hrun
    · cases hrun
    · obtain ⟨hvalue, hrest⟩ := Prod.mk.inj hrun
      exact ⟨by simpa using hrest, (Except.ok.inj hvalue).symm⟩
  viable {read rest fault} hrun := by
    rw [run_loneWildcard] at hrun
    split at hrun
    · obtain ⟨-, hrest⟩ := Prod.mk.inj hrun
      exact ⟨[], [any], by simp, by simpa using hrest, rfl⟩
    · cases hrun
  complete := by
    intro read rest value h hends
    obtain ⟨rfl, rfl⟩ := h
    rw [List.nil_append, run_loneWildcard]
    cases rest with
    | nil => rfl
    | cons token rest => simp [ends_cons.mp hends]
  inhabited := ⟨[], [any], by simp, rfl, rfl⟩

/-- A wildcard of the list, by itself. -/
def WildcardPhrase (wildcards : List Keyword) : Phrase (List Predicate) :=
  fun tokens conditions => ∃ token word, tokens = [token] ∧ word ∈ wildcards ∧
    token.isKeyword word = true ∧ conditions = [any]

theorem recognizesTable_wildcard {wildcards : List Keyword} {word : Keyword}
    (hword : word ∈ wildcards) : RecognizesTable
      (fun token => (wildcards.find? token.isKeyword).map loneWildcard)
      (WildcardPhrase wildcards) (fun token => token.isKeyword .AND = true) where
  items {token item} hitem := by
    obtain ⟨found, hfound, rfl⟩ := Option.map_eq_some_iff.mp hitem
    refine (loneWildcard_recognizes found).congr ?_ fun _ => id
    intro tokens conditions
    constructor
    · intro h
      obtain ⟨rfl, rfl⟩ := h
      exact ⟨token, found, rfl, List.mem_of_find?_eq_some hfound, List.find?_some hfound, rfl⟩
    · intro h
      obtain ⟨token', word', heq, -, -, rfl⟩ := h
      exact ⟨(List.cons.inj heq).2, rfl⟩
  opens := by
    intro token tokens conditions h
    obtain ⟨token', word', heq, hmem, htoken, -⟩ := h
    obtain ⟨rfl, -⟩ := List.cons.inj heq
    rw [Option.isSome_map, List.find?_isSome]
    exact ⟨word', hmem, htoken⟩
  nonempty := by
    intro conditions h
    obtain ⟨token, word', heq, -⟩ := h
    cases heq
  inhabited := ⟨[Token.ofKeyword word], [any], by simp [Token.writable_ofKeyword],
    Token.ofKeyword word, word, rfl, hword, Token.isKeyword_ofKeyword word, rfl⟩

theorem not_listPhrase_nil {items : List TagPredicate} :
    ¬ListPhrase (·.isKeyword .AND) TagPredicatePhrase [] items := by
  intro h
  obtain ⟨front, back, first, others, heq, hfirst, -⟩ := listPhrase_iff.mp h
  obtain ⟨rfl, -⟩ := List.append_eq_nil_iff.mp heq.symm
  exact TagPredicate.not_phrase_nil hfirst

theorem listPhrase_head {token : Token} {rest : List Token} {items : List TagPredicate}
    (h : ListPhrase (·.isKeyword .AND) TagPredicatePhrase (token :: rest) items) :
    token.isKeyword .NOT = true ∨ token.kind = .identifier := by
  obtain ⟨front, back, first, others, heq, hfirst, -⟩ := listPhrase_iff.mp h
  cases front with
  | nil => exact absurd hfirst TagPredicate.not_phrase_nil
  | cons token' front =>
    obtain ⟨rfl, -⟩ := List.cons.inj heq
    exact TagPredicate.phrase_head hfirst

theorem conditions_recognizes {wildcards : List Keyword} {word : Keyword}
    (hword : word ∈ wildcards) (hnot : .NOT ∉ wildcards) :
    Recognizes (conditions wildcards) (ConditionsPhrase wildcards)
      (fun token => token.isOperator '.' = true ∨ token.isKeyword .AND = true) := by
  have htable := (recognizesTable_wildcard hword).mono fun token hand =>
    show token.isOperator '.' = true ∨ token.isKeyword .AND = true from Or.inr hand
  refine (htable.branch joined_recognizes ?_ ?_).congr ?_ fun _ => id
  · intro token tokens conditions h
    obtain ⟨items, hitems, -⟩ := h
    have hfind : wildcards.find? token.isKeyword = none := by
      refine List.find?_eq_none.mpr fun other hmem htoken => ?_
      rcases listPhrase_head hitems with hnot' | hname
      · rw [Token.isKeyword_of_isKeyword htoken, decide_eq_true_iff] at hnot'
        exact hnot (hnot' ▸ hmem)
      · simp [Token.isKeyword_of_identifier hname] at htoken
    simp [hfind]
  · intro conditions token h
    obtain ⟨items, hitems, -⟩ := h
    exact absurd hitems not_listPhrase_nil
  · intro tokens conditions
    constructor
    · intro h
      rcases h with ⟨token, word', rfl, hmem, htoken, rfl⟩ | ⟨items, hitems, rfl⟩
      · exact .wildcard hmem htoken
      · exact .joined hitems
    · intro h
      rcases h with ⟨hmem, htoken⟩ | ⟨hitems⟩
      · exact Or.inl ⟨_, _, rfl, hmem, htoken, rfl⟩
      · exact Or.inr ⟨_, hitems, rfl⟩

theorem not_conditionsPhrase_nil {wildcards : List Keyword} {conditions : List Predicate} :
    ¬ConditionsPhrase wildcards [] conditions := by
  intro h
  cases h with
  | joined hitems => exact not_listPhrase_nil hitems

/-- Conditions begin with a wildcard, with `NOT` or with a name, and with no other keyword. -/
theorem isKeyword_of_conditionsPhrase {wildcards : List Keyword} {word : Keyword} {token : Token}
    {rest : List Token} {conditions : List Predicate} (hword : word ∉ wildcards)
    (hnot : word ≠ .NOT) (h : ConditionsPhrase wildcards (token :: rest) conditions) :
    token.isKeyword word = false := by
  cases h with
  | @wildcard other _ hmem htoken =>
    have hne : word ≠ other := fun heq => hword (heq ▸ hmem)
    simp [Token.isKeyword_of_isKeyword htoken, hne]
  | joined hitems =>
    rcases listPhrase_head hitems with htoken | hname
    · simp [Token.isKeyword_of_isKeyword htoken, hnot]
    · exact Token.isKeyword_of_identifier hname word

theorem joined_local : Local joined :=
  (TagPredicate.parser_local.map tagSet).separatedBy (.intro fun _ _ _ _ => rfl)

theorem loneWildcard_local (wildcard : Keyword) : Local (loneWildcard wildcard) := by
  refine (local_nextIs (.intro fun _ _ _ _ => rfl)).bind fun isJoined => ?_
  split
  · exact local_fail _
  · exact local_pure _

theorem conditions_local (wildcards : List Keyword) : Local (conditions wildcards) := by
  refine LocalTable.branch ⟨.intro fun _ _ _ _ => rfl, ?_⟩ joined_local
  intro token item hitem
  obtain ⟨wildcard, -, rfl⟩ := Option.map_eq_some_iff.mp hitem
  exact loneWildcard_local wildcard

end Predicate

end TagGraph
