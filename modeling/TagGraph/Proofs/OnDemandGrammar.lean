import TagGraph.OnDemandGrammar
import TagGraph.Proofs.ActuatorRecognition
import TagGraph.Proofs.Following

/-!
Concepts and actuators on demand. Each routine follows the parser of the grammar.
-/

namespace TagGraph

open TagGraph.Parser (Step)

namespace Concept

def add (concept : Concept) : Clause → Concept
  | .tags names => { concept with tags := names.foldl LabelSet.insert concept.tags }
  | .slots names => { concept with slots := names.foldl LabelSet.insert concept.slots }

theorem foldl_add (concept : Concept) (clauses : List Clause) : clauses.foldl add concept =
    ⟨concept.name, (clauses.flatMap Clause.tagNames).foldl LabelSet.insert concept.tags,
      (clauses.flatMap Clause.slotNames).foldl LabelSet.insert concept.slots⟩ := by
  induction clauses generalizing concept with
  | nil => rfl
  | cons clause clauses ih =>
    rw [List.foldl_cons, ih, List.flatMap_cons, List.flatMap_cons, List.foldl_append,
      List.foldl_append]
    cases clause <;> rfl

theorem foldl_add_empty (name : String) (clauses : List Clause) :
    clauses.foldl add ⟨name, .empty, .empty⟩ = ofClauses name clauses :=
  foldl_add _ clauses

end Concept

namespace Routine

variable {α : Type} {pass : Pass}

theorem conceptRound_follows (concept : Concept) (pass : Pass) : Follows (conceptRound concept)
    (Parser.round (fun token => Step.ofChoice (Concept.Clause.opened? token)) concept.add
      (pure concept)) pass := by
  simp only [Concept.Clause.opened?, ofChoice_ite]
  refine .of_round (plain_keyword .TAG) (fun pass => ?_)
    (.of_round (plain_keyword .SLOT) (fun pass => ?_) (.of_stop (.of_pure _)))
  · simp only [map_eq_pure_bind, bind_assoc, pure_bind]
    exact (Follows.of_names .tag).bind fun _ _ => .of_pure _
  · simp only [map_eq_pure_bind, bind_assoc, pure_bind]
    exact (Follows.of_names .slot).bind fun _ _ => .of_pure _

theorem conceptRest_follows (pass : Pass) : Follows conceptRest Concept.parser pass := by
  refine (Follows.of_name .concept).bind fun name pass => ?_
  have hloop := Follows.of_many conceptRound_follows ⟨name, .empty, .empty⟩ pass
  simpa only [Concept.foldl_add_empty] using hloop

theorem slot_follows (pass : Pass) : Follows slot Address.slotParser pass :=
  .of_optional (plain_operator '.') fun _ => .of_name .slot

theorem of_identifier (f : String → α) (what : Expectation) (role : NameRole) (pass : Pass) :
    Follows (do
      if ← sees (·.kind = .identifier) then return f (← name role)
      else throw (.expected what))
      (Parser.require what fun token =>
        if token.kind = .identifier then some (pure (f token.text)) else none) pass := by
  have hsees := run_sees (·.kind = .identifier) pass
  by_cases hkind : pass.current.kind = .identifier
  · have hplain : pass.current.isTerminal = false := by
      simp [Token.isTerminal, Token.isEndOfInput, Token.isError, hkind]
    rw [decide_eq_true hkind] at hsees
    refine .of_advance hplain (.of_pure (f pass.current.text)) ?_ fun rest => ?_
    · rw [run_bind_of_ok hsees]
      exact run_bind_of_ok (run_name_of_pos hkind) _
    · exact Parser.run_branch_of_some (if_pos hkind) _ _
  · rw [decide_eq_false hkind] at hsees
    refine .of_stay (.of_throw (.expected what)) (run_bind_of_ok hsees _) (fun _ => rfl)
      fun _ rest => ?_
    exact Parser.run_branch_of_none (if_neg hkind) _ _

theorem address_follows (implied : Context) (pass : Pass) :
    Follows (address implied) (Address.parser implied) pass := by
  have hslot (context : Context) (pass : Pass) :
      Follows (do return ⟨context, ← slot⟩) (Address.mk context <$> Address.slotParser) pass := by
    rw [map_eq_pure_bind]
    exact (slot_follows pass).bind fun _ _ => .of_pure _
  exact .of_branch (plain_keyword .THIS) (hslot .this) (.of_branch (plain_keyword .ROOT)
    (hslot .root) (.of_branch (plain_keyword .OTHER) (hslot .other)
      (of_identifier (fun slot => Address.mk implied (some slot)) .address .slot pass)))

theorem accept_follows (word : Keyword) (pass : Pass) :
    Follows (accept (·.isKeyword word)) (Parser.accept word) pass := by
  cases hcurrent : pass.current.isKeyword word with
  | true =>
    refine .of_advance ((plain_keyword word).not_isTerminal hcurrent) (.of_pure true)
      (run_accept_of_pos hcurrent) fun rest => ?_
    exact Parser.run_branch_of_some (if_pos hcurrent) _ _
  | false =>
    refine .of_stay (.of_pure false) (run_accept_of_neg hcurrent) (fun _ => rfl) fun _ rest => ?_
    exact Parser.run_branch_of_none (if_neg (by simp [hcurrent])) _ _

theorem predicate_follows (pass : Pass) :
    Follows predicate (Predicate.tagSet <$> TagPredicate.parser) pass := by
  simp only [TagPredicate.parser, map_bind, map_pure]
  refine (accept_follows .NOT pass).bind fun isNegated pass => ?_
  refine (Follows.of_name .tag).bind fun first pass => ?_
  refine (Follows.of_optional (plain_operator '.') fun _ => .of_name .tag).bind
    fun second pass => ?_
  exact .of_pure _

theorem predicates_follows (wildcards : List Keyword) (pass : Pass) :
    Follows (predicates wildcards) (Predicate.conditions wildcards) pass := by
  have hlone (wildcard : Keyword) (pass : Pass) : Follows (do
      if ← sees (·.isKeyword .AND) then throw (.wildcardNotAlone wildcard)
      else return [.any]) (Predicate.loneWildcard wildcard) pass := by
    refine (Follows.of_sees (plain_keyword .AND)).bind fun found pass => ?_
    cases found with
    | true => exact .of_throw _
    | false => exact .of_pure _
  cases hfind : wildcards.find? pass.current.isKeyword with
  | some wildcard =>
    have hkeyword : pass.current.isKeyword wildcard = true := List.find?_some hfind
    have hrun : (predicates wildcards).run pass = (do
        advance
        if ← sees (·.isKeyword .AND) then throw (.wildcardNotAlone wildcard)
        else return [.any] : Routine (List Predicate)).run pass := by
      rw [predicates, run_bind_of_ok (run_current pass)]
      simp only [hfind]
    refine .of_advance ((plain_keyword wildcard).not_isTerminal hkeyword) (hlone wildcard _)
      (hrun.trans (run_bind_of_ok (run_advance pass) _)) fun rest => ?_
    exact Parser.run_branch_of_some (by rw [hfind]; rfl) _ _
  | none =>
    have hrun : (predicates wildcards).run pass =
        (do loop predicateRound [← predicate] : Routine (List Predicate)).run pass := by
      rw [predicates, run_bind_of_ok (run_current pass)]
      simp only [hfind]
    refine .of_stay (.of_separated (plain_keyword .AND) predicate_follows) hrun (fun _ => rfl)
      fun _ rest => ?_
    exact Parser.run_branch_of_none (by rw [hfind]; rfl) _ _

theorem sees_either {first second : Token → Bool}
    (hfirst : ∀ token, first token = true → second token = false) (taken : Bool → Routine α)
    (left : Routine α) :
    (do
      if ← sees (fun token => first token || second token) then
        let isSecond ← sees second
        advance
        taken isSecond
      else left) = (do
      if ← accept first then taken false
      else if ← accept second then taken true
      else left) := by
  refine ext fun pass => ?_
  rw [run_bind_of_ok (run_sees _ pass)]
  cases hcurrent : first pass.current with
  | true =>
    have hsecond := run_sees second pass
    rw [hfirst _ hcurrent] at hsecond
    rw [run_bind_of_ok (run_accept_of_pos hcurrent), Bool.true_or]
    exact (run_bind_of_ok hsecond _).trans (run_bind_of_ok (run_advance pass) _)
  | false =>
    have hsees := run_sees second pass
    rw [run_bind_of_ok (run_accept_of_neg hcurrent), if_neg Bool.false_ne_true, Bool.false_or,
      ← sees_advance, run_bind_of_ok hsees]
    cases hsecond : second pass.current with
    | true =>
      rw [hsecond] at hsees
      exact run_bind_of_ok hsees _
    | false => rfl

theorem isSome_change? (subject : Address) (token : Token) :
    (Action.change? subject token).isSome = opensChange token := by
  cases hset : token.isKeyword .SET <;> cases hunset : token.isKeyword .UNSET <;>
    cases hbind : token.isKeyword .BIND <;> simp [Action.change?, opensChange, hset, hunset, hbind]

theorem isSome_opened? (token : Token) : (Action.opened? token).isSome = opensAction token := by
  have hchange := isSome_change? .this token
  cases hnothing : token.isKeyword .NOTHING <;> cases hin : token.isKeyword .IN <;>
    simp_all [Action.opened?, opensAction, opensChange]

theorem plain_any (words : List Keyword) : Plain fun token => words.any token.isKeyword := by
  intro token hterminal
  rw [List.any_eq_false]
  intro word _
  exact Bool.eq_false_iff.mp (plain_keyword word token hterminal)

theorem change_follows (subject : Address) (pass : Pass) :
    Follows (change subject) (Parser.require .action (Action.change? subject)) pass := by
  have hchange : change subject = (do
      if ← accept (·.isKeyword .SET) then return .tags ⟨← names .tag, false, subject⟩
      else if ← accept (·.isKeyword .UNSET) then return .tags ⟨← names .tag, true, subject⟩
      else if ← accept (·.isKeyword .BIND) then
        let slot ← name .slot
        keyword .TO
        return .bind ⟨slot, ← address subject.context, subject⟩
      else throw (.expected .action)) := by
    refine sees_either (fun token hset => ?_) _ _
    rw [Token.isKeyword_of_isKeyword hset]
    rfl
  have htags (isUnset : Bool) (pass : Pass) : Follows
      (do return Action.tags ⟨← names .tag, isUnset, subject⟩)
      (do return Action.tags ⟨← Parser.commaSeparated (Parser.name .tag), isUnset, subject⟩) pass :=
    (Follows.of_names .tag).bind fun _ _ => .of_pure _
  rw [hchange]
  refine .of_branch (plain_keyword .SET) (htags false) (.of_branch (plain_keyword .UNSET)
    (htags true) (.of_branch (plain_keyword .BIND) (fun pass => ?_) (.of_none (.of_throw _))))
  refine (Follows.of_name .slot).bind fun slot pass => ?_
  refine (Follows.of_keyword .TO).bind fun _ pass => ?_
  exact (address_follows _ pass).bind fun _ _ => .of_pure _

theorem action_follows (pass : Pass) :
    Follows action (Parser.require .action Action.opened?) pass := by
  have hsubject (pass : Pass) : Follows (do
      if ← sees opensChange then return .this
      else address .this) Action.subject pass := by
    simp only [Action.subject, isSome_change?]
    refine (Follows.of_sees (plain_any _)).bind fun found pass => ?_
    cases found with
    | true => exact .of_pure _
    | false => exact address_follows _ pass
  refine .of_branch (plain_keyword .NOTHING) (fun _ => .of_pure _) ?_
  rw [subject, accept_bind, pure_bind]
  refine .of_branch (plain_keyword .IN) (fun pass => ?_) ?_
  · exact (hsubject pass).bind fun object _ => change_follows object _
  · exact change_follows _ pass

theorem actionRound_follows (actions : List Action) (pass : Pass) : Follows (actionRound actions)
    (Parser.round (fun token => Step.ofChoice (Action.opened? token))
      (fun action => actions ++ [action]) (pure actions)) pass := by
  have hsees := run_sees opensAction pass
  have hopened := isSome_opened? pass.current
  cases hcurrent : opensAction pass.current with
  | true =>
    rw [hcurrent] at hsees hopened
    obtain ⟨item, hitem⟩ := Option.isSome_iff_exists.mp hopened
    have htaken := (action_follows pass).bind fun action pass' =>
      @Follows.of_pure (List Action ⊕ List Action) pass' (.inl (actions ++ [action]))
    refine .of_stay htaken (run_bind_of_ok hsees _) (fun hterminal => ?_) fun _ rest => ?_
    · rw [(plain_any _).not_isTerminal hcurrent] at hterminal
      cases hterminal
    · rw [Parser.run_round_of_take (by rw [hitem]; rfl), map_eq_pure_bind]
      exact (Parser.run_bind_congr (Parser.run_branch_of_some hitem _ _) _).symm
  | false =>
    rw [hcurrent] at hsees hopened
    refine .of_stay (.of_pure (.inr actions)) (run_bind_of_ok hsees _) (fun _ => rfl)
      fun _ rest => ?_
    have hnone : Action.opened? pass.current = none :=
      Option.not_isSome_iff_eq_none.mp (by simp [hopened])
    exact Parser.run_round_of_stop (by rw [hnone]; rfl)

theorem actuatorRest_follows (pass : Pass) : Follows actuatorRest Actuator.parser pass := by
  refine (accept_follows .ROOT pass).bind fun isRoot pass => ?_
  refine (predicates_follows [.ALL] pass).bind fun conditions pass => ?_
  refine (Follows.of_optional (plain_keyword .ON) (predicates_follows _)).bind
    fun otherConditions pass => ?_
  refine (Follows.of_keyword .DO).bind fun _ pass => ?_
  refine (action_follows pass).bind fun first pass => ?_
  have hloop := Follows.of_many actionRound_follows [first] pass
  simp only [foldl_concat, List.singleton_append] at hloop
  have hwhole := hloop.bind fun actions pass =>
    @Follows.of_pure _ pass (Actuator.mk isRoot conditions otherConditions actions)
  simpa only [bind_assoc, pure_bind] using hwhole

end Routine

end TagGraph
