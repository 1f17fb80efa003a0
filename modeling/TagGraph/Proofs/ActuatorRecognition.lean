import TagGraph.Proofs.ActionRecognition
import TagGraph.Proofs.ConditionRecognition

/-!
The reader of actuators recognizes actuator phrases. Every part shows by its first token where the
part before it ends: conditions begin with no `ROOT`, and neither `ON` nor `DO` goes on with them.
-/

namespace TagGraph

namespace Actuator

open TagGraph.Parser

/-- The tokens that go on with an actuator. -/
def Continues (token : Token) : Prop :=
  Action.Continues token ∨ (Action.opened? token).isSome = true

/-- At least one action. -/
def actionsParser : Parser (List Action) := do
  let first ← Parser.require .action Action.opened?
  let others ← Parser.many Action.opened?
  return first :: others

theorem actionsParser_recognizes : Recognizes actionsParser
    (fun tokens actions => RepeatPhrase ActionPhrase tokens actions ∧ actions ≠ []) Continues := by
  have hmany := Action.opened?_recognizes.many Action.opened?_of_continues
  have hall := (Action.opened?_recognizes.require .action).bind
    (fun first => hmany.map fun others => first :: others) ?_ ?_
  · refine Recognizes.congr hall ?_ fun _ => id
    intro tokens actions
    constructor
    · intro h
      obtain ⟨front, back, first, htokens, hfirst, others, hothers, hactions⟩ := h
      subst htokens hactions
      exact ⟨.cons hfirst hothers, List.cons_ne_nil first others⟩
    · intro h
      obtain ⟨hactions, hsome⟩ := h
      cases hactions with
      | nil => exact absurd rfl hsome
      | cons hfirst hothers => exact ⟨_, _, _, rfl, hfirst, _, hothers, rfl⟩
  · intro first token back actions h hcontinues
    obtain ⟨others, hothers, _⟩ := h
    obtain ⟨tokens, action, haction⟩ := hothers.head fun action => Action.not_actionPhrase_nil
    have hopens := Action.opened?_recognizes.opens haction
    simp [Action.opened?_of_continues hcontinues] at hopens
  · exact fun _ _ => Or.inl

theorem parser_eq : parser = do
    let isRoot ← Parser.accept .ROOT
    let conditions ← Predicate.conditions [.ALL]
    let otherConditions ← Parser.optional fun token =>
      if token.isKeyword .ON then some (Predicate.conditions [.ANY, .ALL]) else none
    Parser.keyword .DO
    let actions ← actionsParser
    return ⟨isRoot, conditions, otherConditions, actions⟩ := by
  simp [parser, actionsParser]

theorem partner_recognizes : Recognizes
    (Parser.optional fun token =>
      if token.isKeyword .ON then some (Predicate.conditions [.ANY, .ALL]) else none)
    (OptionPhrase (·.isKeyword .ON) (ConditionsPhrase [.ANY, .ALL]))
    (fun token => (token.isOperator '.' = true ∨ token.isKeyword .AND = true) ∨
      token.isKeyword .ON = true) := by
  have hword : Keyword.ANY ∈ [Keyword.ANY, .ALL] := by decide
  exact (Predicate.conditions_recognizes hword (by decide)).optional
    (Token.writable_ofKeyword .ON) (Token.isKeyword_ofKeyword .ON)

/-- What comes after the conditions: those on a partner, and the actions. -/
theorem tail_recognizes (isRoot : Bool) (conditions : List Predicate) : Recognizes
    (do
      let otherConditions ← Parser.optional fun token =>
        if token.isKeyword .ON then some (Predicate.conditions [.ANY, .ALL]) else none
      Parser.keyword .DO
      let actions ← actionsParser
      return ⟨isRoot, conditions, otherConditions, actions⟩)
    (SeqPhrase (OptionPhrase (·.isKeyword .ON) (ConditionsPhrase [.ANY, .ALL]))
      fun otherConditions => SeqPhrase
        (TokenPhrase (fun token => token.isKeyword .DO = true) fun _ => ())
        fun _ tokens actuator => ∃ actions,
          (RepeatPhrase ActionPhrase tokens actions ∧ actions ≠ []) ∧
            actuator = Actuator.mk isRoot conditions otherConditions actions) Continues := by
  refine partner_recognizes.bind (fun otherConditions => (recognizes_keyword .DO).bind
    (fun _ => actionsParser_recognizes.map (Actuator.mk isRoot conditions otherConditions))
    (fun _ => id) (fun _ _ => False.elim)) ?_ ?_
  · intro otherConditions token back actuator hback hcontinues
    have hdo := described_of_seqPhrase hback
    rcases hcontinues with (hdot | hand) | hon
    · simp [Token.isKeyword_of_isOperator hdot] at hdo
    · simp [Token.isKeyword_of_isKeyword hand] at hdo
    · simp [Token.isKeyword_of_isKeyword hon] at hdo
  · intro otherConditions actuator hnil
    exact absurd hnil not_seqPhrase_token_nil

theorem actuatorPhrase_iff {key : Token} (hkey : key.isKeyword .WHERE = true)
    {tokens : List Token} {actuator : Actuator} : ActuatorPhrase (key :: tokens) actuator ↔
      SeqPhrase (FlagPhrase .ROOT) (fun isRoot => SeqPhrase (ConditionsPhrase [.ALL])
        fun conditions => SeqPhrase
          (OptionPhrase (·.isKeyword .ON) (ConditionsPhrase [.ANY, .ALL]))
          fun otherConditions => SeqPhrase
            (TokenPhrase (fun token => token.isKeyword .DO = true) fun _ => ())
            fun _ tokens actuator => ∃ actions,
              (RepeatPhrase ActionPhrase tokens actions ∧ actions ≠ []) ∧
                actuator = Actuator.mk isRoot conditions otherConditions actions)
        tokens actuator := by
  constructor
  · intro hread
    cases hread with
    | intro _ hroot hconditions hon hdo hactions hsome =>
      exact ⟨_, _, _, rfl, hroot, _, _, _, rfl, hconditions, _, _, _, rfl, hon, [_], _, (), rfl,
        ⟨_, rfl, hdo, rfl⟩, _, ⟨hactions, hsome⟩, rfl⟩
  · intro h
    obtain ⟨root, _, isRoot, htokens, hroot, front, _, conditions, hafter, hconditions, on, _,
      otherConditions, hlater, hon, _, acts, _, hlast, ⟨doKey, hdo, hdoKey, _⟩, actions,
      ⟨hactions, hsome⟩, hactuator⟩ := h
    subst htokens hafter hlater hlast hdo hactuator
    exact .intro hkey hroot hconditions hon hdoKey hactions hsome

theorem parser_recognizes {key : Token} (hkey : key.isKeyword .WHERE = true) :
    Recognizes parser (fun tokens => ActuatorPhrase (key :: tokens)) Continues := by
  have hword : Keyword.ALL ∈ [Keyword.ALL] := by decide
  rw [parser_eq]
  refine Recognizes.congr ((recognizes_accept .ROOT).bind (fun isRoot =>
    (Predicate.conditions_recognizes hword (by decide)).bind
      (fun conditions => tail_recognizes isRoot conditions) ?_ ?_) ?_ ?_)
    (fun _ _ => (actuatorPhrase_iff hkey).symm) fun _ => id
  · intro conditions token back actuator hback hcontinues
    rcases hback.head with ⟨front, otherConditions, hon⟩ | ⟨otherConditions, _, hdo⟩
    · cases hon with
      | some hopens _ =>
        rcases hcontinues with hdot | hand
        · simp [Token.isKeyword_of_isOperator hdot] at hopens
        · simp [Token.isKeyword_of_isKeyword hand] at hopens
    · have hdoKey := described_of_seqPhrase hdo
      rcases hcontinues with hdot | hand
      · simp [Token.isKeyword_of_isOperator hdot] at hdoKey
      · simp [Token.isKeyword_of_isKeyword hand] at hdoKey
  · intro conditions actuator hnil
    obtain ⟨otherConditions, _, hdo⟩ := hnil.of_nil
    exact absurd hdo not_seqPhrase_token_nil
  · intro isRoot token back actuator hback hroot
    rcases hback.head with ⟨front, conditions, hconditions⟩ | ⟨conditions, hnil, _⟩
    · have hne : token.isKeyword .ROOT = false :=
        Predicate.isKeyword_of_conditionsPhrase (by decide) (by decide) hconditions
      simp [hne] at hroot
    · exact absurd hnil Predicate.not_conditionsPhrase_nil
  · intro isRoot actuator hnil
    obtain ⟨conditions, hconditions, _⟩ := hnil.of_nil
    exact absurd hconditions Predicate.not_conditionsPhrase_nil

theorem parser_local : Local parser :=
  (local_accept .ROOT).bind fun _ => (Predicate.conditions_local _).bind fun _ =>
    ((Predicate.conditions_local _).opened (.intro fun _ _ _ _ => rfl)).optional.bind fun _ =>
      (local_keyword .DO).bind fun _ => (Action.opened?_local.require _).bind fun _ =>
        Action.opened?_local.many.bind fun _ => local_pure _

end Actuator

end TagGraph
