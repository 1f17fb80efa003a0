import TagGraph.OnDemandGrammar
import TagGraph.Proofs.Following

/-!
Worlds on demand. The clauses that the draft of a world has are those whose keywords have been seen,
so a routine with a draft follows the parser, which keeps the keywords.
-/

namespace TagGraph

open TagGraph.Parser (Step)

namespace Routine

theorem worldObject_follows (pass : Pass) : Follows worldObject WorldObject.parser pass := by
  refine (Follows.of_name .concept).bind fun concept pass => ?_
  refine (Follows.of_optional (plain_keyword .AS) fun _ => .of_name .objectAlias).bind
    fun givenName pass => ?_
  exact .of_pure _

theorem slotPath_follows (pass : Pass) : Follows slotPath SlotPath.parser pass := by
  refine (Follows.of_name .objectAlias).bind fun object pass => ?_
  refine (Follows.of_operator '.').bind fun _ pass => ?_
  exact (Follows.of_name .slot).bind fun slot pass => .of_pure _

theorem binding_follows (pass : Pass) : Follows binding Binding.parser pass := by
  refine (slotPath_follows pass).bind fun source pass => ?_
  refine (Follows.of_keyword .TO).bind fun _ pass => ?_
  exact (slotPath_follows pass).bind fun target pass => .of_pure _

end Routine

namespace World.Draft

def add (draft : Draft) : Clause → Draft
  | .root name =>
    { draft with world := { draft.world with root := draft.world.root.or (some name) } }
  | .objects items =>
    { draft with
      world := { draft.world with objects := draft.world.objects ++ items }, hasObjects := true }
  | .bindings items =>
    { draft with
      world := { draft.world with bindings := draft.world.bindings ++ items }, hasBindings := true }

theorem foldl_add (draft : Draft) (clauses : List Clause) : (clauses.foldl add draft).world =
    ⟨draft.world.name, draft.world.root.or (clauses.findSome? Clause.rootName?),
      draft.world.objects ++ clauses.flatMap Clause.objectItems,
      draft.world.bindings ++ clauses.flatMap Clause.bindingItems⟩ := by
  induction clauses generalizing draft with
  | nil => simp
  | cons clause clauses ih =>
    rw [List.foldl_cons, ih]
    cases clause with
    | root name =>
      rw [List.findSome?_cons]
      cases hroot : draft.world.root <;>
        simp [add, hroot, Clause.rootName?, Clause.objectItems, Clause.bindingItems]
    | objects items =>
      simp [add, List.findSome?_cons, Clause.rootName?, Clause.objectItems, Clause.bindingItems]
    | bindings items =>
      simp [add, List.findSome?_cons, Clause.rootName?, Clause.objectItems, Clause.bindingItems]

/-- A clause that the draft has already is refused. -/
def step (draft : Draft) (token : Token) : Step Clause :=
  if token.isKeyword .ROOT then
    if draft.world.root.isSome then .reject (.repeatedClause .ROOT draft.world.name)
    else .take (Clause.root <$> Parser.name .rootObject)
  else if token.isKeyword .OBJECT then
    if draft.hasObjects then .reject (.repeatedClause .OBJECT draft.world.name)
    else .take (Clause.objects <$> Parser.commaSeparated WorldObject.parser)
  else if token.isKeyword .BIND then
    if draft.hasBindings then .reject (.repeatedClause .BIND draft.world.name)
    else .take (Clause.bindings <$> Parser.commaSeparated Binding.parser)
  else .stop

/-- The keywords that have been seen are those of the clauses that the draft has. -/
structure HasSeen (name : String) (seen : List Keyword) (draft : Draft) : Prop where
  name : draft.world.name = name
  root : seen.contains .ROOT = draft.world.root.isSome
  objects : seen.contains .OBJECT = draft.hasObjects
  bindings : seen.contains .BIND = draft.hasBindings

theorem step_eq {name : String} {seen : List Keyword} {draft : Draft}
    (h : HasSeen name seen draft) : Clause.step name seen = draft.step := by
  funext token
  rw [Clause.step, step, Clause.opened?, ← h.root, ← h.objects, ← h.bindings, h.name]
  cases token.isKeyword .ROOT with
  | true => rfl
  | false =>
    cases token.isKeyword .OBJECT with
    | true => rfl
    | false => cases token.isKeyword .BIND <;> rfl

theorem HasSeen.cons {name : String} {seen : List Keyword} {draft : Draft}
    (h : HasSeen name seen draft) (clause : Clause) :
    HasSeen name (clause.keyword :: seen) (draft.add clause) := by
  cases clause with
  | root root =>
    have hroot : (draft.world.root.or (some root)).isSome = true := by simp
    exact ⟨h.name, hroot.symm, h.objects, h.bindings⟩
  | objects items => exact ⟨h.name, h.root, rfl, h.bindings⟩
  | bindings items => exact ⟨h.name, h.root, h.objects, rfl⟩

theorem list_eq (name : String) : Clause.list name =
    Parser.repeated step add ⟨⟨name, none, [], []⟩, false, false⟩ :=
  @Parser.repeated_congr _ _ _ (Clause.step name) step _ add (HasSeen name) (fun _ _ => step_eq)
    (fun _ _ clause h => h.cons clause) _ _ ⟨rfl, rfl, rfl, rfl⟩

end World.Draft

namespace Routine

variable {α β σ : Type} {pass : Pass}

/-- A clause that has been seen is refused at its keyword, and any other is read. -/
theorem Follows.of_clause {described : Token → Bool} (hplain : Plain described) {seen : Bool}
    {fault : SyntaxFault} {taken left : Routine (σ ⊕ β)} {item : Parser α}
    {others : Token → Step α} {push : α → σ} {ending : Parser β}
    (htaken : seen = false → ∀ pass, Follows taken ((fun value => .inl (push value)) <$> item) pass)
    (hleft : Follows left (Parser.round others push ending) pass) :
    Follows (do
      if ← sees described then
        if seen then throw fault
        else
          advance
          taken
      else left)
      (Parser.round (fun token =>
        if described token then (if seen then .reject fault else .take item) else others token) push
        ending) pass := by
  cases seen with
  | true => exact .of_reject hplain hleft
  | false =>
    have hround := Follows.of_round hplain (htaken rfl) hleft
    rw [← sees_advance] at hround
    exact hround

theorem worldRound_follows (draft : World.Draft) (pass : Pass) :
    Follows (worldRound draft) (Parser.round draft.step draft.add (pure draft.world)) pass := by
  refine .of_clause (plain_keyword .ROOT) (fun hroot pass => ?_)
    (.of_clause (plain_keyword .OBJECT) (fun _ pass => ?_)
      (.of_clause (plain_keyword .BIND) (fun _ pass => ?_) (.of_stop (.of_pure _))))
  · have hnone : draft.world.root = none := by simpa using hroot
    simp only [map_eq_pure_bind, bind_assoc, pure_bind, World.Draft.add, hnone, Option.none_or]
    exact (Follows.of_name .rootObject).bind fun root pass => .of_pure _
  · have hloop := (Follows.of_listed worldObject_follows draft.world.objects pass).bind
      fun objects pass => @Follows.of_pure (World.Draft ⊕ World) pass (.inl
        { draft with world := { draft.world with objects := objects }, hasObjects := true })
    simpa only [map_eq_pure_bind, bind_assoc, pure_bind, World.Draft.add] using hloop
  · have hloop := (Follows.of_listed binding_follows draft.world.bindings pass).bind
      fun bindings pass => @Follows.of_pure (World.Draft ⊕ World) pass (.inl
        { draft with world := { draft.world with bindings := bindings }, hasBindings := true })
    simpa only [map_eq_pure_bind, bind_assoc, pure_bind, World.Draft.add] using hloop

theorem worldRest_follows (pass : Pass) : Follows worldRest World.parser pass := by
  refine (Follows.of_name .world).bind fun name pass => ?_
  have hloop := @Follows.of_repeated _ _ _ worldRound _ World.Draft.add
    (fun _ draft => pure draft.world) worldRound_follows
      ⟨⟨name, none, [], []⟩, false, false⟩ pass
  simp only [World.Draft.foldl_add] at hloop
  rw [World.Draft.list_eq]
  exact hloop

end Routine

end TagGraph
