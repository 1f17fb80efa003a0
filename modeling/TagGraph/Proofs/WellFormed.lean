import TagGraph.Proofs.Grammar
import TagGraph.Proofs.WritableTokens

/-!
Well-formed models: those whose names can be written and whose lists are as long as the grammar has
them. Whatever a phrase derives from tokens with proper names is well formed.
-/

namespace TagGraph

open Identifier

structure Concept.WellFormed (concept : Concept) : Prop where
  name : IsName concept.name
  tags : ∀ tag ∈ concept.tags, IsName tag
  slots : ∀ slot ∈ concept.slots, IsName slot

structure TagPredicate.WellFormed (condition : TagPredicate) : Prop where
  tag : ∃ tag, condition.tags = [tag] ∧ IsName tag
  slot : ∀ slot ∈ condition.slot, IsName slot

/-- A wildcard by itself, or conditions on tags. -/
def Predicate.AllWellFormed (conditions : List Predicate) : Prop :=
  conditions = [any] ∨ conditions ≠ [] ∧
    ∀ condition ∈ conditions, ∃ item, condition = tagSet item ∧ item.WellFormed

def Address.WellFormed (address : Address) : Prop := ∀ slot ∈ address.slot, IsName slot

inductive Action.WellFormed : Action → Prop
  | nothing : WellFormed nothing
  | tags {change : TagsAction} (hsome : change.tags ≠ []) (htags : ∀ tag ∈ change.tags, IsName tag)
      (hsubject : change.subject.WellFormed) : WellFormed (tags change)
  | bind {link : BindAction} (hslot : IsName link.slot) (htarget : link.target.WellFormed)
      (hsubject : link.subject.WellFormed) : WellFormed (bind link)

structure Actuator.WellFormed (actuator : Actuator) : Prop where
  conditions : Predicate.AllWellFormed actuator.conditions
  otherConditions : ∀ conditions ∈ actuator.otherConditions, Predicate.AllWellFormed conditions
  someAction : actuator.actions ≠ []
  actions : ∀ action ∈ actuator.actions, action.WellFormed

structure WorldObject.WellFormed (object : WorldObject) : Prop where
  concept : IsName object.concept
  givenName : ∀ name ∈ object.givenName, IsName name

structure SlotPath.WellFormed (path : SlotPath) : Prop where
  object : IsName path.object
  slot : IsName path.slot

structure Binding.WellFormed (binding : Binding) : Prop where
  source : binding.source.WellFormed
  target : binding.target.WellFormed

structure World.WellFormed (world : World) : Prop where
  name : IsName world.name
  root : ∀ name ∈ world.root, IsName name
  objects : ∀ object ∈ world.objects, object.WellFormed
  bindings : ∀ binding ∈ world.bindings, binding.WellFormed

structure Model.WellFormed (model : Model) : Prop where
  concepts : ∀ concept ∈ model.concepts, concept.WellFormed
  actuators : ∀ actuator ∈ model.actuators, actuator.WellFormed
  worlds : ∀ world ∈ model.worlds, world.WellFormed

/-- The identifiers among the tokens are names. -/
def ProperNames (tokens : List Token) : Prop :=
  ∀ token ∈ tokens, token.kind = .identifier → IsName token.text

namespace ProperNames

theorem head {token : Token} {rest : List Token} (h : ProperNames (token :: rest))
    (hname : token.kind = .identifier) : IsName token.text :=
  h token List.mem_cons_self hname

theorem tail {token : Token} {rest : List Token} (h : ProperNames (token :: rest)) :
    ProperNames rest :=
  fun other hmem => h other (List.mem_cons_of_mem token hmem)

theorem left {front back : List Token} (h : ProperNames (front ++ back)) : ProperNames front :=
  fun token hmem => h token (List.mem_append_left back hmem)

theorem right {front back : List Token} (h : ProperNames (front ++ back)) : ProperNames back :=
  fun token hmem => h token (List.mem_append_right front hmem)

end ProperNames

theorem NamePhrase.isName {tokens : List Token} {name : String} (h : NamePhrase tokens name)
    (hproper : ProperNames tokens) : IsName name := by
  cases h with
  | intro hname => exact hproper.head hname

section lists

variable {α : Type} {item : Phrase α} {holds : α → Prop}

theorem RepeatPhrase.forall_mem {tokens : List Token} {values : List α}
    (h : RepeatPhrase item tokens values) (hproper : ProperNames tokens)
    (hitem : ∀ {tokens value}, item tokens value → ProperNames tokens → holds value) :
    ∀ value ∈ values, holds value := by
  induction h with
  | nil => simp
  | cons hfirst _ ih =>
    exact List.forall_mem_cons.mpr ⟨hitem hfirst hproper.left, ih hproper.right⟩

theorem ListPhrase.forall_mem {separates : Token → Bool} {tokens : List Token} {values : List α}
    (h : ListPhrase separates item tokens values) (hproper : ProperNames tokens)
    (hitem : ∀ {tokens value}, item tokens value → ProperNames tokens → holds value) :
    ∀ value ∈ values, holds value := by
  induction h with
  | one hfirst => exact List.forall_mem_singleton.mpr (hitem hfirst hproper)
  | cons hfirst _ _ ih =>
    exact List.forall_mem_cons.mpr ⟨hitem hfirst hproper.left, ih hproper.right.tail⟩

theorem ListPhrase.ne_nil {separates : Token → Bool} {tokens : List Token} {values : List α}
    (h : ListPhrase separates item tokens values) : values ≠ [] := by
  cases h with
  | one _ => exact List.cons_ne_nil _ _
  | cons _ _ _ => exact List.cons_ne_nil _ _

theorem OptionPhrase.forall_mem {opens : Token → Bool} {tokens : List Token} {value : Option α}
    (h : OptionPhrase opens item tokens value) (hproper : ProperNames tokens)
    (hitem : ∀ {tokens value}, item tokens value → ProperNames tokens → holds value) :
    ∀ inner ∈ value, holds inner := by
  cases h with
  | none => simp
  | some _ hfirst => simpa using hitem hfirst hproper.tail

end lists

theorem ConceptPhrase.wellFormed {tokens : List Token} {concept : Concept}
    (h : ConceptPhrase tokens concept) (hproper : ProperNames tokens) : concept.WellFormed := by
  cases h with
  | @intro key name rest clauses tags slots _ hname hclauses htags hslots =>
    have hall : ∀ clause ∈ clauses, ∀ names, clause = .tags names ∨ clause = .slots names →
        ∀ label ∈ names, IsName label := by
      refine hclauses.forall_mem hproper.tail.tail ?_
      intro tokens clause hclause hproper names hnames
      cases hclause with
      | tags _ hlist =>
        rcases hnames with heq | heq
        · cases heq
          exact hlist.forall_mem hproper.tail NamePhrase.isName
        · cases heq
      | slots _ hlist =>
        rcases hnames with heq | heq
        · cases heq
        · cases heq
          exact hlist.forall_mem hproper.tail NamePhrase.isName
    refine ⟨hproper.tail.head hname, ?_, ?_⟩
    · intro tag htag
      obtain ⟨names, hclause, hmem⟩ := (htags tag).mp htag
      exact hall _ hclause names (Or.inl rfl) tag hmem
    · intro slot hslot
      obtain ⟨names, hclause, hmem⟩ := (hslots slot).mp hslot
      exact hall _ hclause names (Or.inr rfl) slot hmem

theorem TagPredicatePhrase.wellFormed {tokens : List Token} {condition : TagPredicate}
    (h : TagPredicatePhrase tokens condition) (hproper : ProperNames tokens) :
    condition.WellFormed := by
  cases h with
  | tag _ htag => exact ⟨⟨_, rfl, hproper.right.head htag⟩, by simp⟩
  | slot _ hslot _ htag =>
    refine ⟨⟨_, rfl, hproper.right.tail.tail.head htag⟩, ?_⟩
    simpa using hproper.right.head hslot

theorem ConditionsPhrase.wellFormed {wildcards : List Keyword} {tokens : List Token}
    {conditions : List Predicate} (h : ConditionsPhrase wildcards tokens conditions)
    (hproper : ProperNames tokens) : Predicate.AllWellFormed conditions := by
  cases h with
  | wildcard _ _ => exact Or.inl rfl
  | joined hitems =>
    refine Or.inr ⟨by simpa using hitems.ne_nil, ?_⟩
    intro condition hmem
    obtain ⟨item, hitem, rfl⟩ := List.mem_map.mp hmem
    exact ⟨item, rfl, hitems.forall_mem hproper TagPredicatePhrase.wellFormed item hitem⟩

theorem AddressPhrase.wellFormed {implied : Context} {tokens : List Token} {address : Address}
    (h : AddressPhrase implied tokens address) (hproper : ProperNames tokens) :
    address.WellFormed := by
  cases h with
  | context _ hslot => exact hslot.forall_mem hproper.tail NamePhrase.isName
  | bare hname => simpa [Address.WellFormed] using hproper.head hname

theorem SubjectPhrase.wellFormed {tokens : List Token} {subject : Address}
    (h : SubjectPhrase tokens subject) (hproper : ProperNames tokens) : subject.WellFormed := by
  cases h with
  | absent => simp [Address.WellFormed]
  | bare _ => simp [Address.WellFormed]
  | address _ haddress => exact haddress.wellFormed hproper.tail

theorem ChangePhrase.wellFormed {subject : Address} {tokens : List Token} {action : Action}
    (h : ChangePhrase subject tokens action) (hproper : ProperNames tokens)
    (hsubject : subject.WellFormed) : action.WellFormed := by
  cases h with
  | set _ hnames =>
    exact .tags hnames.ne_nil (hnames.forall_mem hproper.tail NamePhrase.isName) hsubject
  | unset _ hnames =>
    exact .tags hnames.ne_nil (hnames.forall_mem hproper.tail NamePhrase.isName) hsubject
  | bind _ hslot _ htarget =>
    exact .bind (hproper.tail.head hslot) (htarget.wellFormed hproper.tail.tail.tail) hsubject

theorem ActionPhrase.wellFormed {tokens : List Token} {action : Action}
    (h : ActionPhrase tokens action) (hproper : ProperNames tokens) : action.WellFormed := by
  cases h with
  | nothing _ => exact .nothing
  | change hsubject hchange =>
    exact hchange.wellFormed hproper.right (hsubject.wellFormed hproper.left)

theorem ActuatorPhrase.wellFormed {tokens : List Token} {actuator : Actuator}
    (h : ActuatorPhrase tokens actuator) (hproper : ProperNames tokens) : actuator.WellFormed := by
  cases h with
  | intro _ _ hconditions hon _ hactions hsome =>
    have hrest := hproper.tail.right
    exact ⟨hconditions.wellFormed hrest.left,
      hon.forall_mem hrest.right.left ConditionsPhrase.wellFormed, hsome,
      hactions.forall_mem hrest.right.right.tail ActionPhrase.wellFormed⟩

theorem WorldObjectPhrase.wellFormed {tokens : List Token} {object : WorldObject}
    (h : WorldObjectPhrase tokens object) (hproper : ProperNames tokens) : object.WellFormed := by
  cases h with
  | intro hconcept hname =>
    exact ⟨hproper.head hconcept, hname.forall_mem hproper.tail NamePhrase.isName⟩

theorem SlotPathPhrase.wellFormed {tokens : List Token} {path : SlotPath}
    (h : SlotPathPhrase tokens path) (hproper : ProperNames tokens) : path.WellFormed := by
  cases h with
  | intro hobject _ hslot => exact ⟨hproper.head hobject, hproper.tail.tail.head hslot⟩

theorem BindingPhrase.wellFormed {tokens : List Token} {binding : Binding}
    (h : BindingPhrase tokens binding) (hproper : ProperNames tokens) : binding.WellFormed := by
  cases h with
  | intro hsource _ htarget =>
    exact ⟨hsource.wellFormed hproper.left, htarget.wellFormed hproper.right.tail⟩

/-- What a clause says of its world is well formed. -/
inductive World.Clause.WellFormed : World.Clause → Prop
  | root {name : String} (hname : IsName name) : WellFormed (root name)
  | objects {items : List WorldObject} (hitems : ∀ item ∈ items, item.WellFormed) :
      WellFormed (objects items)
  | bindings {items : List Binding} (hitems : ∀ item ∈ items, item.WellFormed) :
      WellFormed (bindings items)

theorem WorldClausePhrase.wellFormed {tokens : List Token} {clause : World.Clause}
    (h : WorldClausePhrase tokens clause) (hproper : ProperNames tokens) : clause.WellFormed := by
  cases h with
  | root _ hname => exact .root (hproper.tail.head hname)
  | objects _ hitems =>
    exact .objects (hitems.forall_mem hproper.tail WorldObjectPhrase.wellFormed)
  | bindings _ hitems =>
    exact .bindings (hitems.forall_mem hproper.tail BindingPhrase.wellFormed)

theorem WorldPhrase.wellFormed {tokens : List Token} {world : World}
    (h : WorldPhrase tokens world) (hproper : ProperNames tokens) : world.WellFormed := by
  cases h with
  | @intro key name rest clauses _ _ hname hclauses htext hworld =>
    have hall := hclauses.forall_mem hproper.tail.tail WorldClausePhrase.wellFormed
    refine ⟨htext ▸ hproper.tail.head hname, ?_, ?_, ?_⟩
    · intro root hroot
      cases hall _ ((hworld.root root).mp hroot) with
      | root hname => exact hname
    · rcases hworld.objects with hmem | ⟨hnil, -⟩
      · cases hall _ hmem with
        | objects hitems => exact hitems
      · simp [hnil]
    · rcases hworld.bindings with hmem | ⟨hnil, -⟩
      · cases hall _ hmem with
        | bindings hitems => exact hitems
      · simp [hnil]

theorem ModelPhrase.wellFormed {tokens : List Token} {model : Model}
    (h : ModelPhrase tokens model) (hproper : ProperNames tokens) : model.WellFormed := by
  induction h with
  | nil => exact ⟨by simp, by simp, by simp⟩
  | concept hconcept _ ih =>
    obtain ⟨hconcepts, hactuators, hworlds⟩ := ih hproper.right
    have hfirst := hconcept.wellFormed hproper.left
    exact ⟨List.forall_mem_cons.mpr ⟨hfirst, hconcepts⟩, hactuators, hworlds⟩
  | actuator hactuator _ ih =>
    obtain ⟨hconcepts, hactuators, hworlds⟩ := ih hproper.right
    have hfirst := hactuator.wellFormed hproper.left
    exact ⟨hconcepts, List.forall_mem_cons.mpr ⟨hfirst, hactuators⟩, hworlds⟩
  | world hworld _ ih =>
    obtain ⟨hconcepts, hactuators, hworlds⟩ := ih hproper.right
    have hfirst := hworld.wellFormed hproper.left
    exact ⟨hconcepts, hactuators, List.forall_mem_cons.mpr ⟨hfirst, hworlds⟩⟩

end TagGraph
