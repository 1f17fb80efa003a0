import TagGraph.Proofs.WellFormed
import TagGraph.Proofs.Writing

/-!
Every well-formed model can be written down. Its declarations are spelled as tokens: subjects and
targets always by their context, clauses only where they list something. The spelling derives the
model, and so the text in which the tokens are written compiles to it.
-/

namespace TagGraph

/-- Items with a separator between any two. -/
def spellList {α : Type} (separator : Token) (item : α → List Token) : List α → List Token
  | [] => []
  | [value] => item value
  | value :: other :: others =>
    item value ++ separator :: spellList separator item (other :: others)

/-- The keyword and the items, or nothing where there are none. -/
def spellClause {α : Type} (word : Keyword) (item : α → List Token) : List α → List Token
  | [] => []
  | value :: others =>
    Token.ofKeyword word :: spellList (Token.ofOperator ',') item (value :: others)

def spellName (name : String) : List Token := [Token.ofName name]

/-- The opening token and what it opens, or nothing. -/
def spellOption {α : Type} (opener : Token) (item : α → List Token) : Option α → List Token
  | none => []
  | some value => opener :: item value

def spellFlag (word : Keyword) : Bool → List Token
  | true => [Token.ofKeyword word]
  | false => []

def Concept.spell (concept : Concept) : List Token :=
  Token.ofKeyword .CONCEPT :: Token.ofName concept.name ::
    (spellClause .TAG spellName concept.tags.toList ++
      spellClause .SLOT spellName concept.slots.toList)

def TagPredicate.spell (condition : TagPredicate) : List Token :=
  spellFlag .NOT condition.isNegated ++ match condition.slot with
    | none => condition.tags.map Token.ofName
    | some slot => Token.ofName slot :: Token.ofOperator '.' :: condition.tags.map Token.ofName

def Predicate.spell : Predicate → List Token
  | any => [Token.ofKeyword .ALL]
  | tagSet condition => condition.spell

def Predicate.spellAll (conditions : List Predicate) : List Token :=
  spellList (Token.ofKeyword .AND) spell conditions

def Context.spell : Context → Token
  | this => Token.ofKeyword .THIS
  | root => Token.ofKeyword .ROOT
  | other => Token.ofKeyword .OTHER

def Address.spell (address : Address) : List Token :=
  address.context.spell :: spellOption (Token.ofOperator '.') spellName address.slot

def Action.spell : Action → List Token
  | nothing => [Token.ofKeyword .NOTHING]
  | tags change =>
    Token.ofKeyword .IN :: change.subject.spell ++
      Token.ofKeyword (if change.isUnset then .UNSET else .SET) ::
        spellList (Token.ofOperator ',') spellName change.tags
  | bind link =>
    Token.ofKeyword .IN :: link.subject.spell ++
      Token.ofKeyword .BIND :: Token.ofName link.slot :: Token.ofKeyword .TO :: link.target.spell

def Actuator.spell (actuator : Actuator) : List Token :=
  Token.ofKeyword .WHERE :: (spellFlag .ROOT actuator.isRoot ++
    (Predicate.spellAll actuator.conditions ++
      (spellOption (Token.ofKeyword .ON) Predicate.spellAll actuator.otherConditions ++
        Token.ofKeyword .DO :: actuator.actions.flatMap Action.spell)))

def WorldObject.spell (object : WorldObject) : List Token :=
  Token.ofName object.concept :: spellOption (Token.ofKeyword .AS) spellName object.givenName

def SlotPath.spell (path : SlotPath) : List Token :=
  [Token.ofName path.object, Token.ofOperator '.', Token.ofName path.slot]

def Binding.spell (binding : Binding) : List Token :=
  binding.source.spell ++ Token.ofKeyword .TO :: binding.target.spell

def World.spell (world : World) : List Token :=
  Token.ofKeyword .WORLD :: Token.ofName world.name ::
    (spellOption (Token.ofKeyword .ROOT) spellName world.root ++
      (spellClause .OBJECT WorldObject.spell world.objects ++
        spellClause .BIND Binding.spell world.bindings))

def Model.spell (model : Model) : List Token :=
  model.concepts.flatMap Concept.spell ++
    (model.actuators.flatMap Actuator.spell ++ model.worlds.flatMap World.spell)

/-- A text for the model. -/
def Model.toSource (model : Model) : String := String.ofList (Token.write model.spell)

/-- Writable tokens that make up a phrase for the value. -/
structure Phrase.Spells {α : Type} (phrase : Phrase α) (tokens : List Token) (value : α) :
    Prop where
  reads : phrase tokens value
  writable : ∀ token ∈ tokens, token.Writable

theorem Token.forall_writable_cons {token : Token} {rest : List Token} (htoken : token.Writable)
    (hrest : ∀ other ∈ rest, other.Writable) : ∀ other ∈ token :: rest, other.Writable :=
  List.forall_mem_cons.mpr ⟨htoken, hrest⟩

theorem Token.forall_writable_append {front back : List Token}
    (hfront : ∀ token ∈ front, token.Writable) (hback : ∀ token ∈ back, token.Writable) :
    ∀ token ∈ front ++ back, token.Writable :=
  List.forall_mem_append.mpr ⟨hfront, hback⟩

section lists

variable {α : Type} {item : Phrase α} {spell : α → List Token}

theorem spells_list {separates : Token → Bool} {separator : Token}
    (hseparates : separates separator = true) (hseparator : separator.Writable)
    {values : List α} (hsome : values ≠ [])
    (hitem : ∀ value ∈ values, item.Spells (spell value) value) :
    Phrase.Spells (ListPhrase separates item) (spellList separator spell values) values := by
  induction values with
  | nil => exact absurd rfl hsome
  | cons value others ih =>
    obtain ⟨hfirst, hothers⟩ := List.forall_mem_cons.mp hitem
    cases others with
    | nil => exact ⟨.one hfirst.reads, hfirst.writable⟩
    | cons other others =>
      have hrest := ih (List.cons_ne_nil other others) hothers
      exact ⟨.cons hfirst.reads hseparates hrest.reads, Token.forall_writable_append hfirst.writable
        (Token.forall_writable_cons hseparator hrest.writable)⟩

theorem spells_commas {values : List α} (hsome : values ≠ [])
    (hitem : ∀ value ∈ values, item.Spells (spell value) value) :
    Phrase.Spells (ListPhrase (·.isOperator ',') item)
      (spellList (Token.ofOperator ',') spell values) values :=
  spells_list Token.isOperator_comma Token.writable_comma hsome hitem

theorem spells_option {opens : Token → Bool} {opener : Token} (hopens : opens opener = true)
    (hopener : opener.Writable) {value : Option α}
    (hitem : ∀ inner ∈ value, item.Spells (spell inner) inner) :
    Phrase.Spells (OptionPhrase opens item) (spellOption opener spell value) value := by
  cases value with
  | none => exact ⟨.none, by simp [spellOption]⟩
  | some inner =>
    have hinner := hitem inner rfl
    exact ⟨.some hopens hinner.reads, Token.forall_writable_cons hopener hinner.writable⟩

theorem spells_flatMap {values : List α}
    (hitem : ∀ value ∈ values, item.Spells (spell value) value) :
    Phrase.Spells (RepeatPhrase item) (values.flatMap spell) values := by
  induction values with
  | nil => exact ⟨.nil, by simp⟩
  | cons value others ih =>
    obtain ⟨hfirst, hothers⟩ := List.forall_mem_cons.mp hitem
    rw [List.flatMap_cons]
    exact ⟨.cons hfirst.reads (ih hothers).reads,
      Token.forall_writable_append hfirst.writable (ih hothers).writable⟩

/-- A clause that lists nothing is left out, and one that lists something is there. -/
theorem spells_clause {β : Type} {clause : Phrase β} {word : Keyword} {make : List α → β}
    (hclause : ∀ {key rest values}, key.isKeyword word = true →
      ListPhrase (·.isOperator ',') item rest values → clause (key :: rest) (make values))
    {values : List α} (hitem : ∀ value ∈ values, item.Spells (spell value) value) :
    Phrase.Spells (RepeatPhrase clause) (spellClause word spell values)
      (if values.isEmpty then [] else [make values]) := by
  cases values with
  | nil => exact ⟨.nil, by simp [spellClause]⟩
  | cons value others =>
    have hlist := spells_commas (List.cons_ne_nil value others) hitem
    exact ⟨.one (hclause (Token.isKeyword_ofKeyword word) hlist.reads),
      Token.forall_writable_cons (Token.writable_ofKeyword word) hlist.writable⟩

theorem Phrase.Spells.append {front back : List Token} {left right : List α}
    (hleft : Phrase.Spells (RepeatPhrase item) front left)
    (hright : Phrase.Spells (RepeatPhrase item) back right) :
    Phrase.Spells (RepeatPhrase item) (front ++ back) (left ++ right) :=
  ⟨hleft.reads.append hright.reads, Token.forall_writable_append hleft.writable hright.writable⟩

theorem RepeatPhrase.map {β : Type} {other : Phrase β} {f : α → β} {tokens : List Token}
    {values : List α} (h : RepeatPhrase item tokens values)
    (hitem : ∀ {tokens value}, item tokens value → other tokens (f value)) :
    RepeatPhrase other tokens (values.map f) := by
  induction h with
  | nil => exact .nil
  | cons hfirst _ ih => exact .cons (hitem hfirst) ih

theorem Phrase.Spells.map {β : Type} {other : Phrase β} {f : α → β} {tokens : List Token}
    {values : List α} (h : Phrase.Spells (RepeatPhrase item) tokens values)
    (hitem : ∀ {tokens value}, item tokens value → other tokens (f value)) :
    Phrase.Spells (RepeatPhrase other) tokens (values.map f) :=
  ⟨h.reads.map hitem, h.writable⟩

end lists

theorem spells_name {name : String} (h : Identifier.IsName name) :
    NamePhrase.Spells (spellName name) name := by
  refine ⟨.intro rfl, ?_⟩
  simpa [spellName] using Token.writable_ofName h

theorem spells_flag (word : Keyword) (flag : Bool) :
    Phrase.Spells (FlagPhrase word) (spellFlag word flag) flag := by
  cases flag with
  | false => exact ⟨.absent, by simp [spellFlag]⟩
  | true =>
    refine ⟨.present (Token.isKeyword_ofKeyword word), ?_⟩
    simpa [spellFlag] using Token.writable_ofKeyword word

theorem spells_slot {slot : Option String} (h : ∀ name ∈ slot, Identifier.IsName name) :
    SlotPhrase.Spells (spellOption (Token.ofOperator '.') spellName slot) slot :=
  spells_option Token.isOperator_dot Token.writable_dot fun name hmem => spells_name (h name hmem)

/-- Whichever of the two clauses is left out, a label is in the set if it is listed. -/
theorem mem_iff_of_clause {clause : Type} {make : List String → clause} {labels : LabelSet}
    {before after : List clause}
    (hinjective : ∀ {left right}, make left = make right → left = right)
    (hbefore : ∀ names, make names ∉ before) (hafter : ∀ names, make names ∉ after)
    (label : String) : label ∈ labels ↔ ∃ names,
      make names ∈ before ++ (if labels.toList.isEmpty then [] else [make labels.toList]) ++ after ∧
        label ∈ names := by
  constructor
  · intro hmem
    have hsome : labels.toList.isEmpty = false := by
      rw [List.isEmpty_eq_false_iff]
      exact List.ne_nil_of_mem hmem
    exact ⟨labels.toList, by simp [hsome], hmem⟩
  · intro h
    obtain ⟨names, hclause, hmem⟩ := h
    rw [List.mem_append, List.mem_append] at hclause
    rcases hclause with (hclause | hclause) | hclause
    · exact absurd hclause (hbefore names)
    · split at hclause
      · cases hclause
      · obtain rfl := hinjective (List.mem_singleton.mp hclause)
        exact hmem
    · exact absurd hclause (hafter names)

theorem Concept.WellFormed.spells {concept : Concept} (h : concept.WellFormed) :
    ConceptPhrase.Spells concept.spell concept := by
  have htags : Phrase.Spells (RepeatPhrase ConceptClausePhrase)
      (spellClause .TAG spellName concept.tags.toList)
      (if concept.tags.toList.isEmpty then [] else [.tags concept.tags.toList]) :=
    spells_clause .tags fun tag hmem => spells_name (h.tags tag hmem)
  have hslots : Phrase.Spells (RepeatPhrase ConceptClausePhrase)
      (spellClause .SLOT spellName concept.slots.toList)
      (if concept.slots.toList.isEmpty then [] else [.slots concept.slots.toList]) :=
    spells_clause .slots fun slot hmem => spells_name (h.slots slot hmem)
  have hclauses := htags.append hslots
  refine ⟨?_, ?_⟩
  · refine .intro (Token.isKeyword_ofKeyword .CONCEPT) rfl hclauses.reads ?_ ?_
    · have hmem := @mem_iff_of_clause _ Clause.tags concept.tags []
        (if concept.slots.toList.isEmpty then [] else [.slots concept.slots.toList])
        Clause.tags.inj (by simp) (by intro names; split <;> simp)
      exact hmem
    · have hmem := @mem_iff_of_clause _ Clause.slots concept.slots
        (if concept.tags.toList.isEmpty then [] else [.tags concept.tags.toList]) []
        Clause.slots.inj (by intro names; split <;> simp) (by simp)
      simpa using hmem
  · exact Token.forall_writable_cons (Token.writable_ofKeyword .CONCEPT)
      (Token.forall_writable_cons (Token.writable_ofName h.name) hclauses.writable)

theorem TagPredicate.WellFormed.spells {condition : TagPredicate} (h : condition.WellFormed) :
    TagPredicatePhrase.Spells condition.spell condition := by
  obtain ⟨tags, isNegated, slot⟩ := condition
  obtain ⟨⟨tag, rfl, htag⟩, hslot⟩ := h
  have hnot := spells_flag .NOT isNegated
  cases slot with
  | none =>
    refine ⟨.tag hnot.reads rfl, Token.forall_writable_append hnot.writable ?_⟩
    simpa using Token.writable_ofName htag
  | some slot =>
    refine ⟨.slot hnot.reads rfl Token.isOperator_dot rfl,
      Token.forall_writable_append hnot.writable ?_⟩
    refine Token.forall_writable_cons (Token.writable_ofName (hslot slot rfl)) ?_
    refine Token.forall_writable_cons Token.writable_dot ?_
    simpa using Token.writable_ofName htag

/-- Conditions on tags are spelled as their items are. -/
theorem Predicate.spellAll_map (items : List TagPredicate) :
    spellAll (items.map tagSet) = spellList (Token.ofKeyword .AND) TagPredicate.spell items := by
  unfold spellAll
  induction items with
  | nil => rfl
  | cons item others ih =>
    cases others with
    | nil => rfl
    | cons other others =>
      rw [List.map_cons, List.map_cons, spellList, ← List.map_cons, ih]
      rfl

theorem Predicate.exists_items {conditions : List Predicate}
    (h : ∀ condition ∈ conditions, ∃ item, condition = tagSet item ∧ item.WellFormed) :
    ∃ items : List TagPredicate, conditions = items.map tagSet ∧
      ∀ item ∈ items, item.WellFormed := by
  induction conditions with
  | nil => exact ⟨[], rfl, by simp⟩
  | cons condition others ih =>
    obtain ⟨⟨item, rfl, hitem⟩, hothers⟩ := List.forall_mem_cons.mp h
    obtain ⟨items, rfl, hitems⟩ := ih hothers
    exact ⟨item :: items, rfl, List.forall_mem_cons.mpr ⟨hitem, hitems⟩⟩

theorem Predicate.AllWellFormed.spells {conditions : List Predicate}
    (h : AllWellFormed conditions) {wildcards : List Keyword} (hall : .ALL ∈ wildcards) :
    (ConditionsPhrase wildcards).Spells (spellAll conditions) conditions := by
  rcases h with rfl | ⟨hsome, htags⟩
  · refine ⟨.wildcard hall (Token.isKeyword_ofKeyword .ALL), ?_⟩
    simpa [spellAll, spellList, spell] using Token.writable_ofKeyword .ALL
  · obtain ⟨items, rfl, hitems⟩ := exists_items htags
    have hnonempty : items ≠ [] := fun hnil => hsome (by rw [hnil]; rfl)
    have hlist : Phrase.Spells (ListPhrase (·.isKeyword .AND) TagPredicatePhrase)
        (spellList (Token.ofKeyword .AND) TagPredicate.spell items) items :=
      spells_list (Token.isKeyword_ofKeyword .AND) (Token.writable_ofKeyword .AND) hnonempty
        fun item hmem => (hitems item hmem).spells
    rw [spellAll_map]
    exact ⟨.joined hlist.reads, hlist.writable⟩

theorem Context.contextWord_spell (context : Context) : ContextWord context.spell context := by
  cases context with
  | this => exact .this (Token.isKeyword_ofKeyword .THIS)
  | root => exact .root (Token.isKeyword_ofKeyword .ROOT)
  | other => exact .other (Token.isKeyword_ofKeyword .OTHER)

theorem Context.writable_spell (context : Context) : context.spell.Writable := by
  cases context <;> exact Token.writable_ofKeyword _

theorem Address.WellFormed.spells {address : Address} (h : address.WellFormed)
    (implied : Context) : (AddressPhrase implied).Spells address.spell address := by
  have hslot := spells_slot h
  exact ⟨.context address.context.contextWord_spell hslot.reads,
    Token.forall_writable_cons address.context.writable_spell hslot.writable⟩

/-- A change that is spelled after its subject. -/
theorem spells_change {subject : Address} (hsubject : subject.WellFormed) {tokens : List Token}
    {action : Action} (h : (ChangePhrase subject).Spells tokens action) :
    ActionPhrase.Spells (Token.ofKeyword .IN :: subject.spell ++ tokens) action := by
  have haddress := hsubject.spells .this
  refine ⟨.change (.address (Token.isKeyword_ofKeyword .IN) haddress.reads) h.reads, ?_⟩
  exact Token.forall_writable_append
    (Token.forall_writable_cons (Token.writable_ofKeyword .IN) haddress.writable) h.writable

theorem Action.WellFormed.spells {action : Action} (h : action.WellFormed) :
    ActionPhrase.Spells action.spell action := by
  cases h with
  | nothing =>
    refine ⟨.nothing (Token.isKeyword_ofKeyword .NOTHING), ?_⟩
    simpa [spell] using Token.writable_ofKeyword .NOTHING
  | @tags change hsome htags hsubject =>
    obtain ⟨names, isUnset, subject⟩ := change
    have hnames := spells_commas hsome fun name hmem => spells_name (htags name hmem)
    apply spells_change hsubject
    cases isUnset with
    | false => exact ⟨.set (Token.isKeyword_ofKeyword .SET) hnames.reads,
        Token.forall_writable_cons (Token.writable_ofKeyword .SET) hnames.writable⟩
    | true => exact ⟨.unset (Token.isKeyword_ofKeyword .UNSET) hnames.reads,
        Token.forall_writable_cons (Token.writable_ofKeyword .UNSET) hnames.writable⟩
  | @bind link hslot htarget hsubject =>
    obtain ⟨slot, target, subject⟩ := link
    have haddress := htarget.spells subject.context
    apply spells_change hsubject
    refine ⟨.bind (Token.isKeyword_ofKeyword .BIND) rfl (Token.isKeyword_ofKeyword .TO)
      haddress.reads, ?_⟩
    exact Token.forall_writable_cons (Token.writable_ofKeyword .BIND)
      (Token.forall_writable_cons (Token.writable_ofName hslot)
        (Token.forall_writable_cons (Token.writable_ofKeyword .TO) haddress.writable))

theorem Actuator.WellFormed.spells {actuator : Actuator} (h : actuator.WellFormed) :
    ActuatorPhrase.Spells actuator.spell actuator := by
  have hroot := spells_flag .ROOT actuator.isRoot
  have hconditions : (ConditionsPhrase [.ALL]).Spells _ _ := h.conditions.spells (by simp)
  have hon : Phrase.Spells (OptionPhrase (·.isKeyword .ON) (ConditionsPhrase [.ANY, .ALL])) _ _ :=
    spells_option (Token.isKeyword_ofKeyword .ON) (Token.writable_ofKeyword .ON)
      fun conditions hmem => (h.otherConditions conditions hmem).spells (by simp)
  have hactions := spells_flatMap fun action hmem => (h.actions action hmem).spells
  refine ⟨.intro (Token.isKeyword_ofKeyword .WHERE) hroot.reads hconditions.reads hon.reads
    (Token.isKeyword_ofKeyword .DO) hactions.reads h.someAction, ?_⟩
  refine Token.forall_writable_cons (Token.writable_ofKeyword .WHERE) ?_
  refine Token.forall_writable_append hroot.writable ?_
  refine Token.forall_writable_append hconditions.writable ?_
  refine Token.forall_writable_append hon.writable ?_
  exact Token.forall_writable_cons (Token.writable_ofKeyword .DO) hactions.writable

theorem WorldObject.WellFormed.spells {object : WorldObject} (h : object.WellFormed) :
    WorldObjectPhrase.Spells object.spell object := by
  have hname : Phrase.Spells (OptionPhrase (·.isKeyword .AS) NamePhrase) _ _ :=
    spells_option (Token.isKeyword_ofKeyword .AS) (Token.writable_ofKeyword .AS)
      fun name hmem => spells_name (h.givenName name hmem)
  exact ⟨.intro rfl hname.reads,
    Token.forall_writable_cons (Token.writable_ofName h.concept) hname.writable⟩

theorem SlotPath.WellFormed.spells {path : SlotPath} (h : path.WellFormed) :
    SlotPathPhrase.Spells path.spell path := by
  refine ⟨.intro rfl Token.isOperator_dot rfl, ?_⟩
  refine Token.forall_writable_cons (Token.writable_ofName h.object) ?_
  refine Token.forall_writable_cons Token.writable_dot ?_
  simpa using Token.writable_ofName h.slot

theorem Binding.WellFormed.spells {binding : Binding} (h : binding.WellFormed) :
    BindingPhrase.Spells binding.spell binding := by
  have hsource := h.source.spells
  have htarget := h.target.spells
  exact ⟨.intro hsource.reads (Token.isKeyword_ofKeyword .TO) htarget.reads,
    Token.forall_writable_append hsource.writable
      (Token.forall_writable_cons (Token.writable_ofKeyword .TO) htarget.writable)⟩

namespace World

/-- The clauses that a world is spelled with: none for what it does not have. -/
def clauses (world : World) : List Clause :=
  world.root.toList.map .root ++
    ((if world.objects.isEmpty then [] else [.objects world.objects]) ++
      (if world.bindings.isEmpty then [] else [.bindings world.bindings]))

theorem declaredBy_clauses (world : World) : world.DeclaredBy world.clauses := by
  obtain ⟨name, root, objects, bindings⟩ := world
  constructor
  · cases root <;> cases objects <;> cases bindings <;> simp [clauses, Clause.keyword]
  · intro other
    cases root <;> cases objects <;> cases bindings <;> simp [clauses, eq_comm]
  · cases root <;> cases objects <;> cases bindings <;> simp [clauses]
  · cases root <;> cases objects <;> cases bindings <;> simp [clauses]

theorem spells_rootClause {root : Option String} (h : ∀ name ∈ root, Identifier.IsName name) :
    Phrase.Spells (RepeatPhrase WorldClausePhrase)
      (spellOption (Token.ofKeyword .ROOT) spellName root) (root.toList.map .root) := by
  cases root with
  | none => exact ⟨.nil, by simp [spellOption]⟩
  | some name =>
    have hname := spells_name (h name rfl)
    have hclause : WorldClausePhrase [Token.ofKeyword .ROOT, Token.ofName name] (.root name) :=
      .root (Token.isKeyword_ofKeyword .ROOT) rfl
    exact ⟨.cons hclause .nil,
      Token.forall_writable_cons (Token.writable_ofKeyword .ROOT) hname.writable⟩

theorem WellFormed.spells {world : World} (h : world.WellFormed) :
    WorldPhrase.Spells world.spell world := by
  have hobjects : Phrase.Spells (RepeatPhrase WorldClausePhrase) _ _ :=
    spells_clause .objects fun object hmem => (h.objects object hmem).spells
  have hbindings : Phrase.Spells (RepeatPhrase WorldClausePhrase) _ _ :=
    spells_clause .bindings fun binding hmem => (h.bindings binding hmem).spells
  have hclauses := (spells_rootClause h.root).append (hobjects.append hbindings)
  refine ⟨.intro (Token.isKeyword_ofKeyword .WORLD) rfl hclauses.reads rfl
    world.declaredBy_clauses, ?_⟩
  exact Token.forall_writable_cons (Token.writable_ofKeyword .WORLD)
    (Token.forall_writable_cons (Token.writable_ofName h.name) hclauses.writable)

end World

namespace Model

/-- The declarations that a model is spelled with, sort by sort. -/
def declarations (model : Model) : List Declaration :=
  model.concepts.map .concept ++ (model.actuators.map .actuator ++ model.worlds.map .world)

theorem ofDeclarations_declarations (model : Model) :
    ofDeclarations model.declarations = model := by
  simp [ofDeclarations, declarations, List.filterMap_map, Function.comp_def, Declaration.concept?,
    Declaration.actuator?, Declaration.world?]

theorem WellFormed.spells {model : Model} (h : model.WellFormed) :
    Phrase.Spells (RepeatPhrase DeclarationPhrase) model.spell model.declarations := by
  have hconcepts := spells_flatMap fun concept hmem => (h.concepts concept hmem).spells
  have hactuators := spells_flatMap fun actuator hmem => (h.actuators actuator hmem).spells
  have hworlds := spells_flatMap fun world hmem => (h.worlds world hmem).spells
  exact (hconcepts.map .concept).append ((hactuators.map .actuator).append (hworlds.map .world))

/-- The text for a well-formed model compiles to it. -/
theorem WellFormed.compile_toSource {model : Model} (h : model.WellFormed) :
    compile model.toSource = .ok model := by
  have hmodel := compile_write h.spells.writable h.spells.reads
  rw [ofDeclarations_declarations] at hmodel
  exact hmodel

end Model

/-- The identifiers of a text are proper names. -/
theorem TokenStream.properNames_body (source : String) : ProperNames (ofSource source).body := by
  intro token hmem hname
  have hwritable := writable_of_mem_body hmem (by simp [hname]) (by simp [hname])
  cases hwritable with
  | keyword word hword => simp [Token.kind_of_isKeyword hword] at hname
  | operator _ hoperator => simp [(Token.isOperator_iff.mp hoperator).1] at hname
  | name _ hproper => exact hproper

/-- The models that some text compiles to are the well-formed ones. -/
theorem exists_compile_eq_ok_iff_wellFormed (model : Model) :
    (∃ source, compile source = .ok model) ↔ model.WellFormed := by
  constructor
  · intro h
    obtain ⟨source, hcompile⟩ := h
    obtain ⟨-, declarations, hrun, hmodel⟩ := compile_eq_ok_iff_run.mp hcompile
    have hread := Program.parser_recognizes.sound (by rw [List.append_nil]; exact hrun)
    have hphrase := modelPhrase_iff.mpr ⟨declarations, hread, hmodel⟩
    exact hphrase.wellFormed (TokenStream.properNames_body source)
  · intro h
    exact ⟨model.toSource, h.compile_toSource⟩

end TagGraph
