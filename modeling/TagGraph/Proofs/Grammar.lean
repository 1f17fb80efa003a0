import TagGraph.ConceptGrammar
import TagGraph.WorldGrammar

/-!
The grammar of source texts, as relations between lists of tokens and the values that they stand
for. A phrase for a value is a complete list of tokens: nothing is left over and nothing is looked
at beyond it. The relations say nothing of how a phrase is found in a longer list.
-/

namespace TagGraph

abbrev Phrase (α : Type) := List Token → α → Prop

inductive NamePhrase : Phrase String
  | intro {token : Token} (hname : token.kind = .identifier) : NamePhrase [token] token.text

/-- Phrases one after the other, none or more. -/
inductive RepeatPhrase {α : Type} (item : Phrase α) : Phrase (List α)
  | nil : RepeatPhrase item [] []
  | cons {front back : List Token} {value : α} {others : List α} (hitem : item front value)
      (hothers : RepeatPhrase item back others) :
      RepeatPhrase item (front ++ back) (value :: others)

/-- At least one phrase, and a separator between any two. -/
inductive ListPhrase {α : Type} (separates : Token → Bool) (item : Phrase α) : Phrase (List α)
  | one {tokens : List Token} {value : α} (hitem : item tokens value) :
      ListPhrase separates item tokens [value]
  | cons {front back : List Token} {separator : Token} {value : α} {others : List α}
      (hitem : item front value) (hseparator : separates separator = true)
      (hothers : ListPhrase separates item back others) :
      ListPhrase separates item (front ++ separator :: back) (value :: others)

/-- A token that opens a phrase and that phrase, or nothing at all. -/
inductive OptionPhrase {α : Type} (opens : Token → Bool) (item : Phrase α) : Phrase (Option α)
  | none : OptionPhrase opens item [] none
  | some {token : Token} {tokens : List Token} {value : α} (hopens : opens token = true)
      (hitem : item tokens value) : OptionPhrase opens item (token :: tokens) (some value)

/-- A keyword that may be left out. -/
inductive FlagPhrase (word : Keyword) : Phrase Bool
  | absent : FlagPhrase word [] false
  | present {token : Token} (hword : token.isKeyword word = true) : FlagPhrase word [token] true

/-- Names with commas between them. -/
abbrev NamesPhrase : Phrase (List String) := ListPhrase (·.isOperator ',') NamePhrase

/-- A slot after a dot, or nothing. -/
abbrev SlotPhrase : Phrase (Option String) := OptionPhrase (·.isOperator '.') NamePhrase

inductive ConceptClausePhrase : Phrase Concept.Clause
  | tags {key : Token} {rest : List Token} {names : List String}
      (hkey : key.isKeyword .TAG = true) (hnames : NamesPhrase rest names) :
      ConceptClausePhrase (key :: rest) (.tags names)
  | slots {key : Token} {rest : List Token} {names : List String}
      (hkey : key.isKeyword .SLOT = true) (hnames : NamesPhrase rest names) :
      ConceptClausePhrase (key :: rest) (.slots names)

/-- The tags of a concept are all names that its `TAG` clauses list; likewise for its slots. -/
inductive ConceptPhrase : Phrase Concept
  | intro {key name : Token} {rest : List Token} {clauses : List Concept.Clause}
      {tags slots : LabelSet} (hkey : key.isKeyword .CONCEPT = true)
      (hname : name.kind = .identifier) (hclauses : RepeatPhrase ConceptClausePhrase rest clauses)
      (htags : ∀ label, label ∈ tags ↔ ∃ names, .tags names ∈ clauses ∧ label ∈ names)
      (hslots : ∀ label, label ∈ slots ↔ ∃ names, .slots names ∈ clauses ∧ label ∈ names) :
      ConceptPhrase (key :: name :: rest) ⟨name.text, tags, slots⟩

inductive TagPredicatePhrase : Phrase TagPredicate
  | tag {front : List Token} {isNegated : Bool} {tag : Token}
      (hnot : FlagPhrase .NOT front isNegated) (htag : tag.kind = .identifier) :
      TagPredicatePhrase (front ++ [tag]) ⟨[tag.text], isNegated, none⟩
  | slot {front : List Token} {isNegated : Bool} {slot dot tag : Token}
      (hnot : FlagPhrase .NOT front isNegated) (hslot : slot.kind = .identifier)
      (hdot : dot.isOperator '.' = true) (htag : tag.kind = .identifier) :
      TagPredicatePhrase (front ++ [slot, dot, tag]) ⟨[tag.text], isNegated, some slot.text⟩

/-- A wildcard stands alone; predicates are joined by `AND`. -/
inductive ConditionsPhrase (wildcards : List Keyword) : Phrase (List Predicate)
  | wildcard {word : Keyword} {token : Token} (hword : word ∈ wildcards)
      (htoken : token.isKeyword word = true) : ConditionsPhrase wildcards [token] [.any]
  | joined {tokens : List Token} {items : List TagPredicate}
      (hitems : ListPhrase (·.isKeyword .AND) TagPredicatePhrase tokens items) :
      ConditionsPhrase wildcards tokens (items.map .tagSet)

inductive ContextWord : Token → Context → Prop
  | this {token : Token} (h : token.isKeyword .THIS = true) : ContextWord token .this
  | root {token : Token} (h : token.isKeyword .ROOT = true) : ContextWord token .root
  | other {token : Token} (h : token.isKeyword .OTHER = true) : ContextWord token .other

/-- A bare name is a slot of the implied context. -/
inductive AddressPhrase (implied : Context) : Phrase Address
  | context {token : Token} {rest : List Token} {context : Context} {slot : Option String}
      (hcontext : ContextWord token context) (hslot : SlotPhrase rest slot) :
      AddressPhrase implied (token :: rest) ⟨context, slot⟩
  | bare {name : Token} (hname : name.kind = .identifier) :
      AddressPhrase implied [name] ⟨implied, some name.text⟩

/-- The object that an action is done to: this one, unless `IN` names another. -/
inductive SubjectPhrase : Phrase Address
  | absent : SubjectPhrase [] ⟨.this, none⟩
  | bare {key : Token} (hkey : key.isKeyword .IN = true) : SubjectPhrase [key] ⟨.this, none⟩
  | address {key : Token} {rest : List Token} {address : Address}
      (hkey : key.isKeyword .IN = true) (haddress : AddressPhrase .this rest address) :
      SubjectPhrase (key :: rest) address

/-- What is done to the subject. A bare name after `TO` is a slot of the subject's context. -/
inductive ChangePhrase (subject : Address) : Phrase Action
  | set {key : Token} {rest : List Token} {tags : List String} (hkey : key.isKeyword .SET = true)
      (hnames : NamesPhrase rest tags) :
      ChangePhrase subject (key :: rest) (.tags ⟨tags, false, subject⟩)
  | unset {key : Token} {rest : List Token} {tags : List String}
      (hkey : key.isKeyword .UNSET = true) (hnames : NamesPhrase rest tags) :
      ChangePhrase subject (key :: rest) (.tags ⟨tags, true, subject⟩)
  | bind {key slot toKey : Token} {rest : List Token} {target : Address}
      (hkey : key.isKeyword .BIND = true) (hslot : slot.kind = .identifier)
      (hto : toKey.isKeyword .TO = true) (htarget : AddressPhrase subject.context rest target) :
      ChangePhrase subject (key :: slot :: toKey :: rest) (.bind ⟨slot.text, target, subject⟩)

inductive ActionPhrase : Phrase Action
  | nothing {key : Token} (hkey : key.isKeyword .NOTHING = true) : ActionPhrase [key] .nothing
  | change {front back : List Token} {subject : Address} {action : Action}
      (hsubject : SubjectPhrase front subject) (hchange : ChangePhrase subject back action) :
      ActionPhrase (front ++ back) action

inductive ActuatorPhrase : Phrase Actuator
  | intro {key doKey : Token} {root front on acts : List Token} {isRoot : Bool}
      {conditions : List Predicate} {otherConditions : Option (List Predicate)}
      {actions : List Action} (hkey : key.isKeyword .WHERE = true)
      (hroot : FlagPhrase .ROOT root isRoot)
      (hconditions : ConditionsPhrase [.ALL] front conditions)
      (hon : OptionPhrase (·.isKeyword .ON) (ConditionsPhrase [.ANY, .ALL]) on otherConditions)
      (hdo : doKey.isKeyword .DO = true) (hactions : RepeatPhrase ActionPhrase acts actions)
      (hsome : actions ≠ []) :
      ActuatorPhrase (key :: (root ++ (front ++ (on ++ doKey :: acts))))
        ⟨isRoot, conditions, otherConditions, actions⟩

inductive WorldObjectPhrase : Phrase WorldObject
  | intro {concept : Token} {rest : List Token} {givenName : Option String}
      (hconcept : concept.kind = .identifier)
      (hname : OptionPhrase (·.isKeyword .AS) NamePhrase rest givenName) :
      WorldObjectPhrase (concept :: rest) ⟨concept.text, givenName⟩

inductive SlotPathPhrase : Phrase SlotPath
  | intro {object dot slot : Token} (hobject : object.kind = .identifier)
      (hdot : dot.isOperator '.' = true) (hslot : slot.kind = .identifier) :
      SlotPathPhrase [object, dot, slot] ⟨object.text, slot.text⟩

inductive BindingPhrase : Phrase Binding
  | intro {front back : List Token} {toKey : Token} {source target : SlotPath}
      (hsource : SlotPathPhrase front source) (hto : toKey.isKeyword .TO = true)
      (htarget : SlotPathPhrase back target) :
      BindingPhrase (front ++ toKey :: back) ⟨source, target⟩

inductive WorldClausePhrase : Phrase World.Clause
  | root {key name : Token} (hkey : key.isKeyword .ROOT = true)
      (hname : name.kind = .identifier) : WorldClausePhrase [key, name] (.root name.text)
  | objects {key : Token} {rest : List Token} {items : List WorldObject}
      (hkey : key.isKeyword .OBJECT = true)
      (hitems : ListPhrase (·.isOperator ',') WorldObjectPhrase rest items) :
      WorldClausePhrase (key :: rest) (.objects items)
  | bindings {key : Token} {rest : List Token} {items : List Binding}
      (hkey : key.isKeyword .BIND = true)
      (hitems : ListPhrase (·.isOperator ',') BindingPhrase rest items) :
      WorldClausePhrase (key :: rest) (.bindings items)

/-- What clauses say of a world when each kind of them is given at most once, in any order. A kind
that is not given says that there is nothing. -/
structure World.DeclaredBy (world : World) (clauses : List World.Clause) : Prop where
  once : (clauses.map World.Clause.keyword).Nodup
  root : ∀ name, world.root = some name ↔ .root name ∈ clauses
  objects : .objects world.objects ∈ clauses ∨
    world.objects = [] ∧ ∀ items, .objects items ∉ clauses
  bindings : .bindings world.bindings ∈ clauses ∨
    world.bindings = [] ∧ ∀ items, .bindings items ∉ clauses

inductive WorldPhrase : Phrase World
  | intro {key name : Token} {rest : List Token} {clauses : List World.Clause} {world : World}
      (hkey : key.isKeyword .WORLD = true) (hname : name.kind = .identifier)
      (hclauses : RepeatPhrase WorldClausePhrase rest clauses) (htext : world.name = name.text)
      (hworld : world.DeclaredBy clauses) : WorldPhrase (key :: name :: rest) world

/-- Declarations in any order; each joins those of its own sort that follow it. -/
inductive ModelPhrase : Phrase Model
  | nil : ModelPhrase [] ⟨[], [], []⟩
  | concept {front back : List Token} {concept : Concept} {concepts : List Concept}
      {actuators : List Actuator} {worlds : List World} (hconcept : ConceptPhrase front concept)
      (hrest : ModelPhrase back ⟨concepts, actuators, worlds⟩) :
      ModelPhrase (front ++ back) ⟨concept :: concepts, actuators, worlds⟩
  | actuator {front back : List Token} {actuator : Actuator} {concepts : List Concept}
      {actuators : List Actuator} {worlds : List World} (hactuator : ActuatorPhrase front actuator)
      (hrest : ModelPhrase back ⟨concepts, actuators, worlds⟩) :
      ModelPhrase (front ++ back) ⟨concepts, actuator :: actuators, worlds⟩
  | world {front back : List Token} {world : World} {concepts : List Concept}
      {actuators : List Actuator} {worlds : List World} (hworld : WorldPhrase front world)
      (hrest : ModelPhrase back ⟨concepts, actuators, worlds⟩) :
      ModelPhrase (front ++ back) ⟨concepts, actuators, world :: worlds⟩

end TagGraph
