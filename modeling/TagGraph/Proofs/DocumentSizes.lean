import TagGraph.ModelDocument

/-!
How large documents are. The document of a model holds no numbers and is nested in a few layers
only. Its texts and lists are those of the model, but for the names of fields and alternatives and
the lists of fields, all of which are short. So what bounds the sizes in a model bounds those in its
document.
-/

namespace TagGraph

/-- A document without numbers, in so many layers at most. The sizes of its texts, in bytes, and of
its lists and records are admitted. -/
def Document.Within {ν : Type} (admits : Nat → Prop) : Nat → Document ν → Prop
  | 0, _ => False
  | depth + 1, document =>
    match document with
    | .null => True
    | .flag _ => True
    | .number _ => False
    | .text value => admits value.utf8ByteSize
    | .list items => admits items.length ∧ ∀ item ∈ items, item.Within admits depth
    | .record fields => admits fields.length ∧
        ∀ field ∈ fields, admits field.1.utf8ByteSize ∧ field.2.Within admits depth

section sizes

variable (admits : Nat → Prop)

def TextFits (value : String) : Prop := admits value.utf8ByteSize

instance [DecidablePred admits] : DecidablePred (TextFits admits) := fun value =>
  inferInstanceAs (Decidable (admits value.utf8ByteSize))

def ListFits {α : Type} (fits : α → Prop) (items : List α) : Prop :=
  admits items.length ∧ ∀ item ∈ items, fits item

instance {α : Type} (fits : α → Prop) [DecidablePred admits] [DecidablePred fits] :
    DecidablePred (ListFits admits fits) := fun items =>
  inferInstanceAs (Decidable (admits items.length ∧ ∀ item ∈ items, fits item))

def OptionFits {α : Type} (fits : α → Prop) (value : Option α) : Prop := ∀ item ∈ value, fits item

instance {α : Type} (fits : α → Prop) [DecidablePred fits] : DecidablePred (OptionFits fits)
  | none => .isTrue nofun
  | some item => decidable_of_iff (fits item) (by simp [OptionFits])

structure Concept.Fits (concept : Concept) : Prop where
  name : TextFits admits concept.name
  tags : ListFits admits (TextFits admits) concept.tags.toList
  slots : ListFits admits (TextFits admits) concept.slots.toList

structure TagPredicate.Fits (condition : TagPredicate) : Prop where
  tags : ListFits admits (TextFits admits) condition.tags
  slot : OptionFits (TextFits admits) condition.slot

def Predicate.Fits : Predicate → Prop
  | any => True
  | tagSet condition => condition.Fits admits

def Address.Fits (address : Address) : Prop := OptionFits (TextFits admits) address.slot

structure TagsAction.Fits (change : TagsAction) : Prop where
  tags : ListFits admits (TextFits admits) change.tags
  subject : change.subject.Fits admits

structure BindAction.Fits (link : BindAction) : Prop where
  slot : TextFits admits link.slot
  target : link.target.Fits admits
  subject : link.subject.Fits admits

def Action.Fits : Action → Prop
  | nothing => True
  | tags change => change.Fits admits
  | bind link => link.Fits admits

structure Actuator.Fits (actuator : Actuator) : Prop where
  conditions : ListFits admits (Predicate.Fits admits) actuator.conditions
  otherConditions :
    OptionFits (ListFits admits (Predicate.Fits admits)) actuator.otherConditions
  actions : ListFits admits (Action.Fits admits) actuator.actions

structure WorldObject.Fits (object : WorldObject) : Prop where
  concept : TextFits admits object.concept
  givenName : OptionFits (TextFits admits) object.givenName

structure SlotPath.Fits (path : SlotPath) : Prop where
  object : TextFits admits path.object
  slot : TextFits admits path.slot

structure Binding.Fits (binding : Binding) : Prop where
  source : binding.source.Fits admits
  target : binding.target.Fits admits

structure World.Fits (world : World) : Prop where
  name : TextFits admits world.name
  root : OptionFits (TextFits admits) world.root
  objects : ListFits admits (WorldObject.Fits admits) world.objects
  bindings : ListFits admits (Binding.Fits admits) world.bindings

/-- The sizes of all texts, in bytes, and of all lists in the model are admitted. -/
structure Model.Fits (model : Model) : Prop where
  concepts : ListFits admits (Concept.Fits admits) model.concepts
  actuators : ListFits admits (Actuator.Fits admits) model.actuators
  worlds : ListFits admits (World.Fits admits) model.worlds

end sizes

section unlimited

variable {admits : Nat → Prop} (h : ∀ size, admits size)

include h

theorem listFits_of_forall {α : Type} {fits : α → Prop} (hfits : ∀ item, fits item)
    (items : List α) : ListFits admits fits items :=
  ⟨h _, fun item _ => hfits item⟩

theorem Predicate.fits_of_forall (predicate : Predicate) : predicate.Fits admits := by
  cases predicate with
  | any => trivial
  | tagSet condition => exact ⟨listFits_of_forall h (fun _ => h _) _, fun _ _ => h _⟩

theorem Action.fits_of_forall (action : Action) : action.Fits admits := by
  cases action with
  | nothing => trivial
  | tags change => exact ⟨listFits_of_forall h (fun _ => h _) _, fun _ _ => h _⟩
  | bind link => exact ⟨h _, fun _ _ => h _, fun _ _ => h _⟩

theorem Concept.fits_of_forall (concept : Concept) : concept.Fits admits :=
  ⟨h _, listFits_of_forall h (fun _ => h _) _, listFits_of_forall h (fun _ => h _) _⟩

theorem Actuator.fits_of_forall (actuator : Actuator) : actuator.Fits admits :=
  ⟨listFits_of_forall h (Predicate.fits_of_forall h) _,
    fun _ _ => listFits_of_forall h (Predicate.fits_of_forall h) _,
    listFits_of_forall h (Action.fits_of_forall h) _⟩

theorem World.fits_of_forall (world : World) : world.Fits admits :=
  ⟨h _, fun _ _ => h _, listFits_of_forall h (fun _ => ⟨h _, fun _ _ => h _⟩) _,
    listFits_of_forall h (fun _ => ⟨⟨h _, h _⟩, ⟨h _, h _⟩⟩) _⟩

/-- Where every size is admitted, every model fits. -/
theorem Model.fits_of_forall (model : Model) : model.Fits admits :=
  ⟨listFits_of_forall h (Concept.fits_of_forall h) _,
    listFits_of_forall h (Actuator.fits_of_forall h) _,
    listFits_of_forall h (World.fits_of_forall h) _⟩

end unlimited

section within

variable {ν : Type} {admits : Nat → Prop} {depth : Nat}

theorem within_list_map {α : Type} {fits : α → Prop} {write : α → Document ν} {items : List α}
    (h : ListFits admits fits items)
    (hwrite : ∀ item, fits item → (write item).Within admits depth) :
    (Document.list (items.map write)).Within admits (depth + 1) := by
  refine ⟨by rw [List.length_map]; exact h.1, ?_⟩
  exact List.forall_mem_map.mpr fun item hmem => hwrite item (h.2 item hmem)

theorem within_textList {items : List String} (h : ListFits admits (TextFits admits) items) :
    (textList items : Document ν).Within admits (depth + 2) :=
  within_list_map h fun _ hitem => hitem

theorem within_ofOption {α : Type} {fits : α → Prop} {write : α → Document ν} {value : Option α}
    (h : OptionFits fits value)
    (hwrite : ∀ item, fits item → (write item).Within admits (depth + 1)) :
    (Document.ofOption write value).Within admits (depth + 1) := by
  cases value with
  | none => trivial
  | some item => exact hwrite item (h item rfl)

theorem within_optionText {value : Option String} (h : OptionFits (TextFits admits) value) :
    (Document.ofOption Document.text value : Document ν).Within admits (depth + 1) :=
  within_ofOption h fun _ hitem => hitem

variable (hsmall : ∀ size < 32, admits size) (layout : Document.Layout)

include hsmall

/-- Names of fields are short, and no structure has many fields. -/
theorem within_ofFields {names : List String} {values : List (Document ν)}
    (hnames : names.length < 32 ∧ ∀ name ∈ names, name.utf8ByteSize < 32)
    (hlength : values.length = names.length)
    (hvalues : ∀ value ∈ values, value.Within admits depth) :
    (Document.ofFields layout (names.zip values)).Within admits (depth + 1) := by
  cases layout with
  | named =>
    refine ⟨hsmall _ (by rw [List.length_zip]; omega), ?_⟩
    intro field hmem
    obtain ⟨hname, hvalue⟩ := List.of_mem_zip hmem
    exact ⟨hsmall _ (hnames.2 _ hname), hvalues _ hvalue⟩
  | positional =>
    rw [Document.ofFields, List.map_snd_zip (Nat.le_of_eq hlength)]
    exact ⟨hsmall _ (by omega), hvalues⟩

/-- An alternative with content is a record of one field. -/
theorem within_alternative {name : String} {content : Document ν} (hname : name.utf8ByteSize < 32)
    (hcontent : content.Within admits depth) :
    (Document.record [(name, content)]).Within admits (depth + 1) :=
  ⟨hsmall 1 (by decide), List.forall_mem_singleton.mpr ⟨hsmall _ hname, hcontent⟩⟩

theorem Concept.within_toDocument {concept : Concept} (h : concept.Fits admits) :
    (concept.toDocument layout : Document ν).Within admits (depth + 3) := by
  refine within_ofFields hsmall layout (by decide) rfl ?_
  simp only [List.forall_mem_cons, List.not_mem_nil, false_implies, implies_true, and_true]
  exact ⟨h.name, within_textList h.tags, within_textList h.slots⟩

theorem TagPredicate.within_toDocument {condition : TagPredicate} (h : condition.Fits admits) :
    (condition.toDocument layout : Document ν).Within admits (depth + 3) := by
  refine within_ofFields hsmall layout (by decide) rfl ?_
  simp only [List.forall_mem_cons, List.not_mem_nil, false_implies, implies_true, and_true]
  exact ⟨within_textList h.tags, trivial, within_optionText h.slot⟩

theorem Predicate.within_toDocument {predicate : Predicate} (h : predicate.Fits admits) :
    (predicate.toDocument layout : Document ν).Within admits (depth + 4) := by
  cases predicate with
  | any => exact hsmall 3 (by decide)
  | tagSet condition =>
    exact within_alternative hsmall (by decide) (condition.within_toDocument hsmall layout h)

theorem Context.within_toDocument (context : Context) :
    (context.toDocument : Document ν).Within admits (depth + 1) := by
  cases context with
  | this => exact hsmall 4 (by decide)
  | root => exact hsmall 4 (by decide)
  | other => exact hsmall 5 (by decide)

theorem TagsAction.within_toDocument {change : TagsAction} (h : change.Fits admits) :
    (change.toDocument layout : Document ν).Within admits (depth + 3) := by
  refine within_ofFields hsmall layout (by decide) rfl ?_
  simp only [List.forall_mem_cons, List.not_mem_nil, false_implies, implies_true, and_true]
  exact ⟨within_textList h.tags, trivial, change.subject.context.within_toDocument hsmall,
    within_optionText h.subject⟩

theorem BindAction.within_toDocument {link : BindAction} (h : link.Fits admits) :
    (link.toDocument layout : Document ν).Within admits (depth + 3) := by
  refine within_ofFields hsmall layout (by decide) rfl ?_
  simp only [List.forall_mem_cons, List.not_mem_nil, false_implies, implies_true, and_true]
  exact ⟨h.slot, link.target.context.within_toDocument hsmall, within_optionText h.target,
    link.subject.context.within_toDocument hsmall, within_optionText h.subject⟩

theorem Action.within_toDocument {action : Action} (h : action.Fits admits) :
    (action.toDocument layout : Document ν).Within admits (depth + 4) := by
  cases action with
  | nothing => exact hsmall 7 (by decide)
  | tags change =>
    exact within_alternative hsmall (by decide) (change.within_toDocument hsmall layout h)
  | bind link =>
    exact within_alternative hsmall (by decide) (link.within_toDocument hsmall layout h)

theorem Actuator.within_toDocument {actuator : Actuator} (h : actuator.Fits admits) :
    (actuator.toDocument layout : Document ν).Within admits (depth + 6) := by
  have hconditions : ∀ conditions, ListFits admits (Predicate.Fits admits) conditions →
      (conditionList layout conditions : Document ν).Within admits (depth + 5) := by
    intro conditions hfits
    exact within_list_map hfits fun _ hitem => Predicate.within_toDocument hsmall layout hitem
  refine within_ofFields hsmall layout (by decide) rfl ?_
  simp only [List.forall_mem_cons, List.not_mem_nil, false_implies, implies_true, and_true]
  refine ⟨trivial, hconditions _ h.conditions, within_ofOption h.otherConditions hconditions, ?_⟩
  exact within_list_map h.actions fun _ hitem => Action.within_toDocument hsmall layout hitem

theorem WorldObject.within_toDocument {object : WorldObject} (h : object.Fits admits) :
    (object.toDocument layout : Document ν).Within admits (depth + 2) := by
  refine within_ofFields hsmall layout (by decide) rfl ?_
  simp only [List.forall_mem_cons, List.not_mem_nil, false_implies, implies_true, and_true]
  exact ⟨h.concept, within_optionText h.givenName⟩

theorem SlotPath.within_toDocument {path : SlotPath} (h : path.Fits admits) :
    (path.toDocument layout : Document ν).Within admits (depth + 2) := by
  refine within_ofFields hsmall layout (by decide) rfl ?_
  simp only [List.forall_mem_cons, List.not_mem_nil, false_implies, implies_true, and_true]
  exact ⟨h.object, h.slot⟩

theorem Binding.within_toDocument {binding : Binding} (h : binding.Fits admits) :
    (binding.toDocument layout : Document ν).Within admits (depth + 3) := by
  refine within_ofFields hsmall layout (by decide) rfl ?_
  simp only [List.forall_mem_cons, List.not_mem_nil, false_implies, implies_true, and_true]
  exact ⟨binding.source.within_toDocument hsmall layout h.source,
    binding.target.within_toDocument hsmall layout h.target⟩

theorem World.within_toDocument {world : World} (h : world.Fits admits) :
    (world.toDocument layout : Document ν).Within admits (depth + 5) := by
  refine within_ofFields hsmall layout (by decide) rfl ?_
  simp only [List.forall_mem_cons, List.not_mem_nil, false_implies, implies_true, and_true]
  refine ⟨h.name, within_optionText h.root, ?_, ?_⟩
  · exact within_list_map h.objects fun _ hitem =>
      WorldObject.within_toDocument hsmall layout hitem
  · exact within_list_map h.bindings fun _ hitem => Binding.within_toDocument hsmall layout hitem

/-- The document of a model has eight layers at most. -/
theorem Model.within_toDocument {model : Model} (h : model.Fits admits) :
    (model.toDocument layout : Document ν).Within admits (depth + 8) := by
  refine within_ofFields hsmall layout (by decide) rfl ?_
  simp only [List.forall_mem_cons, List.not_mem_nil, false_implies, implies_true, and_true]
  refine ⟨?_, ?_, ?_⟩
  · exact within_list_map h.concepts fun _ hitem => Concept.within_toDocument hsmall layout hitem
  · exact within_list_map h.actuators fun _ hitem => Actuator.within_toDocument hsmall layout hitem
  · exact within_list_map h.worlds fun _ hitem => World.within_toDocument hsmall layout hitem

end within

end TagGraph
