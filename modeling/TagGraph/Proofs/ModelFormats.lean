import TagGraph.Proofs.DocumentChanges

/-!
The formats of models and of their parts, and with them the changes of a document that leave its
model as it is. The lists of tags in conditions and actions have an order of their own, unlike the
sets of a concept, so nothing in them can be changed.
-/

namespace TagGraph

open Document

variable {ν : Type}

namespace Concept

def fields : List (Field ν Concept) :=
  [.required "name" (.leaf text?) Concept.name, .required "tags" .labels Concept.tags,
   .required "slots" .labels Concept.slots]

theorem readsFields : ReadsFields (fields : List (Field ν Concept)) ofDocument? := by
  refine .intro (rfl : _ = fieldNames) (by decide) (fun document h => ?_) ?_
  · rw [ofDocument?, h]
  · intro document members value h hlength
    obtain ⟨name, tags, slots, rfl⟩ := List.length_eq_three.mp hlength
    obtain ⟨name', tags', slots'⟩ := value
    simp [ofDocument?, h, fields, Field.Says, Format.leaf, Format.labels,
      Option.bind_eq_some_iff]

def format : Format ν Concept := .structured ofDocument? fields readsFields

end Concept

namespace TagPredicate

def fields : List (Field ν TagPredicate) :=
  [.required "tags" (.leaf textList?) TagPredicate.tags,
   .required "is_negated" (.leaf flag?) TagPredicate.isNegated,
   .optional "slot" (.leaf text?) TagPredicate.slot]

theorem readsFields : ReadsFields (fields : List (Field ν TagPredicate)) ofDocument? := by
  refine .intro (rfl : _ = fieldNames) (by decide) (fun document h => ?_) ?_
  · rw [ofDocument?, h]
  · intro document members value h hlength
    obtain ⟨tags, isNegated, slot, rfl⟩ := List.length_eq_three.mp hlength
    obtain ⟨tags', isNegated', slot'⟩ := value
    simp [ofDocument?, h, fields, Field.Says, Format.leaf, Option.bind_eq_some_iff,
      -Bool.exists_bool]

def format : Format ν TagPredicate := .structured ofDocument? fields readsFields

end TagPredicate

def Predicate.format : Format ν Predicate :=
  .choice ofDocument? [⟨"TagSet", TagPredicate.format, tagSet⟩] fun alternative hmem content => by
    obtain rfl := List.mem_singleton.mp hmem
    rfl

namespace TagsAction

def fields : List (Field ν TagsAction) :=
  [.required "tags" (.leaf textList?) TagsAction.tags,
   .required "is_unset" (.leaf flag?) TagsAction.isUnset,
   .required "in_context" (.leaf Context.ofDocument?) (·.subject.context),
   .optional "in_slot" (.leaf text?) (·.subject.slot)]

theorem readsFields : ReadsFields (fields : List (Field ν TagsAction)) ofDocument? := by
  refine .intro (rfl : _ = fieldNames) (by decide) (fun document h => ?_) ?_
  · rw [ofDocument?, h]
  · intro document members value h hlength
    obtain ⟨tags, isUnset, context, slot, rfl⟩ := List.length_eq_four.mp hlength
    obtain ⟨tags', isUnset', context', slot'⟩ := value
    simp [ofDocument?, h, fields, Field.Says, Format.leaf, Option.bind_eq_some_iff,
      -Bool.exists_bool]

def format : Format ν TagsAction := .structured ofDocument? fields readsFields

end TagsAction

namespace BindAction

def fields : List (Field ν BindAction) :=
  [.required "source_slot" (.leaf text?) BindAction.slot,
   .required "target_context" (.leaf Context.ofDocument?) (·.target.context),
   .optional "target_slot" (.leaf text?) (·.target.slot),
   .required "in_context" (.leaf Context.ofDocument?) (·.subject.context),
   .optional "in_slot" (.leaf text?) (·.subject.slot)]

theorem readsFields : ReadsFields (fields : List (Field ν BindAction)) ofDocument? := by
  refine .intro (rfl : _ = fieldNames) (by decide) (fun document h => ?_) ?_
  · rw [ofDocument?, h]
  · intro document members value h hlength
    obtain ⟨slot, others, rfl, hothers⟩ := List.length_eq_succ_iff.mp hlength
    obtain ⟨targetContext, targetSlot, subjectContext, subjectSlot, rfl⟩ :=
      List.length_eq_four.mp hothers
    obtain ⟨slot', ⟨targetContext', targetSlot'⟩, ⟨subjectContext', subjectSlot'⟩⟩ := value
    simp [ofDocument?, h, fields, Field.Says, Format.leaf, Option.bind_eq_some_iff]

def format : Format ν BindAction := .structured ofDocument? fields readsFields

end BindAction

def Action.format : Format ν Action :=
  .choice ofDocument? [⟨"Tags", TagsAction.format, tags⟩, ⟨"Bind", BindAction.format, bind⟩]
    fun alternative hmem content => by
      rcases List.mem_pair.mp hmem with rfl | rfl <;> rfl

namespace Actuator

def fields : List (Field ν Actuator) :=
  [.required "is_root" (.leaf flag?) Actuator.isRoot,
   .required "conditions" (.listOf Predicate.format) Actuator.conditions,
   .optional "other_conditions" (.listOf Predicate.format) Actuator.otherConditions,
   .required "actions" (.listOf Action.format) Actuator.actions]

theorem readsFields : ReadsFields (fields : List (Field ν Actuator)) ofDocument? := by
  refine .intro (rfl : _ = fieldNames) (by decide) (fun document h => ?_) ?_
  · rw [ofDocument?, h]
  · intro document members value h hlength
    obtain ⟨isRoot, conditions, otherConditions, actions, rfl⟩ := List.length_eq_four.mp hlength
    obtain ⟨isRoot', conditions', otherConditions', actions'⟩ := value
    simp [ofDocument?, h, fields, Field.Says, Format.leaf, Format.listOf, Predicate.format,
      Action.format, Format.choice, conditionList?, Option.bind_eq_some_iff, -Bool.exists_bool]

def format : Format ν Actuator := .structured ofDocument? fields readsFields

end Actuator

namespace WorldObject

def fields : List (Field ν WorldObject) :=
  [.required "concept_name" (.leaf text?) WorldObject.concept,
   .optional "alias" (.leaf text?) WorldObject.givenName]

theorem readsFields : ReadsFields (fields : List (Field ν WorldObject)) ofDocument? := by
  refine .intro (rfl : _ = fieldNames) (by decide) (fun document h => ?_) ?_
  · rw [ofDocument?, h]
  · intro document members value h hlength
    obtain ⟨concept, givenName, rfl⟩ := List.length_eq_two.mp hlength
    obtain ⟨concept', givenName'⟩ := value
    simp [ofDocument?, h, fields, Field.Says, Format.leaf, Option.bind_eq_some_iff]

def format : Format ν WorldObject := .structured ofDocument? fields readsFields

end WorldObject

namespace SlotPath

def fields : List (Field ν SlotPath) :=
  [.required "object" (.leaf text?) SlotPath.object, .required "slot" (.leaf text?) SlotPath.slot]

theorem readsFields : ReadsFields (fields : List (Field ν SlotPath)) ofDocument? := by
  refine .intro (rfl : _ = fieldNames) (by decide) (fun document h => ?_) ?_
  · rw [ofDocument?, h]
  · intro document members value h hlength
    obtain ⟨object, slot, rfl⟩ := List.length_eq_two.mp hlength
    obtain ⟨object', slot'⟩ := value
    simp [ofDocument?, h, fields, Field.Says, Format.leaf, Option.bind_eq_some_iff]

def format : Format ν SlotPath := .structured ofDocument? fields readsFields

end SlotPath

namespace Binding

def fields : List (Field ν Binding) :=
  [.required "from" SlotPath.format Binding.source, .required "to" SlotPath.format Binding.target]

theorem readsFields : ReadsFields (fields : List (Field ν Binding)) ofDocument? := by
  refine .intro (rfl : _ = fieldNames) (by decide) (fun document h => ?_) ?_
  · rw [ofDocument?, h]
  · intro document members value h hlength
    obtain ⟨source, target, rfl⟩ := List.length_eq_two.mp hlength
    obtain ⟨source', target'⟩ := value
    simp [ofDocument?, h, fields, Field.Says, SlotPath.format, Format.structured,
      Option.bind_eq_some_iff]

def format : Format ν Binding := .structured ofDocument? fields readsFields

end Binding

namespace World

def fields : List (Field ν World) :=
  [.required "name" (.leaf text?) World.name, .optional "root_name" (.leaf text?) World.root,
   .required "objects" (.listOf WorldObject.format) World.objects,
   .required "bindings" (.listOf Binding.format) World.bindings]

theorem readsFields : ReadsFields (fields : List (Field ν World)) ofDocument? := by
  refine .intro (rfl : _ = fieldNames) (by decide) (fun document h => ?_) ?_
  · rw [ofDocument?, h]
  · intro document members value h hlength
    obtain ⟨name, root, objects, bindings, rfl⟩ := List.length_eq_four.mp hlength
    obtain ⟨name', root', objects', bindings'⟩ := value
    simp [ofDocument?, h, fields, Field.Says, Format.leaf, Format.listOf, WorldObject.format,
      Binding.format, Format.structured, Option.bind_eq_some_iff]

def format : Format ν World := .structured ofDocument? fields readsFields

end World

namespace Model

def fields : List (Field ν Model) :=
  [.required "concepts" (.listOf Concept.format) Model.concepts,
   .required "actuators" (.listOf Actuator.format) Model.actuators,
   .required "worlds" (.listOf World.format) Model.worlds]

theorem readsFields : ReadsFields (fields : List (Field ν Model)) ofDocument? := by
  refine .intro (rfl : _ = fieldNames) (by decide) (fun document h => ?_) ?_
  · rw [ofDocument?, h]
  · intro document members value h hlength
    obtain ⟨concepts, actuators, worlds, rfl⟩ := List.length_eq_three.mp hlength
    obtain ⟨concepts', actuators', worlds'⟩ := value
    simp [ofDocument?, h, fields, Field.Says, Format.listOf, Concept.format, Actuator.format,
      World.format, Format.structured, Option.bind_eq_some_iff]

def format : Format ν Model := .structured ofDocument? fields readsFields

/-- A document from which a model is read can be changed in any number of steps that its format
allows, at any depth, and the same model is read; but with a field lost that some structure in it
may not leave out, no model is read. -/
theorem ofDocument?_of_changes {document : Document ν} {model : Model}
    (h : ofDocument? document = some model) :
    (∀ document', Relation.ReflTransGen format.Step document document' →
      ofDocument? document' = some model) ∧
    ∀ document', format.Loss document document' → ofDocument? document' = none :=
  ⟨fun _ hsteps => format.read_of_steps hsteps h, fun _ hloss => format.read_of_loss hloss h⟩

/-- A concept, and an actuator with a condition, an action that binds, and these members. -/
def doorDocument (concept condition action : Document ν) (actuator : List (String × Document ν)) :
    Document ν :=
  record [("concepts", list [concept]),
    ("actuators", list [record (("conditions", list [record [("TagSet", condition)]]) ::
      ("actions", list [record [("Bind", action)]]) :: actuator)]),
    ("worlds", list [])]

section doorDocument

variable {concept concept' condition condition' action action' : Document ν}
  {actuator actuator' : List (String × Document ν)}

theorem doorDocument_concept (h : Concept.format.Step concept concept') :
    format.Step (doorDocument concept condition action actuator)
      (doorDocument concept' condition action actuator) :=
  @RecordStep.inside _ _ _ [] _ (.required "concepts" (.listOf Concept.format) concepts) _ _
    (by simp [fields]) (@Format.AtItem.intro _ _ [] [] _ _ h)

theorem doorDocument_concept_loss (h : Concept.format.Loss concept concept') :
    format.Loss (doorDocument concept condition action actuator)
      (doorDocument concept' condition action actuator) :=
  @RecordLoss.inside _ _ _ [] _ (.required "concepts" (.listOf Concept.format) concepts) _ _
    (by simp [fields]) (@Format.AtItem.intro _ _ [] [] _ _ h)

theorem doorDocument_actuator (h : Actuator.format.Step
      (record (("conditions", list [record [("TagSet", condition)]]) ::
        ("actions", list [record [("Bind", action)]]) :: actuator))
      (record (("conditions", list [record [("TagSet", condition')]]) ::
        ("actions", list [record [("Bind", action')]]) :: actuator'))) :
    format.Step (doorDocument concept condition action actuator)
      (doorDocument concept condition' action' actuator') :=
  @RecordStep.inside _ _ _ [_] _ (.required "actuators" (.listOf Actuator.format) actuators) _ _
    (by simp [fields]) (@Format.AtItem.intro _ _ [] [] _ _ h)

theorem doorDocument_condition (h : TagPredicate.format.Step condition condition') :
    format.Step (doorDocument concept condition action actuator)
      (doorDocument concept condition' action actuator) := by
  refine doorDocument_actuator (@RecordStep.inside _ _ _ [] _
    (.required "conditions" (.listOf Predicate.format) Actuator.conditions) _ _
      (by simp [Actuator.fields]) (@Format.AtItem.intro _ _ [] [] _ _ ?_))
  exact ⟨⟨"TagSet", TagPredicate.format, Predicate.tagSet⟩, List.mem_singleton_self _, .intro h⟩

theorem doorDocument_action (h : BindAction.format.Step action action') :
    format.Step (doorDocument concept condition action actuator)
      (doorDocument concept condition action' actuator) := by
  refine doorDocument_actuator (@RecordStep.inside _ _ _ [_] _
    (.required "actions" (.listOf Action.format) Actuator.actions) _ _
      (by simp [Actuator.fields]) (@Format.AtItem.intro _ _ [] [] _ _ ?_))
  exact ⟨⟨"Bind", BindAction.format, Action.bind⟩, List.mem_pair.mpr (Or.inr rfl), .intro h⟩

end doorDocument

/-- With a key that is not known and its tags in another order and repeated, with a null for a slot
that there is none of and without the null for another, and with its keys in another order, a
document says what it said; without the name of its concept it says nothing. -/
theorem ofDocument?_of_changes_door :
    let concept (tags : List String) : List (String × Document String) :=
      [("tags", textList tags), ("slots", textList ["key"])]
    let condition : List (String × Document String) :=
      [("tags", textList ["shut"]), ("is_negated", flag true)]
    let action : List (String × Document String) :=
      [("source_slot", text "key"), ("target_context", text "Other"), ("in_context", text "This")]
    let actuator : List (String × Document String) := [("is_root", flag false)]
    let document := doorDocument (record (("name", text "door") :: concept ["shut", "red"]))
      (record condition) (record (("target_slot", null) :: action))
      (("other_conditions", null) :: actuator)
    let document' := doorDocument
      (record (("colour", number "7") :: ("name", text "door") :: concept ["red", "shut", "red"]))
      (record (("slot", null) :: condition)) (record (("in_slot", null) :: action).reverse) actuator
    let model : Model := ⟨[⟨"door", ⟨["red", "shut"], by decide⟩, ⟨["key"], by decide⟩⟩],
      [⟨false, [.tagSet ⟨["shut"], true, none⟩], none, [.bind ⟨"key", ⟨.other, none⟩, .this⟩]⟩], []⟩
    ofDocument? document = some model ∧ ofDocument? document' = some model ∧
      ofDocument? (doorDocument (record (concept ["shut", "red"])) (record condition)
        (record (("target_slot", null) :: action)) (("other_conditions", null) :: actuator)) =
          none := by
  intro concept condition action actuator document document' model
  have hmodel : ofDocument? document = some model := rfl
  obtain ⟨hkept, hlost⟩ := ofDocument?_of_changes hmodel
  refine ⟨hmodel, hkept document' ?_, hlost _ ?_⟩
  · have htags : Concept.format.Step (record (("name", text "door") :: concept ["shut", "red"]))
        (record (("name", text "door") :: concept ["red", "shut", "red"])) :=
      @RecordStep.inside _ _ _ [_] _ (.required "tags" .labels Concept.tags) _ _
        (by simp [Concept.fields]) (.intro fun tag => by simp [or_comm])
    have hcolour : Concept.format.Step
        (record (("name", text "door") :: concept ["red", "shut", "red"]))
        (record (("colour", number "7") :: ("name", text "door") ::
          concept ["red", "shut", "red"])) :=
      @RecordStep.unknown _ _ _ [] _ _ _ (by simp [Concept.fields, Field.name])
    have hslot : TagPredicate.format.Step (record condition)
        (record (("slot", null) :: condition)) :=
      @RecordStep.addNull _ _ _ [] _ (.optional "slot" (.leaf text?) TagPredicate.slot)
        (by simp [TagPredicate.fields]) rfl (by simp [Field.name])
    have htarget : BindAction.format.Step (record (("target_slot", null) :: action))
        (record action) :=
      @RecordStep.dropNull _ _ _ [] _ (.optional "target_slot" (.leaf text?) (·.target.slot))
        (by simp [BindAction.fields]) rfl
    have hsubject : BindAction.format.Step (record action) (record (("in_slot", null) :: action)) :=
      @RecordStep.addNull _ _ _ [] _ (.optional "in_slot" (.leaf text?) (·.subject.slot))
        (by simp [BindAction.fields]) rfl (by simp [Field.name])
    have horder : BindAction.format.Step (record (("in_slot", null) :: action))
        (record (("in_slot", null) :: action).reverse) :=
      .order (List.reverse_perm _).symm
    have hpartner : format.Step
        (doorDocument (record (("colour", number "7") :: ("name", text "door") ::
          concept ["red", "shut", "red"])) (record (("slot", null) :: condition))
          (record (("in_slot", null) :: action).reverse) (("other_conditions", null) :: actuator))
        document' :=
      doorDocument_actuator (@RecordStep.dropNull _ _ _ [_, _] _
        (.optional "other_conditions" (.listOf Predicate.format) Actuator.otherConditions)
        (by simp [Actuator.fields]) rfl)
    have hconcepts := (Relation.ReflTransGen.single htags).tail hcolour
    have hactions := ((Relation.ReflTransGen.single htarget).tail hsubject).tail horder
    refine .trans (hconcepts.lift (doorDocument · _ _ _) fun _ _ => doorDocument_concept) ?_
    refine .head (doorDocument_condition hslot) ?_
    refine .trans (hactions.lift (doorDocument _ _ · _) fun _ _ => doorDocument_action) ?_
    exact .single hpartner
  · exact doorDocument_concept_loss (@RecordLoss.field _ _ _ [] _
      (.required "name" (.leaf text?) Concept.name) _ (by simp [Concept.fields]) rfl)

end Model

end TagGraph
