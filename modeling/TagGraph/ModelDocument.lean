import TagGraph.Document
import TagGraph.Model

/-!
Models as documents. A structure is a record of its fields, or the list of them in the same order;
an alternative is its name, with its content as the only field of a record where it has any; a label
set is the list of its members. Reading takes either layout, fields in any order, and label lists in
any order and with repetitions.
-/

namespace TagGraph

open Document

variable {ν : Type}

def textList (items : List String) : Document ν := list (items.map text)

def textList? : Document ν → Option (List String) := list? text?

namespace LabelSet

def toDocument (set : LabelSet) : Document ν := textList set.toList

def ofDocument? (document : Document ν) : Option LabelSet := (textList? document).map ofList

end LabelSet

namespace Concept

def fieldNames : List String := ["name", "tags", "slots"]

def toDocument (layout : Layout) (concept : Concept) : Document ν :=
  ofFields layout <| fieldNames.zip
    [text concept.name, concept.tags.toDocument, concept.slots.toDocument]

def ofDocument? (document : Document ν) : Option Concept :=
  match document.members? fieldNames with
  | some [name, tags, slots] => do
    return ⟨← name.bind text?, ← tags.bind LabelSet.ofDocument?, ← slots.bind LabelSet.ofDocument?⟩
  | _ => none

end Concept

namespace TagPredicate

def fieldNames : List String := ["tags", "is_negated", "slot"]

def toDocument (layout : Layout) (condition : TagPredicate) : Document ν :=
  ofFields layout <| fieldNames.zip
    [textList condition.tags, flag condition.isNegated, ofOption text condition.slot]

def ofDocument? (document : Document ν) : Option TagPredicate :=
  match document.members? fieldNames with
  | some [tags, isNegated, slot] => do
    return ⟨← tags.bind textList?, ← isNegated.bind flag?, ← optional? text? slot⟩
  | _ => none

end TagPredicate

namespace Predicate

def toDocument (layout : Layout) : Predicate → Document ν
  | any => text "Any"
  | tagSet condition => record [("TagSet", condition.toDocument layout)]

def ofDocument? (document : Document ν) : Option Predicate :=
  match document.alternative? with
  | some ("Any", content) => if isVoid content then some any else none
  | some ("TagSet", content) => content.bind fun inner => tagSet <$> TagPredicate.ofDocument? inner
  | _ => none

end Predicate

namespace Context

def alternativeName : Context → String
  | this => "This"
  | root => "Root"
  | other => "Other"

def toDocument (context : Context) : Document ν := text context.alternativeName

def ofDocument? (document : Document ν) : Option Context :=
  match document.alternative? with
  | some (name, content) =>
    if isVoid content then [this, root, other].find? (·.alternativeName == name) else none
  | none => none

end Context

namespace TagsAction

def fieldNames : List String := ["tags", "is_unset", "in_context", "in_slot"]

def toDocument (layout : Layout) (change : TagsAction) : Document ν :=
  ofFields layout <| fieldNames.zip
    [textList change.tags, flag change.isUnset, change.subject.context.toDocument,
     ofOption text change.subject.slot]

def ofDocument? (document : Document ν) : Option TagsAction :=
  match document.members? fieldNames with
  | some [tags, isUnset, context, slot] => do
    return ⟨← tags.bind textList?, ← isUnset.bind flag?,
      ⟨← context.bind Context.ofDocument?, ← optional? text? slot⟩⟩
  | _ => none

end TagsAction

namespace BindAction

def fieldNames : List String :=
  ["source_slot", "target_context", "target_slot", "in_context", "in_slot"]

def toDocument (layout : Layout) (link : BindAction) : Document ν :=
  ofFields layout <| fieldNames.zip
    [text link.slot, link.target.context.toDocument, ofOption text link.target.slot,
     link.subject.context.toDocument, ofOption text link.subject.slot]

def ofDocument? (document : Document ν) : Option BindAction :=
  match document.members? fieldNames with
  | some [slot, targetContext, targetSlot, subjectContext, subjectSlot] => do
    return ⟨← slot.bind text?,
      ⟨← targetContext.bind Context.ofDocument?, ← optional? text? targetSlot⟩,
      ⟨← subjectContext.bind Context.ofDocument?, ← optional? text? subjectSlot⟩⟩
  | _ => none

end BindAction

namespace Action

def toDocument (layout : Layout) : Action → Document ν
  | nothing => text "Nothing"
  | tags change => record [("Tags", change.toDocument layout)]
  | bind link => record [("Bind", link.toDocument layout)]

def ofDocument? (document : Document ν) : Option Action :=
  match document.alternative? with
  | some ("Nothing", content) => if isVoid content then some nothing else none
  | some ("Tags", content) => content.bind fun inner => tags <$> TagsAction.ofDocument? inner
  | some ("Bind", content) => content.bind fun inner => bind <$> BindAction.ofDocument? inner
  | _ => none

end Action

namespace Actuator

def fieldNames : List String := ["is_root", "conditions", "other_conditions", "actions"]

def conditionList (layout : Layout) (conditions : List Predicate) : Document ν :=
  list (conditions.map (·.toDocument layout))

def conditionList? : Document ν → Option (List Predicate) := list? Predicate.ofDocument?

def toDocument (layout : Layout) (actuator : Actuator) : Document ν :=
  ofFields layout <| fieldNames.zip
    [flag actuator.isRoot, conditionList layout actuator.conditions,
     ofOption (conditionList layout) actuator.otherConditions,
     list (actuator.actions.map (·.toDocument layout))]

def ofDocument? (document : Document ν) : Option Actuator :=
  match document.members? fieldNames with
  | some [isRoot, conditions, otherConditions, actions] => do
    return ⟨← isRoot.bind flag?, ← conditions.bind conditionList?,
      ← optional? conditionList? otherConditions, ← actions.bind (list? Action.ofDocument?)⟩
  | _ => none

end Actuator

namespace WorldObject

def fieldNames : List String := ["concept_name", "alias"]

def toDocument (layout : Layout) (object : WorldObject) : Document ν :=
  ofFields layout <| fieldNames.zip [text object.concept, ofOption text object.givenName]

def ofDocument? (document : Document ν) : Option WorldObject :=
  match document.members? fieldNames with
  | some [concept, givenName] => do
    return ⟨← concept.bind text?, ← optional? text? givenName⟩
  | _ => none

end WorldObject

namespace SlotPath

def fieldNames : List String := ["object", "slot"]

def toDocument (layout : Layout) (path : SlotPath) : Document ν :=
  ofFields layout <| fieldNames.zip [text path.object, text path.slot]

def ofDocument? (document : Document ν) : Option SlotPath :=
  match document.members? fieldNames with
  | some [object, slot] => do return ⟨← object.bind text?, ← slot.bind text?⟩
  | _ => none

end SlotPath

namespace Binding

def fieldNames : List String := ["from", "to"]

def toDocument (layout : Layout) (binding : Binding) : Document ν :=
  ofFields layout <| fieldNames.zip
    [binding.source.toDocument layout, binding.target.toDocument layout]

def ofDocument? (document : Document ν) : Option Binding :=
  match document.members? fieldNames with
  | some [source, target] => do
    return ⟨← source.bind SlotPath.ofDocument?, ← target.bind SlotPath.ofDocument?⟩
  | _ => none

end Binding

namespace World

def fieldNames : List String := ["name", "root_name", "objects", "bindings"]

def toDocument (layout : Layout) (world : World) : Document ν :=
  ofFields layout <| fieldNames.zip
    [text world.name, ofOption text world.root, list (world.objects.map (·.toDocument layout)),
     list (world.bindings.map (·.toDocument layout))]

def ofDocument? (document : Document ν) : Option World :=
  match document.members? fieldNames with
  | some [name, root, objects, bindings] => do
    return ⟨← name.bind text?, ← optional? text? root,
      ← objects.bind (list? WorldObject.ofDocument?), ← bindings.bind (list? Binding.ofDocument?)⟩
  | _ => none

end World

namespace Model

def fieldNames : List String := ["concepts", "actuators", "worlds"]

def toDocument (layout : Layout) (model : Model) : Document ν :=
  ofFields layout <| fieldNames.zip
    [list (model.concepts.map (·.toDocument layout)),
     list (model.actuators.map (·.toDocument layout)),
     list (model.worlds.map (·.toDocument layout))]

def ofDocument? (document : Document ν) : Option Model :=
  match document.members? fieldNames with
  | some [concepts, actuators, worlds] => do
    return ⟨← concepts.bind (list? Concept.ofDocument?),
      ← actuators.bind (list? Actuator.ofDocument?), ← worlds.bind (list? World.ofDocument?)⟩
  | _ => none

end Model

end TagGraph
