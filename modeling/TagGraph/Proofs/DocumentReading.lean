import Mathlib.Data.List.Nodup
import TagGraph.ModelDocument
import TagGraph.Proofs.ConceptRecognition

/-!
The document of a model says what the model is. A structure is found again in the fields it was
written in, whether they carry their names or stand in their order, and an alternative by its name.
-/

namespace TagGraph

namespace Document

variable {ν α : Type}

@[simp]
theorem text?_text (value : String) : text? (text value : Document ν) = some value := rfl

@[simp]
theorem flag?_flag (value : Bool) : flag? (flag value : Document ν) = some value := rfl

theorem map_lookup_zip {names : List String} {values : List (Document ν)}
    (hlength : values.length = names.length) (hnames : names.Nodup) :
    names.map (fun name => (names.zip values).lookup name) = values.map some := by
  induction names generalizing values with
  | nil => rw [List.length_eq_zero_iff.mp hlength]; rfl
  | cons name names ih =>
    cases values with
    | nil => cases hlength
    | cons value values =>
      obtain ⟨hname, hothers⟩ := List.nodup_cons.mp hnames
      rw [List.map_cons, List.map_cons, List.zip_cons_cons, List.lookup_cons_self,
        ← ih (Nat.succ.inj hlength) hothers]
      congr 1
      refine List.map_congr_left fun other hmem => ?_
      have hne : (other == name) = false := by
        rw [beq_eq_false_iff_ne]
        rintro rfl
        exact hname hmem
      rw [List.lookup_cons, hne]

/-- In either layout the members are the fields. -/
theorem members?_ofFields (layout : Layout) {names : List String} {values : List (Document ν)}
    (hlength : values.length = names.length) (hnames : names.Nodup) :
    (ofFields layout (names.zip values)).members? names = some (values.map some) := by
  cases layout with
  | named =>
    have honce : (names.all fun name => (names.zip values).countP (·.1 == name) ≤ 1) = true := by
      rw [List.all_eq_true]
      intro name _
      have hcount : (names.zip values).countP (·.1 == name) = names.count name := by
        conv_rhs => rw [← List.map_fst_zip (Nat.le_of_eq hlength.symm)]
        rw [List.count, List.countP_map]
        rfl
      rw [hcount, decide_eq_true_iff]
      exact List.nodup_iff_count_le_one.mp hnames name
    rw [ofFields, members?, if_pos honce, map_lookup_zip hlength hnames]
  | positional =>
    rw [ofFields, List.map_snd_zip (Nat.le_of_eq hlength), members?, if_pos hlength]

@[simp]
theorem list?_list_map {read : Document ν → Option α} {write : α → Document ν}
    (h : ∀ value, read (write value) = some value) (values : List α) :
    list? read (list (values.map write)) = some values := by
  rw [list?, List.mapM_map]
  induction values with
  | nil => rfl
  | cons value values ih => simp_all

/-- A member is found to be left out just where it is written so. -/
theorem optional?_ofOption {read : Document ν → Option α} {write : α → Document ν}
    (hread : ∀ value, read (write value) = some value) (hnull : read null = none)
    (value : Option α) : optional? read (some (ofOption write value)) = some value := by
  cases value with
  | none => rfl
  | some value =>
    have hsome := hread value
    rw [ofOption, optional?]
    · rw [hsome]; rfl
    · intro h
      rw [h, hnull] at hsome
      cases hsome

end Document

open Document

variable {ν : Type} (layout : Layout)

@[simp]
theorem textList?_textList (items : List String) :
    textList? (textList items : Document ν) = some items :=
  list?_list_map text?_text items

namespace LabelSet

theorem ofList_toList (set : LabelSet) : ofList set.toList = set :=
  eq_of_mem_iff fun _ => mem_ofList

@[simp]
theorem ofDocument?_toDocument (set : LabelSet) :
    ofDocument? (set.toDocument : Document ν) = some set := by
  rw [ofDocument?, toDocument, textList?_textList, Option.map_some, ofList_toList]

end LabelSet

@[simp]
theorem Concept.ofDocument?_toDocument (concept : Concept) :
    ofDocument? (concept.toDocument layout : Document ν) = some concept := by
  rw [ofDocument?, toDocument, members?_ofFields layout rfl (by decide)]
  simp

@[simp]
theorem optional?_text (value : Option String) :
    optional? text? (some (ofOption text value : Document ν)) = some value :=
  optional?_ofOption text?_text rfl value

@[simp]
theorem TagPredicate.ofDocument?_toDocument (condition : TagPredicate) :
    ofDocument? (condition.toDocument layout : Document ν) = some condition := by
  rw [ofDocument?, toDocument, members?_ofFields layout rfl (by decide)]
  simp

@[simp]
theorem Predicate.ofDocument?_toDocument (predicate : Predicate) :
    ofDocument? (predicate.toDocument layout : Document ν) = some predicate := by
  cases predicate with
  | any => rfl
  | tagSet condition => simp [toDocument, ofDocument?, alternative?]

@[simp]
theorem Context.ofDocument?_toDocument (context : Context) :
    ofDocument? (context.toDocument : Document ν) = some context := by
  cases context <;> rfl

@[simp]
theorem TagsAction.ofDocument?_toDocument (change : TagsAction) :
    ofDocument? (change.toDocument layout : Document ν) = some change := by
  rw [ofDocument?, toDocument, members?_ofFields layout rfl (by decide)]
  simp

@[simp]
theorem BindAction.ofDocument?_toDocument (link : BindAction) :
    ofDocument? (link.toDocument layout : Document ν) = some link := by
  rw [ofDocument?, toDocument, members?_ofFields layout rfl (by decide)]
  simp

@[simp]
theorem Action.ofDocument?_toDocument (action : Action) :
    ofDocument? (action.toDocument layout : Document ν) = some action := by
  cases action with
  | nothing => rfl
  | tags change => simp [toDocument, ofDocument?, alternative?]
  | bind link => simp [toDocument, ofDocument?, alternative?]

theorem Actuator.conditionList?_conditionList (conditions : List Predicate) :
    conditionList? (conditionList layout conditions : Document ν) = some conditions :=
  list?_list_map (Predicate.ofDocument?_toDocument layout) conditions

@[simp]
theorem Actuator.ofDocument?_toDocument (actuator : Actuator) :
    ofDocument? (actuator.toDocument layout : Document ν) = some actuator := by
  have hpartner : optional? conditionList? (some (ofOption (conditionList layout)
      actuator.otherConditions : Document ν)) = some actuator.otherConditions :=
    optional?_ofOption (conditionList?_conditionList layout) rfl _
  rw [ofDocument?, toDocument, members?_ofFields layout rfl (by decide)]
  simp [conditionList?_conditionList, hpartner]

@[simp]
theorem WorldObject.ofDocument?_toDocument (object : WorldObject) :
    ofDocument? (object.toDocument layout : Document ν) = some object := by
  rw [ofDocument?, toDocument, members?_ofFields layout rfl (by decide)]
  simp

@[simp]
theorem SlotPath.ofDocument?_toDocument (path : SlotPath) :
    ofDocument? (path.toDocument layout : Document ν) = some path := by
  rw [ofDocument?, toDocument, members?_ofFields layout rfl (by decide)]
  simp

@[simp]
theorem Binding.ofDocument?_toDocument (binding : Binding) :
    ofDocument? (binding.toDocument layout : Document ν) = some binding := by
  rw [ofDocument?, toDocument, members?_ofFields layout rfl (by decide)]
  simp

@[simp]
theorem World.ofDocument?_toDocument (world : World) :
    ofDocument? (world.toDocument layout : Document ν) = some world := by
  rw [ofDocument?, toDocument, members?_ofFields layout rfl (by decide)]
  simp

/-- A model is read from its document as it was, whichever way the fields are written. -/
theorem Model.ofDocument?_toDocument (model : Model) :
    ofDocument? (model.toDocument layout : Document ν) = some model := by
  rw [ofDocument?, toDocument, members?_ofFields layout rfl (by decide)]
  simp

end TagGraph
