import Mathlib.Data.List.Forall2
import Mathlib.Data.List.Nodup
import Mathlib.Data.Set.List
import Mathlib.Logic.Relation
import TagGraph.Proofs.DocumentReading

/-!
Changes of a document that its reader does not notice, and losses that it does not overlook. Where a
structure is read the members may stand in any order, members that are not its fields do not count,
and a field that may be left out may as well be null; a field that may not be left out is missed.
Where a set is read only the items count. What holds of a part of a document holds of it in its
place.
-/

namespace TagGraph.Document

variable {ν α : Type}

/-- A way to read documents, with the single changes that make no difference to it and the losses
that do. -/
structure Format (ν α : Type) where
  read : Document ν → Option α
  Step : Document ν → Document ν → Prop
  Loss : Document ν → Document ν → Prop
  read_of_step : ∀ {document document' : Document ν} {value : α}, Step document document' →
    read document = some value → read document' = some value
  read_of_loss : ∀ {document document' : Document ν} {value : α}, Loss document document' →
    read document = some value → read document' = none
  ne_null : ∀ {document document' : Document ν}, Step document document' ∨ Loss document document' →
    document ≠ null ∧ document' ≠ null

namespace Format

theorem read_of_steps (format : Format ν α) {document document' : Document ν} {value : α}
    (h : Relation.ReflTransGen format.Step document document')
    (hread : format.read document = some value) : format.read document' = some value := by
  induction h with
  | refl => exact hread
  | tail _ hstep ih => exact format.read_of_step hstep ih

/-- Nothing in the document can be changed or lost. -/
def leaf (read : Document ν → Option α) : Format ν α where
  read := read
  Step _ _ := False
  Loss _ _ := False
  read_of_step h := h.elim
  read_of_loss h := h.elim
  ne_null h := h.elim False.elim False.elim

/-- A change of one item of a list. -/
inductive AtItem (Change : Document ν → Document ν → Prop) : Document ν → Document ν → Prop
  | intro {front back : List (Document ν)} {item item' : Document ν} (h : Change item item') :
      AtItem Change (list (front ++ item :: back)) (list (front ++ item' :: back))

theorem list?_append_cons (read : Document ν → Option α) (front back : List (Document ν))
    (item : Document ν) : list? read (list (front ++ item :: back)) =
      (front.mapM read).bind fun values => (read item).bind fun value =>
        (back.mapM read).map fun others => values ++ value :: others := by
  rw [list?, List.mapM_append, List.mapM_cons]
  cases front.mapM read <;> cases read item <;> cases back.mapM read <;> rfl

/-- A list of items that are all read in the same way. -/
def listOf (item : Format ν α) : Format ν (List α) where
  read := list? item.read
  Step := AtItem item.Step
  Loss := AtItem item.Loss
  read_of_step h hread := by
    obtain @⟨front, back, inner, inner', hinner⟩ := h
    rw [list?_append_cons] at hread ⊢
    cases hvalue : item.read inner with
    | none => simp [hvalue] at hread
    | some value => rwa [item.read_of_step hinner hvalue, ← hvalue]
  read_of_loss h hread := by
    obtain @⟨front, back, inner, inner', hinner⟩ := h
    rw [list?_append_cons] at hread ⊢
    cases hvalue : item.read inner with
    | none => simp [hvalue] at hread
    | some value => simp [item.read_of_loss hinner hvalue]
  ne_null h := by
    rcases h with ⟨⟨⟩⟩ | ⟨⟨⟩⟩ <;> exact ⟨nofun, nofun⟩

/-- Lists of the same items, in whatever order and number. -/
inductive SameItems : Document ν → Document ν → Prop
  | intro {items items' : List (Document ν)} (h : ∀ item, item ∈ items ↔ item ∈ items') :
      SameItems (list items) (list items')

theorem textList?_eq_some_iff {items : List (Document ν)} {names : List String} :
    textList? (list items) = some names ↔ items = names.map text := by
  constructor
  · intro h
    induction items generalizing names with
    | nil =>
      obtain rfl := Option.some.inj h
      rfl
    | cons item items ih =>
      rw [textList?, list?, List.mapM_cons] at h
      obtain ⟨name, hname, hothers⟩ := Option.bind_eq_some_iff.mp h
      obtain ⟨others, hitems, hnames⟩ := Option.bind_eq_some_iff.mp hothers
      obtain rfl := Option.some.inj hnames
      cases item <;> cases hname
      rw [ih hitems, List.map_cons]
  · rintro rfl
    exact textList?_textList names

/-- A set of labels, of which a list may name some more than once. -/
def labels : Format ν LabelSet where
  read := LabelSet.ofDocument?
  Step := SameItems
  Loss _ _ := False
  read_of_step h hread := by
    obtain @⟨items, items', hsame⟩ := h
    obtain ⟨names, hnames, rfl⟩ := Option.map_eq_some_iff.mp hread
    obtain rfl := textList?_eq_some_iff.mp hnames
    obtain ⟨names', rfl⟩ : items' ∈ Set.range (List.map text) := by
      rw [Set.range_list_map]
      intro item hmem
      obtain ⟨name, -, hname⟩ := List.mem_map.mp ((hsame item).mpr hmem)
      exact ⟨name, hname⟩
    rw [LabelSet.ofDocument?, textList?_eq_some_iff.mpr rfl, Option.map_some]
    refine congrArg some (LabelSet.eq_of_mem_iff fun name => ?_)
    have hname := hsame (text name)
    simp only [List.mem_map, text.injEq, exists_eq_right] at hname
    rw [LabelSet.mem_ofList, LabelSet.mem_ofList, hname]
  read_of_loss h := h.elim
  ne_null h := by
    rcases h with ⟨⟨⟩⟩ | h
    · exact ⟨nofun, nofun⟩
    · exact h.elim

/-- What comes with the name of an alternative, and the value that the two make. -/
structure Alternative (ν α : Type) : Type 1 where
  {β : Type}
  name : String
  content : Format ν β
  make : β → α

/-- A change of what comes with the name of an alternative. -/
inductive AtContent (name : String) (Change : Document ν → Document ν → Prop) :
    Document ν → Document ν → Prop
  | intro {content content' : Document ν} (h : Change content content') :
      AtContent name Change (record [(name, content)]) (record [(name, content')])

/-- One of several alternatives; those that have a content are listed. -/
def choice (read : Document ν → Option α) (alternatives : List (Alternative ν α))
    (hread : ∀ alternative ∈ alternatives, ∀ content, read (record [(alternative.name, content)]) =
      (alternative.content.read content).map alternative.make) : Format ν α where
  read := read
  Step document document' := ∃ alternative ∈ alternatives,
    AtContent alternative.name alternative.content.Step document document'
  Loss document document' := ∃ alternative ∈ alternatives,
    AtContent alternative.name alternative.content.Loss document document'
  read_of_step h hvalue := by
    obtain ⟨alternative, hmem, ⟨hinner⟩⟩ := h
    rw [hread alternative hmem] at hvalue ⊢
    obtain ⟨inner, hcontent, rfl⟩ := Option.map_eq_some_iff.mp hvalue
    rw [alternative.content.read_of_step hinner hcontent, Option.map_some]
  read_of_loss h hvalue := by
    obtain ⟨alternative, hmem, ⟨hinner⟩⟩ := h
    rw [hread alternative hmem] at hvalue ⊢
    obtain ⟨inner, hcontent, rfl⟩ := Option.map_eq_some_iff.mp hvalue
    rw [alternative.content.read_of_loss hinner hcontent, Option.map_none]
  ne_null h := by
    rcases h with ⟨alternative, -, ⟨⟩⟩ | ⟨alternative, -, ⟨⟩⟩ <;> exact ⟨nofun, nofun⟩

end Format

/-- A field of a structure: its name, the format of its content, and the part of the structure that
this is. An optional field may be left out. -/
inductive Field (ν α : Type) : Type 1
  | required {β : Type} (name : String) (content : Format ν β) (part : α → β)
  | optional {β : Type} (name : String) (content : Format ν β) (part : α → Option β)

namespace Field

def name : Field ν α → String
  | required name _ _ => name
  | optional name _ _ => name

def isOptional : Field ν α → Bool
  | required _ _ _ => false
  | optional _ _ _ => true

def Step : Field ν α → Document ν → Document ν → Prop
  | required _ content _ => content.Step
  | optional _ content _ => content.Step

def Loss : Field ν α → Document ν → Document ν → Prop
  | required _ content _ => content.Loss
  | optional _ content _ => content.Loss

/-- A member, which may be left out, is read as the part of the value that it should be. -/
def Says : Field ν α → Option (Document ν) → α → Prop
  | required _ content part, member, value => member.bind content.read = some (part value)
  | optional _ content part, member, value =>
    optional? content.read member = some (part value)

variable {field : Field ν α} {content content' : Document ν} {value other : α}

theorem optional?_some_of_ne {β : Type} {read : Document ν → Option β} (h : content ≠ null) :
    optional? read (some content) = (read content).map some := by
  cases content with
  | null => exact absurd rfl h
  | _ => rfl

theorem says_of_step (h : field.Step content content') (hstated : field.Says (some content) value) :
    field.Says (some content') value := by
  cases field with
  | required name format part => exact format.read_of_step h hstated
  | optional name format part =>
    obtain ⟨hcontent, hcontent'⟩ := format.ne_null (Or.inl h)
    rw [Says, optional?_some_of_ne hcontent] at hstated
    obtain ⟨inner, hinner, hpart⟩ := Option.map_eq_some_iff.mp hstated
    rw [Says, optional?_some_of_ne hcontent', format.read_of_step h hinner, Option.map_some, hpart]

theorem not_says_of_loss (h : field.Loss content content')
    (hstated : field.Says (some content) value) : ¬field.Says (some content') other := by
  cases field with
  | required name format part =>
    have hnone : format.read content' = none := format.read_of_loss h hstated
    rw [Says, Option.bind_some, hnone]
    nofun
  | optional name format part =>
    obtain ⟨hcontent, hcontent'⟩ := format.ne_null (Or.inr h)
    rw [Says, optional?_some_of_ne hcontent] at hstated
    obtain ⟨inner, hinner, hpart⟩ := Option.map_eq_some_iff.mp hstated
    rw [Says, optional?_some_of_ne hcontent', format.read_of_loss h hinner, Option.map_none]
    nofun

theorem says_null_iff (h : field.isOptional = true) :
    field.Says (some null) value ↔ field.Says none value := by
  cases field with
  | required name format part => cases h
  | optional name format part => rfl

theorem not_says_none (h : field.isOptional = false) : ¬field.Says none value := by
  cases field with
  | required name format part => nofun
  | optional name format part => cases h

end Field

section members

variable {members members' front back : List (String × Document ν)} {name other : String}
  {content : Document ν}

theorem lookup_eq_none_of_countP (h : members.countP (·.1 == name) = 0) :
    members.lookup name = none := by
  refine List.lookup_eq_none_iff.mpr fun member hmem => ?_
  have hname := List.countP_eq_zero.mp h member hmem
  rw [bne_iff_ne]
  rintro rfl
  exact hname (beq_self_eq_true _)

/-- A member whose name is not had twice is found wherever it stands. -/
theorem lookup_of_countP
    (h : (front ++ (name, content) :: back).countP (·.1 == name) ≤ 1) :
    (front ++ (name, content) :: back).lookup name = some content ∧
      (front ++ back).lookup name = none := by
  rw [List.countP_append, List.countP_cons_of_pos (by simp)] at h
  have hfront : front.lookup name = none := lookup_eq_none_of_countP (by omega)
  have hback : back.lookup name = none := lookup_eq_none_of_countP (by omega)
  rw [List.lookup_append, List.lookup_append, hfront, hback, List.lookup_cons_self]
  exact ⟨rfl, rfl⟩

theorem lookup_of_ne (h : name ≠ other) :
    (front ++ (other, content) :: back).lookup name = (front ++ back).lookup name := by
  have hother : (name == other) = false := beq_eq_false_iff_ne.mpr h
  rw [List.lookup_append, List.lookup_append, List.lookup_cons, hother]

theorem countP_middle (front back : List (String × Document ν)) (name other : String)
    (content : Document ν) : (front ++ (other, content) :: back).countP (·.1 == name) =
      (front ++ back).countP (·.1 == name) + if other = name then 1 else 0 := by
  rw [List.countP_append, List.countP_append, List.countP_cons]
  simp only [beq_iff_eq]
  omega

theorem countP_of_ne (h : name ≠ other) :
    (front ++ (other, content) :: back).countP (·.1 == name) =
      (front ++ back).countP (·.1 == name) := by
  rw [countP_middle, if_neg h.symm]
  rfl

theorem lookup_of_perm (h : members.Perm members') (honce : members.countP (·.1 == name) ≤ 1) :
    members.lookup name = members'.lookup name := by
  cases hfound : members.lookup name with
  | none =>
    refine (List.lookup_eq_none_iff.mpr fun member hmem => ?_).symm
    exact List.lookup_eq_none_iff.mp hfound member (h.mem_iff.mpr hmem)
  | some content =>
    obtain ⟨front, back, rfl, -⟩ := List.lookup_eq_some_iff.mp hfound
    obtain ⟨front', back', rfl⟩ := List.append_of_mem (h.mem_iff.mp (List.mem_append_cons_self))
    rw [h.countP_eq] at honce
    exact (lookup_of_countP honce).1.symm

end members

/-- One change of what a structure with these fields is read from. -/
inductive RecordStep (fields : List (Field ν α)) : Document ν → Document ν → Prop
  | order {members members' : List (String × Document ν)} (h : members.Perm members') :
      RecordStep fields (record members) (record members')
  | unknown {front back : List (String × Document ν)} {name : String} {content : Document ν}
      (hname : name ∉ fields.map Field.name) :
      RecordStep fields (record (front ++ back)) (record (front ++ (name, content) :: back))
  | ignored {front back : List (String × Document ν)} {name : String}
      {content content' : Document ν} (hname : name ∉ fields.map Field.name) :
      RecordStep fields (record (front ++ (name, content) :: back))
        (record (front ++ (name, content') :: back))
  | dropNull {front back : List (String × Document ν)} {field : Field ν α} (hfield : field ∈ fields)
      (hoptional : field.isOptional = true) :
      RecordStep fields (record (front ++ (field.name, null) :: back)) (record (front ++ back))
  | addNull {front back : List (String × Document ν)} {field : Field ν α} (hfield : field ∈ fields)
      (hoptional : field.isOptional = true)
      (hmissing : field.name ∉ (front ++ back).map Prod.fst) :
      RecordStep fields (record (front ++ back)) (record (front ++ (field.name, null) :: back))
  | inside {front back : List (String × Document ν)} {field : Field ν α}
      {content content' : Document ν} (hfield : field ∈ fields)
      (h : field.Step content content') :
      RecordStep fields (record (front ++ (field.name, content) :: back))
        (record (front ++ (field.name, content') :: back))
  | position {left right : List (Field ν α)} {front back : List (Document ν)} {field : Field ν α}
      {content content' : Document ν} (hfields : fields = left ++ field :: right)
      (hposition : left.length = front.length) (h : field.Step content content') :
      RecordStep fields (list (front ++ content :: back)) (list (front ++ content' :: back))

/-- One field that may not be left out is lost, in this structure or in a part of it. -/
inductive RecordLoss (fields : List (Field ν α)) : Document ν → Document ν → Prop
  | field {front back : List (String × Document ν)} {field : Field ν α} {content : Document ν}
      (hfield : field ∈ fields) (hrequired : field.isOptional = false) :
      RecordLoss fields (record (front ++ (field.name, content) :: back)) (record (front ++ back))
  | inside {front back : List (String × Document ν)} {field : Field ν α}
      {content content' : Document ν} (hfield : field ∈ fields)
      (h : field.Loss content content') :
      RecordLoss fields (record (front ++ (field.name, content) :: back))
        (record (front ++ (field.name, content') :: back))
  | position {left right : List (Field ν α)} {front back : List (Document ν)} {field : Field ν α}
      {content content' : Document ν} (hfields : fields = left ++ field :: right)
      (hposition : left.length = front.length) (h : field.Loss content content') :
      RecordLoss fields (list (front ++ content :: back)) (list (front ++ content' :: back))

/-- The reader of a structure reads its members and nothing else. -/
structure ReadsFields (fields : List (Field ν α)) (read : Document ν → Option α) : Prop where
  nodup : (fields.map Field.name).Nodup
  read_iff : ∀ document value, read document = some value ↔
    ∃ members, document.members? (fields.map Field.name) = some members ∧
      List.Forall₂ (fun field member => field.Says member value) fields members

theorem length_of_members? {names : List String} {document : Document ν}
    {members : List (Option (Document ν))} (h : document.members? names = some members) :
    members.length = names.length := by
  cases document with
  | record fields =>
    rw [members?] at h
    split at h
    · obtain rfl := Option.some.inj h
      exact List.length_map _
    · cases h
  | list items =>
    rw [members?] at h
    split at h
    · next hlength =>
      obtain rfl := Option.some.inj h
      rwa [List.length_map]
    · cases h
  | _ => cases h

section structured

variable {fields : List (Field ν α)} {read : Document ν → Option α} {value : α}

theorem ReadsFields.intro {names : List String} (hnames : fields.map Field.name = names)
    (hnodup : names.Nodup)
    (hnone : ∀ document, document.members? names = none → read document = none)
    (hsome : ∀ document members value, document.members? names = some members →
      members.length = names.length → (read document = some value ↔
        List.Forall₂ (fun field member => field.Says member value) fields members)) :
    ReadsFields fields read where
  nodup := hnames ▸ hnodup
  read_iff document value := by
    rw [hnames]
    cases hmembers : document.members? names with
    | none => simp [hnone document hmembers]
    | some members => simp [hsome document members value hmembers (length_of_members? hmembers)]

theorem ReadsFields.read_record_iff (h : ReadsFields fields read)
    {members : List (String × Document ν)} : read (record members) = some value ↔
      ∀ field ∈ fields, members.countP (·.1 == field.name) ≤ 1 ∧
        field.Says (members.lookup field.name) value := by
  have hstated : List.Forall₂ (fun field member => field.Says member value) fields
      ((fields.map Field.name).map fun name => members.lookup name) ↔
        ∀ field ∈ fields, field.Says (members.lookup field.name) value := by
    rw [List.map_map, List.forall₂_map_right_iff, List.forall₂_same]
    rfl
  rw [h.read_iff, members?]
  split
  · next honce =>
    have hcount : ∀ field ∈ fields, members.countP (·.1 == field.name) ≤ 1 := by
      simpa using honce
    constructor
    · rintro ⟨_, hmembers, hforall⟩ field hfield
      obtain rfl := Option.some.inj hmembers
      exact ⟨hcount field hfield, hstated.mp hforall field hfield⟩
    · intro hboth
      exact ⟨_, rfl, hstated.mpr fun field hfield => (hboth field hfield).2⟩
  · next honce =>
    constructor
    · rintro ⟨_, hmembers, -⟩
      cases hmembers
    · intro hboth
      refine absurd ?_ honce
      simpa using fun field hfield => (hboth field hfield).1

theorem ReadsFields.read_list_iff (h : ReadsFields fields read) {items : List (Document ν)} :
    read (list items) = some value ↔
      List.Forall₂ (fun field item => field.Says (some item) value) fields items := by
  rw [h.read_iff, members?, List.length_map]
  constructor
  · rintro ⟨members, hmembers, hforall⟩
    split at hmembers
    · obtain rfl := Option.some.inj hmembers
      exact List.forall₂_map_right_iff.mp hforall
    · cases hmembers
  · intro hforall
    exact ⟨_, if_pos hforall.length_eq.symm, List.forall₂_map_right_iff.mpr hforall⟩

theorem forall₂_at {R : Field ν α → Document ν → Prop} {left right : List (Field ν α)}
    {front back : List (Document ν)} {field : Field ν α} {content : Document ν}
    (hposition : left.length = front.length) :
    List.Forall₂ R (left ++ field :: right) (front ++ content :: back) ↔
      List.Forall₂ R left front ∧ R field content ∧ List.Forall₂ R right back := by
  induction left generalizing front with
  | nil =>
    obtain rfl := List.length_eq_zero_iff.mp hposition.symm
    simp
  | cons first left ih =>
    cases front with
    | nil => cases hposition
    | cons item front =>
      rw [List.cons_append, List.cons_append, List.forall₂_cons, List.forall₂_cons,
        ih (Nat.succ.inj hposition), and_assoc]

theorem ReadsFields.eq_of_name_eq (h : ReadsFields fields read) {field other : Field ν α}
    (hfield : field ∈ fields) (hother : other ∈ fields) (hname : field.name = other.name) :
    field = other :=
  List.inj_on_of_nodup_map h.nodup hfield hother hname

/-- A structure is read alike with a member put in, changed or left out, if the field of that member
says the same and there is still no second one. -/
theorem ReadsFields.read_record_of_members (h : ReadsFields fields read)
    {members members' : List (String × Document ν)} {field : Field ν α} (hfield : field ∈ fields)
    (hread : read (record members) = some value)
    (hothers : ∀ name, name ≠ field.name →
      members'.countP (·.1 == name) = members.countP (·.1 == name) ∧
        members'.lookup name = members.lookup name)
    (honce : members'.countP (·.1 == field.name) ≤ 1)
    (hstated : field.Says (members.lookup field.name) value →
      field.Says (members'.lookup field.name) value) :
    read (record members') = some value := by
  rw [h.read_record_iff] at hread ⊢
  intro other hother
  obtain ⟨hcount, hvalue⟩ := hread other hother
  by_cases hname : other.name = field.name
  · obtain rfl := h.eq_of_name_eq hother hfield hname
    exact ⟨honce, hstated hvalue⟩
  · obtain ⟨hcount', hlookup'⟩ := hothers other.name hname
    rw [hcount', hlookup']
    exact ⟨hcount, hvalue⟩

/-- No change is noticed. -/
theorem ReadsFields.read_of_step (h : ReadsFields fields read) {document document' : Document ν}
    (hstep : RecordStep fields document document') (hread : read document = some value) :
    read document' = some value := by
  cases hstep with
  | @order members members' hperm =>
    rw [h.read_record_iff] at hread ⊢
    intro field hfield
    obtain ⟨honce, hstated⟩ := hread field hfield
    rw [← hperm.countP_eq, ← lookup_of_perm hperm honce]
    exact ⟨honce, hstated⟩
  | @unknown front back name content hname =>
    rw [h.read_record_iff] at hread ⊢
    intro field hfield
    have hne : field.name ≠ name := fun heq => hname (List.mem_map.mpr ⟨field, hfield, heq⟩)
    rw [countP_of_ne hne, lookup_of_ne hne]
    exact hread field hfield
  | @ignored front back name content content' hname =>
    rw [h.read_record_iff] at hread ⊢
    intro field hfield
    have hne : field.name ≠ name := fun heq => hname (List.mem_map.mpr ⟨field, hfield, heq⟩)
    rw [countP_of_ne hne, lookup_of_ne hne, ← countP_of_ne hne, ← lookup_of_ne hne]
    exact hread field hfield
  | @dropNull front back field hfield hoptional =>
    have honce := (h.read_record_iff.mp hread field hfield).1
    obtain ⟨hnull, hnone⟩ := lookup_of_countP honce
    refine h.read_record_of_members hfield hread ?_ ?_ ?_
    · intro name hne
      exact ⟨(countP_of_ne hne).symm, (lookup_of_ne hne).symm⟩
    · rw [countP_middle, if_pos rfl] at honce
      omega
    · rw [hnull, hnone]
      exact (Field.says_null_iff hoptional).mp
  | @addNull front back field hfield hoptional hmissing =>
    have hzero : (front ++ back).countP (·.1 == field.name) = 0 := by
      refine List.countP_eq_zero.mpr fun member hmem hname => hmissing ?_
      exact List.mem_map.mpr ⟨member, hmem, beq_iff_eq.mp hname⟩
    have honce : (front ++ (field.name, null) :: back).countP (·.1 == field.name) ≤ 1 := by
      rw [countP_middle, if_pos rfl, hzero]
    obtain ⟨hnull, hnone⟩ := lookup_of_countP honce
    refine h.read_record_of_members hfield hread ?_ honce ?_
    · intro name hne
      exact ⟨countP_of_ne hne, lookup_of_ne hne⟩
    · rw [hnull, hnone]
      exact (Field.says_null_iff hoptional).mpr
  | @inside front back field content content' hfield hinner =>
    have honce := (h.read_record_iff.mp hread field hfield).1
    have honce' : (front ++ (field.name, content') :: back).countP (·.1 == field.name) ≤ 1 := by
      rwa [countP_middle] at honce ⊢
    refine h.read_record_of_members hfield hread ?_ honce' ?_
    · intro name hne
      rw [countP_of_ne hne, countP_of_ne hne, lookup_of_ne hne, lookup_of_ne hne]
      exact ⟨rfl, rfl⟩
    · rw [(lookup_of_countP honce).1, (lookup_of_countP honce').1]
      exact Field.says_of_step hinner
  | @position left right front back field content content' hfields hposition hinner =>
    rw [h.read_list_iff] at hread ⊢
    subst hfields
    obtain ⟨hleft, hstated, hright⟩ := (forall₂_at hposition).mp hread
    exact (forall₂_at hposition).mpr ⟨hleft, Field.says_of_step hinner hstated, hright⟩

/-- No loss is overlooked. -/
theorem ReadsFields.read_of_loss (h : ReadsFields fields read) {document document' : Document ν}
    (hloss : RecordLoss fields document document') (hread : read document = some value) :
    read document' = none := by
  rw [Option.eq_none_iff_forall_ne_some]
  intro other hother
  cases hloss with
  | @field front back field content hfield hrequired =>
    have honce := (h.read_record_iff.mp hread field hfield).1
    have hstated := (h.read_record_iff.mp hother field hfield).2
    rw [(lookup_of_countP honce).2] at hstated
    exact Field.not_says_none hrequired hstated
  | @inside front back field content content' hfield hinner =>
    obtain ⟨honce, hstated⟩ := h.read_record_iff.mp hread field hfield
    obtain ⟨honce', hstated'⟩ := h.read_record_iff.mp hother field hfield
    rw [(lookup_of_countP honce).1] at hstated
    rw [(lookup_of_countP honce').1] at hstated'
    exact Field.not_says_of_loss hinner hstated hstated'
  | @position left right front back field content content' hfields hposition hinner =>
    rw [h.read_list_iff] at hread hother
    subst hfields
    obtain ⟨-, hstated, -⟩ := (forall₂_at hposition).mp hread
    obtain ⟨-, hstated', -⟩ := (forall₂_at hposition).mp hother
    exact Field.not_says_of_loss hinner hstated hstated'

end structured

/-- A structure with fields. -/
def Format.structured (read : Document ν → Option α) (fields : List (Field ν α))
    (h : ReadsFields fields read) : Format ν α where
  read := read
  Step := RecordStep fields
  Loss := RecordLoss fields
  read_of_step := h.read_of_step
  read_of_loss := h.read_of_loss
  ne_null hchange := by
    cases hchange with
    | inl hstep => cases hstep <;> simp
    | inr hloss => cases hloss <;> simp

end TagGraph.Document
