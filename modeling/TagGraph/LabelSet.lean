import TagGraph.QuotedText

/-!
Sets of labels. A set is kept as the strictly increasing list of its members, in the order of their
code points, so two sets with the same members are the same set however they came about. Sets are
values: an operation leaves its arguments as they were.
-/

namespace TagGraph

structure LabelSet where
  labels : List String
  increasing : labels.Pairwise (· < ·)
deriving DecidableEq

namespace LabelSet

def insertSorted (label : String) : List String → List String
  | [] => [label]
  | head :: rest =>
    if label < head then label :: head :: rest
    else if label = head then head :: rest
    else head :: insertSorted label rest

theorem mem_insertSorted {label other : String} {labels : List String} :
    other ∈ insertSorted label labels ↔ other = label ∨ other ∈ labels := by
  induction labels with
  | nil => simp [insertSorted]
  | cons head rest ih =>
    simp only [insertSorted]
    split
    · simp
    · split
      · next heq => simp [heq]
      · simp [ih, or_left_comm]

theorem lt_of_not_lt_of_ne {left right : String} (hlt : ¬left < right) (hne : left ≠ right) :
    right < left := by
  rcases String.le_total left right with hle | hle
  · exact absurd (String.le_antisymm hle (String.not_lt.mp hlt)) hne
  · exact String.not_le.mp fun hge => hne (String.le_antisymm hge (String.not_lt.mp hlt))

theorem insertSorted_increasing (label : String) {labels : List String}
    (h : labels.Pairwise (· < ·)) : (insertSorted label labels).Pairwise (· < ·) := by
  induction labels with
  | nil => simp [insertSorted]
  | cons head rest ih =>
    have hhead := List.pairwise_cons.mp h
    simp only [insertSorted]
    split
    · next hlt =>
      refine List.pairwise_cons.mpr ⟨fun other hmem => ?_, h⟩
      rcases List.mem_cons.mp hmem with rfl | hmem
      · exact hlt
      · exact String.lt_trans hlt (hhead.1 other hmem)
    · next hnlt =>
      split
      · exact h
      · next hne =>
        refine List.pairwise_cons.mpr ⟨fun other hmem => ?_, ih hhead.2⟩
        rcases mem_insertSorted.mp hmem with rfl | hmem
        · exact lt_of_not_lt_of_ne hnlt hne
        · exact hhead.1 other hmem

def empty : LabelSet := ⟨[], List.Pairwise.nil⟩

instance : Inhabited LabelSet := ⟨empty⟩

def insert (set : LabelSet) (label : String) : LabelSet :=
  ⟨insertSorted label set.labels, insertSorted_increasing label set.increasing⟩

def erase (set : LabelSet) (label : String) : LabelSet :=
  ⟨set.labels.filter (· != label), set.increasing.filter _⟩

def union (left right : LabelSet) : LabelSet := right.labels.foldl insert left

def ofList (labels : List String) : LabelSet := labels.foldl insert empty

def toList (set : LabelSet) : List String := set.labels

def size (set : LabelSet) : Nat := set.labels.length

def isEmpty (set : LabelSet) : Bool := set.labels.isEmpty

def contains (set : LabelSet) (label : String) : Bool := set.labels.contains label

instance : Membership String LabelSet := ⟨fun set label => label ∈ set.labels⟩

/-- Lexicographic in the increasing lists of members. -/
def order (left right : LabelSet) : Ordering := compare left.labels right.labels

/-- The members in quotes, between braces. -/
def render (set : LabelSet) : String :=
  "\x7b" ++ String.intercalate ", " (set.labels.map QuotedText.quote) ++ "\x7d"

/-- The members in quotes, one on a line of its own; the empty set still takes one line. -/
def renderLines (set : LabelSet) : String :=
  if set.isEmpty then "\x7b\x7d"
  else "\x7b\n" ++ String.join (set.labels.map fun label =>
    "    " ++ QuotedText.quote label ++ ",\n") ++ "\x7d"

theorem mem_def {label : String} {set : LabelSet} : label ∈ set ↔ label ∈ set.labels := Iff.rfl

theorem contains_iff {label : String} {set : LabelSet} :
    set.contains label = true ↔ label ∈ set := by
  simp [contains, mem_def]

theorem not_mem_empty (label : String) : ¬label ∈ empty := by
  simp [mem_def, empty]

theorem mem_insert {label other : String} {set : LabelSet} :
    other ∈ set.insert label ↔ other = label ∨ other ∈ set :=
  mem_insertSorted

theorem mem_erase {label other : String} {set : LabelSet} :
    other ∈ set.erase label ↔ other ∈ set ∧ other ≠ label := by
  simp [mem_def, erase]

theorem mem_foldl_insert {labels : List String} {set : LabelSet} {label : String} :
    label ∈ labels.foldl insert set ↔ label ∈ set ∨ label ∈ labels := by
  induction labels generalizing set with
  | nil => simp
  | cons head rest ih => simp [ih, mem_insert, or_left_comm, or_assoc]

theorem mem_union {label : String} {left right : LabelSet} :
    label ∈ left.union right ↔ label ∈ left ∨ label ∈ right :=
  mem_foldl_insert

theorem mem_ofList {label : String} {labels : List String} :
    label ∈ ofList labels ↔ label ∈ labels := by
  simp [ofList, mem_foldl_insert, not_mem_empty]

end LabelSet

end TagGraph
