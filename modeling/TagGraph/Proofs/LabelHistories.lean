import Mathlib.Data.Finset.Card
import TagGraph.Proofs.ByteOrder
import TagGraph.Proofs.ConceptRecognition

/-!
Label sets by their histories. However a set came about, it has the members that the operations say,
each of them once and in the order of their bytes. Nothing else is left of its history: sets with
the same members are the same, and the order of sets is that of their lists of members.
-/

namespace TagGraph.LabelSet

/-- The labels of a set are all different. -/
theorem size_eq_card (set : LabelSet) : set.size = set.toList.toFinset.card :=
  (List.toFinset_card_of_nodup (set.increasing.imp String.ne_of_lt)).symm

/-- How a set came about. -/
inductive History
  | empty
  | insert (earlier : History) (label : String)
  | erase (earlier : History) (label : String)
  | union (left right : History)
  | ofList (labels : List String)

namespace History

def set : History → LabelSet
  | empty => LabelSet.empty
  | insert earlier label => earlier.set.insert label
  | erase earlier label => earlier.set.erase label
  | union left right => left.set.union right.set
  | ofList labels => LabelSet.ofList labels

/-- What the operations mean for sets in general. -/
def members : History → Finset String
  | empty => ∅
  | insert earlier label => Insert.insert label earlier.members
  | erase earlier label => earlier.members.erase label
  | union left right => left.members ∪ right.members
  | ofList labels => labels.toFinset

theorem mem_set_iff {history : History} {label : String} :
    label ∈ history.set ↔ label ∈ history.members := by
  induction history with
  | empty => simp [set, members, not_mem_empty]
  | insert earlier other ih => rw [set, members, mem_insert, Finset.mem_insert, ih]
  | erase earlier other ih => rw [set, members, mem_erase, Finset.mem_erase, ih, and_comm]
  | union left right ihleft ihright =>
    rw [set, members, mem_union, Finset.mem_union, ihleft, ihright]
  | ofList labels => rw [set, members, mem_ofList, List.mem_toFinset]

theorem set_eq_iff {history other : History} :
    history.set = other.set ↔ history.members = other.members := by
  constructor
  · intro h
    ext label
    rw [← mem_set_iff, ← mem_set_iff, h]
  · intro h
    refine eq_of_mem_iff fun label => ?_
    rw [mem_set_iff, mem_set_iff, h]

theorem size_set (history : History) : history.set.size = history.members.card := by
  have hmembers : history.set.toList.toFinset = history.members := by
    ext label
    rw [List.mem_toFinset, ← mem_set_iff]
    rfl
  rw [size_eq_card, hmembers]

end History

theorem pairwise_bytes_lt (set : LabelSet) :
    set.toList.Pairwise fun label other => bytes label < bytes other :=
  set.increasing.imp bytes_lt_iff.mpr

theorem compare_eq_lt_iff {left right : List String} : compare left right = .lt ↔
    List.Lex (fun label other => bytes label < bytes other) left right := by
  induction left generalizing right with
  | nil =>
    cases right with
    | nil => simp
    | cons label right => simp
  | cons label left ih =>
    cases right with
    | nil => simp
    | cons other right =>
      have hlabel : compare label other = .lt ↔ bytes label < bytes other :=
        compareOfLessAndEq_eq_lt.trans bytes_lt_iff.symm
      rw [List.compare_cons_cons, Ordering.then_eq_lt, List.cons_lex_cons_iff, hlabel, ih,
        Std.LawfulEqCmp.compare_eq_iff_eq]

theorem order_eq_iff {left right : LabelSet} : left.order right = .eq ↔ left = right := by
  obtain ⟨labels, hlabels⟩ := left
  obtain ⟨labels', hlabels'⟩ := right
  rw [order, Std.LawfulEqCmp.compare_eq_iff_eq, mk.injEq]

/-- A set lists its members in the order of their bytes, which is that of their code points. It has
the members that its history says, and is the same as any other set that has them. The order of sets
is that of their lists, and it is total: one of two sets is less, unless they are the same. -/
theorem History.set_canonical (history : History) :
    (history.set.toList.Pairwise fun label other => bytes label < bytes other) ∧
    (∀ label other : String, bytes label < bytes other ↔ label.toList < other.toList) ∧
    (∀ label, label ∈ history.set.toList ↔ label ∈ history.members) ∧
    (∀ label, history.set.contains label = true ↔ label ∈ history.members) ∧
    history.set.size = history.members.card ∧
    ∀ other : History, (history.set = other.set ↔ history.members = other.members) ∧
      (history.set.order other.set = .lt ↔
        List.Lex (fun label other => bytes label < bytes other) history.set.toList
          other.set.toList) ∧
      (history.set.order other.set = .eq ↔ history.set = other.set) ∧
      other.set.order history.set = (history.set.order other.set).swap ∧
      ∀ third : History, history.set.order other.set = .lt → other.set.order third.set = .lt →
        history.set.order third.set = .lt := by
  refine ⟨pairwise_bytes_lt _, fun _ _ => bytes_lt_iff, fun _ => mem_set_iff, ?_, size_set history,
    fun other => ⟨set_eq_iff, compare_eq_lt_iff, order_eq_iff, Std.OrientedOrd.eq_swap, ?_⟩⟩
  · intro label
    rw [contains_iff, mem_set_iff]
  · intro third hfirst hsecond
    exact @Std.TransCmp.lt_trans _ compare _ _ _ _ hfirst hsecond

example : ((History.ofList ["z", "é", "z"]).union (.erase (.ofList ["😀", "a"]) "a")).set.toList =
    ["z", "é", "😀"] := by
  decide +kernel

end TagGraph.LabelSet
