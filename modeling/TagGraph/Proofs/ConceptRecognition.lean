import TagGraph.Proofs.Recognition

/-!
The reader of concepts recognizes concept phrases. After a name of a list only a comma goes on with
the list, and after a clause only the keyword of another one goes on with the concept.
-/

namespace TagGraph

namespace LabelSet

/-- Sets with the same members are the same set, since a set lists its members in order. -/
theorem eq_of_mem_iff {left right : LabelSet} (h : ∀ label, label ∈ left ↔ label ∈ right) :
    left = right := by
  obtain ⟨labels, hlabels⟩ := left
  obtain ⟨labels', hlabels'⟩ := right
  have hperm : labels.Perm labels' :=
    (List.perm_ext_iff_of_nodup (hlabels.imp String.ne_of_lt)
      (hlabels'.imp String.ne_of_lt)).mpr h
  have heq : labels = labels' :=
    hperm.eq_of_pairwise (fun left right _ _ hlt hgt => absurd hgt (String.lt_asymm hlt))
      hlabels hlabels'
  subst heq
  rfl

end LabelSet

namespace Concept

theorem mem_ofList_tagNames {label : String} {clauses : List Clause} :
    label ∈ LabelSet.ofList (clauses.flatMap Clause.tagNames) ↔
      ∃ names, .tags names ∈ clauses ∧ label ∈ names := by
  simp only [LabelSet.mem_ofList, List.mem_flatMap]
  constructor
  · intro h
    obtain ⟨clause, hclause, hlabel⟩ := h
    cases clause with
    | tags names => exact ⟨names, hclause, hlabel⟩
    | slots names => simp [Clause.tagNames] at hlabel
  · intro h
    obtain ⟨names, hclause, hlabel⟩ := h
    exact ⟨.tags names, hclause, hlabel⟩

theorem mem_ofList_slotNames {label : String} {clauses : List Clause} :
    label ∈ LabelSet.ofList (clauses.flatMap Clause.slotNames) ↔
      ∃ names, .slots names ∈ clauses ∧ label ∈ names := by
  simp only [LabelSet.mem_ofList, List.mem_flatMap]
  constructor
  · intro h
    obtain ⟨clause, hclause, hlabel⟩ := h
    cases clause with
    | tags names => simp [Clause.slotNames] at hlabel
    | slots names => exact ⟨names, hclause, hlabel⟩
  · intro h
    obtain ⟨names, hclause, hlabel⟩ := h
    exact ⟨.slots names, hclause, hlabel⟩

open TagGraph.Parser

theorem recognizesTable_clause : RecognizesTable Clause.opened? ConceptClausePhrase
    (fun token => token.isOperator ',' = true) where
  items {token item} hitem := by
    unfold Clause.opened? at hitem
    split at hitem
    · next htag =>
      obtain rfl := Option.some.inj hitem
      refine ((recognizes_names .tag).map Clause.tags).congr ?_ fun _ => id
      intro tokens value
      constructor
      · intro h
        obtain ⟨names, hnames, rfl⟩ := h
        exact .tags htag hnames
      · intro h
        rcases h with ⟨-, hnames⟩ | ⟨hslot, -⟩
        · exact ⟨_, hnames, rfl⟩
        · simp [Token.isKeyword_of_isKeyword hslot] at htag
    split at hitem
    · next htag hslot =>
      obtain rfl := Option.some.inj hitem
      refine ((recognizes_names .slot).map Clause.slots).congr ?_ fun _ => id
      intro tokens value
      constructor
      · intro h
        obtain ⟨names, hnames, rfl⟩ := h
        exact .slots hslot hnames
      · intro h
        rcases h with ⟨htag', -⟩ | ⟨-, hnames⟩
        · exact absurd htag' htag
        · exact ⟨_, hnames, rfl⟩
    · cases hitem
  opens hread := by
    cases hread with
    | tags hkey _ => simp [Clause.opened?, hkey]
    | slots hkey _ => simp [Clause.opened?, Token.isKeyword_of_isKeyword hkey]
  nonempty := nofun
  inhabited := by
    obtain ⟨ending, names, hending, hread⟩ := (recognizes_names .tag).inhabited
    refine ⟨Token.ofKeyword .TAG :: ending, .tags names, ?_, .tags (by simp) hread⟩
    simpa [Token.writable_ofKeyword] using hending

theorem phrase_ofClauses {key name : Token} {rest : List Token} {clauses : List Clause}
    (hkey : key.isKeyword .CONCEPT = true) (hname : name.kind = .identifier)
    (hread : RepeatPhrase ConceptClausePhrase rest clauses) :
    ConceptPhrase (key :: name :: rest) (ofClauses name.text clauses) :=
  .intro hkey hname hread (fun _ => mem_ofList_tagNames) (fun _ => mem_ofList_slotNames)

/-- The tokens that go on with a concept: a comma, or the keyword of a clause. -/
def Continues (token : Token) : Prop :=
  token.isOperator ',' = true ∨ (Clause.opened? token).isSome = true

theorem parser_recognizes {key : Token} (hkey : key.isKeyword .CONCEPT = true) :
    Recognizes parser (fun tokens concept => ConceptPhrase (key :: tokens) concept) Continues := by
  have hclauses := recognizesTable_clause.many fun {token} hcomma => by
    simp [Clause.opened?, Token.isKeyword_of_isOperator hcomma]
  have hall := (recognizes_name .concept).bind
    (fun name => hclauses.map (ofClauses name)) (fun _ => id) (fun _ _ => False.elim)
  refine hall.congr ?_ fun _ => id
  intro tokens concept
  constructor
  · intro h
    obtain ⟨front, back, name, rfl, ⟨hname⟩, clauses, hback, rfl⟩ := h
    exact phrase_ofClauses hkey hname hback
  · intro hread
    cases hread with
    | @intro _ name rest clauses tags slots _ hname hrest htags hslots =>
      have htags' : tags = LabelSet.ofList (clauses.flatMap Clause.tagNames) :=
        LabelSet.eq_of_mem_iff fun label => (htags label).trans mem_ofList_tagNames.symm
      have hslots' : slots = LabelSet.ofList (clauses.flatMap Clause.slotNames) :=
        LabelSet.eq_of_mem_iff fun label => (hslots label).trans mem_ofList_slotNames.symm
      refine ⟨[name], rest, name.text, rfl, .intro hname, clauses, hrest, ?_⟩
      rw [htags', hslots']
      rfl

theorem localTable_clause : LocalTable Clause.opened? where
  congr := .intro fun _ _ _ _ => rfl
  items token item hitem := by
    unfold Clause.opened? at hitem
    split at hitem
    · exact Option.some.inj hitem ▸ (local_name .tag).commaSeparated.map _
    split at hitem
    · exact Option.some.inj hitem ▸ (local_name .slot).commaSeparated.map _
    · cases hitem

theorem parser_local : Local parser :=
  (local_name .concept).bind fun _ => localTable_clause.many.bind fun _ => local_pure _

end Concept

end TagGraph
