import TagGraph.Proofs.ProgramRecognition

/-!
Where declarations begin. The keywords `CONCEPT`, `WHERE` and `WORLD` stand at the head of a
declaration and nowhere else in one, so a program has one of them for each of its declarations. A
declaration is over where the next one is opened, whatever might go on with it.
-/

namespace TagGraph

def Keyword.opensDeclaration (word : Keyword) : Bool :=
  word == .CONCEPT || word == .WHERE || word == .WORLD

/-- One of the keywords that open declarations. -/
def Token.opensDeclaration (token : Token) : Bool :=
  token.isKeyword .CONCEPT || token.isKeyword .WHERE || token.isKeyword .WORLD

/-- The keyword that opens the declaration. -/
def Declaration.keyword : Declaration → Keyword
  | concept _ => .CONCEPT
  | actuator _ => .WHERE
  | world _ => .WORLD

theorem Declaration.opensDeclaration_keyword (declaration : Declaration) :
    declaration.keyword.opensDeclaration = true := by
  cases declaration <;> rfl

namespace Token

variable {token : Token}

theorem opensDeclaration_of_isKeyword {word : Keyword} (h : token.isKeyword word = true) :
    token.opensDeclaration = word.opensDeclaration := by
  simp only [opensDeclaration, isKeyword_of_isKeyword h]
  cases word <;> rfl

theorem opensDeclaration_head? {word : Keyword} (h : token.isKeyword word = true)
    (hword : word.opensDeclaration = true) (rest : List Token) :
    ∀ first ∈ (token :: rest).head?, first.opensDeclaration = true := by
  rintro _ ⟨⟩
  rw [opensDeclaration_of_isKeyword h, hword]

theorem opensDeclaration_of_identifier (h : token.kind = .identifier) :
    token.opensDeclaration = false := by
  simp [opensDeclaration, isKeyword_of_identifier h]

theorem opensDeclaration_of_isOperator {symbol : Char} (h : token.isOperator symbol = true) :
    token.opensDeclaration = false := by
  simp [opensDeclaration, isKeyword_of_isOperator h]

end Token

/-- None of the tokens opens a declaration. -/
def OpensNone (tokens : List Token) : Prop := ∀ token ∈ tokens, token.opensDeclaration = false

@[simp]
theorem opensNone_nil : OpensNone [] := List.forall_mem_nil _

@[simp]
theorem opensNone_cons {token : Token} {rest : List Token} :
    OpensNone (token :: rest) ↔ token.opensDeclaration = false ∧ OpensNone rest :=
  List.forall_mem_cons

@[simp]
theorem opensNone_append {front back : List Token} :
    OpensNone (front ++ back) ↔ OpensNone front ∧ OpensNone back :=
  List.forall_mem_append

/-- No declaration is opened inside a phrase. -/
def Phrase.Inner {α : Type} (phrase : Phrase α) : Prop :=
  ∀ ⦃tokens value⦄, phrase tokens value → OpensNone tokens

section combinators

variable {α : Type} {item : Phrase α}

theorem RepeatPhrase.inner (hitem : item.Inner) : (RepeatPhrase item).Inner := by
  intro tokens values h
  induction h with
  | nil => exact opensNone_nil
  | cons hfirst _ ih => exact opensNone_append.mpr ⟨hitem hfirst, ih⟩

theorem ListPhrase.inner {separates : Token → Bool} (hitem : item.Inner)
    (hseparator : ∀ token, separates token = true → token.opensDeclaration = false) :
    (ListPhrase separates item).Inner := by
  intro tokens values h
  induction h with
  | one hfirst => exact hitem hfirst
  | cons hfirst hseparates _ ih =>
    exact opensNone_append.mpr ⟨hitem hfirst, opensNone_cons.mpr ⟨hseparator _ hseparates, ih⟩⟩

theorem OptionPhrase.inner {opens : Token → Bool} (hitem : item.Inner)
    (hopens : ∀ token, opens token = true → token.opensDeclaration = false) :
    (OptionPhrase opens item).Inner := by
  intro tokens value h
  cases h with
  | none => exact opensNone_nil
  | some hfirst hrest => exact opensNone_cons.mpr ⟨hopens _ hfirst, hitem hrest⟩

end combinators

theorem FlagPhrase.inner {word : Keyword} (hword : word.opensDeclaration = false) :
    (FlagPhrase word).Inner := by
  intro tokens value h
  cases h with
  | absent => exact opensNone_nil
  | present hkey => simp [Token.opensDeclaration_of_isKeyword hkey, hword]

section phrases

open Token

theorem NamePhrase.inner : NamePhrase.Inner := by
  intro tokens name h
  cases h with
  | intro hname => simp [opensDeclaration_of_identifier hname]

theorem NamesPhrase.inner : NamesPhrase.Inner :=
  ListPhrase.inner NamePhrase.inner fun _ => opensDeclaration_of_isOperator

theorem SlotPhrase.inner : SlotPhrase.Inner :=
  OptionPhrase.inner NamePhrase.inner fun _ => opensDeclaration_of_isOperator

theorem ConceptClausePhrase.inner : ConceptClausePhrase.Inner := by
  intro tokens clause h
  cases h with
  | tags hkey hnames =>
    exact opensNone_cons.mpr ⟨opensDeclaration_of_isKeyword hkey, NamesPhrase.inner hnames⟩
  | slots hkey hnames =>
    exact opensNone_cons.mpr ⟨opensDeclaration_of_isKeyword hkey, NamesPhrase.inner hnames⟩

theorem TagPredicatePhrase.inner : TagPredicatePhrase.Inner := by
  intro tokens condition h
  cases h with
  | tag hnot htag =>
    exact opensNone_append.mpr ⟨FlagPhrase.inner rfl hnot, NamePhrase.inner (.intro htag)⟩
  | slot hnot hslot hdot htag =>
    refine opensNone_append.mpr ⟨FlagPhrase.inner rfl hnot, ?_⟩
    simp [opensDeclaration_of_identifier, opensDeclaration_of_isOperator hdot, hslot, htag]

theorem ConditionsPhrase.inner {wildcards : List Keyword}
    (hwildcards : ∀ word ∈ wildcards, word.opensDeclaration = false) :
    (ConditionsPhrase wildcards).Inner := by
  intro tokens conditions h
  cases h with
  | wildcard hword htoken =>
    simp [opensDeclaration_of_isKeyword htoken, hwildcards _ hword]
  | joined hitems =>
    exact ListPhrase.inner TagPredicatePhrase.inner
      (fun _ hjoins => opensDeclaration_of_isKeyword hjoins) hitems

theorem ContextWord.not_opensDeclaration {token : Token} {context : Context}
    (h : ContextWord token context) : token.opensDeclaration = false := by
  cases h with
  | this hkey => exact opensDeclaration_of_isKeyword hkey
  | root hkey => exact opensDeclaration_of_isKeyword hkey
  | other hkey => exact opensDeclaration_of_isKeyword hkey

theorem AddressPhrase.inner {implied : Context} : (AddressPhrase implied).Inner := by
  intro tokens address h
  cases h with
  | context hcontext hslot =>
    exact opensNone_cons.mpr ⟨hcontext.not_opensDeclaration, SlotPhrase.inner hslot⟩
  | bare hname => exact NamePhrase.inner (.intro hname)

theorem SubjectPhrase.inner : SubjectPhrase.Inner := by
  intro tokens address h
  cases h with
  | absent => exact opensNone_nil
  | bare hkey => exact opensNone_cons.mpr ⟨opensDeclaration_of_isKeyword hkey, opensNone_nil⟩
  | address hkey haddress =>
    exact opensNone_cons.mpr ⟨opensDeclaration_of_isKeyword hkey, AddressPhrase.inner haddress⟩

theorem ChangePhrase.inner {subject : Address} : (ChangePhrase subject).Inner := by
  intro tokens action h
  cases h with
  | set hkey hnames =>
    exact opensNone_cons.mpr ⟨opensDeclaration_of_isKeyword hkey, NamesPhrase.inner hnames⟩
  | unset hkey hnames =>
    exact opensNone_cons.mpr ⟨opensDeclaration_of_isKeyword hkey, NamesPhrase.inner hnames⟩
  | bind hkey hslot hto htarget =>
    refine opensNone_cons.mpr ⟨opensDeclaration_of_isKeyword hkey, ?_⟩
    refine opensNone_cons.mpr ⟨opensDeclaration_of_identifier hslot, ?_⟩
    exact opensNone_cons.mpr ⟨opensDeclaration_of_isKeyword hto, AddressPhrase.inner htarget⟩

theorem ActionPhrase.inner : ActionPhrase.Inner := by
  intro tokens action h
  cases h with
  | nothing hkey => exact opensNone_cons.mpr ⟨opensDeclaration_of_isKeyword hkey, opensNone_nil⟩
  | change hsubject hchange =>
    exact opensNone_append.mpr ⟨SubjectPhrase.inner hsubject, ChangePhrase.inner hchange⟩

theorem WorldObjectPhrase.inner : WorldObjectPhrase.Inner := by
  intro tokens object h
  cases h with
  | intro hconcept hname =>
    refine opensNone_cons.mpr ⟨opensDeclaration_of_identifier hconcept, ?_⟩
    exact OptionPhrase.inner NamePhrase.inner
      (fun _ hkey => opensDeclaration_of_isKeyword hkey) hname

theorem SlotPathPhrase.inner : SlotPathPhrase.Inner := by
  intro tokens path h
  cases h with
  | intro hobject hdot hslot =>
    simp [opensDeclaration_of_identifier, opensDeclaration_of_isOperator hdot, hobject, hslot]

theorem BindingPhrase.inner : BindingPhrase.Inner := by
  intro tokens binding h
  cases h with
  | intro hsource hto htarget =>
    refine opensNone_append.mpr ⟨SlotPathPhrase.inner hsource, ?_⟩
    exact opensNone_cons.mpr ⟨opensDeclaration_of_isKeyword hto, SlotPathPhrase.inner htarget⟩

theorem WorldClausePhrase.inner : WorldClausePhrase.Inner := by
  intro tokens clause h
  cases h with
  | root hkey hname =>
    exact opensNone_cons.mpr ⟨opensDeclaration_of_isKeyword hkey, NamePhrase.inner (.intro hname)⟩
  | objects hkey hitems =>
    exact opensNone_cons.mpr ⟨opensDeclaration_of_isKeyword hkey,
      ListPhrase.inner WorldObjectPhrase.inner (fun _ => opensDeclaration_of_isOperator) hitems⟩
  | bindings hkey hitems =>
    exact opensNone_cons.mpr ⟨opensDeclaration_of_isKeyword hkey,
      ListPhrase.inner BindingPhrase.inner (fun _ => opensDeclaration_of_isOperator) hitems⟩

end phrases

/-- A declaration is opened by its keyword, and no other one is opened inside it. -/
theorem DeclarationPhrase.exists_key {tokens : List Token} {declaration : Declaration}
    (h : DeclarationPhrase tokens declaration) : ∃ key rest, tokens = key :: rest ∧
      key.isKeyword declaration.keyword = true ∧ OpensNone rest := by
  cases h with
  | concept hconcept =>
    cases hconcept with
    | intro hkey hname hclauses _ _ =>
      refine ⟨_, _, rfl, hkey, opensNone_cons.mpr ⟨?_, ?_⟩⟩
      · exact Token.opensDeclaration_of_identifier hname
      · exact RepeatPhrase.inner ConceptClausePhrase.inner hclauses
  | actuator hactuator =>
    cases hactuator with
    | intro hkey hroot hconditions hon hdo hactions _ =>
      refine ⟨_, _, rfl, hkey, ?_⟩
      simp only [opensNone_append, opensNone_cons]
      refine ⟨FlagPhrase.inner rfl hroot, ConditionsPhrase.inner (by decide) hconditions, ?_,
        Token.opensDeclaration_of_isKeyword hdo, RepeatPhrase.inner ActionPhrase.inner hactions⟩
      exact OptionPhrase.inner (ConditionsPhrase.inner (by decide))
        (fun _ hkey => Token.opensDeclaration_of_isKeyword hkey) hon
  | world hworld =>
    cases hworld with
    | intro hkey hname hclauses _ _ =>
      refine ⟨_, _, rfl, hkey, opensNone_cons.mpr ⟨?_, ?_⟩⟩
      · exact Token.opensDeclaration_of_identifier hname
      · exact RepeatPhrase.inner WorldClausePhrase.inner hclauses

namespace Declaration

theorem isSome_opened? (token : Token) : (opened? token).isSome = token.opensDeclaration := by
  unfold opened? Token.opensDeclaration
  split
  · simp [*]
  split
  · simp [*]
  split <;> simp [*]

/-- A declaration does not go on where another one is opened. -/
theorem ends_of_opensDeclaration {rest : List Token}
    (h : ∀ token ∈ rest.head?, token.opensDeclaration = true) : Ends Continues rest := by
  intro token hmem hcontinues
  have hopens := h token hmem
  rw [← isSome_opened?, opened?_of_continues hcontinues] at hopens
  cases hopens

end Declaration

/-- The first token of declarations opens one. -/
theorem opensDeclaration_head {tokens : List Token} {declarations : List Declaration}
    (h : RepeatPhrase DeclarationPhrase tokens declarations) :
    ∀ token ∈ tokens.head?, token.opensDeclaration = true := by
  cases h with
  | nil => nofun
  | @cons front back declaration others hitem _ =>
    obtain ⟨key, rest, rfl, hkey, -⟩ := hitem.exists_key
    exact Token.opensDeclaration_head? hkey declaration.opensDeclaration_keyword _

/-- Where a declaration is opened among the tokens of declarations, one begins. -/
theorem exists_split_of_opens {front back : List Token} {declarations : List Declaration}
    (h : RepeatPhrase DeclarationPhrase (front ++ back) declarations)
    (hopens : ∀ token ∈ back.head?, token.opensDeclaration = true) :
    ∃ left right, declarations = left ++ right ∧ RepeatPhrase DeclarationPhrase front left ∧
      RepeatPhrase DeclarationPhrase back right := by
  generalize hall : front ++ back = all at h
  induction h generalizing front with
  | nil =>
    obtain ⟨rfl, rfl⟩ := List.append_eq_nil_iff.mp hall
    exact ⟨[], [], rfl, .nil, .nil⟩
  | @cons first others declaration declarations hitem hothers ih =>
    cases front with
    | nil =>
      rw [List.nil_append] at hall
      exact ⟨[], declaration :: declarations, rfl, .nil, hall ▸ .cons hitem hothers⟩
    | cons token front =>
      obtain ⟨key, rest, rfl, -, hrest⟩ := hitem.exists_key
      obtain ⟨rfl, hrests⟩ := List.cons.inj hall
      rcases List.append_eq_append_iff.mp hrests with ⟨more, rfl, hback⟩ | ⟨more, rfl, hback⟩
      · -- No declaration is opened inside one, so the first one ends where the split is.
        obtain rfl : more = [] := by
          cases more with
          | nil => rfl
          | cons inner more =>
            have hinner := hopens inner (by rw [hback]; rfl)
            rw [hrest inner (by simp)] at hinner
            cases hinner
        rw [List.append_nil] at hitem
        rw [List.nil_append] at hback
        exact ⟨[declaration], declarations, rfl, .one hitem, hback ▸ hothers⟩
      · obtain ⟨left, right, rfl, hleft, hright⟩ := ih hback.symm
        exact ⟨declaration :: left, right, rfl, .cons hitem hleft, hright⟩

/-- Each keyword that opens declarations stands as often as declarations of its sort do. -/
theorem countP_isKeyword {tokens : List Token} {declarations : List Declaration}
    (h : RepeatPhrase DeclarationPhrase tokens declarations) {word : Keyword}
    (hword : word.opensDeclaration = true) : tokens.countP (·.isKeyword word) =
      declarations.countP (·.keyword == word) := by
  induction h with
  | nil => rfl
  | @cons front back declaration others hitem _ ih =>
    obtain ⟨key, rest, rfl, hkey, hrest⟩ := hitem.exists_key
    have hnone : rest.countP (·.isKeyword word) = 0 := by
      refine List.countP_eq_zero.mpr fun token hmem hisword => ?_
      have hopens := hrest token hmem
      rw [Token.opensDeclaration_of_isKeyword hisword, hword] at hopens
      cases hopens
    have hsame : key.isKeyword word = (declaration.keyword == word) := by
      rw [Token.isKeyword_of_isKeyword hkey, Bool.eq_iff_iff, decide_eq_true_iff, beq_iff_eq]
      exact eq_comm
    rw [List.countP_append, List.countP_cons, List.countP_cons, hnone, ih, hsame]
    omega

end TagGraph
