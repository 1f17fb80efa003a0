import Mathlib.Data.List.Nodup
import TagGraph.Proofs.Recognition

/-!
The reader of worlds recognizes world phrases. It keeps the keywords of the clauses that it has read
and refuses one that comes again, so the clauses that it takes have distinct keywords, and then what
they say of the world does not depend on their order.
-/

namespace TagGraph

open TagGraph.Parser

namespace World

section clauses

variable {clauses : List Clause}

/-- Where keywords are distinct, all items of a kind come from the one clause of that kind. -/
theorem flatMap_eq_of_mem {γ : Type} {items : Clause → List γ} {clause : Clause}
    (hitems : ∀ other : Clause, other.keyword ≠ clause.keyword → items other = [])
    (hnodup : (clauses.map Clause.keyword).Nodup) (hmem : clause ∈ clauses) :
    clauses.flatMap items = items clause := by
  obtain ⟨front, back, rfl⟩ := List.append_of_mem hmem
  have hdistinct : ∀ other ∈ front ++ back, other.keyword ≠ clause.keyword := by
    intro other hother heq
    simp only [List.map_append, List.map_cons] at hnodup
    have hnot := (List.nodup_cons.mp (List.nodup_middle.mp hnodup)).1
    rw [← List.map_append] at hnot
    exact hnot (heq ▸ List.mem_map_of_mem hother)
  have hnil : ∀ part : List Clause, part ⊆ front ++ back → part.flatMap items = [] := by
    intro part hpart
    exact List.flatMap_eq_nil_iff.mpr fun other hother =>
      hitems other (hdistinct other (hpart hother))
  rw [List.flatMap_append, List.flatMap_cons, hnil front (by simp), hnil back (by simp)]
  simp

theorem flatMap_objectItems_of_mem {items : List WorldObject}
    (hnodup : (clauses.map Clause.keyword).Nodup) (hmem : .objects items ∈ clauses) :
    clauses.flatMap Clause.objectItems = items :=
  flatMap_eq_of_mem
    (fun other h => by cases other <;> simp_all [Clause.keyword, Clause.objectItems]) hnodup hmem

theorem flatMap_bindingItems_of_mem {items : List Binding}
    (hnodup : (clauses.map Clause.keyword).Nodup) (hmem : .bindings items ∈ clauses) :
    clauses.flatMap Clause.bindingItems = items :=
  flatMap_eq_of_mem
    (fun other h => by cases other <;> simp_all [Clause.keyword, Clause.bindingItems]) hnodup hmem

theorem flatMap_objectItems_eq_nil (h : ∀ items, .objects items ∉ clauses) :
    clauses.flatMap Clause.objectItems = [] := by
  refine List.flatMap_eq_nil_iff.mpr fun clause hmem => ?_
  cases clause with
  | objects items => exact absurd hmem (h items)
  | root name => rfl
  | bindings items => rfl

theorem flatMap_bindingItems_eq_nil (h : ∀ items, .bindings items ∉ clauses) :
    clauses.flatMap Clause.bindingItems = [] := by
  refine List.flatMap_eq_nil_iff.mpr fun clause hmem => ?_
  cases clause with
  | bindings items => exact absurd hmem (h items)
  | root name => rfl
  | objects items => rfl

theorem findSome?_rootName_iff (hnodup : (clauses.map Clause.keyword).Nodup) {name : String} :
    clauses.findSome? Clause.rootName? = some name ↔ .root name ∈ clauses := by
  have hsound : ∀ other, clauses.findSome? Clause.rootName? = some other →
      .root other ∈ clauses := by
    intro other hfind
    obtain ⟨clause, hmem, hroot⟩ := List.exists_of_findSome?_eq_some hfind
    cases clause with
    | root found => exact Option.some.inj hroot ▸ hmem
    | objects items => cases hroot
    | bindings items => cases hroot
  constructor
  · exact hsound name
  · intro hmem
    cases hfind : clauses.findSome? Clause.rootName? with
    | none => simpa [Clause.rootName?] using List.findSome?_eq_none_iff.mp hfind _ hmem
    | some other =>
      have heq := List.inj_on_of_nodup_map hnodup (hsound other hfind) hmem rfl
      exact congrArg some (Clause.root.inj heq)

theorem ofClauses_declaredBy (name : String) (hnodup : (clauses.map Clause.keyword).Nodup) :
    (ofClauses name clauses).DeclaredBy clauses where
  once := hnodup
  root _ := findSome?_rootName_iff hnodup
  objects := by
    by_cases h : ∃ items, .objects items ∈ clauses
    · obtain ⟨items, hmem⟩ := h
      exact Or.inl (by rwa [ofClauses, flatMap_objectItems_of_mem hnodup hmem])
    · have hnone : ∀ items, .objects items ∉ clauses := fun items hmem => h ⟨items, hmem⟩
      exact Or.inr ⟨flatMap_objectItems_eq_nil hnone, hnone⟩
  bindings := by
    by_cases h : ∃ items, .bindings items ∈ clauses
    · obtain ⟨items, hmem⟩ := h
      exact Or.inl (by rwa [ofClauses, flatMap_bindingItems_of_mem hnodup hmem])
    · have hnone : ∀ items, .bindings items ∉ clauses := fun items hmem => h ⟨items, hmem⟩
      exact Or.inr ⟨flatMap_bindingItems_eq_nil hnone, hnone⟩

theorem DeclaredBy.eq_ofClauses {world : World} (h : world.DeclaredBy clauses) :
    world = ofClauses world.name clauses := by
  have hroot : world.root = clauses.findSome? Clause.rootName? :=
    Option.ext fun name => (h.root name).trans (findSome?_rootName_iff h.once).symm
  have hobjects : world.objects = clauses.flatMap Clause.objectItems := by
    rcases h.objects with hmem | ⟨hnil, hnone⟩
    · exact (flatMap_objectItems_of_mem h.once hmem).symm
    · rw [hnil, flatMap_objectItems_eq_nil hnone]
  have hbindings : world.bindings = clauses.flatMap Clause.bindingItems := by
    rcases h.bindings with hmem | ⟨hnil, hnone⟩
    · exact (flatMap_bindingItems_of_mem h.once hmem).symm
    · rw [hnil, flatMap_bindingItems_eq_nil hnone]
  rw [ofClauses, ← hroot, ← hobjects, ← hbindings]

end clauses

end World

theorem WorldObject.parser_recognizes : Recognizes WorldObject.parser WorldObjectPhrase
    (fun token => token.isKeyword .AS = true) := by
  have hname : Recognizes (optional fun token =>
      if token.isKeyword .AS then some (Parser.name .objectAlias) else none)
      (OptionPhrase (·.isKeyword .AS) NamePhrase)
      (fun token => Never token ∨ token.isKeyword .AS = true) :=
    (recognizes_name .objectAlias).optional (Token.writable_ofKeyword .AS)
      (Token.isKeyword_ofKeyword .AS)
  have hall := (recognizes_name .concept).bind (fun concept => hname.map (WorldObject.mk concept))
    (fun _ => id) (fun _ _ => False.elim)
  refine hall.congr ?_ ?_
  · intro tokens object
    constructor
    · intro h
      obtain ⟨front, back, concept, rfl, ⟨hconcept⟩, givenName, hback, rfl⟩ := h
      exact .intro hconcept hback
    · intro h
      obtain ⟨hconcept, hback⟩ := h
      exact ⟨_, _, _, rfl, .intro hconcept, _, hback, rfl⟩
  · intro token h
    rcases h with hnever | has
    · exact hnever.elim
    · exact has

theorem SlotPath.parser_recognizes : Recognizes SlotPath.parser SlotPathPhrase Never := by
  have hall := (recognizes_name .objectAlias).bind (fun object => recognizes_dot.bind
    (fun _ => (recognizes_name .slot).map (SlotPath.mk object)) (fun _ => id)
    (fun _ _ => id)) (fun _ => id) (fun _ _ => id)
  refine hall.congr ?_ fun _ => id
  intro tokens path
  constructor
  · intro h
    obtain ⟨front, back, object, rfl, ⟨hobject⟩, front', back', -, rfl, ⟨dot, rfl, hdot, -⟩,
      slot, ⟨hslot⟩, rfl⟩ := h
    exact .intro hobject hdot hslot
  · intro h
    obtain ⟨hobject, hdot, hslot⟩ := h
    exact ⟨[_], _, _, rfl, .intro hobject, [_], _, (), rfl, ⟨_, rfl, hdot, rfl⟩, _,
      .intro hslot, rfl⟩

theorem Binding.parser_recognizes : Recognizes Binding.parser BindingPhrase Never := by
  have hall := SlotPath.parser_recognizes.bind (fun source => (recognizes_keyword .TO).bind
    (fun _ => SlotPath.parser_recognizes.map (Binding.mk source)) (fun _ => id)
    (fun _ _ => id)) (fun _ => id) (fun _ _ => id)
  refine hall.congr ?_ fun _ => id
  intro tokens binding
  constructor
  · intro h
    obtain ⟨front, back, source, rfl, hsource, front', back', -, rfl, ⟨key, rfl, hto, -⟩, target,
      htarget, rfl⟩ := h
    exact .intro hsource hto htarget
  · intro h
    obtain ⟨hsource, hto, htarget⟩ := h
    exact ⟨_, _, _, rfl, hsource, [_], _, (), rfl, ⟨_, rfl, hto, rfl⟩, _, htarget, rfl⟩

namespace World

theorem rootClausePhrase_iff {key : Token} (hkey : key.isKeyword .ROOT = true)
    {tokens : List Token} {clause : Clause} : WorldClausePhrase (key :: tokens) clause ↔
      ∃ name, NamePhrase tokens name ∧ clause = .root name := by
  constructor
  · intro hread
    cases hread with
    | root _ hname => exact ⟨_, .intro hname, rfl⟩
    | objects hkey' _ => simp [Token.isKeyword_of_isKeyword hkey'] at hkey
    | bindings hkey' _ => simp [Token.isKeyword_of_isKeyword hkey'] at hkey
  · intro h
    obtain ⟨name, ⟨hname⟩, rfl⟩ := h
    exact .root hkey hname

theorem objectsClausePhrase_iff {key : Token} (hkey : key.isKeyword .OBJECT = true)
    {tokens : List Token} {clause : Clause} : WorldClausePhrase (key :: tokens) clause ↔
      ∃ items, ListPhrase (·.isOperator ',') WorldObjectPhrase tokens items ∧
        clause = .objects items := by
  constructor
  · intro hread
    cases hread with
    | root hkey' _ => simp [Token.isKeyword_of_isKeyword hkey'] at hkey
    | objects _ hitems => exact ⟨_, hitems, rfl⟩
    | bindings hkey' _ => simp [Token.isKeyword_of_isKeyword hkey'] at hkey
  · intro h
    obtain ⟨items, hitems, rfl⟩ := h
    exact .objects hkey hitems

theorem bindingsClausePhrase_iff {key : Token} (hkey : key.isKeyword .BIND = true)
    {tokens : List Token} {clause : Clause} : WorldClausePhrase (key :: tokens) clause ↔
      ∃ items, ListPhrase (·.isOperator ',') BindingPhrase tokens items ∧
        clause = .bindings items := by
  constructor
  · intro hread
    cases hread with
    | root hkey' _ => simp [Token.isKeyword_of_isKeyword hkey'] at hkey
    | objects hkey' _ => simp [Token.isKeyword_of_isKeyword hkey'] at hkey
    | bindings _ hitems => exact ⟨_, hitems, rfl⟩
  · intro h
    obtain ⟨items, hitems, rfl⟩ := h
    exact .bindings hkey hitems

/-- The three entries of the table for clauses. -/
theorem opened?_cases {token : Token} {word : Keyword} {item : Parser Clause}
    (h : Clause.opened? token = some (word, item)) : token.isKeyword word = true ∧
      (word = .ROOT ∧ item = Clause.root <$> Parser.name .rootObject ∨
        word = .OBJECT ∧ item = Clause.objects <$> commaSeparated WorldObject.parser ∨
          word = .BIND ∧ item = Clause.bindings <$> commaSeparated Binding.parser) := by
  unfold Clause.opened? at h
  split at h
  · next hkey =>
    obtain ⟨rfl, rfl⟩ := Prod.mk.inj (Option.some.inj h)
    exact ⟨hkey, Or.inl ⟨rfl, rfl⟩⟩
  split at h
  · next hkey =>
    obtain ⟨rfl, rfl⟩ := Prod.mk.inj (Option.some.inj h)
    exact ⟨hkey, Or.inr (Or.inl ⟨rfl, rfl⟩)⟩
  split at h
  · next hkey =>
    obtain ⟨rfl, rfl⟩ := Prod.mk.inj (Option.some.inj h)
    exact ⟨hkey, Or.inr (Or.inr ⟨rfl, rfl⟩)⟩
  · cases h

/-- A step takes a clause whose keyword has not been seen. -/
theorem step_eq_take_iff {world : String} {seen : List Keyword} {token : Token}
    {item : Parser Clause} : Clause.step world seen token = .take item ↔
      ∃ word, Clause.opened? token = some (word, item) ∧ word ∉ seen := by
  unfold Clause.step
  cases Clause.opened? token with
  | none => simp
  | some opened =>
    obtain ⟨word, item'⟩ := opened
    by_cases hseen : word ∈ seen
    · simp [hseen]
    · simp [hseen]

/-- A step refuses a clause whose keyword has been seen. -/
theorem step_eq_reject_iff {world : String} {seen : List Keyword} {token : Token}
    {fault : SyntaxFault} : Clause.step world seen token = .reject fault ↔
      ∃ word item, Clause.opened? token = some (word, item) ∧ word ∈ seen ∧
        fault = .repeatedClause word world := by
  unfold Clause.step
  cases Clause.opened? token with
  | none => simp
  | some opened =>
    obtain ⟨word, item⟩ := opened
    by_cases hseen : word ∈ seen
    · simp [hseen, eq_comm]
    · simp [hseen]

/-- The tokens that go on with a clause, whichever it is. -/
def ClauseContinues (token : Token) : Prop :=
  token.isKeyword .AS = true ∨ token.isOperator ',' = true

/-- The keyword in the table for clauses is that of the clause that is read after it. -/
theorem recognizes_of_opened? {token : Token} {word : Keyword} {item : Parser Clause}
    (h : Clause.opened? token = some (word, item)) :
    Recognizes item (fun tokens => WorldClausePhrase (token :: tokens)) ClauseContinues ∧
      ∀ tokens clause, WorldClausePhrase (token :: tokens) clause → clause.keyword = word := by
  obtain ⟨hkey, ⟨rfl, rfl⟩ | ⟨rfl, rfl⟩ | ⟨rfl, rfl⟩⟩ := opened?_cases h
  · refine ⟨((recognizes_name .rootObject).map Clause.root).congr
      (fun _ _ => (rootClausePhrase_iff hkey).symm) fun _ => False.elim, ?_⟩
    intro tokens clause hread
    obtain ⟨name, -, rfl⟩ := (rootClausePhrase_iff hkey).mp hread
    rfl
  · have hitems := WorldObject.parser_recognizes.commaSeparated fun has =>
      Token.isOperator_of_isKeyword has ','
    refine ⟨(hitems.map Clause.objects).congr
      (fun _ _ => (objectsClausePhrase_iff hkey).symm) fun _ => id, ?_⟩
    intro tokens clause hread
    obtain ⟨items, -, rfl⟩ := (objectsClausePhrase_iff hkey).mp hread
    rfl
  · have hitems := Binding.parser_recognizes.commaSeparated fun hnever => hnever.elim
    refine ⟨(hitems.map Clause.bindings).congr
      (fun _ _ => (bindingsClausePhrase_iff hkey).symm) fun _ h => Or.inr (h.resolve_left id), ?_⟩
    intro tokens clause hread
    obtain ⟨items, -, rfl⟩ := (bindingsClausePhrase_iff hkey).mp hread
    rfl

theorem exists_opened?_of_phrase {token : Token} {tokens : List Token} {clause : Clause}
    (h : WorldClausePhrase (token :: tokens) clause) :
    ∃ item, Clause.opened? token = some (clause.keyword, item) := by
  cases h with
  | root hkey _ =>
    exact ⟨_, by
      simp only [Clause.opened?, hkey, if_true, Clause.keyword]
      rfl⟩
  | objects hkey _ =>
    exact ⟨_, by
      simp only [Clause.opened?, Token.isKeyword_of_isKeyword hkey, Clause.keyword]
      rfl⟩
  | bindings hkey _ =>
    exact ⟨_, by
      simp only [Clause.opened?, Token.isKeyword_of_isKeyword hkey, Clause.keyword]
      rfl⟩

theorem opened?_of_clauseContinues {token : Token} (h : ClauseContinues token) :
    Clause.opened? token = none := by
  rcases h with h | h
  · simp [Clause.opened?, Token.isKeyword_of_isKeyword h]
  · simp [Clause.opened?, Token.isKeyword_of_isOperator h]

/-- A clause is taken as long as its keyword has not been seen. -/
theorem recognizesStep_clause (name : String) : RecognizesStep (Clause.step name)
    (fun seen tokens clause => WorldClausePhrase tokens clause ∧ clause.keyword ∉ seen)
    ClauseContinues where
  items {seen token item} htake := by
    obtain ⟨word, hopened, hseen⟩ := step_eq_take_iff.mp htake
    obtain ⟨hread, hword⟩ := recognizes_of_opened? hopened
    refine hread.congr ?_ fun _ => id
    intro tokens clause
    constructor
    · intro hclause
      exact ⟨hclause, (hword tokens clause hclause).symm ▸ hseen⟩
    · exact And.left
  opens := by
    intro seen token tokens clause h
    obtain ⟨hclause, hseen⟩ := h
    obtain ⟨item, hopened⟩ := exists_opened?_of_phrase hclause
    exact ⟨item, step_eq_take_iff.mpr ⟨clause.keyword, hopened, hseen⟩⟩
  nonempty := nofun
  separate {seen token} hcontinues := by
    simp [Clause.step, opened?_of_clauseContinues hcontinues]

/-- Clauses that are not seen before are clauses with distinct keywords. -/
theorem statePhrase_clauses_iff {seen : List Keyword} {tokens : List Token}
    {clauses : List Clause} :
    StatePhrase (fun seen clause => Clause.keyword clause :: seen)
      (fun seen tokens clause => WorldClausePhrase tokens clause ∧ clause.keyword ∉ seen) seen
      tokens clauses ↔
    RepeatPhrase WorldClausePhrase tokens clauses ∧ (clauses.map Clause.keyword).Nodup ∧
      ∀ clause ∈ clauses, clause.keyword ∉ seen := by
  constructor
  · intro h
    induction h with
    | nil => exact ⟨.nil, List.nodup_nil, by simp⟩
    | cons hitem _ ih =>
      obtain ⟨hclause, hseen⟩ := hitem
      obtain ⟨hothers, hnodup, hunseen⟩ := ih
      refine ⟨.cons hclause hothers, List.nodup_cons.mpr ⟨?_, hnodup⟩, ?_⟩
      · intro hmem
        obtain ⟨other, hother, heq⟩ := List.mem_map.mp hmem
        exact hunseen other hother (by simp [heq])
      · intro clause hmem
        rcases List.mem_cons.mp hmem with rfl | hmem
        · exact hseen
        · exact fun h => hunseen clause hmem (List.mem_cons_of_mem _ h)
  · intro h
    obtain ⟨hread, hnodup, hunseen⟩ := h
    induction hread generalizing seen with
    | nil => exact .nil
    | @cons front back clause others hclause _ ih =>
      obtain ⟨hnot, hnodup⟩ := List.nodup_cons.mp hnodup
      refine .cons ⟨hclause, hunseen clause List.mem_cons_self⟩ (ih hnodup ?_)
      intro other hother hmem
      rcases List.mem_cons.mp hmem with heq | hmem
      · exact hnot (heq ▸ List.mem_map_of_mem hother)
      · exact hunseen other (List.mem_cons_of_mem _ hother) hmem

/-- The tokens that go on with a world. -/
def Continues (token : Token) : Prop :=
  ClauseContinues token ∨ (Clause.opened? token).isSome = true

theorem list_recognizes (name : String) : Recognizes (Clause.list name)
    (fun tokens clauses => RepeatPhrase WorldClausePhrase tokens clauses ∧
      (clauses.map Clause.keyword).Nodup) Continues := by
  refine ((recognizesStep_clause name).repeated []).congr ?_ ?_
  · intro tokens clauses
    rw [statePhrase_clauses_iff]
    simp
  · intro token h
    rcases h with hcontinues | ⟨seen, hstep⟩
    · exact Or.inl hcontinues
    · cases hopened : Clause.opened? token with
      | none => simp [Clause.step, hopened] at hstep
      | some opened => exact Or.inr (by simp [hopened])

theorem parser_recognizes {key : Token} (hkey : key.isKeyword .WORLD = true) :
    Recognizes parser (fun tokens world => WorldPhrase (key :: tokens) world) Continues := by
  have hall := (recognizes_name .world).bind
    (fun name => (list_recognizes name).map (ofClauses name)) (fun _ => id)
    (fun _ _ => False.elim)
  refine hall.congr ?_ fun _ => id
  intro tokens world
  constructor
  · intro h
    obtain ⟨front, back, name, rfl, ⟨hname⟩, clauses, ⟨hread, hnodup⟩, rfl⟩ := h
    exact .intro hkey hname hread rfl (ofClauses_declaredBy _ hnodup)
  · intro hread
    cases hread with
    | @intro _ name rest clauses _ _ hname hrest htext hworld =>
      exact ⟨[name], rest, name.text, rfl, .intro hname, clauses, ⟨hrest, hworld.once⟩,
        htext ▸ hworld.eq_ofClauses⟩

theorem local_object : Local WorldObject.parser :=
  (local_name .concept).bind fun _ =>
    ((local_name .objectAlias).opened (.intro fun _ _ _ _ => rfl)).optional.bind fun _ =>
      local_pure _

theorem local_slotPath : Local SlotPath.parser :=
  (local_name .objectAlias).bind fun _ => (local_operator '.').bind fun _ =>
    (local_name .slot).bind fun _ => local_pure _

theorem local_binding : Local Binding.parser :=
  local_slotPath.bind fun _ => (local_keyword .TO).bind fun _ =>
    local_slotPath.bind fun _ => local_pure _

theorem localStep_clause (name : String) : LocalStep (Clause.step name) where
  congr _ := .intro fun _ _ _ _ => rfl
  items seen token item htake := by
    obtain ⟨word, hopened, -⟩ := step_eq_take_iff.mp htake
    obtain ⟨-, ⟨-, rfl⟩ | ⟨-, rfl⟩ | ⟨-, rfl⟩⟩ := opened?_cases hopened
    · exact (local_name .rootObject).map _
    · exact local_object.commaSeparated.map _
    · exact local_binding.commaSeparated.map _

theorem parser_local : Local parser :=
  (local_name .world).bind fun name =>
    ((localStep_clause name).repeated _ _).bind fun _ => local_pure _

end World

end TagGraph
