import TagGraph.Parser

/-!
One token of lookahead. What a parser returns is settled by the kinds and texts of the tokens that
it reads and of the first one that it leaves. Neither positions nor anything further on matter.
Every way of putting parsers together keeps this property, so a parser has it by its construction.
-/

namespace TagGraph

/-- Two lists of tokens that only their places tell apart. -/
def SameContents (left right : List Token) : Prop :=
  left.map Token.content = right.map Token.content

/-- Both lists are empty, or they begin with tokens that only their places tell apart. -/
def SameNext (left right : List Token) : Prop :=
  left.head?.map Token.content = right.head?.map Token.content

/-- A function that tells tokens apart by kind and text at most. -/
def OfContent {γ : Type} (f : Token → γ) : Prop :=
  ∀ token token' : Token, token.content = token'.content → f token = f token'

theorem OfContent.intro {γ : Type} {f : Token → γ}
    (h : ∀ kind text position position', f ⟨kind, text, position⟩ = f ⟨kind, text, position'⟩) :
    OfContent f := by
  intro token token' hcontent
  obtain ⟨kind, text, position⟩ := token
  obtain ⟨kind', text', position'⟩ := token'
  obtain ⟨rfl, rfl⟩ := Prod.mk.inj hcontent
  exact h kind text position position'

theorem OfContent.comp {γ δ : Type} {f : Token → γ} (h : OfContent f) (g : γ → δ) :
    OfContent fun token => g (f token) :=
  fun token token' hcontent => congrArg g (h token token' hcontent)

namespace SameContents

theorem symm {left right : List Token} (h : SameContents left right) : SameContents right left :=
  Eq.symm h

theorem length_eq {left right : List Token} (h : SameContents left right) :
    left.length = right.length := by
  simpa using congrArg List.length h

theorem exists_cons {token : Token} {rest right : List Token}
    (h : SameContents (token :: rest) right) :
    ∃ token' rest', right = token' :: rest' ∧ token.content = token'.content ∧
      SameContents rest rest' := by
  cases right with
  | nil => simp [SameContents] at h
  | cons token' rest' =>
    obtain ⟨hhead, hrest⟩ := List.cons.inj h
    exact ⟨token', rest', rfl, hhead, hrest⟩

theorem exists_append {front back right : List Token} (h : SameContents (front ++ back) right) :
    ∃ front' back', right = front' ++ back' ∧ SameContents front front' ∧
      SameContents back back' := by
  have hmap : front.map Token.content ++ back.map Token.content = right.map Token.content := by
    simpa [SameContents] using h
  obtain ⟨front', back', hright, hfront, hback⟩ := List.map_eq_append_iff.mp hmap.symm
  exact ⟨front', back', hright, hfront.symm, hback.symm⟩

theorem append_sameNext {front front' back back' : List Token} (hfront : SameContents front front')
    (hback : SameNext back back') : SameNext (front ++ back) (front' ++ back') := by
  cases front with
  | nil =>
    have hlength := hfront.length_eq
    have hnil : front' = [] := List.length_eq_zero_iff.mp hlength.symm
    simpa [hnil] using hback
  | cons token rest =>
    obtain ⟨token', rest', rfl, hhead, -⟩ := hfront.exists_cons
    exact congrArg some hhead

end SameContents

theorem SameNext.exists_cons {token : Token} {rest right : List Token}
    (h : SameNext (token :: rest) right) :
    ∃ token' rest', right = token' :: rest' ∧ token.content = token'.content := by
  cases right with
  | nil => simp [SameNext] at h
  | cons token' rest' => exact ⟨token', rest', rfl, Option.some.inj h⟩

theorem SameNext.eq_nil {right : List Token} (h : SameNext [] right) : right = [] := by
  cases right with
  | nil => rfl
  | cons token rest => simp [SameNext] at h

namespace Parser

variable {α β : Type}

theorem exists_read {parser : Parser α} {tokens rest : List Token} {result : Except SyntaxFault α}
    (h : parser.run tokens = (result, rest)) : ∃ read, tokens = read ++ rest := by
  obtain ⟨read, hread⟩ := parser.run_suffix tokens
  exact ⟨read, by simpa [h] using hread.symm⟩

/-- One parser after another fails in the first, or reads in two parts. -/
theorem run_bind_cases {first : Parser α} {next : α → Parser β} {read rest : List Token}
    {result : Except SyntaxFault β} (h : (first >>= next).run (read ++ rest) = (result, rest)) :
    (∃ fault, result = .error fault ∧ first.run (read ++ rest) = (.error fault, rest)) ∨
    ∃ front back value, read = front ++ back ∧
      first.run (front ++ (back ++ rest)) = (.ok value, back ++ rest) ∧
      (next value).run (back ++ rest) = (result, rest) := by
  cases hout : first.run (read ++ rest) with
  | mk outcome left =>
    cases outcome with
    | error fault =>
      rw [run_bind_of_error hout] at h
      obtain ⟨rfl, rfl⟩ := Prod.mk.inj h
      exact Or.inl ⟨fault, rfl, rfl⟩
    | ok value =>
      rw [run_bind_of_ok hout] at h
      obtain ⟨back, rfl⟩ := exists_read h
      obtain ⟨front, hfront⟩ := exists_read hout
      obtain rfl : read = front ++ back := by
        rw [← List.append_assoc] at hfront
        exact List.append_cancel_right hfront
      rw [List.append_assoc] at hout
      exact Or.inr ⟨front, back, value, rfl, hout, h⟩

theorem run_branch_otherwise {choice? : Token → Option (Parser α)} {otherwise : Parser α}
    {tokens : List Token} (h : ∀ token ∈ tokens.head?, choice? token = none) :
    (branch choice? otherwise).run tokens = otherwise.run tokens := by
  cases tokens with
  | nil => rfl
  | cons token rest => exact run_branch_of_none (h token rfl) otherwise rest

/-- A choice by the next token reads that token and goes on, or leaves all to the other parser. -/
theorem run_branch_cases {choice? : Token → Option (Parser α)} {otherwise : Parser α}
    {read rest : List Token} {result : Except SyntaxFault α}
    (h : (branch choice? otherwise).run (read ++ rest) = (result, rest)) :
    (∃ token front item, read = token :: front ∧ choice? token = some item ∧
      item.run (front ++ rest) = (result, rest)) ∨
    (∀ token ∈ (read ++ rest).head?, choice? token = none) ∧
      otherwise.run (read ++ rest) = (result, rest) := by
  cases htokens : read ++ rest with
  | nil =>
    rw [htokens] at h
    exact Or.inr ⟨by simp, h⟩
  | cons token after =>
    rw [htokens] at h
    cases hchoice : choice? token with
    | none =>
      rw [run_branch_of_none hchoice] at h
      exact Or.inr ⟨by simpa using hchoice, h⟩
    | some item =>
      rw [run_branch_of_some hchoice] at h
      obtain ⟨front, rfl⟩ := exists_read h
      rw [← List.cons_append] at htokens
      exact Or.inl ⟨token, front, item, List.append_cancel_right htokens, hchoice, h⟩

/-- An item where the table lists the token, and the end of the repetition where it does not. -/
def Step.ofChoice : Option (Parser α) → Step α
  | some item => .take item
  | none => .stop

theorem Step.ofChoice_eq_take {choice : Option (Parser α)} {item : Parser α} :
    ofChoice choice = .take item ↔ choice = some item := by
  cases choice <;> simp [ofChoice]

theorem Step.ofChoice_eq_stop {choice : Option (Parser α)} :
    ofChoice choice = .stop ↔ choice = none := by
  cases choice <;> simp [ofChoice]

theorem Step.ofChoice_ne_reject {choice : Option (Parser α)} {fault : SyntaxFault} :
    ofChoice choice ≠ .reject fault := by
  cases choice <;> simp [ofChoice]

theorem many_eq (choice? : Token → Option (Parser α)) : many choice? =
    repeated (fun _ token => Step.ofChoice (choice? token)) (fun _ _ => ()) () :=
  rfl

section many

variable {choice? : Token → Option (Parser α)} {token : Token} {rest left : List Token}
  {item : Parser α}

theorem run_many_nil (choice? : Token → Option (Parser α)) :
    (many choice?).run [] = (.ok [], []) :=
  repeatRun.eq_1 _ _ _

theorem run_many_of_none (h : choice? token = none) (rest : List Token) :
    (many choice?).run (token :: rest) = (.ok [], token :: rest) :=
  repeatRun_of_stop (by simp [h])

theorem run_many_of_error {fault : SyntaxFault} (h : choice? token = some item)
    (hitem : item.run rest = (.error fault, left)) :
    (many choice?).run (token :: rest) = (.error fault, left) := by
  refine repeatRun_of_error ?_ hitem
  simp [h]

theorem run_many_of_ok {value : α} (h : choice? token = some item)
    (hitem : item.run rest = (.ok value, left)) :
    (many choice?).run (token :: rest) =
      (((many choice?).run left).1.map (value :: ·), ((many choice?).run left).2) := by
  refine repeatRun_of_ok ?_ hitem
  simp [h]

end many

def Local (parser : Parser α) : Prop :=
  ∀ ⦃read rest read' rest' : List Token⦄ ⦃result : Except SyntaxFault α⦄,
    parser.run (read ++ rest) = (result, rest) → SameContents read read' → SameNext rest rest' →
      parser.run (read' ++ rest') = (result, rest')

/-- A table that tells tokens apart by kind and text, and goes on with local parsers. -/
structure LocalTable (choice? : Token → Option (Parser α)) : Prop where
  congr : OfContent choice?
  items : ∀ token item, choice? token = some item → Local item

/-- A parser that leaves everything tells nothing of what it reads. -/
theorem Local.of_unread {parser : Parser α} {result : Except SyntaxFault α}
    (h : ∀ tokens, parser.run tokens = (result, tokens)) : Local parser := by
  intro read rest read' rest' result' hrun hread _
  rw [h] at hrun
  obtain ⟨rfl, hrest⟩ := Prod.mk.inj hrun
  have hnil : read = [] := by simpa using hrest
  have hnil' : read' = [] := by simpa [hnil] using hread.length_eq.symm
  rw [hnil', h]
  rfl

theorem local_pure (value : α) : Local (pure value : Parser α) :=
  Local.of_unread fun _ => rfl

theorem local_fail (fault : SyntaxFault) : Local (fail fault : Parser α) :=
  Local.of_unread fun _ => rfl

theorem local_nextIs {described : Token → Bool} (h : OfContent described) :
    Local (nextIs described) := by
  intro read rest read' rest' result hrun hread hnext
  obtain ⟨rfl, hrest⟩ := Prod.mk.inj hrun
  have hnil : read = [] := by simpa using hrest
  subst hnil
  have hnil' : read' = [] := by simpa using hread.length_eq.symm
  subst hnil'
  cases rest with
  | nil =>
    rw [hnext.eq_nil]
    rfl
  | cons token rest =>
    obtain ⟨token', rest', rfl, hcontent⟩ := hnext.exists_cons
    simp [nextIs, h token token' hcontent]

theorem Local.bind {first : Parser α} {next : α → Parser β} (hfirst : Local first)
    (hnext : ∀ value, Local (next value)) : Local (first >>= next) := by
  intro read rest read' rest' result hrun hread hlook
  rcases run_bind_cases hrun with ⟨fault, rfl, hout⟩ | ⟨front, back, value, rfl, hout, hrest⟩
  · exact run_bind_of_error (hfirst hout hread hlook) next
  · obtain ⟨front', back', rfl, hfront', hback'⟩ := hread.exists_append
    rw [List.append_assoc,
      run_bind_of_ok (hfirst hout hfront' (hback'.append_sameNext hlook))]
    exact hnext value hrest hback' hlook

theorem Local.map {item : Parser α} (h : Local item) (f : α → β) : Local (f <$> item) :=
  h.bind fun value => local_pure (f value)

theorem LocalTable.branch {choice? : Token → Option (Parser α)} {otherwise : Parser α}
    (htable : LocalTable choice?) (hotherwise : Local otherwise) :
    Local (branch choice? otherwise) := by
  intro read rest read' rest' result hrun hread hlook
  rcases run_branch_cases hrun with ⟨token, front, item, rfl, hchoice, hitem⟩ | ⟨hnone, hother⟩
  · obtain ⟨token', front', rfl, hcontent, hfront⟩ := hread.exists_cons
    rw [List.cons_append,
      run_branch_of_some ((htable.congr token token' hcontent).symm.trans hchoice)]
    exact htable.items token item hchoice hitem hfront hlook
  · rw [run_branch_otherwise]
    · exact hotherwise hother hread hlook
    · intro token' hmem
      have hheads := hread.append_sameNext hlook
      rw [SameNext, Option.mem_def.mp hmem] at hheads
      obtain ⟨token, hmem', hcontent⟩ := Option.map_eq_some_iff.mp hheads
      exact (htable.congr token token' hcontent).symm.trans (hnone token hmem')

theorem LocalTable.require {choice? : Token → Option (Parser α)} (htable : LocalTable choice?)
    (what : Expectation) : Local (require what choice?) :=
  htable.branch (local_fail _)

theorem LocalTable.optional {choice? : Token → Option (Parser α)} (htable : LocalTable choice?) :
    Local (optional choice?) := by
  refine LocalTable.branch ⟨?_, ?_⟩ (local_pure none)
  · exact htable.congr.comp _
  · intro token item hitem
    obtain ⟨inner, hinner, rfl⟩ := Option.map_eq_some_iff.mp hitem
    exact (htable.items token inner hinner).map some

/-- A repetition whose steps tell tokens apart by kind and text, and take local items. -/
structure LocalStep {σ : Type} (step : σ → Token → Step α) : Prop where
  congr : ∀ state, OfContent (step state)
  items : ∀ state token item, step state token = .take item → Local item

/-- A repetition is at its end, stops, refuses a token, fails in an item, or goes on after one. -/
theorem repeatRun_cases {σ : Type} {step : σ → Token → Step α} {move : σ → α → σ}
    {motive : σ → List Token → Except SyntaxFault (List α) → List Token → Prop}
    (done : ∀ state, motive state [] (.ok []) [])
    (stop : ∀ state token rest, step state token = .stop →
      motive state (token :: rest) (.ok []) (token :: rest))
    (reject : ∀ state token rest fault, step state token = .reject fault →
      motive state (token :: rest) (.error fault) (token :: rest))
    (failed : ∀ state token read rest item fault, step state token = .take item →
      item.run (read ++ rest) = (.error fault, rest) →
        motive state (token :: (read ++ rest)) (.error fault) rest)
    (taken : ∀ state token read back rest item value result, step state token = .take item →
      item.run (read ++ (back ++ rest)) = (.ok value, back ++ rest) →
        motive (move state value) (back ++ rest) result rest →
          motive state (token :: (read ++ (back ++ rest))) (result.map (value :: ·)) rest)
    (state : σ) (tokens : List Token) :
    motive state tokens (repeatRun step move state tokens).1
      (repeatRun step move state tokens).2 := by
  induction hlength : tokens.length using Nat.strongRecOn generalizing state tokens with
  | ind n ih =>
    cases tokens with
    | nil =>
      rw [repeatRun]
      exact done state
    | cons token after =>
      cases hstep : step state token with
      | stop =>
        rw [repeatRun_of_stop hstep]
        exact stop state token after hstep
      | reject fault =>
        rw [repeatRun_of_reject hstep]
        exact reject state token after fault hstep
      | take item =>
        cases hitem : item.run after with
        | mk outcome left =>
          obtain ⟨read, rfl⟩ := exists_read hitem
          cases outcome with
          | error fault =>
            rw [repeatRun_of_error hstep hitem]
            exact failed state token read left item fault hstep hitem
          | ok value =>
            rw [repeatRun_of_ok hstep hitem]
            have hshort : left.length < n := by
              simp only [← hlength, List.length_cons, List.length_append]
              omega
            have hrest := ih left.length hshort (move state value) left rfl
            obtain ⟨back, hback⟩ := repeatRun_suffix step move (move state value) left
            generalize repeatRun step move (move state value) left = others at hrest hback ⊢
            subst hback
            exact taken state token read back others.2 item value others.1 hstep hitem hrest

private theorem local_repeatRun {σ : Type} {step : σ → Token → Step α} (move : σ → α → σ)
    (hstep : LocalStep step) (state : σ) (tokens : List Token) :
    ∀ read read' rest', tokens = read ++ (repeatRun step move state tokens).2 →
      SameContents read read' → SameNext (repeatRun step move state tokens).2 rest' →
        repeatRun step move state (read' ++ rest') =
          ((repeatRun step move state tokens).1, rest') := by
  refine repeatRun_cases
    (motive := fun state tokens result rest => ∀ read read' rest', tokens = read ++ rest →
      SameContents read read' → SameNext rest rest' →
        repeatRun step move state (read' ++ rest') = (result, rest'))
    ?done ?stop ?reject ?failed ?taken state tokens
  case done =>
    intro state read read' rest' hsplit hread hlook
    obtain ⟨rfl, -⟩ := List.append_eq_nil_iff.mp hsplit.symm
    obtain rfl : read' = [] := by simpa using hread.length_eq.symm
    obtain rfl := hlook.eq_nil
    rw [List.nil_append, repeatRun]
  case stop =>
    intro state token rest hstop read read' rest' hsplit hread hlook
    obtain rfl : read = [] := by simpa using hsplit
    obtain rfl : read' = [] := by simpa using hread.length_eq.symm
    obtain ⟨token', after', rfl, hcontent⟩ := hlook.exists_cons
    exact repeatRun_of_stop ((hstep.congr state token token' hcontent).symm.trans hstop)
  case reject =>
    intro state token rest fault hreject read read' rest' hsplit hread hlook
    obtain rfl : read = [] := by simpa using hsplit
    obtain rfl : read' = [] := by simpa using hread.length_eq.symm
    obtain ⟨token', after', rfl, hcontent⟩ := hlook.exists_cons
    exact repeatRun_of_reject ((hstep.congr state token token' hcontent).symm.trans hreject)
  case failed =>
    intro state token front rest item fault htake hitem read read' rest' hsplit hread hlook
    rw [← List.cons_append] at hsplit
    obtain rfl := List.append_cancel_right hsplit
    obtain ⟨token', front', rfl, hcontent, hfront⟩ := hread.exists_cons
    exact repeatRun_of_error ((hstep.congr state token token' hcontent).symm.trans htake)
      (hstep.items state token item htake hitem hfront hlook)
  case taken =>
    intro state token front back rest item value result htake hitem ih
      read read' rest' hsplit hread hlook
    rw [← List.append_assoc, ← List.cons_append] at hsplit
    obtain rfl := List.append_cancel_right hsplit
    obtain ⟨token', read', rfl, hcontent, hread'⟩ := hread.exists_cons
    obtain ⟨front', back', rfl, hfront, hback⟩ := hread'.exists_append
    have hitem' := hstep.items state token item htake hitem hfront (hback.append_sameNext hlook)
    rw [List.cons_append, List.append_assoc,
      repeatRun_of_ok ((hstep.congr state token token' hcontent).symm.trans htake) hitem',
      ih back back' rest' rfl hback hlook]

theorem LocalStep.repeated {σ : Type} {step : σ → Token → Step α} (hstep : LocalStep step)
    (move : σ → α → σ) (state : σ) : Local (repeated step move state) :=
  fun read rest read' rest' result hrun hread hlook => by
    have hlocal := local_repeatRun move hstep state (read ++ rest)
    rw [show repeatRun step move state (read ++ rest) = (result, rest) from hrun] at hlocal
    exact hlocal read read' rest' rfl hread hlook

theorem LocalTable.many {choice? : Token → Option (Parser α)} (htable : LocalTable choice?) :
    Local (many choice?) := by
  rw [many_eq]
  refine LocalStep.repeated ⟨?_, ?_⟩ _ _
  · exact fun _ => htable.congr.comp Step.ofChoice
  · intro _ token item htake
    exact htable.items token item (Step.ofChoice_eq_take.mp htake)

theorem Local.opened {opens : Token → Bool} {item : Parser α} (hitem : Local item)
    (hopens : OfContent opens) :
    LocalTable fun token => if opens token then some item else none := by
  refine ⟨hopens.comp fun opened => if opened = true then some item else none, ?_⟩
  intro token inner hinner
  split at hinner
  · exact Option.some.inj hinner ▸ hitem
  · cases hinner

theorem Local.separatedBy {isSeparator : Token → Bool} {item : Parser α}
    (hitem : Local item) (hseparator : OfContent isSeparator) :
    Local (separatedBy isSeparator item) :=
  hitem.bind fun _ => (hitem.opened hseparator).many.bind fun _ => local_pure _

theorem localTable_pure {described : Token → Prop} [DecidablePred described] {tell : Token → α}
    (h : OfContent fun token => if described token then some (pure (tell token) : Parser α)
      else none) :
    LocalTable fun token => if described token then some (pure (tell token)) else none := by
  refine ⟨h, ?_⟩
  intro token item hitem
  split at hitem
  · exact Option.some.inj hitem ▸ local_pure _
  · cases hitem

theorem local_name (role : NameRole) : Local (name role) :=
  (localTable_pure (.intro fun _ _ _ _ => rfl)).require _

theorem local_keyword (word : Keyword) : Local (keyword word) :=
  (localTable_pure (.intro fun _ _ _ _ => rfl)).require _

theorem local_operator (symbol : Char) : Local (operator symbol) :=
  (localTable_pure (.intro fun _ _ _ _ => rfl)).require _

theorem local_accept (word : Keyword) : Local (accept word) :=
  (localTable_pure (.intro fun _ _ _ _ => rfl)).branch (local_pure false)

theorem Local.commaSeparated {item : Parser α} (h : Local item) : Local (commaSeparated item) :=
  h.separatedBy (.intro fun _ _ _ _ => rfl)

end Parser

end TagGraph
