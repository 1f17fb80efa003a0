import TagGraph.Proofs.Grammar
import TagGraph.Proofs.Lookahead
import TagGraph.Proofs.WritableTokens

/-!
Parsers that recognize phrases. Such a parser reads nothing but phrases, reads every phrase that no
continuing token follows, and where it fails it has read the beginning of a phrase. The last part is
what makes a fault the first token that cannot go on: up to there the text can still be completed.
-/

namespace TagGraph

variable {α β : Type}

/-- Tokens that writable ones can complete to a phrase. -/
def Phrase.Viable (phrase : Phrase α) (tokens : List Token) : Prop :=
  ∃ ending value, (∀ token ∈ ending, token.Writable) ∧ phrase (tokens ++ ending) value

/-- The next token, if there is one, does not continue the phrase before it. -/
def Ends (continues : Token → Prop) (rest : List Token) : Prop :=
  ∀ token ∈ rest.head?, ¬continues token

/-- No token continues a phrase whose end shows by itself. -/
def Never : Token → Prop := fun _ => False

theorem ends_nil (continues : Token → Prop) : Ends continues [] := by simp [Ends]

theorem ends_cons {continues : Token → Prop} {token : Token} {rest : List Token} :
    Ends continues (token :: rest) ↔ ¬continues token := by simp [Ends]

theorem Ends.mono {continues continues' : Token → Prop} {rest : List Token}
    (h : Ends continues' rest) (hsub : ∀ token, continues token → continues' token) :
    Ends continues rest :=
  fun token hmem hcontinues => h token hmem (hsub token hcontinues)

/-- A phrase, and one that may depend on its value after it. -/
def SeqPhrase (first : Phrase α) (next : α → Phrase β) : Phrase β := fun tokens value =>
  ∃ front back middle, tokens = front ++ back ∧ first front middle ∧ next middle back value

theorem Phrase.Viable.seq {first : Phrase α} {next : α → Phrase β} {tokens : List Token}
    (h : first.Viable tokens) (hnext : ∀ middle, (next middle).Viable []) :
    (SeqPhrase first next).Viable tokens := by
  obtain ⟨ending, middle, hending, hread⟩ := h
  obtain ⟨ending', value, hending', hread'⟩ := hnext middle
  refine ⟨ending ++ ending', value, ?_, tokens ++ ending, ending', middle, by simp, hread, hread'⟩
  intro token hmem
  rcases List.mem_append.mp hmem with hmem | hmem
  · exact hending token hmem
  · exact hending' token hmem

/-- The first token of a repetition begins one of its phrases. -/
theorem RepeatPhrase.head {item : Phrase α} {token : Token} {rest : List Token} {values : List α}
    (h : RepeatPhrase item (token :: rest) values) (hnonempty : ∀ value, ¬item [] value) :
    ∃ tokens value, item (token :: tokens) value := by
  generalize hall : token :: rest = all at h
  cases h with
  | nil => cases hall
  | @cons front back value others hitem hothers =>
    cases front with
    | nil => exact absurd hitem (hnonempty value)
    | cons first front =>
      obtain ⟨rfl, -⟩ := List.cons.inj hall
      exact ⟨front, value, hitem⟩

theorem RepeatPhrase.one {item : Phrase α} {tokens : List Token} {value : α}
    (h : item tokens value) : RepeatPhrase item tokens [value] := by
  rw [← List.append_nil tokens]
  exact .cons h .nil

theorem RepeatPhrase.append {item : Phrase α} {front back : List Token} {left right : List α}
    (hleft : RepeatPhrase item front left) (hright : RepeatPhrase item back right) :
    RepeatPhrase item (front ++ back) (left ++ right) := by
  induction hleft with
  | nil => exact hright
  | cons hfirst _ ih =>
    rw [List.append_assoc]
    exact .cons hfirst ih

/-- A phrase after another begins where the first one does, unless that one is empty. -/
theorem SeqPhrase.head {first : Phrase α} {next : α → Phrase β} {token : Token}
    {rest : List Token} {value : β} (h : SeqPhrase first next (token :: rest) value) :
    (∃ front middle, first (token :: front) middle) ∨
    ∃ middle, first [] middle ∧ next middle (token :: rest) value := by
  obtain ⟨front, back, middle, heq, hfront, hback⟩ := h
  cases front with
  | nil => exact Or.inr ⟨middle, hfront, by simpa [heq] using hback⟩
  | cons token' front =>
    obtain ⟨rfl, -⟩ := List.cons.inj heq
    exact Or.inl ⟨front, middle, hfront⟩

theorem SeqPhrase.of_nil {first : Phrase α} {next : α → Phrase β} {value : β}
    (h : SeqPhrase first next [] value) : ∃ middle, first [] middle ∧ next middle [] value := by
  obtain ⟨front, back, middle, heq, hfront, hback⟩ := h
  obtain ⟨rfl, rfl⟩ := List.append_eq_nil_iff.mp heq.symm
  exact ⟨middle, hfront, hback⟩

namespace Parser

structure Recognizes (parser : Parser α) (phrase : Phrase α) (continues : Token → Prop) : Prop where
  sound : ∀ {read rest value}, parser.run (read ++ rest) = (.ok value, rest) → phrase read value
  viable : ∀ {read rest fault}, parser.run (read ++ rest) = (.error fault, rest) →
    phrase.Viable read
  complete : ∀ {read rest value}, phrase read value → Ends continues rest →
    parser.run (read ++ rest) = (.ok value, rest)
  inhabited : phrase.Viable []

theorem Recognizes.congr {parser : Parser α} {phrase phrase' : Phrase α}
    {continues continues' : Token → Prop} (h : Recognizes parser phrase continues)
    (hphrase : ∀ tokens value, phrase tokens value ↔ phrase' tokens value)
    (hcontinues : ∀ token, continues token → continues' token) :
    Recognizes parser phrase' continues' := by
  have hviable : ∀ {tokens}, phrase.Viable tokens → phrase'.Viable tokens := by
    intro tokens h
    obtain ⟨ending, value, hending, hread⟩ := h
    exact ⟨ending, value, hending, (hphrase _ _).mp hread⟩
  exact {
    sound hrun := (hphrase _ _).mp (h.sound hrun)
    viable hrun := hviable (h.viable hrun)
    complete hread hends := h.complete ((hphrase _ _).mpr hread) (hends.mono hcontinues)
    inhabited := hviable h.inhabited }

theorem Recognizes.mono {parser : Parser α} {phrase : Phrase α}
    {continues continues' : Token → Prop} (h : Recognizes parser phrase continues)
    (hcontinues : ∀ token, continues token → continues' token) :
    Recognizes parser phrase continues' :=
  h.congr (fun _ _ => Iff.rfl) hcontinues

theorem recognizes_pure (value : α) (continues : Token → Prop) :
    Recognizes (pure value) (fun tokens other => tokens = [] ∧ other = value) continues where
  sound hrun := by
    obtain ⟨hvalue, hrest⟩ := Prod.mk.inj hrun
    exact ⟨by simpa using hrest, (Except.ok.inj hvalue).symm⟩
  viable hrun := by simp at hrun
  complete := by
    intro read rest other h _
    obtain ⟨rfl, rfl⟩ := h
    rfl
  inhabited := ⟨[], value, by simp, rfl, rfl⟩

/-- A parser after another. The tokens on which the first one would go on must not open what the
second one reads, and must not follow at all when that is nothing. -/
theorem Recognizes.bind {first : Parser α} {next : α → Parser β} {phrase : Phrase α}
    {nextPhrase : α → Phrase β} {continues continues' : Token → Prop}
    (hfirst : Recognizes first phrase continues)
    (hnext : ∀ value, Recognizes (next value) (nextPhrase value) continues')
    (hopens : ∀ {middle token back value}, nextPhrase middle (token :: back) value →
      ¬continues token)
    (hempty : ∀ {middle value}, nextPhrase middle [] value →
      ∀ token, continues token → continues' token) :
    Recognizes (first >>= next) (SeqPhrase phrase nextPhrase) continues' where
  sound hrun := by
    rcases run_bind_cases hrun with ⟨fault, herror, -⟩ | ⟨front, back, middle, rfl, hout, hrest⟩
    · cases herror
    · exact ⟨front, back, middle, rfl, hfirst.sound hout, (hnext middle).sound hrest⟩
  viable hrun := by
    rcases run_bind_cases hrun with ⟨fault, -, hout⟩ | ⟨front, back, middle, rfl, hout, hrest⟩
    · exact (hfirst.viable hout).seq fun middle => (hnext middle).inhabited
    · obtain ⟨ending, value, hending, hread⟩ := (hnext middle).viable hrest
      exact ⟨ending, value, hending, front, back ++ ending, middle, by simp, hfirst.sound hout,
        hread⟩
  complete {read rest value} hread hends := by
    obtain ⟨front, back, middle, rfl, hfront, hback⟩ := hread
    have hmiddle : Ends continues (back ++ rest) := by
      cases back with
      | nil => exact hends.mono (hempty hback)
      | cons token back => exact ends_cons.mpr (hopens hback)
    rw [List.append_assoc, run_bind_of_ok (hfirst.complete hfront hmiddle)]
    exact (hnext middle).complete hback hends
  inhabited := hfirst.inhabited.seq fun middle => (hnext middle).inhabited

theorem Recognizes.map {item : Parser α} {phrase : Phrase α} {continues : Token → Prop}
    (h : Recognizes item phrase continues) (f : α → β) :
    Recognizes (f <$> item) (fun tokens value => ∃ middle, phrase tokens middle ∧ value = f middle)
      continues := by
  refine Recognizes.congr (h.bind (fun value => recognizes_pure (f value) continues) ?_ ?_) ?_ ?_
  · intro middle token back value h
    obtain ⟨hnil, -⟩ := h
    cases hnil
  · exact fun _ _ => id
  · intro tokens value
    constructor
    · intro h
      obtain ⟨front, back, middle, rfl, hfront, rfl, rfl⟩ := h
      exact ⟨middle, by simpa using hfront, rfl⟩
    · intro h
      obtain ⟨middle, hread, rfl⟩ := h
      exact ⟨tokens, [], middle, by simp, hread, rfl, rfl⟩
  · exact fun _ => id

/-- A table by which the next token decides whether a phrase begins with it, and what follows. -/
structure RecognizesTable (choice? : Token → Option (Parser α)) (phrase : Phrase α)
    (continues : Token → Prop) : Prop where
  items : ∀ {token item}, choice? token = some item →
    Recognizes item (fun tokens => phrase (token :: tokens)) continues
  opens : ∀ {token tokens value}, phrase (token :: tokens) value → (choice? token).isSome = true
  nonempty : ∀ {value}, ¬phrase [] value
  inhabited : phrase.Viable []

theorem RecognizesTable.mono {choice? : Token → Option (Parser α)} {phrase : Phrase α}
    {continues continues' : Token → Prop} (htable : RecognizesTable choice? phrase continues)
    (h : ∀ token, continues token → continues' token) :
    RecognizesTable choice? phrase continues' :=
  { htable with items := fun hitem => (htable.items hitem).mono h }

/-- A choice between phrases that a table opens and others that it does not open. A token that the
table lists must not follow where the other phrase can be empty. -/
theorem RecognizesTable.branch {choice? : Token → Option (Parser α)} {otherwise : Parser α}
    {phrase phrase' : Phrase α} {continues : Token → Prop}
    (htable : RecognizesTable choice? phrase continues)
    (hother : Recognizes otherwise phrase' continues)
    (hdistinct : ∀ {token tokens value}, phrase' (token :: tokens) value → choice? token = none)
    (hempty : ∀ {value token}, phrase' [] value → (choice? token).isSome = true →
      continues token) :
    Recognizes (branch choice? otherwise)
      (fun tokens value => phrase tokens value ∨ phrase' tokens value) continues where
  sound hrun := by
    rcases run_branch_cases hrun with ⟨token, front, item, rfl, hchoice, hitem⟩ | ⟨-, hrun'⟩
    · exact Or.inl ((htable.items hchoice).sound hitem)
    · exact Or.inr (hother.sound hrun')
  viable hrun := by
    rcases run_branch_cases hrun with ⟨token, front, item, rfl, hchoice, hitem⟩ | ⟨-, hrun'⟩
    · obtain ⟨ending, value, hending, hread⟩ := (htable.items hchoice).viable hitem
      exact ⟨ending, value, hending, Or.inl hread⟩
    · obtain ⟨ending, value, hending, hread⟩ := hother.viable hrun'
      exact ⟨ending, value, hending, Or.inr hread⟩
  complete {read rest value} hread hends := by
    rcases hread with hread | hread
    · cases read with
      | nil => exact absurd hread htable.nonempty
      | cons token tokens =>
        obtain ⟨item, hchoice⟩ := Option.isSome_iff_exists.mp (htable.opens hread)
        rw [List.cons_append, run_branch_of_some hchoice]
        exact (htable.items hchoice).complete hread hends
    · rw [run_branch_otherwise]
      · exact hother.complete hread hends
      · intro token hmem
        cases read with
        | nil => simpa using fun hsome => hends token hmem (hempty hread hsome)
        | cons first tokens =>
          obtain rfl : first = token := by simpa using hmem
          exact hdistinct hread
  inhabited := by
    obtain ⟨ending, value, hending, hread⟩ := htable.inhabited
    exact ⟨ending, value, hending, Or.inl hread⟩

theorem RecognizesTable.require {choice? : Token → Option (Parser α)} {phrase : Phrase α}
    {continues : Token → Prop} (htable : RecognizesTable choice? phrase continues)
    (what : Expectation) : Recognizes (require what choice?) phrase continues where
  sound hrun := by
    rcases run_branch_cases hrun with ⟨token, front, item, rfl, hchoice, hitem⟩ | ⟨-, hrun'⟩
    · exact (htable.items hchoice).sound hitem
    · cases hrun'
  viable {read rest fault} hrun := by
    rcases run_branch_cases hrun with ⟨token, front, item, rfl, hchoice, hitem⟩ | ⟨-, hrun'⟩
    · exact (htable.items hchoice).viable hitem
    · obtain ⟨-, hrest⟩ := Prod.mk.inj hrun'
      obtain rfl : read = [] := by simpa using hrest
      exact htable.inhabited
  complete {read rest value} hread hends := by
    cases read with
    | nil => exact absurd hread htable.nonempty
    | cons token tokens =>
      obtain ⟨item, hchoice⟩ := Option.isSome_iff_exists.mp (htable.opens hread)
      rw [Parser.require, List.cons_append, run_branch_of_some hchoice]
      exact (htable.items hchoice).complete hread hends
  inhabited := htable.inhabited

/-- Phrases one after the other, of a sort that the values before them decide. -/
inductive StatePhrase {σ : Type} (move : σ → α → σ) (item : σ → Phrase α) : σ → Phrase (List α)
  | nil {state : σ} : StatePhrase move item state [] []
  | cons {state : σ} {front back : List Token} {value : α} {others : List α}
      (hitem : item state front value)
      (hothers : StatePhrase move item (move state value) back others) :
      StatePhrase move item state (front ++ back) (value :: others)

/-- What decides in a repetition whether the next token opens an item. An item must not go on with
a token on which the repetition does anything but stop. -/
structure RecognizesStep {σ : Type} (step : σ → Token → Step α) (phrase : σ → Phrase α)
    (continues : Token → Prop) : Prop where
  items : ∀ {state token item}, step state token = .take item →
    Recognizes item (fun tokens => phrase state (token :: tokens)) continues
  opens : ∀ {state token tokens value}, phrase state (token :: tokens) value →
    ∃ item, step state token = .take item
  nonempty : ∀ {state value}, ¬phrase state [] value
  separate : ∀ {state token}, continues token → step state token = .stop

section repeated

variable {σ : Type} {step : σ → Token → Step α} {move : σ → α → σ} {phrase : σ → Phrase α}
  {continues : Token → Prop}

private theorem repeatRun_reads (hstep : RecognizesStep step phrase continues) (state : σ)
    (tokens : List Token) : ∀ read, tokens = read ++ (repeatRun step move state tokens).2 →
      (∀ values, (repeatRun step move state tokens).1 = .ok values →
        StatePhrase move phrase state read values) ∧
      (∀ fault, (repeatRun step move state tokens).1 = .error fault →
        (StatePhrase move phrase state).Viable read) := by
  refine repeatRun_cases
    (motive := fun state tokens result rest => ∀ read, tokens = read ++ rest →
      (∀ values, result = .ok values → StatePhrase move phrase state read values) ∧
      (∀ fault, result = .error fault → (StatePhrase move phrase state).Viable read))
    ?done ?stop ?reject ?failed ?taken state tokens
  case done =>
    intro state read hsplit
    obtain ⟨rfl, -⟩ := List.append_eq_nil_iff.mp hsplit.symm
    exact ⟨fun values h => Except.ok.inj h ▸ .nil, fun fault h => (nomatch h)⟩
  case stop =>
    intro state token rest hstop read hsplit
    obtain rfl : read = [] := by simpa using hsplit
    exact ⟨fun values h => Except.ok.inj h ▸ .nil, fun fault h => (nomatch h)⟩
  case reject =>
    intro state token rest fault hreject read hsplit
    obtain rfl : read = [] := by simpa using hsplit
    exact ⟨fun values h => (nomatch h), fun fault h => ⟨[], [], by simp, .nil⟩⟩
  case failed =>
    intro state token front rest item fault htake hitem read hsplit
    rw [← List.cons_append] at hsplit
    obtain rfl := List.append_cancel_right hsplit
    refine ⟨fun values h => (nomatch h), fun fault h => ?_⟩
    obtain ⟨ending, value, hending, hread⟩ := (hstep.items htake).viable hitem
    have hnil : StatePhrase move phrase (move state value) [] [] := .nil
    exact ⟨ending, [value], hending, by simpa using StatePhrase.cons hread hnil⟩
  case taken =>
    intro state token front back rest item value result htake hitem ih read hsplit
    rw [← List.append_assoc, ← List.cons_append] at hsplit
    obtain rfl := List.append_cancel_right hsplit
    have hread := (hstep.items htake).sound hitem
    obtain ⟨hsound, hviable⟩ := ih back rfl
    constructor
    · intro values hvalues
      cases result with
      | error fault => cases hvalues
      | ok others =>
        obtain rfl := Except.ok.inj hvalues
        exact .cons hread (hsound others rfl)
    · intro fault hfault
      cases result with
      | ok others => cases hfault
      | error fault' =>
        obtain ⟨ending, others, hending, hothers⟩ := hviable fault' rfl
        refine ⟨ending, value :: others, hending, ?_⟩
        simpa using StatePhrase.cons hread hothers

/-- A repetition that has read its phrases goes on in the state that their values lead to. -/
theorem RecognizesStep.run_append (hstep : RecognizesStep step phrase continues) {state : σ}
    {read rest : List Token} {values : List α} (h : StatePhrase move phrase state read values)
    (hends : Ends continues rest) : repeatRun step move state (read ++ rest) =
      ((repeatRun step move (values.foldl move state) rest).1.map (values ++ ·),
        (repeatRun step move (values.foldl move state) rest).2) := by
  induction h with
  | @nil state =>
    rw [List.nil_append, List.foldl_nil]
    refine Prod.ext ?_ rfl
    cases (repeatRun step move state rest).1 <;> rfl
  | @cons state front back value others hitem hothers ih =>
    cases front with
    | nil => exact absurd hitem hstep.nonempty
    | cons token front =>
      obtain ⟨item, htake⟩ := hstep.opens hitem
      have hback : Ends continues (back ++ rest) := by
        cases hothers with
        | nil => exact hends
        | @cons _ front' back' value' others' hitem' hothers' =>
          cases front' with
          | nil => exact absurd hitem' hstep.nonempty
          | cons token' front' =>
            refine ends_cons.mpr fun hcontinues => ?_
            obtain ⟨item', htake'⟩ := hstep.opens hitem'
            cases htake'.symm.trans (hstep.separate hcontinues)
      rw [List.cons_append, List.cons_append, List.append_assoc,
        repeatRun_of_ok htake ((hstep.items htake).complete hitem hback), ih, List.foldl_cons]
      cases (repeatRun step move (others.foldl move (move state value)) rest).1 <;> rfl

theorem RecognizesStep.repeated (hstep : RecognizesStep step phrase continues) (state : σ) :
    Recognizes (repeated step move state) (StatePhrase move phrase state)
      (fun token => continues token ∨ ∃ state, step state token ≠ .stop) where
  sound {read rest values} hrun := by
    have hreads := @repeatRun_reads _ _ _ move _ _ hstep state (read ++ rest) read
    rw [show repeatRun step move state (read ++ rest) = (.ok values, rest) from hrun] at hreads
    exact (hreads rfl).1 values rfl
  viable {read rest fault} hrun := by
    have hreads := @repeatRun_reads _ _ _ move _ _ hstep state (read ++ rest) read
    rw [show repeatRun step move state (read ++ rest) = (.error fault, rest) from hrun] at hreads
    exact (hreads rfl).2 fault rfl
  complete {read rest values} hread hends := by
    have hstop : ∀ state, repeatRun step move state rest = (.ok [], rest) := by
      intro state
      cases rest with
      | nil => rw [repeatRun]
      | cons token rest =>
        have hstop := fun h => ends_cons.mp hends (Or.inr h)
        exact repeatRun_of_stop (Classical.byContradiction fun h => hstop ⟨_, h⟩)
    change repeatRun step move state (read ++ rest) = (.ok values, rest)
    rw [hstep.run_append hread (hends.mono fun _ => Or.inl), hstop]
    simp [Except.map]
  inhabited := ⟨[], [], by simp, .nil⟩

end repeated

/-- A token of some description, and a phrase after it. -/
def OpenedPhrase (opens : Token → Bool) (phrase : Phrase α) : Phrase α := fun tokens value =>
  ∃ token rest, tokens = token :: rest ∧ opens token = true ∧ phrase rest value

theorem Recognizes.opened {item : Parser α} {phrase : Phrase α} {continues : Token → Prop}
    (h : Recognizes item phrase continues) {opens : Token → Bool} {opener : Token}
    (hwritable : opener.Writable) (hopener : opens opener = true) :
    RecognizesTable (fun token => if opens token then some item else none)
      (OpenedPhrase opens phrase) continues where
  items {token item'} hitem := by
    by_cases hopens : opens token = true
    · obtain rfl : item = item' := by simpa [hopens] using hitem
      refine h.congr ?_ fun _ => id
      intro tokens value
      constructor
      · intro hread
        exact ⟨token, tokens, rfl, hopens, hread⟩
      · intro h
        obtain ⟨token', rest, heq, -, hread⟩ := h
        exact (List.cons.inj heq).2 ▸ hread
    · simp [hopens] at hitem
  opens := by
    intro token tokens value h
    obtain ⟨token', rest, heq, hopens, -⟩ := h
    obtain ⟨rfl, -⟩ := List.cons.inj heq
    simp [hopens]
  nonempty := by
    intro value h
    obtain ⟨token, rest, heq, -⟩ := h
    cases heq
  inhabited := by
    obtain ⟨ending, value, hending, hread⟩ := h.inhabited
    refine ⟨opener :: ending, value, ?_, opener, ending, rfl, hopener, hread⟩
    intro token hmem
    rcases List.mem_cons.mp hmem with rfl | hmem
    · exact hwritable
    · exact hending token hmem

theorem Recognizes.optional {item : Parser α} {phrase : Phrase α} {continues : Token → Prop}
    (h : Recognizes item phrase continues) {opens : Token → Bool} {opener : Token}
    (hwritable : opener.Writable) (hopener : opens opener = true) :
    Recognizes (optional fun token => if opens token then some item else none)
      (OptionPhrase opens phrase) (fun token => continues token ∨ opens token = true) := by
  have htable := ((h.map some).opened hwritable hopener).mono fun token hcontinues =>
    show continues token ∨ opens token = true from Or.inl hcontinues
  have hbranch := htable.branch (recognizes_pure none _) ?_ ?_
  · have hsame : (fun token => Option.map (fun item => some <$> item)
        (if opens token = true then some item else none)) =
        fun token => if opens token = true then some (some <$> item) else none := by
      funext token
      split <;> rfl
    rw [Parser.optional, hsame]
    refine hbranch.congr ?_ fun _ => id
    intro tokens value
    constructor
    · intro h
      rcases h with ⟨token, rest, rfl, hopens, middle, hread, rfl⟩ | ⟨rfl, rfl⟩
      · exact .some hopens hread
      · exact .none
    · intro h
      rcases h with _ | ⟨hopens, hread⟩
      · exact Or.inr ⟨rfl, rfl⟩
      · exact Or.inl ⟨_, _, rfl, hopens, _, hread, rfl⟩
  · intro token tokens value h
    obtain ⟨hnil, -⟩ := h
    cases hnil
  · intro value token _ hsome
    by_cases hopens : opens token = true
    · exact Or.inr hopens
    · simp [hopens] at hsome

theorem statePhrase_iff_repeatPhrase {phrase : Phrase α} {state : Unit} {tokens : List Token}
    {values : List α} : StatePhrase (fun _ _ => ()) (fun _ => phrase) state tokens values ↔
      RepeatPhrase phrase tokens values := by
  constructor
  · intro h
    induction h with
    | nil => exact .nil
    | cons hitem _ ih => exact .cons hitem ih
  · intro h
    induction h with
    | nil => exact .nil
    | cons hitem _ ih => exact .cons hitem ih

theorem RecognizesTable.many {choice? : Token → Option (Parser α)} {phrase : Phrase α}
    {continues : Token → Prop} (htable : RecognizesTable choice? phrase continues)
    (hseparate : ∀ {token}, continues token → choice? token = none) :
    Recognizes (many choice?) (RepeatPhrase phrase)
      (fun token => continues token ∨ (choice? token).isSome = true) := by
  have hstep : RecognizesStep (fun (_ : Unit) token => Step.ofChoice (choice? token))
      (fun _ => phrase) continues := by
    refine ⟨?_, ?_, htable.nonempty, ?_⟩
    · intro state token item htake
      exact htable.items (Step.ofChoice_eq_take.mp htake)
    · intro state token tokens value hread
      obtain ⟨item, hitem⟩ := Option.isSome_iff_exists.mp (htable.opens hread)
      exact ⟨item, Step.ofChoice_eq_take.mpr hitem⟩
    · intro state token hcontinues
      exact Step.ofChoice_eq_stop.mpr (hseparate hcontinues)
  rw [many_eq]
  refine (hstep.repeated ()).congr (fun _ _ => statePhrase_iff_repeatPhrase) ?_
  intro token hcontinues
  rcases hcontinues with hcontinues | ⟨state, hstep⟩
  · exact Or.inl hcontinues
  · apply Or.inr
    rw [Option.isSome_iff_ne_none]
    exact fun hnone => hstep (Step.ofChoice_eq_stop.mpr hnone)

/-- A list is its first item, and then separators with an item after each. -/
theorem listPhrase_iff {separates : Token → Bool} {item : Phrase α} {tokens : List Token}
    {values : List α} : ListPhrase separates item tokens values ↔
      ∃ front back first others, tokens = front ++ back ∧ item front first ∧
        RepeatPhrase (OpenedPhrase separates item) back others ∧ values = first :: others := by
  constructor
  · intro h
    induction h with
    | one hitem => exact ⟨_, [], _, [], by simp, hitem, .nil, rfl⟩
    | @cons front back separator value others hitem hseparator _ ih =>
      obtain ⟨front', back', first, others', rfl, hfirst, hothers, rfl⟩ := ih
      exact ⟨front, separator :: (front' ++ back'), value, _, rfl, hitem,
        .cons ⟨separator, front', rfl, hseparator, hfirst⟩ hothers, rfl⟩
  · intro h
    obtain ⟨front, back, first, others, rfl, hfirst, hothers, rfl⟩ := h
    induction hothers generalizing front first with
    | nil => simpa using ListPhrase.one hfirst
    | cons hitem _ ih =>
      obtain ⟨separator, tokens, rfl, hseparator, hitem⟩ := hitem
      exact .cons hfirst hseparator (ih tokens _ hitem)

theorem listPhrase_map_iff {separates : Token → Bool} {item : Phrase α} {f : α → β}
    {tokens : List Token} {values : List β} :
    ListPhrase separates (fun tokens value => ∃ middle, item tokens middle ∧ value = f middle)
      tokens values ↔ ∃ middles, ListPhrase separates item tokens middles ∧
        values = middles.map f := by
  constructor
  · intro h
    induction h with
    | one hitem =>
      obtain ⟨middle, hmiddle, rfl⟩ := hitem
      exact ⟨[middle], .one hmiddle, rfl⟩
    | cons hitem hseparator _ ih =>
      obtain ⟨middle, hmiddle, rfl⟩ := hitem
      obtain ⟨middles, hmiddles, rfl⟩ := ih
      exact ⟨middle :: middles, .cons hmiddle hseparator hmiddles, rfl⟩
  · intro h
    obtain ⟨middles, hmiddles, rfl⟩ := h
    induction hmiddles with
    | one hitem => exact .one ⟨_, hitem, rfl⟩
    | cons hitem hseparator _ ih => exact .cons ⟨_, hitem, rfl⟩ hseparator ih

theorem Recognizes.separatedBy {item : Parser α} {phrase : Phrase α} {continues : Token → Prop}
    (h : Recognizes item phrase continues) {separates : Token → Bool} {separator : Token}
    (hwritable : separator.Writable) (hseparator : separates separator = true)
    (hdistinct : ∀ {token}, continues token → separates token = false) :
    Recognizes (separatedBy separates item) (ListPhrase separates phrase)
      (fun token => continues token ∨ separates token = true) := by
  have hmany := (h.opened hwritable hseparator).many fun {token} hcontinues => by
    simp [hdistinct hcontinues]
  have hall := h.bind (fun first => hmany.map fun others => first :: others) ?_ ?_
  · refine hall.congr ?_ ?_
    · intro tokens values
      rw [listPhrase_iff]
      constructor
      · intro h
        obtain ⟨front, back, first, rfl, hfront, others, hback, rfl⟩ := h
        exact ⟨front, back, first, others, rfl, hfront, hback, rfl⟩
      · intro h
        obtain ⟨front, back, first, others, rfl, hfront, hback, rfl⟩ := h
        exact ⟨front, back, first, rfl, hfront, others, hback, rfl⟩
    · intro token h
      rcases h with hcontinues | hopens
      · exact Or.inl hcontinues
      · by_cases hseparates : separates token = true
        · exact Or.inr hseparates
        · simp [hseparates] at hopens
  · intro first token back values h hcontinues
    obtain ⟨others, hothers, -⟩ := h
    obtain ⟨tokens, value, separator, rest, heq, hseparates, -⟩ := hothers.head (by
      intro value h
      obtain ⟨separator, rest, heq, -⟩ := h
      cases heq)
    obtain ⟨rfl, -⟩ := List.cons.inj heq
    simp [hdistinct hcontinues] at hseparates
  · exact fun _ _ => Or.inl

/-- One token of some description, with what it tells. -/
def TokenPhrase (described : Token → Prop) (tell : Token → α) : Phrase α := fun tokens value =>
  ∃ token, tokens = [token] ∧ described token ∧ value = tell token

theorem described_of_seqPhrase {described : Token → Prop} {tell : Token → α}
    {next : α → Phrase β} {token : Token} {rest : List Token} {value : β}
    (h : SeqPhrase (TokenPhrase described tell) next (token :: rest) value) : described token := by
  obtain ⟨front, back, middle, heq, ⟨first, hfront, hfirst, -⟩, -⟩ := h
  subst hfront
  exact (List.cons.inj heq).1 ▸ hfirst

theorem not_seqPhrase_token_nil {described : Token → Prop} {tell : Token → α}
    {next : α → Phrase β} {value : β} : ¬SeqPhrase (TokenPhrase described tell) next [] value := by
  intro h
  obtain ⟨middle, ⟨token, hnil, -⟩, -⟩ := h.of_nil
  cases hnil

theorem recognizesTable_token {described : Token → Prop} [DecidablePred described]
    (tell : Token → α) {witness : Token} (hwritable : witness.Writable)
    (hdescribed : described witness) :
    RecognizesTable (fun token => if described token then some (pure (tell token)) else none)
      (TokenPhrase described tell) Never where
  items {token item} hitem := by
    by_cases htoken : described token
    · obtain rfl : pure (tell token) = item := by simpa [htoken] using hitem
      refine (recognizes_pure (tell token) Never).congr ?_ fun _ => id
      intro tokens value
      constructor
      · intro h
        obtain ⟨rfl, rfl⟩ := h
        exact ⟨token, rfl, htoken, rfl⟩
      · intro h
        obtain ⟨token', heq, -, rfl⟩ := h
        obtain ⟨rfl, rfl⟩ := List.cons.inj heq
        exact ⟨rfl, rfl⟩
    · simp [htoken] at hitem
  opens := by
    intro token tokens value h
    obtain ⟨token', heq, htoken, -⟩ := h
    obtain ⟨rfl, -⟩ := List.cons.inj heq
    simp [htoken]
  nonempty := by
    intro value h
    obtain ⟨token, heq, -⟩ := h
    cases heq
  inhabited := ⟨[witness], tell witness, by simpa using hwritable, witness, rfl, hdescribed, rfl⟩

theorem recognizes_name (role : NameRole) : Recognizes (name role) NamePhrase Never := by
  have htable : RecognizesTable (fun token => if token.kind = .identifier then
      some (pure token.text) else none) (TokenPhrase (·.kind = .identifier) Token.text) Never :=
    recognizesTable_token Token.text (Token.writable_ofName Identifier.isName_x) rfl
  refine (htable.require (.name role)).congr ?_ fun _ => id
  intro tokens value
  constructor
  · intro h
    obtain ⟨token, rfl, hname, rfl⟩ := h
    exact .intro hname
  · intro h
    obtain ⟨hname⟩ := h
    exact ⟨_, rfl, hname, rfl⟩

theorem recognizes_keyword (word : Keyword) : Recognizes (keyword word)
    (TokenPhrase (fun token => token.isKeyword word = true) fun _ => ()) Never :=
  (recognizesTable_token (fun _ => ()) (Token.writable_ofKeyword word)
    (Token.isKeyword_ofKeyword word)).require (.keyword word)

theorem recognizes_dot : Recognizes (operator '.')
    (TokenPhrase (fun token => token.isOperator '.' = true) fun _ => ()) Never :=
  (recognizesTable_token (fun _ => ()) Token.writable_dot Token.isOperator_dot).require _

theorem recognizes_accept (word : Keyword) :
    Recognizes (accept word) (FlagPhrase word) (fun token => token.isKeyword word = true) := by
  have htable : RecognizesTable (fun token => if token.isKeyword word then some (pure true)
      else none) (TokenPhrase (·.isKeyword word = true) fun _ => true) Never :=
    recognizesTable_token _ (Token.writable_ofKeyword word) (Token.isKeyword_ofKeyword word)
  have hflag := (htable.mono fun token hnever =>
    show token.isKeyword word = true from hnever.elim).branch (recognizes_pure false _) ?_ ?_
  · refine hflag.congr ?_ fun _ => id
    intro tokens value
    constructor
    · intro h
      rcases h with ⟨token, rfl, hword, rfl⟩ | ⟨rfl, rfl⟩
      · exact .present hword
      · exact .absent
    · intro h
      rcases h with _ | hword
      · exact Or.inr ⟨rfl, rfl⟩
      · exact Or.inl ⟨_, rfl, hword, rfl⟩
  · intro token tokens value h
    obtain ⟨hnil, -⟩ := h
    cases hnil
  · intro value token _ hsome
    by_cases hword : token.isKeyword word = true
    · exact hword
    · simp [hword] at hsome

theorem Recognizes.commaSeparated {item : Parser α} {phrase : Phrase α} {continues : Token → Prop}
    (h : Recognizes item phrase continues)
    (hdistinct : ∀ {token}, continues token → token.isOperator ',' = false) :
    Recognizes (commaSeparated item) (ListPhrase (·.isOperator ',') phrase)
      (fun token => continues token ∨ token.isOperator ',' = true) :=
  h.separatedBy Token.writable_comma Token.isOperator_comma hdistinct

theorem recognizes_names (role : NameRole) : Recognizes (commaSeparated (name role)) NamesPhrase
    (fun token => token.isOperator ',' = true) := by
  refine ((recognizes_name role).commaSeparated (fun hnever => hnever.elim)).congr
    (fun _ _ => Iff.rfl) ?_
  intro token h
  rcases h with hnever | hcomma
  · exact hnever.elim
  · exact hcomma

end Parser

end TagGraph
