import TagGraph.Proofs.OnDemandGrammar
import TagGraph.Proofs.OnDemandWorlds

/-!
Declarations on demand. A round of the loop over them records the declaration that it has read, so a
pass between two rounds is known from the declarations that are completed. The loop comes to the
reading of all tokens at once, and compiling on demand to the result of the compiler.
-/

namespace TagGraph

namespace Model

def add (model : Model) : Declaration → Model
  | .concept value => { model with concepts := model.concepts ++ [value] }
  | .actuator value => { model with actuators := model.actuators ++ [value] }
  | .world value => { model with worlds := model.worlds ++ [value] }

theorem foldl_add (model : Model) (declarations : List Declaration) : declarations.foldl add model =
    ⟨model.concepts ++ (ofDeclarations declarations).concepts,
      model.actuators ++ (ofDeclarations declarations).actuators,
      model.worlds ++ (ofDeclarations declarations).worlds⟩ := by
  induction declarations generalizing model with
  | nil => simp [ofDeclarations]
  | cons declaration declarations ih =>
    rw [List.foldl_cons, ih]
    cases declaration <;> simp [add, ofDeclarations, List.filterMap_cons, Declaration.concept?,
      Declaration.actuator?, Declaration.world?]

theorem foldl_add_nil (declarations : List Declaration) :
    declarations.foldl add ⟨[], [], []⟩ = ofDeclarations declarations :=
  foldl_add _ declarations

end Model

namespace Reading

variable {token : Token} {rest left : List Token} {item : Parser Declaration} {fault : SyntaxFault}
  {declaration : Declaration}

theorem ofStream_nil (last : Token) : ofStream ⟨[], last⟩ =
    ⟨[], if last.isError then some (.expected .declaration, []) else none⟩ := by
  rw [ofStream, ofTokens]
  cases last.isError <;> rfl

theorem ofStream_of_not_opened (h : Declaration.opened? token = none) (rest : List Token)
    (last : Token) : ofStream ⟨token :: rest, last⟩ =
      ⟨[], some (.expected .declaration, token :: rest)⟩ := by
  have htokens : ofTokens (token :: rest) = ⟨[], some (.expected .declaration, token :: rest)⟩ := by
    rw [ofTokens, h]
  rw [ofStream, htokens]
  rfl

theorem ofStream_of_error (h : Declaration.opened? token = some item)
    (hrun : item.run rest = (.error fault, left)) (last : Token) :
    ofStream ⟨token :: rest, last⟩ = ⟨[], some (fault, left)⟩ := by
  have htokens : ofTokens (token :: rest) = ⟨[], some (fault, left)⟩ := by
    rw [ofTokens, h]
    simp only [hrun]
  rw [ofStream, htokens]
  rfl

theorem ofStream_of_ok (h : Declaration.opened? token = some item)
    (hrun : item.run rest = (.ok declaration, left)) (last : Token) :
    ofStream ⟨token :: rest, last⟩ = ⟨(declaration, left) :: (ofStream ⟨left, last⟩).completed,
      (ofStream ⟨left, last⟩).fault?⟩ := by
  have htokens : ofTokens (token :: rest) =
      ⟨(declaration, left) :: (ofTokens left).completed, (ofTokens left).fault?⟩ := by
    rw [ofTokens, h]
    simp only [hrun]
  rw [ofStream, htokens, ofStream]
  split <;> rfl

end Reading

namespace Pass

/-- The pass when these declarations are completed, each with the tokens that are left after it. -/
def completing (pass : Pass) : List (Declaration × List Token) → Pass
  | [] => pass
  | (declaration, left) :: others =>
    ((pass.skip (pass.rest.length - left.length)).record (.parsed declaration)).completing others

/-- The pass when all that it can complete is completed. -/
def completed (pass : Pass) : Pass := pass.completing (Reading.ofStream pass.ahead).completed

variable {pass : Pass}

theorem ahead_of_not_isTerminal (h : pass.current.isTerminal = false) :
    pass.ahead = ⟨pass.current :: pass.advance.rest, pass.ahead.last⟩ := by
  rw [← rest_of_not_isTerminal h]
  rfl

theorem ahead_record (pass : Pass) (event : Event) : (pass.record event).ahead = pass.ahead := rfl

theorem rest_record (pass : Pass) (event : Event) : (pass.record event).rest = pass.rest := rfl

/-- What neither advancing nor recording changes is not changed by completing declarations. -/
theorem completing_invariant {β : Type} (view : Pass → β)
    (hadvance : ∀ pass : Pass, view pass.advance = view pass)
    (hrecord : ∀ (pass : Pass) (event : Event), view (pass.record event) = view pass)
    (pass : Pass) (completed : List (Declaration × List Token)) :
    view (pass.completing completed) = view pass := by
  induction completed generalizing pass with
  | nil => rfl
  | cons entry others ih => rw [completing, ih, hrecord, skip_invariant view hadvance]

theorem last_ahead_completed (pass : Pass) : pass.completed.ahead.last = pass.ahead.last := by
  refine completing_invariant (·.ahead.last) (fun pass => ?_) (fun _ _ => rfl) _ _
  rw [ahead_advance]
  rfl

end Pass

namespace Routine

variable {α : Type} {pass : Pass}

/-- A declaration is recorded with the pass that has taken all of it. -/
theorem run_recorded {item : Routine α} {parser : Parser α} (declare : α → Declaration)
    (h : Follows item parser pass) : ∃ count, count ≤ pass.rest.length ∧
      (parser.run pass.rest).2 = pass.rest.drop count ∧
      (recorded declare item).run pass = some (match (parser.run pass.rest).1 with
        | .ok value => (.ok value, (pass.skip count).record (.parsed (declare value)))
        | .error fault => (.error fault, pass.skip count)) := by
  obtain ⟨count, hle, hrun, hrest⟩ := h
  refine ⟨count, hle, hrest, ?_⟩
  cases hresult : (parser.run pass.rest).1 with
  | ok value =>
    rw [hresult] at hrun
    exact run_bind_of_ok hrun _
  | error fault =>
    rw [hresult] at hrun
    exact run_bind_of_error hrun _

/-- What the round for a token that opens a declaration comes to. -/
def Declares (model : Model) (pass : Pass) (item : Parser Declaration)
    (routine : Routine (Model ⊕ Model)) : Prop :=
  ∃ count, count ≤ pass.advance.rest.length ∧
    (item.run pass.advance.rest).2 = pass.advance.rest.drop count ∧
    routine.run pass = some (match (item.run pass.advance.rest).1 with
      | .ok declaration => (.ok (.inl (model.add declaration)),
          (pass.skip (count + 1)).record (.parsed declaration))
      | .error fault => (.error fault, pass.skip (count + 1)))

theorem Declares.of_keyword {word : Keyword} {declare : α → Declaration} {rest : Routine α}
    {parser : Parser α} {make : α → Model} {model : Model}
    (hcurrent : pass.current.isKeyword word = true) (hrest : ∀ pass, Follows rest parser pass)
    (hmake : ∀ value, model.add (declare value) = make value) :
    Declares model pass (declare <$> parser)
      (do return .inl (make (← recorded declare do keyword word; rest))) := by
  have hopened : (recorded declare do keyword word; rest).run pass =
      (recorded declare rest).run pass.advance := by
    have hexpect : (keyword word).run pass = some (.ok (), pass.advance) :=
      run_bind_of_ok (run_accept_of_pos hcurrent) _
    rw [recorded, bind_assoc, run_bind_of_ok hexpect]
    rfl
  obtain ⟨count, hle, hleft, hrun⟩ := run_recorded declare (hrest pass.advance)
  rw [← hopened] at hrun
  refine ⟨count, hle, ?_, ?_⟩
  · rw [Parser.run_map]
    exact hleft
  · rw [Parser.run_map]
    cases hresult : (parser.run pass.advance.rest).1 with
    | ok value =>
      rw [hresult] at hrun
      rw [run_bind_of_ok hrun, ← hmake]
      rfl
    | error fault =>
      rw [hresult] at hrun
      exact run_bind_of_error hrun _

theorem run_if_sees (described : Token → Bool) (taken left : Routine α) (pass : Pass) :
    (do if ← sees described then taken else left).run pass =
      if described pass.current then taken.run pass else left.run pass := by
  rw [run_bind_of_ok (run_sees described pass)]
  split <;> rfl

theorem opened?_of_isTerminal {token : Token} (h : token.isTerminal = true) :
    Declaration.opened? token = none := by
  have hplain (word : Keyword) : ¬token.isKeyword word = true := by
    simp [plain_keyword word token h]
  rw [Declaration.opened?, if_neg (hplain .CONCEPT), if_neg (hplain .WHERE), if_neg (hplain .WORLD)]

theorem not_isTerminal_of_opened {item : Parser Declaration}
    (h : Declaration.opened? pass.current = some item) : pass.current.isTerminal = false := by
  cases hterminal : pass.current.isTerminal with
  | false => rfl
  | true =>
    rw [opened?_of_isTerminal hterminal] at h
    cases h

theorem run_declarationRound_of_opened {item : Parser Declaration} (model : Model)
    (h : Declaration.opened? pass.current = some item) :
    Declares model pass item (declarationRound model) := by
  have hend : pass.current.isEndOfInput = false :=
    (Bool.or_eq_false_iff.mp (not_isTerminal_of_opened h)).1
  rw [Declares, declarationRound, run_if_sees, hend, if_neg Bool.false_ne_true, run_if_sees]
  rw [Declaration.opened?] at h
  split at h
  · next hconcept =>
    obtain rfl := Option.some.inj h
    rw [if_pos hconcept]
    exact Declares.of_keyword hconcept conceptRest_follows fun _ => rfl
  split at h
  · next hconcept hwhere =>
    obtain rfl := Option.some.inj h
    rw [if_neg hconcept, run_if_sees, if_pos hwhere]
    exact Declares.of_keyword hwhere actuatorRest_follows fun _ => rfl
  split at h
  · next hconcept hwhere hworld =>
    obtain rfl := Option.some.inj h
    rw [if_neg hconcept, run_if_sees, if_neg hwhere, run_if_sees, if_pos hworld]
    exact Declares.of_keyword hworld worldRest_follows fun _ => rfl
  · cases h

theorem run_declarationRound_of_not_opened (model : Model)
    (h : Declaration.opened? pass.current = none) : (declarationRound model).run pass =
      some (if pass.current.isEndOfInput then .ok (.inr model)
        else .error (.expected .declaration), pass) := by
  rw [declarationRound, run_if_sees]
  cases hend : pass.current.isEndOfInput with
  | true => rfl
  | false =>
    rw [Declaration.opened?] at h
    split at h
    · cases h
    next hconcept =>
    split at h
    · cases h
    next hwhere =>
    split at h
    · cases h
    next hworld =>
    rw [if_neg Bool.false_ne_true, run_if_sees, if_neg hconcept, run_if_sees, if_neg hwhere,
      run_if_sees, if_neg hworld]
    rfl

theorem declarationRound_progresses : Progresses declarationRound := by
  intro model pass
  cases hopened : Declaration.opened? pass.current with
  | none =>
    refine ⟨_, [], _, run_declarationRound_of_not_opened model hopened, (List.append_nil _).symm,
      List.forall_mem_nil _, fun model' hresult => ?_⟩
    split at hresult <;> cases hresult
  | some item =>
    obtain ⟨count, hle, -, hrun⟩ := run_declarationRound_of_opened model hopened
    have hrest := Pass.rest_of_not_isTerminal (not_isTerminal_of_opened hopened)
    obtain ⟨taken, hlength, htaken, hconsumed, hremaining⟩ := @Pass.skip_of_le pass (count + 1)
      (by rw [hrest, List.length_cons]; omega)
    have hsome : taken ≠ [] := List.ne_nil_of_length_eq_add_one hlength
    cases hresult : (item.run pass.advance.rest).1 with
    | ok declaration =>
      rw [hresult] at hrun
      exact ⟨_, taken, _, hrun, hconsumed, htaken, fun _ _ => ⟨hsome, by
        change (pass.skip (count + 1)).remaining < _
        omega⟩⟩
    | error fault =>
      rw [hresult] at hrun
      exact ⟨_, taken, _, hrun, hconsumed, htaken, nofun⟩

/-- The loop over declarations comes to the reading of what is ahead, at the pass that has completed
the declarations of that reading. -/
def Completes (model : Model) (pass : Pass) : Prop :=
  ∃ result count, count ≤ pass.completed.rest.length ∧
    (loop declarationRound model).run pass = some (result, pass.completed.skip count) ∧
    match (Reading.ofStream pass.ahead).fault? with
    | some (fault, left) => result = .error fault ∧ left = pass.completed.rest.drop count
    | none => result = .ok ((Reading.ofStream pass.ahead).declarations.foldl Model.add model) ∧
        pass.completed.rest = []

theorem completes_of_isTerminal (model : Model) (h : pass.current.isTerminal = true) :
    Completes model pass := by
  have hrun := run_declarationRound_of_not_opened model (opened?_of_isTerminal h)
  have hahead : pass.ahead = ⟨[], pass.current⟩ := by rw [Pass.ahead, if_pos h]
  have hreading := Reading.ofStream_nil pass.current
  rw [← hahead] at hreading
  have hcompleted : pass.completed = pass := by rw [Pass.completed, hreading]; rfl
  have hrest := Pass.rest_of_isTerminal h
  rw [Completes, hcompleted, hreading, loop_eq]
  cases hend : pass.current.isEndOfInput with
  | true =>
    have herror : pass.current.isError = false := by simp_all [Token.isEndOfInput, Token.isError]
    rw [hend] at hrun
    rw [herror]
    exact ⟨_, 0, Nat.zero_le _, run_bind_of_ok hrun _, rfl, hrest⟩
  | false =>
    have herror : pass.current.isError = true := by
      rwa [Token.isTerminal, hend, Bool.false_or] at h
    rw [hend] at hrun
    rw [herror]
    exact ⟨_, 0, Nat.zero_le _, run_bind_of_error hrun _, rfl, hrest.symm⟩

theorem completes_of_not_opened (model : Model) (hplain : pass.current.isTerminal = false)
    (h : Declaration.opened? pass.current = none) : Completes model pass := by
  have hend : pass.current.isEndOfInput = false := (Bool.or_eq_false_iff.mp hplain).1
  have hrun := run_declarationRound_of_not_opened model h
  have hreading := Reading.ofStream_of_not_opened h pass.advance.rest pass.ahead.last
  rw [← Pass.ahead_of_not_isTerminal hplain] at hreading
  have hcompleted : pass.completed = pass := by rw [Pass.completed, hreading]; rfl
  rw [hend] at hrun
  rw [Completes, hcompleted, hreading, loop_eq]
  exact ⟨_, 0, Nat.zero_le _, run_bind_of_error hrun _, rfl,
    (Pass.rest_of_not_isTerminal hplain).symm⟩

theorem completes_of_opened {item : Parser Declaration} (model : Model)
    (h : Declaration.opened? pass.current = some item)
    (hnext : ∀ model' pass', (declarationRound model).run pass = some (.ok (.inl model'), pass') →
      Completes model' pass') : Completes model pass := by
  have hplain := not_isTerminal_of_opened h
  have hahead := Pass.ahead_of_not_isTerminal hplain
  have hrest := Pass.rest_of_not_isTerminal hplain
  obtain ⟨count, hle, hleft, hrun⟩ := run_declarationRound_of_opened model h
  cases hitem : item.run pass.advance.rest with
  | mk outcome left =>
  rw [hitem] at hleft hrun
  obtain rfl : left = _ := hleft
  cases outcome with
  | error fault =>
    have hreading := Reading.ofStream_of_error h hitem pass.ahead.last
    rw [← hahead] at hreading
    have hcompleted : pass.completed = pass := by rw [Pass.completed, hreading]; rfl
    rw [Completes, hcompleted, hreading, loop_eq, hrest]
    exact ⟨_, count + 1, Nat.succ_le_succ hle, run_bind_of_error hrun _, rfl, rfl⟩
  | ok declaration =>
    have hreading := Reading.ofStream_of_ok h hitem pass.ahead.last
    rw [← hahead] at hreading
    obtain ⟨result, more, hmore, hrun', hresult⟩ := hnext _ _ hrun
    have hpass : ((pass.skip (count + 1)).record (.parsed declaration)).ahead =
        ⟨pass.advance.rest.drop count, pass.ahead.last⟩ := by
      rw [Pass.ahead_record, Pass.ahead_skip, hahead]
      rfl
    have hcompleted : ((pass.skip (count + 1)).record (.parsed declaration)).completed =
        pass.completed := by
      have hcount : pass.rest.length - (pass.advance.rest.drop count).length = count + 1 := by
        rw [hrest, List.length_cons, List.length_drop]
        omega
      rw [Pass.completed, Pass.completed, hpass, hreading, Pass.completing, hcount]
    rw [hpass, hcompleted] at hresult
    rw [hcompleted] at hmore hrun'
    rw [Completes, hreading, loop_eq, run_bind_of_ok hrun]
    exact ⟨result, more, hmore, hrun', hresult⟩

theorem completes (model : Model) (pass : Pass) : Completes model pass := by
  induction model, pass using declarationRound_progresses.induction with
  | step model pass ih =>
    cases hopened : Declaration.opened? pass.current with
    | some item => exact completes_of_opened model hopened ih
    | none =>
      cases hterminal : pass.current.isTerminal with
      | true => exact completes_of_isTerminal model hterminal
      | false => exact completes_of_not_opened model hterminal hopened

/-- Compiling ends with the result of the compiler, which it records last. -/
theorem exists_compile_eq (options : Options) (source : String) : ∃ count,
    count ≤ (Pass.start options.recordsTokens source).completed.rest.length ∧
    compile options source = some (compileWith options source,
      ((Pass.start options.recordsTokens source).completed.skip count).record
        (Event.outcome options (compileWith options source))) ∧
    match (Reading.ofStream (TokenStream.ofSource source)).fault? with
    | some (_, left) => left = (Pass.start options.recordsTokens source).completed.rest.drop count
    | none => (Pass.start options.recordsTokens source).completed.rest = [] := by
  obtain ⟨result, count, hle, hrun, hresult⟩ :=
    completes ⟨[], [], []⟩ (Pass.start options.recordsTokens source)
  have hlast := Pass.last_ahead_completed (Pass.start options.recordsTokens source)
  rw [Pass.ahead_start] at hlast hresult
  generalize (Pass.start options.recordsTokens source).completed = pass at hle hrun hresult hlast ⊢
  refine ⟨count, hle, ?_, ?_⟩
  · rw [compile, model, hrun, compileWith]
    cases hfault : (Reading.ofStream (TokenStream.ofSource source)).fault? with
    | none =>
      rw [hfault] at hresult
      rw [hresult.1, Model.foldl_add_nil]
      rfl
    | some refused =>
      obtain ⟨fault, left⟩ := refused
      rw [hfault] at hresult
      obtain ⟨rfl, rfl⟩ := hresult
      have hcurrent : (pass.skip count).current =
          (TokenStream.ofSource source).lookahead (pass.rest.drop count) := by
        rw [Pass.current_eq, Pass.rest_skip, TokenStream.lookahead, TokenStream.lookahead, ← hlast,
          Pass.ahead_skip]
        rfl
      simp only [← hcurrent]
      rfl
  · cases hfault : (Reading.ofStream (TokenStream.ofSource source)).fault? with
    | none =>
      rw [hfault] at hresult
      exact hresult.2
    | some refused =>
      rw [hfault] at hresult
      exact hresult.2

end Routine

end TagGraph
