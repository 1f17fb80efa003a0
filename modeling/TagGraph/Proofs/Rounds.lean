import TagGraph.Proofs.Lookahead

/-!
Repetitions round by round. A repetition is one round and then, unless that was the last, the
repetition again, from the state in which the round left it. A round after which another one follows
has read something.
-/

namespace TagGraph.Parser

variable {α β σ τ : Type}

theorem run_bind_congr {left right : Parser α} {tokens tokens' : List Token}
    (h : left.run tokens = right.run tokens') (next : α → Parser β) :
    (left >>= next).run tokens = (right >>= next).run tokens' := by
  rw [run_bind, run_bind, bindRun, bindRun, h]

theorem branch_none (otherwise : Parser α) : branch (fun _ => none) otherwise = otherwise := by
  ext1
  funext tokens
  cases tokens <;> rfl

theorem branch_bind (choice? : Token → Option (Parser α)) (otherwise : Parser α)
    (next : α → Parser β) : branch choice? otherwise >>= next =
      branch (fun token => (choice? token).map (· >>= next)) (otherwise >>= next) := by
  ext1
  funext tokens
  cases tokens with
  | nil => rfl
  | cons token rest =>
    cases hchoice : choice? token with
    | none => simp [run_bind, bindRun, run_branch_of_none, hchoice]
    | some item => simp [run_bind, bindRun, branch, branchRun, hchoice]

def roundRun (step : Token → Step α) (push : α → σ) (ending : Parser β) :
    List Token → Except SyntaxFault (σ ⊕ β) × List Token
  | [] => (Sum.inr <$> ending).run []
  | token :: rest =>
    match step token with
    | .stop => (Sum.inr <$> ending).run (token :: rest)
    | .reject fault => (.error fault, token :: rest)
    | .take item => ((fun value => Sum.inl (push value)) <$> item).run rest

theorem roundRun_suffix (step : Token → Step α) (push : α → σ) (ending : Parser β)
    (tokens : List Token) : (roundRun step push ending tokens).2 <:+ tokens := by
  unfold roundRun
  split
  · exact run_suffix _ _
  · split
    · exact run_suffix _ _
    · exact List.suffix_refl _
    · exact (run_suffix _ _).trans (List.suffix_cons _ _)

/-- A round of a repetition. It takes one more item into the state, or it is the last one. -/
def round (step : Token → Step α) (push : α → σ) (ending : Parser β) : Parser (σ ⊕ β) :=
  ⟨roundRun step push ending, roundRun_suffix step push ending⟩

section round

variable {step : Token → Step α} {push : α → σ} {ending : Parser β} {token : Token}
  {rest : List Token}

theorem run_round_of_stop (h : step token = .stop) : (round step push ending).run (token :: rest) =
    (Sum.inr <$> ending : Parser (σ ⊕ β)).run (token :: rest) := by
  simp [round, roundRun, h]

theorem run_round_of_reject {fault : SyntaxFault} (h : step token = .reject fault) :
    (round step push ending).run (token :: rest) = (.error fault, token :: rest) := by
  simp [round, roundRun, h]

theorem run_round_of_take {item : Parser α} (h : step token = .take item) :
    (round step push ending).run (token :: rest) =
      ((fun value => Sum.inl (push value)) <$> item : Parser (σ ⊕ β)).run rest := by
  simp [round, roundRun, h]

end round

/-- Another round follows only where something has been read. -/
def Takes (parser : Parser (σ ⊕ β)) : Prop :=
  ∀ ⦃tokens left : List Token⦄ ⦃state : σ⦄, parser.run tokens = (.ok (.inl state), left) →
    left.length < tokens.length

theorem map_inr_ne {ending : Parser β} {tokens left : List Token} {state : σ} :
    (Sum.inr <$> ending : Parser (σ ⊕ β)).run tokens ≠ (.ok (.inl state), left) := by
  rw [run_map]
  cases (ending.run tokens).1 <;> simp [Except.map]

theorem takes_round (step : Token → Step α) (push : α → σ) (ending : Parser β) :
    (round step push ending).Takes := by
  intro tokens left state h
  cases tokens with
  | nil => exact absurd h map_inr_ne
  | cons token rest =>
    cases hstep : step token with
    | stop => exact absurd (run_round_of_stop hstep ▸ h) map_inr_ne
    | reject fault =>
      rw [run_round_of_reject hstep] at h
      cases h
    | take item =>
      rw [run_round_of_take hstep] at h
      obtain ⟨read, rfl⟩ := exists_read h
      rw [List.length_cons, List.length_append]
      omega

/-- States that come to the same steps make no difference to a repetition. -/
theorem repeatRun_congr {step : σ → Token → Step α} {step' : τ → Token → Step α} {move : σ → α → σ}
    {move' : τ → α → τ} {alike : σ → τ → Prop}
    (hstep : ∀ state state', alike state state' → step state = step' state')
    (hmove : ∀ state state' value, alike state state' →
      alike (move state value) (move' state' value)) (state : σ) (tokens : List Token) :
    ∀ state', alike state state' →
      repeatRun step move state tokens = repeatRun step' move' state' tokens := by
  fun_induction repeatRun step move state tokens with
  | case1 state =>
    intro state' _
    rw [repeatRun]
  | case2 state token rest hstop =>
    intro state' h
    rw [hstep _ _ h] at hstop
    rw [repeatRun_of_stop hstop]
  | case3 state token rest fault hreject =>
    intro state' h
    rw [hstep _ _ h] at hreject
    rw [repeatRun_of_reject hreject]
  | case4 state token rest item htake outcome _ fault hfault =>
    intro state' h
    rw [hstep _ _ h] at htake
    rw [repeatRun_of_error htake (Prod.ext hfault rfl)]
  | case5 state token rest item htake outcome _ value hvalue others ih =>
    intro state' h
    rw [hstep _ _ h] at htake
    rw [repeatRun_of_ok htake (Prod.ext hvalue rfl), ← ih _ (hmove _ _ _ h)]

theorem repeated_congr {step : σ → Token → Step α} {step' : τ → Token → Step α} {move : σ → α → σ}
    {move' : τ → α → τ} {alike : σ → τ → Prop}
    (hstep : ∀ state state', alike state state' → step state = step' state')
    (hmove : ∀ state state' value, alike state state' →
      alike (move state value) (move' state' value)) {state : σ} {state' : τ}
    (h : alike state state') : repeated step move state = repeated step' move' state' :=
  Parser.ext (funext fun tokens => repeatRun_congr hstep hmove state tokens state' h)

theorem many_eq_repeated (choice? : Token → Option (Parser α)) (push : σ → α → σ) (state : σ) :
    many choice? = repeated (fun _ token => Step.ofChoice (choice? token)) push state :=
  @repeated_congr _ _ _ _ _ _ _ (fun _ _ => True) (fun _ _ _ => rfl) (fun _ _ _ _ => trivial) _ _
    trivial

/-- A repetition is made up of its rounds. -/
theorem repeated_bind_eq (step : σ → Token → Step α) (push : σ → α → σ) (ending : σ → Parser β)
    (state : σ) : (repeated step push state >>= fun values => ending (values.foldl push state)) =
      round (step state) (push state) (ending state) >>= Sum.elim
        (fun state => repeated step push state >>= fun values => ending (values.foldl push state))
          pure := by
  ext1
  funext tokens
  cases tokens with
  | nil =>
    rw [run_bind_of_ok (repeatRun.eq_1 _ _ _),
      @run_bind_congr _ _ _ (Sum.inr <$> ending state) _ []]
    · simp
    · rfl
  | cons token rest =>
    cases hstep : step state token with
    | stop =>
      rw [run_bind_of_ok (repeatRun_of_stop hstep), run_bind_congr (run_round_of_stop hstep)]
      simp
    | reject fault =>
      rw [run_bind_of_error (repeatRun_of_reject hstep),
        run_bind_of_error (run_round_of_reject hstep)]
    | take item =>
      rw [run_bind_congr (run_round_of_take hstep), bind_map_left]
      cases hitem : item.run rest with
      | mk result left =>
        cases result with
        | error fault =>
          rw [run_bind_of_error (repeatRun_of_error hstep hitem), run_bind_of_error hitem]
        | ok value =>
          have hothers : (repeated step push state).run (token :: rest) =
              ((value :: ·) <$> repeated step push (push state value)).run left := by
            rw [run_map]
            exact repeatRun_of_ok hstep hitem
          rw [run_bind_congr hothers, run_bind_of_ok hitem, bind_map_left]
          rfl

theorem many_eq_branch (choice? : Token → Option (Parser α)) : many choice? =
    branch (fun token => (choice? token).map fun item => do
      let value ← item
      (value :: ·) <$> many choice?) (pure []) := by
  ext1
  funext tokens
  cases tokens with
  | nil => exact run_many_nil choice?
  | cons token rest =>
    cases hchoice : choice? token with
    | none => rw [run_many_of_none hchoice, run_branch_of_none (by rw [hchoice]; rfl), run_pure]
    | some item =>
      rw [run_branch_of_some (by rw [hchoice]; rfl)]
      cases hitem : item.run rest with
      | mk result left =>
        cases result with
        | error fault => rw [run_many_of_error hchoice hitem, run_bind_of_error hitem]
        | ok value => rw [run_many_of_ok hchoice hitem, run_bind_of_ok hitem, run_map]

/-- After a separator a list begins again. -/
theorem separatedBy_eq (separates : Token → Bool) (item : Parser α) :
    separatedBy separates item = item >>= fun value =>
      branch (fun token =>
        if separates token then some ((value :: ·) <$> separatedBy separates item) else none)
          (pure [value]) := by
  refine bind_congr fun value => ?_
  rw [many_eq_branch, branch_bind, pure_bind]
  refine congrArg (branch · _) (funext fun token => ?_)
  split
  · simp [separatedBy]
  · rfl

/-- A round of a list in which the item comes first, and then the comma before another round. -/
def listedRound (item : Parser α) (items : List α) : Parser (List α ⊕ List α) :=
  item >>= fun value => branch
    (fun token => if token.isOperator ',' then some (pure (.inl (items ++ [value]))) else none)
      (pure (.inr (items ++ [value])))

theorem takes_listedRound (item : Parser α) (items : List α) : (listedRound item items).Takes := by
  intro tokens left state h
  obtain ⟨read, rfl⟩ := exists_read h
  rcases run_bind_cases h with ⟨_, hresult, -⟩ | ⟨front, back, value, rfl, -, hbranch⟩
  · cases hresult
  rcases run_branch_cases hbranch with ⟨token, after, _, rfl, -⟩ | ⟨-, hend⟩
  · simp only [List.length_append, List.length_cons]
    omega
  · cases hend

theorem listedRound_bind_eq (item : Parser α) (items : List α) :
    (items ++ ·) <$> commaSeparated item = listedRound item items >>=
      Sum.elim (fun items => (items ++ ·) <$> commaSeparated item) pure := by
  conv => lhs; rw [commaSeparated, separatedBy_eq, map_bind]
  rw [listedRound, bind_assoc]
  refine bind_congr fun value => ?_
  rw [branch_bind, map_eq_pure_bind, branch_bind, pure_bind, pure_bind]
  refine congrArg (branch · _) (funext fun token => ?_)
  split
  · simp [commaSeparated]
  · rfl

end TagGraph.Parser
