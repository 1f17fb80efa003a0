import TagGraph.SyntaxFault

/-!
Parsers over a list of tokens. A parser reads tokens from the front and says what they amount to, or
stops at the first one that cannot stand there. Either way what it leaves is a suffix of what it was
given, so a repetition that takes a token in every round ends by the length of the list.
-/

namespace TagGraph

@[ext]
structure Parser (α : Type) where
  run : List Token → Except SyntaxFault α × List Token
  run_suffix : ∀ tokens, (run tokens).2 <:+ tokens

namespace Parser

variable {α β : Type}

protected def pure (value : α) : Parser α := ⟨fun tokens => (.ok value, tokens), List.suffix_refl⟩

/-- Refuses the next token without reading it. -/
def fail (fault : SyntaxFault) : Parser α :=
  ⟨fun tokens => (.error fault, tokens), List.suffix_refl⟩

def bindRun (first : Parser α) (next : α → Parser β) (tokens : List Token) :
    Except SyntaxFault β × List Token :=
  match first.run tokens with
  | (.error fault, rest) => (.error fault, rest)
  | (.ok value, rest) => (next value).run rest

theorem bindRun_suffix (first : Parser α) (next : α → Parser β) (tokens : List Token) :
    (bindRun first next tokens).2 <:+ tokens := by
  have hfirst := first.run_suffix tokens
  unfold bindRun
  split
  · next h => simpa [h] using hfirst
  · next value rest h => exact ((next value).run_suffix rest).trans (by simpa [h] using hfirst)

protected def bind (first : Parser α) (next : α → Parser β) : Parser β :=
  ⟨bindRun first next, bindRun_suffix first next⟩

instance : Monad Parser where
  pure := Parser.pure
  bind := Parser.bind

@[simp]
theorem run_pure (value : α) (tokens : List Token) :
    (pure value : Parser α).run tokens = (.ok value, tokens) := rfl

theorem run_bind (first : Parser α) (next : α → Parser β) (tokens : List Token) :
    (first >>= next).run tokens = bindRun first next tokens := rfl

theorem run_bind_of_ok {first : Parser α} {tokens rest : List Token} {value : α}
    (h : first.run tokens = (.ok value, rest)) (next : α → Parser β) :
    (first >>= next).run tokens = (next value).run rest := by
  simp [run_bind, bindRun, h]

theorem run_bind_of_error {first : Parser α} {tokens rest : List Token} {fault : SyntaxFault}
    (h : first.run tokens = (.error fault, rest)) (next : α → Parser β) :
    (first >>= next).run tokens = (.error fault, rest) := by
  simp [run_bind, bindRun, h]

protected theorem bind_pure (item : Parser α) : item >>= pure = item := by
  ext1
  funext tokens
  rw [run_bind]
  unfold bindRun
  split <;> simp [*]

protected theorem bind_assoc {γ : Type} (item : Parser α) (next : α → Parser β)
    (after : β → Parser γ) :
    (item >>= next) >>= after = item >>= fun value => next value >>= after := by
  ext1
  funext tokens
  simp only [run_bind, bindRun]
  cases item.run tokens with
  | mk result rest => cases result <;> rfl

instance : LawfulMonad Parser :=
  LawfulMonad.mk' Parser Parser.bind_pure (fun _ _ => rfl) Parser.bind_assoc

theorem run_map (f : α → β) (item : Parser α) (tokens : List Token) :
    (f <$> item).run tokens = ((item.run tokens).1.map f, (item.run tokens).2) := by
  change bindRun item (fun value => pure (f value)) tokens = _
  unfold bindRun
  split <;> simp [*, Except.map]

/-- Whether the next token is as described; it is not read. -/
def nextIs (described : Token → Bool) : Parser Bool :=
  ⟨fun tokens => (.ok (tokens.head?.any described), tokens), List.suffix_refl⟩

def branchRun (choice? : Token → Option (Parser α)) (otherwise : Parser α) :
    List Token → Except SyntaxFault α × List Token
  | [] => otherwise.run []
  | token :: rest =>
    match choice? token with
    | some item => item.run rest
    | none => otherwise.run (token :: rest)

theorem branchRun_suffix (choice? : Token → Option (Parser α)) (otherwise : Parser α)
    (tokens : List Token) : (branchRun choice? otherwise tokens).2 <:+ tokens := by
  unfold branchRun
  split
  · exact otherwise.run_suffix []
  · split
    · next item _ => exact (item.run_suffix _).trans (List.suffix_cons _ _)
    · exact otherwise.run_suffix _

/-- Reads the next token and goes on as the table says for it; a token that the table does not list
stays, and `otherwise` goes on there. -/
def branch (choice? : Token → Option (Parser α)) (otherwise : Parser α) : Parser α :=
  ⟨branchRun choice? otherwise, branchRun_suffix choice? otherwise⟩

theorem run_branch_of_some {choice? : Token → Option (Parser α)} {token : Token} {item : Parser α}
    (h : choice? token = some item) (otherwise : Parser α) (rest : List Token) :
    (branch choice? otherwise).run (token :: rest) = item.run rest := by
  simp [branch, branchRun, h]

theorem run_branch_of_none {choice? : Token → Option (Parser α)} {token : Token}
    (h : choice? token = none) (otherwise : Parser α) (rest : List Token) :
    (branch choice? otherwise).run (token :: rest) = otherwise.run (token :: rest) := by
  simp [branch, branchRun, h]

/-- What a repetition does at a token: it ends, refuses the token, or reads it and then one item. -/
inductive Step (α : Type)
  | stop
  | reject (fault : SyntaxFault)
  | take (item : Parser α)

/-- The step depends on a state, which every item that is read moves on. -/
def repeatRun {σ : Type} (step : σ → Token → Step α) (move : σ → α → σ) (state : σ) :
    List Token → Except SyntaxFault (List α) × List Token
  | [] => (.ok [], [])
  | token :: rest =>
    match step state token with
    | .stop => (.ok [], token :: rest)
    | .reject fault => (.error fault, token :: rest)
    | .take item =>
      let outcome := item.run rest
      have : (item.run rest).2.length ≤ rest.length := (item.run_suffix rest).length_le
      match outcome.1 with
      | .error fault => (.error fault, outcome.2)
      | .ok value =>
        let others := repeatRun step move (move state value) outcome.2
        (others.1.map (value :: ·), others.2)
termination_by tokens => tokens.length

section repeatRun

variable {σ : Type} {step : σ → Token → Step α} {move : σ → α → σ} {state : σ} {token : Token}
  {rest left : List Token} {item : Parser α} {fault : SyntaxFault} {value : α}

theorem repeatRun_of_stop (h : step state token = .stop) :
    repeatRun step move state (token :: rest) = (.ok [], token :: rest) := by
  rw [repeatRun]
  simp [h]

theorem repeatRun_of_reject (h : step state token = .reject fault) :
    repeatRun step move state (token :: rest) = (.error fault, token :: rest) := by
  rw [repeatRun]
  simp [h]

theorem repeatRun_of_error (h : step state token = .take item)
    (hitem : item.run rest = (.error fault, left)) :
    repeatRun step move state (token :: rest) = (.error fault, left) := by
  rw [repeatRun]
  simp [h, hitem]

theorem repeatRun_of_ok (h : step state token = .take item)
    (hitem : item.run rest = (.ok value, left)) :
    repeatRun step move state (token :: rest) =
      ((repeatRun step move (move state value) left).1.map (value :: ·),
        (repeatRun step move (move state value) left).2) := by
  rw [repeatRun]
  simp [h, hitem]

theorem repeatRun_suffix (step : σ → Token → Step α) (move : σ → α → σ) (state : σ)
    (tokens : List Token) : (repeatRun step move state tokens).2 <:+ tokens := by
  fun_induction repeatRun step move state tokens with
  | case1 => exact List.suffix_refl _
  | case2 => exact List.suffix_refl _
  | case3 => exact List.suffix_refl _
  | case4 state token rest item _ outcome =>
    exact (item.run_suffix rest).trans (List.suffix_cons _ _)
  | case5 state token rest item _ outcome _ value _ others ih =>
    exact (ih.trans (item.run_suffix rest)).trans (List.suffix_cons _ _)

end repeatRun

def repeated {σ : Type} (step : σ → Token → Step α) (move : σ → α → σ) (state : σ) :
    Parser (List α) :=
  ⟨repeatRun step move state, repeatRun_suffix step move state⟩

/-- Items for as long as the table lists the next token. -/
def many (choice? : Token → Option (Parser α)) : Parser (List α) :=
  repeated (fun _ token =>
    match choice? token with
    | some item => .take item
    | none => .stop) (fun _ _ => ()) ()

def optional (choice? : Token → Option (Parser α)) : Parser (Option α) :=
  branch (fun token => (choice? token).map fun item => some <$> item) (pure none)

def require (what : Expectation) (choice? : Token → Option (Parser α)) : Parser α :=
  branch choice? (fail (.expected what))

/-- Reads the keyword if it comes next, and tells whether it did. -/
def accept (word : Keyword) : Parser Bool :=
  branch (fun token => if token.isKeyword word then some (pure true) else none) (pure false)

def keyword (word : Keyword) : Parser Unit :=
  require (.keyword word) fun token => if token.isKeyword word then some (pure ()) else none

def operator (symbol : Char) : Parser Unit :=
  require (.operator symbol) fun token => if token.isOperator symbol then some (pure ()) else none

def name (role : NameRole) : Parser String :=
  require (.name role) fun token =>
    if token.kind = .identifier then some (pure token.text) else none

/-- At least one item, and another one for every separator that follows. -/
def separatedBy (isSeparator : Token → Bool) (item : Parser α) : Parser (List α) := do
  let first ← item
  let others ← many fun token => if isSeparator token then some item else none
  return first :: others

def commaSeparated (item : Parser α) : Parser (List α) := separatedBy (·.isOperator ',') item

end Parser

end TagGraph
