import TagGraph.EventLog
import TagGraph.Reader

/-!
Reading on demand. A pass over a text looks at one token and asks the reader for the next one only
when it has taken that one; on the way it records its events. A routine is a program that works in
this way, with loops that nothing bounds, so that it may well fail to end.
-/

namespace TagGraph

/-- The current token is the last one that the reader gave out, but for the text of a name, which
may have been moved out of it. The tokens before it were consumed. -/
structure Pass where
  reader : Reader
  current : Token
  consumed : List Token
  recordsTokens : Bool
  log : List Event
  given : ∃ text, reader.current? = some { current with text := text } ∧
    (current.kind ≠ .identifier → text = current.text)

namespace Pass

/-- Asks the reader for a token to look at. -/
def look (reader : Reader) (consumed : List Token) (recordsTokens : Bool) (log : List Event) :
    Pass where
  reader := reader.next.2
  current := reader.next.1
  consumed := consumed
  recordsTokens := recordsTokens
  log := if recordsTokens then log ++ [.token reader.next.1] else log
  given := ⟨_, reader.current?_next, fun _ => rfl⟩

def start (recordsTokens : Bool) (source : String) : Pass :=
  look (Reader.ofText Keyword.reserved source) [] recordsTokens []

def advance (pass : Pass) : Pass :=
  look pass.reader (pass.consumed ++ pass.reader.current?.toList) pass.recordsTokens pass.log

def record (pass : Pass) (event : Event) : Pass := { pass with log := pass.log ++ [event] }

/-- The pass after the text of a name has been moved out of the current token. -/
def withoutText (pass : Pass) : Pass :=
  if h : pass.current.kind = .identifier then
    { pass with
      current := { pass.current with text := "" }
      given := by
        obtain ⟨text, hgiven, -⟩ := pass.given
        exact ⟨text, hgiven, fun hkind => absurd h hkind⟩ }
  else pass

end Pass

/-- A program over a pass. It returns a value or refuses the current token, if it ends at all. -/
abbrev Routine (α : Type) := ExceptT SyntaxFault (StateT Pass Option) α

namespace Routine

variable {α β σ : Type}

/-- There is no result where the routine never ends. -/
def run (routine : Routine α) (pass : Pass) : Option (Except SyntaxFault α × Pass) :=
  StateT.run (ExceptT.run routine) pass

def current : Routine Token := fun pass => some (.ok pass.current, pass)

def advance : Routine Unit := fun pass => some (.ok (), pass.advance)

def record (event : Event) : Routine Unit := fun pass => some (.ok (), pass.record event)

/-- Moves the text out of the current token. -/
def takeText : Routine String := fun pass => some (.ok pass.current.text, pass.withoutText)

def sees (described : Token → Bool) : Routine Bool := do return described (← current)

/-- Takes the current token if it is as described, and tells whether it is. -/
def accept (described : Token → Bool) : Routine Bool := do
  let found ← sees described
  if found then advance
  return found

def expect (what : Expectation) (described : Token → Bool) : Routine Unit := do
  if ← accept described then return ()
  else throw (.expected what)

def keyword (word : Keyword) : Routine Unit := expect (.keyword word) (·.isKeyword word)

def operator (symbol : Char) : Routine Unit := expect (.operator symbol) (·.isOperator symbol)

def name (role : NameRole) : Routine String := do
  if ← sees (·.kind = .identifier) then
    let text ← takeText
    advance
    return text
  else throw (.expected (.name role))

/-- Round after round, each from the state and the pass with which the one before it ended. -/
def rounds (round : σ → Routine (σ ⊕ β)) (state : σ) (pass : Pass) :
    Option (Except SyntaxFault β × Pass) :=
  (round state).run pass >>= fun
    | (.ok (.inl next), pass') => by
      apply rounds
      · exact round
      · exact next
      · exact pass'
    | (.ok (.inr result), pass') => some (.ok result, pass')
    | (.error fault, pass') => some (.error fault, pass')
partial_fixpoint

/-- Another round for as long as a round says so. -/
def loop (round : σ → Routine (σ ⊕ β)) (state : σ) : Routine β := rounds round state

def optional (described : Token → Bool) (item : Routine α) : Routine (Option α) := do
  if ← accept described then return some (← item)
  else return none

/-- Another item if a separator comes next. -/
def separatedRound (separates : Token → Bool) (item : Routine α) (items : List α) :
    Routine (List α ⊕ List α) := do
  if ← accept separates then return .inl (items ++ [← item])
  else return .inr items

/-- An item, and another round if a comma comes next. -/
def listedRound (item : Routine α) (items : List α) : Routine (List α ⊕ List α) := do
  let value ← item
  if ← accept (·.isOperator ',') then return .inl (items ++ [value])
  else return .inr (items ++ [value])

def nameRound (role : NameRole) : List String → Routine (List String ⊕ List String) :=
  separatedRound (·.isOperator ',') (name role)

def names (role : NameRole) : Routine (List String) := do loop (nameRound role) [← name role]

/-- Reads a declaration, and records it when it is over. -/
def recorded (declare : α → Declaration) (item : Routine α) : Routine α := do
  let value ← item
  record (.parsed (declare value))
  return value

end Routine

end TagGraph
