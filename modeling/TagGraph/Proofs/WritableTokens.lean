import TagGraph.Lexeme

/-!
Tokens that can be put down in a text as they are: keywords, operators and names. A name is a word
of the right shape that no reserved word equals in capitals. Tokens of one sort are never of
another.
-/

namespace TagGraph

/-- A word that can be given to something. -/
def Identifier.IsName (text : String) : Prop :=
  (∃ c rest, text.toList = c :: rest ∧ isStart c = true ∧ ∀ d ∈ rest, isPart d = true) ∧
    Unicode.uppercase text ∉ Keyword.reserved

theorem Identifier.isName_x : IsName "x" :=
  ⟨⟨'x', [], by decide, by decide, by simp⟩, by decide⟩

namespace Token

theorem isKeyword_iff {token : Token} {word : Keyword} :
    token.isKeyword word = true ↔ token.kind = .keyword ∧ token.text = word.text := by
  simp [isKeyword, isWord]

theorem isOperator_iff {token : Token} {symbol : Char} :
    token.isOperator symbol = true ↔
      token.kind = .operator ∧ token.text = symbol.toString ∧ symbol.utf8Size = 1 := by
  simp [isOperator, and_assoc]

/-- A token is at most one keyword. -/
theorem isKeyword_of_isKeyword {token : Token} {word : Keyword}
    (h : token.isKeyword word = true) (other : Keyword) :
    token.isKeyword other = decide (other = word) := by
  obtain ⟨hkind, htext⟩ := isKeyword_iff.mp h
  rw [Bool.eq_iff_iff, isKeyword_iff, decide_eq_true_iff]
  constructor
  · intro h
    obtain ⟨-, htext'⟩ := h
    exact Keyword.text_injective (htext'.symm.trans htext)
  · intro h
    subst h
    exact ⟨hkind, htext⟩

theorem isKeyword_of_isOperator {token : Token} {symbol : Char}
    (h : token.isOperator symbol = true) (word : Keyword) : token.isKeyword word = false := by
  simp [isKeyword, isWord, (isOperator_iff.mp h).1]

theorem isKeyword_of_identifier {token : Token} (h : token.kind = .identifier) (word : Keyword) :
    token.isKeyword word = false := by
  simp [isKeyword, isWord, h]

theorem isOperator_of_isKeyword {token : Token} {word : Keyword}
    (h : token.isKeyword word = true) (symbol : Char) : token.isOperator symbol = false := by
  simp [isOperator, (isKeyword_iff.mp h).1]

theorem kind_of_isKeyword {token : Token} {word : Keyword} (h : token.isKeyword word = true) :
    token.kind = .keyword :=
  (isKeyword_iff.mp h).1

/-- The token of a keyword, an operator or a name, wherever it may stand. -/
inductive Writable : Token → Prop
  | keyword {token : Token} (word : Keyword) (h : token.isKeyword word = true) : Writable token
  | operator {token : Token} {symbol : Char} (hsymbol : symbol ∈ Lexeme.operators)
      (h : token.isOperator symbol = true) : Writable token
  | name {token : Token} (h : token.kind = .identifier) (hname : Identifier.IsName token.text) :
      Writable token

def ofKeyword (word : Keyword) : Token := ⟨.keyword, word.text, .start⟩

def ofOperator (symbol : Char) : Token := ⟨.operator, symbol.toString, .start⟩

def ofName (name : String) : Token := ⟨.identifier, name, .start⟩

@[simp]
theorem isKeyword_ofKeyword (word : Keyword) : (ofKeyword word).isKeyword word = true :=
  isKeyword_iff.mpr ⟨rfl, rfl⟩

@[simp]
theorem isOperator_comma : (ofOperator ',').isOperator ',' = true := by decide

@[simp]
theorem isOperator_dot : (ofOperator '.').isOperator '.' = true := by decide

theorem writable_ofKeyword (word : Keyword) : (ofKeyword word).Writable :=
  .keyword word (isKeyword_ofKeyword word)

theorem writable_comma : (ofOperator ',').Writable := .operator (by decide) isOperator_comma

theorem writable_dot : (ofOperator '.').Writable := .operator (by decide) isOperator_dot

theorem writable_ofName {name : String} (h : Identifier.IsName name) : (ofName name).Writable :=
  .name rfl h

end Token

end TagGraph
