import TagGraph.Document

/-!
Documents as JSON text. Writing leaves out all space, and escapes only what must not stand in a
string: quotes, backslashes and controls. Reading takes any JSON text. It goes through the lexemes
once, with the lists and records that are still open on a stack, and keeps numbers as they are
written.
-/

namespace TagGraph.JsonText

open Document

def escapeChar : Char → List Char
  | '"' => ['\\', '"']
  | '\\' => ['\\', '\\']
  | '\x08' => ['\\', 'b']
  | '\x0c' => ['\\', 'f']
  | '\n' => ['\\', 'n']
  | '\r' => ['\\', 'r']
  | '\t' => ['\\', 't']
  | c =>
    if c < ' ' then
      ['\\', 'u', '0', '0', Nat.digitChar (c.toNat / 16), Nat.digitChar (c.toNat % 16)]
    else [c]

def quote (value : String) : List Char := '"' :: value.toList.flatMap escapeChar ++ ['"']

mutual

def renderChars : Document String → List Char
  | null => ['n', 'u', 'l', 'l']
  | flag true => ['t', 'r', 'u', 'e']
  | flag false => ['f', 'a', 'l', 's', 'e']
  | number literal => literal.toList
  | text value => quote value
  | list [] => ['[', ']']
  | list (first :: others) => '[' :: renderChars first ++ renderItems others
  | record [] => ['\x7b', '\x7d']
  | record ((name, value) :: others) =>
    '\x7b' :: quote name ++ ':' :: renderChars value ++ renderFields others

/-- The items after the first, and the end of the list. -/
def renderItems : List (Document String) → List Char
  | [] => [']']
  | item :: rest => ',' :: renderChars item ++ renderItems rest

/-- The fields after the first, and the end of the record. -/
def renderFields : List (String × Document String) → List Char
  | [] => ['\x7d']
  | (name, value) :: rest => ',' :: quote name ++ ':' :: renderChars value ++ renderFields rest

end

def render (document : Document String) : String := String.ofList (renderChars document)

inductive Mark
  | listStart
  | listEnd
  | recordStart
  | recordEnd
  | colon
  | comma
deriving DecidableEq

/-- A mark, or a document with no others inside it. -/
inductive Lexeme
  | mark (value : Mark)
  | leaf (value : Document String)

def blanks : List Char := [' ', '\t', '\n', '\r']

def mark? : Char → Option Mark
  | '[' => some .listStart
  | ']' => some .listEnd
  | '\x7b' => some .recordStart
  | '\x7d' => some .recordEnd
  | ':' => some .colon
  | ',' => some .comma
  | _ => none

def hexValue? (c : Char) : Option Nat :=
  if c.isDigit then some (c.toNat - '0'.toNat)
  else if 'a' ≤ c ∧ c ≤ 'f' then some (c.toNat - 'a'.toNat + 10)
  else if 'A' ≤ c ∧ c ≤ 'F' then some (c.toNat - 'A'.toNat + 10)
  else none

/-- The value of four hexadecimal digits at the front of a text. -/
def codeUnit? : List Char → Option Nat
  | a :: b :: c :: d :: _ => do
    return 4096 * (← hexValue? a) + 256 * (← hexValue? b) + 16 * (← hexValue? c) + (← hexValue? d)
  | _ => none

/-- The character whose code follows the letter u, and how many characters that takes in all. A code
beyond four digits is written as two halves, and no half stands alone. -/
def codeEscape? (text : List Char) : Option (Char × Nat) := do
  let first ← codeUnit? text
  if 0xd800 ≤ first ∧ first < 0xdc00 then
    match text.drop 4 with
    | '\\' :: 'u' :: rest =>
      let second ← codeUnit? rest
      if 0xdc00 ≤ second ∧ second < 0xe000 then
        return (Char.ofNat (0x10000 + 0x400 * (first - 0xd800) + (second - 0xdc00)), 11)
      else none
    | _ => none
  else if 0xdc00 ≤ first ∧ first < 0xe000 then none
  else return (Char.ofNat first, 5)

def letterEscape? : Char → Option Char
  | '"' => some '"'
  | '\\' => some '\\'
  | '/' => some '/'
  | 'b' => some '\x08'
  | 'f' => some '\x0c'
  | 'n' => some '\n'
  | 'r' => some '\r'
  | 't' => some '\t'
  | _ => none

/-- What the text after a backslash stands for, and how many characters that takes. -/
def escape? : List Char → Option (Char × Nat)
  | [] => none
  | 'u' :: rest => codeEscape? rest
  | c :: _ => (letterEscape? c).map fun value => (value, 1)

/-- What a string says after its opening quote, and what follows its closing quote. -/
def string? : List Char → Option (List Char × List Char)
  | [] => none
  | '"' :: rest => some ([], rest)
  | '\\' :: rest =>
    match escape? rest with
    | none => none
    | some (value, count) =>
      (string? (rest.drop count)).map fun (values, after) => (value :: values, after)
  | c :: rest =>
    if c < ' ' then none
    else (string? rest).map fun (values, after) => (c :: values, after)
termination_by source => source.length

theorem length_lt_of_string? {source values after : List Char}
    (h : string? source = some (values, after)) : after.length < source.length := by
  fun_induction string? source generalizing values after with
  | case1 => simp at h
  | case2 rest =>
    obtain ⟨rfl, rfl⟩ := Prod.mk.inj (Option.some.inj h)
    simp
  | case3 => simp at h
  | case4 rest value count _ ih =>
    obtain ⟨⟨others, final⟩, hrest, heq⟩ := Option.map_eq_some_iff.mp h
    obtain ⟨rfl, rfl⟩ := Prod.mk.inj heq
    have hshort := ih hrest
    simp only [List.length_drop, List.length_cons] at hshort ⊢
    omega
  | case5 => simp at h
  | case6 c rest _ _ _ ih =>
    obtain ⟨⟨others, final⟩, hrest, heq⟩ := Option.map_eq_some_iff.mp h
    obtain ⟨rfl, rfl⟩ := Prod.mk.inj heq
    have hshort := ih hrest
    simp only [List.length_cons]
    omega

def isDigits (chars : List Char) : Bool := !chars.isEmpty && chars.all Char.isDigit

/-- The end of a number from its exponent on, if it has one. -/
def isExponent : List Char → Bool
  | [] => true
  | c :: '+' :: digits => (c == 'e' || c == 'E') && isDigits digits
  | c :: '-' :: digits => (c == 'e' || c == 'E') && isDigits digits
  | c :: digits => (c == 'e' || c == 'E') && isDigits digits

/-- The end of a number from its point on, if it has one. -/
def isFraction : List Char → Bool
  | '.' :: rest =>
    isDigits (rest.takeWhile Char.isDigit) && isExponent (rest.dropWhile Char.isDigit)
  | rest => isExponent rest

/-- A number without a sign. No digit follows a zero at the front. -/
def isMagnitude : List Char → Bool
  | '0' :: rest => isFraction rest
  | chars =>
    isDigits (chars.takeWhile Char.isDigit) && isFraction (chars.dropWhile Char.isDigit)

def isNumber : List Char → Bool
  | '-' :: rest => isMagnitude rest
  | chars => isMagnitude chars

def isNumberPart (c : Char) : Bool := c.isDigit || ['-', '+', '.', 'e', 'E'].contains c

def word? : List Char → Option (Document String)
  | ['n', 'u', 'l', 'l'] => some null
  | ['t', 'r', 'u', 'e'] => some (flag true)
  | ['f', 'a', 'l', 's', 'e'] => some (flag false)
  | _ => none

def number? (literal : List Char) : Option (Document String) :=
  if isNumber literal then some (number (String.ofList literal)) else none

/-- Reads a string, a word or a number whose first character is given. -/
def leaf? (c : Char) (rest : List Char) : Option (Document String × List Char) :=
  if c = '"' then (string? rest).map fun (value, after) => (text (String.ofList value), after)
  else if c.isAlpha then
    (word? ((c :: rest).takeWhile Char.isAlpha)).map fun value =>
      (value, rest.dropWhile Char.isAlpha)
  else if isNumberPart c then
    (number? ((c :: rest).takeWhile isNumberPart)).map fun value =>
      (value, rest.dropWhile isNumberPart)
  else none

theorem length_le_of_leaf? {c : Char} {rest after : List Char} {value : Document String}
    (h : leaf? c rest = some (value, after)) : after.length ≤ rest.length := by
  unfold leaf? at h
  split at h
  · obtain ⟨⟨chars, final⟩, hstring, heq⟩ := Option.map_eq_some_iff.mp h
    obtain ⟨_, rfl⟩ := Prod.mk.inj heq
    exact Nat.le_of_lt (length_lt_of_string? hstring)
  · split at h
    · obtain ⟨_, _, heq⟩ := Option.map_eq_some_iff.mp h
      obtain ⟨_, rfl⟩ := Prod.mk.inj heq
      exact (List.dropWhile_suffix _).length_le
    · split at h
      · obtain ⟨_, _, heq⟩ := Option.map_eq_some_iff.mp h
        obtain ⟨_, rfl⟩ := Prod.mk.inj heq
        exact (List.dropWhile_suffix _).length_le
      · simp at h

/-- The lexemes of a text, when it consists of lexemes and blanks. -/
def lexemes? : List Char → Option (List Lexeme)
  | [] => some []
  | c :: rest =>
    if blanks.contains c then lexemes? rest
    else match mark? c with
      | some mark => (lexemes? rest).map (Lexeme.mark mark :: ·)
      | none =>
        match h : leaf? c rest with
        | none => none
        | some (value, after) =>
          have := length_le_of_leaf? h
          (lexemes? after).map (Lexeme.leaf value :: ·)
termination_by source => source.length

/-- A list or record that is still open, its contents in reverse; a record waits for the value of
the field it names. -/
inductive Frame
  | list (items : List (Document String))
  | record (fields : List (String × Document String)) (name : String)

mutual

/-- Goes on where a document must begin. -/
def begin? (stack : List Frame) : List Lexeme → Option (Document String)
  | .leaf value :: rest => resume? stack value rest
  | .mark .listStart :: .mark .listEnd :: rest => resume? stack (list []) rest
  | .mark .listStart :: rest => begin? (.list [] :: stack) rest
  | .mark .recordStart :: .mark .recordEnd :: rest => resume? stack (record []) rest
  | .mark .recordStart :: .leaf (text name) :: .mark .colon :: rest =>
    begin? (.record [] name :: stack) rest
  | _ => none

/-- Goes on where a document has just ended. -/
def resume? (stack : List Frame) (value : Document String) : List Lexeme → Option (Document String)
  | [] => if stack.isEmpty then some value else none
  | lexeme :: rest =>
    match stack, lexeme, rest with
    | .list items :: outer, .mark .comma, rest => begin? (.list (value :: items) :: outer) rest
    | .list items :: outer, .mark .listEnd, rest =>
      resume? outer (list (value :: items).reverse) rest
    | .record fields name :: outer, .mark .comma, .leaf (text next) :: .mark .colon :: rest =>
      begin? (.record ((name, value) :: fields) next :: outer) rest
    | .record fields name :: outer, .mark .recordEnd, rest =>
      resume? outer (record ((name, value) :: fields).reverse) rest
    | _, _, _ => none

end

/-- The document that the text stands for, when it is JSON. -/
def read? (source : String) : Option (Document String) :=
  (lexemes? source.toList).bind (begin? [])

end TagGraph.JsonText
