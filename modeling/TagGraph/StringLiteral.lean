/-!
The inside of string literals. A literal is closed by the delimiter that opened it, one double quote
or three. A backslash takes the character after it out of the reckoning, whatever that is, so the
written content falls into single characters and escaped ones, and is read back in the same units.
-/

namespace TagGraph.StringLiteral

inductive Delimiter
  | single
  | triple
deriving DecidableEq

def Delimiter.chars : Delimiter → List Char
  | single => ['"']
  | triple => ['"', '"', '"']

/-- The delimiter whose first quote has been read already. -/
def Delimiter.opening : List Char → Delimiter
  | '"' :: '"' :: _ => triple
  | _ => single

/-- Splits what follows the opening delimiter into the content and what follows the closing one. -/
def split? (delimiter : Delimiter) : List Char → Option (List Char × List Char)
  | [] => none
  | c :: rest =>
    if delimiter.chars.isPrefixOf (c :: rest) then
      some ([], (c :: rest).drop delimiter.chars.length)
    else if c = '\\' then
      match rest with
      | [] => none
      | escaped :: tail =>
        (split? delimiter tail).map fun (content, after) => (c :: escaped :: content, after)
    else
      (split? delimiter rest).map fun (content, after) => (c :: content, after)

def escapeValue : Char → Char
  | 'n' => '\n'
  | 't' => '\t'
  | 'r' => '\r'
  | c => c

/-- A backslash that nothing follows stands for itself. -/
def unescape : List Char → List Char
  | [] => []
  | '\\' :: escaped :: rest => escapeValue escaped :: unescape rest
  | c :: rest => c :: unescape rest

theorem append_of_split? {delimiter : Delimiter} {text content after : List Char}
    (h : split? delimiter text = some (content, after)) :
    content ++ delimiter.chars ++ after = text := by
  fun_induction split? delimiter text generalizing content after with
  | case1 => simp at h
  | case2 c rest hclose =>
    obtain ⟨rfl, rfl⟩ := Prod.mk.inj (Option.some.inj h)
    exact List.prefix_iff_eq_append.mp (List.isPrefixOf_iff_prefix.mp hclose)
  | case3 => simp at h
  | case4 escaped tail _ ih =>
    obtain ⟨⟨front, back⟩, hsplit, heq⟩ := Option.map_eq_some_iff.mp h
    obtain ⟨rfl, rfl⟩ := Prod.mk.inj heq
    simp [← ih hsplit]
  | case5 c rest _ _ ih =>
    obtain ⟨⟨front, back⟩, hsplit, heq⟩ := Option.map_eq_some_iff.mp h
    obtain ⟨rfl, rfl⟩ := Prod.mk.inj heq
    simp [← ih hsplit]

end TagGraph.StringLiteral
