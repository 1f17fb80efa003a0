import TagGraph.Unicode.Whitespace

/-!
What stands between tokens: whitespace, and comments from a number sign through the next newline.
The longest such run at the beginning of a text is split off. A carriage return ends no comment.
-/

namespace TagGraph.Trivia

open Unicode

/-- The flag says whether the text begins inside a comment. -/
def splitFrom : Bool → List Char → List Char × List Char
  | _, [] => ([], [])
  | true, c :: rest =>
    let (gap, after) := splitFrom (c != '\n') rest
    (c :: gap, after)
  | false, c :: rest =>
    if isWhitespace c || c == '#' then
      let (gap, after) := splitFrom (c == '#') rest
      (c :: gap, after)
    else ([], c :: rest)

def split (text : List Char) : List Char × List Char := splitFrom false text

theorem splitFrom_append (inComment : Bool) (text : List Char) :
    (splitFrom inComment text).1 ++ (splitFrom inComment text).2 = text := by
  fun_induction splitFrom inComment text <;> simp_all

theorem split_append (text : List Char) : (split text).1 ++ (split text).2 = text :=
  splitFrom_append false text

/-- What follows the gap is the start of a token. -/
theorem head_after_splitFrom {inComment : Bool} {text after : List Char} {c : Char}
    (h : (splitFrom inComment text).2 = c :: after) : isWhitespace c = false ∧ c ≠ '#' := by
  fun_induction splitFrom inComment text <;> simp_all

end TagGraph.Trivia
