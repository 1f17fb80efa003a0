/-!
Places in a text. A position counts the bytes, the lines and the characters of the line that lie
before it; lines and columns start at one. Only a newline ends a line. The counts have no bound here.
-/

namespace TagGraph

structure Position where
  offset : Nat
  line : Nat
  column : Nat
deriving DecidableEq

namespace Position

def start : Position := ⟨0, 1, 1⟩

def advance (position : Position) (c : Char) : Position :=
  if c = '\n' then ⟨position.offset + c.utf8Size, position.line + 1, 1⟩
  else ⟨position.offset + c.utf8Size, position.line, position.column + 1⟩

def advanceBy (position : Position) (text : List Char) : Position := text.foldl advance position

def render (position : Position) : String := s!"{position.line}:{position.column}"

@[simp]
theorem advanceBy_nil (position : Position) : position.advanceBy [] = position := rfl

@[simp]
theorem advanceBy_cons (position : Position) (c : Char) (rest : List Char) :
    position.advanceBy (c :: rest) = (position.advance c).advanceBy rest := rfl

theorem advanceBy_append (position : Position) (left right : List Char) :
    position.advanceBy (left ++ right) = (position.advanceBy left).advanceBy right :=
  List.foldl_append

theorem offset_advance (position : Position) (c : Char) :
    (position.advance c).offset = position.offset + c.utf8Size := by
  unfold advance
  split <;> rfl

theorem offset_advanceBy (position : Position) (text : List Char) :
    (position.advanceBy text).offset =
      position.offset + text.foldr (fun c size => c.utf8Size + size) 0 := by
  induction text generalizing position with
  | nil => rfl
  | cons c rest ih => simp [ih, offset_advance, Nat.add_assoc]

end Position

end TagGraph
