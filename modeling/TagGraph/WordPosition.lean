import TagGraph.Position

/-!
Positions whose lines and columns are counted in words of 32 bits. A count that goes beyond the last
word overflows, and then there is no position to go on from. Until then the counts are exact.
-/

namespace TagGraph

structure WordPosition where
  offset : Nat
  line : UInt32
  column : UInt32
deriving DecidableEq

namespace WordPosition

def start : WordPosition := ⟨0, 1, 1⟩

/-- The next count, unless there is none. -/
def increment? (count : UInt32) : Option UInt32 :=
  if count.toNat + 1 < UInt32.size then some (count + 1) else none

def advance? (position : WordPosition) (c : Char) : Option WordPosition :=
  if c = '\n' then
    (increment? position.line).map fun line => ⟨position.offset + c.utf8Size, line, 1⟩
  else
    (increment? position.column).map fun column =>
      ⟨position.offset + c.utf8Size, position.line, column⟩

def advanceBy? (position : WordPosition) (text : List Char) : Option WordPosition :=
  text.foldlM advance? position

/-- The position itself, and then the position after each character in turn. -/
def trail? (position : WordPosition) : List Char → Option (List WordPosition)
  | [] => some [position]
  | c :: rest => do return position :: (← trail? (← position.advance? c) rest)

/-- The same position, counted without a bound. -/
def toPosition (position : WordPosition) : Position :=
  ⟨position.offset, position.line.toNat, position.column.toNat⟩

end WordPosition

end TagGraph
