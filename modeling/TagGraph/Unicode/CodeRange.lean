/-!
Sets of code points, written as closed ranges in the order in which the character tables list them.
A code point belongs to the set when one of the ranges covers it.
-/

namespace TagGraph.Unicode

structure CodeRange where
  first : Nat
  last : Nat

namespace CodeRange

def covers (ranges : List CodeRange) (code : Nat) : Bool :=
  ranges.any fun range => range.first ≤ code && code ≤ range.last

theorem covers_eq_true_iff {ranges : List CodeRange} {code : Nat} :
    covers ranges code = true ↔ ∃ range ∈ ranges, range.first ≤ code ∧ code ≤ range.last := by
  simp [covers]

end CodeRange

end TagGraph.Unicode
