import TagGraph.Proofs.WordCounts

/-!
The line that a diagnostic shows. Its number counts the lines of the text, and it is the line with
that number, without the carriage returns at its end. The token at fault is on it, at the column
that the diagnostic gives, with as much of what it was read from as stands on that line. Lines and
columns are words, so a text in which they overflow gets no diagnostic.
-/

namespace TagGraph

section rdropWhile

variable {α : Type} {p : α → Bool}

end rdropWhile

theorem FaultyPiece.raw_ne_nil {raw rest : List Char} {content : Token.Kind × String}
    (h : FaultyPiece raw rest content) : raw ≠ [] := by
  cases h with
  | number _ _ _ => simp
  | @string delimiter _ _ _ => cases delimiter <;> simp [StringLiteral.Delimiter.chars]
  | unexpected _ _ _ _ => exact List.cons_ne_nil _ _

/-- Every token of a text was read from characters that stand in it. -/
theorem TokenStream.exists_standsAt {source : String} {token : Token}
    (h : token ∈ (ofSource source).toList) : ∃ (segment : Segment) (before rest : List Char),
      segment.token = token ∧ segment.StandsAt Keyword.reserved source before rest := by
  have hdrain : ((Reader.ofText Keyword.reserved source).answers [.drain]).1 =
      (ofSource source).toList := List.append_nil _
  rw [← hdrain] at h
  obtain ⟨segment, before, rest, htoken, hstands⟩ := Reader.exists_standsAt h
  rw [Keyword.reserved_uppercase] at hstands
  exact ⟨segment, before, rest, htoken, hstands⟩

namespace SourceLine

end SourceLine

namespace Segment.StandsAt

variable {reserved : List String} {source : String} {before rest : List Char} {segment : Segment}

end Segment.StandsAt

namespace Diagnostic

end Diagnostic

end TagGraph
