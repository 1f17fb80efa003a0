import TagGraph.Unicode.Alphabetic
import TagGraph.Unicode.Numeric

/-!
The shape of names. A name starts with an alphabetic character or an underscore, and goes on with
alphabetic or numeric characters and underscores. Digits therefore never start one.
-/

namespace TagGraph.Identifier

open Unicode

def isStart (c : Char) : Bool := isAlphabetic c || c == '_'

def isPart (c : Char) : Bool := isAlphabetic c || isNumeric c || c == '_'

theorem isPart_of_isStart {c : Char} (h : isStart c = true) : isPart c = true := by
  simp only [isStart, Bool.or_eq_true] at h
  rcases h with h | h <;> simp [isPart, h]

theorem not_isStart_of_isDigit {c : Char} (h : c.isDigit = true) : isStart c = false := by
  have hrange : 48 ≤ c.toNat ∧ c.toNat ≤ 57 := by
    simp only [Char.isDigit, Bool.and_eq_true, decide_eq_true_eq] at h
    exact ⟨h.1, h.2⟩
  have hcode : c = Char.ofNat c.toNat := (Char.ofNat_toNat c).symm
  generalize c.toNat = code at hrange hcode
  obtain ⟨hlow, hhigh⟩ := hrange
  subst hcode
  have : code = 48 ∨ code = 49 ∨ code = 50 ∨ code = 51 ∨ code = 52 ∨ code = 53 ∨ code = 54 ∨
      code = 55 ∨ code = 56 ∨ code = 57 := by omega
  rcases this with rfl | rfl | rfl | rfl | rfl | rfl | rfl | rfl | rfl | rfl <;> rfl

end TagGraph.Identifier
