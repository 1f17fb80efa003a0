import TagGraph.Proofs.ReaderRuns
import TagGraph.TokenValue
import Mathlib.Data.Nat.Digits.Defs

/-!
The numbers that numerals denote. Each digit is worth itself times a power of ten, so zeros at the
front make no difference, and a numeral has a value exactly when its number fits into a signed word.
The integers of a text are runs of digits that nothing has been left out of, and the digits of any
number are read as one integer.
-/

namespace TagGraph

namespace Decimal

/-- The number that a digit stands for by itself. -/
def digit (c : Char) : Nat := c.toNat - '0'.toNat

/-- The number of which these are the digits in base ten, the last of them for the units. -/
def magnitude (digits : List Char) : Nat := Nat.ofDigits 10 (digits.reverse.map digit)

/-- At least one ASCII digit, and nothing else. -/
structure IsDigits (text : List Char) : Prop where
  ne_nil : text ≠ []
  isDigit : ∀ c ∈ text, c.isDigit = true

/-- One sign at most and digits after it, and the number that they denote. -/
inductive Numeral : List Char → Int → Prop
  | unsigned {digits : List Char} (h : IsDigits digits) : Numeral digits (magnitude digits)
  | plus {digits : List Char} (h : IsDigits digits) : Numeral ('+' :: digits) (magnitude digits)
  | minus {digits : List Char} (h : IsDigits digits) : Numeral ('-' :: digits) (-magnitude digits)

/-- A number in digits, with so many zeros before them. -/
def padded (zeros number : Nat) : String :=
  String.ofList (List.replicate zeros '0') ++ toString number

/-- The first digit is worth itself times a power of ten. -/
theorem magnitude_cons (c : Char) (rest : List Char) :
    magnitude (c :: rest) = 10 ^ rest.length * digit c + magnitude rest := by
  rw [magnitude, List.reverse_cons, List.map_append, Nat.ofDigits_append, List.length_map,
    List.length_reverse, Nat.add_comm]
  rfl

/-- Going through the digits from the front gives their magnitude. -/
theorem ofDigitChars_eq_magnitude (digits : List Char) :
    Nat.ofDigitChars 10 digits 0 = magnitude digits := by
  induction digits with
  | nil => rfl
  | cons c rest ih =>
    rw [Nat.ofDigitChars_cons, Nat.ofDigitChars_eq_ofDigitChars_zero, ih, magnitude_cons,
      Nat.mul_zero, Nat.zero_add, digit]

theorem magnitude_replicate_zero_append (zeros : Nat) (digits : List Char) :
    magnitude (List.replicate zeros '0' ++ digits) = magnitude digits := by
  have hzero : digit '0' = 0 := rfl
  rw [magnitude, List.reverse_append, List.map_append, List.reverse_replicate, List.map_replicate,
    hzero, Nat.ofDigits_append_replicate_zero, magnitude]

theorem toList_padded (zeros number : Nat) :
    (padded zeros number).toList = List.replicate zeros '0' ++ Nat.toDigits 10 number := by
  rw [padded, String.toList_append, String.toList_ofList, Nat.toString_eq_ofList_toDigits,
    String.toList_ofList]

theorem magnitude_padded (zeros number : Nat) :
    magnitude (padded zeros number).toList = number := by
  rw [toList_padded, magnitude_replicate_zero_append, ← ofDigitChars_eq_magnitude,
    Nat.ofDigitChars_ten_toDigits]

theorem isDigits_padded (zeros number : Nat) : IsDigits (padded zeros number).toList := by
  rw [toList_padded]
  refine ⟨List.append_ne_nil_of_right_ne_nil _ Nat.toDigits_ne_nil, ?_⟩
  intro c hmem
  rcases List.mem_append.mp hmem with hzero | hdigit
  · rw [List.eq_of_mem_replicate hzero]
    rfl
  · exact Nat.isDigit_of_mem_toDigits (by decide) (by decide) hdigit

variable {digits text : List Char} {value : Int}

theorem IsDigits.not_sign {c : Char} {rest : List Char} (h : IsDigits (c :: rest)) :
    c ≠ '+' ∧ c ≠ '-' := by
  have hdigit := h.isDigit c List.mem_cons_self
  constructor <;> rintro rfl <;> revert hdigit <;> decide

theorem map_digitsValue?_eq_some_iff {signed : Nat → Int} :
    (digitsValue? digits).map signed = some value ↔
      IsDigits digits ∧ signed (magnitude digits) = value := by
  have hdigits : (!digits.isEmpty && digits.all Char.isDigit) = true ↔ IsDigits digits := by
    rw [Bool.and_eq_true, Bool.not_eq_true', List.isEmpty_eq_false_iff, List.all_eq_true]
    exact ⟨fun h => ⟨h.1, h.2⟩, fun h => ⟨h.ne_nil, h.isDigit⟩⟩
  by_cases h : IsDigits digits
  · simp [digitsValue?, hdigits.mpr h, h, ofDigitChars_eq_magnitude]
  · simp [digitsValue?, mt hdigits.mp h, h]

theorem signedValue?_eq_some_iff : signedValue? text = some value ↔ Numeral text value := by
  unfold signedValue?
  -- A sign is no digit, so in each case one kind of numeral is left.
  split
  · rw [map_digitsValue?_eq_some_iff]
    constructor
    · rintro ⟨hdigits, rfl⟩
      exact .plus hdigits
    · intro h
      cases h with
      | unsigned hdigits => exact absurd rfl hdigits.not_sign.1
      | plus hdigits => exact ⟨hdigits, rfl⟩
  · rw [map_digitsValue?_eq_some_iff]
    constructor
    · rintro ⟨hdigits, rfl⟩
      exact .minus hdigits
    · intro h
      cases h with
      | unsigned hdigits => exact absurd rfl hdigits.not_sign.2
      | minus hdigits => exact ⟨hdigits, rfl⟩
  · next hplus hminus =>
    rw [map_digitsValue?_eq_some_iff]
    constructor
    · rintro ⟨hdigits, rfl⟩
      exact .unsigned hdigits
    · intro h
      cases h with
      | unsigned hdigits => exact ⟨hdigits, rfl⟩
      | plus hdigits => exact absurd rfl (hplus _)
      | minus hdigits => exact absurd rfl (hminus _)

theorem minValue_eq : minValue = -2 ^ 63 := rfl

theorem maxValue_eq : maxValue = 2 ^ 63 - 1 := rfl

theorem value?_eq_some_iff {text : String} : value? text = some value ↔
    Numeral text.toList value ∧ -2 ^ 63 ≤ value ∧ value ≤ 2 ^ 63 - 1 := by
  rw [value?, Option.filter_eq_some_iff, signedValue?_eq_some_iff, Bool.and_eq_true,
    decide_eq_true_iff, decide_eq_true_iff, minValue_eq, maxValue_eq]

/-- Without a sign a number can be too large, but not too small. -/
theorem value?_of_isDigits {text : String} (h : IsDigits text.toList) :
    value? text = if magnitude text.toList ≤ 2 ^ 63 - 1 then some (magnitude text.toList : Int)
      else none := by
  split
  · next hfits => exact value?_eq_some_iff.mpr ⟨.unsigned h, by omega, by omega⟩
  · next hlarge =>
    have hmax : maxValue < (magnitude text.toList : Int) := by
      rw [maxValue_eq]
      omega
    simp [value?, signedValue?_eq_some_iff.mpr (.unsigned h), hmax]

end Decimal

open Decimal (IsDigits Numeral magnitude padded)

/-- An integer keeps the digits that it is read from, and neither one more digit nor a name comes
right after them. -/
theorem Piece.reads_digits {reserved : List String} {raw rest : List Char}
    {content : Token.Kind × String} (h : Piece reserved raw rest content)
    (hkind : content.1 = .integer) : raw = content.2.toList ∧ IsDigits content.2.toList ∧
      ∀ c ∈ rest.head?, c.isDigit = false ∧ Identifier.isStart c = false := by
  cases h with
  | integer hsome hdigits hnext =>
    rw [String.toList_ofList]
    exact ⟨rfl, ⟨hsome, hdigits⟩, hnext⟩
  | _ => cases hkind

/-- Digits alone are read as one integer. -/
theorem TokenStream.toList_of_isDigits {text : String} (h : IsDigits text.toList)
    (words : List String) : (TokenStream.ofText words text).toList =
      [⟨.integer, text, .start⟩, .endOfInput (.after text.toList)] := by
  have hpiece : Piece (words.map Unicode.uppercase) text.toList []
      (.integer, String.ofList text.toList) := .integer h.ne_nil h.isDigit nofun
  rw [String.ofList_toList] at hpiece
  have hnext := Cursor.next_of_piece (hpiece.longestGap .nil) hpiece .start
  rw [List.nil_append, List.nil_append, List.append_nil, Position.advanceBy_nil,
    Position.advanceBy_start] at hnext
  have hplain : ((Cursor.ofText text.toList).next (words.map Unicode.uppercase)).1.isTerminal =
      false := congrArg (Token.isTerminal ∘ Prod.fst) hnext
  rw [TokenStream.ofText, Cursor.toList_of_not_isTerminal hplain, Cursor.ofText, hnext,
    Cursor.toList_of_isTerminal rfl]
  rfl

namespace Token

/-- The integers that a reader gives out are worth what their digits are in the text, or nothing
where that is too large for a signed word. An integer with any text at all has a value if and only
if its text is a numeral for the value, and the value fits. Every number can be written as an
integer, after as many zeros as one likes. -/
theorem integerValue?_exact (words : List String) :
    (∀ (source : String) (calls : List Reader.Call),
      ∀ token ∈ ((Reader.ofText words source).answers calls).1, token.kind = .integer →
        (∃ before rest, source.toList = before ++ (token.text.toList ++ rest) ∧
          token.position = .after before ∧
            ∀ c ∈ rest.head?, c.isDigit = false ∧ Identifier.isStart c = false) ∧
        IsDigits token.text.toList ∧
        token.integerValue? =
          if magnitude token.text.toList ≤ 2 ^ 63 - 1 then some (magnitude token.text.toList : Int)
          else none) ∧
    (∀ (text : String) (position : Position) (value : Int),
      (⟨.integer, text, position⟩ : Token).integerValue? = some value ↔
        Numeral text.toList value ∧ -2 ^ 63 ≤ value ∧ value ≤ 2 ^ 63 - 1) ∧
    ∀ zeros number : Nat,
      (TokenStream.ofText words (padded zeros number)).toList =
          [⟨.integer, padded zeros number, .start⟩,
            .endOfInput (.after (padded zeros number).toList)] ∧
        magnitude (padded zeros number).toList = number := by
  refine ⟨?_, fun text _ value => Decimal.value?_eq_some_iff, ?_⟩
  · intro source calls token hmem hkind
    obtain ⟨segment, before, rest, rfl, hstands⟩ := Reader.exists_standsAt hmem
    have hplain : segment.token.isTerminal = false := by
      simp [isTerminal, isEndOfInput, isError, hkind]
    obtain ⟨hraw, hdigits, hnext⟩ := (hstands.piece hplain).reads_digits hkind
    refine ⟨⟨before, rest, ?_, hstands.position_eq, hnext⟩, hdigits, ?_⟩
    · exact hraw ▸ hstands.toList_eq
    · rw [integerValue?, hkind]
      exact Decimal.value?_of_isDigits hdigits
  · intro zeros number
    exact ⟨TokenStream.toList_of_isDigits (Decimal.isDigits_padded zeros number) words,
      Decimal.magnitude_padded zeros number⟩

/-- The largest value after some zeros, and the number that comes after it. -/
theorem integerValue?_exact_bounds :
    let given := ((Reader.ofText [] "0009223372036854775807\n9223372036854775808").answers
      [.next, .drain]).1
    let largest : Token := ⟨.integer, "0009223372036854775807", .start⟩
    let tooLarge : Token := ⟨.integer, "9223372036854775808", ⟨23, 2, 1⟩⟩
    (largest ∈ given ∧ tooLarge ∈ given) ∧
      largest.integerValue? = some 9223372036854775807 ∧ tooLarge.integerValue? = none := by
  intro given largest tooLarge
  have hgiven : largest ∈ given ∧ tooLarge ∈ given := by decide +kernel
  obtain ⟨hvalues, -, -⟩ := integerValue?_exact []
  obtain ⟨-, -, hlargest⟩ := hvalues _ _ largest hgiven.1 rfl
  obtain ⟨-, -, hnone⟩ := hvalues _ _ tooLarge hgiven.2 rfl
  have hmagnitude : magnitude largest.text.toList = 9223372036854775807 ∧
      magnitude tooLarge.text.toList = 9223372036854775808 := by decide +kernel
  rw [hmagnitude.1] at hlargest
  rw [hmagnitude.2] at hnone
  exact ⟨hgiven, hlargest, hnone⟩

end Token

end TagGraph
