/-!
Signed decimal numerals: one sign at most, then at least one ASCII digit and nothing else. A numeral
has a value when it fits into a signed word of 64 bits.
-/

namespace TagGraph.Decimal

def maxValue : Int := 9223372036854775807

def minValue : Int := -9223372036854775808

def digitsValue? (digits : List Char) : Option Nat :=
  if !digits.isEmpty && digits.all Char.isDigit then some (Nat.ofDigitChars 10 digits 0) else none

/-- The number that the text denotes, whatever its size. -/
def signedValue? : List Char → Option Int
  | '+' :: digits => (digitsValue? digits).map Int.ofNat
  | '-' :: digits => (digitsValue? digits).map fun value => -Int.ofNat value
  | digits => (digitsValue? digits).map Int.ofNat

def value? (text : String) : Option Int :=
  (signedValue? text.toList).filter fun value => minValue ≤ value && value ≤ maxValue

end TagGraph.Decimal
