import TagGraph.Unicode.CodeRange

/-!
The characters with the property White_Space. They are few and all of them separate tokens.
-/

namespace TagGraph.Unicode

def whitespaceRanges : List CodeRange :=
  [⟨0x9, 0xD⟩, ⟨0x20, 0x20⟩, ⟨0x85, 0x85⟩, ⟨0xA0, 0xA0⟩, ⟨0x1680, 0x1680⟩, ⟨0x2000, 0x200A⟩,
   ⟨0x2028, 0x2029⟩, ⟨0x202F, 0x202F⟩, ⟨0x205F, 0x205F⟩, ⟨0x3000, 0x3000⟩]

def isWhitespace (c : Char) : Bool := CodeRange.covers whitespaceRanges c.toNat

end TagGraph.Unicode
