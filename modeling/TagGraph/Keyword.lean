/-!
The reserved words of the rule language, in the order in which they are listed to the reader of
tokens. A word is spelled here as it is compared: in capitals.
-/

namespace TagGraph

inductive Keyword
  | CONCEPT | TAG | SLOT
  | WHERE | ROOT | ON | ANY | ALL | NOT | AND | DO
  | SET | UNSET | IN | THIS | OTHER | BIND | TO | NOTHING
  | WORLD | OBJECT | AS
deriving DecidableEq

namespace Keyword

def text : Keyword → String
  | CONCEPT => "CONCEPT"
  | TAG => "TAG"
  | SLOT => "SLOT"
  | WHERE => "WHERE"
  | ROOT => "ROOT"
  | ON => "ON"
  | ANY => "ANY"
  | ALL => "ALL"
  | NOT => "NOT"
  | AND => "AND"
  | DO => "DO"
  | SET => "SET"
  | UNSET => "UNSET"
  | IN => "IN"
  | THIS => "THIS"
  | OTHER => "OTHER"
  | BIND => "BIND"
  | TO => "TO"
  | NOTHING => "NOTHING"
  | WORLD => "WORLD"
  | OBJECT => "OBJECT"
  | AS => "AS"

def all : List Keyword :=
  [CONCEPT, TAG, SLOT, WHERE, ROOT, ON, ANY, ALL, NOT, AND, DO, SET, UNSET, IN, THIS, OTHER, BIND,
   TO, NOTHING, WORLD, OBJECT, AS]

def reserved : List String := all.map text

theorem mem_all (keyword : Keyword) : keyword ∈ all := by
  cases keyword <;> decide

theorem text_injective {left right : Keyword} (h : left.text = right.text) : left = right := by
  revert h
  cases left <;> cases right <;> decide

end Keyword

end TagGraph
