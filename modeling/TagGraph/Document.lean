/-!
Documents: the trees in which models travel. Models hold no numbers, but a document that is read may
hold some where they are not looked at, so the kind of numbers is left open. Readers below take a
document apart without regard to the order of the fields of a record or to fields that they do not
know.
-/

namespace TagGraph

inductive Document (ν : Type)
  | null
  | flag (value : Bool)
  | number (value : ν)
  | text (value : String)
  | list (items : List (Document ν))
  | record (fields : List (String × Document ν))

namespace Document

variable {ν α : Type}

/-- How the fields of a structure are written: by their names, or in order and without names. -/
inductive Layout
  | named
  | positional
deriving DecidableEq

def ofFields (layout : Layout) (fields : List (String × Document ν)) : Document ν :=
  match layout with
  | .named => record fields
  | .positional => list (fields.map Prod.snd)

def ofOption (write : α → Document ν) : Option α → Document ν
  | some value => write value
  | none => null

def flag? : Document ν → Option Bool
  | flag value => some value
  | _ => none

def text? : Document ν → Option String
  | text value => some value
  | _ => none

def list? (read : Document ν → Option α) : Document ν → Option (List α)
  | list items => items.mapM read
  | _ => none

/-- What a record says for each of the names, or a list of that length by position. A record may
leave names out but may not have one of them twice. -/
def members? (names : List String) : Document ν → Option (List (Option (Document ν)))
  | record fields =>
    if names.all fun name => fields.countP (·.1 == name) ≤ 1 then
      some (names.map fun name => fields.lookup name)
    else none
  | list items => if items.length = names.length then some (items.map some) else none
  | _ => none

/-- A member that may be left out, and says as little when it is null. -/
def optional? (read : Document ν → Option α) : Option (Document ν) → Option (Option α)
  | none => some none
  | some null => some none
  | some value => (read value).map some

/-- The name of an alternative and what comes with it, if anything does. -/
def alternative? : Document ν → Option (String × Option (Document ν))
  | text name => some (name, none)
  | record [(name, content)] => some (name, some content)
  | _ => none

/-- An alternative that has no content may be given null for it. -/
def isVoid : Option (Document ν) → Bool
  | none => true
  | some null => true
  | some _ => false

end Document

end TagGraph
