import TagGraph.Document

/-!
Documents without numbers as bytes. Every text, list and record is preceded by a header with its
length, which takes as few bytes as the length allows. Reading is limited in how deeply a document
may be nested, and takes longer headers than needed.
-/

namespace TagGraph.Packed

open Document

/-- The lowest `count` bytes of a number, the most significant one first. -/
def bigEndian : Nat → Nat → List UInt8
  | 0, _ => []
  | count + 1, value => UInt8.ofNat (value / 256 ^ count) :: bigEndian count value

def textHeader (size : Nat) : List UInt8 :=
  if size < 32 then [0xa0 + UInt8.ofNat size]
  else if size < 256 then 0xd9 :: bigEndian 1 size
  else if size < 65536 then 0xda :: bigEndian 2 size
  else 0xdb :: bigEndian 4 size

def listHeader (length : Nat) : List UInt8 :=
  if length < 16 then [0x90 + UInt8.ofNat length]
  else if length < 65536 then 0xdc :: bigEndian 2 length
  else 0xdd :: bigEndian 4 length

def recordHeader (length : Nat) : List UInt8 :=
  if length < 16 then [0x80 + UInt8.ofNat length]
  else if length < 65536 then 0xde :: bigEndian 2 length
  else 0xdf :: bigEndian 4 length

def packText (value : String) : List UInt8 :=
  textHeader value.utf8ByteSize ++ value.toUTF8.data.toList

mutual

def pack : Document Empty → List UInt8
  | null => [0xc0]
  | flag false => [0xc2]
  | flag true => [0xc3]
  | number value => nomatch value
  | text value => packText value
  | list items => listHeader items.length ++ packItems items
  | record fields => recordHeader fields.length ++ packFields fields

def packItems : List (Document Empty) → List UInt8
  | [] => []
  | item :: rest => pack item ++ packItems rest

def packFields : List (String × Document Empty) → List UInt8
  | [] => []
  | (name, value) :: rest => packText name ++ pack value ++ packFields rest

end

/-- What a header announces. -/
inductive Shape
  | null
  | flag (value : Bool)
  | text (size : Nat)
  | list (length : Nat)
  | record (length : Nat)

def ofBigEndian (bytes : List UInt8) : Nat :=
  bytes.foldl (fun value byte => 256 * value + byte.toNat) 0

/-- A length of `count` bytes, and what follows it. -/
def length? (count : Nat) (bytes : List UInt8) : Option (Nat × List UInt8) :=
  if count ≤ bytes.length then some (ofBigEndian (bytes.take count), bytes.drop count) else none

def shape? : List UInt8 → Option (Shape × List UInt8)
  | [] => none
  | byte :: rest =>
    if byte = 0xc0 then some (.null, rest)
    else if byte = 0xc2 then some (.flag false, rest)
    else if byte = 0xc3 then some (.flag true, rest)
    else if byte = 0xd9 then (length? 1 rest).map fun (size, after) => (.text size, after)
    else if byte = 0xda then (length? 2 rest).map fun (size, after) => (.text size, after)
    else if byte = 0xdb then (length? 4 rest).map fun (size, after) => (.text size, after)
    else if byte = 0xdc then (length? 2 rest).map fun (length, after) => (.list length, after)
    else if byte = 0xdd then (length? 4 rest).map fun (length, after) => (.list length, after)
    else if byte = 0xde then (length? 2 rest).map fun (length, after) => (.record length, after)
    else if byte = 0xdf then (length? 4 rest).map fun (length, after) => (.record length, after)
    else if 0xa0 ≤ byte ∧ byte < 0xc0 then some (.text (byte.toNat - 0xa0), rest)
    else if 0x90 ≤ byte ∧ byte < 0xa0 then some (.list (byte.toNat - 0x90), rest)
    else if 0x80 ≤ byte ∧ byte < 0x90 then some (.record (byte.toNat - 0x80), rest)
    else none

def textOfSize? (size : Nat) (bytes : List UInt8) : Option (String × List UInt8) :=
  if size ≤ bytes.length then
    (String.fromUTF8? ⟨(bytes.take size).toArray⟩).map fun value => (value, bytes.drop size)
  else none

def text? (bytes : List UInt8) : Option (String × List UInt8) :=
  match shape? bytes with
  | some (.text size, rest) => textOfSize? size rest
  | _ => none

def items? {α : Type} (item? : List UInt8 → Option (α × List UInt8)) :
    Nat → List UInt8 → Option (List α × List UInt8)
  | 0, bytes => some ([], bytes)
  | count + 1, bytes => do
    let (item, rest) ← item? bytes
    let (items, after) ← items? item? count rest
    return (item :: items, after)

def field? (value? : List UInt8 → Option (Document Empty × List UInt8)) (bytes : List UInt8) :
    Option ((String × Document Empty) × List UInt8) := do
  let (name, rest) ← text? bytes
  let (value, after) ← value? rest
  return ((name, value), after)

/-- A document that is nested no deeper than the given depth, and what follows it. -/
def unpackWithin? : Nat → List UInt8 → Option (Document Empty × List UInt8)
  | 0, _ => none
  | depth + 1, bytes =>
    match shape? bytes with
    | none => none
    | some (.null, rest) => some (.null, rest)
    | some (.flag value, rest) => some (.flag value, rest)
    | some (.text size, rest) =>
      (textOfSize? size rest).map fun (value, after) => (.text value, after)
    | some (.list length, rest) =>
      (items? (unpackWithin? depth) length rest).map fun (items, after) => (.list items, after)
    | some (.record length, rest) =>
      (items? (field? (unpackWithin? depth)) length rest).map fun (fields, after) =>
        (.record fields, after)

def nestingLimit : Nat := 1024

/-- The document that the bytes stand for, when nothing follows it. -/
def unpack? (bytes : List UInt8) : Option (Document Empty) :=
  match unpackWithin? nestingLimit bytes with
  | some (document, []) => some document
  | _ => none

/-- Bytes as pairs of hexadecimal digits. -/
def hex (bytes : List UInt8) : String :=
  String.ofList <| bytes.flatMap fun byte =>
    [Nat.digitChar (byte.toNat / 16), Nat.digitChar (byte.toNat % 16)]

end TagGraph.Packed
