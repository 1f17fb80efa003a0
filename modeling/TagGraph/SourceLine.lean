/-!
The line of a text on which a byte offset lies. Offsets beyond the end count as the end; an offset
inside a character lies on no line. The line is sliced out of the text from behind the last newline
before the offset to the first one after it, and the carriage returns that end it are taken off.
-/

namespace TagGraph.SourceLine

/-- Splits the text after `offset` bytes, where no character straddles that place. -/
def cut? : Nat → List Char → Option (List Char × List Char)
  | _, [] => some ([], [])
  | offset, c :: rest =>
    if offset = 0 then some ([], c :: rest)
    else if offset < c.utf8Size then none
    else (cut? (offset - c.utf8Size) rest).map fun (before, after) => (c :: before, after)

def dropReturns (line : List Char) : List Char :=
  (line.reverse.dropWhile (· == '\r')).reverse

/-- The byte index of the first newline. -/
def firstNewline? : List Char → Option Nat
  | [] => none
  | c :: rest => if c = '\n' then some 0 else (firstNewline? rest).map (c.utf8Size + ·)

/-- The byte index of the last newline. -/
def lastNewline? : List Char → Option Nat
  | [] => none
  | c :: rest =>
    match lastNewline? rest with
    | some index => some (c.utf8Size + index)
    | none => if c = '\n' then some 0 else none

/-- The text from one byte index to another, if neither is beyond the end or inside a character. -/
def slice? (source : String) (first last : Nat) : Option (List Char) :=
  if first ≤ last ∧ last ≤ source.utf8ByteSize then do
    let (_, after) ← cut? first source.toList
    let (line, _) ← cut? (last - first) after
    return line
  else none

def at? (source : String) (offset : Nat) : Option String := do
  let offset := min offset source.utf8ByteSize
  let (before, after) ← cut? offset source.toList
  let first := (lastNewline? before).elim 0 (· + 1)
  let last := (firstNewline? after).elim source.utf8ByteSize (offset + ·)
  let line ← slice? source first last
  return String.ofList (dropReturns line)

theorem append_of_cut? {text before after : List Char} {offset : Nat}
    (h : cut? offset text = some (before, after)) : before ++ after = text := by
  induction text generalizing offset before with
  | nil => simp_all [cut?]
  | cons c rest ih =>
    simp only [cut?] at h
    split at h
    · simp_all
    · split at h
      · simp at h
      · obtain ⟨⟨front, back⟩, hcut, heq⟩ := Option.map_eq_some_iff.mp h
        obtain ⟨rfl, rfl⟩ := Prod.mk.inj heq
        simp [ih hcut]

/-- The byte length of a beginning of the text is a place where it can be cut. -/
theorem cut?_append (before after : List Char) :
    cut? (before.foldr (fun c size => c.utf8Size + size) 0) (before ++ after) =
      some (before, after) := by
  induction before with
  | nil => cases after <;> rfl
  | cons c rest ih =>
    have hpos := Char.utf8Size_pos c
    simp only [List.foldr_cons, List.cons_append, cut?]
    rw [if_neg (by omega), if_neg (by omega), Nat.add_sub_cancel_left, ih]
    rfl

end TagGraph.SourceLine
