import Mathlib.Tactic.IntervalCases
import TagGraph.JsonText
import TagGraph.Proofs.DocumentSizes

/-!
What is written as JSON text can be read. A string is closed by the first quote that is not
escaped, and a word by the first character that is not a letter, so the lexemes of a document are
found one by one. They nest in one way, in which each list and record ends where it was written to
end.
-/

namespace TagGraph.JsonText

open Document

section strings

/-- A control is written as an escape by the value of its code. -/
theorem codeEscape?_control {c : Char} (h : c < ' ') (rest : List Char) :
    codeEscape? ('0' :: '0' :: Nat.digitChar (c.toNat / 16) :: Nat.digitChar (c.toNat % 16) ::
      rest) = some (c, 5) := by
  have hcode : c.toNat < 32 := h
  have hchar : Char.ofNat c.toNat = c := Char.ofNat_toNat c
  generalize c.toNat = code at hcode hchar
  subst hchar
  interval_cases code <;> rfl

theorem string?_of_escape {source rest : List Char} {value : Char} {count : Nat}
    (h : escape? source = some (value, count)) (hrest : source.drop count = rest) :
    string? ('\\' :: source) =
      (string? rest).map fun (values, after) => (value :: values, after) := by
  rw [string?, h, ← hrest]

/-- Each character is read as itself, whether it is escaped or not. -/
theorem string?_escapeChar (c : Char) (rest : List Char) :
    string? (escapeChar c ++ rest) =
      (string? rest).map fun (values, after) => (c :: values, after) := by
  unfold escapeChar
  split
  iterate 7 exact string?_of_escape rfl rfl
  split
  · next hcontrol => exact string?_of_escape (codeEscape?_control hcontrol rest) rfl
  · next hquote hbackslash _ _ _ _ _ hplain =>
    rw [List.singleton_append, string?]
    · rw [if_neg hplain]
    · exact hquote
    · exact hbackslash

theorem string?_flatMap_escapeChar (values rest : List Char) :
    string? (values.flatMap escapeChar ++ '"' :: rest) = some (values, rest) := by
  induction values with
  | nil => rw [List.flatMap_nil, List.nil_append, string?]
  | cons c values ih =>
    rw [List.flatMap_cons, List.append_assoc, string?_escapeChar, ih]
    rfl

end strings

section lexing

theorem lexemes?_of_mark {c : Char} {mark : Mark} (hblank : blanks.contains c = false)
    (hmark : mark? c = some mark) (rest : List Char) :
    lexemes? (c :: rest) = (lexemes? rest).map (Lexeme.mark mark :: ·) := by
  rw [lexemes?, hblank, hmark]
  rfl

theorem lexemes?_of_leaf {c : Char} {rest after : List Char} {value : Document String}
    (hblank : blanks.contains c = false) (hmark : mark? c = none)
    (hleaf : leaf? c rest = some (value, after)) :
    lexemes? (c :: rest) = (lexemes? after).map (Lexeme.leaf value :: ·) := by
  rw [lexemes?, hblank, hmark]
  simp only [Bool.false_eq_true, if_false]
  split
  · next hnone =>
    rw [hleaf] at hnone
    cases hnone
  · next value' after' hsome =>
    rw [hleaf] at hsome
    cases hsome
    rfl

theorem lexemes?_quote (value : String) (rest : List Char) :
    lexemes? (quote value ++ rest) = (lexemes? rest).map (Lexeme.leaf (text value) :: ·) := by
  have hquote : quote value ++ rest =
      '"' :: (value.toList.flatMap escapeChar ++ '"' :: rest) := by
    simp [quote]
  have hleaf : leaf? '"' (value.toList.flatMap escapeChar ++ '"' :: rest) =
      some (text value, rest) := by
    rw [leaf?, if_pos rfl, string?_flatMap_escapeChar, Option.map_some]
    show some (text (String.ofList value.toList), rest) = _
    rw [String.ofList_toList]
  rw [hquote, lexemes?_of_leaf (by decide) rfl hleaf]

/-- The text does not go on with a letter. -/
def Stops (rest : List Char) : Prop := ∀ c ∈ rest.head?, c.isAlpha = false

/-- A word ends where no letter follows it. -/
theorem lexemes?_word {c : Char} {letters rest : List Char} {value : Document String}
    (hword : word? (c :: letters) = some value) (hletters : (c :: letters).all Char.isAlpha = true)
    (hlexeme : blanks.contains c = false ∧ mark? c = none ∧ c ≠ '"') (hstops : Stops rest) :
    lexemes? (c :: letters ++ rest) = (lexemes? rest).map (Lexeme.leaf value :: ·) := by
  obtain ⟨hblank, hmark, hquote⟩ := hlexeme
  obtain ⟨hfirst, hothers⟩ := List.forall_mem_cons.mp (List.all_eq_true.mp hletters)
  have htake : (letters ++ rest).takeWhile Char.isAlpha = letters := by
    rw [List.takeWhile_append_of_pos hothers]
    cases rest with
    | nil => simp
    | cons d rest => simp [hstops d rfl]
  have hdrop : (letters ++ rest).dropWhile Char.isAlpha = rest := by
    rw [List.dropWhile_append_of_pos hothers]
    cases rest with
    | nil => rfl
    | cons d rest => simp [hstops d rfl]
  have hleaf : leaf? c (letters ++ rest) = some (value, rest) := by
    rw [leaf?, if_neg hquote, if_pos hfirst, List.takeWhile_cons_of_pos hfirst, htake, hdrop, hword]
    rfl
  rw [List.cons_append, lexemes?_of_leaf hblank hmark hleaf]

end lexing

mutual

/-- The lexemes that a document is written in. -/
def lexemesOf : Document String → List Lexeme
  | null => [.leaf null]
  | flag value => [.leaf (flag value)]
  | number literal => [.leaf (number literal)]
  | text value => [.leaf (text value)]
  | list [] => [.mark .listStart, .mark .listEnd]
  | list (first :: others) => .mark .listStart :: lexemesOf first ++ lexemesOfItems others
  | record [] => [.mark .recordStart, .mark .recordEnd]
  | record ((name, value) :: others) =>
    .mark .recordStart :: .leaf (text name) :: .mark .colon :: lexemesOf value ++
      lexemesOfFields others

def lexemesOfItems : List (Document String) → List Lexeme
  | [] => [.mark .listEnd]
  | item :: rest => .mark .comma :: lexemesOf item ++ lexemesOfItems rest

def lexemesOfFields : List (String × Document String) → List Lexeme
  | [] => [.mark .recordEnd]
  | (name, value) :: rest =>
    .mark .comma :: .leaf (text name) :: .mark .colon :: lexemesOf value ++ lexemesOfFields rest

end

section documents

variable {items : List (Document String)} {fields : List (String × Document String)}

theorem stops_cons {c : Char} {rest : List Char} (h : c.isAlpha = false) : Stops (c :: rest) := by
  rintro _ ⟨⟩
  exact h

theorem stops_renderItems (items : List (Document String)) (rest : List Char) :
    Stops (renderItems items ++ rest) := by
  cases items <;> exact stops_cons rfl

theorem stops_renderFields (fields : List (String × Document String)) (rest : List Char) :
    Stops (renderFields fields ++ rest) := by
  cases fields with
  | nil => exact stops_cons rfl
  | cons field fields => exact stops_cons rfl

/-- The document is found at the front of any text that does not go on with a letter. -/
def Lexed (document : Document String) : Prop :=
  ∀ rest, Stops rest → lexemes? (renderChars document ++ rest) =
    (lexemes? rest).map (lexemesOf document ++ ·)

theorem lexemes?_renderItems (h : ∀ item ∈ items, Lexed item) (rest : List Char) :
    lexemes? (renderItems items ++ rest) = (lexemes? rest).map (lexemesOfItems items ++ ·) := by
  induction items with
  | nil => exact lexemes?_of_mark (by decide) rfl rest
  | cons item items ih =>
    obtain ⟨hitem, hitems⟩ := List.forall_mem_cons.mp h
    rw [renderItems, List.cons_append, List.cons_append, List.append_assoc,
      lexemes?_of_mark (by decide) rfl, hitem _ (stops_renderItems _ _), ih hitems, Option.map_map,
      Option.map_map]
    simp [lexemesOfItems, Function.comp_def]

theorem lexemes?_field {name : String} {value : Document String} (h : Lexed value)
    {rest : List Char} (hstops : Stops rest) :
    lexemes? (quote name ++ ':' :: (renderChars value ++ rest)) = (lexemes? rest).map
      fun lexemes => .leaf (text name) :: .mark .colon :: (lexemesOf value ++ lexemes) := by
  rw [lexemes?_quote, lexemes?_of_mark (by decide) rfl, h rest hstops, Option.map_map,
    Option.map_map]
  rfl

theorem lexemes?_renderFields (h : ∀ field ∈ fields, Lexed field.2) (rest : List Char) :
    lexemes? (renderFields fields ++ rest) = (lexemes? rest).map (lexemesOfFields fields ++ ·) := by
  induction fields with
  | nil => exact lexemes?_of_mark (by decide) rfl rest
  | cons field fields ih =>
    obtain ⟨hfield, hfields⟩ := List.forall_mem_cons.mp h
    have hsplit : renderFields (field :: fields) ++ rest = ',' :: (quote field.1 ++
        ':' :: (renderChars field.2 ++ (renderFields fields ++ rest))) := by
      simp [renderFields]
    rw [hsplit, lexemes?_of_mark (by decide) rfl,
      lexemes?_field hfield (stops_renderFields _ _), ih hfields, Option.map_map, Option.map_map]
    simp [lexemesOfFields, Function.comp_def]

variable {admits : Nat → Prop}

theorem lexed_of_within {depth : Nat} {document : Document String}
    (h : document.Within admits depth) : Lexed document := by
  induction depth generalizing document with
  | zero => exact h.elim
  | succ depth ih =>
    intro rest hstops
    cases document with
    | null => exact lexemes?_word rfl rfl (by decide) hstops
    | flag value =>
      cases value with
      | false => exact lexemes?_word rfl rfl (by decide) hstops
      | true => exact lexemes?_word rfl rfl (by decide) hstops
    | number literal => exact h.elim
    | text value => exact lexemes?_quote value rest
    | list items =>
      obtain ⟨-, hitems⟩ := h
      cases items with
      | nil =>
        show lexemes? ('[' :: ']' :: rest) = _
        rw [lexemes?_of_mark (by decide) rfl, lexemes?_of_mark (by decide) rfl, Option.map_map]
        rfl
      | cons first others =>
        obtain ⟨hfirst, hothers⟩ := List.forall_mem_cons.mp hitems
        rw [renderChars, List.cons_append, List.cons_append, List.append_assoc,
          lexemes?_of_mark (by decide) rfl, ih hfirst _ (stops_renderItems _ _),
          lexemes?_renderItems fun item hmem => ih (hothers item hmem), Option.map_map,
          Option.map_map]
        simp [lexemesOf, Function.comp_def]
    | record fields =>
      obtain ⟨-, hfields⟩ := h
      cases fields with
      | nil =>
        show lexemes? ('\x7b' :: '\x7d' :: rest) = _
        rw [lexemes?_of_mark (by decide) rfl, lexemes?_of_mark (by decide) rfl, Option.map_map]
        rfl
      | cons first others =>
        obtain ⟨hfirst, hothers⟩ := List.forall_mem_cons.mp hfields
        have hsplit : renderChars (record (first :: others)) ++ rest = '\x7b' :: (quote first.1 ++
            ':' :: (renderChars first.2 ++ (renderFields others ++ rest))) := by
          simp [renderChars]
        rw [hsplit, lexemes?_of_mark (by decide) rfl,
          lexemes?_field (ih hfirst.2) (stops_renderFields _ _),
          lexemes?_renderFields fun field hmem => ih (hothers field hmem).2, Option.map_map,
          Option.map_map]
        simp [lexemesOf, Function.comp_def]

/-- Where a document must begin, this one is found, whatever is still open. -/
def Parsed (document : Document String) : Prop :=
  ∀ stack rest, begin? stack (lexemesOf document ++ rest) = resume? stack document rest

theorem resume?_lexemesOfItems (h : ∀ item ∈ items, Parsed item) (before : List (Document String))
    (value : Document String) (outer : List Frame) (rest : List Lexeme) :
    resume? (.list before :: outer) value (lexemesOfItems items ++ rest) =
      resume? outer (list (before.reverse ++ value :: items)) rest := by
  induction items generalizing before value with
  | nil => simp [lexemesOfItems, resume?]
  | cons item items ih =>
    obtain ⟨hitem, hitems⟩ := List.forall_mem_cons.mp h
    rw [lexemesOfItems, List.cons_append, List.cons_append, List.append_assoc, resume?]
    rw [hitem, ih hitems]
    simp

theorem resume?_lexemesOfFields (h : ∀ field ∈ fields, Parsed field.2)
    (before : List (String × Document String)) (name : String) (value : Document String)
    (outer : List Frame) (rest : List Lexeme) :
    resume? (.record before name :: outer) value (lexemesOfFields fields ++ rest) =
      resume? outer (record (before.reverse ++ (name, value) :: fields)) rest := by
  induction fields generalizing before name value with
  | nil => simp [lexemesOfFields, resume?]
  | cons field fields ih =>
    obtain ⟨hfield, hfields⟩ := List.forall_mem_cons.mp h
    simp only [lexemesOfFields, List.cons_append, List.append_assoc]
    rw [resume?]
    rw [hfield, ih hfields]
    simp

/-- No document begins with the end of a list. -/
theorem lexemesOf_append_ne (document : Document String) (rest after : List Lexeme) :
    lexemesOf document ++ rest ≠ .mark .listEnd :: after := by
  cases document with
  | list items => cases items <;> simp [lexemesOf]
  | record fields => cases fields <;> simp [lexemesOf]
  | _ => simp [lexemesOf]

theorem parsed_of_within {depth : Nat} {document : Document String}
    (h : document.Within admits depth) : Parsed document := by
  induction depth generalizing document with
  | zero => exact h.elim
  | succ depth ih =>
    intro stack rest
    cases document with
    | null => rw [lexemesOf, List.singleton_append, begin?]
    | flag value => rw [lexemesOf, List.singleton_append, begin?]
    | number literal => exact h.elim
    | text value => rw [lexemesOf, List.singleton_append, begin?]
    | list items =>
      obtain ⟨-, hitems⟩ := h
      cases items with
      | nil => rw [lexemesOf, List.cons_append, List.singleton_append, begin?]
      | cons first others =>
        obtain ⟨hfirst, hothers⟩ := List.forall_mem_cons.mp hitems
        rw [lexemesOf, List.cons_append, List.cons_append, List.append_assoc, begin?]
        · rw [ih hfirst, resume?_lexemesOfItems fun item hmem => ih (hothers item hmem)]
          rfl
        · exact fun after => lexemesOf_append_ne first _ after
    | record fields =>
      obtain ⟨-, hfields⟩ := h
      cases fields with
      | nil => rw [lexemesOf, List.cons_append, List.singleton_append, begin?]
      | cons first others =>
        obtain ⟨hfirst, hothers⟩ := List.forall_mem_cons.mp hfields
        simp only [lexemesOf, List.cons_append, List.append_assoc]
        rw [begin?, ih hfirst.2,
          resume?_lexemesOfFields fun field hmem => ih (hothers field hmem).2]
        rfl

/-- A document without numbers is read from its text as it was. -/
theorem read?_render {depth : Nat} {document : Document String}
    (h : document.Within admits depth) : read? (render document) = some document := by
  have hlexed := lexed_of_within h [] nofun
  have hparsed := parsed_of_within h [] []
  rw [List.append_nil] at hlexed hparsed
  rw [read?, render, String.toList_ofList, hlexed, lexemes?]
  simp only [Option.map_some, Option.bind_some, List.append_nil, hparsed]
  rfl

end documents

end TagGraph.JsonText
