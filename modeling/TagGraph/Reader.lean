import TagGraph.TokenStream

/-!
A reader gives out the tokens of a text on demand, one by one or all that are left. It remembers the
last token that it gave out; once that one is terminal the reader stays where it is and repeats it.
-/

namespace TagGraph

structure Reader where
  reserved : List String
  cursor : Cursor
  current? : Option Token

namespace Reader

/-- Reserved words may be given in any case. -/
def ofText (words : List String) (text : String) : Reader :=
  ⟨words.map Unicode.uppercase, Cursor.ofText text.toList, none⟩

def position (reader : Reader) : Position := reader.cursor.position

/-- The terminal token that ended reading, if it has ended. -/
def finished? (reader : Reader) : Option Token := reader.current?.filter Token.isTerminal

def next (reader : Reader) : Token × Reader :=
  match reader.finished? with
  | some token => (token, reader)
  | none =>
    let (token, cursor) := reader.cursor.next reader.reserved
    (token, { reader with cursor := cursor, current? := some token })

def drain (reader : Reader) : List Token × Reader :=
  match reader.finished? with
  | some token => ([token], reader)
  | none =>
    let (stream, cursor) := reader.cursor.tokens reader.reserved
    (stream.toList, { reader with cursor := cursor, current? := some stream.last })

theorem next_of_finished {reader : Reader} {token : Token} (h : reader.finished? = some token) :
    reader.next = (token, reader) := by
  simp [next, h]

theorem current?_next (reader : Reader) : reader.next.2.current? = some reader.next.1 := by
  cases hfinished : reader.finished? with
  | some token =>
    rw [next_of_finished hfinished]
    exact (Option.eq_some_of_filter_eq_some hfinished)
  | none => simp only [next, hfinished]

theorem drain_of_finished {reader : Reader} {token : Token} (h : reader.finished? = some token) :
    reader.drain = ([token], reader) := by
  simp [drain, h]

end Reader

end TagGraph
