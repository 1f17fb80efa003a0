import TagGraph.Proofs.ReaderRuns

/-!
A reader of which anything is asked in any order. What it has still to give out is a stream that
goes on for ever, since its last token comes again and again; a token that is asked for is the first
one of that stream, and leaves the others. So the tokens that are given out on the way are those of
the text from the first one on, and what is asked in between changes nothing.
-/

namespace TagGraph

namespace TokenStream

/-- So many tokens from the front of the stream. After its last token that one comes again. -/
def take (stream : TokenStream) (count : Nat) : List Token :=
  stream.body.take count ++ List.replicate (count - stream.body.length) stream.last

/-- What is left of the stream after so many tokens. Its last token always is. -/
def drop (stream : TokenStream) (count : Nat) : TokenStream :=
  ⟨stream.body.drop count, stream.last⟩

variable {stream : TokenStream} {count : Nat}

theorem length_take (stream : TokenStream) (count : Nat) : (stream.take count).length = count := by
  rw [take, List.length_append, List.length_take, List.length_replicate]
  omega

theorem take_add (stream : TokenStream) (count more : Nat) :
    stream.take (count + more) = stream.take count ++ (stream.drop count).take more := by
  rcases Nat.le_total count stream.body.length with hle | hle
  · have hnone : count - stream.body.length = 0 := by omega
    have hleft : count + more - stream.body.length = more - (stream.body.length - count) := by omega
    simp only [take, drop, List.take_add, List.length_drop, hnone, hleft, List.replicate_zero,
      List.append_nil, List.append_assoc]
  · have hmore : count + more - stream.body.length = count - stream.body.length + more := by omega
    have hdrop : stream.body.drop count = [] := List.drop_of_length_le hle
    simp only [take, drop, hdrop, hmore, List.take_of_length_le hle, List.take_nil, List.length_nil,
      List.take_of_length_le (Nat.le_add_right_of_le hle), List.replicate_add, List.append_assoc,
      List.nil_append, Nat.sub_zero]

theorem drop_add (stream : TokenStream) (count more : Nat) :
    stream.drop (count + more) = (stream.drop count).drop more := by
  rw [drop, drop, drop, List.drop_drop]

theorem toList_drop (stream : TokenStream) (count : Nat) :
    (stream.drop count).toList = stream.toList.drop (min count stream.body.length) := by
  rw [toList, toList, List.drop_append_of_le_length (Nat.min_le_right _ _)]
  rcases Nat.le_total count stream.body.length with hle | hle
  · rw [Nat.min_eq_left hle]
    rfl
  · rw [Nat.min_eq_right hle, drop, List.drop_of_length_le hle, List.drop_length]

/-- Up to its end the stream is given as it is, and beyond it with the last token repeated. -/
theorem take_eq (stream : TokenStream) (count : Nat) :
    stream.take count = stream.toList.take count ∨
      stream.take count =
        stream.toList ++ List.replicate (count - stream.toList.length) stream.last := by
  rcases Nat.lt_or_ge stream.body.length count with hlt | hle
  · have hmore : count - stream.body.length = count - stream.toList.length + 1 := by
      rw [toList, List.length_append, List.length_singleton]
      omega
    refine Or.inr ?_
    rw [take, List.take_of_length_le hlt.le, hmore, List.replicate_succ, toList, List.append_assoc]
    rfl
  · have hnone : count - stream.body.length = 0 := by omega
    refine Or.inl ?_
    rw [take, hnone, List.replicate_zero, List.append_nil, toList,
      List.take_append_of_le_length hle]

theorem getLast?_take (h : stream.body.length < count) :
    (stream.take count).getLast? = some stream.last := by
  have hmore : count - stream.body.length = count - stream.body.length - 1 + 1 := by omega
  rw [take, hmore, List.replicate_succ', ← List.append_assoc, List.getLast?_concat]

/-- Only the last token can end the stream, so with a terminal token all of the body is taken. -/
theorem length_lt_of_mem_take {token : Token} (h : token ∈ stream.take count)
    (hbody : token ∉ stream.body) : stream.body.length < count := by
  by_contra hle
  have hnone : count - stream.body.length = 0 := by omega
  rw [take, hnone, List.replicate_zero, List.append_nil] at h
  exact hbody (List.mem_of_mem_take h)

theorem toList_injective {left right : TokenStream} (h : left.toList = right.toList) :
    left = right := by
  obtain ⟨hbody, hlast⟩ := List.append_inj' h rfl
  obtain ⟨body, last⟩ := left
  obtain ⟨body', last'⟩ := right
  obtain rfl : body = body' := hbody
  obtain rfl : last = last' := (List.cons.inj hlast).1
  rfl

end TokenStream

/-- Every token of a text but the last takes a character of it. -/
theorem Cursor.length_body_le (reserved : List String) (cursor : Cursor) :
    (cursor.tokens reserved).1.body.length ≤ cursor.rest.length := by
  fun_induction tokens reserved cursor with
  | case1 cursor hplain hshort stream final heq ih =>
    rw [heq] at ih
    rw [List.length_cons]
    exact Nat.lt_of_le_of_lt ih hshort
  | case2 cursor hterminal => exact Nat.zero_le _

namespace Reader

/-- The tokens that are still to be given out. -/
def ahead (reader : Reader) : TokenStream :=
  match reader.finished? with
  | some token => ⟨[], token⟩
  | none => (reader.cursor.tokens reader.reserved).1

variable {reader : Reader}

theorem ahead_of_finished {token : Token} (h : reader.finished? = some token) :
    reader.ahead = ⟨[], token⟩ := by
  rw [ahead, h]

theorem drain_eq_ahead (reader : Reader) : reader.drain.1 = reader.ahead.toList := by
  cases hfinished : reader.finished? with
  | some token => rw [drain_of_finished hfinished, ahead_of_finished hfinished]; rfl
  | none => rw [drain_of_unfinished hfinished, ahead, hfinished]

theorem ahead_of_isTerminal (h : reader.next.1.isTerminal = true) :
    reader.ahead = ⟨[], reader.next.1⟩ := by
  have hdrain := drain_eq_ahead reader
  rw [drain_of_isTerminal h] at hdrain
  exact TokenStream.toList_injective hdrain.symm

theorem ahead_of_not_isTerminal (h : reader.next.1.isTerminal = false) :
    reader.ahead = ⟨reader.next.1 :: reader.next.2.ahead.body, reader.next.2.ahead.last⟩ := by
  have hdrain := drain_eq_ahead reader
  rw [drain_of_not_isTerminal h, drain_eq_ahead] at hdrain
  exact TokenStream.toList_injective hdrain.symm

/-- The next token is the first one ahead, and then the others are. -/
theorem next_ahead (reader : Reader) :
    [reader.next.1] = reader.ahead.take 1 ∧ reader.next.2.ahead = reader.ahead.drop 1 := by
  cases hterminal : reader.next.1.isTerminal with
  | true =>
    have hfinished : reader.next.2.finished? = some reader.next.1 := by
      rw [finished?, current?_next, Option.filter_some, if_pos hterminal]
    rw [ahead_of_isTerminal hterminal, ahead_of_finished hfinished]
    exact ⟨rfl, rfl⟩
  | false =>
    rw [ahead_of_not_isTerminal hterminal]
    refine ⟨?_, rfl⟩
    simp [TokenStream.take]

/-- Tokens that are asked for one by one are the first ones ahead. -/
theorem pull_ahead (reader : Reader) (count : Nat) :
    (reader.pull count).1 = reader.ahead.take count ∧
      (reader.pull count).2.ahead = reader.ahead.drop count := by
  induction count with
  | zero => exact ⟨by simp [pull, TokenStream.take], rfl⟩
  | succ count ih =>
    obtain ⟨hgiven, hahead⟩ := ih
    obtain ⟨hnext, hothers⟩ := next_ahead (reader.pull count).2
    rw [pull, hgiven, hnext, hothers, hahead, TokenStream.take_add, TokenStream.drop_add]
    exact ⟨rfl, rfl⟩

theorem ahead_ofText (words : List String) (source : String) :
    (ofText words source).ahead = TokenStream.ofText words source := rfl

/-- The last token that was given out is remembered. -/
theorem current?_pull (words : List String) (source : String) (count : Nat) :
    ((ofText words source).pull count).2.current? =
      ((ofText words source).pull count).1.getLast? := by
  cases count with
  | zero => rfl
  | succ count => rw [pull, current?_next, List.getLast?_concat]

theorem exists_taken (h : reader.next.1.isTerminal = false) :
    ∃ taken, taken ≠ [] ∧ reader.cursor.rest = taken ++ reader.next.2.cursor.rest := by
  have hfinished := unfinished_of_next h
  have happend := Cursor.segment_append reader.reserved reader.cursor
  rw [← List.append_assoc] at happend
  rw [next_of_unfinished hfinished] at h ⊢
  have hshort := Cursor.length_next_lt reader.reserved reader.cursor h
  refine ⟨_, ?_, happend.symm⟩
  intro hnil
  rw [hnil, List.nil_append] at happend
  rw [happend] at hshort
  exact Nat.lt_irrefl _ hshort

/-- What can be asked of a reader: to give out tokens, or to tell the last one or its place. -/
inductive Request
  | give (call : Call)
  | current
  | position

inductive Reply
  | given (tokens : List Token)
  | current (token? : Option Token)
  | position (place : Position)

/-- Only some requests are calls; the others leave the reader as it is. -/
def Request.call? : Request → Option Call
  | give call => some call
  | current => none
  | position => none

def Reply.tokens : Reply → List Token
  | given tokens => tokens
  | current _ => []
  | position _ => []

def reply (reader : Reader) : Request → Reply × Reader
  | .give call => (.given (reader.answer call).1, (reader.answer call).2)
  | .current => (.current reader.current?, reader)
  | .position => (.position reader.position, reader)

/-- The replies to requests in their order, and the reader after them. -/
def replies (reader : Reader) : List Request → List Reply × Reader
  | [] => ([], reader)
  | request :: requests =>
    let (others, final) := (reader.reply request).2.replies requests
    ((reader.reply request).1 :: others, final)

/-- All tokens given out in reply to the requests. -/
def given (reader : Reader) (requests : List Request) : List Token :=
  (reader.replies requests).1.flatMap Reply.tokens

theorem given_cons (reader : Reader) (request : Request) (requests : List Request) :
    reader.given (request :: requests) =
      (reader.reply request).1.tokens ++ (reader.reply request).2.given requests := rfl

theorem exists_reply_eq_pull (reader : Reader) (request : Request) : ∃ count,
    (reader.reply request).1.tokens = (reader.pull count).1 ∧
      (reader.reply request).2 = (reader.pull count).2 := by
  cases request with
  | give call =>
    obtain ⟨count, hcount⟩ := exists_answers_eq_pull reader [call]
    refine ⟨count, ?_, congrArg Prod.snd hcount⟩
    rw [← hcount]
    exact (List.append_nil _).symm
  | current => exact ⟨0, rfl, rfl⟩
  | position => exact ⟨0, rfl, rfl⟩

/-- Whatever is requested, single tokens could have been asked for instead. -/
theorem exists_replies_eq_pull (reader : Reader) (requests : List Request) : ∃ count,
    reader.given requests = (reader.pull count).1 ∧
      (reader.replies requests).2 = (reader.pull count).2 := by
  induction requests generalizing reader with
  | nil => exact ⟨0, rfl, rfl⟩
  | cons request requests ih =>
    obtain ⟨count, htokens, hreader⟩ := exists_reply_eq_pull reader request
    obtain ⟨more, hothers, hfinal⟩ := ih (reader.reply request).2
    rw [hreader] at hothers hfinal
    refine ⟨count + more, ?_, ?_⟩
    · rw [given_cons, htokens, hreader, hothers, pull_add]
    · rw [replies, hreader, pull_add]
      exact hfinal

/-- A finished reader gives out nothing new and stays where it is. -/
theorem reply_of_finished {token : Token} (h : reader.finished? = some token) (request : Request) :
    (reader.reply request).2 = reader := by
  cases request with
  | give call =>
    cases call with
    | next => rw [reply, answer, next_of_finished h]
    | drain => rw [reply, answer, drain_of_finished h]
  | current => rfl
  | position => rfl

theorem replies_of_finished {token : Token} (h : reader.finished? = some token)
    (requests : List Request) : (reader.replies requests).2 = reader := by
  induction requests with
  | nil => rfl
  | cons request requests ih =>
    rw [replies, reply_of_finished h]
    exact ih

/-- Where single tokens are asked for, as many are given out. -/
theorem length_given_of_next {requests : List Request} {count : Nat}
    (h : requests.filterMap Request.call? = List.replicate count .next) :
    (reader.given requests).length = count := by
  induction requests generalizing reader count with
  | nil => rw [← @List.length_replicate _ count Call.next, ← h]; rfl
  | cons request requests ih =>
    rw [given_cons, List.length_append]
    cases request with
    | give call =>
      cases count with
      | zero => cases h
      | succ count =>
        obtain ⟨hcall, hcalls⟩ := List.cons.inj h
        obtain rfl : call = .next := hcall
        rw [ih hcalls, Nat.add_comm]
        rfl
    | current => rw [ih h]; exact Nat.zero_add count
    | position => rw [ih h]; exact Nat.zero_add count

/-- The tokens given out are the first ones of the text, the others are still ahead, and the last
one given out is remembered. -/
theorem replies_ofText (words : List String) (source : String) (requests : List Request) :
    (ofText words source).given requests = (TokenStream.ofText words source).take
        ((ofText words source).given requests).length ∧
      ((ofText words source).replies requests).2.ahead = (TokenStream.ofText words source).drop
        ((ofText words source).given requests).length ∧
      ((ofText words source).replies requests).2.current? =
        ((ofText words source).given requests).getLast? := by
  obtain ⟨count, hgiven, hfinal⟩ := exists_replies_eq_pull (ofText words source) requests
  obtain ⟨htokens, hahead⟩ := pull_ahead (ofText words source) count
  rw [hgiven, hfinal, htokens, hahead, ahead_ofText, TokenStream.length_take, current?_pull,
    htokens, ahead_ofText]
  exact ⟨rfl, rfl, rfl⟩

/-- Once a terminal token has been given out the reader is finished. -/
theorem finished?_of_mem_given {words : List String} {source : String} {requests : List Request}
    {token : Token} (hmem : token ∈ (ofText words source).given requests)
    (hterminal : token.isTerminal = true) :
    ∃ last, ((ofText words source).replies requests).2.finished? = some last := by
  obtain ⟨htake, -, hcurrent⟩ := replies_ofText words source requests
  have hbody : token ∉ (TokenStream.ofText words source).body := by
    intro hmem
    have hplain := Cursor.not_isTerminal_of_mem_body _ _ token hmem
    rw [hterminal] at hplain
    cases hplain
  rw [htake] at hmem hcurrent
  rw [TokenStream.getLast?_take (TokenStream.length_lt_of_mem_take hmem hbody)] at hcurrent
  refine ⟨(TokenStream.ofText words source).last, ?_⟩
  rw [finished?, hcurrent, Option.filter_some]
  exact if_pos (Cursor.last_isTerminal _ _)

/-- Whatever has been asked of a reader, it has given out the tokens of its text in their order, the
last one again where more were asked for. What is left, the token given out last and the end of the
reading are as these tokens say, and every token before the end has taken characters of the text. -/
theorem replies_agree (words : List String) (source : String) (requests : List Request) :
    let stream := TokenStream.ofText words source
    let given := (ofText words source).given requests
    let final := ((ofText words source).replies requests).2
    (∃ count, given = stream.toList.take count ∨
      given = stream.toList ++ List.replicate count stream.last) ∧
    (∀ count, requests.filterMap Request.call? = List.replicate count .next →
      given.length = count) ∧
    (final.reply (.give .drain)).1 =
      .given (stream.toList.drop (min given.length stream.body.length)) ∧
    (final.reply .current).1 = .current given.getLast? ∧
    ((∃ token ∈ given, token.isTerminal = true) → ∀ more, (final.replies more).2 = final) ∧
    (∀ token, (final.reply (.give .next)).1 = .given [token] → token.isTerminal = false →
      ∃ taken, taken ≠ [] ∧
        final.cursor.rest = taken ++ (final.reply (.give .next)).2.cursor.rest) ∧
    stream.toList.length ≤ source.length + 1 ∧
    (∀ token ∈ stream.body, token.isTerminal = false) ∧ stream.last.isTerminal = true := by
  intro stream given final
  obtain ⟨htake, hahead, hcurrent⟩ := replies_ofText words source requests
  refine ⟨?_, fun count => length_given_of_next, ?_, ?_, ?_, ?_, ?_, ?_, ?_⟩
  · rcases stream.take_eq given.length with hcut | hcontinued
    · exact ⟨_, Or.inl (htake.trans hcut)⟩
    · exact ⟨_, Or.inr (htake.trans hcontinued)⟩
  · rw [reply, answer, drain_eq_ahead, hahead, TokenStream.toList_drop]
  · rw [reply, hcurrent]
  · rintro ⟨token, hmem, hterminal⟩ more
    obtain ⟨last, hfinished⟩ := finished?_of_mem_given hmem hterminal
    exact replies_of_finished hfinished more
  · intro token hreply hplain
    obtain ⟨rfl, -⟩ := List.cons.inj (Reply.given.inj hreply)
    exact exists_taken hplain
  · have hbody := Cursor.length_body_le (words.map Unicode.uppercase) (Cursor.ofText source.toList)
    rw [TokenStream.toList, List.length_append, List.length_singleton, ← String.length_toList]
    exact Nat.succ_le_succ hbody
  · exact Cursor.not_isTerminal_of_mem_body _ _
  · exact Cursor.last_isTerminal _ _

end Reader

end TagGraph
