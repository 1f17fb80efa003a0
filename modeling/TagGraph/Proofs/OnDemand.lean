import TagGraph.OnDemand
import TagGraph.Proofs.ReaderRequests

/-!
How a pass goes on. To advance is to take the current token, and so many tokens that are not
terminal leave so much less of the text. A loop whose every further round has taken such a token
does end, though nothing bounds it.
-/

namespace TagGraph

namespace Pass

def skip (pass : Pass) : Nat → Pass
  | 0 => pass
  | count + 1 => pass.advance.skip count

/-- All that the reader has been asked for, in order. -/
def answers (pass : Pass) : List Token := pass.consumed ++ pass.reader.current?.toList

/-- The tokens from the current one on. -/
def ahead (pass : Pass) : TokenStream :=
  if pass.current.isTerminal then ⟨[], pass.current⟩
  else ⟨pass.current :: pass.reader.ahead.body, pass.reader.ahead.last⟩

def rest (pass : Pass) : List Token := pass.ahead.body

/-- The characters that are still to be read, and the current token if it is not terminal. -/
def remaining (pass : Pass) : Nat :=
  pass.reader.cursor.rest.length + if pass.current.isTerminal then 0 else 1

variable {pass : Pass}

/-- Only a name is ever without its text. -/
theorem current?_of_kind_ne (h : pass.current.kind ≠ .identifier) :
    pass.reader.current? = some pass.current := by
  obtain ⟨text, hgiven, htext⟩ := pass.given
  rw [hgiven, htext h]

theorem exists_current? (pass : Pass) : ∃ token, pass.reader.current? = some token ∧
    token.isTerminal = pass.current.isTerminal := by
  obtain ⟨text, hgiven, -⟩ := pass.given
  exact ⟨_, hgiven, rfl⟩

theorem finished?_of_isTerminal (h : pass.current.isTerminal = true) :
    pass.reader.finished? = some pass.current := by
  have hkind : pass.current.kind ≠ .identifier := by
    intro hname
    simp [Token.isTerminal, Token.isEndOfInput, Token.isError, hname] at h
  rw [Reader.finished?, current?_of_kind_ne hkind, Option.filter_some, if_pos h]

/-- What the text of a name is moved out of is not looked at again. -/
theorem advance_withoutText (pass : Pass) : pass.withoutText.advance = pass.advance := by
  rw [withoutText]
  split <;> rfl

section look

variable (reader : Reader) (consumed : List Token) (recordsTokens : Bool) (log : List Event)

theorem ahead_look : (look reader consumed recordsTokens log).ahead = reader.ahead := by
  cases hterminal : reader.next.1.isTerminal with
  | true => rw [Reader.ahead_of_isTerminal hterminal, ahead, look, if_pos hterminal]
  | false =>
    have hcurrent : ¬reader.next.1.isTerminal = true := by simp [hterminal]
    rw [Reader.ahead_of_not_isTerminal hterminal, ahead, look, if_neg hcurrent]

theorem remaining_look_le :
    (look reader consumed recordsTokens log).remaining ≤ reader.cursor.rest.length := by
  change reader.next.2.cursor.rest.length + (if reader.next.1.isTerminal then 0 else 1) ≤ _
  cases hfinished : reader.finished? with
  | some token =>
    rw [Reader.next_of_finished hfinished, if_pos (Reader.finished?_eq_some hfinished).2]
    exact Nat.le_refl _
  | none =>
    simp only [Reader.next_of_unfinished hfinished]
    split
    · have happend := congrArg List.length (Cursor.segment_append reader.reserved reader.cursor)
      simp only [List.length_append] at happend
      omega
    · next hplain =>
      have hshort := Cursor.length_next_lt reader.reserved reader.cursor (by simpa using hplain)
      omega

end look

theorem ahead_start (recordsTokens : Bool) (source : String) :
    (start recordsTokens source).ahead = TokenStream.ofSource source :=
  ahead_look _ _ _ _

theorem ahead_advance (pass : Pass) : pass.advance.ahead = pass.ahead.drop 1 := by
  rw [advance, ahead_look]
  cases hterminal : pass.current.isTerminal with
  | true =>
    rw [ahead, if_pos hterminal, Reader.ahead_of_finished (finished?_of_isTerminal hterminal)]
    rfl
  | false => rw [ahead, hterminal]; rfl

theorem ahead_skip (pass : Pass) (count : Nat) :
    (pass.skip count).ahead = pass.ahead.drop count := by
  induction count generalizing pass with
  | zero => rfl
  | succ count ih =>
    rw [skip, ih, ahead_advance, ← TokenStream.drop_add, Nat.add_comm]

theorem rest_skip (pass : Pass) (count : Nat) : (pass.skip count).rest = pass.rest.drop count := by
  rw [rest, ahead_skip]
  rfl

theorem rest_of_isTerminal (h : pass.current.isTerminal = true) : pass.rest = [] := by
  rw [rest, ahead, if_pos h]

theorem rest_of_not_isTerminal (h : pass.current.isTerminal = false) :
    pass.rest = pass.current :: pass.advance.rest := by
  rw [advance, rest, rest, ahead_look, ahead, h]
  rfl

theorem toList_ahead_of_not_isTerminal (h : pass.current.isTerminal = false) :
    pass.ahead.toList = pass.current :: pass.advance.ahead.toList := by
  have hlast : pass.advance.ahead.last = pass.ahead.last := by
    rw [ahead_advance]
    rfl
  rw [TokenStream.toList, TokenStream.toList, hlast, ← List.cons_append]
  exact congrArg (· ++ _) (rest_of_not_isTerminal h)

theorem exists_toList_ahead (pass : Pass) : ∃ after, pass.ahead.toList = pass.current :: after := by
  rw [ahead]
  split <;> exact ⟨_, rfl⟩

theorem current_eq (pass : Pass) : pass.current = pass.ahead.lookahead pass.rest := by
  rw [rest, ahead]
  split <;> rfl

/-- What advancing leaves as it is, any number of tokens taken leaves as it is. -/
theorem skip_invariant {β : Type} (view : Pass → β)
    (hadvance : ∀ pass : Pass, view pass.advance = view pass) (pass : Pass) (count : Nat) :
    view (pass.skip count) = view pass := by
  induction count generalizing pass with
  | zero => rfl
  | succ count ih => rw [skip, ih, hadvance]

theorem skip_add (pass : Pass) (count more : Nat) :
    pass.skip (count + more) = (pass.skip count).skip more := by
  induction count generalizing pass with
  | zero => rw [Nat.zero_add]; rfl
  | succ count ih => rw [Nat.add_right_comm, skip, skip, ih]

theorem remaining_advance_lt (h : pass.current.isTerminal = false) :
    pass.advance.remaining < pass.remaining := by
  have hle := remaining_look_le pass.reader (pass.consumed ++ pass.reader.current?.toList)
    pass.recordsTokens pass.log
  have hremaining : pass.remaining = pass.reader.cursor.rest.length + 1 := by
    rw [remaining, h]
    rfl
  rw [advance, hremaining]
  omega

/-- What advancing over a token that is not terminal preserves of the tokens read and the pass,
taking any number of them does. -/
theorem skip_preserves {Holds : List Token → Pass → Prop}
    (hstep : ∀ {read : List Token} {pass : Pass}, pass.current.isTerminal = false →
      Holds read pass → Holds (read ++ [pass.current]) pass.advance)
    {read : List Token} {count : Nat} (h : Holds read pass) (hle : count ≤ pass.rest.length) :
    Holds (read ++ pass.rest.take count) (pass.skip count) := by
  induction count generalizing read pass with
  | zero => rwa [List.take_zero, List.append_nil]
  | succ count ih =>
    cases hterminal : pass.current.isTerminal with
    | true =>
      rw [rest_of_isTerminal hterminal, List.length_nil] at hle
      omega
    | false =>
      rw [rest_of_not_isTerminal hterminal, List.length_cons] at hle
      have hskip := ih (hstep hterminal h) (by omega)
      rwa [List.append_assoc, List.singleton_append, ← List.take_succ_cons,
        ← rest_of_not_isTerminal hterminal] at hskip

/-- So many tokens are taken, none of them terminal, and for each of them less remains. -/
theorem skip_of_le {count : Nat} (h : count ≤ pass.rest.length) : ∃ taken,
    taken.length = count ∧ (∀ token ∈ taken, token.isTerminal = false) ∧
      (pass.skip count).consumed = pass.consumed ++ taken ∧
        (pass.skip count).remaining + count ≤ pass.remaining := by
  induction count generalizing pass with
  | zero => exact ⟨[], rfl, List.forall_mem_nil _, (List.append_nil _).symm, Nat.le_refl _⟩
  | succ count ih =>
    have hcurrent : pass.current.isTerminal = false := by
      cases hterminal : pass.current.isTerminal with
      | true =>
        rw [rest_of_isTerminal hterminal, List.length_nil] at h
        omega
      | false => rfl
    have hlt := remaining_advance_lt hcurrent
    rw [rest_of_not_isTerminal hcurrent, List.length_cons] at h
    obtain ⟨token, hgiven, htoken⟩ := pass.exists_current?
    obtain ⟨taken, hlength, hplain, hconsumed, hremaining⟩ := @ih pass.advance (by omega)
    refine ⟨token :: taken, by rw [List.length_cons, hlength], ?_, ?_, ?_⟩
    · exact List.forall_mem_cons.mpr ⟨htoken.trans hcurrent, hplain⟩
    · rw [skip, hconsumed, advance, look, hgiven, Option.toList_some, List.append_assoc,
        List.singleton_append]
    · rw [skip]
      omega

theorem answers_look (reader : Reader) (consumed : List Token) (recordsTokens : Bool)
    (log : List Event) : (look reader consumed recordsTokens log).answers =
      consumed ++ [reader.next.1] := by
  rw [answers, look, reader.current?_next, Option.toList_some]

end Pass

namespace Routine

variable {α β σ : Type}

/-- Every round ends. What it takes are tokens that are not terminal, and another round follows only
where it has taken one. -/
def Progresses (round : σ → Routine (σ ⊕ β)) : Prop :=
  ∀ state pass, ∃ result taken pass', (round state).run pass = some (result, pass') ∧
    pass'.consumed = pass.consumed ++ taken ∧ (∀ token ∈ taken, token.isTerminal = false) ∧
      ∀ state', result = .ok (.inl state') → taken ≠ [] ∧ pass'.remaining < pass.remaining

theorem ext {left right : Routine α} (h : ∀ pass, left.run pass = right.run pass) : left = right :=
  funext h

theorem run_bind (routine : Routine α) (next : α → Routine β) (pass : Pass) :
    (routine >>= next).run pass = (routine.run pass).bind fun
      | (.ok value, pass') => (next value).run pass'
      | (.error fault, pass') => some (.error fault, pass') := by
  rw [run, ExceptT.run_bind, StateT.run_bind]
  refine congrArg _ (funext fun outcome => ?_)
  obtain ⟨_ | _, _⟩ := outcome <;> rfl

theorem run_bind_of_ok {routine : Routine α} {pass pass' : Pass} {value : α}
    (h : routine.run pass = some (.ok value, pass')) (next : α → Routine β) :
    (routine >>= next).run pass = (next value).run pass' := by
  rw [run_bind, h, Option.bind_some]

theorem run_bind_of_error {routine : Routine α} {pass pass' : Pass} {fault : SyntaxFault}
    (h : routine.run pass = some (.error fault, pass')) (next : α → Routine β) :
    (routine >>= next).run pass = some (.error fault, pass') := by
  rw [run_bind, h, Option.bind_some]

theorem run_current (pass : Pass) : current.run pass = some (.ok pass.current, pass) := rfl

theorem run_advance (pass : Pass) : advance.run pass = some (.ok (), pass.advance) := rfl

theorem run_sees (described : Token → Bool) (pass : Pass) :
    (sees described).run pass = some (.ok (described pass.current), pass) :=
  run_bind_of_ok (run_current pass) _

theorem run_accept_of_pos {described : Token → Bool} {pass : Pass}
    (h : described pass.current = true) :
    (accept described).run pass = some (.ok true, pass.advance) := by
  have hsees := run_sees described pass
  rw [h] at hsees
  rw [accept, run_bind_of_ok hsees]
  exact run_bind_of_ok (run_advance pass) _

theorem run_accept_of_neg {described : Token → Bool} {pass : Pass}
    (h : described pass.current = false) :
    (accept described).run pass = some (.ok false, pass) := by
  have hsees := run_sees described pass
  rw [h] at hsees
  rw [accept, run_bind_of_ok hsees]
  rfl

/-- A loop is its first round and then, unless that was the last one, the loop again. -/
theorem loop_eq (round : σ → Routine (σ ⊕ β)) (state : σ) :
    loop round state = round state >>= Sum.elim (loop round) pure := by
  refine ext fun pass => ?_
  have hrounds : (loop round state).run pass = rounds round state pass := rfl
  rw [run_bind, hrounds, rounds]
  refine congrArg _ (funext fun outcome => ?_)
  obtain ⟨_ | _ | _, _⟩ := outcome <;> rfl

/-- Rounds that progress come to an end, for with each of them less remains. -/
@[elab_as_elim]
theorem Progresses.induction {round : σ → Routine (σ ⊕ β)} (h : Progresses round)
    {motive : σ → Pass → Prop}
    (step : ∀ state pass, (∀ state' pass',
      (round state).run pass = some (.ok (.inl state'), pass') → motive state' pass') →
        motive state pass) (state : σ) (pass : Pass) : motive state pass := by
  induction hremaining : pass.remaining using Nat.strongRecOn generalizing state pass with
  | ind remaining ih =>
    refine step state pass fun state' pass' hround => ?_
    obtain ⟨result, taken, pass'', hrun, -, -, hgoes⟩ := h state pass
    rw [hround, Option.some_inj] at hrun
    obtain ⟨rfl, rfl⟩ := Prod.mk.inj hrun
    have hlt := (hgoes state' rfl).2
    exact ih _ (hremaining ▸ hlt) state' pass' rfl

end Routine

end TagGraph
