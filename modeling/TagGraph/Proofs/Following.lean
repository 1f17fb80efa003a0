import TagGraph.Proofs.OnDemand
import TagGraph.Proofs.Rounds

/-!
Routines that follow parsers. Where a parser reads a list of tokens at once, a routine that follows
it comes to the same result, having taken the same tokens one after the other. Each way of putting
routines together follows the way of putting parsers together that it is the program for; a loop
follows a repetition, by induction on what remains.
-/

namespace TagGraph

open TagGraph.Parser (Step)

namespace Routine

variable {α β σ : Type}

theorem sees_advance (described : Token → Bool) (taken left : Routine α) :
    (do if ← sees described then (do advance; taken) else left) =
      (do if ← accept described then taken else left) := by
  refine ext fun pass => ?_
  rw [run_bind_of_ok (run_sees described pass)]
  cases hcurrent : described pass.current with
  | true =>
    rw [run_bind_of_ok (run_accept_of_pos hcurrent)]
    exact run_bind_of_ok (run_advance pass) _
  | false => rw [run_bind_of_ok (run_accept_of_neg hcurrent)]; rfl

theorem accept_bind (described : Token → Bool) (taken left : Routine α) (next : α → Routine β) :
    (do if ← accept described then taken else left) >>= next =
      (do if ← accept described then taken >>= next else left >>= next) := by
  rw [bind_assoc]
  refine bind_congr fun found => ?_
  split <;> rfl

/-- From this pass on, the routine comes to what the parser makes of the tokens ahead, and takes
those that the parser reads. -/
def Follows (routine : Routine α) (parser : Parser α) (pass : Pass) : Prop :=
  ∃ count, count ≤ pass.rest.length ∧
    routine.run pass = some ((parser.run pass.rest).1, pass.skip count) ∧
      (parser.run pass.rest).2 = pass.rest.drop count

/-- Not met by a terminal token. -/
def Plain (described : Token → Bool) : Prop :=
  ∀ token : Token, token.isTerminal = true → described token = false

theorem plain_keyword (word : Keyword) : Plain (·.isKeyword word) := by
  intro token hterminal
  cases hkind : token.kind <;>
    simp_all [Token.isTerminal, Token.isEndOfInput, Token.isError, Token.isKeyword, Token.isWord]

theorem plain_operator (symbol : Char) : Plain (·.isOperator symbol) := by
  intro token hterminal
  cases hkind : token.kind <;>
    simp_all [Token.isTerminal, Token.isEndOfInput, Token.isError, Token.isOperator]

theorem Plain.not_isTerminal {described : Token → Bool} (h : Plain described) {token : Token}
    (htoken : described token = true) : token.isTerminal = false := by
  cases hterminal : token.isTerminal with
  | false => rfl
  | true => rw [h token hterminal] at htoken; cases htoken

section Follows

variable {pass : Pass} {routine taken left : Routine α} {parser item otherwise : Parser α}
  {described : Token → Bool}

theorem Follows.of_pure (value : α) : Follows (pure value) (pure value) pass :=
  ⟨0, Nat.zero_le _, rfl, rfl⟩

theorem Follows.of_throw (fault : SyntaxFault) :
    Follows (throw fault : Routine α) (Parser.fail fault) pass :=
  ⟨0, Nat.zero_le _, rfl, rfl⟩

/-- The current token is read by both. -/
theorem Follows.of_advance (hcurrent : pass.current.isTerminal = false)
    (h : Follows taken item pass.advance) (hrun : routine.run pass = taken.run pass.advance)
    (hread : ∀ rest, parser.run (pass.current :: rest) = item.run rest) :
    Follows routine parser pass := by
  have hrest := Pass.rest_of_not_isTerminal hcurrent
  obtain ⟨count, hle, hrun', hdrop⟩ := h
  refine ⟨count + 1, ?_, ?_, ?_⟩
  · rw [hrest, List.length_cons]
    omega
  · rw [hrun, hrest, hread]
    exact hrun'
  · rw [hrest, hread, hdrop, List.drop_succ_cons]

/-- The current token is left to what comes next. -/
theorem Follows.of_stay (h : Follows left otherwise pass) (hrun : routine.run pass = left.run pass)
    (hend : pass.current.isTerminal = true → parser.run [] = otherwise.run [])
    (hread : pass.current.isTerminal = false → ∀ rest,
      parser.run (pass.current :: rest) = otherwise.run (pass.current :: rest)) :
    Follows routine parser pass := by
  have hsame : parser.run pass.rest = otherwise.run pass.rest := by
    cases hterminal : pass.current.isTerminal with
    | true => rw [Pass.rest_of_isTerminal hterminal, hend hterminal]
    | false => rw [Pass.rest_of_not_isTerminal hterminal, hread hterminal]
  rw [Follows, hsame, hrun]
  exact h

theorem Follows.bind_at (h : Follows routine parser pass) {next : α → Routine β}
    {after : α → Parser β} (hnext : ∀ value pass', routine.run pass = some (.ok value, pass') →
      pass'.ahead.last = pass.ahead.last → Follows (next value) (after value) pass') :
    Follows (routine >>= next) (parser >>= after) pass := by
  obtain ⟨count, hle, hrun, hrest⟩ := h
  cases hparser : parser.run pass.rest with
  | mk result rest =>
    rw [hparser] at hrun hrest
    cases result with
    | error fault =>
      refine ⟨count, hle, ?_, ?_⟩
      · rw [run_bind_of_error hrun, Parser.run_bind_of_error hparser]
      · rw [Parser.run_bind_of_error hparser, hrest]
    | ok value =>
      have hlast : (pass.skip count).ahead.last = pass.ahead.last := by
        rw [Pass.ahead_skip]
        rfl
      obtain ⟨more, hmore, hrun', hrest'⟩ := hnext value _ hrun hlast
      obtain rfl : rest = _ := hrest
      rw [Pass.rest_skip] at hmore hrun' hrest'
      rw [List.length_drop] at hmore
      refine ⟨count + more, by omega, ?_, ?_⟩
      · rw [run_bind_of_ok hrun, Parser.run_bind_of_ok hparser, hrun', Pass.skip_add]
      · rw [Parser.run_bind_of_ok hparser, hrest', List.drop_drop]

theorem Follows.bind (h : Follows routine parser pass) {next : α → Routine β}
    {after : α → Parser β} (hnext : ∀ value pass', Follows (next value) (after value) pass') :
    Follows (routine >>= next) (parser >>= after) pass :=
  h.bind_at fun value pass' _ _ => hnext value pass'

theorem Follows.of_sees (hplain : Plain described) :
    Follows (sees described) (Parser.nextIs described) pass := by
  refine .of_stay (.of_pure (described pass.current)) (run_sees _ _) (fun hterminal => ?_)
    fun _ rest => rfl
  rw [hplain _ hterminal]
  rfl

theorem Follows.of_branch (hplain : Plain described) {others? : Token → Option (Parser α)}
    (htaken : ∀ pass, Follows taken item pass)
    (hleft : Follows left (Parser.branch others? otherwise) pass) :
    Follows (do if ← accept described then taken else left)
      (Parser.branch (fun token => if described token then some item else others? token) otherwise)
      pass := by
  cases hcurrent : described pass.current with
  | true =>
    refine .of_advance (hplain.not_isTerminal hcurrent) (htaken pass.advance)
      (run_bind_of_ok (run_accept_of_pos hcurrent) _) fun rest => ?_
    exact Parser.run_branch_of_some (if_pos hcurrent) _ _
  | false =>
    refine .of_stay hleft (run_bind_of_ok (run_accept_of_neg hcurrent) _) (fun _ => rfl)
      fun _ rest => ?_
    simp [Parser.branch, Parser.branchRun, hcurrent]

theorem Follows.of_none (h : Follows left otherwise pass) :
    Follows left (Parser.branch (fun _ => none) otherwise) pass := by
  rw [Parser.branch_none]
  exact h

theorem run_name_of_pos {role : NameRole} (h : pass.current.kind = .identifier) :
    (name role).run pass = some (.ok pass.current.text, pass.advance) := by
  have hsees := run_sees (·.kind = .identifier) pass
  have htake : takeText.run pass = some (.ok pass.current.text, pass.withoutText) := rfl
  rw [decide_eq_true h] at hsees
  rw [name, run_bind_of_ok hsees, if_pos rfl, run_bind_of_ok htake,
    run_bind_of_ok (run_advance _), Pass.advance_withoutText]
  rfl

theorem run_name_of_neg {role : NameRole} (h : pass.current.kind ≠ .identifier) :
    (name role).run pass = some (.error (.expected (.name role)), pass) := by
  have hsees := run_sees (·.kind = .identifier) pass
  rw [decide_eq_false h] at hsees
  rw [name, run_bind_of_ok hsees]
  rfl

theorem Follows.of_name (role : NameRole) : Follows (name role) (Parser.name role) pass := by
  by_cases hkind : pass.current.kind = .identifier
  · have hplain : pass.current.isTerminal = false := by
      simp [Token.isTerminal, Token.isEndOfInput, Token.isError, hkind]
    refine .of_advance hplain (.of_pure pass.current.text) (run_name_of_pos hkind) fun rest => ?_
    exact Parser.run_branch_of_some (if_pos hkind) _ _
  · refine .of_stay (.of_throw (.expected (.name role))) (run_name_of_neg hkind) (fun _ => rfl)
      fun _ rest => ?_
    exact Parser.run_branch_of_none (if_neg hkind) _ _

theorem Follows.of_expect (hplain : Plain described) (what : Expectation) :
    Follows (expect what described)
      (Parser.require what fun token => if described token then some (pure ()) else none) pass :=
  .of_branch hplain (fun _ => .of_pure ()) (.of_none (.of_throw _))

theorem Follows.of_keyword (word : Keyword) : Follows (keyword word) (Parser.keyword word) pass :=
  .of_expect (plain_keyword word) _

theorem Follows.of_operator (symbol : Char) :
    Follows (operator symbol) (Parser.operator symbol) pass :=
  .of_expect (plain_operator symbol) _

end Follows

section round

variable {pass : Pass} {described : Token → Bool} {taken left : Routine (σ ⊕ β)}
  {item : Parser α} {others : Token → Parser.Step α} {push : α → σ} {ending : Parser β}

theorem Follows.of_round (hplain : Plain described)
    (htaken : ∀ pass, Follows taken ((fun value => .inl (push value)) <$> item) pass)
    (hleft : Follows left (Parser.round others push ending) pass) :
    Follows (do if ← accept described then taken else left)
      (Parser.round (fun token => if described token then .take item else others token) push ending)
      pass := by
  cases hcurrent : described pass.current with
  | true =>
    refine .of_advance (hplain.not_isTerminal hcurrent) (htaken pass.advance)
      (run_bind_of_ok (run_accept_of_pos hcurrent) _) fun rest => ?_
    exact Parser.run_round_of_take (if_pos hcurrent)
  | false =>
    refine .of_stay hleft (run_bind_of_ok (run_accept_of_neg hcurrent) _) (fun _ => rfl)
      fun _ rest => ?_
    simp [Parser.round, Parser.roundRun, hcurrent]

theorem Follows.of_reject (hplain : Plain described) {fault : SyntaxFault}
    (hleft : Follows left (Parser.round others push ending) pass) :
    Follows (do if ← sees described then throw fault else left)
      (Parser.round (fun token => if described token then .reject fault else others token) push
        ending) pass := by
  have hsees := run_sees described pass
  cases hcurrent : described pass.current with
  | true =>
    rw [hcurrent] at hsees
    refine .of_stay (.of_throw fault) (run_bind_of_ok hsees _) (fun hterminal => ?_)
      fun _ rest => ?_
    · rw [hplain.not_isTerminal hcurrent] at hterminal
      cases hterminal
    · exact Parser.run_round_of_reject (if_pos hcurrent)
  | false =>
    rw [hcurrent] at hsees
    refine .of_stay hleft (run_bind_of_ok hsees _) (fun _ => rfl) fun _ rest => ?_
    simp [Parser.round, Parser.roundRun, hcurrent]

theorem Follows.of_stop (hleft : Follows left (.inr <$> ending) pass) :
    Follows left (Parser.round (fun _ : Token => (.stop : Parser.Step α)) push ending) pass :=
  .of_stay hleft rfl (fun _ => rfl) fun _ _ => Parser.run_round_of_stop rfl

end round

theorem Progresses.of_follows {round : σ → Routine (σ ⊕ β)} (hround : ∀ state pass,
    ∃ parser : Parser (σ ⊕ β), parser.Takes ∧ Follows (round state) parser pass) :
    Progresses round := by
  intro state pass
  obtain ⟨parser, htakes, count, hle, hrun, hrest⟩ := hround state pass
  obtain ⟨taken, hlength, hplain, hconsumed, hremaining⟩ := Pass.skip_of_le hle
  refine ⟨_, _, _, hrun, hconsumed, hplain, fun state' hresult => ?_⟩
  have hlt := htakes (Prod.ext hresult hrest)
  rw [List.length_drop] at hlt
  refine ⟨?_, by omega⟩
  rw [ne_eq, ← List.length_eq_zero_iff]
  omega

/-- A loop follows what its rounds make up, by induction on what remains. That may depend on the
token at the end, which no round changes. -/
theorem Follows.of_loop {round : σ → Routine (σ ⊕ β)} {parser : Token → σ → Parser (σ ⊕ β)}
    {whole : Token → σ → Parser β}
    (hround : ∀ state pass, Follows (round state) (parser pass.ahead.last state) pass)
    (htakes : ∀ last state, (parser last state).Takes)
    (hwhole : ∀ last state, whole last state =
      parser last state >>= Sum.elim (whole last) pure) (state : σ) (pass : Pass) :
    Follows (loop round state) (whole pass.ahead.last state) pass := by
  have hprogresses : Progresses round :=
    .of_follows fun state pass => ⟨_, htakes _ _, hround state pass⟩
  induction state, pass using hprogresses.induction with
  | step state pass ih =>
    rw [loop_eq, hwhole]
    refine (hround state pass).bind_at fun next pass' hrun hlast => ?_
    cases next with
    | inl state' => exact hlast ▸ ih state' pass' hrun
    | inr result => exact .of_pure result

section loops

variable {pass : Pass} {item : Routine α} {parser : Parser α} {separates described : Token → Bool}

theorem ofChoice_ite {p : Prop} [Decidable p] {item : Parser α} {others : Option (Parser α)} :
    Step.ofChoice (if p then some item else others) =
      if p then .take item else Step.ofChoice others := by
  split <;> rfl

theorem Follows.of_optional (hplain : Plain described) (hitem : ∀ pass, Follows item parser pass) :
    Follows (optional described item)
      (Parser.optional fun token => if described token then some parser else none) pass := by
  have htable : (fun token => (if described token then some parser else none).map
      fun item => some <$> item) = fun token =>
        if described token then some (some <$> parser) else none := by
    funext token
    split <;> rfl
  rw [Parser.optional, htable]
  refine .of_branch hplain (fun pass => ?_) (.of_none (.of_pure none))
  rw [map_eq_pure_bind]
  exact (hitem pass).bind fun value _ => .of_pure (some value)

theorem Follows.of_repeated {σ : Type} {round : σ → Routine (σ ⊕ β)} {step : σ → Token → Step α}
    {push : σ → α → σ} {ending : Token → σ → Parser β}
    (hround : ∀ state pass, Follows (round state)
      (Parser.round (step state) (push state) (ending pass.ahead.last state)) pass)
    (state : σ) (pass : Pass) : Follows (loop round state)
      (Parser.repeated step push state >>= fun values =>
        ending pass.ahead.last (values.foldl push state)) pass :=
  @Follows.of_loop _ _ round
    (fun last state => Parser.round (step state) (push state) (ending last state))
    (fun last state => Parser.repeated step push state >>= fun values =>
      ending last (values.foldl push state)) hround (fun _ _ => Parser.takes_round _ _ _)
    (fun _ => Parser.repeated_bind_eq _ _ _) state pass

/-- A loop that follows a table in every round reads all the items that the table lists. -/
theorem Follows.of_many {σ : Type} {round : σ → Routine (σ ⊕ β)}
    {choice? : Token → Option (Parser α)} {push : σ → α → σ} {ending : σ → Parser β}
    (hround : ∀ state pass, Follows (round state)
      (Parser.round (fun token => Step.ofChoice (choice? token)) (push state) (ending state)) pass)
    (state : σ) (pass : Pass) : Follows (loop round state)
      (Parser.many choice? >>= fun values => ending (values.foldl push state)) pass := by
  rw [Parser.many_eq_repeated choice? push state]
  exact @Follows.of_repeated _ _ _ round _ _ (fun _ => ending) hround state pass

theorem separatedRound_follows (hplain : Plain separates)
    (hitem : ∀ pass, Follows item parser pass) (items : List α) (pass : Pass) :
    Follows (separatedRound separates item items) (Parser.round
      (fun token => Step.ofChoice (if separates token then some parser else none))
        (fun value => items ++ [value]) (pure items)) pass := by
  simp only [ofChoice_ite]
  refine .of_round hplain (fun pass => ?_) (.of_stop (.of_pure _))
  rw [map_eq_pure_bind]
  exact (hitem pass).bind fun value _ => .of_pure _

theorem foldl_concat (items values : List α) :
    values.foldl (fun items value => items ++ [value]) items = items ++ values := by
  induction values generalizing items with
  | nil => rw [List.append_nil]; rfl
  | cons value values ih => rw [List.foldl_cons, ih, List.append_assoc, List.singleton_append]

theorem Follows.of_separated (hplain : Plain separates) (hitem : ∀ pass, Follows item parser pass) :
    Follows (do loop (separatedRound separates item) [← item])
      (Parser.separatedBy separates parser) pass := by
  refine (hitem pass).bind fun first pass => ?_
  have hloop := Follows.of_many (separatedRound_follows hplain hitem) [first] pass
  simpa only [foldl_concat, List.singleton_append] using hloop

theorem listedRound_follows (hitem : ∀ pass, Follows item parser pass) (items : List α)
    (pass : Pass) : Follows (listedRound item items) (Parser.listedRound parser items) pass :=
  (hitem pass).bind fun _ _ =>
    .of_branch (plain_operator ',') (fun _ => .of_pure _) (.of_none (.of_pure _))

theorem Follows.of_listed (hitem : ∀ pass, Follows item parser pass) (items : List α)
    (pass : Pass) : Follows (loop (listedRound item) items)
      ((items ++ ·) <$> Parser.commaSeparated parser) pass :=
  @Follows.of_loop _ _ _ (fun _ => Parser.listedRound parser)
    (fun _ items => (items ++ ·) <$> Parser.commaSeparated parser) (listedRound_follows hitem)
    (fun _ => Parser.takes_listedRound parser) (fun _ => Parser.listedRound_bind_eq parser) items
      pass

theorem Follows.of_names (role : NameRole) :
    Follows (names role) (Parser.commaSeparated (Parser.name role)) pass :=
  .of_separated (plain_operator ',') fun _ => .of_name role

end loops

end Routine

end TagGraph
