import TagGraph.Proofs.OnDemandDeclarations

/-!
Compiling on demand. Every loop of the program progresses, so the program ends on every text, with
the result of compiling it. What has been asked of the reader at any time is settled by what remains
of the text.
-/

namespace TagGraph

namespace Pass

/-- These tokens of the text were asked for, and not one too many. -/
structure Asked (source : String) (pass : Pass) : Prop where
  pull_eq : (Reader.ofText Keyword.reserved source).pull (pass.consumed.length + 1) =
    (pass.answers, pass.reader)
  plain : ∀ token ∈ pass.consumed, token.isTerminal = false
  length_le : pass.consumed.length + pass.remaining ≤ source.length

variable {source : String} {pass : Pass}

theorem length_answers (pass : Pass) : pass.answers.length = pass.consumed.length + 1 := by
  obtain ⟨token, hgiven, -⟩ := pass.exists_current?
  rw [answers, hgiven, List.length_append]
  rfl

theorem Asked.start (recordsTokens : Bool) (source : String) :
    Asked source (start recordsTokens source) where
  pull_eq := by
    rw [Pass.start, answers_look]
    rfl
  plain := List.forall_mem_nil _
  length_le := by
    have hremaining := remaining_look_le (Reader.ofText Keyword.reserved source) [] recordsTokens []
    rw [Pass.start, ← Nat.zero_add source.length]
    exact Nat.add_le_add_left hremaining 0

theorem Asked.advance (h : Asked source pass) (hcurrent : pass.current.isTerminal = false) :
    Asked source pass.advance := by
  obtain ⟨token, hgiven, htoken⟩ := pass.exists_current?
  have hconsumed : pass.advance.consumed = pass.consumed ++ [token] := by
    rw [Pass.advance, look, hgiven, Option.toList_some]
  have hlength : pass.advance.consumed.length = pass.consumed.length + 1 := by
    rw [hconsumed, List.length_append, List.length_singleton]
  refine ⟨?_, ?_, ?_⟩
  · rw [hlength, Reader.pull, h.pull_eq, Pass.advance, answers_look, answers]
    rfl
  · rw [hconsumed]
    exact List.forall_mem_append.mpr
      ⟨h.plain, List.forall_mem_singleton.mpr (htoken.trans hcurrent)⟩
  · have hlt := remaining_advance_lt hcurrent
    have hle := h.length_le
    omega

theorem Asked.skip {count : Nat} (h : Asked source pass) (hle : count ≤ pass.rest.length) :
    Asked source (pass.skip count) :=
  @skip_preserves _ (fun _ pass => Asked source pass)
    (fun hterminal hasked => hasked.advance hterminal) [] _ h hle

theorem Asked.record (h : Asked source pass) (event : Event) : Asked source (pass.record event) :=
  ⟨h.pull_eq, h.plain, h.length_le⟩

theorem Asked.completing (h : Asked source pass) (completed : List (Declaration × List Token)) :
    Asked source (pass.completing completed) := by
  induction completed generalizing pass with
  | nil => exact h
  | cons entry others ih => exact ih ((h.skip (Nat.sub_le _ _)).record _)

theorem Asked.completed (h : Asked source pass) : Asked source pass.completed := h.completing _

theorem Asked.not_isTerminal (h : Asked source pass) {token : Token}
    (hmem : token ∈ pass.answers.dropLast) : token.isTerminal = false := by
  obtain ⟨last, hgiven, -⟩ := pass.exists_current?
  rw [answers, hgiven, Option.toList_some, List.dropLast_concat] at hmem
  exact h.plain token hmem

end Pass

namespace Routine

theorem compile_eq_some {options : Options} {source : String} {result : Except Diagnostic Model}
    {pass : Pass} (h : compile options source = some (result, pass)) :
    result = compileWith options source ∧ pass.Asked source := by
  obtain ⟨count, hle, hcompile, -⟩ := exists_compile_eq options source
  obtain ⟨rfl, rfl⟩ := Prod.mk.inj (Option.some.inj (h.symm.trans hcompile))
  exact ⟨rfl, ((Pass.Asked.start options.recordsTokens source).completed.skip hle).record _⟩

/-- In every loop a round that another one follows has taken a token that is not terminal. So
compiling ends, and until then it has asked for no token after a terminal one, nor for more of them
than one for every character and one for the end. -/
theorem compile_progresses (options : Options) (source : String) :
    (Progresses declarationRound ∧ Progresses conceptRound ∧ Progresses actionRound ∧
      Progresses predicateRound ∧ (∀ role, Progresses (nameRound role)) ∧ Progresses worldRound ∧
        Progresses (listedRound worldObject) ∧ Progresses (listedRound binding)) ∧
    ∃ pass, compile options source = some (compileWith options source, pass) ∧
      (Reader.ofText Keyword.reserved source).pull pass.answers.length =
        (pass.answers, pass.reader) ∧
      pass.answers.length ≤ source.length + 1 ∧
        ∀ token ∈ pass.answers.dropLast, token.isTerminal = false := by
  refine ⟨⟨?_, ?_, ?_, ?_, fun role => ?_, ?_, ?_, ?_⟩, ?_⟩
  · exact declarationRound_progresses
  · exact .of_follows fun _ _ => ⟨_, Parser.takes_round _ _ _, conceptRound_follows _ _⟩
  · exact .of_follows fun _ _ => ⟨_, Parser.takes_round _ _ _, actionRound_follows _ _⟩
  · exact .of_follows fun _ _ => ⟨_, Parser.takes_round _ _ _,
      separatedRound_follows (plain_keyword .AND) predicate_follows _ _⟩
  · exact .of_follows fun _ _ => ⟨_, Parser.takes_round _ _ _,
      separatedRound_follows (plain_operator ',') (fun _ => .of_name role) _ _⟩
  · exact .of_follows fun _ _ => ⟨_, Parser.takes_round _ _ _, worldRound_follows _ _⟩
  · exact .of_follows fun _ _ => ⟨_, Parser.takes_listedRound _ _,
      listedRound_follows worldObject_follows _ _⟩
  · exact .of_follows fun _ _ => ⟨_, Parser.takes_listedRound _ _,
      listedRound_follows binding_follows _ _⟩
  obtain ⟨count, -, hcompile, -⟩ := exists_compile_eq options source
  have hasked := (compile_eq_some hcompile).2
  have hlength := hasked.length_le
  refine ⟨_, hcompile, ?_, ?_, ?_⟩
  · rw [Pass.length_answers]
    exact hasked.pull_eq
  · rw [Pass.length_answers]
    omega
  · exact fun token hmem => hasked.not_isTerminal hmem

end Routine

end TagGraph
