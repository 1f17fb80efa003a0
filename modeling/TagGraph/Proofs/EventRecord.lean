import TagGraph.Proofs.LabelHistories
import TagGraph.Proofs.OnDemandDeclarations
import TagGraph.Proofs.Refusal

/-!
What the record of a pass tells. It lists the tokens of the text in their order, each once, up to
the one that is refused, or all of them. A declaration is recorded when it is over, which shows by
the token after it, and so right behind that token. The last entry alone is no trace: it tells how
the pass ended. A record that leaves out the tokens is otherwise the same.
-/

namespace TagGraph

open TagGraph.Parser

def Event.token? : Event → Option Token
  | token value => some value
  | _ => none

def Event.declaration? : Event → Option Declaration
  | parsed declaration => some declaration
  | _ => none

namespace EventLog

def tokens (log : List Event) : List Token := log.filterMap Event.token?

def declarations (log : List Event) : List Declaration := log.filterMap Event.declaration?

/-- The fields of the events that bear the message. -/
def entries (message : String) (log : List Event) : List (List (String × Event.Field)) :=
  (log.filter (·.message == message)).map Event.fields

section projections

variable (log others : List Event)

@[simp]
theorem tokens_append : tokens (log ++ others) = tokens log ++ tokens others :=
  List.filterMap_append

@[simp]
theorem declarations_append :
    declarations (log ++ others) = declarations log ++ declarations others :=
  List.filterMap_append

@[simp]
theorem tokens_parsed (declaration : Declaration) :
    tokens (log ++ [Event.parsed declaration]) = tokens log := by
  rw [tokens_append]
  exact List.append_nil _

@[simp]
theorem declarations_parsed (declaration : Declaration) :
    declarations (log ++ [Event.parsed declaration]) = declarations log ++ [declaration] :=
  declarations_append _ _

@[simp]
theorem tokens_outcome (options : Options) (result : Except Diagnostic Model) :
    tokens (log ++ [Event.outcome options result]) = tokens log := by
  rw [tokens_append]
  cases result <;> exact List.append_nil _

@[simp]
theorem declarations_outcome (options : Options) (result : Except Diagnostic Model) :
    declarations (log ++ [Event.outcome options result]) = declarations log := by
  rw [declarations_append]
  cases result <;> exact List.append_nil _

/-- The entries with a message come from the events that have a value to show under it. -/
theorem entries_eq {α : Type} {message : String} {value? : Event → Option α}
    {fields : α → List (String × Event.Field)} (h : ∀ event,
      (if event.message = message then some event.fields else none) =
        (value? event).map fields) :
    entries message log = (log.filterMap value?).map fields := by
  rw [List.map_filterMap]
  induction log with
  | nil => rfl
  | cons event log ih =>
    rw [entries] at ih
    rw [List.filterMap_cons, ← h event, ← ih, entries, List.filter_cons]
    by_cases hmessage : event.message = message <;> simp [hmessage]

theorem entries_token : entries "token" log = (tokens log).map fun token =>
    [("kind", .text token.kind.name), ("text", .text token.text),
      ("line", .number token.position.line), ("column", .number token.position.column)] := by
  refine entries_eq log ?_
  rintro (_ | ⟨_ | _ | _⟩ | _ | _) <;> rfl

theorem entries_concept : entries "parsed concept" log =
    (Model.ofDeclarations (declarations log)).concepts.map fun concept =>
      [("concept", .text concept.name), ("tags", .number concept.tags.toList.toFinset.card),
        ("slots", .number concept.slots.toList.toFinset.card)] := by
  simp only [Model.ofDeclarations, declarations, List.filterMap_filterMap, ← LabelSet.size_eq_card]
  refine entries_eq log ?_
  rintro (_ | ⟨_ | _ | _⟩ | _ | _) <;> rfl

theorem entries_actuator : entries "parsed actuator" log =
    (Model.ofDeclarations (declarations log)).actuators.map fun actuator =>
      [("is_root", .flag actuator.isRoot), ("conditions", .number actuator.conditions.length),
        ("interactive", .flag actuator.isInteractive),
        ("actions", .number actuator.actions.length)] := by
  simp only [Model.ofDeclarations, declarations, List.filterMap_filterMap]
  refine entries_eq log ?_
  rintro (_ | ⟨_ | _ | _⟩ | _ | _) <;> rfl

theorem entries_world : entries "parsed world" log =
    (Model.ofDeclarations (declarations log)).worlds.map fun world =>
      [("world", .text world.name), ("objects", .number world.objects.length),
        ("bindings", .number world.bindings.length)] := by
  simp only [Model.ofDeclarations, declarations, List.filterMap_filterMap]
  refine entries_eq log ?_
  rintro (_ | ⟨_ | _ | _⟩ | _ | _) <;> rfl

end projections

/-- The declaration is over after these events. The tokens they tell of are those of the
declarations they tell of, then those of this one, and one token more, which is told of last. -/
def Concludes (earlier : List Event) (declaration : Declaration) : Prop :=
  ∃ read phrase next, tokens earlier = read ++ phrase ++ [next] ∧
    RepeatPhrase DeclarationPhrase read (declarations earlier) ∧
      DeclarationPhrase phrase declaration ∧ earlier.getLast? = some (.token next)

/-- Each declaration is recorded where it is over. -/
def Timely (log : List Event) : Prop :=
  ∀ earlier declaration later, log = earlier ++ .parsed declaration :: later →
    Concludes earlier declaration

theorem Timely.concat {log : List Event} (h : Timely log) {event : Event}
    (hevent : ∀ declaration, event.declaration? = some declaration → Concludes log declaration) :
    Timely (log ++ [event]) := by
  intro earlier declaration later hsplit
  rcases List.eq_nil_or_concat later with rfl | ⟨later, last, rfl⟩
  · obtain ⟨rfl, hlast⟩ := List.append_inj' hsplit rfl
    obtain rfl := (List.cons.inj hlast).1
    exact hevent declaration rfl
  · rw [List.concat_eq_append, ← List.cons_append, ← List.append_assoc] at hsplit
    exact h earlier declaration later (List.append_inj' hsplit rfl).1

end EventLog

/-- No declaration is over at the head of these tokens. -/
def Unfinished (tokens : List Token) : Prop :=
  ∀ front back declaration, tokens = front ++ back → DeclarationPhrase front declaration →
    ¬Ends Declaration.Continues back

theorem unfinished_nil : Unfinished [] := by
  intro front back declaration hnil hphrase _
  obtain ⟨rfl, -⟩ := List.append_eq_nil_iff.mp hnil.symm
  exact Declaration.opened?_recognizes.nonempty hphrase

theorem Declaration.ne_nil_of_phrase {tokens : List Token} {declaration : Declaration}
    (h : DeclarationPhrase tokens declaration) : tokens ≠ [] := by
  rintro rfl
  exact opened?_recognizes.nonempty h

/-- A token with which a declaration is over is the head of a parser that succeeds. -/
theorem exists_run_of_not_unfinished {token : Token} {rest front back : List Token}
    {declaration : Declaration} (hsplit : token :: rest = front ++ back)
    (hphrase : DeclarationPhrase front declaration) (hends : Ends Declaration.Continues back) :
    ∃ item, Declaration.opened? token = some item ∧ item.run rest = (.ok declaration, back) := by
  cases front with
  | nil => exact absurd hphrase Declaration.opened?_recognizes.nonempty
  | cons key front =>
    obtain ⟨rfl, rfl⟩ := List.cons.inj hsplit
    obtain ⟨item, hitem⟩ := Option.isSome_iff_exists.mp
      (Declaration.opened?_recognizes.opens hphrase)
    exact ⟨item, hitem, (Declaration.opened?_recognizes.items hitem).complete hphrase hends⟩

namespace EventLog

/-- The tokens before the current one are read, and the record tells of them and of that one. -/
structure Tells (stream : TokenStream) (read : List Token) (pass : Pass) : Prop where
  split : stream.toList = read ++ pass.ahead.toList
  told : pass.recordsTokens = true → tokens pass.log = read ++ [pass.current]
  timely : pass.recordsTokens = true → Timely pass.log
  traces : ∀ event ∈ pass.log, event.level = .trace

/-- And these tokens make up the declarations that the record tells of. -/
structure Keeps (stream : TokenStream) (read : List Token) (pass : Pass) : Prop
    extends Tells stream read pass where
  phrases : RepeatPhrase DeclarationPhrase read (declarations pass.log)

section

variable {stream : TokenStream} {read : List Token} {pass : Pass}

theorem log_advance (pass : Pass) : pass.advance.log =
    if pass.recordsTokens then pass.log ++ [.token pass.advance.current] else pass.log := rfl

theorem declarations_advance (pass : Pass) :
    declarations pass.advance.log = declarations pass.log := by
  rw [log_advance]
  split
  · rw [declarations_append]
    exact List.append_nil _
  · rfl

theorem declarations_skip (pass : Pass) (count : Nat) :
    declarations (pass.skip count).log = declarations pass.log :=
  Pass.skip_invariant (fun pass => declarations pass.log) declarations_advance pass count

theorem declarations_completing (pass : Pass) (completed : List (Declaration × List Token)) :
    declarations (pass.completing completed).log =
      declarations pass.log ++ completed.map Prod.fst := by
  induction completed generalizing pass with
  | nil => exact (List.append_nil _).symm
  | cons entry others ih =>
    rw [Pass.completing, ih, Pass.record, declarations_parsed, declarations_skip, List.append_assoc]
    rfl

theorem recordsTokens_skip (pass : Pass) (count : Nat) :
    (pass.skip count).recordsTokens = pass.recordsTokens :=
  Pass.skip_invariant Pass.recordsTokens (fun _ => rfl) pass count

theorem recordsTokens_completing (pass : Pass) (completed : List (Declaration × List Token)) :
    (pass.completing completed).recordsTokens = pass.recordsTokens :=
  Pass.completing_invariant Pass.recordsTokens (fun _ => rfl) (fun _ _ => rfl) pass completed

theorem declarations_start (recordsTokens : Bool) (source : String) :
    declarations (Pass.start recordsTokens source).log = [] := by
  cases recordsTokens <;> rfl

theorem Keeps.start (recordsTokens : Bool) (source : String) :
    Keeps (TokenStream.ofSource source) [] (Pass.start recordsTokens source) := by
  have hnone := declarations_start recordsTokens source
  refine ⟨⟨by rw [Pass.ahead_start]; rfl, ?_, ?_, ?_⟩, by rw [hnone]; exact .nil⟩
  · rintro rfl
    rfl
  · rintro - earlier declaration later hsplit
    rw [hsplit, declarations_append] at hnone
    cases (List.append_eq_nil_iff.mp hnone).2
  · cases recordsTokens with
    | true => exact List.forall_mem_singleton.mpr rfl
    | false => exact List.forall_mem_nil _

theorem Tells.body_eq (h : Tells stream read pass) : stream.body = read ++ pass.rest := by
  have hsplit := h.split
  rw [TokenStream.toList, TokenStream.toList, ← List.append_assoc] at hsplit
  exact (List.append_inj' hsplit rfl).1

/-- The current token comes after those that are read. -/
theorem Tells.exists_split (h : Tells stream read pass) :
    ∃ after, stream.toList = read ++ pass.current :: after := by
  obtain ⟨after, hafter⟩ := pass.exists_toList_ahead
  exact ⟨after, by rw [h.split, hafter]⟩

theorem Tells.advance (h : Tells stream read pass) (hcurrent : pass.current.isTerminal = false) :
    Tells stream (read ++ [pass.current]) pass.advance := by
  refine ⟨?_, fun hrecords => ?_, fun hrecords => ?_, ?_⟩
  · rw [h.split, Pass.toList_ahead_of_not_isTerminal hcurrent, List.append_assoc]
    rfl
  · have hrecords' : pass.recordsTokens = true := hrecords
    rw [log_advance, if_pos hrecords', tokens_append, h.told hrecords']
    rfl
  · have hrecords' : pass.recordsTokens = true := hrecords
    rw [log_advance, if_pos hrecords']
    exact (h.timely hrecords').concat nofun
  · rw [log_advance]
    split
    · exact List.forall_mem_append.mpr ⟨h.traces, List.forall_mem_singleton.mpr rfl⟩
    · exact h.traces

theorem Tells.skip {count : Nat} (h : Tells stream read pass) (hle : count ≤ pass.rest.length) :
    Tells stream (read ++ pass.rest.take count) (pass.skip count) :=
  Pass.skip_preserves (fun hterminal htells => htells.advance hterminal) h hle

/-- A token that has just been asked for is the last one told of. -/
theorem getLast?_log_skip (pass : Pass) (count : Nat) (h : pass.recordsTokens = true) :
    (pass.skip (count + 1)).log.getLast? = some (.token (pass.skip (count + 1)).current) := by
  induction count generalizing pass with
  | zero =>
    rw [Pass.skip, Pass.skip, log_advance, if_pos h, List.getLast?_concat]
  | succ count ih => exact ih pass.advance h

/-- One more declaration is recorded. -/
theorem Keeps.step {phrase left : List Token} {declaration : Declaration}
    (h : Keeps stream read pass) (hrest : pass.rest = phrase ++ left)
    (hphrase : DeclarationPhrase phrase declaration) :
    Keeps stream (read ++ phrase)
      ((pass.skip phrase.length).record (.parsed declaration)) := by
  have htells := @Tells.skip _ _ _ phrase.length h.toTells
    (by rw [hrest, List.length_append]; omega)
  have hdeclarations := declarations_skip pass phrase.length
  rw [hrest, List.take_left] at htells
  refine ⟨⟨htells.split, fun hrecords => ?_, fun hrecords => ?_, ?_⟩, ?_⟩
  · rw [Pass.record, tokens_parsed]
    exact htells.told hrecords
  · refine (htells.timely hrecords).concat ?_
    rintro _ ⟨⟩
    refine ⟨read, phrase, (pass.skip phrase.length).current, htells.told hrecords,
      hdeclarations ▸ h.phrases, hphrase, ?_⟩
    obtain ⟨key, others, rfl⟩ :=
      List.exists_cons_of_ne_nil (Declaration.ne_nil_of_phrase hphrase)
    exact getLast?_log_skip pass others.length ((recordsTokens_skip pass _).symm.trans hrecords)
  · exact List.forall_mem_append.mpr ⟨htells.traces, List.forall_mem_singleton.mpr rfl⟩
  · rw [Pass.record, declarations_parsed, hdeclarations]
    exact h.phrases.append (.one hphrase)

/-- A pass that has completed all that it can has told of it, and what is left begins with no
declaration. -/
theorem Keeps.completing {ahead : List Token} (h : Keeps stream read pass)
    (hrest : pass.rest = ahead) : ∃ read',
    Keeps stream read' (pass.completing (Reading.ofTokens ahead).completed) ∧
      Unfinished (pass.completing (Reading.ofTokens ahead).completed).rest := by
  fun_induction Reading.ofTokens ahead generalizing read pass with
  | case1 =>
    refine ⟨read, h, ?_⟩
    rw [Pass.completing, hrest]
    exact unfinished_nil
  | case2 token rest hopened =>
    refine ⟨read, h, ?_⟩
    rw [Pass.completing, hrest]
    intro front back declaration hsplit hphrase hends
    obtain ⟨item, hitem, -⟩ := exists_run_of_not_unfinished hsplit hphrase hends
    rw [hopened] at hitem
    cases hitem
  | case3 token rest item hopened outcome _ fault =>
    rename_i hfault
    refine ⟨read, h, ?_⟩
    rw [Pass.completing, hrest]
    intro front back declaration hsplit hphrase hends
    obtain ⟨item', hitem, hrun⟩ := exists_run_of_not_unfinished hsplit hphrase hends
    rw [hopened] at hitem
    cases hitem
    simp [outcome, hrun] at hfault
  | case4 token rest item hopened outcome _ declaration hdeclaration =>
    rename_i others ih
    obtain ⟨front, hfront⟩ := item.run_suffix rest
    have hrun : item.run (front ++ outcome.2) = (.ok declaration, outcome.2) := by
      rw [hfront]
      exact Prod.ext hdeclaration rfl
    have hphrase := (Declaration.opened?_recognizes.items hopened).sound hrun
    rw [← hfront, ← List.cons_append] at hrest
    have hcount : pass.rest.length - outcome.2.length = (token :: front).length := by
      rw [hrest, List.length_append, Nat.add_sub_cancel]
    rw [Pass.completing, hcount]
    refine ih (h.step hrest hphrase) ?_
    rw [Pass.rest_record, Pass.rest_skip, hrest, List.drop_left]

end

end EventLog

namespace Reading

theorem completed_ofStream (stream : TokenStream) :
    (ofStream stream).completed = (ofTokens stream.body).completed := by
  rw [ofStream]
  split <;> rfl

end Reading

namespace Pass

/-- The same pass with a record that leaves out the tokens. -/
def erase (pass : Pass) : Pass :=
  { pass with recordsTokens := false, log := pass.log.filter fun event => !event.isToken }

theorem erase_start (recordsTokens : Bool) (source : String) :
    (start recordsTokens source).erase = start false source := by
  cases recordsTokens <;> rfl

theorem erase_advance (pass : Pass) : pass.advance.erase = pass.erase.advance := by
  simp only [advance, look, erase]
  cases pass.recordsTokens <;> simp [Event.isToken]

theorem erase_skip (pass : Pass) (count : Nat) :
    (pass.skip count).erase = pass.erase.skip count := by
  induction count generalizing pass with
  | zero => rfl
  | succ count ih => rw [skip, ih, erase_advance, skip]

theorem erase_record (pass : Pass) {event : Event} (h : event.isToken = false) :
    (pass.record event).erase = pass.erase.record event := by
  simp [record, erase, h]

theorem erase_completing (pass : Pass) (completed : List (Declaration × List Token)) :
    (pass.completing completed).erase = pass.erase.completing completed := by
  induction completed generalizing pass with
  | nil => rfl
  | cons entry others ih =>
    rw [completing, ih, erase_record _ rfl, erase_skip]
    rfl

theorem erase_completed (pass : Pass) : pass.completed.erase = pass.erase.completed :=
  erase_completing _ _

end Pass

/-- Whether tokens are recorded makes no difference to the pass but for their record. -/
theorem Routine.compile_withTokens_false {options : Options} {source : String}
    {result : Except Diagnostic Model} {pass : Pass}
    (h : compile options source = some (result, pass)) :
    compile (options.withTokens false) source = some (result, pass.erase) := by
  obtain ⟨count, hle, hcompile, hleft⟩ := exists_compile_eq options source
  obtain ⟨count', hle', hcompile', hleft'⟩ := exists_compile_eq (options.withTokens false) source
  have hpass : (Pass.start (options.withTokens false).recordsTokens source).completed =
      (Pass.start options.recordsTokens source).completed.erase := by
    rw [Pass.erase_completed, Pass.erase_start]
    rfl
  have hrest : (Pass.start options.recordsTokens source).completed.erase.rest =
      (Pass.start options.recordsTokens source).completed.rest := rfl
  rw [hpass] at hle' hcompile' hleft'
  rw [hrest] at hle' hleft'
  rw [hcompile] at h
  obtain ⟨rfl, rfl⟩ := Prod.mk.inj (Option.some.inj h)
  have hcount : count' = count := by
    cases hfault : (Reading.ofStream (TokenStream.ofSource source)).fault? with
    | none =>
      rw [hfault] at hleft
      rw [hleft, List.length_nil] at hle hle'
      omega
    | some refused =>
      rw [hfault] at hleft hleft'
      have hlength := congrArg List.length (hleft.symm.trans hleft')
      rw [List.length_drop, List.length_drop] at hlength
      omega
  rw [hcompile', hcount, Pass.erase_record, Pass.erase_skip]
  · rfl
  · cases compileWith options source <;> rfl

/-- Options decide what a diagnostic is told of its source, and nothing else. -/
theorem compileWith_eq (options : Options) (source : String) :
    compileWith options source = (compile source).mapError options.locate := by
  rw [compile, compileWith, compileWith]
  cases (Reading.ofStream (TokenStream.ofSource source)).fault? with
  | none => rfl
  | some fault => rfl

namespace EventLog

/-- A pass stops for a diagnostic at the first token with which the text cannot go on. Before it
stand the declarations that were completed, and the beginning of one that was not, if any. -/
structure StopsAt (source : String) (diagnostic : Diagnostic) (completed : List Declaration)
    (before : List Token) (found : Token) : Prop where
  split : ∃ after, (TokenStream.ofSource source).toList = before ++ found :: after
  extendable : Extendable before
  refused : ¬Extendable (before ++ [found])
  line : found.position.line = diagnostic.line
  column : found.position.column = diagnostic.column
  completes : ∃ read begun left, before = read ++ begun ∧
    (TokenStream.ofSource source).body = read ++ (begun ++ left) ∧
      RepeatPhrase DeclarationPhrase read completed ∧ Unfinished (begun ++ left)

/-- The last event, which tells how the pass ended. -/
def Closes (options : Options) (event : Event) : Except Diagnostic Model → Prop
  | .ok model => event.message = "compiled model" ∧ event.fields =
      [("source", .text (options.sourceName.getD "<input>")),
        ("concepts", .number model.concepts.length),
        ("actuators", .number model.actuators.length), ("worlds", .number model.worlds.length)]
  | .error diagnostic => event.message = "compile failed" ∧ event.fields =
      [("source", .text (options.sourceName.getD "<input>")), ("error", .text diagnostic.render)]

theorem closes_outcome (options : Options) (result : Except Diagnostic Model) :
    Closes options (Event.outcome options result) result := by
  cases result <;> exact ⟨rfl, rfl⟩

/-- Where a pass has stopped: these tokens are read as declarations, and of another one these are
begun and those are left. -/
structure StopsWith (options : Options) (source : String) (read begun left : List Token)
    (pass : Pass) : Prop where
  recordsTokens_eq : pass.recordsTokens = options.recordsTokens
  body_eq : (TokenStream.ofSource source).body = read ++ (begun ++ left)
  tells : Tells (TokenStream.ofSource source) (read ++ begun) pass
  phrases : RepeatPhrase DeclarationPhrase read (declarations pass.log)
  unfinished : Unfinished (begun ++ left)
  declarations_eq :
    declarations pass.log = (Reading.ofStream (TokenStream.ofSource source)).declarations
  left_eq : match (Reading.ofStream (TokenStream.ofSource source)).fault? with
    | some (_, rest) => rest = left
    | none => begun ++ left = []

/-- Compiling records the outcome when the pass has stopped, which is at the token at fault, or
where nothing is left. -/
theorem exists_stopsWith (options : Options) (source : String) : ∃ read begun left pass,
    Routine.compile options source = some (compileWith options source,
      pass.record (Event.outcome options (compileWith options source))) ∧
    StopsWith options source read begun left pass := by
  have hstart := Keeps.start options.recordsTokens source
  have hrest : (Pass.start options.recordsTokens source).rest =
      (TokenStream.ofSource source).body := by
    rw [Pass.rest, Pass.ahead_start]
  obtain ⟨count, hle, hcompile, hleft⟩ := Routine.exists_compile_eq options source
  obtain ⟨read, hkeeps, hunfinished⟩ := hstart.completing hrest
  have hdeclarations := declarations_completing (Pass.start options.recordsTokens source)
    (Reading.ofStream (TokenStream.ofSource source)).completed
  have hrecordsTokens := recordsTokens_completing (Pass.start options.recordsTokens source)
    (Reading.ofStream (TokenStream.ofSource source)).completed
  rw [declarations_start, List.nil_append] at hdeclarations
  rw [Pass.completed, Pass.ahead_start] at hle hcompile hleft
  rw [← Reading.completed_ofStream] at hkeeps hunfinished
  generalize (Pass.start options.recordsTokens source).completing _ = pass at *
  have hsplit := List.take_append_drop count pass.rest
  refine ⟨read, pass.rest.take count, pass.rest.drop count, pass.skip count, hcompile,
    (recordsTokens_skip _ _).trans hrecordsTokens, ?_, hkeeps.toTells.skip hle, ?_, by rwa [hsplit],
    ?_, ?_⟩
  · rw [hsplit]
    exact hkeeps.toTells.body_eq
  · rw [declarations_skip]
    exact hkeeps.phrases
  · rw [declarations_skip]
    exact hdeclarations
  · rw [hsplit]
    exact hleft

/-- All that the record of a pass tells of its text. -/
structure Records (options : Options) (source : String) (log : List Event) : Prop where
  token_entries : entries "token" log = (tokens log).map fun token =>
    [("kind", .text token.kind.name), ("text", .text token.text),
      ("line", .number token.position.line), ("column", .number token.position.column)]
  concept_entries : entries "parsed concept" log =
    (Model.ofDeclarations (declarations log)).concepts.map fun concept =>
      [("concept", .text concept.name), ("tags", .number concept.tags.toList.toFinset.card),
        ("slots", .number concept.slots.toList.toFinset.card)]
  actuator_entries : entries "parsed actuator" log =
    (Model.ofDeclarations (declarations log)).actuators.map fun actuator =>
      [("is_root", .flag actuator.isRoot), ("conditions", .number actuator.conditions.length),
        ("interactive", .flag actuator.isInteractive),
        ("actions", .number actuator.actions.length)]
  world_entries : entries "parsed world" log =
    (Model.ofDeclarations (declarations log)).worlds.map fun world =>
      [("world", .text world.name), ("objects", .number world.objects.length),
        ("bindings", .number world.bindings.length)]
  completed : ∀ model, compileWith options source = .ok model →
    model = Model.ofDeclarations (declarations log) ∧
      RepeatPhrase DeclarationPhrase (TokenStream.ofSource source).body (declarations log) ∧
        (∀ token ∈ (TokenStream.ofSource source).body, token.isTerminal = false) ∧
          (TokenStream.ofSource source).last.isEndOfInput = true ∧
            (options.recordsTokens = true → tokens log = (TokenStream.ofSource source).toList)
  stopped : ∀ diagnostic, compileWith options source = .error diagnostic → ∃ before found,
    StopsAt source diagnostic (declarations log) before found ∧
      (options.recordsTokens = true → tokens log = before ++ [found])
  timely : options.recordsTokens = true → Timely log
  closed : ∃ events last, log = events ++ [last] ∧ (∀ event ∈ events, event.level = .trace) ∧
    last.level = .debug ∧ Closes options last (compileWith options source)
  erased : (Routine.compile (options.withTokens false) source).map (fun ended => ended.2.log) =
    some (log.filter fun event => !event.isToken)

section

variable {options : Options} {source : String} {read begun left : List Token} {pass : Pass}

/-- A pass that ends well has completed the declarations of the model and told of every token. -/
theorem StopsWith.of_ok {model : Model} (h : StopsWith options source read begun left pass)
    (hcompile : compile source = .ok model) :
    model = Model.ofDeclarations (declarations pass.log) ∧
      RepeatPhrase DeclarationPhrase (TokenStream.ofSource source).body (declarations pass.log) ∧
        (pass.recordsTokens = true → tokens pass.log = (TokenStream.ofSource source).toList) := by
  have hfault := h.left_eq
  rw [compile, compileWith] at hcompile
  cases hnone : (Reading.ofStream (TokenStream.ofSource source)).fault? with
  | some fault =>
    rw [hnone] at hcompile
    cases hcompile
  | none =>
    rw [hnone] at hcompile hfault
    obtain rfl := Except.ok.inj hcompile
    obtain ⟨rfl, rfl⟩ := List.append_eq_nil_iff.mp hfault
    have hbody : (TokenStream.ofSource source).body = read := by
      rw [h.body_eq, List.append_nil, List.append_nil]
    refine ⟨by rw [h.declarations_eq], hbody ▸ h.phrases, fun hrecords => ?_⟩
    obtain ⟨after, hafter⟩ := h.tells.exists_split
    have hafter' := hafter
    rw [List.append_nil, TokenStream.toList, hbody] at hafter'
    obtain ⟨-, rfl⟩ := List.cons.inj (List.append_cancel_left hafter')
    rw [hafter]
    exact h.tells.told hrecords

theorem StopsWith.of_error {diagnostic : Diagnostic}
    (h : StopsWith options source read begun left pass)
    (hcompile : compile source = .error diagnostic) :
    StopsAt source diagnostic (declarations pass.log) (read ++ begun) pass.current := by
  have hfault := h.left_eq
  obtain ⟨before, found, after, hsplit, hbefore, hfound, hreports⟩ := exists_first_fault hcompile
  rw [compile, compileWith] at hcompile
  cases hsome : (Reading.ofStream (TokenStream.ofSource source)).fault? with
  | none =>
    rw [hsome] at hcompile
    cases hcompile
  | some refused =>
    obtain ⟨fault, rest⟩ := refused
    rw [hsome] at hcompile hfault
    obtain rfl : rest = left := hfault
    obtain rfl := Except.error.inj hcompile
    have hbody : (TokenStream.ofSource source).body = read ++ begun ++ rest := by
      rw [h.body_eq, List.append_assoc]
    obtain ⟨after', hsplit'⟩ := TokenStream.toList_eq_lookahead hbody
    obtain ⟨hline, hcolumn⟩ := Diagnostic.line_ofFault source fault
      ((TokenStream.ofSource source).lookahead rest)
    obtain ⟨rfl, rfl⟩ := TokenStream.split_unique hsplit hsplit' (hline.symm.trans hreports.line)
      (hcolumn.symm.trans hreports.column)
    obtain ⟨after'', hcurrent⟩ := h.tells.exists_split
    obtain ⟨hsame, -⟩ := List.cons.inj (List.append_cancel_left (hsplit.symm.trans hcurrent))
    rw [← hsame]
    exact ⟨⟨_, hsplit⟩, hbefore, hfound, hline.symm, hcolumn.symm, read, begun, rest, rfl,
      h.body_eq, h.phrases, h.unfinished⟩

end

end EventLog

/-- The record that compiling leaves tells all of the pass, and nothing else. -/
theorem Routine.compile_records (options : Options) (source : String) : ∃ pass,
    compile options source = some (compileWith options source, pass) ∧
      EventLog.Records options source pass.log := by
  obtain ⟨read, begun, left, pass, hcompile, hstops⟩ :=
    EventLog.exists_stopsWith options source
  refine ⟨_, hcompile, EventLog.entries_token _, EventLog.entries_concept _,
    EventLog.entries_actuator _, EventLog.entries_world _, ?_, ?_, ?_, ?_, ?_⟩
  · intro model hmodel
    rw [compileWith_eq] at hmodel
    cases hresult : TagGraph.compile source with
    | error diagnostic =>
      rw [hresult] at hmodel
      cases hmodel
    | ok model' =>
      rw [hresult] at hmodel
      obtain rfl := Except.ok.inj hmodel
      obtain ⟨hdeclarations, hphrases, htokens⟩ := hstops.of_ok hresult
      rw [Pass.record, EventLog.declarations_outcome, EventLog.tokens_outcome]
      refine ⟨hdeclarations, hphrases, fun _ => TokenStream.isTerminal_of_mem_body,
        (compile_eq_ok_iff_run.mp hresult).1, fun hrecords => ?_⟩
      exact htokens (hstops.recordsTokens_eq.trans hrecords)
  · intro diagnostic hdiagnostic
    rw [compileWith_eq] at hdiagnostic
    cases hresult : TagGraph.compile source with
    | ok model =>
      rw [hresult] at hdiagnostic
      cases hdiagnostic
    | error diagnostic' =>
      rw [hresult] at hdiagnostic
      obtain rfl := Except.error.inj hdiagnostic
      obtain ⟨hline, hcolumn⟩ := Diagnostic.line_locate options diagnostic'
      have hat := hstops.of_error hresult
      rw [Pass.record, EventLog.declarations_outcome, EventLog.tokens_outcome]
      refine ⟨_, _, { hat with
        line := hat.line.trans hline.symm
        column := hat.column.trans hcolumn.symm }, fun hrecords => ?_⟩
      exact hstops.tells.told (hstops.recordsTokens_eq.trans hrecords)
  · intro hrecords
    refine (hstops.tells.timely (hstops.recordsTokens_eq.trans hrecords)).concat ?_
    cases compileWith options source <;> nofun
  · refine ⟨pass.log, _, rfl, hstops.tells.traces, ?_, EventLog.closes_outcome options _⟩
    cases compileWith options source <;> rfl
  · rw [Routine.compile_withTokens_false hcompile]
    rfl

end TagGraph
