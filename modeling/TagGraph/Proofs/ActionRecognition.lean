import TagGraph.ActuatorGrammar
import TagGraph.Proofs.Recognition

/-!
The reader of actions recognizes action phrases. After `IN` the next token alone decides whether an
object is named there or this one is meant: no address begins with a keyword that opens a change.
-/

namespace TagGraph

open TagGraph.Parser

namespace Address

theorem slotParser_recognizes : Recognizes slotParser SlotPhrase
    (fun token => token.isOperator '.' = true) :=
  ((recognizes_name .slot).optional Token.writable_dot Token.isOperator_dot).mono
    fun _ h => h.resolve_left id

theorem contextWord_unique {token : Token} {context context' : Context}
    (h : ContextWord token context) (h' : ContextWord token context') : context = context' := by
  cases h with
  | this h => cases h' <;> simp_all [Token.isKeyword_of_isKeyword h]
  | root h => cases h' <;> simp_all [Token.isKeyword_of_isKeyword h]
  | other h => cases h' <;> simp_all [Token.isKeyword_of_isKeyword h]

theorem kind_of_contextWord {token : Token} {context : Context} (h : ContextWord token context) :
    token.kind = .keyword := by
  cases h with
  | this h => exact Token.kind_of_isKeyword h
  | root h => exact Token.kind_of_isKeyword h
  | other h => exact Token.kind_of_isKeyword h

/-- After the word for a context an address is that context, with or without a slot. -/
theorem recognizes_afterContext {implied context : Context} {token : Token}
    (hcontext : ContextWord token context) : Recognizes (Address.mk context <$> slotParser)
      (fun tokens => AddressPhrase implied (token :: tokens))
      (fun token => token.isOperator '.' = true) := by
  refine (slotParser_recognizes.map (Address.mk context)).congr ?_ fun _ => id
  intro tokens address
  constructor
  · intro h
    obtain ⟨slot, hslot, rfl⟩ := h
    exact .context hcontext hslot
  · intro hread
    cases hread with
    | context hcontext' hslot => exact ⟨_, hslot, by rw [contextWord_unique hcontext hcontext']⟩
    | bare hname => simp [kind_of_contextWord hcontext] at hname

theorem recognizes_bare {implied : Context} {token : Token} (hname : token.kind = .identifier) :
    Recognizes (pure ⟨implied, some token.text⟩)
      (fun tokens => AddressPhrase implied (token :: tokens))
      (fun token => token.isOperator '.' = true) := by
  refine (recognizes_pure (⟨implied, some token.text⟩ : Address) _).congr ?_ fun _ => id
  intro tokens address
  constructor
  · intro h
    obtain ⟨rfl, rfl⟩ := h
    exact .bare hname
  · intro hread
    cases hread with
    | context hcontext _ => simp [kind_of_contextWord hcontext] at hname
    | bare _ => exact ⟨rfl, rfl⟩

theorem parser_recognizes (implied : Context) : Recognizes (parser implied)
    (AddressPhrase implied) (fun token => token.isOperator '.' = true) := by
  refine RecognizesTable.require ⟨?_, ?_, nofun, ?_⟩ .address
  · intro token item hitem
    split at hitem
    · next hthis => exact Option.some.inj hitem ▸ recognizes_afterContext (.this hthis)
    split at hitem
    · next hroot => exact Option.some.inj hitem ▸ recognizes_afterContext (.root hroot)
    split at hitem
    · next hother => exact Option.some.inj hitem ▸ recognizes_afterContext (.other hother)
    split at hitem
    · next hname => exact Option.some.inj hitem ▸ recognizes_bare hname
    · cases hitem
  · intro token tokens address hread
    cases hread with
    | context hcontext _ =>
      rcases hcontext with h | h | h <;> simp [Token.isKeyword_of_isKeyword h]
    | bare hname => simp [Token.isKeyword_of_identifier hname, hname]
  · exact ⟨[Token.ofKeyword .THIS], ⟨.this, none⟩, by simp [Token.writable_ofKeyword],
      .context (.this (by simp)) .none⟩

theorem parser_local (implied : Context) : Local (parser implied) := by
  refine LocalTable.require ⟨.intro fun _ _ _ _ => rfl, ?_⟩ .address
  have hslot : Local slotParser :=
    ((local_name .slot).opened (.intro fun _ _ _ _ => rfl)).optional
  intro token item hitem
  split at hitem
  · exact Option.some.inj hitem ▸ hslot.map _
  split at hitem
  · exact Option.some.inj hitem ▸ hslot.map _
  split at hitem
  · exact Option.some.inj hitem ▸ hslot.map _
  split at hitem
  · exact Option.some.inj hitem ▸ local_pure _
  · cases hitem

end Address

namespace Action

/-- The tokens that go on with an action. -/
def Continues (token : Token) : Prop :=
  token.isOperator ',' = true ∨ token.isOperator '.' = true

theorem setPhrase_iff {subject : Address} {key : Token} (hkey : key.isKeyword .SET = true)
    {tokens : List Token} {action : Action} : ChangePhrase subject (key :: tokens) action ↔
      ∃ names, NamesPhrase tokens names ∧ action = .tags ⟨names, false, subject⟩ := by
  constructor
  · intro hread
    cases hread with
    | set _ hnames => exact ⟨_, hnames, rfl⟩
    | unset hkey' _ => simp [Token.isKeyword_of_isKeyword hkey'] at hkey
    | bind hkey' _ _ _ => simp [Token.isKeyword_of_isKeyword hkey'] at hkey
  · intro h
    obtain ⟨names, hnames, haction⟩ := h
    exact haction ▸ .set hkey hnames

theorem unsetPhrase_iff {subject : Address} {key : Token} (hkey : key.isKeyword .UNSET = true)
    {tokens : List Token} {action : Action} : ChangePhrase subject (key :: tokens) action ↔
      ∃ names, NamesPhrase tokens names ∧ action = .tags ⟨names, true, subject⟩ := by
  constructor
  · intro hread
    cases hread with
    | set hkey' _ => simp [Token.isKeyword_of_isKeyword hkey'] at hkey
    | unset _ hnames => exact ⟨_, hnames, rfl⟩
    | bind hkey' _ _ _ => simp [Token.isKeyword_of_isKeyword hkey'] at hkey
  · intro h
    obtain ⟨names, hnames, haction⟩ := h
    exact haction ▸ .unset hkey hnames

theorem bindPhrase_iff {subject : Address} {key : Token} (hkey : key.isKeyword .BIND = true)
    {tokens : List Token} {action : Action} : ChangePhrase subject (key :: tokens) action ↔
      SeqPhrase NamePhrase (fun slot => SeqPhrase
        (TokenPhrase (fun token => token.isKeyword .TO = true) fun _ => ())
        fun _ tokens action => ∃ target, AddressPhrase subject.context tokens target ∧
          action = .bind ⟨slot, target, subject⟩) tokens action := by
  constructor
  · intro hread
    cases hread with
    | set hkey' _ => simp [Token.isKeyword_of_isKeyword hkey'] at hkey
    | unset hkey' _ => simp [Token.isKeyword_of_isKeyword hkey'] at hkey
    | bind _ hslot hto htarget =>
      exact ⟨[_], _, _, rfl, .intro hslot, [_], _, (), rfl, ⟨_, rfl, hto, rfl⟩, _, htarget, rfl⟩
  · intro h
    obtain ⟨_, _, slot, htokens, hslot, _, _, _, hback, ⟨toKey, hto, htoKey, _⟩, target, htarget,
      haction⟩ := h
    cases hslot with
    | intro hslot =>
      subst hback hto htokens haction
      exact .bind hkey hslot htoKey htarget

theorem change?_recognizes (subject : Address) :
    RecognizesTable (change? subject) (ChangePhrase subject) Continues where
  items {token item} hitem := by
    unfold change? at hitem
    split at hitem
    · next hset =>
      exact Option.some.inj hitem ▸ ((recognizes_names .tag).map _).congr
        (fun _ _ => (setPhrase_iff hset).symm) fun _ => Or.inl
    split at hitem
    · next hunset =>
      exact Option.some.inj hitem ▸ ((recognizes_names .tag).map _).congr
        (fun _ _ => (unsetPhrase_iff hunset).symm) fun _ => Or.inl
    split at hitem
    · next hbind =>
      have hall := (recognizes_name .slot).bind (fun slot => (recognizes_keyword .TO).bind
        (fun _ => (Address.parser_recognizes subject.context).map fun target =>
          Action.bind ⟨slot, target, subject⟩) (fun _ => id) (fun _ _ => False.elim))
        (fun _ => id) (fun _ _ => False.elim)
      exact Option.some.inj hitem ▸ hall.congr
        (fun _ _ => (bindPhrase_iff hbind).symm) fun _ => Or.inr
    · cases hitem
  opens hread := by
    cases hread with
    | set hkey _ => simp [change?, hkey]
    | unset hkey _ => simp [change?, Token.isKeyword_of_isKeyword hkey]
    | bind hkey _ _ _ => simp [change?, Token.isKeyword_of_isKeyword hkey]
  nonempty := nofun
  inhabited := by
    obtain ⟨ending, names, hending, hread⟩ := (recognizes_names .tag).inhabited
    refine ⟨Token.ofKeyword .SET :: ending, .tags ⟨names, false, subject⟩, ?_, .set (by simp) hread⟩
    simpa [Token.writable_ofKeyword] using hending

theorem change?_local (subject : Address) : LocalTable (change? subject) where
  congr := .intro fun _ _ _ _ => rfl
  items token item hitem := by
    unfold change? at hitem
    split at hitem
    · exact Option.some.inj hitem ▸ (local_name .tag).commaSeparated.bind fun _ => local_pure _
    split at hitem
    · exact Option.some.inj hitem ▸ (local_name .tag).commaSeparated.bind fun _ => local_pure _
    split at hitem
    · exact Option.some.inj hitem ▸ (local_name .slot).bind fun _ => (local_keyword .TO).bind
        fun _ => (Address.parser_local _).bind fun _ => local_pure _
    · cases hitem

/-- What `IN` opens: a change of this object, or the address of another one and its change. -/
def afterIn : Parser Action :=
  branch (change? Address.this) (Address.parser .this >>= fun object =>
    require .action (change? object))

theorem run_subject (tokens : List Token) : subject.run tokens =
    if tokens.head?.any fun token => (change? Address.this token).isSome then
      (.ok Address.this, tokens)
    else (Address.parser .this).run tokens := by
  have hnext : (nextIs fun token => (change? Address.this token).isSome).run tokens =
      (.ok (tokens.head?.any fun token => (change? Address.this token).isSome), tokens) := rfl
  rw [subject, run_bind_of_ok hnext]
  split <;> rfl

/-- The choice that is made by looking at the next token may as well be made by reading it. -/
theorem subject_bind_eq :
    (subject >>= fun object => require .action (change? object)) = afterIn := by
  ext1
  funext tokens
  cases tokens with
  | nil => rfl
  | cons token rest =>
    cases hchoice : change? Address.this token with
    | none =>
      rw [afterIn, run_branch_of_none hchoice, run_bind, run_bind, bindRun, bindRun, run_subject]
      simp [hchoice]
    | some item =>
      have hsubject : subject.run (token :: rest) = (.ok Address.this, token :: rest) := by
        simp [run_subject, hchoice]
      rw [afterIn, run_branch_of_some hchoice, run_bind_of_ok hsubject, require,
        run_branch_of_some hchoice]

/-- A token that opens a change is neither the word for a context nor a name. -/
theorem change?_of_address {implied : Context} {token : Token} {rest : List Token}
    {address subject : Address} (h : AddressPhrase implied (token :: rest) address) :
    change? subject token = none := by
  cases h with
  | context hcontext _ =>
    cases hcontext with
    | this h => simp [change?, Token.isKeyword_of_isKeyword h]
    | root h => simp [change?, Token.isKeyword_of_isKeyword h]
    | other h => simp [change?, Token.isKeyword_of_isKeyword h]
  | bare hname => simp [change?, Token.isKeyword_of_identifier hname]

theorem change?_of_dot {token : Token} (h : token.isOperator '.' = true) (subject : Address) :
    change? subject token = none := by
  simp [change?, Token.isKeyword_of_isOperator h]

theorem afterIn_recognizes : Recognizes afterIn
    (fun tokens action => ChangePhrase Address.this tokens action ∨
      SeqPhrase (AddressPhrase .this) ChangePhrase tokens action) Continues := by
  have hother : Recognizes (Address.parser .this >>= fun object => require .action (change? object))
      (SeqPhrase (AddressPhrase .this) ChangePhrase) Continues := by
    refine (Address.parser_recognizes .this).bind
      (fun object => (change?_recognizes object).require .action) ?_ ?_
    · intro object token back action hchange hdot
      have hopens := (change?_recognizes object).opens hchange
      simp [change?_of_dot hdot] at hopens
    · intro object action hnil
      exact absurd hnil (change?_recognizes object).nonempty
  refine (change?_recognizes Address.this).branch hother ?_ ?_
  · intro token tokens action hread
    rcases hread.head with ⟨front, object, haddress⟩ | ⟨object, hnil, -⟩
    · exact change?_of_address haddress
    · cases hnil
  · intro action token hread
    obtain ⟨object, hnil, -⟩ := hread.of_nil
    cases hnil

theorem afterIn_local : Local afterIn :=
  (change?_local Address.this).branch ((Address.parser_local .this).bind fun object =>
    (change?_local object).require .action)

theorem opened?_of_in {key : Token} (hkey : key.isKeyword .IN = true) :
    opened? key = some afterIn := by
  simp only [opened?, Token.isKeyword_of_isKeyword hkey, ← subject_bind_eq]
  rfl

theorem actionPhrase_nothing {key : Token} (hkey : key.isKeyword .NOTHING = true)
    {tokens : List Token} {action : Action} :
    ActionPhrase (key :: tokens) action ↔ tokens = [] ∧ action = .nothing := by
  constructor
  · intro hread
    generalize hall : key :: tokens = all at hread
    cases hread with
    | nothing _ => exact ⟨(List.cons.inj hall).2, rfl⟩
    | change hsubject hchange =>
      cases hsubject with
      | absent =>
        rw [List.nil_append] at hall
        have hopens := (change?_recognizes Address.this).opens (hall.symm ▸ hchange)
        simp [change?, Token.isKeyword_of_isKeyword hkey] at hopens
      | bare hin =>
        obtain ⟨rfl, -⟩ := List.cons.inj hall
        simp [Token.isKeyword_of_isKeyword hkey] at hin
      | address hin _ =>
        obtain ⟨rfl, -⟩ := List.cons.inj hall
        simp [Token.isKeyword_of_isKeyword hkey] at hin
  · intro h
    obtain ⟨htokens, haction⟩ := h
    exact htokens ▸ haction ▸ .nothing hkey

theorem actionPhrase_in {key : Token} (hkey : key.isKeyword .IN = true) {tokens : List Token}
    {action : Action} : ActionPhrase (key :: tokens) action ↔
      ChangePhrase Address.this tokens action ∨
        SeqPhrase (AddressPhrase .this) ChangePhrase tokens action := by
  constructor
  · intro hread
    generalize hall : key :: tokens = all at hread
    cases hread with
    | nothing hnothing =>
      obtain ⟨rfl, -⟩ := List.cons.inj hall
      simp [Token.isKeyword_of_isKeyword hkey] at hnothing
    | change hsubject hchange =>
      cases hsubject with
      | absent =>
        rw [List.nil_append] at hall
        have hopens := (change?_recognizes Address.this).opens (hall.symm ▸ hchange)
        simp [change?, Token.isKeyword_of_isKeyword hkey] at hopens
      | bare _ => exact Or.inl ((List.cons.inj hall).2 ▸ hchange)
      | address _ haddress => exact Or.inr ⟨_, _, _, (List.cons.inj hall).2, haddress, hchange⟩
  · intro hread
    rcases hread with hchange | ⟨front, back, object, htokens, haddress, hchange⟩
    · exact .change (.bare hkey) hchange
    · subst htokens
      exact .change (.address hkey haddress) hchange

theorem actionPhrase_change {key : Token} (hnothing : ¬key.isKeyword .NOTHING = true)
    (hin : ¬key.isKeyword .IN = true) {tokens : List Token} {action : Action} :
    ActionPhrase (key :: tokens) action ↔ ChangePhrase Address.this (key :: tokens) action := by
  constructor
  · intro hread
    generalize hall : key :: tokens = all at hread
    cases hread with
    | nothing hkey => exact absurd ((List.cons.inj hall).1 ▸ hkey) hnothing
    | change hsubject hchange =>
      cases hsubject with
      | absent =>
        rw [List.nil_append] at hall
        exact hall.symm ▸ hchange
      | bare hkey => exact absurd ((List.cons.inj hall).1 ▸ hkey) hin
      | address hkey _ => exact absurd ((List.cons.inj hall).1 ▸ hkey) hin
  · exact .change .absent

theorem not_actionPhrase_nil {action : Action} : ¬ActionPhrase [] action := by
  intro hread
  generalize hall : [] = all at hread
  cases hread with
  | nothing _ => cases hall
  | change _ hchange =>
    obtain ⟨-, rfl⟩ := List.append_eq_nil_iff.mp hall.symm
    exact (change?_recognizes _).nonempty hchange

theorem opened?_recognizes : RecognizesTable opened? ActionPhrase Continues where
  items {token item} hitem := by
    by_cases hin : token.isKeyword .IN = true
    · rw [opened?_of_in hin] at hitem
      exact Option.some.inj hitem ▸ afterIn_recognizes.congr
        (fun _ _ => (actionPhrase_in hin).symm) fun _ => id
    by_cases hnothing : token.isKeyword .NOTHING = true
    · have hpure : pure nothing = item := by simpa [opened?, hnothing] using hitem
      exact hpure ▸ (recognizes_pure nothing _).congr
        (fun _ _ => (actionPhrase_nothing hnothing).symm) fun _ => id
    · have hchange : change? Address.this token = some item := by
        simpa [opened?, hin, hnothing] using hitem
      exact ((change?_recognizes Address.this).items hchange).congr
        (fun _ _ => (actionPhrase_change hnothing hin).symm) fun _ => id
  opens {token tokens action} hread := by
    by_cases hin : token.isKeyword .IN = true
    · simp [opened?_of_in hin]
    by_cases hnothing : token.isKeyword .NOTHING = true
    · simp [opened?, hnothing]
    · have hopens := (change?_recognizes Address.this).opens
        ((actionPhrase_change hnothing hin).mp hread)
      simpa [opened?, hin, hnothing] using hopens
  nonempty := not_actionPhrase_nil
  inhabited := by
    refine ⟨[Token.ofKeyword .NOTHING], nothing, ?_, .nothing (by simp)⟩
    simp [Token.writable_ofKeyword]

theorem opened?_local : LocalTable opened? where
  congr := .intro fun _ _ _ _ => rfl
  items token item hitem := by
    by_cases hin : token.isKeyword .IN = true
    · rw [opened?_of_in hin] at hitem
      exact Option.some.inj hitem ▸ afterIn_local
    by_cases hnothing : token.isKeyword .NOTHING = true
    · have hpure : pure nothing = item := by simpa [opened?, hnothing] using hitem
      exact hpure ▸ local_pure nothing
    · have hchange : change? Address.this token = some item := by
        simpa [opened?, hin, hnothing] using hitem
      exact (change?_local Address.this).items token item hchange

/-- A token that goes on with an action does not open another one. -/
theorem opened?_of_continues {token : Token} (h : Continues token) : opened? token = none := by
  rcases h with hcomma | hdot
  · simp [opened?, change?, Token.isKeyword_of_isOperator hcomma]
  · simp [opened?, change?, Token.isKeyword_of_isOperator hdot]

end Action

end TagGraph
